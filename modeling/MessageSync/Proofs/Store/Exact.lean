import MessageSync.Proofs.Store.Origin
import MessageSync.Proofs.Store.Outgoing

/-!
# Exact statuses

The statuses of the messages for a contact are exact (`Memory.Exact`) if they tell which
messages are in outstanding batches, and which were in batches that the contact
acknowledged. `Memory.Upholds` lists what a change must not do to keep them exact.
-/

namespace MessageSync.Memory

variable {s : Memory} {c : ContactId}

/-! ## Contacts that are gone -/

/-- A contact was removed. Its number is not used again. -/
def Gone (s : Memory) (c : ContactId) : Prop := c ∉ s.contacts ∧ c.number < s.nextContact

/-- Replacing what is kept about a contact brings none back. -/
lemma Gone.insert (h : s.Gone c) {c' : ContactId} {r : ContactRecord}
    (hr : s.contacts[c']? = some r) (r' : ContactRecord) : c ∉ s.contacts.insert c' r' := by
  rw [Std.ExtTreeMap.mem_insert, not_or]
  refine ⟨fun heq => ?_, h.1⟩
  rw [← Std.LawfulEqOrd.eq_of_compare heq] at h
  exact h.1 (Table.mem_of_getElem? hr)

/-- A contact that is gone stays gone. -/
lemma Gone.change (h : s.Gone c) (x : Change) : (s.change x).Gone c := by
  by_cases hpart : .contacts ∈ x.parts
  · cases x with
    | addContact _ =>
      -- the new contact has a number that is larger
      have hlt := h.2
      refine ⟨fun hmem => ?_, Nat.lt_succ_of_lt hlt⟩
      change c ∈ s.contacts.insert ⟨s.nextContact⟩ _ at hmem
      rw [Std.ExtTreeMap.mem_insert] at hmem
      rcases hmem with heq | hmem
      · rw [← Std.LawfulEqOrd.eq_of_compare heq] at hlt
        exact absurd hlt (Nat.lt_irrefl _)
      · exact h.1 hmem
    | removeContact _ => exact ⟨fun hmem => h.1 (Std.ExtTreeMap.mem_of_mem_erase hmem), h.2⟩
    | share c' groups timestamp =>
      simp only [Memory.change, setSubscriptions]
      split
      · exact h
      · next r hr =>
        split
        · exact h
        · exact ⟨h.insert hr _, h.2⟩
    | setTransports c' transports timestamp =>
      simp only [Memory.change, setTransports]
      split
      · exact h
      · next r hr =>
        split
        · exact h
        · exact ⟨h.insert hr _, h.2⟩
    | _ => simp [Change.parts] at hpart
  · obtain ⟨hcontacts, hnext⟩ := contacts_change (s := s) hpart
    unfold Gone
    rw [hcontacts, hnext]
    exact h

/-! ## Exact statuses -/

/-- The statuses of the messages for a contact tell which are in outstanding batches, and
which were in batches that it acknowledged. -/
structure Exact (s : Memory) (c : ContactId) (acked : MessageId → Prop) : Prop where
  disjoint : ∀ (b b' : BatchId) (r r' : SentRecord) (id : MessageId), s.sentBatch c b = some r →
    s.sentBatch c b' = some r' → id ∈ r.messages → id ∈ r'.messages → b = b'
  sent : ∀ id, s.status c id = some .sent ↔ s.Outgoing c id
  acked_of_seen : ∀ id, s.status c id = some .seen → acked id
  seen_of_acked : ∀ id, acked id → s.status c id = some .seen ∨ s.Gone c

/-- Whether a change neither comes of the contact showing a message, nor takes one from its
sight, nor replaces an outstanding batch by another. -/
structure Upholds (s : Memory) (c : ContactId) (x : Change) : Prop where
  untold : ∀ id, ¬ x.Tells c id
  kept : x.Hides → ∀ id, (s.status c id).isSome → ((s.change x).status c id).isSome
  fresh : ∀ b messages sentAt, x = .send c b messages sentAt → s.sentBatch c b = none

namespace Exact

variable {acked : MessageId → Prop}

lemma apart (h : s.Exact c acked) : s.Apart c where
  disjoint := h.disjoint
  taken := by
    intro id hid hnew
    rw [(h.sent id).mpr hid] at hnew
    cases hnew

lemma of_not_about (h : s.Exact c acked) (hs : s.Consistent) {x : Change}
    (habout : ¬ x.About c) (hup : s.Upholds c x) : (s.change x).Exact c acked := by
  have hbatch := sentBatch_change (s := s) habout
  have hgone (h : s.Gone c) : (s.change x).Gone c := h.change x
  -- a status stays as it is, or a message that is new comes into sight
  have heffect (id : MessageId) : (s.change x).status c id = s.status c id ∨
      s.status c id = none ∧ (s.change x).status c id = some .new := by
    have heffect := effect_change hs habout id
    have hkept := fun hx => hup.kept hx id
    generalize (s.change x).status c id = new at heffect hkept ⊢
    generalize s.status c id = old at heffect hkept ⊢
    cases heffect with
    | same => exact .inl rfl
    | hidden _ hides =>
      cases old with
      | none => exact .inl rfl
      | some _ => cases hkept hides rfl
    | shown _ => exact .inr ⟨rfl, rfl⟩
    | told _ hx => exact absurd hx (hup.untold id)
  constructor
  · simp only [hbatch]
    exact h.disjoint
  · intro id
    rw [outgoing_of_eq hbatch, ← h.sent]
    rcases heffect id with heq | ⟨hnone, hnew⟩
    · rw [heq]
    · rw [hnone, hnew]
      simp
  · intro id hseen
    rcases heffect id with heq | ⟨-, hnew⟩
    · exact h.acked_of_seen id (heq ▸ hseen)
    · rw [hnew] at hseen
      cases hseen
  · intro id hid
    rcases h.seen_of_acked id hid with hseen | hg
    · rcases heffect id with heq | ⟨hnone, -⟩
      · exact .inl (heq.trans hseen)
      · rw [hnone] at hseen
        cases hseen
    · exact .inr (hgone hg)

lemma send (h : s.Exact c acked) {b : BatchId} {messages : List MessageId} {sentAt : Int64}
    (hmay : ∀ id ∈ messages, s.MaySend c id) (hfresh : s.sentBatch c b = none) :
    (s.change (.send c b messages sentAt)).Exact c acked := by
  have houtgoing (id : MessageId) : (s.change (.send c b messages sentAt)).Outgoing c id ↔
      id ∈ messages ∨ s.Outgoing c id := by
    simp only [Outgoing, sentBatch_send]
    constructor
    · rintro ⟨b', r, hr, hid⟩
      split at hr
      · rw [← Option.some.inj hr] at hid
        exact .inl hid
      · exact .inr ⟨b', r, hr, hid⟩
    · rintro (hid | ⟨b', r, hr, hid⟩)
      · exact ⟨b, _, if_pos rfl, hid⟩
      · have hne : b' ≠ b := by
          rintro rfl
          rw [hfresh] at hr
          cases hr
        exact ⟨b', r, (if_neg hne).trans hr, hid⟩
  -- nothing that is sent was seen before
  have hseen (id : MessageId) : (s.change (.send c b messages sentAt)).status c id = some .seen ↔
      s.status c id = some .seen := by
    rw [status_send hmay]
    split
    · next hid =>
      rw [(hmay id hid).status]
      simp
    · rfl
  constructor
  · exact (h.apart.send hmay).disjoint
  · intro id
    rw [houtgoing, ← h.sent, status_send hmay]
    by_cases hid : id ∈ messages <;> simp [hid]
  · intro id hid
    exact h.acked_of_seen id ((hseen id).mp hid)
  · intro id hid
    exact (h.seen_of_acked id hid).imp (hseen id).mpr (·.change _)

/-- A batch goes away, and with it the messages in it. -/
lemma outgoing_erase {s' : Memory} (h : s.Exact c acked) {b : BatchId} {r : SentRecord}
    (hr : s.sentBatch c b = some r)
    (hbatch : ∀ b', s'.sentBatch c b' = if b' = b then none else s.sentBatch c b')
    (id : MessageId) : s'.Outgoing c id ↔ s.Outgoing c id ∧ id ∉ r.messages := by
  simp only [Outgoing, hbatch]
  constructor
  · rintro ⟨b', r', hr', hid⟩
    split at hr'
    · cases hr'
    · next hne =>
      exact ⟨⟨b', r', hr', hid⟩, fun hmem => hne (h.disjoint b' b r' r id hr' hr hid hmem)⟩
  · rintro ⟨⟨b', r', hr', hid⟩, hnot⟩
    refine ⟨b', r', (if_neg ?_).trans hr', hid⟩
    rintro rfl
    rw [hr] at hr'
    rw [Option.some.inj hr'] at hnot
    exact hnot hid

lemma ack (h : s.Exact c acked) (b : BatchId) :
    (s.change (.ack c b)).Exact c fun id => acked id ∨ s.AckedBy c (.ack c b) id := by
  cases hr : s.sentBatch c b with
  | none =>
    have hnot (id : MessageId) : ¬ s.AckedBy c (.ack c b) id := by
      rintro ⟨b', r, heq, hr', -⟩
      obtain ⟨-, rfl⟩ := Change.ack.inj heq
      rw [hr] at hr'
      cases hr'
    rw [change_ack_of_none hr]
    simpa only [hnot, or_false] using h
  | some r =>
    -- the ack is of the messages in the record, which all count as sent until then
    have hby (id : MessageId) : s.AckedBy c (.ack c b) id ↔ id ∈ r.messages := by
      constructor
      · rintro ⟨b', r', heq, hr', hid⟩
        obtain ⟨-, rfl⟩ := Change.ack.inj heq
        rw [hr] at hr'
        rw [Option.some.inj hr']
        exact hid
      · exact fun hid => ⟨b, r, rfl, hr, hid⟩
    have hsent (id : MessageId) (hid : id ∈ r.messages) : s.status c id = some .sent :=
      (h.sent id).mpr ⟨b, r, hr, hid⟩
    constructor
    · exact (h.apart.ack b).disjoint
    · intro id
      rw [h.outgoing_erase hr (sentBatch_ack b), ← h.sent, status_ack hr]
      by_cases hid : id ∈ r.messages
      · simp [hid, hsent id hid]
      · simp [hid]
    · intro id hseen
      rw [status_ack hr] at hseen
      split at hseen
      · next hid => exact .inr ((hby id).mpr hid)
      · exact .inl (h.acked_of_seen id hseen)
    · intro id hid
      rw [hby] at hid
      rw [status_ack hr]
      by_cases hmem : id ∈ r.messages
      · simp [hmem, hsent id hmem]
      · rw [if_neg hmem]
        exact (h.seen_of_acked id (hid.resolve_right hmem)).imp_right (·.change _)

lemma lose (h : s.Exact c acked) (b : BatchId) (cutoff : Int64) :
    (s.change (.lose c b cutoff)).Exact c acked := by
  rcases s.lose_cases c b cutoff with ⟨r, hr, hat⟩ | hsame
  · have hsent (id : MessageId) (hid : id ∈ r.messages) : s.status c id = some .sent :=
      (h.sent id).mpr ⟨b, r, hr, hid⟩
    have hseen (id : MessageId) : (s.change (.lose c b cutoff)).status c id = some .seen ↔
        s.status c id = some .seen := by
      rw [status_lose hr hat]
      split
      · next hid => simp [hid.2]
      · rfl
    constructor
    · exact (h.apart.lose b cutoff).disjoint
    · intro id
      rw [h.outgoing_erase hr (sentBatch_lose hr hat), ← h.sent, status_lose hr hat]
      by_cases hid : id ∈ r.messages
      · simp [hid, hsent id hid]
      · simp [hid]
    · intro id hid
      exact h.acked_of_seen id ((hseen id).mp hid)
    · intro id hid
      exact (h.seen_of_acked id hid).imp (hseen id).mpr (·.change _)
  · rw [hsame]
    exact h

lemma removeContact (h : s.Exact c acked) (hs : s.Consistent) :
    (s.change (.removeContact c)).Exact c acked := by
  have hbatch (b : BatchId) : (s.change (.removeContact c)).sentBatch c b = none := by
    show (s.removeContact c).sentBatch c b = none
    rw [sentBatch_removeContact, if_pos rfl]
  constructor
  · exact (Apart.removeContact s c).disjoint
  · intro id
    rw [status_removeContact]
    simp [Outgoing, hbatch]
  · intro id hid
    rw [status_removeContact] at hid
    cases hid
  · intro id hid
    refine .inr ?_
    -- a contact that has seen something was there until now
    rcases h.seen_of_acked id hid with hseen | hgone
    · obtain ⟨d, hd, -⟩ := (s.status_eq_some_iff c id .seen).mp hseen
      have hnumber := hs.numbered c (hs.mem_contacts hd)
      refine ⟨?_, hnumber⟩
      show c ∉ s.contacts.erase c
      simp
    · exact hgone.change _

/-- Changes that uphold it keep the statuses of a contact exact. -/
theorem change (h : s.Exact c acked) (hs : s.Consistent) {x : Change} (hx : s.Permits x)
    (hup : s.Upholds c x) : (s.change x).Exact c fun id => acked id ∨ s.AckedBy c x id := by
  -- only acks add to what was acknowledged
  have hnot (hx : ∀ b, x ≠ .ack c b) : (fun id => acked id ∨ s.AckedBy c x id) = acked := by
    funext id
    have hby : ¬ s.AckedBy c x id := fun ⟨b, _, heq, _⟩ => hx b heq
    simp only [hby, or_false]
  by_cases habout : x.About c
  · cases x with
    | send c' b messages sentAt =>
      obtain rfl : c' = c := habout
      rw [hnot fun b hb => by cases hb]
      exact h.send hx.2.2 (hup.fresh b messages sentAt rfl)
    | ack c' b =>
      obtain rfl : c' = c := habout
      exact h.ack b
    | lose c' b cutoff =>
      obtain rfl : c' = c := habout
      rw [hnot fun b hb => by cases hb]
      exact h.lose b cutoff
    | removeContact c' =>
      obtain rfl : c' = c := habout
      rw [hnot fun b hb => by cases hb]
      exact h.removeContact hs
    | _ => exact absurd habout id
  · rw [hnot fun b hb => habout (by rw [hb]; exact rfl)]
    exact h.of_not_about hs habout hup

end Exact

/-! ## Runs of changes -/

/-- Whether all of some changes in turn uphold exact statuses of a contact. -/
def UpholdsAll (s : Memory) (c : ContactId) : List Change → Prop
  | [] => True
  | x :: log => s.Upholds c x ∧ (s.change x).UpholdsAll c log

theorem Exact.changes {acked : MessageId → Prop} {log : List Change} (h : s.Exact c acked)
    (hs : s.Consistent) (hlog : s.Allows log) (hup : s.UpholdsAll c log) :
    (s.changes log).Exact c fun id => acked id ∨ s.AckedIn c log id := by
  induction log generalizing s acked with
  | nil => simpa only [AckedIn, or_false, changes_nil] using h
  | cons x rest ih =>
    have hnext := ih (h.change hs hlog.1 hup.1) (hs.change hlog.1) hlog.2 hup.2
    simpa only [AckedIn, or_assoc, changes_cons] using hnext

end MessageSync.Memory
