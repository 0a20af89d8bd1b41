import Mathlib.Data.List.Pairwise
import MessageSync.Proofs.Store.Status

/-!
# Outstanding batches

No outstanding batch has a message twice (`Memory.Distinct`). The outstanding batches of a
contact are apart (`Memory.Apart`) if no two of them have a message in common, and none of
their messages is new to the contact. Changes keep them apart unless they bring a message
into sight of the contact, as new, while it is in a batch.
-/

namespace MessageSync

/-- Two batches have no message in common. -/
def OutstandingBatch.Apart (x y : OutstandingBatch) : Prop := ∀ id ∈ x.messages, id ∉ y.messages

namespace Memory

variable {s : Memory} {c : ContactId}

/-! ## Batches without repetition -/

/-- No outstanding batch has a message twice. -/
def Distinct (s : Memory) : Prop :=
  ∀ (c : ContactId) (b : BatchId) (r : SentRecord), s.sentBatch c b = some r → r.messages.Nodup

lemma Distinct.change (h : s.Distinct) {x : Change} (hx : s.Permits x) :
    (s.change x).Distinct := by
  intro c b r hr
  rcases sentBatch_of_change hr with hold | rfl
  · exact h c b r hold
  · exact hx.2.1

/-! ## Batches apart -/

/-- The outstanding batches of a contact have no message in common, and no message in
them is new to the contact. -/
structure Apart (s : Memory) (c : ContactId) : Prop where
  disjoint : ∀ (b b' : BatchId) (r r' : SentRecord) (id : MessageId), s.sentBatch c b = some r →
    s.sentBatch c b' = some r' → id ∈ r.messages → id ∈ r'.messages → b = b'
  taken : ∀ id, s.Outgoing c id → s.status c id ≠ some .new

lemma outgoing_of_eq {s' : Memory} (h : ∀ b, s'.sentBatch c b = s.sentBatch c b)
    (id : MessageId) : s'.Outgoing c id ↔ s.Outgoing c id := by
  simp only [Outgoing, h]

namespace Apart

/-- Batches that stay as they are stay apart, if no message in them turns new. -/
lemma of_eq {s' : Memory} (hs : s.Apart c) (h : ∀ b, s'.sentBatch c b = s.sentBatch c b)
    (htaken : ∀ id, s.Outgoing c id → s'.status c id ≠ some .new) : s'.Apart c where
  disjoint := by
    simp only [h]
    exact hs.disjoint
  taken := by
    simp only [outgoing_of_eq h]
    exact htaken

lemma send (hs : s.Apart c) {b : BatchId} {messages : List MessageId} {sentAt : Int64}
    (hmay : ∀ id ∈ messages, s.MaySend c id) : (s.change (.send c b messages sentAt)).Apart c := by
  -- what is sent now was new, so it was in no batch
  have hfree (id : MessageId) (hid : id ∈ messages) (b' : BatchId) (r : SentRecord)
      (hr : s.sentBatch c b' = some r) : id ∉ r.messages := by
    intro hmem
    exact hs.taken id ⟨b', r, hr, hmem⟩ (hmay id hid).status
  constructor
  · intro b₁ b₂ r₁ r₂ id h₁ h₂ hid₁ hid₂
    rw [sentBatch_send] at h₁ h₂
    split at h₁ <;> split at h₂
    · next heq₁ heq₂ => rw [heq₁, heq₂]
    · rw [← Option.some.inj h₁] at hid₁
      exact absurd hid₂ (hfree id hid₁ b₂ r₂ h₂)
    · rw [← Option.some.inj h₂] at hid₂
      exact absurd hid₁ (hfree id hid₂ b₁ r₁ h₁)
    · exact hs.disjoint b₁ b₂ r₁ r₂ id h₁ h₂ hid₁ hid₂
  · rintro id ⟨b', r, hr, hid⟩
    rw [status_send hmay]
    split
    · intro h
      cases h
    · next hnot =>
      rw [sentBatch_send] at hr
      split at hr
      · rw [← Option.some.inj hr] at hid
        exact absurd hid hnot
      · exact hs.taken id ⟨b', r, hr, hid⟩

/-- A batch that goes away leaves the others apart, if only its own messages may turn new. -/
lemma erase {s' : Memory} (hs : s.Apart c) {b : BatchId} {r : SentRecord}
    (hr : s.sentBatch c b = some r)
    (h : ∀ b', s'.sentBatch c b' = if b' = b then none else s.sentBatch c b')
    (hstatus : ∀ id, id ∉ r.messages → s'.status c id = s.status c id) : s'.Apart c := by
  have hkept (b' : BatchId) (r' : SentRecord) (hr' : s'.sentBatch c b' = some r') :
      b' ≠ b ∧ s.sentBatch c b' = some r' := by
    rw [h] at hr'
    split at hr'
    · cases hr'
    · next hne => exact ⟨hne, hr'⟩
  constructor
  · intro b₁ b₂ r₁ r₂ id h₁ h₂
    exact hs.disjoint b₁ b₂ r₁ r₂ id (hkept b₁ r₁ h₁).2 (hkept b₂ r₂ h₂).2
  · rintro id ⟨b', r', hr', hid⟩
    obtain ⟨hne, hold⟩ := hkept b' r' hr'
    have hnot : id ∉ r.messages := fun hmem => hne (hs.disjoint b' b r' r id hold hr hid hmem)
    rw [hstatus id hnot]
    exact hs.taken id ⟨b', r', hold, hid⟩

lemma ack (hs : s.Apart c) (b : BatchId) : (s.change (.ack c b)).Apart c := by
  cases hr : s.sentBatch c b with
  | none =>
    rw [change_ack_of_none hr]
    exact hs
  | some r =>
    refine hs.erase hr (sentBatch_ack b) fun id hid => ?_
    rw [status_ack hr, if_neg hid]

lemma lose (hs : s.Apart c) (b : BatchId) (cutoff : Int64) :
    (s.change (.lose c b cutoff)).Apart c := by
  rcases s.lose_cases c b cutoff with ⟨r, hr, hat⟩ | hsame
  · refine hs.erase hr (sentBatch_lose hr hat) fun id hid => ?_
    rw [status_lose hr hat, if_neg fun h => hid h.1]
  · rw [hsame]
    exact hs

lemma removeContact (s : Memory) (c : ContactId) : (s.change (.removeContact c)).Apart c := by
  have hnone (b : BatchId) : (s.change (.removeContact c)).sentBatch c b = none := by
    show (s.removeContact c).sentBatch c b = none
    rw [sentBatch_removeContact, if_pos rfl]
  constructor
  · intro b b' r r' id hr
    rw [hnone] at hr
    cases hr
  · rintro id ⟨b, r, hr, -⟩
    rw [hnone] at hr
    cases hr

/-- Every permitted change keeps batches apart, unless it brings a message into sight that
is in a batch. -/
theorem change (h : s.Apart c) (hs : s.Consistent) {x : Change} (hx : s.Permits x)
    (hshown : x.Shows → ∀ id, s.Outgoing c id → s.status c id = none →
      (s.change x).status c id ≠ some .new) : (s.change x).Apart c := by
  by_cases habout : x.About c
  · cases x with
    | send c' b messages sentAt =>
      obtain rfl : c' = c := habout
      exact h.send hx.2.2
    | ack c' b =>
      obtain rfl : c' = c := habout
      exact h.ack b
    | lose c' b cutoff =>
      obtain rfl : c' = c := habout
      exact h.lose b cutoff
    | removeContact c' =>
      obtain rfl : c' = c := habout
      exact removeContact s c'
    | _ => exact absurd habout id
  -- otherwise a message could turn new only by coming into sight
  · refine h.of_eq (sentBatch_change habout) fun id hid hnew => ?_
    have heffect := effect_change hs habout id
    rw [hnew] at heffect
    generalize hstatus : s.status c id = status at heffect
    cases heffect with
    | same => exact h.taken id hid hstatus
    | shown hx => exact hshown hx id hid hstatus hnew

end Apart

/-! ## As they are listed -/

/-- Each outstanding batch is listed once. -/
lemma nodup_outstandingOf (s : Memory) (c : ContactId) :
    ((s.outstandingOf c).map OutstandingBatch.id).Nodup := by
  have hkeys : s.outstanding.toList.Pairwise fun e e' => e.1 ≠ e'.1 :=
    Std.ExtTreeMap.distinct_keys_toList.imp fun h h' => h (Std.LawfulEqOrd.compare_eq_iff_eq.mpr h')
  unfold outstandingOf
  rw [((List.mergeSort_perm _ _).map OutstandingBatch.id).nodup_iff]
  unfold List.Nodup
  rw [List.pairwise_map, List.pairwise_filterMap]
  refine hkeys.imp fun {e e'} hne x hx y hy hid => hne ?_
  rw [Option.ite_none_right_eq_some] at hx hy
  obtain ⟨hc, hx⟩ := hx
  obtain ⟨hc', hy⟩ := hy
  rw [← Option.some.inj hx, ← Option.some.inj hy] at hid
  exact ContactKey.ext (hc.trans hc'.symm) hid

instance : Std.Symm OutstandingBatch.Apart where
  symm _ _ h id hid hid' := h id hid' hid

/-- The listed batches are apart if and only if no message is in two records. -/
lemma pairwise_apart_iff (s : Memory) (c : ContactId) :
    (s.outstandingOf c).Pairwise OutstandingBatch.Apart ↔
      ∀ (b b' : BatchId) (r r' : SentRecord) (id : MessageId), s.sentBatch c b = some r →
        s.sentBatch c b' = some r' → id ∈ r.messages → id ∈ r'.messages → b = b' := by
  constructor
  · intro h b b' r r' id hr hr' hid hid'
    by_contra hne
    have hapart := h.forall (mem_outstandingOf hr) (mem_outstandingOf hr') fun heq => hne (congrArg OutstandingBatch.id heq)
    exact hapart id hid hid'
  · intro h
    have hnodup := List.pairwise_map.mp (s.nodup_outstandingOf c)
    refine hnodup.imp_of_mem fun {x y} hx hy hne id hid hid' => hne ?_
    have hr := ((s.mem_outstandingOf_iff c x).mp hx).2
    have hr' := ((s.mem_outstandingOf_iff c y).mp hy).2
    exact h x.id y.id _ _ id hr hr' hid hid'

/-- A message that is in a listed batch is in a record. -/
lemma outgoing_iff (s : Memory) (c : ContactId) (id : MessageId) :
    s.Outgoing c id ↔ ∃ x ∈ s.outstandingOf c, id ∈ x.messages := by
  constructor
  · rintro ⟨b, r, hr, hid⟩
    exact ⟨_, mem_outstandingOf hr, hid⟩
  · rintro ⟨x, hx, hid⟩
    exact ⟨x.id, _, ((s.mem_outstandingOf_iff c x).mp hx).2, hid⟩

end Memory

end MessageSync
