import MessageSync.Proofs.Store.Change

/-!
# What ties the tables of a store together

Nothing in the queries of a store in memory keeps a delivery from being stored for a
contact or a message that does not exist. The changes that the engine makes do:
`Memory.Consistent` lists what they keep up, and `Memory.Consistent.change` shows it for
each of them.

The main part is `visible`: there is a delivery of a message to a contact if and only if
the message is stored and the contact is subscribed to its group.
-/

namespace MessageSync.Memory

/-- The tables of a store fit together. -/
structure Consistent (s : Memory) : Prop where
  keyed : s.Keyed
  /-- A delivery is there for a message of a group of the contact, and for no other. -/
  visible : ∀ (c : ContactId) (id : MessageId), (s.delivery c id).isSome ↔
    ∃ m, s.messages[id]? = some m ∧ s.Advertises c m.group
  /-- This node is subscribed to the groups of its messages. -/
  subscribed : ∀ (id : MessageId) (m : Message), s.messages[id]? = some m → m.group ∈ s.subscriptions
  /-- The next contact gets a number that no contact has. -/
  numbered : ∀ c ∈ s.contacts, c.number < s.nextContact
  /-- Batches are outstanding for contacts that exist. -/
  owned : ∀ (c : ContactId) (b : BatchId) (r : SentRecord), s.sentBatch c b = some r → c ∈ s.contacts

lemma mem_contacts_of_advertises {s : Memory} {c : ContactId} {g : GroupId}
    (h : s.Advertises c g) : c ∈ s.contacts := by
  obtain ⟨r, hr, -⟩ := h
  exact Table.mem_of_getElem? hr

namespace Consistent

lemma empty : Memory.empty.Consistent where
  keyed := by
    intro id m h
    simp [Memory.empty] at h
  visible := by
    intro c id
    simp [Memory.empty, delivery]
  subscribed := by
    intro id m h
    simp [Memory.empty] at h
  numbered := by
    intro c h
    simp [Memory.empty] at h
  owned := by
    intro c b r h
    simp [Memory.empty, sentBatch] at h

/-- A contact that has a delivery exists. -/
lemma mem_contacts {s : Memory} (hs : s.Consistent) {c : ContactId} {id : MessageId}
    {d : Delivery} (h : s.delivery c id = some d) : c ∈ s.contacts := by
  obtain ⟨m, -, hadv⟩ := (hs.visible c id).mp (by rw [h]; rfl)
  exact mem_contacts_of_advertises hadv

/-- A message that is not stored has no delivery. -/
lemma delivery_eq_none {s : Memory} (hs : s.Consistent) {id : MessageId} (h : id ∉ s.messages)
    (c : ContactId) : s.delivery c id = none := by
  rw [← Option.not_isSome_iff_eq_none, hs.visible]
  rintro ⟨m, hm, -⟩
  exact h (Table.mem_of_getElem? hm)

/-- The tables still fit together after a change that only alters deliveries in place and
leaves contacts their groups. -/
lemma congr {s s' : Memory} (hs : s.Consistent) (hmessages : s'.messages = s.messages)
    (hsubscriptions : s'.subscriptions = s.subscriptions)
    (hnext : s'.nextContact = s.nextContact)
    (hcontacts : ∀ c, c ∈ s'.contacts ↔ c ∈ s.contacts)
    (hgroups : ∀ c g, s'.Advertises c g ↔ s.Advertises c g)
    (hdeliveries : ∀ c id, (s'.delivery c id).isSome = (s.delivery c id).isSome)
    (hsent : ∀ c b r, s'.sentBatch c b = some r → c ∈ s.contacts) : s'.Consistent where
  keyed := by
    unfold Keyed
    rw [hmessages]
    exact hs.keyed
  visible := by
    intro c id
    rw [hdeliveries, hmessages, hs.visible]
    simp only [hgroups]
  subscribed := by
    rw [hmessages, hsubscriptions]
    exact hs.subscribed
  numbered := by
    intro c hc
    rw [hnext]
    exact hs.numbered c ((hcontacts c).mp hc)
  owned := fun c b r h => (hcontacts c).mpr (hsent c b r h)

/-! ## Contacts -/

lemma addContact {s : Memory} (hs : s.Consistent) (transports : Properties) :
    (s.addContact transports).2.Consistent := by
  have hfresh : (⟨s.nextContact⟩ : ContactId) ∉ s.contacts := fun h =>
    Nat.lt_irrefl _ (hs.numbered _ h)
  have hlookup (c : ContactId) : (s.addContact transports).2.contacts[c]? =
      if ⟨s.nextContact⟩ = c then some ⟨∅, 0, transports, 0⟩ else s.contacts[c]? :=
    Table.getElem?_insert _ _ _ _
  -- the new contact has no groups yet
  have hgroups (c : ContactId) (g : GroupId) :
      (s.addContact transports).2.Advertises c g ↔ s.Advertises c g := by
    unfold Advertises
    rw [hlookup]
    by_cases hc : (⟨s.nextContact⟩ : ContactId) = c
    · subst hc
      simp [(Table.not_mem_iff _ _).mp hfresh]
    · simp [hc]
  have hmem (c : ContactId) :
      c ∈ (s.addContact transports).2.contacts ↔ ⟨s.nextContact⟩ = c ∨ c ∈ s.contacts := by
    simp only [Table.mem_iff_exists, hlookup]
    by_cases hc : (⟨s.nextContact⟩ : ContactId) = c
    · simp [hc]
    · simp [hc]
  exact {
    keyed := hs.keyed
    visible := fun c id => (hs.visible c id).trans (by simp only [hgroups]; rfl)
    subscribed := hs.subscribed
    numbered := by
      intro c hc
      show c.number < s.nextContact + 1
      rcases (hmem c).mp hc with rfl | hc
      · exact Nat.lt_succ_self _
      · exact Nat.lt_succ_of_lt (hs.numbered c hc)
    owned := fun c b r h => (hmem c).mpr (.inr (hs.owned c b r h)) }

lemma removeContact {s : Memory} (hs : s.Consistent) (c : ContactId) :
    (s.removeContact c).Consistent := by
  have hlookup (c' : ContactId) : (s.removeContact c).contacts[c']? =
      if c = c' then none else s.contacts[c']? := Table.getElem?_erase _ _ _
  exact {
    keyed := hs.keyed
    visible := by
      -- nothing is visible to the contact that is gone, and nothing changes for the others
      intro c' id
      rw [delivery_removeContact]
      unfold Advertises
      rw [hlookup]
      by_cases hc : c' = c
      · subst hc
        simp
      · have hne : c ≠ c' := Ne.symm hc
        simp only [hc, hne, if_false]
        exact hs.visible c' id
    subscribed := hs.subscribed
    numbered := by
      intro c' hc'
      rw [Table.mem_iff_exists, hlookup] at hc'
      apply hs.numbered c'
      rw [Table.mem_iff_exists]
      by_cases hc : c = c'
      · simp [hc] at hc'
      · simpa [hc] using hc'
    owned := by
      intro c' b r h
      rw [sentBatch_removeContact] at h
      rw [Table.mem_iff_exists, hlookup]
      by_cases hc : c' = c
      · simp [hc] at h
      · have hne : c ≠ c' := Ne.symm hc
        simp only [hc, hne, if_false] at h ⊢
        exact (Table.mem_iff_exists _ _).mp (hs.owned c' b r h) }

lemma setTransports {s : Memory} (hs : s.Consistent) (c : ContactId) (transports : Properties)
    (timestamp : Int64) : (s.setTransports c transports timestamp).2.Consistent := by
  unfold Memory.setTransports
  cases hr : s.contacts[c]? with
  | none => exact hs
  | some r =>
    dsimp only
    split
    · exact hs
    -- the record that is written has the groups of the one it replaces
    · refine hs.congr rfl rfl rfl (fun c' => ?_) (fun c' g => ?_) (fun _ _ => rfl) hs.owned
      · simp only [Table.mem_iff_exists, Table.getElem?_insert]
        by_cases hc : c = c'
        · subst hc
          simp [hr]
        · simp [hc]
      · unfold Advertises
        simp only [Table.getElem?_insert]
        by_cases hc : c = c'
        · subst hc
          simp [hr]
        · simp [hc]

lemma setSubscriptions {s : Memory} (hs : s.Consistent) (c : ContactId) (groups : List Group)
    (timestamp : Int64) : (s.setSubscriptions c groups timestamp).2.Consistent := by
  unfold Memory.setSubscriptions
  cases hr : s.contacts[c]? with
  | none => exact hs
  | some r =>
    dsimp only
    split
    · exact hs
    · let r' : ContactRecord := { r with groups := Group.toTable groups, groupsAt := timestamp }
      let s' : Memory := { s with contacts := s.contacts.insert c r' }
      show (s'.share c r'.groups).Consistent
      have hlookup (c' : ContactId) : s'.contacts[c']? =
          if c = c' then some r' else s.contacts[c']? := Table.getElem?_insert _ _ _ _
      have hmem (c' : ContactId) : c' ∈ s'.contacts ↔ c' ∈ s.contacts := by
        simp only [Table.mem_iff_exists, hlookup]
        by_cases hc : c = c'
        · subst hc
          simp [hr]
        · simp [hc]
      exact {
        keyed := hs.keyed
        visible := by
          intro c' id
          rw [delivery_share (s := s') hs.keyed]
          show _ ↔ ∃ m, s.messages[id]? = some m ∧ s'.Advertises c' m.group
          unfold Advertises
          rw [hlookup]
          -- the contact is given a delivery for each message of its new groups
          by_cases hc : c' = c
          · subst hc
            unfold sharedDelivery
            have hmessage : s'.messages[id]? = s.messages[id]? := rfl
            rw [hmessage]
            cases hm : s.messages[id]? with
            | none => simp
            | some m =>
              by_cases hg : m.group ∈ r'.groups
              · simp [hg]
              · simp [hg]
          · have hne : c ≠ c' := Ne.symm hc
            simp only [hc, hne, if_false]
            exact hs.visible c' id
        subscribed := hs.subscribed
        numbered := fun c' hc' => hs.numbered c' ((hmem c').mp hc')
        owned := fun c' b r h => (hmem c').mpr (hs.owned c' b r h) }

/-! ## Groups of this node -/

lemma addSubscription {s : Memory} (hs : s.Consistent) (g : Group) (now : Int64) :
    (s.addSubscription g now).2.Consistent := by
  unfold Memory.addSubscription
  split
  · exact hs
  · exact {
      keyed := hs.keyed
      visible := hs.visible
      subscribed := by
        intro id m hm
        exact Std.ExtTreeMap.mem_insert.mpr (.inr (hs.subscribed id m hm))
      numbered := hs.numbered
      owned := hs.owned }

lemma removeSubscription {s : Memory} (hs : s.Consistent) (g : GroupId) (now : Int64) :
    (s.removeSubscription g now).2.Consistent := by
  by_cases hg : g ∈ s.subscriptions
  · have hmessages := messages_removeSubscription hs.keyed hg now
    have hdelivery := delivery_removeSubscription hs.keyed hg now
    obtain ⟨messages, deliveries, heq⟩ := exists_removeSubscription hg now
    rw [heq] at hmessages hdelivery ⊢
    exact {
      keyed := by
        intro id m hm
        rw [hmessages, Option.filter_eq_some_iff] at hm
        exact hs.keyed hm.1
      visible := by
        intro c id
        rw [hdelivery, hmessages]
        show _ ↔ ∃ m : Message, _ ∧ s.Advertises c m.group
        have hvisible := hs.visible c id
        -- a message and its deliveries go together, if its group is the one that ends
        cases hm : s.messages[id]? with
        | none =>
          rw [hm] at hvisible
          simpa using hvisible
        | some m =>
          rw [hm] at hvisible
          by_cases hgroup : m.group = g
          · simp [hgroup]
          · have hkept : (some m).filter (·.group ≠ g) = some m := by simp [hgroup]
            rw [hkept, if_neg (by simpa using hgroup)]
            exact hvisible
      subscribed := by
        intro id m hm
        rw [hmessages, Option.filter_eq_some_iff] at hm
        obtain ⟨hm, hgroup⟩ := hm
        have hne : m.group ≠ g := of_decide_eq_true hgroup
        refine Std.ExtTreeMap.mem_erase.mpr ⟨?_, hs.subscribed id m hm⟩
        intro heq
        exact hne (Std.LawfulEqOrd.eq_of_compare heq).symm
      numbered := hs.numbered
      owned := hs.owned }
  · rw [removeSubscription_of_not_mem hg]
    exact hs

/-! ## Messages -/

lemma removeMessage {s : Memory} (hs : s.Consistent) (id : MessageId) :
    (s.removeMessage id).Consistent where
  keyed := by
    intro a m hm
    rw [messages_removeMessage] at hm
    split at hm
    · cases hm
    · exact hs.keyed hm
  visible := by
    intro c a
    rw [delivery_removeMessage, messages_removeMessage]
    split
    · simp
    · exact hs.visible c a
  subscribed := by
    intro a m hm
    rw [messages_removeMessage] at hm
    split at hm
    · cases hm
    · exact hs.subscribed a m hm
  numbered := hs.numbered
  owned := hs.owned

lemma addMessage {s : Memory} (hs : s.Consistent) {m : Message} (hg : m.group ∈ s.subscriptions)
    (hm : m.id ∉ s.messages) (sender : Option ContactId) :
    (s.addMessage m sender).2.Consistent := by
  have hdelivery := delivery_addMessage hm sender
  rw [addMessage_of_not_mem hm] at hdelivery ⊢
  have hlookup (id : MessageId) : (s.messages.insert m.id m)[id]? =
      if m.id = id then some m else s.messages[id]? := Table.getElem?_insert _ _ _ _
  exact {
    keyed := by
      intro id m' h
      rw [hlookup] at h
      split at h
      · next hid => rw [← hid, Option.some.inj h]
      · exact hs.keyed h
    visible := by
      intro c id
      rw [hdelivery, hlookup]
      show _ ↔ ∃ m' : Message, _ ∧ s.Advertises c m'.group
      by_cases hid : m.id = id
      · subst hid
        -- nothing was visible of the message before it was stored
        have hnone := hs.delivery_eq_none hm c
        by_cases hadv : s.Advertises c m.group
        · simp [hadv]
        · simp [hadv, hnone]
      · have hne : id ≠ m.id := Ne.symm hid
        simp only [hid, hne, false_and, if_false]
        exact hs.visible c id
    subscribed := by
      intro id m' h
      rw [hlookup] at h
      split at h
      · rw [← Option.some.inj h]
        exact hg
      · exact hs.subscribed id m' h
    numbered := hs.numbered
    owned := hs.owned }

lemma setSeenIfVisible {s : Memory} (hs : s.Consistent) (c : ContactId) (id : MessageId) :
    (s.setSeenIfVisible c id).2.Consistent := by
  refine hs.congr rfl rfl rfl (fun _ => Iff.rfl) (fun _ _ => Iff.rfl) (fun c' a => ?_) hs.owned
  rw [delivery_setSeenIfVisible]
  split
  · exact Option.isSome_map
  · rfl

lemma accept {s : Memory} (hs : s.Consistent) (m : Message) (sender : Option ContactId) :
    (s.accept m sender).Consistent := by
  unfold Memory.accept
  split
  · next h => exact hs.addMessage h.1 h.2 sender
  · split
    · exact hs.setSeenIfVisible _ _
    · exact hs

lemma rate {s : Memory} (hs : s.Consistent) (a : AuthorId) (rating : Rating) :
    (s.rate a rating).Consistent := by
  have hrated : (s.setRating a rating).2.Consistent :=
    ⟨hs.keyed, hs.visible, hs.subscribed, hs.numbered, hs.owned⟩
  unfold Memory.rate
  dsimp only
  split
  · refine hrated.congr rfl rfl rfl (fun _ => Iff.rfl) (fun _ _ => Iff.rfl) (fun c id => ?_)
      hs.owned
    rw [delivery_setSendability]
    exact Option.isSome_map
  · exact hrated

/-! ## Batches -/

lemma addOutstandingBatch {s : Memory} (hs : s.Consistent) {c : ContactId}
    (hc : c ∈ s.contacts) (b : BatchId) (messages : List MessageId) (sentAt : Int64) :
    (s.addOutstandingBatch c b messages sentAt).Consistent := by
  refine hs.congr rfl rfl rfl (fun _ => Iff.rfl) (fun _ _ => Iff.rfl) (fun c' id => ?_)
    (fun c' b' r h => ?_)
  · rw [delivery_addOutstandingBatch]
    split
    · exact Option.isSome_map
    · rfl
  · rw [sentBatch_addOutstandingBatch] at h
    split at h
    · next hk => exact hk.1 ▸ hc
    · exact hs.owned c' b' r h

/-- The tables still fit together once a batch is no longer outstanding, if all else that
changes are deliveries of its messages, each in place. -/
lemma closeBatch {s s' : Memory} (hs : s.Consistent) {c : ContactId} {b : BatchId}
    {ids : List MessageId} {f : Delivery → Delivery}
    (hsame : ∃ deliveries outstanding,
      s' = { s with deliveries := deliveries, outstanding := outstanding })
    (hdelivery : ∀ (c' : ContactId) (a : MessageId), s'.delivery c' a =
      if c' = c ∧ a ∈ ids then (s.delivery c' a).map f else s.delivery c' a)
    (hsent : ∀ (c' : ContactId) (b' : BatchId), s'.sentBatch c' b' =
      if c' = c ∧ b' = b then none else s.sentBatch c' b') : s'.Consistent := by
  obtain ⟨deliveries, outstanding, rfl⟩ := hsame
  refine hs.congr rfl rfl rfl (fun _ => Iff.rfl) (fun _ _ => Iff.rfl) (fun c' id => ?_)
    (fun c' b' r h => ?_)
  · rw [hdelivery]
    split
    · exact Option.isSome_map
    · rfl
  · rw [hsent] at h
    split at h
    · cases h
    · exact hs.owned c' b' r h

lemma removeAckedBatch {s : Memory} (hs : s.Consistent) (c : ContactId) (b : BatchId) :
    (s.removeAckedBatch c b).2.Consistent := by
  cases hr : s.sentBatch c b with
  | none =>
    rw [removeAckedBatch_of_none hr]
    exact hs
  | some r =>
    have hdelivery := delivery_removeAckedBatch hr
    have hsent (c' : ContactId) (b' : BatchId) := sentBatch_removeAckedBatch s c c' b b'
    exact hs.closeBatch (s.exists_removeAckedBatch c b) hdelivery hsent

lemma removeLostBatch {s : Memory} (hs : s.Consistent) (c : ContactId) (b : BatchId)
    (cutoff : Int64) : (s.removeLostBatch c b cutoff).2.Consistent := by
  cases hr : s.sentBatch c b with
  | none =>
    rw [removeLostBatch_of_none hr]
    exact hs
  | some r =>
    by_cases hat : r.sentAt ≤ cutoff
    · have hdelivery := delivery_removeLostBatch hr hat
      have hsent := sentBatch_removeLostBatch hr hat
      exact hs.closeBatch (s.exists_removeLostBatch c b cutoff) hdelivery hsent
    · rw [removeLostBatch_of_later hr hat]
      exact hs

/-! ## All changes -/

/-- Every change that the engine makes keeps the tables together. -/
theorem change {s : Memory} (hs : s.Consistent) {x : Change} (hx : s.Permits x) :
    (s.change x).Consistent := by
  -- a change to none of the tables that are tied together
  have hsame {s' : Memory} (hcontacts : s'.contacts = s.contacts)
      (hnext : s'.nextContact = s.nextContact) (hmessages : s'.messages = s.messages)
      (hsubscriptions : s'.subscriptions = s.subscriptions)
      (hdeliveries : s'.deliveries = s.deliveries) (hsent : s'.outstanding = s.outstanding) :
      s'.Consistent := by
    refine hs.congr hmessages hsubscriptions hnext (fun c => by rw [hcontacts])
      (fun c g => by unfold Advertises; rw [hcontacts])
      (fun c id => by unfold delivery; rw [hdeliveries]) (fun c b r h => ?_)
    unfold sentBatch at h
    rw [hsent] at h
    exact hs.owned c b r h
  cases x with
  | addContact transports => exact hs.addContact transports
  | removeContact c => exact hs.removeContact c
  | subscribe g now => exact hs.addSubscription g now
  | unsubscribe g now => exact hs.removeSubscription g now
  | share c groups timestamp => exact hs.setSubscriptions c groups timestamp
  | setLocalTransports transports now => exact hsame rfl rfl rfl rfl rfl rfl
  | setTransports c transports timestamp => exact hs.setTransports c transports timestamp
  | accept m sender => exact hs.accept m sender
  | forget id => exact hs.removeMessage id
  | see c id => exact hs.setSeenIfVisible c id
  | rate a rating => exact hs.rate a rating
  | send c b messages sentAt => exact hs.addOutstandingBatch hx.1 b messages sentAt
  | ack c b => exact hs.removeAckedBatch c b
  | lose c b cutoff => exact hs.removeLostBatch c b cutoff
  | owe c b => exact hsame rfl rfl rfl rfl rfl rfl
  | settle c batches => exact hsame rfl rfl rfl rfl rfl rfl
  | addSecrets secrets => exact hsame rfl rfl rfl rfl rfl rfl
  | count key =>
    show (s.incrementConnectionCounter key).2.Consistent
    unfold incrementConnectionCounter
    split
    · exact hs
    · exact hsame rfl rfl rfl rfl rfl rfl
  | setWindow key window => exact hsame rfl rfl rfl rfl rfl rfl
  | dropSecrets c t period => exact hsame rfl rfl rfl rfl rfl rfl

end Consistent

end MessageSync.Memory
