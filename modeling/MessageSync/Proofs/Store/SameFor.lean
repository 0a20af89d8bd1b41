import MessageSync.Proofs.Store.Answer
import MessageSync.Proofs.Store.Status

/-!
# Stores that are the same for a contact

Two stores are the same for a contact if they hold the same about that contact, and the same
messages of its groups (`Memory.SameFor`). Messages of other groups, and all that is kept about
other contacts, make no difference to what is read of the contact. Consistent stores answer the
same to every question about it, as it has deliveries only of messages that both of them hold.

A change of the deliveries, batches and acks of the contact keeps the stores the same for it
(`Memory.SameFor.change`).
-/

namespace MessageSync

namespace Memory

/-- Two stores hold the same about a contact, about the groups of this node, and of the messages
in groups of the contact. -/
structure SameFor (c : ContactId) (s t : Memory) : Prop where
  contact : c ∈ s.contacts ↔ c ∈ t.contacts
  groups : ∀ g : GroupId, s.Advertises c g ↔ t.Advertises c g
  deliveries : ∀ id : MessageId, s.delivery c id = t.delivery c id
  batches : ∀ b : BatchId, s.sentBatch c b = t.sentBatch c b
  toAck : ∀ b : BatchId,
    (⟨c, b⟩ : ContactKey BatchId) ∈ s.toAck ↔ (⟨c, b⟩ : ContactKey BatchId) ∈ t.toAck
  messages : ∀ (id : MessageId) (m : Message), s.Advertises c m.group →
    (s.messages[id]? = some m ↔ t.messages[id]? = some m)
  subscriptions : s.subscriptions = t.subscriptions
  subscriptionsAt : s.subscriptionsAt = t.subscriptionsAt

namespace SameFor

variable {c : ContactId} {s t : Memory}

lemma symm (h : SameFor c s t) : SameFor c t s where
  contact := h.contact.symm
  groups := fun g => (h.groups g).symm
  deliveries := fun id => (h.deliveries id).symm
  batches := fun b => (h.batches b).symm
  toAck := fun b => (h.toAck b).symm
  messages := fun id m hm => (h.messages id m ((h.groups m.group).mpr hm)).symm
  subscriptions := h.subscriptions.symm
  subscriptionsAt := h.subscriptionsAt.symm

/-! ## Reading -/

/-- A message that the contact may see is held by both stores. -/
lemma message (h : SameFor c s t) (hs : s.Consistent) {id : MessageId} {d : Delivery}
    (hd : s.delivery c id = some d) : s.messages[id]? = t.messages[id]? := by
  obtain ⟨m, hm, hadv⟩ := (hs.visible c id).mp (by rw [hd]; rfl)
  rw [hm, (h.messages id m hadv).mp hm]

lemma contains_deliveries (h : SameFor c s t) (id : MessageId) :
    s.deliveries.contains ⟨c, id⟩ = t.deliveries.contains ⟨c, id⟩ := by
  have hd : s.deliveries[(⟨c, id⟩ : ContactKey MessageId)]? = t.deliveries[(⟨c, id⟩ : ContactKey MessageId)]? :=
    h.deliveries id
  rw [Std.ExtTreeMap.contains_eq_isSome_getElem?, Std.ExtTreeMap.contains_eq_isSome_getElem?, hd]

lemma rawIfSendable (h : SameFor c s t) (hs : s.Consistent) :
    s.rawIfSendable c = t.rawIfSendable c := by
  funext id
  unfold Memory.rawIfSendable
  have hd : s.deliveries[(⟨c, id⟩ : ContactKey MessageId)]? =
      t.deliveries[(⟨c, id⟩ : ContactKey MessageId)]? := h.deliveries id
  rw [← hd]
  cases hrow : s.deliveries[(⟨c, id⟩ : ContactKey MessageId)]? with
  | none => rfl
  | some d =>
    dsimp only
    rw [h.message hs hrow]

lemma mem_eligible (h : SameFor c s t) (hs : s.Consistent) (ht : t.Consistent) {m : Message}
    (hm : m ∈ s.eligible c) : m ∈ t.eligible c := by
  obtain ⟨hstored, d, hd, hel⟩ := (mem_eligible_iff hs.keyed c m).mp hm
  refine (mem_eligible_iff ht.keyed c m).mpr ⟨?_, d, ?_, hel⟩
  · rw [← h.message hs hd, hstored]
  · rw [← h.deliveries, hd]

lemma eligible (h : SameFor c s t) (hs : s.Consistent) (ht : t.Consistent) :
    s.eligible c = t.eligible c := by
  have hmem (m : Message) : m ∈ s.eligible c ↔ m ∈ t.eligible c :=
    ⟨h.mem_eligible hs ht, h.symm.mem_eligible ht hs⟩
  unfold Memory.eligible Message.oldestFirst at hmem ⊢
  simp only [List.mem_mergeSort] at hmem
  rw [Table.eq_of_ordered Message.id (ordered_eligible hs.keyed c) (ordered_eligible ht.keyed c)
    hmem]

lemma outstandingOf (h : SameFor c s t) : s.outstandingOf c = t.outstandingOf c := by
  have hmem (o : OutstandingBatch) : o ∈ s.outstandingOf c ↔ o ∈ t.outstandingOf c := by
    rw [mem_outstandingOf_iff, mem_outstandingOf_iff, h.batches]
  have hordered (s : Memory) := ContactKey.ordered_filterMap (c := c) Prod.fst
    (Table.ordered_toList s.outstanding) OutstandingBatch.id
    (f := fun e => if e.1.contact = c then some ⟨c, e.1.item, e.2.messages, e.2.sentAt⟩ else none)
    fun e o ho => by
      obtain ⟨hc, ho⟩ := Option.ite_none_right_eq_some.mp ho
      exact ⟨hc, by rw [← Option.some.inj ho]⟩
  unfold Memory.outstandingOf at hmem ⊢
  simp only [List.mem_mergeSort] at hmem
  dsimp only
  rw [Table.eq_of_ordered OutstandingBatch.id (hordered s) (hordered t) hmem]

lemma toAckOf (h : SameFor c s t) : s.toAckOf c = t.toAckOf c := by
  refine Table.eq_of_ordered id (s.ordered_toAckOf c) (t.ordered_toAckOf c) fun b => ?_
  rw [mem_toAckOf_iff, mem_toAckOf_iff, h.toAck]

end SameFor

end Memory

/-! ## Changes about a contact -/

/-- Whether a change is one of the deliveries, the batches or the acks of a contact. -/
def Change.Of (c : ContactId) : Change → Prop
  | .send c' _ _ _ | .ack c' _ | .lose c' _ _ | .see c' _ | .settle c' _ => c' = c
  | _ => False

namespace Memory

variable {c : ContactId} {s t : Memory}

/-- Such changes leave all other tables as they are. -/
lemma exists_change_of {x : Change} (hx : x.Of c) (s : Memory) :
    ∃ deliveries outstanding toAck, s.change x =
      { s with deliveries := deliveries, outstanding := outstanding, toAck := toAck } := by
  cases x with
  | send _ _ _ _ | see _ _ | settle _ _ => exact ⟨_, _, _, rfl⟩
  | ack c' b =>
    obtain ⟨_, _, heq⟩ := s.exists_removeAckedBatch c' b
    exact ⟨_, _, _, heq⟩
  | lose c' b cutoff =>
    obtain ⟨_, _, heq⟩ := s.exists_removeLostBatch c' b cutoff
    exact ⟨_, _, _, heq⟩
  | _ => exact hx.elim

lemma exists_changes_of {log : List Change} (hlog : ∀ x ∈ log, x.Of c) (s : Memory) :
    ∃ deliveries outstanding toAck, s.changes log =
      { s with deliveries := deliveries, outstanding := outstanding, toAck := toAck } := by
  induction log generalizing s with
  | nil => exact ⟨_, _, _, rfl⟩
  | cons x rest ih =>
    obtain ⟨_, _, _, hfirst⟩ := exists_change_of (hlog x List.mem_cons_self) s
    obtain ⟨_, _, _, hrest⟩ := ih (fun y hy => hlog y (List.mem_cons_of_mem x hy)) (s.change x)
    rw [changes_cons, hrest, hfirst]
    exact ⟨_, _, _, rfl⟩

namespace SameFor

/-- Stores stay the same for a contact if only its deliveries, batches and acks change, and
these in the same way. -/
lemma congr (h : SameFor c s t) {s' t' : Memory}
    (hs' : ∃ deliveries outstanding toAck, s' =
      { s with deliveries := deliveries, outstanding := outstanding, toAck := toAck })
    (ht' : ∃ deliveries outstanding toAck, t' =
      { t with deliveries := deliveries, outstanding := outstanding, toAck := toAck })
    (hdeliveries : ∀ id, s'.delivery c id = t'.delivery c id)
    (hbatches : ∀ b, s'.sentBatch c b = t'.sentBatch c b)
    (htoAck : ∀ b, (⟨c, b⟩ : ContactKey BatchId) ∈ s'.toAck ↔
      (⟨c, b⟩ : ContactKey BatchId) ∈ t'.toAck) : SameFor c s' t' := by
  obtain ⟨_, _, _, rfl⟩ := hs'
  obtain ⟨_, _, _, rfl⟩ := ht'
  exact { h with deliveries := hdeliveries, batches := hbatches, toAck := htoAck }

/-- The same change of the deliveries, batches or acks of a contact. -/
theorem change (h : SameFor c s t) {x : Change} (hx : x.Of c) :
    SameFor c (s.change x) (t.change x) := by
  have hexists := exists_change_of hx
  cases x with
  | send c' b messages sentAt =>
    obtain rfl : c' = c := hx
    refine h.congr (hexists s) (hexists t) (fun id => ?_) (fun b' => ?_) h.toAck
    · show (s.addOutstandingBatch c' b messages sentAt).delivery c' id =
        (t.addOutstandingBatch c' b messages sentAt).delivery c' id
      rw [delivery_addOutstandingBatch, delivery_addOutstandingBatch, h.deliveries]
    · rw [sentBatch_send, sentBatch_send, h.batches]
  | ack c' b =>
    obtain rfl : c' = c := hx
    cases hr : s.sentBatch c' b with
    | none => rw [change_ack_of_none hr, change_ack_of_none ((h.batches b).symm.trans hr)]; exact h
    | some r =>
      refine h.congr (hexists s) (hexists t) (fun id => ?_) (fun b' => ?_) ?_
      · show (s.removeAckedBatch c' b).2.delivery c' id = (t.removeAckedBatch c' b).2.delivery c' id
        rw [delivery_removeAckedBatch hr, delivery_removeAckedBatch ((h.batches b).symm.trans hr),
          h.deliveries]
      · rw [sentBatch_ack, sentBatch_ack, h.batches]
      · intro b'
        rw [toAck_change (by simp [Change.parts]), toAck_change (by simp [Change.parts])]
        exact h.toAck b'
  | lose c' b cutoff =>
    obtain rfl : c' = c := hx
    by_cases hlost : ∃ r, s.sentBatch c' b = some r ∧ r.sentAt ≤ cutoff
    · obtain ⟨r, hr, hat⟩ := hlost
      have hr' := (h.batches b).symm.trans hr
      refine h.congr (hexists s) (hexists t) (fun id => ?_) (fun b' => ?_) ?_
      · show (s.removeLostBatch c' b cutoff).2.delivery c' id =
          (t.removeLostBatch c' b cutoff).2.delivery c' id
        rw [delivery_removeLostBatch hr hat, delivery_removeLostBatch hr' hat, h.deliveries]
      · rw [sentBatch_lose hr hat, sentBatch_lose hr' hat, h.batches]
      · intro b'
        rw [toAck_change (by simp [Change.parts]), toAck_change (by simp [Change.parts])]
        exact h.toAck b'
    · have hlost' : ¬ ∃ r, t.sentBatch c' b = some r ∧ r.sentAt ≤ cutoff := by
        rw [← h.batches]
        exact hlost
      rw [(s.lose_cases c' b cutoff).resolve_left hlost,
        (t.lose_cases c' b cutoff).resolve_left hlost']
      exact h
  | see c' id =>
    obtain rfl : c' = c := hx
    refine h.congr (hexists s) (hexists t) (fun a => ?_) h.batches h.toAck
    show (s.setSeenIfVisible c' id).2.delivery c' a = (t.setSeenIfVisible c' id).2.delivery c' a
    rw [delivery_setSeenIfVisible, delivery_setSeenIfVisible, h.deliveries]
  | settle c' ids =>
    obtain rfl : c' = c := hx
    refine h.congr (hexists s) (hexists t) h.deliveries h.batches fun b => ?_
    rw [mem_toAck_settle, mem_toAck_settle, h.toAck]
  | _ => exact hx.elim

/-- The same changes of the deliveries, batches and acks of a contact in turn. -/
theorem changes (h : SameFor c s t) {log : List Change} (hlog : ∀ x ∈ log, x.Of c) :
    SameFor c (s.changes log) (t.changes log) := by
  induction log generalizing s t with
  | nil => exact h
  | cons x rest ih =>
    have hfirst := h.change (hlog x List.mem_cons_self)
    exact ih hfirst fun y hy => hlog y (List.mem_cons_of_mem x hy)

end SameFor

end Memory

end MessageSync
