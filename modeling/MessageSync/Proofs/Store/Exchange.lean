import Mathlib.Data.List.Nodup
import Mathlib.Data.List.Perm.Subperm
import MessageSync.Proofs.Engine.Operation
import MessageSync.Proofs.Store.Origin

/-!
# What an exchange leaves in the stores

In an exchange, one store sends batches to a contact, and the other one takes them in and
acknowledges them.

* What goes into a batch is no longer eligible, and all else stays so
  (`Memory.perm_eligible_send`).
* What arrives is stored if its group is subscribed to, and is owed an ack; nothing that was
  stored or owed goes away (`Memory.Grows`).
* A batch awaits its ack (`Memory.Awaits`) until the ack comes, and then its messages are seen
  (`Memory.Confirmed`).
-/

namespace MessageSync

/-! ## Messages that fit -/

namespace Message

lemma totalSize_takeWithin_le (room : Nat) (messages : List Message) :
    totalSize (takeWithin room messages) ≤ room := by
  induction messages generalizing room with
  | nil => exact Nat.zero_le room
  | cons m rest ih =>
    unfold takeWithin
    split
    · have hrest := ih (room - m.size)
      show m.size + totalSize (takeWithin (room - m.size) rest) ≤ room
      omega
    · exact Nat.zero_le room

/-- All messages are taken if there is room for them. -/
lemma takeWithin_eq_self {room : Nat} {messages : List Message}
    (h : totalSize messages ≤ room) : takeWithin room messages = messages := by
  induction messages generalizing room with
  | nil => rfl
  | cons m rest ih =>
    have hsize : m.size + totalSize rest ≤ room := h
    rw [takeWithin, if_pos (by omega), ih (by omega)]

/-- Some message is taken if the first one fits. -/
lemma takeWithin_ne_nil {room : Nat} {messages : List Message} (hne : messages ≠ [])
    (hfits : ∀ m ∈ messages, m.size ≤ room) : takeWithin room messages ≠ [] := by
  cases messages with
  | nil => exact absurd rfl hne
  | cons m rest =>
    rw [takeWithin, if_pos (hfits m List.mem_cons_self)]
    exact List.cons_ne_nil _ _

end Message

namespace Memory

variable {s s' : Memory} {c : ContactId}

/-! ## Sending -/

lemma mem_eligible_send (hs : s.Keyed) {b : BatchId} {ids : List MessageId} {sentAt : Int64}
    (m : Message) : m ∈ (s.change (.send c b ids sentAt)).eligible c ↔
      m ∈ s.eligible c ∧ m.id ∉ ids := by
  have hs' : (s.change (.send c b ids sentAt)).Keyed := hs
  have hrow : (s.change (.send c b ids sentAt)).delivery c m.id = _ :=
    delivery_addOutstandingBatch s c c b ids sentAt m.id
  rw [mem_eligible_iff hs', mem_eligible_iff hs, hrow, and_assoc]
  refine and_congr_right fun _ => ?_
  by_cases hid : m.id ∈ ids
  · -- a message of the batch is no longer new
    rw [if_pos ⟨rfl, hid⟩]
    refine iff_of_false ?_ fun h => h.2 hid
    rintro ⟨d, hd, hel⟩
    obtain ⟨d', -, rfl⟩ := Option.map_eq_some_iff.mp hd
    unfold Delivery.asSent Delivery.eligible at hel
    split at hel
    · simp at hel
    · next hnew => simp [hnew] at hel
  · rw [if_neg fun h => hid h.2, and_iff_left hid]

/-- What goes into a batch is no longer eligible, and the other messages stay so. -/
lemma perm_eligible_send (hs : s.Keyed) {messages : List Message}
    (hsub : messages.Sublist (s.eligible c)) (b : BatchId) (sentAt : Int64) :
    (messages ++ (s.change (.send c b (messages.map Message.id) sentAt)).eligible c).Perm
      (s.eligible c) := by
  have hids := nodup_eligible hs c
  have hafter : (s.change (.send c b (messages.map Message.id) sentAt)).Keyed := hs
  have hdisjoint : messages.Disjoint
      ((s.change (.send c b (messages.map Message.id) sentAt)).eligible c) :=
    fun m hm hm' => ((mem_eligible_send hs m).mp hm').2 (List.mem_map_of_mem hm)
  have hnodup := List.nodup_append'.mpr
    ⟨hids.of_map.sublist hsub, (nodup_eligible hafter c).of_map, hdisjoint⟩
  refine (List.perm_ext_iff_of_nodup hnodup hids.of_map).mpr fun m => ?_
  rw [List.mem_append, mem_eligible_send hs]
  constructor
  · rintro (hm | ⟨hm, -⟩)
    · exact hsub.subset hm
    · exact hm
  · intro hm
    by_cases hid : m.id ∈ messages.map Message.id
    · obtain ⟨m', hm', heq⟩ := List.mem_map.mp hid
      rw [List.inj_on_of_nodup_map hids hm (hsub.subset hm') heq.symm]
      exact .inl hm'
    · exact .inr ⟨hm, hid⟩

end Memory

/-! ## Arriving -/

/-- The changes by which a batch of a contact arrives. -/
def ReceivedBatch.arrival (batch : ReceivedBatch) (c : ContactId) : List Change :=
  batch.messages.map (.accept · (some c)) ++ [.owe c batch.id]

/-- Whether a change is one by which messages or batches arrive. -/
def Change.Arrives : Change → Prop
  | .accept _ _ | .owe _ _ => True
  | _ => False

namespace ReceivedBatch

variable {batch : ReceivedBatch} {batches : List ReceivedBatch} {c : ContactId}

lemma arrives_of_mem {x : Change} (h : x ∈ batch.arrival c) : x.Arrives := by
  rcases List.mem_append.mp h with hm | hb
  · obtain ⟨m, -, rfl⟩ := List.mem_map.mp hm
    trivial
  · rw [List.mem_singleton.mp hb]
    trivial

lemma arrives_of_mem_flatMap {x : Change} (h : x ∈ batches.flatMap (·.arrival c)) :
    x.Arrives := by
  obtain ⟨batch, -, hx⟩ := List.mem_flatMap.mp h
  exact arrives_of_mem hx

lemma accept_mem_arrival {m : Message} {sender : Option ContactId} :
    .accept m sender ∈ batch.arrival c ↔ m ∈ batch.messages ∧ sender = some c := by
  simp [arrival, eq_comm]

/-- The messages that arrive are those of the batches. -/
lemma accept_mem_flatMap {m : Message} {sender : Option ContactId} :
    .accept m sender ∈ batches.flatMap (·.arrival c) ↔
      m ∈ batches.flatMap ReceivedBatch.messages ∧ sender = some c := by
  simp only [List.mem_flatMap, accept_mem_arrival]
  constructor
  · rintro ⟨batch, hbatch, hm, hsender⟩
    exact ⟨⟨batch, hbatch, hm⟩, hsender⟩
  · rintro ⟨⟨batch, hbatch, hm⟩, hsender⟩
    exact ⟨batch, hbatch, hm, hsender⟩

end ReceivedBatch

namespace Memory

variable {s s' : Memory} {c : ContactId}

/-- Whether a store has all that another one has, the same contacts and the same groups. -/
structure Grows (s s' : Memory) : Prop where
  contacts : s'.contacts = s.contacts
  subscriptions : s'.subscriptions = s.subscriptions
  messages : ∀ (id : MessageId) (m : Message), s.messages[id]? = some m →
    s'.messages[id]? = some m
  toAck : ∀ k ∈ s.toAck, k ∈ s'.toAck

lemma Grows.refl (s : Memory) : s.Grows s := ⟨rfl, rfl, fun _ _ h => h, fun _ h => h⟩

lemma Grows.trans {s'' : Memory} (h : s.Grows s') (h' : s'.Grows s'') : s.Grows s'' where
  contacts := h'.contacts.trans h.contacts
  subscriptions := h'.subscriptions.trans h.subscriptions
  messages id m hm := h'.messages id m (h.messages id m hm)
  toAck k hk := h'.toAck k (h.toAck k hk)

lemma grows_change (s : Memory) {x : Change} (hx : x.Arrives) : s.Grows (s.change x) := by
  cases x with
  | accept m sender =>
    refine ⟨(contacts_change (by simp [Change.parts])).1,
      subscriptions_change (by simp [Change.parts]), fun id m' hm' => ?_, fun k hk => ?_⟩
    · rw [change, messages_accept]
      split
      · next hnew =>
        rw [Table.getElem?_insert, if_neg, hm']
        rintro rfl
        exact hnew.2 (Table.mem_of_getElem? hm')
      · exact hm'
    · rw [toAck_change (by simp [Change.parts])]
      exact hk
  | owe c b => exact ⟨rfl, rfl, fun _ _ h => h, fun k hk => Std.ExtTreeMap.mem_insert.mpr (.inr hk)⟩
  | _ => exact hx.elim

theorem grows_changes (s : Memory) {log : List Change} (hlog : ∀ x ∈ log, x.Arrives) :
    s.Grows (s.changes log) := by
  induction log generalizing s with
  | nil => exact .refl s
  | cons x rest ih =>
    obtain ⟨hx, hrest⟩ := List.forall_mem_cons.mp hlog
    exact (s.grows_change hx).trans (ih _ hrest)

/-- A message of a group that is subscribed to is stored when it arrives, if it was not. -/
lemma mem_messages_accept {m : Message} (hm : m.group ∈ s.subscriptions)
    (sender : Option ContactId) : m.id ∈ (s.change (.accept m sender)).messages := by
  rw [change, messages_accept]
  by_cases hstored : m.id ∈ s.messages
  · rw [if_neg fun h => h.2 hstored]
    exact hstored
  · rw [if_pos ⟨hm, hstored⟩]
    exact Std.ExtTreeMap.mem_insert_self

variable {log : List Change}

/-- What arrives is there in the end, since nothing goes away. -/
lemma exists_grows_of_mem (hlog : ∀ x ∈ log, x.Arrives) {x : Change} (hx : x ∈ log) :
    ∃ t, s.Grows t ∧ (t.change x).Grows (s.changes log) := by
  obtain ⟨before, after, rfl⟩ := List.append_of_mem hx
  obtain ⟨hbefore, hrest⟩ := List.forall_mem_append.mp hlog
  refine ⟨s.changes before, s.grows_changes hbefore, ?_⟩
  rw [changes_append, changes_cons]
  exact grows_changes _ (List.forall_mem_cons.mp hrest).2

lemma owed_of_mem (hlog : ∀ x ∈ log, x.Arrives) {b : BatchId} (hb : .owe c b ∈ log) :
    (⟨c, b⟩ : ContactKey BatchId) ∈ (s.changes log).toAck := by
  obtain ⟨t, -, hgrows⟩ := exists_grows_of_mem (s := s) hlog hb
  exact hgrows.toAck _ Std.ExtTreeMap.mem_insert_self

/-- A message that arrives is stored as it is, if its group is subscribed to, no message was
stored under its identifier, and no other one with it arrives. -/
theorem message_of_mem (hs : (s.changes log).Keyed) (hlog : ∀ x ∈ log, x.Arrives) {m : Message}
    {sender : Option ContactId} (hm : .accept m sender ∈ log) (hgroup : m.group ∈ s.subscriptions)
    (hnew : m.id ∉ s.messages)
    (halone : ∀ m' sender', .accept m' sender' ∈ log → m'.id = m.id → m' = m) :
    (s.changes log).messages[m.id]? = some m := by
  obtain ⟨t, hbefore, hafter⟩ := exists_grows_of_mem (s := s) hlog hm
  have hmem : m.id ∈ (t.change (.accept m sender)).messages :=
    mem_messages_accept (by rw [hbefore.subscriptions]; exact hgroup) sender
  obtain ⟨m', hm'⟩ := (Table.mem_iff_exists _ _).mp hmem
  have hstored := hafter.messages m.id m' hm'
  -- it can only have come from what arrives
  rcases messages_of_changes hstored with hold | ⟨sender', harrives⟩
  · exact absurd ((Table.mem_iff_exists _ _).mpr ⟨m', hold⟩) hnew
  · obtain rfl := halone m' sender' harrives (hs hstored)
    exact hstored

variable {batches : List ReceivedBatch}

/-- All batches that arrive are owed an ack. -/
lemma owed_of_arrival {batch : ReceivedBatch} (h : batch ∈ batches) :
    batch.id ∈ (s.changes (batches.flatMap (·.arrival c))).toAckOf c := by
  have howed : .owe c batch.id ∈ batches.flatMap (·.arrival c) :=
    List.mem_flatMap.mpr ⟨batch, h, List.mem_append_right _ (List.mem_singleton.mpr rfl)⟩
  rw [mem_toAckOf_iff]
  exact owed_of_mem (fun _ => ReceivedBatch.arrives_of_mem_flatMap) howed

/-- If no two messages with the same identifier arrive, each one is stored as it is, if its
group is subscribed to and no message was stored under its identifier. -/
lemma message_of_arrival (hs : (s.changes (batches.flatMap (·.arrival c))).Keyed)
    (hids : ((batches.flatMap ReceivedBatch.messages).map Message.id).Nodup) {m : Message}
    (hm : m ∈ batches.flatMap ReceivedBatch.messages) (hgroup : m.group ∈ s.subscriptions)
    (hnew : m.id ∉ s.messages) :
    (s.changes (batches.flatMap (·.arrival c))).messages[m.id]? = some m := by
  refine message_of_mem hs (fun _ => ReceivedBatch.arrives_of_mem_flatMap)
    (ReceivedBatch.accept_mem_flatMap.mpr ⟨hm, rfl⟩) hgroup hnew fun m' sender' h hid => ?_
  obtain ⟨hm', -⟩ := ReceivedBatch.accept_mem_flatMap.mp h
  exact List.inj_on_of_nodup_map hids hm' hm hid

/-! ## Acknowledging -/

/-- Whether a batch of messages that the contact may see is outstanding. -/
structure Awaits (s : Memory) (c : ContactId) (b : BatchId) (ids : List MessageId) : Prop where
  outstanding : ∃ sentAt, s.sentBatch c b = some ⟨ids, sentAt⟩
  visible : ∀ id ∈ ids, (s.delivery c id).isSome

/-- Whether the messages of a batch are seen, and the batch is not outstanding. -/
structure Confirmed (s : Memory) (c : ContactId) (b : BatchId) (ids : List MessageId) : Prop where
  settled : s.sentBatch c b = none
  seen : ∀ id ∈ ids, s.status c id = some .seen

variable {b : BatchId} {ids : List MessageId}

/-- Sending hides no message. -/
lemma visible_send {id : MessageId} (h : (s.delivery c id).isSome) (b : BatchId)
    (ids : List MessageId) (sentAt : Int64) :
    ((s.change (.send c b ids sentAt)).delivery c id).isSome := by
  show ((s.addOutstandingBatch c b ids sentAt).delivery c id).isSome
  rw [delivery_addOutstandingBatch]
  split
  · rw [Option.isSome_map]
    exact h
  · exact h

lemma awaits_send (h : ∀ id ∈ ids, (s.delivery c id).isSome) (b : BatchId) (sentAt : Int64) :
    (s.change (.send c b ids sentAt)).Awaits c b ids where
  outstanding := ⟨sentAt, by rw [sentBatch_send, if_pos rfl]⟩
  visible id hid := visible_send (h id hid) b ids sentAt

/-- A batch still awaits its ack when another one is sent. -/
lemma Awaits.send (h : s.Awaits c b ids) {b' : BatchId} (hb : b ≠ b') (ids' : List MessageId)
    (sentAt : Int64) : (s.change (.send c b' ids' sentAt)).Awaits c b ids where
  outstanding := by
    rw [sentBatch_send, if_neg hb]
    exact h.outstanding
  visible id hid := visible_send (h.visible id hid) b' ids' sentAt

/-- The changes of sending batches in turn. -/
def sends (c : ContactId) (sent : List SentBatch) (now : Int64) : List Change :=
  sent.map fun x => .send c x.id x.messages now

lemma Awaits.sends (h : s.Awaits c b ids) {sent : List SentBatch} (hb : ∀ x ∈ sent, b ≠ x.id)
    (now : Int64) : (s.changes (sends c sent now)).Awaits c b ids := by
  induction sent generalizing s with
  | nil => exact h
  | cons x rest ih =>
    obtain ⟨hx, hrest⟩ := List.forall_mem_cons.mp hb
    exact ih (h.send hx x.messages now) hrest

/-- Of batches that are sent in turn, each under an identifier of its own, all await their
acks. -/
theorem awaits_sends {sent : List SentBatch} (hids : (sent.map SentBatch.id).Nodup)
    (hvisible : ∀ x ∈ sent, ∀ id ∈ x.messages, (s.delivery c id).isSome) (now : Int64)
    {x : SentBatch} (hx : x ∈ sent) :
    (s.changes (sends c sent now)).Awaits c x.id x.messages := by
  induction sent generalizing s with
  | nil => cases hx
  | cons first rest ih =>
    obtain ⟨hnew, hrest⟩ := List.nodup_cons.mp hids
    obtain ⟨hfirst, hothers⟩ := List.forall_mem_cons.mp hvisible
    rcases List.mem_cons.mp hx with rfl | hmem
    · refine (awaits_send hfirst x.id now).sends (fun y hy heq => hnew ?_) now
      exact heq ▸ List.mem_map_of_mem hy
    · refine ih hrest (fun y hy id hid => ?_) hmem
      exact visible_send (hothers y hy id hid) first.id first.messages now

/-- The ack of a batch confirms it. -/
lemma Awaits.ack (h : s.Awaits c b ids) : (s.change (.ack c b)).Confirmed c b ids where
  settled := by rw [sentBatch_ack, if_pos rfl]
  seen id hid := by
    obtain ⟨sentAt, hr⟩ := h.outstanding
    obtain ⟨d, hd⟩ := Option.isSome_iff_exists.mp (h.visible id hid)
    rw [status_ack hr, if_pos hid, status, hd]
    rfl

/-- A batch still awaits its ack when another one is acknowledged. -/
lemma Awaits.ack_other (h : s.Awaits c b ids) {b' : BatchId} (hb : b ≠ b') :
    (s.change (.ack c b')).Awaits c b ids where
  outstanding := by
    rw [sentBatch_ack, if_neg hb]
    exact h.outstanding
  visible id hid := by
    have hvisible := h.visible id hid
    cases hr : s.sentBatch c b' with
    | none =>
      rw [change_ack_of_none hr]
      exact hvisible
    | some r =>
      show ((s.removeAckedBatch c b').2.delivery c id).isSome
      rw [delivery_removeAckedBatch hr]
      split
      · rw [Option.isSome_map]
        exact hvisible
      · exact hvisible

/-- What was confirmed stays so. -/
lemma Confirmed.ack (h : s.Confirmed c b ids) (b' : BatchId) :
    (s.change (.ack c b')).Confirmed c b ids where
  settled := by
    rw [sentBatch_ack]
    split
    · rfl
    · exact h.settled
  seen id hid := by
    have hseen := h.seen id hid
    cases hr : s.sentBatch c b' with
    | none =>
      rw [change_ack_of_none hr]
      exact hseen
    | some r =>
      rw [status_ack hr, hseen]
      split <;> rfl

lemma Confirmed.acks (h : s.Confirmed c b ids) (acked : List BatchId) :
    (s.changes (acked.map (.ack c))).Confirmed c b ids := by
  induction acked generalizing s with
  | nil => exact h
  | cons b' rest ih => exact ih (h.ack b')

/-- Of some batches that are acknowledged in turn, those that awaited their acks are confirmed,
and the others still wait. -/
theorem Awaits.acks (h : s.Awaits c b ids) (acked : List BatchId) :
    if b ∈ acked then (s.changes (acked.map (.ack c))).Confirmed c b ids
    else (s.changes (acked.map (.ack c))).Awaits c b ids := by
  induction acked generalizing s with
  | nil => exact h
  | cons b' rest ih =>
    by_cases hb : b = b'
    · subst hb
      rw [if_pos List.mem_cons_self]
      exact h.ack.acks rest
    · have hrest := ih (h.ack_other hb)
      simp only [List.mem_cons, hb, false_or]
      exact hrest

lemma nodup_toAckOf (s : Memory) (c : ContactId) : (s.toAckOf c).Nodup := by
  have hkeys : s.toAck.keys.Nodup :=
    Std.ExtTreeMap.distinct_keys.imp fun h h' => h (Std.LawfulEqOrd.compare_eq_iff_eq.mpr h')
  refine List.Nodup.filterMap (fun k k' b hb hb' => ?_) hkeys
  obtain ⟨hc, hb⟩ := Option.ite_none_right_eq_some.mp hb
  obtain ⟨hc', hb'⟩ := Option.ite_none_right_eq_some.mp hb'
  exact ContactKey.ext (hc.trans hc'.symm) (Option.some.inj (hb.trans hb'.symm))

/-- Fewer batches are to be acknowledged once some of them were. -/
lemma length_toAckOf_settle_lt {acked : List BatchId} (hacked : acked ≠ [])
    (hsub : ∀ b ∈ acked, b ∈ s.toAckOf c) :
    ((s.change (.settle c acked)).toAckOf c).length < (s.toAckOf c).length := by
  obtain ⟨b, hb⟩ := List.exists_mem_of_ne_nil acked hacked
  have hrest : (s.change (.settle c acked)).toAckOf c ⊆
      (s.toAckOf c).filter fun b => b ∉ acked := by
    intro b' hb'
    rw [mem_toAckOf_iff, mem_toAck_settle] at hb'
    rw [List.mem_filter, mem_toAckOf_iff, decide_eq_true_eq]
    exact ⟨hb'.2, hb'.1⟩
  have hle := (List.subperm_of_subset (nodup_toAckOf _ c) hrest).length_le
  have hlt : ((s.toAckOf c).filter fun b => b ∉ acked).length < (s.toAckOf c).length :=
    List.length_filter_lt_length_iff_exists.mpr ⟨b, hsub b hb, by simpa using hb⟩
  omega

end Memory

end MessageSync
