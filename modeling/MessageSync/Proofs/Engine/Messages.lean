import MessageSync.Proofs.Engine.Basic

/-!
# Running operations on messages

What storing and expiring messages comes to over a store in memory. The messages of a
batch are the changes `accept` in the order of the batch, and then the batch is owed.
-/

namespace MessageSync

/-! ## What is counted -/

namespace Memory

/-- How many of the messages of a contact are new when they arrive in turn. -/
def countNew (s : Memory) (c : ContactId) : List Message → Nat
  | [] => 0
  | m :: rest =>
    let new := m.group ∈ s.subscriptions ∧ m.id ∉ s.messages
    (s.accept m (some c)).countNew c rest + if new then 1 else 0

/-- The bytes of messages that are deleted in turn. -/
def removedBytes (s : Memory) : List MessageId → Nat
  | [] => 0
  | id :: rest =>
    (((s.messages[id]?).map Message.raw).map List.length).getD 0
      + (s.removeMessage id).removedBytes rest

/-- The messages that an expiry deletes. -/
def expiring (s : Memory) (wanted : Nat) : List MessageId :=
  (Message.takeUntil wanted s.byAge).map Message.id

end Memory

/-! ## Storing -/

namespace Engine

open Act

variable (t : Turn Memory)

lemma accept_apply (m : Message) (sender : Option ContactId) (s : Memory) (sink : Sink) :
    Engine.accept m sender (s, sink) =
      if m.group ∈ s.subscriptions ∧ m.id ∉ s.messages then
        (.ok true, ((s.addMessage m sender).2, sink))
      else (.ok false, (s, sink)) := by
  have hgroup : Txn.query (Store.containsSubscription m.group) (s, sink) =
      (.ok (s.subscriptions.contains m.group), (s, sink)) := rfl
  have hadd : Txn.query (Store.addMessage m sender) (s, sink) =
      (.ok (s.addMessage m sender).1, ((s.addMessage m sender).2, sink)) := rfl
  simp only [Engine.accept, Txn.bind_apply, hgroup]
  by_cases hg : m.group ∈ s.subscriptions
  · by_cases hm : m.id ∈ s.messages
    · simp [hg, hm, hadd, Memory.addMessage_of_mem hm]
    · simp [hg, hm, hadd, Memory.addMessage_of_not_mem hm]
  · simp [hg]

lemma acceptAll_apply (c : ContactId) (messages : List Message) (s : Memory) (sink : Sink) :
    Engine.acceptAll c messages (s, sink) =
      (.ok (s.countNew c messages),
        (s.changes (messages.map (.accept · (some c))), sink)) := by
  induction messages generalizing s with
  | nil => rfl
  | cons m rest ih =>
    have hsee (s : Memory) : (discard (Txn.query (Store.setSeenIfVisible c m.id)) :
        Txn Memory Unit) (s, sink) = (.ok (), ((s.setSeenIfVisible c m.id).2, sink)) := rfl
    simp only [Engine.acceptAll, Txn.bind_apply, accept_apply, Memory.countNew, List.map_cons,
      Memory.changes_cons, Memory.change, Memory.accept]
    by_cases hnew : m.group ∈ s.subscriptions ∧ m.id ∉ s.messages
    · simp [hnew, Txn.bind_apply, ih]
    · simp only [hnew, if_false, Bool.false_eq_true, Txn.bind_apply, hsee, ih, Nat.add_zero]

lemma storeLocal_apply (m : Message) :
    Engine.storeLocal m t =
      if m.group ∈ t.engine.store.subscriptions ∧ m.id ∉ t.engine.store.messages then
        (.ok true, t.after [.accept m none] [.messagesAdded none 1])
      else (.ok false, t) := by
  simp only [Engine.storeLocal, bind_apply, transaction, accept_apply]
  by_cases hnew : m.group ∈ t.engine.store.subscriptions ∧ m.id ∉ t.engine.store.messages
  · simp [hnew, Turn.after, Memory.change, Memory.accept, bind_apply]
  · simp only [hnew, if_false]
    rfl

lemma storeBatch_apply (c : ContactId) (batch : ReceivedBatch) :
    Engine.storeBatch c batch t =
      let new := t.engine.store.countNew c batch.messages
      if c ∈ t.engine.store.contacts then
        (.ok new, t.after (batch.messages.map (.accept · (some c)) ++ [.owe c batch.id])
          (if new ≠ 0 then [.messagesAdded (some c) new] else []))
      else (.error (.noSuchContact c), t) := by
  have howe (s : Memory) (sink : Sink) : Txn.query (Store.addBatchToAck c batch.id) (s, sink) =
      (.ok (), (s.change (.owe c batch.id), sink)) := rfl
  simp only [Engine.storeBatch, bind_apply, transaction_requireContact]
  by_cases hc : c ∈ t.engine.store.contacts
  · simp only [hc, if_true, transaction, Txn.bind_apply, acceptAll_apply, howe, Txn.pure_apply]
    by_cases hnew : t.engine.store.countNew c batch.messages = 0
    · simp [hnew, Turn.after, Memory.changes_append]
    · simp [hnew, Turn.after, Memory.changes_append, bind_apply]
  · simp only [hc, if_false]

/-! ## Expiring -/

lemma removeAll_apply (ids : List MessageId) (s : Memory) (sink : Sink) :
    Engine.removeAll ids (s, sink) =
      (.ok (s.removedBytes ids), (s.changes (ids.map .forget), sink)) := by
  induction ids generalizing s with
  | nil => rfl
  | cons id rest ih =>
    have hraw : Txn.query (Store.rawMessage id) (s, sink) =
        (.ok ((s.messages[id]?).map Message.raw), (s, sink)) := rfl
    have hremove : Txn.query (Store.removeMessage id) (s, sink) =
        (.ok (), (s.removeMessage id, sink)) := rfl
    simp only [Engine.removeAll, Txn.bind_apply, hraw, hremove, ih]
    rfl

lemma expire_apply (wanted : Nat) :
    Engine.expire wanted t =
      let ids := t.engine.store.expiring wanted
      let bytes := t.engine.store.removedBytes ids
      (.ok ⟨ids.length, bytes⟩, t.after (ids.map .forget)
        (if ids.length ≠ 0 then [.messagesExpired ids.length bytes] else [])) := by
  have hold (s : Memory) (sink : Sink) : Txn.query (Store.oldMessages wanted) (s, sink) =
      (.ok (s.expiring wanted), (s, sink)) := rfl
  simp only [Engine.expire, bind_apply, transaction, Txn.bind_apply, hold, removeAll_apply,
    Txn.pure_apply]
  by_cases hlen : (t.engine.store.expiring wanted).length = 0
  · simp [hlen, Turn.after]
  · simp [hlen, Turn.after, bind_apply]

end Engine

end MessageSync
