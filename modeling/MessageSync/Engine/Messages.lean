import MessageSync.Engine.Basic
import MessageSync.SampleMessage

/-!
# Storing and expiring messages

Messages come from this node or in batches from contacts. Only those of groups that this
node is subscribed to are stored. Every batch is to be acknowledged, whatever was in it.
-/

namespace MessageSync

/-- What an expiry freed. -/
@[ext]
structure Expired where
  count : Nat
  bytes : Nat
deriving DecidableEq

namespace Engine

variable {σ : Type} [Store σ]

open Act

/-! ## Storing -/

/-- Stores a message if this node is subscribed to its group. Answers whether it is new. -/
def accept (m : Message) (sender : Option ContactId) : Txn σ Bool := do
  if ← Txn.query (Store.containsSubscription m.group) then
    Txn.query (Store.addMessage m sender)
  else return false

/-- Stores a message that was written here. -/
def storeLocal (m : Message) : Act σ Bool := do
  let stored ← transaction (accept m none)
  if stored then emit (.messagesAdded none 1)
  return stored

/-- Stores the messages of a contact in turn, and counts the new ones. Of a message that
is known or unwanted, it is known afterwards that the contact has it. -/
def acceptAll (c : ContactId) : List Message → Txn σ Nat
  | [] => return 0
  | m :: rest => do
    if ← accept m (some c) then return (← acceptAll c rest) + 1
    else
      -- for a message that is not stored there is no delivery to mark
      discard (Txn.query (Store.setSeenIfVisible c m.id))
      acceptAll c rest

/-- Stores the messages of a batch, and remembers to acknowledge it. -/
def storeBatch (c : ContactId) (batch : ReceivedBatch) : Act σ Nat := do
  let stored ← transaction do
    Txn.requireContact c
    let stored ← acceptAll c batch.messages
    -- also when nothing was new: the contact waits for the ack
    Txn.query (Store.addBatchToAck c batch.id)
    return stored
  if stored ≠ 0 then emit (.messagesAdded (some c) stored)
  return stored

/-- Stores a message that was written here, once the gate is open. -/
def addLocal (m : Message) : Act σ (Passage Bool) := throughGate (storeLocal m)

/-- Stores a batch of a contact, once the gate is open. Answers how many of its messages
were new. -/
def receiveBatch (c : ContactId) (batch : ReceivedBatch) : Act σ (Passage Nat) :=
  throughGate (storeBatch c batch)

/-! ## Expiring -/

/-- Deletes messages in turn, and counts their bytes. -/
def removeAll : List MessageId → Txn σ Nat
  | [] => return 0
  | id :: rest => do
    let raw ← Txn.query (Store.rawMessage id)
    Txn.query (Store.removeMessage id)
    return ((raw.map List.length).getD 0) + (← removeAll rest)

/-- Deletes the oldest messages until so many bytes are freed. -/
def expire (wanted : Nat) : Act σ Expired := do
  let expired ← transaction do
    let old ← Txn.query (Store.oldMessages wanted)
    return { count := old.length, bytes := ← removeAll old }
  if expired.count ≠ 0 then emit (.messagesExpired expired.count expired.bytes)
  return expired

/-- The bytes of all messages. -/
def storedBytes : Act σ Nat := ask Store.totalMessageSize

end Engine

end MessageSync
