import MessageSync.Engine.Basic

/-!
# Batches and acknowledgements

A batch takes messages that may go to a contact, oldest first or as the contact requested
them. It stays outstanding until the contact acknowledges it or it counts as lost, after
which its messages may be sent again.
-/

namespace MessageSync

/-- A batch that was written. It is outstanding unless it has no messages. -/
@[ext]
structure SentBatch where
  id : BatchId
  messages : List MessageId
deriving DecidableEq

/-- The batch, unless it has no messages and is therefore not recorded. -/
def SentBatch.recorded? (batch : SentBatch) : Option SentBatch :=
  if batch.messages = [] then none else some batch

namespace Engine

variable {σ : Type} [Store σ]

open Act

/-! ## Sending -/

/-- Puts the messages that a query finds into a batch, up to the first that does not fit. -/
def fill (find : MessageId → Query σ (Option Bytes)) (writer : BatchWriter) :
    List MessageId → Txn σ (List MessageId × BatchWriter)
  | [] => return ([], writer)
  | id :: rest => do
    match ← Txn.query (find id) with
    | none => fill find writer rest
    | some raw =>
      match writer.write raw with
      -- a smaller message further on is not tried
      | none => return ([], writer)
      | some writer =>
        let (sent, writer) ← fill find writer rest
        return (id :: sent, writer)

/-- Writes the batch, and records it if it has messages. -/
def finishBatch (c : ContactId) (writer : BatchWriter) (nonce : Nonce) (sent : List MessageId)
    (now : Int64) : Txn σ SentBatch := do
  let id ← Txn.write fun sink =>
    let (result, _, sink) := writer.finish nonce sink
    (result, sink)
  if sent ≠ [] then Txn.query (Store.addOutstandingBatch c id sent now)
  return ⟨id, sent⟩

/-- Reports a batch that has messages. -/
def reportSent (c : ContactId) (batch : SentBatch) : Act σ Unit := do
  if batch.messages ≠ [] then emit (.batchSent c batch.id batch.messages.length)

/-- Writes a batch of the oldest messages that may go to a contact. -/
def sendOldest (c : ContactId) (writer : BatchWriter) (nonce : Nonce) : Act σ SentBatch := do
  let now ← clock
  let batch ← transaction do
    Txn.requireContact c
    let candidates ← Txn.query (Store.sendableMessages c writer.capacity)
    let (sent, writer) ← fill Store.rawMessage writer candidates
    finishBatch c writer nonce sent now
  reportSent c batch
  return batch

/-- Sends the oldest messages that may go to a contact. If none of them fits, a batch without
messages is written, and there is none in the answer. -/
def generateBatch (c : ContactId) (writer : BatchWriter) (nonce : Nonce) :
    Act σ (Option SentBatch) := do
  return (← sendOldest c writer nonce).recorded?

/-- Sends those of the requested messages that may still go to a contact, each once. -/
def generateBatchFrom (c : ContactId) (writer : BatchWriter) (nonce : Nonce)
    (requested : List MessageId) : Act σ SentBatch := do
  let now ← clock
  let batch ← transaction do
    Txn.requireContact c
    let (sent, writer) ← fill (Store.rawIfSendable c) writer requested.eraseDups
    finishBatch c writer nonce sent now
  reportSent c batch
  return batch

/-! ## Acknowledging -/

/-- Acknowledges received batches, as many as an ack takes; the others stay. -/
def generateAck (c : ContactId) (writer : IdWriter .batch) : Act σ (List BatchId) := do
  let most := (← settings).maxAckIds
  transaction do
    Txn.requireContact c
    let pending ← Txn.query (Store.batchesToAck c)
    let (acked, writer) := writer.writeAll (pending.take most)
    Txn.write fun sink =>
      let (result, _, sink) := writer.finish .ack sink
      (result, sink)
    Txn.query (Store.removeBatchesToAck c acked)
    return acked

/-- Removes acknowledged batches in turn. Answers those that had a visible message. -/
def removeAcked (c : ContactId) : List BatchId → Txn σ (List BatchId)
  | [] => return []
  | id :: rest => do
    let seen ← Txn.query (Store.removeAckedBatch c id)
    let acked ← removeAcked c rest
    return if seen.isEmpty then acked else id :: acked

/-- Reports events in turn. -/
def emitAll : List Event → Act σ Unit
  | [] => return ()
  | e :: rest => do
    emit e
    emitAll rest

/-- Takes note of an ack. Batches that are not outstanding are ignored. -/
def receiveAck (c : ContactId) (batches : List BatchId) : Act σ Unit := do
  let acked ← transaction do
    Txn.requireContact c
    removeAcked c batches
  emitAll (acked.map (Event.batchAcked c))

/-! ## Losing -/

/-- The latest time of sending that makes a batch count as lost. It stops at the end of
the range of times. -/
def lossCutoff (config : SyncConfig) (now : Int64) : Int64 :=
  let after : Int := min (config.retransmitAfter : Int) Int64.maxValue.toInt
  Int64.ofInt (max (now.toInt - after) Int64.minValue.toInt)

/-- The batches of a contact that count as lost. -/
def lostCandidates (c : ContactId) (cutoff : Int64) : Act σ (List BatchId) :=
  askAbout c (Store.lostBatches c cutoff)

/-- Removes one batch that counts as lost, if it still does. Answers whether it did. -/
def loseBatch (c : ContactId) (cutoff : Int64) (id : BatchId) : Act σ Bool := do
  match ← askAbout c (Store.removeLostBatch c id cutoff) with
  | none => return false
  | some messages =>
    emit (.batchLost c id messages.length)
    return true

/-- Removes lost batches, each in a transaction of its own, so that an ack may come in
between. After the first one is reported, its listener gets to do something. -/
def loseAll (c : ContactId) (cutoff : Int64) (listener : Act σ Unit) :
    List BatchId → Act σ (List BatchId)
  | [] => return []
  | id :: rest => do
    if ← loseBatch c cutoff id then
      listener
      -- it is called once, and what it did is seen by the transactions to come
      return id :: (← loseAll c cutoff (pure ()) rest)
    else loseAll c cutoff listener rest

/-- Makes the messages of lost batches new again. `listener` is what is done when the
first of them is reported. -/
def findLostHeard (c : ContactId) (listener : Act σ Unit) : Act σ (List BatchId) := do
  let cutoff := lossCutoff (← settings) (← clock)
  let candidates ← lostCandidates c cutoff
  loseAll c cutoff listener candidates

/-- Makes the messages of lost batches new again, and answers these batches. -/
def findLost (c : ContactId) : Act σ (List BatchId) := findLostHeard c (pure ())

end Engine

end MessageSync
