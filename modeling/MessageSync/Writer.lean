import MessageSync.Error
import MessageSync.Packet.Encode

/-!
# Sinks and packet writers

A sink takes the bytes of packets, up to a limit if it has one. The writers collect what
goes into one packet, refuse what does not fit, and hand over the packet when they are
finished, after which they are empty again.
-/

namespace MessageSync

/-! ## Sinks -/

/-- Where packets are written. -/
structure Sink where
  /-- All bytes that were taken, in order. -/
  taken : Bytes := []
  /-- How many bytes the sink takes in all. -/
  limit : Option Nat := none
  /-- Whether flushing fails. -/
  flushFails : Bool := false
deriving DecidableEq

namespace Sink

/-- Writes bytes. A sink that cannot take them all takes as many as it can. -/
def write (sink : Sink) (bytes : Bytes) : Except SinkError Unit × Sink :=
  match sink.limit with
  | none => (.ok (), { sink with taken := sink.taken ++ bytes })
  | some limit =>
    let room := limit - sink.taken.length
    if bytes.length ≤ room then (.ok (), { sink with taken := sink.taken ++ bytes })
    else (.error .closed, { sink with taken := sink.taken ++ bytes.take room })

/-- Writes a packet and flushes. -/
def send (sink : Sink) (packet : Packet) : Except SinkError Unit × Sink :=
  match sink.write packet.encode with
  | (.error e, sink) => (.error e, sink)
  | (.ok (), sink) => if sink.flushFails then (.error .flushFailed, sink) else (.ok (), sink)

end Sink

/-! ## Batches -/

/-- Collects raw messages for one batch. -/
@[ext]
structure BatchWriter where
  /-- The most raw bytes of a batch. -/
  limit : Nat
  /-- The most messages of a batch, if that is limited. -/
  mostMessages : Option Nat
  /-- The raw bytes of the messages so far. -/
  used : Nat
  messages : List Bytes
deriving DecidableEq

namespace BatchWriter

/-- A writer without messages. No batch is larger than a packet may be. -/
def fresh (limit : Nat) (mostMessages : Option Nat) : BatchWriter :=
  ⟨min limit Packet.longest, mostMessages, 0, []⟩

/-- How many raw bytes still fit. -/
def capacity (w : BatchWriter) : Nat := w.limit - w.used

/-- Whether there are as many messages as there may be. -/
def isFull (w : BatchWriter) : Bool :=
  match w.mostMessages with
  | some most => most ≤ w.messages.length
  | none => false

/-- The writer with one more message, if that fits. -/
def write (w : BatchWriter) (raw : Bytes) : Option BatchWriter :=
  if w.isFull ∨ w.capacity < raw.length then none
  else some { w with used := w.used + raw.length, messages := w.messages ++ [raw] }

/-- The batch of the collected messages. -/
def batch (w : BatchWriter) (nonce : Nonce) : Batch := ⟨nonce, w.messages⟩

/-- The writer without its messages. -/
def empty (w : BatchWriter) : BatchWriter := { w with used := 0, messages := [] }

/-- Writes the batch and starts the next one. The messages are gone even if the sink
fails. -/
def finish (w : BatchWriter) (nonce : Nonce) (sink : Sink) :
    Except SinkError BatchId × BatchWriter × Sink :=
  let batch := w.batch nonce
  match sink.send (.batch batch) with
  | (.ok (), sink) => (.ok batch.id, w.empty, sink)
  | (.error e, sink) => (.error e, w.empty, sink)

end BatchWriter

/-! ## Acks and offers -/

/-- Collects identifiers for one ack or one offer. -/
@[ext]
structure IdWriter (kind : IdKind) where
  most : Nat
  ids : List (Id kind)
deriving DecidableEq

namespace IdWriter

variable {kind : IdKind}

/-- A writer without identifiers. -/
def fresh (most : Nat) : IdWriter kind := ⟨most, []⟩

/-- The writer with one more identifier, if that fits. -/
def write (w : IdWriter kind) (id : Id kind) : Option (IdWriter kind) :=
  if w.most ≤ w.ids.length then none else some { w with ids := w.ids ++ [id] }

/-- Adds identifiers in turn until one does not fit. Returns those that were added. -/
def writeAll (w : IdWriter kind) : List (Id kind) → List (Id kind) × IdWriter kind
  | [] => ([], w)
  | id :: rest =>
    match w.write id with
    | none => ([], w)
    | some w =>
      let (added, w) := w.writeAll rest
      (id :: added, w)

/-- Writes the packet of the collected identifiers and starts the next one. -/
def finish (w : IdWriter kind) (packet : List (Id kind) → Packet) (sink : Sink) :
    Except SinkError Unit × IdWriter kind × Sink :=
  let (result, sink) := sink.send (packet w.ids)
  (result, { w with ids := [] }, sink)

end IdWriter

/-- A writer of acks with at most `most` batches, or as many as an ack may have. -/
def AckWriter.fresh (most : Option Nat) : IdWriter .batch :=
  .fresh (min (most.getD Packet.mostAcked) Packet.mostAcked)

/-- A writer of offers of at most `most` messages, or as many as an offer may have. -/
def OfferWriter.fresh (most : Option Nat) : IdWriter .message :=
  .fresh (min (most.getD Packet.mostOffered) Packet.mostOffered)

end MessageSync
