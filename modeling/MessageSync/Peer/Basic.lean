import MessageSync.Engine.Operation

/-!
# Peers

A peer is an engine that keeps the events it reported and reads one shared group.
`deliverBatch` and `deliverAck` carry one packet from a peer to another: it is written,
decoded from its bytes, and received.
-/

namespace MessageSync

/-- An engine with all the events that it reported. -/
structure Peer (σ : Type) where
  engine : Engine σ
  events : List Event

namespace Peer

variable {σ τ α : Type} [Store σ] [Store τ]

/-! ## Setting up -/

/-- The time at which the clocks of peers start. -/
def epoch : Int64 := 1700000000000

/-- The most raw bytes of a batch between peers. -/
def capacity : Nat := 64 * 1024

/-- The group that all peers read. -/
def group : Group := .ofName "testkit" (utf8 "shared")

/-- The timestamp of the subscriptions that peers assume of each other. -/
def subscribedAt : Int64 := 1

/-- What comes of an operation, what it wrote to an empty sink, and the peer after it. -/
def perform (p : Peer σ) (act : Act σ α) (sink : Sink) : Except SyncError α × Bytes × Peer σ :=
  let (result, t) := act.runOn p.engine sink
  (result, t.sink.taken, ⟨t.engine, p.events ++ t.events⟩)

/-- A peer over a store. -/
def fresh (store : σ) (config : SyncConfig) : Peer σ :=
  ((⟨.start store config epoch, []⟩ : Peer σ).perform (Engine.subscribe group) {}).2.2

/-- Adds a contact that reads the shared group. -/
def addContact (p : Peer σ) : Except SyncError ContactId × Peer σ :=
  let act : Act σ ContactId := do
    let c ← Engine.addContact ∅
    discard (Engine.receiveSubscriptions c ⟨[group], subscribedAt⟩)
    return c
  let (result, _, p) := p.perform act {}
  (result, p)

/-- Moves the clock. -/
def advance (p : Peer σ) (milliseconds : Int64) : Peer σ :=
  { p with engine := { p.engine with now := p.engine.now + milliseconds } }

/-- Writes a message to the shared group, one millisecond later. -/
def post (p : Peer σ) (author : Option AuthorId) (body : Bytes) : Message × Peer σ :=
  let p := p.advance 1
  let m := sampleMessage group.id author p.engine.now body
  (m, (p.perform (Engine.addLocal m) {}).2.2)

/-! ## Delivering -/

/-- The batch in the bytes of a packet. -/
def receivedBatch (bytes : Bytes) : Except Violation ReceivedBatch := do
  match ← Packet.decode bytes with
  | .batch b => b.parse parseSample
  | _ => throw .malformedPacket

/-- The ack in the bytes of a packet. -/
def receivedAck (bytes : Bytes) : Except Violation (List BatchId) := do
  match ← Packet.decode bytes with
  | .ack batches => return batches
  | _ => throw .malformedPacket

/-- Sends a batch from `p`, where `q` is contact `there`, to `q`, where `p` is contact
`here`. Answers the batch unless it was empty; an empty batch is not delivered. -/
def deliverBatch (p : Peer σ) (there : ContactId) (q : Peer τ) (here : ContactId)
    (nonce : Nonce) : Except SyncError (Option BatchId) × Peer σ × Peer τ :=
  match p.perform (Engine.generateBatch there (.fresh capacity none) nonce) {} with
  | (.error e, _, p) => (.error e, p, q)
  | (.ok none, _, p) => (.ok none, p, q)
  | (.ok (some sent), bytes, p) =>
    match receivedBatch bytes with
    | .error v => (.error (.violation v), p, q)
    | .ok batch =>
      match q.perform (Engine.receiveBatch here batch) {} with
      | (.error e, _, q) => (.error e, p, q)
      | (.ok _, _, q) => (.ok (some sent.id), p, q)

/-- Sends the acks that `p` owes to `q`, which are counted. -/
def deliverAck (p : Peer σ) (there : ContactId) (q : Peer τ) (here : ContactId) :
    Except SyncError Nat × Peer σ × Peer τ :=
  match p.perform (Engine.generateAck there (AckWriter.fresh none)) {} with
  | (.error e, _, p) => (.error e, p, q)
  | (.ok acked, bytes, p) =>
    match receivedAck bytes with
    | .error v => (.error (.violation v), p, q)
    | .ok batches =>
      match q.perform (Engine.receiveAck here batches) {} with
      | (.error e, _, q) => (.error e, p, q)
      | (.ok (), _, q) => (.ok acked.length, p, q)

/-! ## What a peer knows -/

/-- The answer of a query that leaves the peer alone. -/
def view (p : Peer σ) (q : Query σ α) : Except StoreError α := (q p.engine.store).1

/-- The delivery of a message to a contact. -/
def status (p : Peer σ) (c : ContactId) (id : MessageId) : Except StoreError (Option Delivery) :=
  p.view (Store.status c id)

/-- The outstanding batches of a contact. -/
def outstanding (p : Peer σ) (c : ContactId) : Except StoreError (List OutstandingBatch) :=
  p.view (Store.outstandingBatches c)

/-- Whether a message is stored. -/
def hasMessage (p : Peer σ) (id : MessageId) : Except StoreError Bool :=
  p.view (Store.containsMessage id)

/-- How many events pass a test. -/
def countEvents (p : Peer σ) (test : Event → Bool) : Nat := p.events.countP test

/-- Forgets the events so far. -/
def clearEvents (p : Peer σ) : Peer σ := { p with events := [] }

end Peer

end MessageSync
