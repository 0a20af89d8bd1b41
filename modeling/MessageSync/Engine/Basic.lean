import MessageSync.Config
import MessageSync.Event
import MessageSync.Gate
import MessageSync.Store.Basic
import MessageSync.Writer

/-!
# The engine and its transactions

An operation of the engine is an `Act`: it starts with the engine and a sink, and ends
with both, with the events it reported, and with an answer or an error. Inside an act the
store is only reached through transactions. A transaction that fails leaves the store as
it was; bytes that it wrote to the sink are not taken back.

Operations that store new messages pass through the write gate first.
-/

namespace MessageSync

/-! ## State -/

/-- A node's engine over a store. -/
structure Engine (σ : Type) where
  store : σ
  config : SyncConfig
  /-- The clock, in milliseconds of Unix time. -/
  now : Int64
  gate : Gate
  /-- The contacts whose offers are being answered. -/
  openOffers : Table ContactId Unit

/-- The engine over a store, at this time, with its gate open. -/
def Engine.start {σ : Type} (store : σ) (config : SyncConfig) (now : Int64) : Engine σ :=
  ⟨store, config, now, .opened, ∅⟩

/-- What an operation works on. -/
structure Turn (σ : Type) where
  engine : Engine σ
  /-- The events so far, in order. -/
  events : List Event
  /-- Where packets are written. -/
  sink : Sink

/-! ## Transactions -/

/-- A part of an operation that happens as a whole: it reaches the store and the sink. -/
abbrev Txn (σ : Type) := ExceptT SyncError (StateM (σ × Sink))

namespace Txn

variable {σ α : Type}

/-- Asks the store. -/
def query (q : Query σ α) : Txn σ α := fun (store, sink) =>
  match q store with
  | (.ok a, store) => (.ok a, (store, sink))
  | (.error e, store) => (.error (.storage e), (store, sink))

/-- Fails unless there is such a contact. -/
def requireContact [Store σ] (c : ContactId) : Txn σ Unit := do
  if ← query (Store.containsContact c) then return () else throw (.noSuchContact c)

/-- Does something with the sink. -/
def write (f : Sink → Except SinkError α × Sink) : Txn σ α := fun (store, sink) =>
  match f sink with
  | (.ok a, sink) => (.ok a, (store, sink))
  | (.error e, sink) => (.error (.sink e), (store, sink))

/-- Writes a packet. -/
def send (packet : Packet) : Txn σ Unit := write (·.send packet)

end Txn

/-! ## Operations -/

/-- An operation of the engine. -/
abbrev Act (σ : Type) := ExceptT SyncError (StateM (Turn σ))

namespace Act

variable {σ α : Type}

/-- Runs a transaction. If it fails, the store is as it was. -/
def transaction (body : Txn σ α) : Act σ α := fun t =>
  match body (t.engine.store, t.sink) with
  | (.ok a, (store, sink)) => (.ok a, { t with engine := { t.engine with store }, sink })
  -- what was written stays written
  | (.error e, (_, sink)) => (.error e, { t with sink })

/-- A transaction of a single query. -/
def ask (q : Query σ α) : Act σ α := transaction (.query q)

/-- A transaction of a single query about a contact that must exist. -/
def askAbout [Store σ] (c : ContactId) (q : Query σ α) : Act σ α :=
  transaction do
    Txn.requireContact c
    Txn.query q

/-- Reports an event. -/
def emit (e : Event) : Act σ Unit := modify fun t => { t with events := t.events ++ [e] }

/-- The clock. -/
def clock : Act σ Int64 := return (← get).engine.now

/-- The configuration. -/
def settings : Act σ SyncConfig := return (← get).engine.config

/-- Writes a packet outside of any transaction. -/
def send (packet : Packet) : Act σ Unit := fun t =>
  match t.sink.send packet with
  | (.ok (), sink) => (.ok (), { t with sink })
  | (.error e, sink) => (.error (.sink e), { t with sink })

/-- The answer or the error of an operation, as an answer. -/
def attempt (act : Act σ α) : Act σ (Except SyncError α) := fun t =>
  let (result, t) := act t
  (.ok result, t)

/-- Runs an operation with this sink, and gives all that comes of it. -/
def runOn (act : Act σ α) (engine : Engine σ) (sink : Sink) : Except SyncError α × Turn σ :=
  act ⟨engine, [], sink⟩

end Act

/-! ## The gate -/

/-- What comes of an operation that passes through the gate. -/
inductive Passage (α : Type) where
  /-- The gate is paused; nothing happened yet. -/
  | waiting
  | passed (answer : α)
deriving DecidableEq

/-- An operation behind the gate: it waits while the gate is paused, and is refused once
it is closed. -/
def Act.throughGate {σ α : Type} (act : Act σ α) : Act σ (Passage α) := do
  match (← get).engine.gate with
  | .paused => return .waiting
  | .closed => throw .closed
  | .opened => return .passed (← act)

end MessageSync
