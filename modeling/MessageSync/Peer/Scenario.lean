import MessageSync.Peer.Basic

/-!
# Scenarios

A scenario has two peers, Alice and Bob, who are each other's first contact. They take
steps in turn, and after each step one can look at what either of them knows about the
messages that were posted so far.
-/

namespace MessageSync

/-! ## Steps -/

/-- A step of one peer towards the other. -/
inductive Task where
  | post (author : Option AuthorId) (body : Bytes)
  /-- Sends a batch. -/
  | batch
  /-- Sends an ack. -/
  | ack
  | advance (milliseconds : Int64)
  /-- Looks for lost batches. -/
  | lost
  /-- Writes a batch to a sink that takes nothing. -/
  | failBatch
  | rate (author : AuthorId) (rating : Rating)
  | removeContact
  /-- Forgets the events so far. -/
  | clear
deriving DecidableEq

/-- What comes of a step. -/
inductive Outcome where
  | nothing
  | posted (m : Message)
  /-- Whether there was a batch to deliver. -/
  | delivered (some : Bool)
  /-- How many batches were acknowledged or lost. -/
  | counted (n : Nat)
  /-- The rating before. -/
  | rated (old : Rating)
  | sent
deriving DecidableEq

/-- The two peers of a scenario. -/
structure Scenario (σ : Type) where
  alice : Peer σ
  bob : Peer σ
  /-- All posted messages, in order. -/
  posted : List MessageId
  /-- How many steps were taken. It makes each nonce differ from the others. -/
  turn : Nat

namespace Scenario

variable {σ : Type} [Store σ]

/-- The contact that each peer is to the other. -/
def other : ContactId := ⟨1⟩

/-- The nonce of a turn. -/
def nonce (turn : Nat) : Nonce where
  bytes := (List.replicate 8 0 : Bytes) ++ [56, 48, 40, 32, 24, 16, 8, 0].map fun shift =>
    UInt8.ofNat (turn >>> shift)
  length_bytes := rfl

/-- Two peers over empty stores. -/
def start (empty : σ) (config : SyncConfig) : Scenario σ :=
  let peer := (Peer.fresh empty config).addContact.2
  ⟨peer, peer, [], 0⟩

/-- A sink that takes nothing. -/
def failingSink : Sink := { limit := some 0, flushFails := true }

/-- A step of `me` towards `you`, and both of them after it. -/
def act (turn : Nat) (me you : Peer σ) : Task → Except SyncError Outcome × Peer σ × Peer σ
  | .post author body =>
    let (m, me) := me.post author body
    (.ok (.posted m), me, you)
  | .batch =>
    let (result, me, you) := me.deliverBatch other you other (nonce turn)
    (result.map fun b => .delivered b.isSome, me, you)
  | .ack =>
    let (result, me, you) := me.deliverAck other you other
    (result.map .counted, me, you)
  | .advance milliseconds => (.ok .nothing, me.advance milliseconds, you)
  | .lost =>
    let (result, _, me) := me.perform (Engine.findLost other) {}
    (result.map fun ids => .counted ids.length, me, you)
  | .failBatch =>
    let (result, _, me) := me.perform
      (Engine.generateBatch other (.fresh Peer.capacity none) (nonce turn)) failingSink
    (result.map fun _ => .sent, me, you)
  | .rate author rating =>
    let (result, _, me) := me.perform (Engine.setRating author rating) {}
    (result.map .rated, me, you)
  | .removeContact =>
    let (result, _, me) := me.perform (Engine.removeContact other) {}
    (result.map fun _ => .nothing, me, you)
  | .clear => (.ok .nothing, me.clearEvents, you)

/-- The message that a step posted. -/
def newlyPosted : Except SyncError Outcome → List MessageId
  | .ok (.posted m) => [m.id]
  | _ => []

/-- A step of Alice, or of Bob if `byBob`. -/
def step (s : Scenario σ) (byBob : Bool) (task : Task) : Except SyncError Outcome × Scenario σ :=
  if byBob then
    let (result, bob, alice) := act s.turn s.bob s.alice task
    (result, ⟨alice, bob, s.posted ++ newlyPosted result, s.turn + 1⟩)
  else
    let (result, alice, bob) := act s.turn s.alice s.bob task
    (result, ⟨alice, bob, s.posted ++ newlyPosted result, s.turn + 1⟩)

end Scenario

/-! ## Looking -/

/-- What a peer knows about the other one. -/
structure PeerView where
  /-- Which of the posted messages are stored. -/
  stored : List Bool
  /-- Their deliveries to the other peer. -/
  deliveries : List (Option Delivery)
  outstanding : List OutstandingBatch
  /-- How many events were reported. -/
  events : Nat
  /-- How many of them were acknowledged batches. -/
  acked : Nat

/-- What a peer knows about the other one and the posted messages. -/
def Peer.look {σ : Type} [Store σ] (p : Peer σ) (posted : List MessageId) :
    Except StoreError PeerView := do
  let stored ← posted.mapM p.hasMessage
  let deliveries ← posted.mapM (p.status Scenario.other)
  let outstanding ← p.outstanding Scenario.other
  let acked := p.countEvents fun
    | .batchAcked .. => true
    | _ => false
  return ⟨stored, deliveries, outstanding, p.events.length, acked⟩

end MessageSync
