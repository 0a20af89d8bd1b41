import MessageSync.Engine.Operation
import MessageSync.Store.Relational

/-!
# Nodes and the cleaner

A node is an engine with a configuration. Its cleaner keeps the bytes of all messages
below a limit: when they are above, it pauses the gate, deletes the oldest messages until
they are below by some margin, and lets writers through again.
-/

namespace MessageSync

/-! ## Cleaning -/

/-- How many bytes to free when so many are stored, if that is more than the limit. -/
def CleanerConfig.excess? (config : CleanerConfig) (stored : Nat) : Option Nat :=
  if stored ≤ config.maxStoredBytes then none
  else some (stored - config.maxStoredBytes + config.targetFreeBytes)

/-- Changes the state of the gate. -/
def Act.setGate {σ : Type} (f : Gate → Gate) : Act σ Unit :=
  modify fun t => { t with engine := { t.engine with gate := f t.engine.gate } }

/-- Deletes the oldest messages if too many bytes are stored. Writers are let through
afterwards even if the deletion fails. -/
def Engine.clean {σ : Type} [Store σ] (config : CleanerConfig) : Act σ Expired := do
  match config.excess? (← Engine.storedBytes) with
  | none => return ⟨0, 0⟩
  | some excess =>
    Act.setGate Gate.disallow
    let result ← Act.attempt (Engine.expire excess)
    -- a gate that was closed meanwhile stays closed
    Act.setGate Gate.allow
    match result with
    | .ok expired => return expired
    | .error e => throw e

/-! ## Nodes -/

/-- An engine with the configuration of its node. -/
structure Node (σ : Type) where
  config : NodeConfig
  engine : Engine σ

namespace Node

variable {σ : Type}

/-- A node over a store. -/
def start (store : σ) (config : NodeConfig) (now : Int64) : Node σ :=
  ⟨config, Engine.start store config.sync now⟩

/-- Runs one pass of the cleaner, and counts the deleted messages. -/
def cleanNow [Store σ] (node : Node σ) : Except NodeError Nat × List Event × Node σ :=
  let (result, t) := (Engine.clean node.config.cleaner).runOn node.engine {}
  let node := { node with engine := t.engine }
  match result with
  | .ok expired => (.ok expired.count, t.events, node)
  | .error e => (.error (.sync e), t.events, node)

/-- Whether the cleaner can be started: not on a closed node. -/
def startCleaner (node : Node σ) : Except NodeError Unit :=
  if node.engine.gate.isClosed then .error .closed else .ok ()

/-- Closes the gate for good. -/
def close (node : Node σ) : Node σ :=
  { node with engine := { node.engine with gate := node.engine.gate.close } }

/-- Starts the cleaner, lets it make one pass and closes the node. Answers how many bytes
are stored in the end. -/
def runCleaner [Store σ] (node : Node σ) : Except NodeError Nat × List Event × Node σ :=
  match node.startCleaner with
  | .error e => (.error e, [], node)
  | .ok () =>
    -- the cleaner goes on after a failed pass
    let (_, events, node) := node.cleanNow
    let node := node.close
    match (Engine.storedBytes.runOn node.engine {}).1 with
    | .ok stored => (.ok stored, events, node)
    | .error e => (.error (.sync e), events, node)

end Node

/-- Opens a node again on the store of another one, with its gate open and with nothing
going on. -/
def Node.reopen (node : Node Relational) : Except StoreError (Node Relational) :=
  node.engine.store.reopen.map fun store => .start store node.config node.engine.now

end MessageSync
