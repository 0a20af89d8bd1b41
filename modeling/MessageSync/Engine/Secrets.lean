import MessageSync.Engine.Basic

/-!
# Secrets and connections

Each secret counts the outgoing connections of its period and remembers which incoming
ones were used.
-/

namespace MessageSync.Engine

variable {σ : Type} [Store σ]

open Act

/-! ## Keeping secrets -/

/-- Fails unless all these contacts exist. -/
def requireAll : List ContactId → Txn σ Unit
  | [] => return ()
  | c :: rest => do
    Txn.requireContact c
    requireAll rest

/-- Stores secrets of contacts that exist. -/
def addSecrets (secrets : List Secret) : Act σ Unit :=
  transaction do
    requireAll (secrets.map Secret.contact)
    Txn.query (Store.addSecrets secrets)

/-- All secrets. -/
def secrets : Act σ (List Secret) := ask Store.secrets

/-- The secret with this key, which must exist. -/
def requireSecret (key : SecretKey) : Txn σ Secret := do
  match ← Txn.query (Store.secret key) with
  | some secret => return secret
  | none => throw (.noSuchSecret key.contact key.item.transport key.item.period)

/-- Derives the secret of another period from a stored one, and stores it. -/
def rotateSecret (key : SecretKey) (period : UInt64) (bytes : Bytes) : Act σ Secret :=
  transaction do
    Txn.requireContact key.contact
    let rotated := (← requireSecret key).rotate period bytes
    Txn.query (Store.addSecrets [rotated])
    return rotated

/-- Removes the secrets of periods before `period`, and answers how many there were. -/
def removeSecretsBefore (c : ContactId) (t : TransportId) (period : UInt64) : Act σ Nat :=
  askAbout c (Store.removeSecretsBefore c t period)

/-! ## Connections -/

/-- The number of the next outgoing connection. -/
def nextOutgoing (key : SecretKey) : Act σ UInt64 :=
  transaction do
    Txn.requireContact key.contact
    match ← Txn.query (Store.incrementConnectionCounter key) with
    | some n => return n
    | none => throw (.noSuchSecret key.contact key.item.transport key.item.period)

/-- Uses the number of an incoming connection. -/
def acceptIncoming (key : SecretKey) (n : UInt64) : Act σ Unit :=
  transaction do
    Txn.requireContact key.contact
    let secret ← requireSecret key
    match secret.window.accept n with
    | .error refusal => throw (.replay refusal)
    | .ok window => discard (Txn.query (Store.setConnectionWindow key window))

/-- The numbers of incoming connections that are worth waiting for. -/
def unseenConnections (key : SecretKey) : Act σ (List Nat) :=
  transaction do
    Txn.requireContact key.contact
    return (← requireSecret key).window.unseen

end MessageSync.Engine
