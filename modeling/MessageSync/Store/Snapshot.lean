import MessageSync.Store.Basic

/-!
# Snapshots

A snapshot is all that a store tells about itself, read in one go. A store does not list
its messages, so a snapshot is taken for messages that the reader knows, under the names
that the reader has for them.
-/

namespace MessageSync

/-- What a store holds for one contact. -/
structure ContactSnapshot where
  contact : ContactId
  /-- The deliveries of the named messages that the contact may see. -/
  statuses : List (String × Delivery)
  outstanding : List OutstandingBatch
  toAck : List BatchId
  subscriptions : List Group
  transports : Properties
  /-- All messages that may be sent, oldest first. -/
  sendable : List MessageId

/-- What a store holds. -/
structure Snapshot where
  contacts : List ContactSnapshot
  /-- The named messages that are stored. -/
  messages : List String
  total : Nat
  subscriptions : List Group
  subscriptionsAt : Int64
  transports : Properties
  transportsAt : Int64
  secrets : List Secret

namespace Store

variable {σ : Type} [Store σ]

/-- The deliveries of named messages to a contact, of those that it may see. -/
def namedStatuses (c : ContactId) : List (String × MessageId) → Query σ (List (String × Delivery))
  | [] => return []
  | (name, id) :: rest => do
    let found ← Store.status c id
    let statuses ← namedStatuses c rest
    return match found with
      | some d => (name, d) :: statuses
      | none => statuses

/-- The names of the messages that are stored. -/
def namedMessages : List (String × MessageId) → Query σ (List String)
  | [] => return []
  | (name, id) :: rest => do
    let stored ← Store.containsMessage id
    let names ← namedMessages rest
    return if stored then name :: names else names

/-- What a store holds for one contact. -/
def contactSnapshot (named : List (String × MessageId)) (c : ContactId) :
    Query σ ContactSnapshot := do
  let statuses ← namedStatuses c named
  let outstanding ← Store.outstandingBatches c
  let toAck ← Store.batchesToAck c
  let subscriptions ← Store.contactSubscriptions c
  let transports ← Store.contactTransports c
  let sendable ← Store.sendableMessages c unlimited
  return { contact := c, statuses, outstanding, toAck, subscriptions, transports, sendable }

/-- What a store holds for contacts in turn. -/
def contactSnapshots (named : List (String × MessageId)) :
    List ContactId → Query σ (List ContactSnapshot)
  | [] => return []
  | c :: rest => do
    let snapshot ← contactSnapshot named c
    return snapshot :: (← contactSnapshots named rest)

/-- What a store holds. -/
def snapshot (named : List (String × MessageId)) : Query σ Snapshot := do
  let contacts ← contactSnapshots named (← Store.contacts)
  let messages ← namedMessages named
  let (transports, transportsAt) ← Store.localTransports
  let total ← Store.totalMessageSize
  let subscriptions ← Store.subscriptions
  let subscriptionsAt ← Store.subscriptionsTimestamp
  let secrets ← Store.secrets
  return ⟨contacts, messages, total, subscriptions, subscriptionsAt, transports, transportsAt,
    secrets⟩

end Store

end MessageSync
