import MessageSync.Error
import MessageSync.Secret

/-!
# What a store can do

A store keeps contacts, groups, messages and all that is known about their delivery. It
holds no rules of its own about synchronisation: each query reads or changes what is
stored, and a transaction of the engine is a run of queries.

A query that fails may have changed something before it failed. Such changes stay until
the transaction that the query is part of ends.
-/

namespace MessageSync

/-- A query on a store of type `σ`. -/
abbrev Query (σ : Type) := ExceptT StoreError (StateM σ)

namespace Query

variable {σ α : Type}

/-- The query that answers from what is stored. -/
def read (f : σ → α) : Query σ α := fun s => (.ok (f s), s)

/-- The query that answers from what is stored, if that can be made sense of. -/
def tryRead (f : σ → Except StoreError α) : Query σ α := fun s => (f s, s)

/-- The query that changes what is stored, and answers. -/
def update (f : σ → α × σ) : Query σ α := fun s => (.ok (f s).1, (f s).2)

/-- The query that changes what is stored, and has no answer. -/
def set (f : σ → σ) : Query σ Unit := fun s => (.ok (), f s)

end Query

/-- A batch that was sent and is not acknowledged yet. -/
@[ext]
structure OutstandingBatch where
  contact : ContactId
  id : BatchId
  messages : List MessageId
  /-- When the batch was recorded. -/
  sentAt : Int64
deriving DecidableEq

namespace OutstandingBatch

/-- Whether `a` comes before `b`, or is it: by the time of sending, then by identifier. -/
def earlier (a b : OutstandingBatch) : Bool :=
  ((compare a.sentAt b.sentAt).then (compare a.id b.id)).isLE

end OutstandingBatch

/-- The queries that every store answers. -/
class Store (σ : Type) where
  /-- Adds a contact with these transport properties. -/
  addContact (transports : Properties) : Query σ ContactId
  /-- Whether there is such a contact. -/
  containsContact (c : ContactId) : Query σ Bool
  /-- All contacts in order. -/
  contacts : Query σ (List ContactId)
  /-- Removes a contact and all that is kept for it. -/
  removeContact (c : ContactId) : Query σ Unit
  /-- Subscribes to a group; false if that is already so. -/
  addSubscription (g : Group) (now : Int64) : Query σ Bool
  /-- Whether this node is subscribed to a group. -/
  containsSubscription (g : GroupId) : Query σ Bool
  /-- The groups that this node is subscribed to. -/
  subscriptions : Query σ (List Group)
  /-- When the subscriptions of this node last changed. -/
  subscriptionsTimestamp : Query σ Int64
  /-- Ends a subscription and deletes the messages of the group; false if there is none. -/
  removeSubscription (g : GroupId) (now : Int64) : Query σ Bool
  /-- Replaces the groups of a contact if the update is newer than the one that is held:
  deliveries are added for messages of groups that are now shared, and dropped for those
  of groups that no longer are. -/
  setSubscriptions (c : ContactId) (groups : List Group) (timestamp : Int64) : Query σ Bool
  /-- The groups that a contact is subscribed to. -/
  contactSubscriptions (c : ContactId) : Query σ (List Group)
  /-- Replaces the transport properties of this node. -/
  setLocalTransports (transports : Properties) (now : Int64) : Query σ Unit
  /-- The transport properties of this node, and when they last changed. -/
  localTransports : Query σ (Properties × Int64)
  /-- Replaces the transport properties of a contact if the update is newer. -/
  setTransports (c : ContactId) (transports : Properties) (timestamp : Int64) : Query σ Bool
  /-- The transport properties of a contact. -/
  contactTransports (c : ContactId) : Query σ Properties
  /-- Stores a message and its delivery to each contact of its group, which for the
  sender is done; false if the message is already stored. -/
  addMessage (m : Message) (sender : Option ContactId) : Query σ Bool
  /-- Whether a message is stored. -/
  containsMessage (id : MessageId) : Query σ Bool
  /-- The raw bytes of a message. -/
  rawMessage (id : MessageId) : Query σ (Option Bytes)
  /-- The raw bytes of a message that may be sent to a contact. -/
  rawIfSendable (c : ContactId) (id : MessageId) : Query σ (Option Bytes)
  /-- The messages that may be sent to a contact, oldest first, up to the first that
  makes them more than `capacity` bytes. -/
  sendableMessages (c : ContactId) (capacity : Nat) : Query σ (List MessageId)
  /-- The oldest messages that together have `size` bytes, or all if there are fewer. -/
  oldMessages (size : Nat) : Query σ (List MessageId)
  /-- The bytes of all messages. -/
  totalMessageSize : Query σ Nat
  /-- Deletes a message and its deliveries. -/
  removeMessage (id : MessageId) : Query σ Unit
  /-- The delivery of a message to a contact, if the contact may see the message. -/
  status (c : ContactId) (id : MessageId) : Query σ (Option Delivery)
  /-- Marks a message as seen by a contact that may see it; false if it may not. -/
  setSeenIfVisible (c : ContactId) (id : MessageId) : Query σ Bool
  /-- The rating of an author. -/
  rating (a : AuthorId) : Query σ Rating
  /-- Rates an author, and answers the rating before. -/
  setRating (a : AuthorId) (rating : Rating) : Query σ Rating
  /-- Sets whether the messages of an author may be sent, and answers how many
  deliveries changed. -/
  setSendability (a : AuthorId) (sendable : Bool) : Query σ Nat
  /-- Records a sent batch, and marks its new messages as sent. -/
  addOutstandingBatch (c : ContactId) (id : BatchId) (messages : List MessageId)
    (sentAt : Int64) : Query σ Unit
  /-- The outstanding batches of a contact, in the order of sending. -/
  outstandingBatches (c : ContactId) : Query σ (List OutstandingBatch)
  /-- The outstanding batches that were sent by `cutoff`. -/
  lostBatches (c : ContactId) (cutoff : Int64) : Query σ (List BatchId)
  /-- Removes an acknowledged batch, and answers those of its messages that the contact
  may see, which it now has seen. -/
  removeAckedBatch (c : ContactId) (id : BatchId) : Query σ (List MessageId)
  /-- Removes a batch that was sent by `cutoff`, and answers its messages that were sent
  and are new again; none if there is no such batch. -/
  removeLostBatch (c : ContactId) (id : BatchId) (cutoff : Int64) :
    Query σ (Option (List MessageId))
  /-- Remembers that a batch of a contact is to be acknowledged. -/
  addBatchToAck (c : ContactId) (id : BatchId) : Query σ Unit
  /-- The batches to acknowledge to a contact, in order. -/
  batchesToAck (c : ContactId) : Query σ (List BatchId)
  /-- Forgets batches to acknowledge. -/
  removeBatchesToAck (c : ContactId) (ids : List BatchId) : Query σ Unit
  /-- Stores secrets, each in the place of one with the same key. -/
  addSecrets (secrets : List Secret) : Query σ Unit
  /-- All secrets in the order of their keys. -/
  secrets : Query σ (List Secret)
  /-- The secret with this key. -/
  secret (key : SecretKey) : Query σ (Option Secret)
  /-- Counts one more outgoing connection, and answers its number. -/
  incrementConnectionCounter (key : SecretKey) : Query σ (Option UInt64)
  /-- Replaces a replay window; false if there is no such secret. -/
  setConnectionWindow (key : SecretKey) (window : Window) : Query σ Bool
  /-- Removes the secrets of periods before `period`, and answers how many there were. -/
  removeSecretsBefore (c : ContactId) (t : TransportId) (period : UInt64) : Query σ Nat

/-- A capacity for any number of messages. -/
def Store.unlimited : Nat := UInt64.size - 1

/-! ## Messages by size -/

/-- The bytes of some messages. -/
def Message.totalSize (messages : List Message) : Nat :=
  messages.foldr (fun m total => m.size + total) 0

/-- The messages from the front of a list that together have at most `room` bytes. -/
def Message.takeWithin (room : Nat) : List Message → List Message
  | [] => []
  | m :: rest => if m.size ≤ room then m :: takeWithin (room - m.size) rest else []

/-- The fewest messages from the front of a list that have at least `wanted` bytes. -/
def Message.takeUntil (wanted : Nat) : List Message → List Message
  | [] => []
  | m :: rest => if wanted = 0 then [] else m :: takeUntil (wanted - m.size) rest

end MessageSync
