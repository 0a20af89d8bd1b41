import MessageSync.Store.Basic

/-!
# The store in memory

`Memory` keeps domain values in tables. No query on it fails, but for updates of a
contact that does not exist. Nothing ties the tables together: deliveries and batches of
a contact that was never added can be stored, and are listed like any others.
-/

namespace MessageSync

/-- What is kept about one contact. -/
@[ext]
structure ContactRecord where
  /-- The names of the groups that the contact is subscribed to. -/
  groups : Table GroupId String
  groupsAt : Int64
  transports : Properties
  transportsAt : Int64

/-- A batch that is not acknowledged: its messages, and when it was recorded. -/
@[ext]
structure SentRecord where
  messages : List MessageId
  sentAt : Int64

/-- A store in memory. -/
@[ext]
structure Memory where
  /-- The number of the next contact. -/
  nextContact : Nat
  contacts : Table ContactId ContactRecord
  /-- The names of the groups that this node is subscribed to. -/
  subscriptions : Table GroupId String
  subscriptionsAt : Int64
  transports : Properties
  transportsAt : Int64
  messages : Table MessageId Message
  deliveries : Table (ContactKey MessageId) Delivery
  ratings : Table AuthorId Rating
  outstanding : Table (ContactKey BatchId) SentRecord
  toAck : Table (ContactKey BatchId) Unit
  secrets : Table SecretKey Secret

/-- The groups in a table of their names. -/
def Group.ofTable (names : Table GroupId String) : List Group :=
  names.toList.map fun e => ⟨e.1, e.2⟩

/-- The table of the names of groups; of two groups of one identifier the last stays. -/
def Group.toTable (groups : List Group) : Table GroupId String :=
  Table.insertAll ∅ (groups.map fun g => (g.id, g.name))

namespace Memory

/-- The store without contents. -/
def empty : Memory where
  nextContact := 1
  contacts := ∅
  subscriptions := ∅
  subscriptionsAt := 0
  transports := ∅
  transportsAt := 0
  messages := ∅
  deliveries := ∅
  ratings := ∅
  outstanding := ∅
  toAck := ∅
  secrets := ∅

/-! ## Views -/

/-- The rating of an author. -/
def ratingOf (s : Memory) (a : AuthorId) : Rating := s.ratings.getD a .unrated

/-- Whether a message may be passed on, by the rating of its author. -/
def sendable (s : Memory) (m : Message) : Bool :=
  isSendable m.author ((m.author.map s.ratingOf).getD .unrated)

/-- All messages, oldest first. -/
def byAge (s : Memory) : List Message := Message.oldestFirst s.messages.values

/-- The messages that may go to a contact, oldest first. -/
def eligible (s : Memory) (c : ContactId) : List Message :=
  Message.oldestFirst <| s.deliveries.toList.filterMap fun e =>
    if e.1.contact = c && e.2.eligible then s.messages[e.1.item]? else none

/-- The outstanding batches of a contact, in the order of sending. -/
def outstandingOf (s : Memory) (c : ContactId) : List OutstandingBatch :=
  let batches := s.outstanding.toList.filterMap fun e =>
    if e.1.contact = c then some ⟨c, e.1.item, e.2.messages, e.2.sentAt⟩ else none
  batches.mergeSort OutstandingBatch.earlier

/-- The batches to acknowledge to a contact. -/
def toAckOf (s : Memory) (c : ContactId) : List BatchId :=
  s.toAck.keys.filterMap fun k => if k.contact = c then some k.item else none

/-! ## Contacts and groups -/

/-- Adds a contact under the next number. -/
def addContact (s : Memory) (transports : Properties) : ContactId × Memory :=
  let c : ContactId := ⟨s.nextContact⟩
  (c, { s with
    nextContact := s.nextContact + 1
    contacts := s.contacts.insert c ⟨∅, 0, transports, 0⟩ })

/-- Removes a contact from all tables. -/
def removeContact (s : Memory) (c : ContactId) : Memory :=
  { s with
    contacts := s.contacts.erase c
    deliveries := s.deliveries.filter fun k _ => k.contact ≠ c
    outstanding := s.outstanding.filter fun k _ => k.contact ≠ c
    toAck := s.toAck.filter fun k _ => k.contact ≠ c
    secrets := s.secrets.filter fun k _ => k.contact ≠ c }

/-- Subscribes to a group. -/
def addSubscription (s : Memory) (g : Group) (now : Int64) : Bool × Memory :=
  if s.subscriptions.contains g.id then (false, s)
  else (true, { s with
    subscriptions := s.subscriptions.insert g.id g.name, subscriptionsAt := now })

/-- Deletes a message and its deliveries. -/
def removeMessage (s : Memory) (id : MessageId) : Memory :=
  { s with
    messages := s.messages.erase id
    deliveries := s.deliveries.filter fun k _ => k.item ≠ id }

/-- Ends a subscription and deletes the messages of the group one by one. -/
def removeSubscription (s : Memory) (g : GroupId) (now : Int64) : Bool × Memory :=
  if s.subscriptions.contains g then
    let doomed := (s.messages.values.filter fun m => m.group = g).map Message.id
    (true, doomed.foldl removeMessage
      { s with subscriptions := s.subscriptions.erase g, subscriptionsAt := now })
  else (false, s)

/-- Drops the deliveries of a contact for messages of groups that it does not share, and
adds those that are missing for messages of groups that it does. -/
def share (s : Memory) (c : ContactId) (groups : Table GroupId String) : Memory :=
  let kept := s.deliveries.filter fun k _ =>
    k.contact ≠ c || (s.messages[k.item]?).any fun m => groups.contains m.group
  let missing := s.messages.values.filter fun m =>
    groups.contains m.group && !kept.contains ⟨c, m.id⟩
  { s with deliveries :=
      Table.insertAll kept (missing.map fun m => (⟨c, m.id⟩, ⟨.new, s.sendable m⟩)) }

/-- Replaces the groups of a contact, unless those it has are as new. -/
def setSubscriptions (s : Memory) (c : ContactId) (groups : List Group) (timestamp : Int64) :
    Except StoreError Bool × Memory :=
  match s.contacts[c]? with
  | none => (.error (.unknownContact c), s)
  | some r =>
    if timestamp ≤ r.groupsAt then (.ok false, s)
    else
      let groups := Group.toTable groups
      let r := { r with groups, groupsAt := timestamp }
      (.ok true, { s with contacts := s.contacts.insert c r }.share c groups)

/-- The groups of a contact; none if there is no such contact. -/
def contactSubscriptions (s : Memory) (c : ContactId) : List Group :=
  match s.contacts[c]? with
  | some r => Group.ofTable r.groups
  | none => []

/-! ## Transports -/

/-- Replaces the transport properties of a contact, unless those it has are as new. -/
def setTransports (s : Memory) (c : ContactId) (transports : Properties) (timestamp : Int64) :
    Except StoreError Bool × Memory :=
  match s.contacts[c]? with
  | none => (.error (.unknownContact c), s)
  | some r =>
    if timestamp ≤ r.transportsAt then (.ok false, s)
    else
      let r := { r with transports, transportsAt := timestamp }
      (.ok true, { s with contacts := s.contacts.insert c r })

/-- The transport properties of a contact; none if there is no such contact. -/
def contactTransports (s : Memory) (c : ContactId) : Properties :=
  match s.contacts[c]? with
  | some r => r.transports
  | none => ∅

/-! ## Messages -/

/-- Stores a message, and a delivery for each contact of its group. -/
def addMessage (s : Memory) (m : Message) (sender : Option ContactId) : Bool × Memory :=
  if s.messages.contains m.id then (false, s)
  else
    let visible := s.contacts.toList.filter fun e => e.2.groups.contains m.group
    let start (c : ContactId) : Delivery :=
      ⟨if sender = some c then .seen else .new, s.sendable m⟩
    (true, { s with
      messages := s.messages.insert m.id m
      deliveries := Table.insertAll s.deliveries (visible.map fun e => (⟨e.1, m.id⟩, start e.1)) })

/-- The raw bytes of a message that may be sent to a contact. -/
def rawIfSendable (s : Memory) (c : ContactId) (id : MessageId) : Option Bytes :=
  match s.deliveries[(⟨c, id⟩ : ContactKey MessageId)]? with
  | some d => if d.eligible then (s.messages[id]?).map Message.raw else none
  | none => none

/-! ## Deliveries and ratings -/

/-- Marks a message as seen by a contact that may see it. -/
def setSeenIfVisible (s : Memory) (c : ContactId) (id : MessageId) : Bool × Memory :=
  (s.deliveries.contains ⟨c, id⟩,
    { s with deliveries := s.deliveries.modify ⟨c, id⟩ Delivery.asSeen })

/-- Rates an author. -/
def setRating (s : Memory) (a : AuthorId) (rating : Rating) : Rating × Memory :=
  (s.ratingOf a, { s with ratings := s.ratings.insert a rating })

/-- Whether a message is stored and by this author. -/
def isBy (s : Memory) (a : AuthorId) (id : MessageId) : Bool :=
  (s.messages[id]?).any fun m => m.author = some a

/-- Sets whether the messages of an author may be sent. -/
def setSendability (s : Memory) (a : AuthorId) (sendable : Bool) : Nat × Memory :=
  let changes (k : ContactKey MessageId) (d : Delivery) : Bool :=
    s.isBy a k.item && d.sendable ≠ sendable
  (s.deliveries.toList.countP fun e => changes e.1 e.2,
    { s with deliveries := s.deliveries.map fun k d =>
        if changes k d then { d with sendable } else d })

/-! ## Batches -/

/-- Records a sent batch, and marks its new messages as sent. -/
def addOutstandingBatch (s : Memory) (c : ContactId) (id : BatchId) (messages : List MessageId)
    (sentAt : Int64) : Memory :=
  { s with
    deliveries := messages.foldl (fun t m => t.modify ⟨c, m⟩ Delivery.asSent) s.deliveries
    outstanding := s.outstanding.insert ⟨c, id⟩ ⟨messages, sentAt⟩ }

/-- Removes an acknowledged batch, and marks its visible messages as seen. -/
def removeAckedBatch (s : Memory) (c : ContactId) (id : BatchId) : List MessageId × Memory :=
  match s.outstanding[(⟨c, id⟩ : ContactKey BatchId)]? with
  | none => ([], s)
  | some batch =>
    let visible := batch.messages.filter fun m => s.deliveries.contains ⟨c, m⟩
    (visible, { s with
      outstanding := s.outstanding.erase ⟨c, id⟩
      deliveries := visible.foldl (fun t m => t.modify ⟨c, m⟩ Delivery.asSeen) s.deliveries })

/-- Makes sent messages new again, and lists them. -/
def returnSent (c : ContactId) : List MessageId → Table (ContactKey MessageId) Delivery →
    List MessageId × Table (ContactKey MessageId) Delivery
  | [], t => ([], t)
  | m :: rest, t =>
    match t[(⟨c, m⟩ : ContactKey MessageId)]? with
    | some ⟨.sent, sendable⟩ =>
      let (ids, t) := returnSent c rest (t.insert ⟨c, m⟩ ⟨.new, sendable⟩)
      (m :: ids, t)
    -- seen by now, or not visible any more
    | _ => returnSent c rest t

/-- Removes a batch that was sent by `cutoff`, and makes its sent messages new again. -/
def removeLostBatch (s : Memory) (c : ContactId) (id : BatchId) (cutoff : Int64) :
    Option (List MessageId) × Memory :=
  match s.outstanding[(⟨c, id⟩ : ContactKey BatchId)]? with
  | none => (none, s)
  | some batch =>
    if batch.sentAt ≤ cutoff then
      let (ids, deliveries) := returnSent c batch.messages s.deliveries
      (some ids, { s with outstanding := s.outstanding.erase ⟨c, id⟩, deliveries })
    else (none, s)

/-- Forgets batches to acknowledge. -/
def removeBatchesToAck (s : Memory) (c : ContactId) (ids : List BatchId) : Memory :=
  { s with toAck := ids.foldl (fun t id => t.erase ⟨c, id⟩) s.toAck }

/-! ## Secrets -/

/-- Counts one more outgoing connection. -/
def incrementConnectionCounter (s : Memory) (key : SecretKey) : Option UInt64 × Memory :=
  match s.secrets[key]? with
  | none => (none, s)
  | some secret =>
    let outgoing := secret.outgoing + 1
    (some outgoing, { s with secrets := s.secrets.insert key { secret with outgoing } })

/-- Replaces the replay window of a secret. -/
def setConnectionWindow (s : Memory) (key : SecretKey) (window : Window) : Bool × Memory :=
  (s.secrets.contains key,
    { s with secrets := s.secrets.modify key fun secret => { secret with window } })

/-- Removes the secrets of periods before `period`. -/
def removeSecretsBefore (s : Memory) (c : ContactId) (t : TransportId) (period : UInt64) :
    Nat × Memory :=
  let old (k : SecretKey) : Bool :=
    k.contact = c && k.item.transport = t && k.item.period < period
  (s.secrets.keys.countP old, { s with secrets := s.secrets.filter fun k _ => !old k })

end Memory

/-! ## The queries -/

instance : Store Memory where
  addContact transports := .update (·.addContact transports)
  containsContact c := .read (·.contacts.contains c)
  contacts := .read (·.contacts.keys)
  removeContact c := .set (·.removeContact c)
  addSubscription g now := .update (·.addSubscription g now)
  containsSubscription g := .read (·.subscriptions.contains g)
  subscriptions := .read fun s => Group.ofTable s.subscriptions
  subscriptionsTimestamp := .read (·.subscriptionsAt)
  removeSubscription g now := .update (·.removeSubscription g now)
  setSubscriptions c groups timestamp := (·.setSubscriptions c groups timestamp)
  contactSubscriptions c := .read (·.contactSubscriptions c)
  setLocalTransports transports now := .set ({ · with transports, transportsAt := now })
  localTransports := .read fun s => (s.transports, s.transportsAt)
  setTransports c transports timestamp := (·.setTransports c transports timestamp)
  contactTransports c := .read (·.contactTransports c)
  addMessage m sender := .update (·.addMessage m sender)
  containsMessage id := .read (·.messages.contains id)
  rawMessage id := .read fun s => (s.messages[id]?).map Message.raw
  rawIfSendable c id := .read (·.rawIfSendable c id)
  sendableMessages c capacity :=
    .read fun s => (Message.takeWithin capacity (s.eligible c)).map Message.id
  oldMessages size := .read fun s => (Message.takeUntil size s.byAge).map Message.id
  totalMessageSize := .read fun s => Message.totalSize s.messages.values
  removeMessage id := .set (·.removeMessage id)
  status c id := .read fun s => s.deliveries[(⟨c, id⟩ : ContactKey MessageId)]?
  setSeenIfVisible c id := .update (·.setSeenIfVisible c id)
  rating a := .read (·.ratingOf a)
  setRating a rating := .update (·.setRating a rating)
  setSendability a sendable := .update (·.setSendability a sendable)
  addOutstandingBatch c id messages sentAt := .set (·.addOutstandingBatch c id messages sentAt)
  outstandingBatches c := .read (·.outstandingOf c)
  lostBatches c cutoff := .read fun s =>
    ((s.outstandingOf c).filter fun b => b.sentAt ≤ cutoff).map OutstandingBatch.id
  removeAckedBatch c id := .update (·.removeAckedBatch c id)
  removeLostBatch c id cutoff := .update (·.removeLostBatch c id cutoff)
  addBatchToAck c id := .set fun s => { s with toAck := s.toAck.insert ⟨c, id⟩ () }
  batchesToAck c := .read (·.toAckOf c)
  removeBatchesToAck c ids := .set (·.removeBatchesToAck c ids)
  addSecrets secrets := .set fun s =>
    { s with secrets := Table.insertAll s.secrets (secrets.map fun x => (x.key, x)) }
  secrets := .read (·.secrets.values)
  secret key := .read (·.secrets[key]?)
  incrementConnectionCounter key := .update (·.incrementConnectionCounter key)
  setConnectionWindow key window := .update (·.setConnectionWindow key window)
  removeSecretsBefore c t period := .update (·.removeSecretsBefore c t period)

end MessageSync
