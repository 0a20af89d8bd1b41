import MessageSync.Cbor.Read
import MessageSync.Packet.Encode
import MessageSync.Store.Basic

/-!
# The relational store

`Relational` keeps flat rows of raw columns: numbers for ratings and statuses, signed 64
bit numbers for periods and counters, bytes for windows, and encoded properties. A column
is decoded when a query asks for its meaning, and a column that has none makes that query
fail. Queries that only compare raw numbers do not decode them.

The rows of statuses, groups, batches and secrets refer to a contact. A row is refused
if there is no such contact, and goes when the contact goes; statuses go with their
message as well. The messages of an outstanding batch have rows of their own, numbered in
the order of the batch, which go with the row of the batch.
-/

namespace MessageSync

/-! ## Rows -/

/-- A contact. Its groups have rows of their own. -/
@[ext]
structure ContactRow where
  transports : Bytes
  transportsAt : Int64
  subscriptionsAt : Int64

/-- A message, but for its identifier, which is the key. -/
@[ext]
structure MessageRow where
  group : GroupId
  author : Option AuthorId
  timestamp : Int64
  raw : Bytes

/-- The state of a message with respect to a contact. -/
@[ext]
structure StatusRow where
  status : Int
  sendable : Bool

/-- A secret, but for its key. -/
@[ext]
structure SecretRow where
  epoch : Int64
  clockDiff : Int64
  latency : Int64
  alice : Bool
  bytes : Bytes
  /-- None when the counter has left the range of its column. -/
  outgoing : Option Int64
  centre : Int64
  bitmap : Bytes

/-- The place of a message in a batch. -/
@[ext]
structure PlaceKey where
  batch : BatchId
  position : Nat
deriving DecidableEq

instance : Ord PlaceKey :=
  ⟨compareLex (compareOn PlaceKey.batch) (compareOn PlaceKey.position)⟩

instance : Std.TransOrd PlaceKey :=
  inferInstanceAs (Std.TransCmp (compareLex (compareOn PlaceKey.batch) (compareOn PlaceKey.position)))

instance : Std.LawfulEqOrd PlaceKey where
  compare_self {a} := compareLex_eq_eq.2
    ⟨Std.ReflOrd.compare_self (α := BatchId), Std.ReflOrd.compare_self (α := Nat)⟩
  eq_of_compare {a b} h := by
    have h : compareLex (compareOn PlaceKey.batch) (compareOn PlaceKey.position) a b = .eq := h
    rw [compareLex_eq_eq] at h
    exact PlaceKey.ext (Std.LawfulEqOrd.eq_of_compare (α := BatchId) h.1)
      (Std.LawfulEqOrd.eq_of_compare (α := Nat) h.2)

/-- The key of a secret: periods are kept as signed numbers, and ordered as such. -/
abbrev RawSecretKey := ContactKey (PeriodKey Int64)

/-- A relational store. -/
@[ext]
structure Relational where
  /-- The versions of the tables that were set up. -/
  versions : Table Int Unit
  /-- The greatest number that a contact ever had. -/
  lastContact : Nat
  contacts : Table ContactId ContactRow
  /-- The names of the groups of contacts. -/
  contactGroups : Table (ContactKey GroupId) String
  /-- The names of the groups that this node is subscribed to. -/
  groups : Table Bytes String
  subscriptionsAt : Int64
  transports : Bytes
  transportsAt : Int64
  messages : Table MessageId MessageRow
  statuses : Table (ContactKey MessageId) StatusRow
  ratings : Table AuthorId Int
  /-- When the batches that are not acknowledged were sent. -/
  outstanding : Table (ContactKey BatchId) Int64
  /-- The messages of the batches that are not acknowledged. -/
  batched : Table (ContactKey PlaceKey) MessageId
  toAck : Table (ContactKey Bytes) Unit
  secrets : Table RawSecretKey SecretRow

/-! ## Columns -/

/-- The value of a column of one byte, if the number in it is one. -/
def byteColumn (raw : Int) : Except StoreError Nat :=
  if 0 ≤ raw ∧ raw < 256 then .ok raw.toNat else .error .database

/-- The status that a column stands for. -/
def Status.ofColumn (raw : Int) : Except StoreError Status := do
  let n ← byteColumn raw
  match Status.ofNat? n with
  | some status => .ok status
  | none => .error (.value (.unknownNumber "status" n))

/-- The rating that a column stands for. -/
def Rating.ofColumn (raw : Int) : Except StoreError Rating := do
  let n ← byteColumn raw
  match Rating.ofNat? n with
  | some rating => .ok rating
  | none => .error (.value (.unknownNumber "rating" n))

/-- The identifier in a column. -/
def Id.ofColumn {kind : IdKind} (raw : Bytes) : Except StoreError (Id kind) :=
  match ofBytes? raw with
  | some id => .ok id
  | none => .error .database

/-- The properties in a column. -/
def Properties.ofColumn (raw : Bytes) : Except StoreError Properties :=
  match Cbor.Read.textMap raw with
  | some (properties, _) => .ok properties
  | none => .error .encoding

/-- The key of the row of a secret. -/
def SecretKey.toRaw (key : SecretKey) : RawSecretKey :=
  ⟨key.contact, ⟨key.item.transport, key.item.period.toInt64⟩⟩

/-- The row of a secret. -/
def Secret.toRow (s : Secret) : SecretRow where
  epoch := s.epoch
  clockDiff := s.clockDiff
  latency := s.latency
  alice := s.alice
  bytes := s.bytes
  outgoing := some s.outgoing.toInt64
  centre := s.window.centre.toInt64
  bitmap := s.window.bitmapBytes

/-- The secret that a row stands for. -/
def SecretRow.toSecret (key : RawSecretKey) (row : SecretRow) : Except StoreError Secret :=
  match row.outgoing, Window.ofParts? row.centre.toUInt64 row.bitmap with
  | some outgoing, some window => .ok {
      contact := key.contact
      transport := key.item.transport
      epoch := row.epoch
      clockDiff := row.clockDiff
      latency := row.latency
      alice := row.alice
      period := key.item.period.toUInt64
      bytes := row.bytes
      outgoing := outgoing.toUInt64
      window }
  | _, _ => .error .database

/-- The counter after one more connection; none past the greatest signed number. -/
def countOn (outgoing : Int64) : Option Int64 :=
  if outgoing = Int64.maxValue then none else some (outgoing + 1)

namespace Relational

/-- The version of the tables that this library sets up. -/
def version : Nat := 1

/-- The store without contents. -/
def empty : Relational where
  versions := Table.insertAll ∅ [((version : Int), ())]
  lastContact := 0
  contacts := ∅
  contactGroups := ∅
  groups := ∅
  subscriptionsAt := 0
  transports := encodeProperties ∅
  transportsAt := 0
  messages := ∅
  statuses := ∅
  ratings := ∅
  outstanding := ∅
  batched := ∅
  toAck := ∅
  secrets := ∅

/-! ## Messages as rows -/

/-- The message in a row. -/
def messageOf (id : MessageId) (row : MessageRow) : Message :=
  ⟨id, row.group, row.author, row.timestamp, row.raw⟩

/-- All messages, in the order of their rows. -/
def allMessages (s : Relational) : List Message :=
  s.messages.toList.map fun e => messageOf e.1 e.2

/-- All messages, oldest first. -/
def byAge (s : Relational) : List Message := Message.oldestFirst s.allMessages

/-- Whether a status lets its message go to the contact. -/
def mayGo (row : StatusRow) : Bool := row.status = Status.new.toNat && row.sendable

/-- The messages that may go to a contact, oldest first. -/
def eligible (s : Relational) (c : ContactId) : List Message :=
  Message.oldestFirst <| (s.messages.toList.filter fun e =>
    (s.statuses[(⟨c, e.1⟩ : ContactKey MessageId)]?).any mayGo).map fun e => messageOf e.1 e.2

/-! ## Contacts and groups -/

/-- Adds a contact under a number that no contact ever had. -/
def addContact (s : Relational) (transports : Properties) : ContactId × Relational :=
  let c : ContactId := ⟨s.lastContact + 1⟩
  (c, { s with
    lastContact := c.number
    contacts := s.contacts.insert c ⟨encodeProperties transports, 0, 0⟩ })

/-- Removes a contact and all rows that refer to it. -/
def removeContact (s : Relational) (c : ContactId) : Relational :=
  { s with
    contacts := s.contacts.erase c
    contactGroups := s.contactGroups.filter fun k _ => k.contact ≠ c
    statuses := s.statuses.filter fun k _ => k.contact ≠ c
    outstanding := s.outstanding.filter fun k _ => k.contact ≠ c
    batched := s.batched.filter fun k _ => k.contact ≠ c
    toAck := s.toAck.filter fun k _ => k.contact ≠ c
    secrets := s.secrets.filter fun k _ => k.contact ≠ c }

/-- Subscribes to a group. -/
def addSubscription (s : Relational) (g : Group) (now : Int64) : Bool × Relational :=
  if s.groups.contains g.id.bytes then (false, s)
  else (true, { s with groups := s.groups.insert g.id.bytes g.name, subscriptionsAt := now })

/-- The groups that this node is subscribed to. -/
def subscriptions (s : Relational) : Except StoreError (List Group) :=
  s.groups.toList.mapM fun e => return ⟨← Id.ofColumn e.1, e.2⟩

/-- Deletes the messages that a test picks, with the statuses that refer to them. -/
def removeMessages (s : Relational) (doomed : MessageId → MessageRow → Bool) : Relational :=
  let kept := s.messages.filter fun id row => !doomed id row
  { s with messages := kept, statuses := s.statuses.filter fun k _ => kept.contains k.item }

/-- Ends a subscription and deletes the messages of the group. -/
def removeSubscription (s : Relational) (g : GroupId) (now : Int64) : Bool × Relational :=
  if s.groups.contains g.bytes then
    let s := s.removeMessages fun _ row => row.group = g
    (true, { s with groups := s.groups.erase g.bytes, subscriptionsAt := now })
  else (false, s)

/-- Whether a message of this author may be passed on, by the raw rating. -/
def mayTravel (s : Relational) (author : Option AuthorId) : Bool :=
  match author with
  | none => true
  | some a => s.ratings.getD a 0 = Rating.good.toNat

/-- Drops the statuses of a contact for messages of groups that it does not share, and
adds those that are missing for messages of groups that it does. -/
def share (s : Relational) (c : ContactId) : Relational :=
  let shared (g : GroupId) : Bool := s.contactGroups.contains ⟨c, g⟩
  let kept := s.statuses.filter fun k _ =>
    !(k.contact = c && (s.messages[k.item]?).any fun row => !shared row.group)
  let missing := s.messages.toList.filter fun e =>
    shared e.2.group && !kept.contains ⟨c, e.1⟩
  { s with statuses := Table.insertAll kept <| missing.map fun e =>
      (⟨c, e.1⟩, ⟨Status.new.toNat, s.mayTravel e.2.author⟩) }

/-- Replaces the groups of a contact, unless those it has are as new. -/
def setSubscriptions (s : Relational) (c : ContactId) (groups : List Group) (timestamp : Int64) :
    Except StoreError Bool × Relational :=
  match s.contacts[c]? with
  | none => (.error (.unknownContact c), s)
  | some row =>
    if timestamp ≤ row.subscriptionsAt then (.ok false, s)
    else
      let others := s.contactGroups.filter fun k _ => k.contact ≠ c
      let s := { s with
        contacts := s.contacts.insert c { row with subscriptionsAt := timestamp }
        contactGroups := Table.insertAll others (groups.map fun g : Group => (⟨c, g.id⟩, g.name)) }
      (.ok true, s.share c)

/-- The groups of a contact. -/
def contactSubscriptions (s : Relational) (c : ContactId) : List Group :=
  s.contactGroups.toList.filterMap fun e =>
    if e.1.contact = c then some ⟨e.1.item, e.2⟩ else none

/-! ## Transports -/

/-- The transport properties of this node. -/
def localTransports (s : Relational) : Except StoreError (Properties × Int64) :=
  return (← Properties.ofColumn s.transports, s.transportsAt)

/-- Replaces the transport properties of a contact, unless those it has are as new. -/
def setTransports (s : Relational) (c : ContactId) (transports : Properties)
    (timestamp : Int64) : Except StoreError Bool × Relational :=
  match s.contacts[c]? with
  | none => (.error (.unknownContact c), s)
  | some row =>
    if timestamp ≤ row.transportsAt then (.ok false, s)
    else
      let row := { row with transports := encodeProperties transports, transportsAt := timestamp }
      (.ok true, { s with contacts := s.contacts.insert c row })

/-- The transport properties of a contact; none if there is no such contact. -/
def contactTransports (s : Relational) (c : ContactId) : Except StoreError Properties :=
  match s.contacts[c]? with
  | some row => Properties.ofColumn row.transports
  | none => .ok ∅

/-! ## Statuses and ratings -/

/-- The state of a message with respect to a contact. -/
def status (s : Relational) (c : ContactId) (id : MessageId) :
    Except StoreError (Option Delivery) :=
  match s.statuses[(⟨c, id⟩ : ContactKey MessageId)]? with
  | none => .ok none
  | some row => return some ⟨← Status.ofColumn row.status, row.sendable⟩

/-- Puts a status into a row of a table, if it is there and a test of its old status
holds. Answers whether it was put. -/
def mark (t : Table (ContactKey MessageId) StatusRow) (c : ContactId) (m : MessageId)
    (test : Int → Bool) (status : Status) : Bool × Table (ContactKey MessageId) StatusRow :=
  match t[(⟨c, m⟩ : ContactKey MessageId)]? with
  | none => (false, t)
  | some row =>
    if test row.status then
      (true, t.insert ⟨c, m⟩ { row with status := (status.toNat : Int) })
    else (false, t)

/-- Puts a status into the rows of messages in turn. Answers those it was put into. -/
def markAll (c : ContactId) (test : Int → Bool) (status : Status) : List MessageId →
    Table (ContactKey MessageId) StatusRow →
    List MessageId × Table (ContactKey MessageId) StatusRow
  | [], t => ([], t)
  | m :: rest, t =>
    let (put, t) := mark t c m test status
    let (ids, t) := markAll c test status rest t
    (if put then m :: ids else ids, t)

/-- Marks a message as seen by a contact that may see it. -/
def setSeenIfVisible (s : Relational) (c : ContactId) (id : MessageId) : Bool × Relational :=
  let (put, statuses) := mark s.statuses c id (fun _ => true) .seen
  (put, { s with statuses })

/-- The rating of an author. -/
def rating (s : Relational) (a : AuthorId) : Except StoreError Rating :=
  match s.ratings[a]? with
  | none => .ok .unrated
  | some raw => Rating.ofColumn raw

/-- Rates an author whose rating so far means something. -/
def setRating (s : Relational) (a : AuthorId) (rating : Rating) :
    Except StoreError Rating × Relational :=
  match s.rating a with
  -- a rating that means nothing stays as it is
  | .error e => (.error e, s)
  | .ok old => (.ok old, { s with ratings := s.ratings.insert a rating.toNat })

/-- Sets whether the messages of an author may be sent. -/
def setSendability (s : Relational) (a : AuthorId) (sendable : Bool) : Nat × Relational :=
  let changes (k : ContactKey MessageId) (row : StatusRow) : Bool :=
    row.sendable ≠ sendable && (s.messages[k.item]?).any fun m => m.author = some a
  (s.statuses.toList.countP fun e => changes e.1 e.2,
    { s with statuses := s.statuses.map fun k row =>
        if changes k row then { row with sendable } else row })

/-! ## Messages -/

/-- Stores a message, and a status for each contact of its group. The message stays even
if the rating of its author means nothing. -/
def addMessage (s : Relational) (m : Message) (sender : Option ContactId) :
    Except StoreError Bool × Relational :=
  if s.messages.contains m.id then (.ok false, s)
  else
    let s := { s with
      messages := s.messages.insert m.id ⟨m.group, m.author, m.timestamp, m.raw⟩ }
    -- the row of the message is there by now, whatever the rating is
    let found := match m.author with
      | some a => s.rating a
      | none => .ok .unrated
    match found with
    | .error e => (.error e, s)
    | .ok rating =>
      let visible := s.contactGroups.keys.filter fun k => k.item = m.group
      let start (c : ContactId) : StatusRow :=
        ⟨(if sender = some c then Status.seen else Status.new).toNat, isSendable m.author rating⟩
      let added := visible.map fun k => (⟨k.contact, m.id⟩, start k.contact)
      (.ok true, { s with statuses := Table.insertAll s.statuses added })

/-- The raw bytes of a message that may be sent to a contact. -/
def rawIfSendable (s : Relational) (c : ContactId) (id : MessageId) : Option Bytes := do
  let row ← s.messages[id]?
  let state ← s.statuses[(⟨c, id⟩ : ContactKey MessageId)]?
  if mayGo state then some row.raw else none

/-! ## Batches -/

/-- The messages of an outstanding batch, in the order of their positions. -/
def batchMessages (s : Relational) (c : ContactId) (id : BatchId) : List MessageId :=
  s.batched.toList.filterMap fun e =>
    if e.1.contact = c ∧ e.1.item.batch = id then some e.2 else none

/-- Deletes the row of an outstanding batch, if there is one, and with it those of its
messages. -/
def deleteBatch (s : Relational) (c : ContactId) (id : BatchId) : Relational :=
  { s with
    outstanding := s.outstanding.erase ⟨c, id⟩
    batched := s.batched.filter fun k _ => !(k.contact = c && k.item.batch = id) }

/-- Records a sent batch in the place of one with its identifier, and marks its new
messages as sent. -/
def addOutstandingBatch (s : Relational) (c : ContactId) (id : BatchId)
    (messages : List MessageId) (sentAt : Int64) : Except StoreError Unit × Relational :=
  if s.contacts.contains c then
    let s := s.deleteBatch c id
    let (_, statuses) := markAll c (· = Status.new.toNat) .sent messages s.statuses
    (.ok (), { s with
      outstanding := s.outstanding.insert ⟨c, id⟩ sentAt
      batched := Table.insertAll s.batched <|
        messages.zipIdx.map fun e => (⟨c, ⟨id, e.2⟩⟩, e.1)
      statuses })
  else (.error .database, s)

/-- The outstanding batches of a contact, in the order of sending. -/
def outstandingOf (s : Relational) (c : ContactId) : List OutstandingBatch :=
  let rows := s.outstanding.toList.filter fun e => e.1.contact = c
  (rows.map fun e => ⟨c, e.1.item, s.batchMessages c e.1.item, e.2⟩).mergeSort
    OutstandingBatch.earlier

/-- Removes an acknowledged batch, and marks its visible messages as seen. -/
def removeAckedBatch (s : Relational) (c : ContactId) (id : BatchId) :
    List MessageId × Relational :=
  if s.outstanding.contains ⟨c, id⟩ then
    let (ids, statuses) := markAll c (fun _ => true) .seen (s.batchMessages c id) s.statuses
    (ids, { s.deleteBatch c id with statuses })
  else ([], s)

/-- Removes a batch that was sent by `cutoff`, and makes its sent messages new again. -/
def removeLostBatch (s : Relational) (c : ContactId) (id : BatchId) (cutoff : Int64) :
    Option (List MessageId) × Relational :=
  match s.outstanding[(⟨c, id⟩ : ContactKey BatchId)]? with
  | none => (none, s)
  | some sentAt =>
    if sentAt ≤ cutoff then
      let (ids, statuses) :=
        markAll c (· = Status.sent.toNat) .new (s.batchMessages c id) s.statuses
      (some ids, { s.deleteBatch c id with statuses })
    else (none, s)

/-- Remembers that a batch of a contact is to be acknowledged. -/
def addBatchToAck (s : Relational) (c : ContactId) (id : BatchId) :
    Except StoreError Unit × Relational :=
  if s.contacts.contains c then
    (.ok (), { s with toAck := s.toAck.insert ⟨c, id.bytes⟩ () })
  else (.error .database, s)

/-- The batches to acknowledge to a contact. -/
def batchesToAck (s : Relational) (c : ContactId) : Except StoreError (List BatchId) :=
  (s.toAck.keys.filter fun k => k.contact = c).mapM fun k => Id.ofColumn k.item

/-- Forgets batches to acknowledge. -/
def removeBatchesToAck (s : Relational) (c : ContactId) (ids : List BatchId) : Relational :=
  { s with toAck := ids.foldl (fun t id => t.erase ⟨c, id.bytes⟩) s.toAck }

/-! ## Secrets -/

/-- Stores secrets in turn, up to the first whose contact does not exist. -/
def addSecrets (s : Relational) : List Secret → Except StoreError Unit × Relational
  | [] => (.ok (), s)
  | x :: rest =>
    if s.contacts.contains x.contact then
      addSecrets { s with secrets := s.secrets.insert (SecretKey.toRaw x.key) x.toRow } rest
    else (.error .database, s)

/-- All secrets in the order of their rows. -/
def allSecrets (s : Relational) : Except StoreError (List Secret) :=
  s.secrets.toList.mapM fun e => e.2.toSecret e.1

/-- The secret with this key. -/
def secret (s : Relational) (key : SecretKey) : Except StoreError (Option Secret) :=
  match s.secrets[key.toRaw]? with
  | none => .ok none
  | some row => return some (← row.toSecret key.toRaw)

/-- Counts one more outgoing connection. The row keeps a counter that has left its range. -/
def incrementConnectionCounter (s : Relational) (key : SecretKey) :
    Except StoreError (Option UInt64) × Relational :=
  match s.secrets[key.toRaw]? with
  | none => (.ok none, s)
  | some row =>
    let outgoing := row.outgoing.bind countOn
    -- the row is written before the new number is looked at
    let s := { s with secrets := s.secrets.insert key.toRaw { row with outgoing } }
    match outgoing with
    | some n => (.ok (some n.toUInt64), s)
    | none => (.error .database, s)

/-- Replaces the replay window of a secret. -/
def setConnectionWindow (s : Relational) (key : SecretKey) (window : Window) :
    Bool × Relational :=
  (s.secrets.contains key.toRaw, { s with secrets := s.secrets.modify key.toRaw fun row =>
    { row with centre := window.centre.toInt64, bitmap := window.bitmapBytes } })

/-- Removes the secrets of periods before `period`. -/
def removeSecretsBefore (s : Relational) (c : ContactId) (t : TransportId) (period : UInt64) :
    Nat × Relational :=
  let old (k : RawSecretKey) : Bool :=
    k.contact = c && k.item.transport = t && k.item.period < period.toInt64
  (s.secrets.keys.countP old, { s with secrets := s.secrets.filter fun k _ => !old k })

/-! ## Opening -/

/-- Opens the store anew, unless a later version set up its tables. -/
def reopen (s : Relational) : Except StoreError Relational :=
  let found := s.versions.keys.foldl max 0
  -- versions are numbers of 32 bits
  if (UInt32.size : Int) ≤ found then .error .database
  else if version < found then .error (.newerSchema found.toNat version)
  else .ok s

end Relational

/-! ## The queries -/

instance : Store Relational where
  addContact transports := .update (·.addContact transports)
  containsContact c := .read (·.contacts.contains c)
  contacts := .read (·.contacts.keys)
  removeContact c := .set (·.removeContact c)
  addSubscription g now := .update (·.addSubscription g now)
  containsSubscription g := .read (·.groups.contains g.bytes)
  subscriptions := .tryRead (·.subscriptions)
  subscriptionsTimestamp := .read (·.subscriptionsAt)
  removeSubscription g now := .update (·.removeSubscription g now)
  setSubscriptions c groups timestamp := (·.setSubscriptions c groups timestamp)
  contactSubscriptions c := .read (·.contactSubscriptions c)
  setLocalTransports transports now :=
    .set ({ · with transports := encodeProperties transports, transportsAt := now })
  localTransports := .tryRead (·.localTransports)
  setTransports c transports timestamp := (·.setTransports c transports timestamp)
  contactTransports c := .tryRead (·.contactTransports c)
  addMessage m sender := (·.addMessage m sender)
  containsMessage id := .read (·.messages.contains id)
  rawMessage id := .read fun s => (s.messages[id]?).map MessageRow.raw
  rawIfSendable c id := .read (·.rawIfSendable c id)
  sendableMessages c capacity :=
    .read fun s => (Message.takeWithin capacity (s.eligible c)).map Message.id
  oldMessages size := .read fun s => (Message.takeUntil size s.byAge).map Message.id
  totalMessageSize := .read fun s => Message.totalSize s.allMessages
  removeMessage id := .set (·.removeMessages fun k _ => k = id)
  status c id := .tryRead (·.status c id)
  setSeenIfVisible c id := .update (·.setSeenIfVisible c id)
  rating a := .tryRead (·.rating a)
  setRating a rating := (·.setRating a rating)
  setSendability a sendable := .update (·.setSendability a sendable)
  addOutstandingBatch c id messages sentAt := (·.addOutstandingBatch c id messages sentAt)
  outstandingBatches c := .read (·.outstandingOf c)
  lostBatches c cutoff := .read fun s =>
    ((s.outstandingOf c).filter fun b => b.sentAt ≤ cutoff).map OutstandingBatch.id
  removeAckedBatch c id := .update (·.removeAckedBatch c id)
  removeLostBatch c id cutoff := .update (·.removeLostBatch c id cutoff)
  addBatchToAck c id := (·.addBatchToAck c id)
  batchesToAck c := .tryRead (·.batchesToAck c)
  removeBatchesToAck c ids := .set (·.removeBatchesToAck c ids)
  addSecrets secrets := (·.addSecrets secrets)
  secrets := .tryRead (·.allSecrets)
  secret key := .tryRead (·.secret key)
  incrementConnectionCounter key := (·.incrementConnectionCounter key)
  setConnectionWindow key window := .update (·.setConnectionWindow key window)
  removeSecretsBefore c t period := .update (·.removeSecretsBefore c t period)

end MessageSync
