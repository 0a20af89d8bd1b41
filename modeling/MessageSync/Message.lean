import MessageSync.Ident

/-!
# Groups, messages, ratings and delivery states

A message never changes once it is stored. What changes is its `Delivery` to each
contact that may see it: whether that contact has it, and whether it may travel on
at all, which depends on the rating of its author.
-/

namespace MessageSync

/-! ## Groups -/

/-- A topic that messages are posted to. -/
@[ext]
structure Group where
  id : GroupId
  name : String
deriving DecidableEq

/-- The group with this name and salt; its identifier is derived from both. -/
def Group.ofName (name : String) (salt : Bytes) : Group :=
  ⟨.ofHash .group (groupHashInput name salt), name⟩

/-! ## Ratings -/

/-- How far an author is trusted. -/
inductive Rating where
  | unrated
  | good
  | bad
deriving DecidableEq, Inhabited

namespace Rating

/-- The number a rating is stored as. -/
def toNat : Rating → Nat
  | unrated => 0
  | good => 1
  | bad => 2

/-- The rating stored as a number. -/
def ofNat? : Nat → Option Rating
  | 0 => some unrated
  | 1 => some good
  | 2 => some bad
  | _ => none

theorem ofNat?_toNat (r : Rating) : ofNat? r.toNat = some r := by
  cases r <;> rfl

/-- The name of a rating. -/
def name : Rating → String
  | unrated => "Unrated"
  | good => "Good"
  | bad => "Bad"

/-- The rating of this name. -/
def ofName? (text : String) : Option Rating :=
  [unrated, good, bad].find? fun r => r.name = text

/-- Whether messages of such an author travel on. -/
def isGood (r : Rating) : Bool := r = good

end Rating

/-- Whether a message may be passed on: it is anonymous, or its author is rated good. -/
def isSendable (author : Option AuthorId) (rating : Rating) : Bool :=
  author.isNone || rating.isGood

/-! ## Delivery states -/

/-- How far a message has come on its way to a contact. -/
inductive Status where
  /-- Not sent, or sent in a batch that was lost. -/
  | new
  /-- In a batch that is not acknowledged yet. -/
  | sent
  /-- The contact has it. -/
  | seen
deriving DecidableEq

namespace Status

/-- The number a status is stored as. -/
def toNat : Status → Nat
  | new => 0
  | sent => 1
  | seen => 2

/-- The status stored as a number. -/
def ofNat? : Nat → Option Status
  | 0 => some new
  | 1 => some sent
  | 2 => some seen
  | _ => none

theorem ofNat?_toNat (s : Status) : ofNat? s.toNat = some s := by
  cases s <;> rfl

/-- The name of a status. -/
def name : Status → String
  | new => "New"
  | sent => "Sent"
  | seen => "Seen"

/-- The status of this name. -/
def ofName? (text : String) : Option Status :=
  [new, sent, seen].find? fun s => s.name = text

end Status

/-- The state of one message with respect to one contact. -/
@[ext]
structure Delivery where
  status : Status
  /-- Whether the message may be passed on at all. -/
  sendable : Bool
deriving DecidableEq

namespace Delivery

/-- Whether the contact has the message. -/
def isSeen (d : Delivery) : Bool := d.status = .seen

/-- Whether the message may go into the next batch or offer. -/
def eligible (d : Delivery) : Bool := d.sendable && d.status = .new

/-- The state after the contact was found to have the message. -/
def asSeen (d : Delivery) : Delivery := { d with status := .seen }

/-- The state after the message went into a batch. -/
def asSent (d : Delivery) : Delivery := if d.status = .new then { d with status := .sent } else d

/-- The state after a batch with the message was lost. -/
def asLost (d : Delivery) : Delivery := if d.status = .sent then { d with status := .new } else d

end Delivery

/-- A delivery state together with the contact and the message it is about. -/
structure MessageStatus where
  contact : ContactId
  message : MessageId
  delivery : Delivery
deriving DecidableEq

/-! ## Messages -/

/-- A stored message: its raw signed form, and what a parser found in it. Timestamps
are milliseconds of Unix time, as claimed by the author. -/
@[ext]
structure Message where
  id : MessageId
  group : GroupId
  /-- None for an anonymous message. -/
  author : Option AuthorId
  timestamp : Int64
  raw : Bytes
deriving DecidableEq

namespace Message

/-- The message with this raw form; its identifier is the address of the raw form. -/
def ofRaw (group : GroupId) (author : Option AuthorId) (timestamp : Int64) (raw : Bytes) :
    Message :=
  ⟨.ofRaw raw, group, author, timestamp, raw⟩

/-- The number of raw bytes. -/
def size (m : Message) : Nat := m.raw.length

/-- The order in which messages are sent and expire: oldest first, and by identifier
among those of one moment. -/
def compareAge (a b : Message) : Ordering :=
  (compare a.timestamp b.timestamp).then (compare a.id b.id)

/-- A list of messages, oldest first. -/
def oldestFirst (messages : List Message) : List Message :=
  messages.mergeSort fun a b => (compareAge a b).isLE

end Message

/-- Transport properties: names and values, in the order of the names. -/
abbrev Properties := Table String String

end MessageSync
