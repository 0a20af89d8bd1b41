import Std.Data.ExtTreeMap
import MessageSync.Blake3

/-!
# Identifiers and the tables they index

`Id kind` is a 32 byte identifier of one of four kinds; identifiers are ordered by
their bytes. Contacts and transports have small numbers instead. `Table` is a finite
map that lists its entries in the order of their keys, and `ContactKey` is the key of
a table that holds something for each contact separately.

An identifier that names content is the BLAKE3 hash of that content behind a tag, so
that a message, a batch and a group never share a hashed text.
-/

namespace MessageSync

/-! ## Tables -/

/-- A finite map in the order of its keys. Two tables with the same entries are equal. -/
abbrev Table (κ ν : Type) [Ord κ] := Std.ExtTreeMap κ ν compare

/-- Adds the entries of a list in turn; the last one for a key stays. -/
def Table.insertAll {κ ν : Type} [Ord κ] [Std.TransOrd κ]
    (table : Table κ ν) (entries : List (κ × ν)) : Table κ ν :=
  entries.foldl (fun t e => t.insert e.1 e.2) table

/-! ## Identifiers of 32 bytes -/

/-- What an identifier names. -/
inductive IdKind where
  | message
  | batch
  | group
  | author
deriving DecidableEq

/-- A 32 byte identifier. -/
@[ext]
structure Id (kind : IdKind) where
  bytes : Bytes
  length_bytes : bytes.length = 32
deriving DecidableEq

/-- The content address of a message. -/
abbrev MessageId := Id .message

/-- The content address of a batch under its nonce. -/
abbrev BatchId := Id .batch

/-- The name of a group that outlives renaming. -/
abbrev GroupId := Id .group

/-- The identity of a message author. -/
abbrev AuthorId := Id .author

namespace Id

variable {kind : IdKind}

instance : Ord (Id kind) := ⟨compareOn Id.bytes⟩

instance : Std.TransOrd (Id kind) :=
  inferInstanceAs (Std.TransCmp (compareOn Id.bytes))

instance : Std.LawfulEqOrd (Id kind) where
  eq_of_compare h := Id.ext (Std.LawfulEqOrd.eq_of_compare (α := Bytes) h)

/-- The identifier with these bytes, if there are 32 of them. -/
def ofBytes? (bytes : Bytes) : Option (Id kind) :=
  if h : bytes.length = 32 then some ⟨bytes, h⟩ else none

theorem ofBytes?_bytes (id : Id kind) : ofBytes? id.bytes = some id := by
  simp [ofBytes?, id.length_bytes]

/-- All 64 hexadecimal digits. -/
def toHex (id : Id kind) : String := Hex.encode id.bytes

/-- Reads 64 hexadecimal digits, given as the bytes of a text. -/
def ofHex (text : Bytes) : Except Hex.Fault (Id kind) :=
  match Hex.decode 32 text with
  | .error fault => .error fault
  | .ok bytes =>
    match ofBytes? bytes with
    | some id => .ok id
    | none => .error .wrongLength

/-- The first sixteen digits, by which people tell identifiers apart. -/
def short (id : Id kind) : String :=
  Hex.encode (id.bytes.take 8)

end Id

/-- The name of a kind of identifier. -/
def IdKind.typeName : IdKind → String
  | .message => "MessageId"
  | .batch => "BatchId"
  | .group => "GroupId"
  | .author => "AuthorId"

/-- The short form under the name of its kind. -/
def Id.debug {kind : IdKind} (id : Id kind) : String :=
  kind.typeName ++ "(" ++ id.short ++ ")"

/-! ## Content addresses -/

/-- The identifier that is the hash of a byte string. -/
def Id.ofHash (kind : IdKind) (input : Bytes) : Id kind :=
  ⟨Blake3.hash input, Blake3.length_hash input⟩

/-- The UTF-8 bytes of a text. -/
def utf8 (text : String) : Bytes := text.toUTF8.data.toList

/-- What is hashed for a message. -/
def messageHashInput (raw : Bytes) : Bytes := utf8 "hearsay-message-v0:" ++ raw

/-- What is hashed for a batch with this encoded body. -/
def batchHashInput (body : Bytes) : Bytes := utf8 "hearsay-batch-v0:" ++ body

/-- What is hashed for a group: its name and its salt, with a colon between. -/
def groupHashInput (name : String) (salt : Bytes) : Bytes :=
  utf8 "hearsay-group-v0:" ++ utf8 name ++ utf8 ":" ++ salt

/-- The address of a raw message. -/
def MessageId.ofRaw (raw : Bytes) : MessageId := .ofHash .message (messageHashInput raw)

/-- The address of an encoded batch body. -/
def BatchId.ofBody (body : Bytes) : BatchId := .ofHash .batch (batchHashInput body)

/-! ## Contacts and transports -/

/-- A contact, by the number it got when it was added. A number has 32 bits as long as fewer
than 2^32 - 1 contacts were added; the numbers are not bounded here. -/
@[ext]
structure ContactId where
  number : Nat
deriving DecidableEq

/-- A kind of connection between contacts, by its number. -/
@[ext]
structure TransportId where
  number : Nat
deriving DecidableEq

instance : Ord ContactId := ⟨compareOn ContactId.number⟩

instance : Std.TransOrd ContactId :=
  inferInstanceAs (Std.TransCmp (compareOn ContactId.number))

instance : Std.LawfulEqOrd ContactId where
  eq_of_compare h := ContactId.ext (Std.LawfulEqOrd.eq_of_compare (α := Nat) h)

instance : Ord TransportId := ⟨compareOn TransportId.number⟩

instance : Std.TransOrd TransportId :=
  inferInstanceAs (Std.TransCmp (compareOn TransportId.number))

instance : Std.LawfulEqOrd TransportId where
  eq_of_compare h := TransportId.ext (Std.LawfulEqOrd.eq_of_compare (α := Nat) h)

/-- How a contact is shown to people. -/
def ContactId.display (c : ContactId) : String := "contact#" ++ toString c.number

/-- How a contact is shown in a record. -/
def ContactId.debug (c : ContactId) : String := "ContactId(" ++ toString c.number ++ ")"

/-- How a transport is shown to people. -/
def TransportId.display (t : TransportId) : String := "transport#" ++ toString t.number

/-- How a transport is shown in a record. -/
def TransportId.debug (t : TransportId) : String := "TransportId(" ++ toString t.number ++ ")"

/-! ## Keys within a contact -/

/-- Something of one contact. Keys of a smaller contact come first. -/
@[ext]
structure ContactKey (κ : Type) where
  contact : ContactId
  item : κ
deriving DecidableEq

section
variable {κ : Type} [Ord κ]

instance : Ord (ContactKey κ) :=
  ⟨compareLex (compareOn ContactKey.contact) (compareOn ContactKey.item)⟩

instance [Std.TransOrd κ] : Std.TransOrd (ContactKey κ) :=
  inferInstanceAs
    (Std.TransCmp (compareLex (compareOn ContactKey.contact) (compareOn ContactKey.item)))

instance [Std.LawfulEqOrd κ] : Std.LawfulEqOrd (ContactKey κ) where
  compare_self {a} := compareLex_eq_eq.2
    ⟨Std.ReflOrd.compare_self (α := ContactId), Std.ReflOrd.compare_self (α := κ)⟩
  eq_of_compare {a b} h := by
    have h : compareLex (compareOn ContactKey.contact) (compareOn ContactKey.item) a b = .eq := h
    rw [compareLex_eq_eq] at h
    exact ContactKey.ext (Std.LawfulEqOrd.eq_of_compare (α := ContactId) h.1)
      (Std.LawfulEqOrd.eq_of_compare (α := κ) h.2)

end

/-! The orders of the keys that many tables have, each found once and by name. -/

instance : Std.TransOrd (ContactKey GroupId) := instTransOrdContactKey

instance : Std.TransOrd (ContactKey MessageId) := instTransOrdContactKey

instance : Std.TransOrd (ContactKey BatchId) := instTransOrdContactKey

instance : Std.TransOrd (ContactKey Bytes) := instTransOrdContactKey

/-- A rotation period of a transport, in a form `π` of the period's number. -/
@[ext]
structure PeriodKey (π : Type) where
  transport : TransportId
  period : π
deriving DecidableEq

section
variable {π : Type} [Ord π]

instance : Ord (PeriodKey π) :=
  ⟨compareLex (compareOn PeriodKey.transport) (compareOn PeriodKey.period)⟩

instance [Std.TransOrd π] : Std.TransOrd (PeriodKey π) :=
  inferInstanceAs
    (Std.TransCmp (compareLex (compareOn PeriodKey.transport) (compareOn PeriodKey.period)))

instance [Std.LawfulEqOrd π] : Std.LawfulEqOrd (PeriodKey π) where
  compare_self {a} := compareLex_eq_eq.2
    ⟨Std.ReflOrd.compare_self (α := TransportId), Std.ReflOrd.compare_self (α := π)⟩
  eq_of_compare {a b} h := by
    have h : compareLex (compareOn PeriodKey.transport) (compareOn PeriodKey.period) a b = .eq := h
    rw [compareLex_eq_eq] at h
    exact PeriodKey.ext (Std.LawfulEqOrd.eq_of_compare (α := TransportId) h.1)
      (Std.LawfulEqOrd.eq_of_compare (α := π) h.2)

end

instance : Std.TransOrd (ContactKey (PeriodKey UInt64)) := instTransOrdContactKey

end MessageSync
