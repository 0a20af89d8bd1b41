import MessageSync.Ident

/-!
# Writing CBOR items

Every item is written in one way: the number of a head takes the fewest bytes it can,
and lengths come first. Fixed byte arrays and identifiers are arrays of small numbers;
only opaque message bytes are byte strings.
-/

namespace MessageSync.Cbor.Write

/-- The `width` lowest bytes of a number, the most significant first. -/
def bigEndian : Nat → Nat → Bytes
  | 0, _ => []
  | width + 1, n => bigEndian width (n / 256) ++ [UInt8.ofNat (n % 256)]

/-- The head of an item of the given major type with the number `n` below 2^64. -/
def head (major n : Nat) : Bytes :=
  let first (info : Nat) : UInt8 := UInt8.ofNat (32 * major + info)
  if n < 24 then [first n]
  else if n < UInt8.size then first 24 :: bigEndian 1 n
  else if n < UInt16.size then first 25 :: bigEndian 2 n
  else if n < UInt32.size then first 26 :: bigEndian 4 n
  else first 27 :: bigEndian 8 n

/-- An unsigned number. -/
def number (n : Nat) : Bytes := head 0 n

/-- A signed number. -/
def integer (i : Int) : Bytes :=
  if 0 ≤ i then head 0 i.toNat else head 1 (-1 - i).toNat

/-- A byte string. -/
def byteString (bytes : Bytes) : Bytes := head 2 bytes.length ++ bytes

/-- A text string. -/
def text (s : String) : Bytes := head 3 (utf8 s).length ++ utf8 s

/-- An array, by the encodings of its elements. -/
def array {α : Type} (element : α → Bytes) (elements : List α) : Bytes :=
  head 4 elements.length ++ elements.flatMap element

/-- A byte string as an array of numbers. -/
def byteArray (bytes : Bytes) : Bytes := array (fun b => number b.toNat) bytes

/-- A map from names to encoded values, in the order given. -/
def record (fields : List (String × Bytes)) : Bytes :=
  head 5 fields.length ++ fields.flatMap fun f => text f.1 ++ f.2

/-- A map from texts to texts. -/
def textMap (entries : List (String × String)) : Bytes :=
  head 5 entries.length ++ entries.flatMap fun e => text e.1 ++ text e.2

/-- One of several forms: a map from the name of the form to its content. -/
def variant (name : String) (content : Bytes) : Bytes := record [(name, content)]

/-- The item that stands for nothing. -/
def null : Bytes := [0xf6]

/-- An identifier. -/
def ident {kind : IdKind} (id : Id kind) : Bytes := byteArray id.bytes

end MessageSync.Cbor.Write
