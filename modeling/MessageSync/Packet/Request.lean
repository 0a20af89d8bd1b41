import MessageSync.Message

/-!
# Requests

A request answers an offer with one flag for each offered message. The flags are packed
into bytes, the most significant bit first. A request that came from outside may have a
bitmap that is too short or too long for its length: flags that are missing are not set,
and bits past the length mean nothing.
-/

namespace MessageSync

/-- Which messages of an offer are wanted. -/
@[ext]
structure Request where
  length : UInt32
  bitmap : Bytes
deriving DecidableEq

namespace Request

/-- The byte of at most eight flags, the first in the most significant bit. -/
def packByte (flags : List Bool) : UInt8 :=
  UInt8.ofNat ((List.range 8).foldl (fun n i => 2 * n + (flags.getD i false).toNat) 0)

/-- Packs flags into bytes; the first argument bounds the number of bytes. -/
def pack : Nat → List Bool → Bytes
  | 0, _ => []
  | _, [] => []
  | n + 1, flags => packByte (flags.take 8) :: pack n (flags.drop 8)

/-- The number of bytes that hold `n` flags. -/
def bytesFor (n : Nat) : Nat := (n + 7) / 8

/-- The request with these flags. -/
def ofFlags (flags : List Bool) : Request :=
  ⟨UInt32.ofNat flags.length, pack (bytesFor flags.length) flags⟩

/-- The number of flags. -/
def size (r : Request) : Nat := r.length.toNat

/-- Whether offered message `i` is wanted. -/
def isRequested (r : Request) (i : Nat) : Bool :=
  i < r.size &&
    match r.bitmap[i / 8]? with
    | some byte => byte.toBitVec.getMsbD (i % 8)
    | none => false

/-- The flags in order. -/
def flags (r : Request) : List Bool := (List.range r.size).map r.isRequested

/-- The number of wanted messages. -/
def count (r : Request) : Nat := (List.range r.size).countP r.isRequested

/-- The flags as a text of zeros and ones. -/
def display (r : Request) : String :=
  String.ofList ((List.range r.size).map fun i => if r.isRequested i then '1' else '0')

/-- The wanted identifiers of an offer of as many messages, in the order of the offer. -/
def requestedIds (r : Request) (offer : List MessageId) : Option (List MessageId) :=
  if offer.length = r.size then
    some ((offer.zipIdx.filter fun e => r.isRequested e.2).map Prod.fst)
  else none

end Request

end MessageSync
