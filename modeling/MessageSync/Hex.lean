/-!
# Byte strings and their hexadecimal text

`Bytes` is the type of every raw byte string of the library. `Hex.encode` writes
two lowercase digits per byte, and `Hex.decode` reads a text of a known size back,
naming the first thing that is wrong with it.
-/

namespace MessageSync

/-- A byte string. -/
abbrev Bytes := List UInt8

namespace Hex

/-! ## Digits -/

/-- The lowercase digit of a number below sixteen. -/
def digit (n : Nat) : Char :=
  if n < 10 then Char.ofNat ('0'.toNat + n) else Char.ofNat ('a'.toNat + (n - 10))

/-- The value of the digit that `b` is the ASCII code of, in either case. -/
def digitValue? (b : UInt8) : Option Nat :=
  let n := b.toNat
  if 48 ≤ n ∧ n ≤ 57 then some (n - 48)
  else if 97 ≤ n ∧ n ≤ 102 then some (n - 87)
  else if 65 ≤ n ∧ n ≤ 70 then some (n - 55)
  else none

/-! ## Writing -/

/-- Two digits for each byte, the high half first. -/
def encodeChars (bytes : Bytes) : List Char :=
  bytes.flatMap fun b => [digit (b.toNat / 16), digit (b.toNat % 16)]

/-- The hexadecimal text of a byte string. -/
def encode (bytes : Bytes) : String :=
  String.ofList (encodeChars bytes)

/-! ## Reading -/

/-- Why a text is not the hexadecimal form of a byte string of the wanted size. -/
inductive Fault where
  /-- The text has an odd number of bytes. -/
  | oddLength
  /-- The text has an even number of bytes, but not two for each wanted byte. -/
  | wrongLength
  /-- The byte at this position is no hexadecimal digit. -/
  | badDigit (byte : UInt8) (position : Nat)
deriving DecidableEq

/-- Reads pairs of digits; `position` is the index of the first byte that is left. -/
def decodePairs (position : Nat) : Bytes → Except Fault Bytes
  | [] => .ok []
  -- not reached from `decode`, which checks the length first
  | [b] => .error (.badDigit b position)
  | high :: low :: rest =>
    match digitValue? high, digitValue? low with
    | none, _ => .error (.badDigit high position)
    | some _, none => .error (.badDigit low (position + 1))
    | some h, some l => (decodePairs (position + 2) rest).map (UInt8.ofNat (16 * h + l) :: ·)

/-- Reads `size` bytes from the bytes of a text. The length is checked before the digits. -/
def decode (size : Nat) (text : Bytes) : Except Fault Bytes :=
  if text.length % 2 = 1 then .error .oddLength
  else if text.length ≠ 2 * size then .error .wrongLength
  else decodePairs 0 text

/-! ## Wording -/

/-- A byte, taken as a character of the first 256, between single quotes: control
characters and the two invisible characters among the rest are written as escapes. -/
def quoteByte (b : UInt8) : String :=
  let n := b.toNat
  let inner :=
    if n = 0 then "\\0"
    else if n = 9 then "\\t"
    else if n = 10 then "\\n"
    else if n = 13 then "\\r"
    else if n = 39 then "\\'"
    else if n = 92 then "\\\\"
    -- 160 is the space that does not break, 173 the hyphen that only shows at a break
    else if n < 32 ∨ (127 ≤ n ∧ n ≤ 160) ∨ n = 173 then
      "\\u\x7b" ++ String.ofList (Nat.toDigits 16 n) ++ "\x7d"
    else String.singleton (Char.ofNat n)
  "'" ++ inner ++ "'"

/-- The wording of a fault. -/
def Fault.message : Fault → String
  | .oddLength => "Odd number of digits"
  | .wrongLength => "Invalid string length"
  | .badDigit byte position =>
    "Invalid character " ++ quoteByte byte ++ " at position " ++ toString position

end Hex

end MessageSync
