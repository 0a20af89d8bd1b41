import MessageSync.Ident

/-!
# JSON text

`parse` turns a text into a `Value`, one character and then one token at a time: `Scan`
is the state between characters, `Stack` the state between tokens. Neither recurses into
the text, so a value may nest to any depth.

The syntax is strict, with one exception. A string may hold characters that JSON does
not allow as they are, and escapes of surrogates that do not pair; whether such a string
is accepted depends on what it is read as, so `Chars` keeps them and says so.
-/

namespace MessageSync.Json

/-! ## Values -/

/-- The content of a string. -/
structure Chars where
  /-- Code points, among them surrogates that do not pair. -/
  points : List Nat
  /-- Whether no control character stands in the string as it is. -/
  clean : Bool
deriving DecidableEq

/-- A JSON value. Arrays and objects know whether all strings inside them are clean. -/
inductive Value where
  | null
  | bool (b : Bool)
  /-- A number without fraction and exponent. -/
  | int (i : Int)
  /-- Any other number. -/
  | otherNumber
  | string (chars : Chars)
  | array (items : List Value) (clean : Bool)
  /-- Members in the order of the text. -/
  | object (members : List (Chars × Value)) (clean : Bool)

/-- Whether no string inside the value has a control character as it is. -/
def Value.clean : Value → Bool
  | string chars => chars.clean
  | array _ clean => clean
  | object _ clean => clean
  | _ => true

namespace Chars

/-- Whether a number is a surrogate. -/
def isSurrogate (n : Nat) : Bool := 0xD800 ≤ n && n ≤ 0xDFFF

/-- The text of a string, unless it has a control character as it is or a lone surrogate. -/
def text? (s : Chars) : Option String :=
  if s.clean && !s.points.any isSurrogate then some (String.ofList (s.points.map Char.ofNat))
  else none

/-- The bytes of one code point in the manner of UTF-8, surrogates included. -/
def pointBytes (n : Nat) : Bytes :=
  if n < 0x80 then [UInt8.ofNat n]
  else if n < 0x800 then [UInt8.ofNat (0xC0 + n / 64), UInt8.ofNat (0x80 + n % 64)]
  else if n < 0x10000 then
    [UInt8.ofNat (0xE0 + n / 4096), UInt8.ofNat (0x80 + n / 64 % 64), UInt8.ofNat (0x80 + n % 64)]
  else
    [UInt8.ofNat (0xF0 + n / 262144), UInt8.ofNat (0x80 + n / 4096 % 64),
     UInt8.ofNat (0x80 + n / 64 % 64), UInt8.ofNat (0x80 + n % 64)]

/-- The bytes of a string. -/
def bytes (s : Chars) : Bytes := s.points.flatMap pointBytes

/-- Joins surrogates that pair. -/
def joinSurrogates : List Nat → List Nat
  | high :: low :: rest =>
    if 0xD800 ≤ high ∧ high ≤ 0xDBFF ∧ 0xDC00 ≤ low ∧ low ≤ 0xDFFF then
      (0x10000 + (high - 0xD800) * 1024 + (low - 0xDC00)) :: joinSurrogates rest
    else high :: joinSurrogates (low :: rest)
  | short => short

end Chars

/-! ## Tokens -/

/-- A token of JSON text. -/
inductive Token where
  | openObject
  | closeObject
  | openArray
  | closeArray
  | comma
  | colon
  /-- A value that is a single token. -/
  | scalar (value : Value)

/-- Where in a string the scan is. -/
inductive StringMode where
  | plain
  /-- After a backslash. -/
  | escape
  /-- In the digits of an escaped code unit. -/
  | digits (count : Nat) (value : Nat)

/-- What the scan is in the middle of. Characters are kept with the last one first. -/
inductive Scan where
  | between
  | word (chars : List Char)
  | number (chars : List Char)
  | string (units : List Nat) (clean : Bool) (mode : StringMode)

/-- The value of a hexadecimal digit. -/
def hexValue? (c : Char) : Option Nat :=
  if c.toNat < 128 then Hex.digitValue? (UInt8.ofNat c.toNat) else none

/-- The digits at the front of a list of characters. -/
def digitsPart (cs : List Char) : List Char × List Char := cs.span Char.isDigit

/-- The value of decimal digits. -/
def decimal (cs : List Char) : Nat := cs.foldl (fun n c => 10 * n + (c.toNat - '0'.toNat)) 0

/-- Whether characters are the exponent of a number. -/
def isExponent : List Char → Bool
  | [] => true
  | e :: rest =>
    (e = 'e' || e = 'E') &&
      let digits := match rest with
        | '+' :: ds => ds
        | '-' :: ds => ds
        | ds => ds
      !digits.isEmpty && digits.all Char.isDigit

/-- Whether characters are the fraction and exponent of a number. -/
def isTail : List Char → Bool
  | '.' :: rest =>
    let (digits, rest) := digitsPart rest
    !digits.isEmpty && isExponent rest
  | rest => isExponent rest

/-- The number that characters spell. A minus before a plain zero makes it no integer. -/
def number? (cs : List Char) : Option Value :=
  let (negative, cs) := match cs with
    | '-' :: rest => (true, rest)
    | rest => (false, rest)
  let (digits, tail) := digitsPart cs
  let leading := match digits with
    | [] => false
    | ['0'] => true
    | '0' :: _ => false
    | _ => true
  if !leading || !isTail tail then none
  else if tail.isEmpty then
    let n := decimal digits
    -- minus zero only exists as a number with a fraction
    if negative then if n = 0 then some .otherNumber else some (.int (-n)) else some (.int n)
  else some .otherNumber

/-- The literal that characters spell. -/
def word? (cs : List Char) : Option Value :=
  if cs = ['n', 'u', 'l', 'l'] then some .null
  else if cs = ['t', 'r', 'u', 'e'] then some (.bool true)
  else if cs = ['f', 'a', 'l', 's', 'e'] then some (.bool false)
  else none

/-- The code unit that a one letter escape stands for. -/
def escape? (c : Char) : Option Nat :=
  match c with
  | '"' => some 0x22
  | '\\' => some 0x5C
  | '/' => some 0x2F
  | 'b' => some 0x08
  | 'f' => some 0x0C
  | 'n' => some 0x0A
  | 'r' => some 0x0D
  | 't' => some 0x09
  | _ => none

/-- The scan state and the tokens so far, the last first. -/
abbrev Scanned := Scan × List Token

/-- A character that belongs to no token before it. -/
def scanFresh (tokens : List Token) (c : Char) : Option Scanned :=
  if c = ' ' ∨ c = '\t' ∨ c = '\n' ∨ c = '\r' then some (.between, tokens)
  else if c = '\x7b' then some (.between, .openObject :: tokens)
  else if c = '\x7d' then some (.between, .closeObject :: tokens)
  else if c = '[' then some (.between, .openArray :: tokens)
  else if c = ']' then some (.between, .closeArray :: tokens)
  else if c = ',' then some (.between, .comma :: tokens)
  else if c = ':' then some (.between, .colon :: tokens)
  else if c = '"' then some (.string [] true .plain, tokens)
  else if c = '-' ∨ c.isDigit then some (.number [c], tokens)
  else if 'a' ≤ c ∧ c ≤ 'z' then some (.word [c], tokens)
  else none

/-- Whether a character can be part of a number. -/
def inNumber (c : Char) : Bool :=
  c.isDigit || c = '.' || c = 'e' || c = 'E' || c = '+' || c = '-'

/-- A character inside a string. -/
def scanString (tokens : List Token) (units : List Nat) (clean : Bool) (c : Char) :
    StringMode → Option Scanned
  | .plain =>
    if c = '"' then
      some (.between, .scalar (.string ⟨Chars.joinSurrogates units.reverse, clean⟩) :: tokens)
    else if c = '\\' then some (.string units clean .escape, tokens)
    else some (.string (c.toNat :: units) (clean && 0x20 ≤ c.toNat) .plain, tokens)
  | .escape =>
    if c = 'u' then some (.string units clean (.digits 0 0), tokens)
    else (escape? c).map fun unit => (.string (unit :: units) clean .plain, tokens)
  | .digits count value =>
    match hexValue? c with
    | none => none
    | some digit =>
      let value := 16 * value + digit
      if count = 3 then some (.string (value :: units) clean .plain, tokens)
      else some (.string units clean (.digits (count + 1) value), tokens)

/-- One character. -/
def scanStep (state : Scanned) (c : Char) : Option Scanned :=
  match state with
  | (.between, tokens) => scanFresh tokens c
  | (.word cs, tokens) =>
    if 'a' ≤ c ∧ c ≤ 'z' then some (.word (c :: cs), tokens)
    else (word? cs.reverse).bind fun v => scanFresh (.scalar v :: tokens) c
  | (.number cs, tokens) =>
    if inNumber c then some (.number (c :: cs), tokens)
    else (number? cs.reverse).bind fun v => scanFresh (.scalar v :: tokens) c
  | (.string units clean mode, tokens) => scanString tokens units clean c mode

/-- The tokens of a text. -/
def tokens? (text : List Char) : Option (List Token) := do
  let (scan, tokens) ← text.foldlM scanStep (.between, [])
  match scan with
  | .between => return tokens.reverse
  | .word cs => return (.scalar (← word? cs.reverse) :: tokens).reverse
  | .number cs => return (.scalar (← number? cs.reverse) :: tokens).reverse
  | .string .. => none

/-! ## Parsing -/

/-- A container that is not closed yet. What it holds is kept with the last first. -/
inductive Frame where
  | array (items : List Value) (clean : Bool)
  | object (members : List (Chars × Value)) (clean : Bool)
  /-- An object after the key and the colon of a member. -/
  | member (members : List (Chars × Value)) (clean : Bool) (key : Chars)

/-- What may come next. -/
inductive Expect where
  | value
  /-- A value or the end of an empty array. -/
  | firstItem
  | key
  /-- A key or the end of an empty object. -/
  | firstKey
  | colon (key : Chars)
  /-- A comma or the end of the innermost container. -/
  | more
  /-- The text is complete. -/
  | nothing (value : Value)

/-- The open containers, the innermost first, and what may come next. -/
structure Stack where
  frames : List Frame
  expect : Expect

/-- A value is complete. -/
def Stack.complete (frames : List Frame) (v : Value) : Option Stack :=
  match frames with
  | [] => some ⟨[], .nothing v⟩
  | .array items clean :: rest => some ⟨.array (v :: items) (clean && v.clean) :: rest, .more⟩
  | .member members clean key :: rest =>
    some ⟨.object ((key, v) :: members) (clean && key.clean && v.clean) :: rest, .more⟩
  | .object .. :: _ => none

/-- One token. -/
def Stack.step (s : Stack) (t : Token) : Option Stack :=
  let start : Option Stack :=
    match t with
    | .scalar v => Stack.complete s.frames v
    | .openArray => some ⟨.array [] true :: s.frames, .firstItem⟩
    | .openObject => some ⟨.object [] true :: s.frames, .firstKey⟩
    | _ => none
  let close : Option Stack :=
    match s.frames, t with
    | .array items clean :: rest, .closeArray => Stack.complete rest (.array items.reverse clean)
    | .object members clean :: rest, .closeObject =>
      Stack.complete rest (.object members.reverse clean)
    | _, _ => none
  match s.expect, t with
  | .value, _ => start
  | .firstItem, .closeArray => close
  | .firstItem, _ => start
  | .firstKey, .closeObject => close
  | .firstKey, .scalar (.string key) => some ⟨s.frames, .colon key⟩
  | .key, .scalar (.string key) => some ⟨s.frames, .colon key⟩
  | .colon key, .colon =>
    match s.frames with
    | .object members clean :: rest => some ⟨.member members clean key :: rest, .value⟩
    | _ => none
  | .more, .comma =>
    match s.frames with
    | .array .. :: _ => some ⟨s.frames, .value⟩
    | .object .. :: _ => some ⟨s.frames, .key⟩
    | _ => none
  | .more, _ => close
  | _, _ => none

/-- The value that a text spells. -/
def parse (text : String) : Option Value := do
  let tokens ← tokens? text.toList
  let stack ← tokens.foldlM Stack.step ⟨[], .value⟩
  match stack.expect with
  | .nothing v => return v
  | _ => none

end MessageSync.Json
