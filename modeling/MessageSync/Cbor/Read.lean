import MessageSync.Ident

/-!
# Reading CBOR items

A `Reader` takes what it needs from the front of a byte string and leaves the rest, or
fails. Each kind of value has its own reader; readers accept more than is ever written:
heads of any width, lengths given at the end, and tags before most items.

Loops whose length the input does not announce are bounded by the input itself: each
turn takes at least one byte, so the bytes that are left are enough turns.

The readers of this module nest no deeper than the values they read. Only a skipped
value can nest without end, so `skip` counts the levels that it may still enter.
-/

namespace MessageSync.Cbor.Read

/-- Takes a value from the front of a byte string. -/
abbrev Reader := StateT Bytes Option

/-! ## Heads -/

/-- The first bytes of an item. A length is missing when the item runs to a stop. -/
inductive Head where
  | unsigned (n : Nat)
  /-- The number `-1 - n`. -/
  | negative (n : Nat)
  | bytes (length : Option Nat)
  | text (length : Option Nat)
  | array (length : Option Nat)
  | map (length : Option Nat)
  | tag (n : Nat)
  | simple (n : Nat)
  | float
  | stop
deriving DecidableEq

/-- The next `n` bytes; `taken` holds earlier ones, the last first. -/
def takeOnto (taken : Bytes) : Nat → Bytes → Option (Bytes × Bytes)
  | 0, rest => some (taken.reverse, rest)
  | _ + 1, [] => none
  | n + 1, b :: rest => takeOnto (b :: taken) n rest

/-- The next `n` bytes. -/
def take (n : Nat) : Reader Bytes := takeOnto [] n

/-- The number that bytes stand for, the most significant first. -/
def ofBigEndian (bytes : Bytes) : Nat :=
  bytes.foldl (fun n b => 256 * n + b.toNat) 0

/-- The number of a head: small ones stand in the first byte, others in the bytes after
it, and the last form of the first byte stands for no number at all. -/
def argument (info : Nat) : Reader (Option Nat) :=
  if info < 24 then pure (some info)
  else if info = 24 then do return some (ofBigEndian (← take 1))
  else if info = 25 then do return some (ofBigEndian (← take 2))
  else if info = 26 then do return some (ofBigEndian (← take 4))
  else if info = 27 then do return some (ofBigEndian (← take 8))
  else if info = 31 then pure none
  else failure

/-- The head with this major type and number. -/
def headOf (major info : Nat) (arg : Option Nat) : Option Head :=
  match major, arg with
  | 0, some n => some (.unsigned n)
  | 1, some n => some (.negative n)
  | 2, length => some (.bytes length)
  | 3, length => some (.text length)
  | 4, length => some (.array length)
  | 5, length => some (.map length)
  | 6, some n => some (.tag n)
  | 7, none => some .stop
  | 7, some n => some (if info ≤ 24 then .simple n else .float)
  | _, _ => none

/-- Reads a head. -/
def readHead : Reader Head
  | [] => none
  | first :: rest =>
    let info := first.toNat % 32
    match argument info rest with
    | none => none
    | some (arg, rest) => (headOf (first.toNat / 32) info arg).map fun h => (h, rest)

/-! ## Loops -/

/-- A fixed number of steps. -/
def times {ρ : Type} (step : ρ → Reader ρ) : Nat → ρ → Bytes → Option (ρ × Bytes)
  | 0, r, input => some (r, input)
  | n + 1, r, input =>
    match step r input with
    | none => none
    | some (r, input) => times step n r input

/-- Steps until a stop; the second argument bounds their number. -/
def untilStop {ρ : Type} (step : ρ → Reader ρ) : Bytes → ρ → Bytes → Option (ρ × Bytes)
  | [], _, _ => none
  | _ :: bound, r, input =>
    match readHead input with
    | some (.stop, rest) => some (r, rest)
    | _ =>
      match step r input with
      | none => none
      | some (r, input) => untilStop step bound r input

/-- The items of an array or map of the given length. -/
def items {ρ : Type} (length : Option Nat) (step : ρ → Reader ρ) (r : ρ) : Reader ρ :=
  match length with
  | some n => times step n r
  | none => fun input => untilStop step input r input

/-- The items of an array as a list. -/
def list {α : Type} (length : Option Nat) (item : Reader α) : Reader (List α) := do
  let reversed ← items length (fun taken => do return (← item) :: taken) []
  return reversed.reverse

/-! ## Tags -/

/-- Passes over tags; the first argument bounds their number. -/
def passTags : Bytes → Bytes → Option (Unit × Bytes)
  | [], _ => none
  | _ :: bound, input =>
    match readHead input with
    | some (.tag _, rest) => passTags bound rest
    | some _ => some ((), input)
    | none => none

/-- Passes over the tags in front of an item. -/
def skipTags : Reader Unit := fun input => passTags input input

/-- The first head that is not a tag. -/
def untagged : Reader Head := do
  skipTags
  readHead

/-! ## Strings -/

/-- The pieces of a string that runs to a stop, the last first. A piece may itself run
to a stop; `level` counts the stops to come. The first argument bounds the pieces. -/
def chunksOnto (lengthOf : Head → Option (Option Nat)) (valid : Bytes → Bool) :
    Bytes → Nat → List Bytes → Bytes → Option (List Bytes × Bytes)
  | [], _, _, _ => none
  | _ :: bound, level, taken, input =>
    match readHead input with
    | none => none
    | some (.stop, rest) =>
      -- the stop of an inner piece, or of the string itself
      if level ≤ 1 then some (taken, rest)
      else chunksOnto lengthOf valid bound (level - 1) taken rest
    | some (h, rest) =>
      match lengthOf h with
      | none => none
      | some none => chunksOnto lengthOf valid bound (level + 1) taken rest
      | some (some n) =>
        match take n rest with
        | none => none
        | some (piece, rest) =>
          if valid piece then chunksOnto lengthOf valid bound level (piece :: taken) rest
          else none

/-- The content of a string whose head is read. -/
def content (lengthOf : Head → Option (Option Nat)) (valid : Bytes → Bool)
    (length : Option Nat) : Reader Bytes :=
  match length with
  | some n => do
    let piece ← take n
    if valid piece then return piece else failure
  | none => fun input =>
    (chunksOnto lengthOf valid input 1 [] input).map fun (pieces, rest) =>
      (pieces.reverse.flatten, rest)

/-- The length in the head of a byte string. -/
def bytesLength : Head → Option (Option Nat)
  | .bytes length => some length
  | _ => none

/-- The length in the head of a text string. -/
def textLength : Head → Option (Option Nat)
  | .text length => some length
  | _ => none

/-- The text whose UTF-8 form is this byte string. -/
def ofUtf8? (bytes : Bytes) : Option String :=
  String.fromUTF8? ⟨bytes.toArray⟩

/-- The content of a byte string whose head is read. -/
def bytesContent (length : Option Nat) : Reader Bytes :=
  content bytesLength (fun _ => true) length

/-- The content of a text string whose head is read; each piece is text on its own. -/
def textContent (length : Option Nat) : Reader Bytes :=
  content textLength (fun piece => (ofUtf8? piece).isSome) length

/-- A text. -/
def string : Reader String := do
  match ← untagged with
  | .text length => fun input => do
    let (bytes, rest) ← textContent length input
    return (← ofUtf8? bytes, rest)
  | _ => failure

/-- The longest name of a field or a form. -/
def longestName : Nat := 4096

/-- A name: a text or byte string of announced length. -/
def name : Reader Bytes := do
  match ← untagged with
  | .text (some n) => if n ≤ longestName then textContent (some n) else failure
  | .bytes (some n) => if n ≤ longestName then bytesContent (some n) else failure
  | _ => failure

/-! ## Numbers -/

/-- The greatest number of significant bytes of a long number. -/
def widestNumber : Nat := 16

/-- The bytes of a long number: zeros in front do not count. -/
def magnitude : Reader Nat := do
  match ← readHead with
  | .bytes length =>
    let significant := (← bytesContent length).dropWhile (· = 0)
    if significant.length ≤ widestNumber then return ofBigEndian significant else failure
  | _ => failure

/-- A number; the first argument bounds the tags in front of it. Two tags announce long
numbers and all others are passed over. -/
def integerWithin : Bytes → Reader Int
  | [] => failure
  | _ :: bound => do
    match ← readHead with
    | .unsigned n => return n
    | .negative n => return -1 - (n : Int)
    | .tag 2 => return (← magnitude : Int)
    | .tag 3 => return -1 - (← magnitude : Int)
    | .tag _ => integerWithin bound
    | _ => failure

/-- A whole number of any sign. -/
def integer : Reader Int := fun input => integerWithin input input

/-- A whole number from zero up to, but not including, `bound`. -/
def natural (bound : Nat) : Reader Nat := do
  let i ← integer
  if 0 ≤ i ∧ i < bound then return i.toNat else failure

/-- A number of eight bits. -/
def byte : Reader UInt8 := do return UInt8.ofNat (← natural UInt8.size)

/-- A number of 32 bits. -/
def word32 : Reader UInt32 := do return UInt32.ofNat (← natural UInt32.size)

/-- A signed number of 64 bits. -/
def int64 : Reader Int64 := do
  let i ← integer
  if Int64.minValue.toInt ≤ i ∧ i ≤ Int64.maxValue.toInt then return Int64.ofInt i else failure

/-! ## Sequences -/

/-- A sequence: an array, or a byte string if its bytes are elements. -/
def sequence {α : Type} (ofByte : UInt8 → Option α) (element : Reader α) : Reader (List α) := do
  match ← untagged with
  | .array length => list length element
  | .bytes length => fun input => do
    let (bytes, rest) ← bytesContent length input
    return (← bytes.mapM ofByte, rest)
  | _ => failure

/-- A sequence of values none of which is a byte. -/
def sequenceOf {α : Type} (element : Reader α) : Reader (List α) :=
  sequence (fun _ => none) element

/-- A sequence of bytes. -/
def bytes : Reader Bytes := sequence some byte

/-- Exactly `n` bytes. The elements of an array past them are left unread, while those
of a byte string are dropped with it. -/
def fixedBytes (n : Nat) : Reader Bytes := do
  let elements : Reader Bytes := do
    let reversed ← times (fun taken => do return (← byte) :: taken) n []
    return reversed.reverse
  match ← untagged with
  -- the head is trusted: whether the array ends after `n` elements is not looked at
  | .array (some length) => if n ≤ length then elements else failure
  | .array none => elements
  | .bytes length =>
    let all ← bytesContent length
    if n ≤ all.length then return all.take n else failure
  | _ => failure

/-- An identifier. -/
def ident {kind : IdKind} : Reader (Id kind) := fun input => do
  let (bytes, rest) ← fixedBytes 32 input
  return (← Id.ofBytes? bytes, rest)

/-- A value that may be absent. -/
def option {α : Type} (value : Reader α) : Reader (Option α) := fun input =>
  match readHead input with
  | some (.simple 22, rest) | some (.simple 23, rest) => some (none, rest)
  | _ => (value input).map fun (a, rest) => (some a, rest)

/-! ## Skipping -/

/-- The tag in front of the magnitude `n` of a number `-1 - n`. -/
def negativeTag : Nat := 3

/-- A magnitude below this one makes a negative number of at most 128 bits. -/
def negativeBound : Nat := 1 <<< 127

/-- The magnitude of a long number behind its tag, if it is a byte string of announced
length and no wider than a long number may be. Otherwise nothing is taken. -/
def announcedMagnitude (tag : Nat) : Reader (Option Nat) := fun input =>
  match tag, readHead input with
  | 2, some (.bytes (some n), rest) | 3, some (.bytes (some n), rest) =>
    if n ≤ widestNumber then
      (take n rest).map fun (bytes, rest) => (some (ofBigEndian bytes), rest)
    else some (none, input)
  | _, _ => some (none, input)

/-- Passes over any value that nests at most `levels` deep. A tag is a level, unless a
long number of announced length follows it, which then has to fit into 128 bits. -/
def skip (levels : Nat) : Reader Unit := do
  match ← readHead with
  | .unsigned _ | .negative _ | .float => return ()
  | .simple n => if 20 ≤ n ∧ n ≤ 23 then return () else failure
  | .bytes length => discard (bytesContent length)
  | .text length => discard (textContent length)
  | .array length =>
    match levels with
    | 0 => failure
    | below + 1 => items length (fun _ => skip below) ()
  | .map length =>
    match levels with
    | 0 => failure
    | below + 1 => items length (fun _ => do skip below; skip below) ()
  | .tag n =>
    match ← announcedMagnitude n with
    | some m => if n = negativeTag ∧ negativeBound ≤ m then failure else return ()
    | none =>
      match levels with
      | 0 => failure
      | below + 1 => skip below
  | .stop => failure

/-! ## Records and forms -/

/-- Reads a field that was not read before. -/
def once {ρ α : Type} (earlier : Option α) (value : Reader α) (store : α → ρ) : Reader ρ :=
  match earlier with
  | some _ => failure
  | none => do return store (← value)

/-- A map with named fields in any order. `field` says how a field of this name goes into
what is read so far; the values of unknown names are passed over, `levels` deep. -/
def record {ρ : Type} (levels : Nat) (field : Bytes → ρ → Option (Reader ρ)) (empty : ρ) :
    Reader ρ := do
  match ← untagged with
  | .map length =>
    items length (fun r => do
      match field (← name) r with
      | some value => value
      | none => do skip levels; return r) empty
  | _ => failure

/-- A map from texts to texts; the last value of a key stays. -/
def textMap : Reader (Table String String) := do
  match ← untagged with
  | .map length =>
    items length (fun table => do
      let key ← string
      let value ← string
      return table.insert key value) ∅
  | _ => failure

/-- One of several forms: its name and its content in a map of length one, or one after
the other. -/
def variant {α : Type} (form : Bytes → Option (Reader α)) : Reader α := do
  skipTags
  let input ← get
  match ← readHead with
  | .map (some 1) => pure ()
  -- this text is the name itself
  | .text _ => set input
  | _ => failure
  match form (← name) with
  | some value => value
  | none => failure

/-- How deep an item may nest. -/
def deepest : Nat := 256

end MessageSync.Cbor.Read
