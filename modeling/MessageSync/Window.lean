import MessageSync.Hex

/-!
# Replay windows

A window remembers which incoming connection numbers were used. It covers the numbers
from sixteen below its centre up to, but not including, sixteen above, and has one
mark for each; both bounds stop at the ends of the range of 64 bit numbers. Numbers
below the window are refused, numbers above it move the centre up to themselves.

Mark `i` of the bitmap, the most significant bit being mark 0, stands for the number
`lower + i`. Near zero the window is narrower than its bitmap; the marks past `upper`
mean nothing there and are never moved into a later window.
-/

namespace MessageSync

/-- Numbers on either side of the centre. -/
def Window.half : Nat := 16

/-- The greatest connection number. -/
def Window.greatest : Nat := UInt64.size - 1

/-- A window of 32 connection numbers. -/
@[ext]
structure Window where
  centre : UInt64
  bitmap : BitVec 32
deriving DecidableEq

namespace Window

/-- What a window says about a connection number. -/
inductive Check where
  /-- Below the window. -/
  | tooOld
  /-- In the window and used. -/
  | duplicate
  /-- In the window and not used. -/
  | accept
  /-- Above the window. -/
  | advance
deriving DecidableEq

/-- The name of what a window says. -/
def Check.name : Check → String
  | .tooOld => "TooOld"
  | .duplicate => "Duplicate"
  | .accept => "Accept"
  | .advance => "Advance"

/-- Why a connection number is refused. -/
inductive Refusal where
  | tooOld (number lower : Nat)
  | duplicate (number : Nat)
deriving DecidableEq

/-- What the window said about a refused number. -/
def Refusal.check : Refusal → Check
  | .tooOld .. => .tooOld
  | .duplicate _ => .duplicate

/-- The wording of a refusal. -/
def Refusal.message : Refusal → String
  | .tooOld number lower =>
    "connection number " ++ toString number ++ " is below the window (lower bound "
      ++ toString lower ++ ")"
  | .duplicate number => "connection number " ++ toString number ++ " was already used"

/-- The window around zero with nothing used. -/
def fresh : Window := ⟨0, 0⟩

/-- The lowest number in the window. -/
def lower (w : Window) : Nat := w.centre.toNat - half

/-- One past the highest number in the window. -/
def upper (w : Window) : Nat := min (w.centre.toNat + half) greatest

/-- How many numbers the window covers. -/
def span (w : Window) : Nat := w.upper - w.lower

/-- Mark `i` of the bitmap. -/
def mark (w : Window) (i : Nat) : Bool := w.bitmap.getMsbD i

/-- The bitmap with mark `i` set as well. -/
def setMark (w : Window) (i : Nat) : Window :=
  { w with bitmap := w.bitmap ||| (0x80000000#32 >>> i) }

/-- What the window says about `n`. -/
def check (w : Window) (n : UInt64) : Check :=
  if n.toNat < w.lower then .tooOld
  else if w.upper ≤ n.toNat then .advance
  else if w.mark (n.toNat - w.lower) then .duplicate
  else .accept

/-- Whether `n` is in the window and used. -/
def isSeen (w : Window) (n : UInt64) : Bool := w.check n = .duplicate

/-- The numbers in the window that are not used, ascending. -/
def unseen (w : Window) : List Nat :=
  ((List.range w.span).filter fun i => !w.mark i).map (w.lower + ·)

/-- Moves the centre up. Marks that leave the window are dropped, and those that enter
it are clear. A window never moves down. -/
def slide (w : Window) (centre : UInt64) : Window :=
  if centre ≤ w.centre then w
  else
    let moved : Window := ⟨centre, 0⟩
    let delta := moved.lower - w.lower
    if w.span ≤ delta then moved
    -- bits past the span mean nothing, and would mean something once they are moved
    else { moved with bitmap := (w.bitmap &&& ~~~(BitVec.allOnes 32 >>> w.span)) <<< delta }

/-- Uses the number `n`, moving the window up to it if it lies above. -/
def accept (w : Window) (n : UInt64) : Except Refusal Window :=
  let use (v : Window) : Window := v.setMark (n.toNat - v.lower)
  match w.check n with
  | .tooOld => .error (.tooOld n.toNat w.lower)
  | .duplicate => .error (.duplicate n.toNat)
  | .accept => .ok (use w)
  | .advance => .ok (use (w.slide n))

/-! ## The bitmap as bytes -/

/-- The four bytes of the bitmap, that of mark 0 first. -/
def bitmapBytes (w : Window) : Bytes :=
  [24, 16, 8, 0].map fun shift => UInt8.ofNat (w.bitmap.toNat >>> shift)

/-- The window with this centre and bitmap, if the bitmap has four bytes. -/
def ofParts? (centre : UInt64) : Bytes → Option Window
  | [a, b, c, d] =>
    some ⟨centre, BitVec.ofNat 32
      (a.toNat * 0x1000000 + b.toNat * 0x10000 + c.toNat * 0x100 + d.toNat)⟩
  | _ => none

/-- How a window is shown in a record. -/
def debug (w : Window) : String :=
  "ConnectionWindow \x7b centre: " ++ toString w.centre.toNat ++ ", bitmap: ["
    ++ ", ".intercalate (w.bitmapBytes.map fun b => toString b.toNat) ++ "] \x7d"

end Window

end MessageSync
