import Mathlib.Data.Finset.Sort
import Mathlib.Order.Interval.Finset.Nat
import MessageSync.Proofs.Window

/-!
# A window as a set of numbers

What a window says is told by its bounds and by the set of the numbers that it covers and
that were used (`Window.seen`). Using a number adds it to the set, moving the window cuts the
set to the new bounds, and the marks past the upper bound never come into it.

The marks are kept in four bytes. The operations written mark by mark, each mark looked up
in its byte, never ask for one that is not there, and come to the same as the operations on
the bitmap as a whole (`Window.accept?_eq`, `Window.slide?_eq`).

A window refuses and lets through what a ledger of all numbers would, in which no number is
ever forgotten (`Window.refines_set`). Only the greatest number is set apart, as no window
covers it.
-/

namespace MessageSync

/-! ## Bits of a byte string -/

/-- Bit `i` of some bytes, the most significant bit of the first byte being bit 0. There is
none past the last byte. -/
def bit? (bytes : Bytes) (i : Nat) : Option Bool :=
  bytes[i / 8]?.map fun b => b.toBitVec.getMsbD (i % 8)

/-- The bytes with bit `i` set as well. -/
def setBit? (bytes : Bytes) (i : Nat) : Option Bytes :=
  bytes[i / 8]?.map fun b =>
    bytes.set (i / 8) (UInt8.ofBitVec (b.toBitVec ||| (0x80#8 >>> (i % 8))))

namespace Window

variable {w v : Window} {n : UInt64} {c : UInt64}

/-! ## Operations mark by mark -/

/-- Mark `i`, looked up in its byte. -/
def mark? (w : Window) (i : Nat) : Option Bool := bit? w.bitmapBytes i

/-- The window with mark `i` set in its byte as well. -/
def setMark? (w : Window) (i : Nat) : Option Window :=
  (setBit? w.bitmapBytes i).bind (ofParts? w.centre)

/-- What the window says about `n`, with its mark looked up if it covers `n`. -/
def check? (w : Window) (n : UInt64) : Option Check :=
  if n.toNat < w.lower then some .tooOld
  else if w.upper ≤ n.toNat then some .advance
  else (w.mark? (n.toNat - w.lower)).map fun seen => if seen then .duplicate else .accept

/-- The numbers that are not used, one mark after the other. -/
def unseen? (w : Window) : Option (List Nat) :=
  (List.range w.span).foldlM (fun unseen i =>
    (w.mark? i).map fun seen => if seen then unseen else unseen ++ [w.lower + i]) []

/-- Moves the centre up and copies the marks that stay in the window, one after the other. -/
def slide? (w : Window) (centre : UInt64) : Option Window :=
  if centre ≤ w.centre then some w
  else
    let moved : Window := ⟨centre, 0⟩
    let delta := moved.lower - w.lower
    (List.range (w.span - delta)).foldlM (fun v i =>
      (w.mark? (i + delta)).bind fun seen => if seen then v.setMark? i else some v) moved

/-- Uses the number `n`, with its mark set in its byte. -/
def accept? (w : Window) (n : UInt64) : Option (Except Refusal Window) :=
  let use (v : Window) : Option (Except Refusal Window) :=
    (v.setMark? (n.toNat - v.lower)).map .ok
  (w.check? n).bind fun
    | .tooOld => some (.error (.tooOld n.toNat w.lower))
    | .duplicate => some (.error (.duplicate n.toNat))
    | .accept => use w
    | .advance => (w.slide? n).bind use

/-! ## Marks in their bytes -/

lemma getElem?_bitmapBytes (w : Window) {j : Nat} (hj : j < 4) :
    w.bitmapBytes[j]? = some (UInt8.ofNat (w.bitmap.toNat >>> (24 - 8 * j))) := by
  rcases j with _ | _ | _ | _ | j
  · rfl
  · rfl
  · rfl
  · rfl
  · omega

lemma length_bitmapBytes (w : Window) : w.bitmapBytes.length = 4 := rfl

/-- Bit `k` of byte `j` is mark `8 * j + k`. -/
lemma getMsbD_byte (w : Window) {j k : Nat} (hj : j < 4) (hk : k < 8) :
    (UInt8.ofNat (w.bitmap.toNat >>> (24 - 8 * j))).toBitVec.getMsbD k = w.mark (8 * j + k) := by
  have hplace : 24 - 8 * j + (8 - 1 - k) = 32 - 1 - (8 * j + k) := by omega
  have hlow : 8 - 1 - k < 8 := by omega
  have hhigh : 8 * j + k < 32 := by omega
  unfold mark
  rw [BitVec.getMsbD_eq_getLsbD, BitVec.getMsbD_eq_getLsbD, ← BitVec.testBit_toNat,
    ← BitVec.testBit_toNat, decide_eq_true hk, decide_eq_true hhigh, Bool.true_and,
    Bool.true_and, UInt8.toNat_toBitVec, UInt8.toNat_ofNat', Nat.testBit_mod_two_pow,
    decide_eq_true hlow, Bool.true_and, Nat.testBit_shiftRight, hplace]

lemma mark?_eq (w : Window) {i : Nat} (hi : i < 32) : w.mark? i = some (w.mark i) := by
  have hbyte : i / 8 < 4 := by omega
  have hplace : 8 * (i / 8) + i % 8 = i := by omega
  unfold mark? bit?
  rw [getElem?_bitmapBytes w hbyte, Option.map_some,
    getMsbD_byte w hbyte (Nat.mod_lt _ (by decide)), hplace]

lemma getMsbD_setBit (b : UInt8) {i k : Nat} (hk : k < 8) :
    (b.toBitVec ||| (0x80#8 >>> i)).getMsbD k = (b.toBitVec.getMsbD k || decide (i = k)) := by
  have htop : 0x80#8 = BitVec.intMin 8 := rfl
  rw [BitVec.getMsbD_or, BitVec.getMsbD_ushiftRight, htop, BitVec.getMsbD_intMin]
  by_cases h : k < i
  · have hne : i ≠ k := by omega
    simp [h, hne]
  · have heq : k - i = 0 ↔ i = k := by omega
    simp [h, hk, heq]

lemma eq_of_getMsbD {a b : UInt8} (h : ∀ k < 8, a.toBitVec.getMsbD k = b.toBitVec.getMsbD k) :
    a = b := by
  apply UInt8.eq_of_toBitVec_eq
  apply BitVec.eq_of_getMsbD_eq
  exact h

lemma bitmapBytes_setMark (w : Window) {i : Nat} (hi : i < 32) :
    setBit? w.bitmapBytes i = some (w.setMark i).bitmapBytes := by
  have hbyte : i / 8 < 4 := by omega
  unfold setBit?
  rw [getElem?_bitmapBytes w hbyte, Option.map_some]
  refine congrArg some (List.ext_getElem? fun j => ?_)
  rw [List.getElem?_set, length_bitmapBytes]
  by_cases hj : j < 4
  · rw [getElem?_bitmapBytes w hj, getElem?_bitmapBytes (w.setMark i) hj]
    by_cases hsame : i / 8 = j
    · rw [if_pos hsame, if_pos hbyte, hsame]
      refine congrArg some (eq_of_getMsbD fun k hk => ?_)
      have hplace : i % 8 = k ↔ i = 8 * j + k := by omega
      rw [getMsbD_byte _ hj hk, mark_setMark w (by omega), getMsbD_setBit _ hk,
        getMsbD_byte w hj hk]
      simp only [hplace]
    · rw [if_neg hsame]
      refine congrArg some (eq_of_getMsbD fun k hk => ?_)
      have hplace : i ≠ 8 * j + k := by omega
      rw [getMsbD_byte w hj hk, getMsbD_byte (w.setMark i) hj hk, mark_setMark w (by omega),
        decide_eq_false hplace, Bool.or_false]
  · have hne : i / 8 ≠ j := by omega
    have hout : ∀ v : Window, v.bitmapBytes[j]? = none := by
      intro v
      rw [List.getElem?_eq_none_iff, length_bitmapBytes]
      omega
    rw [if_neg hne, hout, hout]

lemma setMark?_eq (w : Window) {i : Nat} (hi : i < 32) : w.setMark? i = some (w.setMark i) := by
  unfold setMark?
  rw [bitmapBytes_setMark w hi]
  exact ofParts?_bitmapBytes (w.setMark i)

/-- The marks are those with numbers below 32. -/
lemma mark?_eq_none_iff (w : Window) (i : Nat) : w.mark? i = none ↔ 32 ≤ i := by
  unfold mark? bit?
  rw [Option.map_eq_none_iff, List.getElem?_eq_none_iff, length_bitmapBytes]
  omega

lemma setMark?_eq_none_iff (w : Window) (i : Nat) : w.setMark? i = none ↔ 32 ≤ i := by
  constructor
  · intro hnone
    by_contra hi
    rw [w.setMark?_eq (Nat.not_le.mp hi)] at hnone
    cases hnone
  · intro hi
    have hout : w.bitmapBytes[i / 8]? = none := by
      rw [List.getElem?_eq_none_iff, length_bitmapBytes]
      omega
    unfold setMark? setBit?
    rw [hout]
    rfl

/-! ## No mark is missing -/

lemma check?_eq (w : Window) (n : UInt64) : w.check? n = some (w.check n) := by
  unfold check? check
  by_cases hlow : n.toNat < w.lower
  · rw [if_pos hlow, if_pos hlow]
  · by_cases hhigh : w.upper ≤ n.toNat
    · rw [if_neg hlow, if_neg hlow, if_pos hhigh, if_pos hhigh]
    · have hspan : w.upper - w.lower ≤ 32 := w.span_le
      have hlt : n.toNat - w.lower < 32 := by omega
      rw [if_neg hlow, if_neg hlow, if_neg hhigh, if_neg hhigh, w.mark?_eq hlt]
      rfl

lemma unseen?_eq (w : Window) : w.unseen? = some w.unseen := by
  have hprefix : ∀ k ≤ w.span, (List.range k).foldlM (fun unseen i =>
      (w.mark? i).map fun seen => if seen then unseen else unseen ++ [w.lower + i]) [] =
        some (((List.range k).filter fun i => !w.mark i).map (w.lower + ·)) := by
    intro k hk
    induction k with
    | zero => rfl
    | succ k ih =>
      have hspan := w.span_le
      have hlt : k < 32 := by omega
      rw [List.range_succ, List.foldlM_append, ih (by omega), List.filter_append, List.map_append]
      show (((w.mark? k).map _).bind _) = _
      rw [w.mark?_eq hlt]
      rcases hmark : w.mark k with _ | _
      · simp [hmark]
      · simp [hmark]
  exact hprefix w.span (Nat.le_refl _)

/-- A window is told by its centre and its marks. -/
lemma eq_of_mark (hcentre : w.centre = v.centre) (hmark : ∀ i < 32, w.mark i = v.mark i) :
    w = v :=
  Window.ext hcentre (BitVec.eq_of_getMsbD_eq hmark)

/-- After `k` marks, the marks that were copied are those below `k`. -/
lemma foldlM_copy (w moved : Window) (hclear : ∀ i, moved.mark i = false) (delta : Nat) :
    ∀ k ≤ w.span - delta, ∃ v, (List.range k).foldlM (fun v i =>
        (w.mark? (i + delta)).bind fun seen => if seen then v.setMark? i else some v) moved =
          some v ∧ v.centre = moved.centre ∧
        ∀ i < 32, v.mark i = (decide (i < k) && w.mark (i + delta)) := by
  intro k hk
  induction k with
  | zero =>
    refine ⟨moved, rfl, rfl, fun i _ => ?_⟩
    rw [hclear i]
    rfl
  | succ k ih =>
    obtain ⟨v, hfold, hcentre, hmark⟩ := ih (by omega)
    have hspan := w.span_le
    have hstep : (List.range (k + 1)).foldlM (fun v i =>
        (w.mark? (i + delta)).bind fun seen => if seen then v.setMark? i else some v) moved =
          if w.mark (k + delta) then some (v.setMark k) else some v := by
      rw [List.range_succ, List.foldlM_append, hfold]
      show ((w.mark? (k + delta)).bind _).bind some = _
      rw [w.mark?_eq (by omega), Option.bind_fun_some, Option.bind_some,
        v.setMark?_eq (by omega)]
    rw [hstep]
    rcases hseen : w.mark (k + delta) with _ | _
    · refine ⟨v, rfl, hcentre, fun i hi => ?_⟩
      rw [hmark i hi]
      by_cases hik : i = k
      · simp [hik, hseen]
      · have hiff : i < k ↔ i < k + 1 := by omega
        simp only [hiff]
    · refine ⟨v.setMark k, rfl, hcentre, fun i hi => ?_⟩
      rw [mark_setMark v hi, hmark i hi]
      by_cases hik : i = k
      · simp [hik, hseen]
      · have hiff : i < k ↔ i < k + 1 := by omega
        have hne : ¬ k = i := fun h => hik h.symm
        simp [hiff, hne]

lemma slide?_eq (w : Window) (c : UInt64) : w.slide? c = some (w.slide c) := by
  unfold slide?
  by_cases hc : c ≤ w.centre
  · have hsame : w.slide c = w := if_pos hc
    rw [if_pos hc, hsame]
  · have hcentre : (w.slide c).centre = c := by rw [centre_slide, if_neg hc]
    have hlower : (w.slide c).lower = (⟨c, 0⟩ : Window).lower := lower_eq hcentre
    have hclear : ∀ i, (⟨c, 0⟩ : Window).mark i = false := fun i => BitVec.getMsbD_zero
    obtain ⟨v, hfold, hcopied, hmark⟩ := foldlM_copy w ⟨c, 0⟩ hclear
      ((⟨c, 0⟩ : Window).lower - w.lower) _ (Nat.le_refl _)
    rw [if_neg hc]
    refine hfold.trans (congrArg some (eq_of_mark (hcopied.trans hcentre.symm) fun i hi => ?_))
    have hplace : i < w.span - ((⟨c, 0⟩ : Window).lower - w.lower) ↔
        i + ((⟨c, 0⟩ : Window).lower - w.lower) < w.span := by omega
    rw [hmark i hi, mark_slide (UInt64.not_le.mp hc), hlower]
    simp only [hplace]

/-- What a window says, by where the number lies and whether it was used. -/
lemma check_cases (w : Window) (n : UInt64) :
    (n.toNat < w.lower ∧ w.check n = .tooOld) ∨
    (w.Used n.toNat ∧ w.check n = .duplicate) ∨
    (w.lower ≤ n.toNat ∧ n.toNat < w.upper ∧ ¬ w.Used n.toNat ∧ w.check n = .accept) ∨
    (w.lower ≤ n.toNat ∧ w.upper ≤ n.toNat ∧ w.check n = .advance) := by
  unfold check
  by_cases hlow : n.toNat < w.lower
  · exact .inl ⟨hlow, if_pos hlow⟩
  · have hle : w.lower ≤ n.toNat := by omega
    rw [if_neg hlow]
    by_cases hhigh : w.upper ≤ n.toNat
    · exact .inr (.inr (.inr ⟨hle, hhigh, if_pos hhigh⟩))
    · have hlt : n.toNat < w.upper := by omega
      rw [if_neg hhigh]
      by_cases hmark : w.mark (n.toNat - w.lower)
      · exact .inr (.inl ⟨⟨hle, hlt, hmark⟩, if_pos hmark⟩)
      · exact .inr (.inr (.inl ⟨hle, hlt, fun hused => hmark hused.2.2, if_neg hmark⟩))

lemma toNat_le_centre_slide (w : Window) (n : UInt64) : n.toNat ≤ (w.slide n).centre.toNat := by
  rw [centre_slide]
  split_ifs with hc
  · exact UInt64.le_iff_toNat_le.mp hc
  · exact Nat.le_refl _

lemma accept?_eq (w : Window) (n : UInt64) : w.accept? n = some (w.accept n) := by
  have hhalf : half = 16 := rfl
  unfold accept? accept
  dsimp only
  rw [check?_eq, Option.bind_some]
  rcases w.check_cases n with ⟨-, hcheck⟩ | ⟨-, hcheck⟩ | ⟨hlow, hhigh, -, hcheck⟩ |
    ⟨hlow, hhigh, hcheck⟩
  · rw [hcheck]
  · rw [hcheck]
  · have hspan : w.upper - w.lower ≤ 32 := w.span_le
    rw [hcheck]
    dsimp only
    rw [w.setMark?_eq (by omega)]
    rfl
  · have hcentre := w.toNat_le_centre_slide n
    have hplace : n.toNat - (w.slide n).lower < 32 := by
      unfold lower
      omega
    rw [hcheck]
    dsimp only
    rw [w.slide?_eq, Option.bind_some, (w.slide n).setMark?_eq hplace]
    rfl

/-! ## The set of used numbers -/

/-- The numbers that a window covers and that were used. -/
def seen (w : Window) : Finset Nat :=
  (Finset.Ico w.lower w.upper).filter fun k => w.mark (k - w.lower) = true

lemma mem_seen {k : Nat} : k ∈ w.seen ↔ w.Used k := by
  unfold seen Used
  rw [Finset.mem_filter, Finset.mem_Ico, and_assoc]

/-- What is in the set is covered by the window. -/
lemma lt_upper_of_mem_seen {k : Nat} (h : k ∈ w.seen) : w.lower ≤ k ∧ k < w.upper :=
  ⟨(mem_seen.mp h).1, (mem_seen.mp h).2.1⟩

/-- A number above the window becomes its centre. -/
lemma centre_slide_of_upper_le (h : w.upper ≤ n.toNat) : (w.slide n).centre = n := by
  have hle := toNat_le_greatest w.centre
  have hhalf : half = 16 := rfl
  rw [centre_slide]
  split_ifs with hc
  · -- the number and the centre are both the greatest number
    have hc : n.toNat ≤ w.centre.toNat := UInt64.le_iff_toNat_le.mp hc
    unfold upper at h
    exact UInt64.toNat_inj.mp (by omega)
  · rfl

lemma centre_of_accept (h : w.accept n = .ok v) :
    v.centre = if n.toNat < w.upper then w.centre else n := by
  obtain ⟨-, u, rfl, ⟨hhigh, rfl⟩ | ⟨hhigh, rfl⟩⟩ := accept_eq_ok h
  · rw [if_pos hhigh]
    rfl
  · rw [if_neg (Nat.not_lt.mpr hhigh)]
    exact centre_slide_of_upper_le hhigh

lemma upper_le_of_accept (h : w.accept n = .ok v) : w.upper ≤ v.upper := by
  obtain ⟨-, u, rfl, ⟨-, rfl⟩ | ⟨-, rfl⟩⟩ := accept_eq_ok h
  · exact Nat.le_refl _
  · exact upper_mono (w.centre_le_slide n)

/-- The number is added to the set, and what falls below the window is taken out. -/
lemma seen_of_accept (h : w.accept n = .ok v) :
    v.seen = insert n.toNat w.seen ∩ Finset.Ico v.lower v.upper := by
  have hupper := upper_le_of_accept h
  ext k
  rw [mem_seen, (used_of_accept h).2, Finset.mem_inter, Finset.mem_insert, mem_seen,
    Finset.mem_Ico]
  constructor
  · rintro ⟨hlow, hused | ⟨rfl, hhigh⟩⟩
    · exact ⟨.inr hused, hlow, Nat.lt_of_lt_of_le hused.2.1 hupper⟩
    · exact ⟨.inl rfl, hlow, hhigh⟩
  · rintro ⟨rfl | hused, hlow, hhigh⟩
    · exact ⟨hlow, .inr ⟨rfl, hhigh⟩⟩
    · exact ⟨hlow, .inl hused⟩

/-- A number is too old, was used, or is used now. -/
lemma accept_cases (w : Window) (n : UInt64) :
    (n.toNat < w.lower ∧ w.accept n = .error (.tooOld n.toNat w.lower)) ∨
    (n.toNat ∈ w.seen ∧ w.accept n = .error (.duplicate n.toNat)) ∨
    (w.lower ≤ n.toNat ∧ n.toNat ∉ w.seen ∧ ∃ v, w.accept n = .ok v) := by
  unfold accept
  rw [mem_seen]
  dsimp only
  rcases w.check_cases n with ⟨hlow, hcheck⟩ | ⟨hused, hcheck⟩ | ⟨hlow, -, hused, hcheck⟩ |
    ⟨hlow, hhigh, hcheck⟩
  · rw [hcheck]
    exact .inl ⟨hlow, rfl⟩
  · rw [hcheck]
    exact .inr (.inl ⟨hused, rfl⟩)
  · rw [hcheck]
    exact .inr (.inr ⟨hlow, hused, _, rfl⟩)
  · rw [hcheck]
    exact .inr (.inr ⟨hlow, fun hused => Nat.not_lt.mpr hhigh hused.2.1, _, rfl⟩)

lemma accept_eq_tooOld_iff (w : Window) (n : UInt64) :
    w.accept n = .error (.tooOld n.toNat w.lower) ↔ n.toNat < w.lower := by
  rcases w.accept_cases n with ⟨hlow, h⟩ | ⟨hseen, h⟩ | ⟨hlow, -, v, h⟩
  · exact iff_of_true h hlow
  · rw [h]
    exact iff_of_false (fun h => nomatch h) (Nat.not_lt.mpr (lt_upper_of_mem_seen hseen).1)
  · rw [h]
    exact iff_of_false (fun h => nomatch h) (Nat.not_lt.mpr hlow)

lemma accept_eq_duplicate_iff (w : Window) (n : UInt64) :
    w.accept n = .error (.duplicate n.toNat) ↔ n.toNat ∈ w.seen := by
  rcases w.accept_cases n with ⟨hlow, h⟩ | ⟨hseen, h⟩ | ⟨-, hnot, v, h⟩
  · rw [h]
    exact iff_of_false (fun h => nomatch h) fun hseen =>
      Nat.not_lt.mpr (lt_upper_of_mem_seen hseen).1 hlow
  · exact iff_of_true h hseen
  · rw [h]
    exact iff_of_false (fun h => nomatch h) hnot

/-- Moving a window up cuts the set to the new bounds. -/
lemma seen_slide (w : Window) (c : UInt64) :
    (w.slide c).seen = w.seen ∩ Finset.Ico (w.slide c).lower (w.slide c).upper := by
  have hupper := upper_mono (w.centre_le_slide c)
  ext k
  rw [mem_seen, used_slide, Finset.mem_inter, mem_seen, Finset.mem_Ico]
  constructor
  · rintro ⟨hused, hlow⟩
    exact ⟨hused, hlow, Nat.lt_of_lt_of_le hused.2.1 hupper⟩
  · rintro ⟨hused, hlow, -⟩
    exact ⟨hused, hlow⟩

/-- The numbers that are listed are those that the window covers and that are not used. -/
lemma mem_unseen {k : Nat} : k ∈ w.unseen ↔ k ∈ Finset.Ico w.lower w.upper \ w.seen := by
  rw [Finset.mem_sdiff, Finset.mem_Ico, mem_seen]
  constructor
  · intro h
    obtain ⟨hlow, hhigh, hnot⟩ := of_mem_unseen h
    exact ⟨⟨hlow, hhigh⟩, hnot⟩
  · rintro ⟨⟨hlow, hhigh⟩, hnot⟩
    have hplace : w.lower + (k - w.lower) = k := by omega
    refine List.mem_map.mpr ⟨k - w.lower, List.mem_filter.mpr ⟨?_, ?_⟩, hplace⟩
    · refine List.mem_range.mpr ?_
      unfold span
      omega
    · rw [Bool.not_eq_true', Bool.eq_false_iff]
      exact fun hmark => hnot ⟨hlow, hhigh, hmark⟩

lemma pairwise_unseen (w : Window) : w.unseen.Pairwise (· < ·) := by
  refine List.pairwise_map.mpr ((List.pairwise_lt_range.filter _).imp ?_)
  intro i j hij
  exact Nat.add_lt_add_left hij _

end Window

/-! ## A ledger of all numbers -/

/-- Every connection number that was ever used, and how far the window has moved. -/
structure Ledger where
  centre : Nat
  consumed : Finset Nat

namespace Ledger

/-- Uses the number `n` unless it is too old or in the ledger. -/
def accept (l : Ledger) (n : UInt64) : Except Window.Refusal Ledger :=
  if n.toNat < l.centre - Window.half then .error (.tooOld n.toNat (l.centre - Window.half))
  else if n.toNat ∈ l.consumed then .error (.duplicate n.toNat)
  else .ok {
    centre := if n.toNat < l.centre + Window.half then l.centre else n.toNat
    consumed := insert n.toNat l.consumed }

/-- A window covers what is left of a ledger within its bounds. -/
structure Tracks (l : Ledger) (w : Window) : Prop where
  centre : l.centre = w.centre.toNat
  seen : w.seen = l.consumed ∩ Finset.Ico w.lower w.upper
  consumed : ∀ k ∈ l.consumed, k < w.upper

end Ledger

/-- Uses numbers in turn, and goes on past one that is refused. The answers are the refusals,
with none for a number that is used. -/
def acceptAll {σ : Type} (accept : σ → UInt64 → Except Window.Refusal σ) (s : σ) :
    List UInt64 → List (Option Window.Refusal) × σ
  | [] => ([], s)
  | n :: rest =>
    match accept s n with
    | .ok s' => ((acceptAll accept s' rest).1.cons none, (acceptAll accept s' rest).2)
    | .error refusal =>
      ((acceptAll accept s rest).1.cons (some refusal), (acceptAll accept s rest).2)

namespace Ledger

variable {l l' : Ledger} {w v : Window} {n : UInt64}

/-- What is in a ledger and not too old is in the window. -/
lemma Tracks.mem_consumed_iff (h : l.Tracks w) (hlow : w.lower ≤ n.toNat) :
    n.toNat ∈ l.consumed ↔ n.toNat ∈ w.seen := by
  rw [h.seen, Finset.mem_inter, Finset.mem_Ico]
  exact ⟨fun hn => ⟨hn, hlow, h.consumed _ hn⟩, And.left⟩

/-- Once a number is used, both go on to agree, unless it is the greatest. -/
lemma Tracks.consume (h : l.Tracks w) (haccept : w.accept n = .ok v)
    (hn : n.toNat < Window.greatest) :
    Tracks ⟨if n.toNat < l.centre + Window.half then l.centre else n.toNat,
      insert n.toNat l.consumed⟩ v := by
  have hhalf : Window.half = 16 := rfl
  have hcentre := Window.centre_of_accept haccept
  have hupper := Window.upper_le_of_accept haccept
  have hlower := (Window.used_of_accept haccept).1
  -- the upper bound of the window is cut short only at the greatest number
  have hhigh : n.toNat < w.upper ↔ n.toNat < l.centre + Window.half := by
    rw [h.centre]
    unfold Window.upper
    omega
  constructor
  · rw [hcentre, apply_ite UInt64.toNat, ← h.centre]
    simp only [hhigh]
  · rw [Window.seen_of_accept haccept, h.seen]
    ext k
    simp only [Finset.mem_inter, Finset.mem_insert, Finset.mem_Ico]
    constructor
    · rintro ⟨rfl | ⟨hk, -⟩, hbounds⟩
      · exact ⟨.inl rfl, hbounds⟩
      · exact ⟨.inr hk, hbounds⟩
    · rintro ⟨rfl | hk, hbounds⟩
      · exact ⟨.inl rfl, hbounds⟩
      · exact ⟨.inr ⟨hk, Nat.le_trans hlower hbounds.1, h.consumed k hk⟩, hbounds⟩
  · intro k hk
    rcases Finset.mem_insert.mp hk with rfl | hk
    · by_cases hin : n.toNat < w.upper
      · omega
      · rw [if_neg hin] at hcentre
        unfold Window.upper
        rw [hcentre]
        omega
    · exact Nat.lt_of_lt_of_le (h.consumed k hk) hupper

/-- One number has the same answer, unless it is the greatest. -/
lemma Tracks.accept (h : l.Tracks w) (hn : n.toNat < Window.greatest) :
    (∃ refusal, w.accept n = .error refusal ∧ l.accept n = .error refusal) ∨
    (∃ v l', w.accept n = .ok v ∧ l.accept n = .ok l' ∧ l'.Tracks v) := by
  have hlower : w.lower = l.centre - Window.half := by
    rw [h.centre]
    rfl
  unfold Ledger.accept
  rw [← hlower]
  rcases w.accept_cases n with ⟨hlow, haccept⟩ | ⟨hseen, haccept⟩ | ⟨hlow, hnot, v, haccept⟩
  · exact .inl ⟨_, haccept, if_pos hlow⟩
  · have hlow : w.lower ≤ n.toNat := (Window.lt_upper_of_mem_seen hseen).1
    rw [if_neg (Nat.not_lt.mpr hlow), if_pos ((h.mem_consumed_iff hlow).mpr hseen)]
    exact .inl ⟨_, haccept, rfl⟩
  · rw [if_neg (Nat.not_lt.mpr hlow), if_neg fun hn => hnot ((h.mem_consumed_iff hlow).mp hn)]
    exact .inr ⟨v, _, haccept, rfl, h.consume haccept hn⟩

/-- The ledger of the numbers that a window covers. -/
def ofWindow (w : Window) : Ledger := ⟨w.centre.toNat, w.seen⟩

lemma tracks_ofWindow (w : Window) : (ofWindow w).Tracks w := by
  refine ⟨rfl, ?_, fun k hk => (Window.lt_upper_of_mem_seen hk).2⟩
  refine (Finset.inter_eq_left.mpr fun k hk => ?_).symm
  exact Finset.mem_Ico.mpr (Window.lt_upper_of_mem_seen hk)

/-- A whole run of numbers has the same answers. -/
theorem Tracks.acceptAll (h : l.Tracks w) {ns : List UInt64}
    (hns : ∀ n ∈ ns, n.toNat < Window.greatest) :
    (acceptAll Window.accept w ns).1 = (acceptAll Ledger.accept l ns).1 ∧
      (MessageSync.acceptAll Ledger.accept l ns).2.Tracks (acceptAll Window.accept w ns).2 := by
  induction ns generalizing l w with
  | nil => exact ⟨rfl, h⟩
  | cons n rest ih =>
    have hrest : ∀ m ∈ rest, m.toNat < Window.greatest :=
      fun m hm => hns m (List.mem_cons_of_mem n hm)
    unfold MessageSync.acceptAll
    rcases h.accept (hns n List.mem_cons_self) with ⟨refusal, hw, hl⟩ | ⟨v, l', hw, hl, hnext⟩
    · rw [hw, hl]
      obtain ⟨hanswers, hlast⟩ := ih h hrest
      exact ⟨congrArg (List.cons (some refusal)) hanswers, hlast⟩
    · rw [hw, hl]
      obtain ⟨hanswers, hlast⟩ := ih hnext hrest
      exact ⟨congrArg (List.cons none) hanswers, hlast⟩

end Ledger

namespace Window

/-- A window is a set of numbers within its bounds. A number is refused if it is below them
or in the set, and is added to it otherwise; moving the window cuts the set to the new bounds;
what is listed is what is missing from it. No mark outside the four bytes is ever asked for.
Over any run of numbers, the window therefore answers as a ledger that forgets no number. -/
theorem refines_set (w : Window) :
    (∀ n : UInt64,
      (w.accept n = .error (.tooOld n.toNat w.lower) ↔ n.toNat < w.lower) ∧
      (w.accept n = .error (.duplicate n.toNat) ↔ n.toNat ∈ w.seen) ∧
      (w.lower ≤ n.toNat → n.toNat ∉ w.seen → ∃ v, w.accept n = .ok v ∧
        v.centre = (if n.toNat < w.upper then w.centre else n) ∧
        v.seen = insert n.toNat w.seen ∩ Finset.Ico v.lower v.upper)) ∧
    (∀ c : UInt64,
      (c ≤ w.centre → w.slide c = w) ∧
      (w.centre < c → (w.slide c).centre = c ∧
        (w.slide c).seen = w.seen ∩ Finset.Ico (w.slide c).lower (w.slide c).upper)) ∧
    (w.unseen.Pairwise (· < ·) ∧ w.unseen.toFinset = Finset.Ico w.lower w.upper \ w.seen) ∧
    ((∀ i, (w.mark? i = none ↔ 32 ≤ i) ∧ (w.setMark? i = none ↔ 32 ≤ i)) ∧
      (∀ n, w.check? n = some (w.check n) ∧ w.accept? n = some (w.accept n)) ∧
      (∀ c, w.slide? c = some (w.slide c)) ∧ w.unseen? = some w.unseen) ∧
    ∀ ns : List UInt64, (∀ n ∈ ns, n.toNat < greatest) →
      (acceptAll accept w ns).1 = (acceptAll Ledger.accept (.ofWindow w) ns).1 ∧
        (acceptAll Ledger.accept (.ofWindow w) ns).2.Tracks (acceptAll accept w ns).2 := by
  refine ⟨fun n => ⟨w.accept_eq_tooOld_iff n, w.accept_eq_duplicate_iff n, ?_⟩,
    fun c => ⟨fun hc => if_pos hc, fun hc => ⟨?_, w.seen_slide c⟩⟩,
    ⟨w.pairwise_unseen, ?_⟩,
    ⟨fun i => ⟨w.mark?_eq_none_iff i, w.setMark?_eq_none_iff i⟩,
      fun n => ⟨w.check?_eq n, w.accept?_eq n⟩, w.slide?_eq, w.unseen?_eq⟩,
    fun ns hns => (Ledger.tracks_ofWindow w).acceptAll hns⟩
  · intro hlow hnot
    rcases w.accept_cases n with ⟨hbelow, -⟩ | ⟨hseen, -⟩ | ⟨-, -, v, haccept⟩
    · exact absurd hbelow (Nat.not_lt.mpr hlow)
    · exact absurd hseen hnot
    · exact ⟨v, haccept, centre_of_accept haccept, seen_of_accept haccept⟩
  · rw [centre_slide, if_neg (UInt64.not_le.mpr hc)]
  · ext k
    rw [List.mem_toFinset, mem_unseen]

end Window

end MessageSync
