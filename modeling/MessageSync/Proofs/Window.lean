import Mathlib.Data.BitVec
import Mathlib.Tactic.Lemma
import MessageSync.Window

/-!
# Which numbers a window refuses

A window stands for the set of the numbers that were used and that it still covers. Using
a number adds it to the set and takes out what falls below the new lower bound
(`Window.used_of_accept`). A number is refused if it lies below the window or is in the set
(`Window.accept_eq_error_iff`), and the lower bound never goes down, so that a number that
was refused once is refused ever after (`Window.Refuses.accept`).

A number that was used is refused from then on (`Window.refuses_of_accept`), with one
exception: no window covers the greatest number, which is never refused.
-/

namespace MessageSync.Window

variable {w v : Window} {n m : UInt64}

/-! ## Bounds -/

lemma toNat_le_greatest (n : UInt64) : n.toNat ≤ greatest := by
  have hlt : n.toNat < UInt64.size := n.toNat_lt
  show n.toNat ≤ UInt64.size - 1
  omega

lemma upper_le_greatest (w : Window) : w.upper ≤ greatest := Nat.min_le_right _ _

lemma lower_lt_greatest (w : Window) : w.lower < greatest := by
  have hle := toNat_le_greatest w.centre
  have hpos : 0 < greatest := by decide
  have hhalf : 0 < half := by decide
  unfold lower
  omega

lemma span_le (w : Window) : w.span ≤ 32 := by
  have hhalf : half = 16 := rfl
  unfold span upper lower
  omega

/-- A window is bounded by its centre alone. -/
lemma lower_eq (h : w.centre = v.centre) : w.lower = v.lower := by
  rw [lower, lower, h]

lemma lower_mono (h : w.centre ≤ v.centre) : w.lower ≤ v.lower := by
  have hle : w.centre.toNat ≤ v.centre.toNat := UInt64.le_iff_toNat_le.mp h
  unfold lower
  omega

lemma upper_mono (h : w.centre ≤ v.centre) : w.upper ≤ v.upper := by
  have hle : w.centre.toNat ≤ v.centre.toNat := UInt64.le_iff_toNat_le.mp h
  unfold upper
  omega

/-! ## Marks -/

/-- Only mark 0 is in the topmost bit. -/
lemma getMsbD_topmost (i : Nat) : (0x80000000#32).getMsbD i = decide (i = 0) := by
  have htop : 0x80000000#32 = BitVec.intMin 32 := rfl
  rw [htop, BitVec.getMsbD_intMin]
  simp

lemma mark_setMark (w : Window) {i j : Nat} (hj : j < 32) :
    (w.setMark i).mark j = (w.mark j || decide (i = j)) := by
  unfold mark setMark
  dsimp only
  rw [BitVec.getMsbD_or, BitVec.getMsbD_ushiftRight, getMsbD_topmost]
  by_cases h : j < i
  · have hne : i ≠ j := by omega
    simp [h, hne]
  · have heq : j - i = 0 ↔ i = j := by omega
    simp [h, hj, heq]

/-- The bitmap that is left of the marks that mean something. -/
lemma getMsbD_masked (w : Window) (i : Nat) :
    (w.bitmap &&& ~~~(BitVec.allOnes 32 >>> w.span)).getMsbD i =
      (decide (i < w.span) && w.mark i) := by
  have hspan := w.span_le
  have hones : (BitVec.allOnes 32).getMsbD (i - w.span) = decide (i - w.span < 32) :=
    BitVec.getMsbD_allOnes
  rw [BitVec.getMsbD_and, BitVec.getMsbD_not, BitVec.getMsbD_ushiftRight, hones]
  unfold mark
  by_cases hi : i < w.span
  · have hlt : i < 32 := by omega
    simp [hi, hlt]
  · by_cases hlt : i < 32
    · have hsub : i - w.span < 32 := by omega
      simp [hi, hlt, hsub]
    · simp [hi, hlt]

/-! ## Used numbers -/

/-- Whether a number is in the window and used. -/
def Used (w : Window) (k : Nat) : Prop :=
  w.lower ≤ k ∧ k < w.upper ∧ w.mark (k - w.lower) = true

lemma centre_slide (w : Window) (c : UInt64) :
    (w.slide c).centre = if c ≤ w.centre then w.centre else c := by
  unfold slide
  dsimp only
  by_cases hc : c ≤ w.centre
  · rw [if_pos hc, if_pos hc]
  · rw [if_neg hc, if_neg hc]
    split_ifs <;> rfl

lemma centre_le_slide (w : Window) (c : UInt64) : w.centre ≤ (w.slide c).centre := by
  rw [centre_slide]
  split_ifs with hc
  · exact UInt64.le_refl _
  · exact UInt64.le_of_lt (UInt64.not_le.mp hc)

/-- A mark of a window that was moved is one of the marks that moved with it. -/
lemma mark_slide {c : UInt64} (hc : w.centre < c) (i : Nat) :
    (w.slide c).mark i =
      (decide (i + ((w.slide c).lower - w.lower) < w.span) &&
        w.mark (i + ((w.slide c).lower - w.lower))) := by
  have hnot : ¬ c ≤ w.centre := UInt64.not_le.mpr hc
  have hlower : (w.slide c).lower = (⟨c, 0⟩ : Window).lower := by
    refine lower_eq ?_
    rw [centre_slide, if_neg hnot]
  rw [hlower]
  unfold slide
  dsimp only
  rw [if_neg hnot]
  split_ifs with hspan
  · have hout : ¬ i + ((⟨c, 0⟩ : Window).lower - w.lower) < w.span := by omega
    have hclear : (⟨c, 0⟩ : Window).mark i = false := BitVec.getMsbD_zero
    rw [hclear, decide_eq_false hout, Bool.false_and]
  · show BitVec.getMsbD (_ <<< _) i = _
    rw [BitVec.getMsbD_shiftLeft, getMsbD_masked]

/-- Moving a window only forgets numbers below it. -/
lemma used_slide (w : Window) (c : UInt64) (k : Nat) :
    (w.slide c).Used k ↔ w.Used k ∧ (w.slide c).lower ≤ k := by
  by_cases hc : c ≤ w.centre
  · have hsame : w.slide c = w := if_pos hc
    rw [hsame]
    exact ⟨fun h => ⟨h, h.1⟩, And.left⟩
  · have hlower := lower_mono (w.centre_le_slide c)
    have hupper := upper_mono (w.centre_le_slide c)
    have hmark := mark_slide (UInt64.not_le.mp hc) (k - (w.slide c).lower)
    unfold Used
    rw [hmark, Bool.and_eq_true, decide_eq_true_eq]
    constructor
    · rintro ⟨hlow, -, hspan, hused⟩
      have hindex : k - (w.slide c).lower + ((w.slide c).lower - w.lower) = k - w.lower := by
        omega
      rw [hindex] at hspan hused
      have hhigh : k < w.upper := by
        unfold span at hspan
        omega
      exact ⟨⟨by omega, hhigh, hused⟩, hlow⟩
    · rintro ⟨⟨-, hhigh, hused⟩, hlow⟩
      have hindex : k - (w.slide c).lower + ((w.slide c).lower - w.lower) = k - w.lower := by
        omega
      have hspan : k - w.lower < w.span := by
        unfold span
        omega
      rw [hindex]
      exact ⟨hlow, by omega, hspan, hused⟩

lemma used_setMark (w : Window) (i k : Nat) :
    (w.setMark i).Used k ↔ w.Used k ∨ (k = w.lower + i ∧ k < w.upper) := by
  have hlower : (w.setMark i).lower = w.lower := rfl
  have hupper : (w.setMark i).upper = w.upper := rfl
  have hspan := w.span_le
  unfold Used
  rw [hlower, hupper]
  constructor
  · rintro ⟨hlow, hhigh, hmark⟩
    have hlt : k - w.lower < 32 := by
      unfold span at hspan
      omega
    rw [mark_setMark w hlt, Bool.or_eq_true, decide_eq_true_eq] at hmark
    rcases hmark with hmark | hmark
    · exact .inl ⟨hlow, hhigh, hmark⟩
    · exact .inr ⟨by omega, hhigh⟩
  · intro h
    have hrange : w.lower ≤ k ∧ k < w.upper := by
      rcases h with h | h
      · exact ⟨h.1, h.2.1⟩
      · exact ⟨by omega, h.2⟩
    have hlt : k - w.lower < 32 := by
      unfold span at hspan
      omega
    rw [mark_setMark w hlt, Bool.or_eq_true, decide_eq_true_eq]
    refine ⟨hrange.1, hrange.2, ?_⟩
    rcases h with h | h
    · exact .inl h.2.2
    · exact .inr (by omega)

/-! ## Refusal -/

/-- Whether a number is too old or was used. -/
def Refuses (w : Window) (n : UInt64) : Prop := n.toNat < w.lower ∨ w.Used n.toNat

/-- What is refused is what lies below the window or was used. -/
theorem accept_eq_error_iff (w : Window) (n : UInt64) :
    (∃ refusal, w.accept n = .error refusal) ↔ w.Refuses n := by
  unfold accept check Refuses Used
  dsimp only
  by_cases hlow : n.toNat < w.lower
  · simp [hlow]
  · by_cases hhigh : w.upper ≤ n.toNat
    · have hnot : ¬ n.toNat < w.upper := by omega
      simp [hlow, hhigh, hnot]
    · have hlt : n.toNat < w.upper := by omega
      by_cases hmark : w.mark (n.toNat - w.lower)
      · have hle : w.lower ≤ n.toNat := by omega
        simp [hlow, hhigh, hlt, hmark, hle]
      · simp [hlow, hhigh, hmark]

/-- A number that is used is at or above the centre of the window that was moved up to it,
or it was in the window before. -/
lemma accept_eq_ok (h : w.accept n = .ok v) :
    w.lower ≤ n.toNat ∧ ∃ u, v = u.setMark (n.toNat - u.lower) ∧
      ((n.toNat < w.upper ∧ u = w) ∨ (w.upper ≤ n.toNat ∧ u = w.slide n)) := by
  unfold accept check at h
  dsimp only at h
  by_cases hlow : n.toNat < w.lower
  · simp [hlow] at h
  · by_cases hhigh : w.upper ≤ n.toNat
    · rw [if_neg hlow, if_pos hhigh] at h
      exact ⟨by omega, w.slide n, (Except.ok.inj h).symm, .inr ⟨hhigh, rfl⟩⟩
    · by_cases hmark : w.mark (n.toNat - w.lower)
      · simp [hlow, hhigh, hmark] at h
      · rw [if_neg hlow, if_neg hhigh, if_neg hmark] at h
        exact ⟨by omega, w, (Except.ok.inj h).symm, .inl ⟨by omega, rfl⟩⟩

/-- A number above a window lies above its centre, unless it is the greatest one. -/
lemma lt_of_upper_le (h : w.upper ≤ n.toNat) (hn : n.toNat ≠ greatest) :
    w.centre.toNat + half ≤ n.toNat := by
  have hle := toNat_le_greatest n
  unfold upper at h
  omega

/-- Using a number adds it to the numbers that are used, and forgets those that are below
the window afterwards. -/
theorem used_of_accept (h : w.accept n = .ok v) :
    w.lower ≤ v.lower ∧ ∀ k, v.Used k ↔
      v.lower ≤ k ∧ (w.Used k ∨ (k = n.toNat ∧ n.toNat < v.upper)) := by
  obtain ⟨hlow, u, rfl, hu⟩ := accept_eq_ok h
  have hlower : (u.setMark (n.toNat - u.lower)).lower = u.lower := rfl
  have hupper : (u.setMark (n.toNat - u.lower)).upper = u.upper := rfl
  have hmono : w.lower ≤ u.lower ∧ u.lower ≤ n.toNat ∧ ∀ k, u.Used k ↔ w.Used k ∧ u.lower ≤ k := by
    rcases hu with ⟨-, rfl⟩ | ⟨hhigh, rfl⟩
    · exact ⟨Nat.le_refl _, hlow, fun k => ⟨fun hk => ⟨hk, hk.1⟩, And.left⟩⟩
    · refine ⟨lower_mono (w.centre_le_slide n), ?_, w.used_slide n⟩
      -- the centre is now at the number, or it was as high before
      by_cases hn : n ≤ w.centre
      · have hsame : w.slide n = w := if_pos hn
        rw [hsame]
        exact hlow
      · have hcentre : (w.slide n).centre = n := by
          rw [centre_slide, if_neg hn]
        unfold lower
        rw [hcentre]
        omega
  refine ⟨hmono.1, fun k => ?_⟩
  rw [used_setMark, hmono.2.2, hlower, hupper]
  have hnumber := hmono.2.1
  constructor
  · rintro (⟨hused, hk⟩ | ⟨hk, hlt⟩)
    · exact ⟨hk, .inl hused⟩
    · exact ⟨by omega, .inr ⟨by omega, by omega⟩⟩
  · rintro ⟨hk, hused | ⟨rfl, hlt⟩⟩
    · exact .inl ⟨hused, hk⟩
    · exact .inr ⟨by omega, hlt⟩

/-- A number that was used is refused from then on, unless it is the greatest one. -/
theorem refuses_of_accept (h : w.accept n = .ok v) (hn : n.toNat ≠ greatest) : v.Refuses n := by
  have hupper : n.toNat < v.upper := by
    obtain ⟨-, u, rfl, ⟨hlt, rfl⟩ | ⟨hhigh, rfl⟩⟩ := accept_eq_ok h
    · exact hlt
    · have hle := toNat_le_greatest n
      have habove := lt_of_upper_le hhigh hn
      have hhalf : half = 16 := rfl
      have hcentre : (w.slide n).centre = n := by
        rw [centre_slide, if_neg]
        rw [UInt64.le_iff_toNat_le]
        omega
      show n.toNat < (w.slide n).upper
      unfold upper
      rw [hcentre]
      omega
  by_cases hlow : n.toNat < v.lower
  · exact .inl hlow
  · exact .inr (((used_of_accept h).2 n.toNat).mpr ⟨by omega, .inr ⟨rfl, hupper⟩⟩)

/-- What is refused stays refused, whatever other numbers are used. -/
theorem Refuses.accept (h : w.Refuses n) (hm : w.accept m = .ok v) : v.Refuses n := by
  obtain ⟨hlower, hused⟩ := used_of_accept hm
  by_cases hlow : n.toNat < v.lower
  · exact .inl hlow
  · rcases h with hold | hold
    · omega
    · exact .inr ((hused n.toNat).mpr ⟨by omega, .inl hold⟩)

/-- The greatest number is never refused: no window covers it, and none lies above it. -/
theorem not_refuses_greatest (w : Window) (hn : n.toNat = greatest) : ¬ w.Refuses n := by
  have hlower := w.lower_lt_greatest
  have hupper := w.upper_le_greatest
  rintro (hlow | ⟨-, hhigh, -⟩)
  · omega
  · omega

/-- What a window lists are numbers that it covers, and does not refuse. -/
lemma of_mem_unseen {i : Nat} (h : i ∈ w.unseen) : w.lower ≤ i ∧ i < w.upper ∧ ¬ w.Used i := by
  obtain ⟨j, hj, rfl⟩ := List.mem_map.mp h
  obtain ⟨hspan, hmark⟩ := List.mem_filter.mp hj
  have hlt : j < w.upper - w.lower := List.mem_range.mp hspan
  refine ⟨Nat.le_add_right _ _, by omega, fun hused => ?_⟩
  have hsame : w.lower + j - w.lower = j := by omega
  rw [Used, hsame] at hused
  rw [hused.2.2] at hmark
  cases hmark

/-- The greatest number is not listed, and neither is one that is refused. -/
lemma not_mem_unseen (h : n.toNat ≠ greatest → w.Refuses n) : n.toNat ∉ w.unseen := by
  intro hmem
  obtain ⟨hlow, hhigh, hnot⟩ := of_mem_unseen hmem
  have hupper := w.upper_le_greatest
  rcases h (by omega) with hbelow | hused
  · omega
  · exact hnot hused

/-! ## The bitmap as bytes -/

/-- A window is read back from its centre and the bytes of its bitmap. -/
lemma ofParts?_bitmapBytes (w : Window) : ofParts? w.centre w.bitmapBytes = some w := by
  have hbitmap : BitVec.ofNat 32
      ((UInt8.ofNat (w.bitmap.toNat >>> 24)).toNat * 0x1000000 +
        (UInt8.ofNat (w.bitmap.toNat >>> 16)).toNat * 0x10000 +
        (UInt8.ofNat (w.bitmap.toNat >>> 8)).toNat * 0x100 +
        (UInt8.ofNat (w.bitmap.toNat >>> 0)).toNat) = w.bitmap := by
    have hlt := w.bitmap.isLt
    apply BitVec.eq_of_toNat_eq
    simp only [BitVec.toNat_ofNat, UInt8.toNat_ofNat', Nat.shiftRight_eq_div_pow]
    omega
  exact congrArg (fun bitmap => some (⟨w.centre, bitmap⟩ : Window)) hbitmap

end MessageSync.Window
