import Mathlib.Tactic.Linarith
import MessageSync.Secret

/-!
# Rotation periods

The periods of a secret follow each other from its epoch on, and each is as long as the clocks of
the two sides may differ, both ways, and a message may take (`Secret.rotationPeriod`). All this is
reckoned in 64 bits. While it stays in range, the number of the period at a time from the epoch on
is that of the one period that the time falls into (`Secret.periodAt_eq_iff`), so that it never
goes back while the clock goes on (`Secret.periodAt_mono`).
-/

namespace MessageSync.Secret

/-- Whether the length of a period and the time since the epoch are in the range of times. -/
structure InRange (s : Secret) (now : Int64) : Prop where
  length : -2 ^ 63 ≤ 2 * s.clockDiff.toInt + s.latency.toInt ∧
    2 * s.clockDiff.toInt + s.latency.toInt < 2 ^ 63
  since : now.toInt - s.epoch.toInt < 2 ^ 63

variable {s : Secret} {now now' : Int64}

lemma toInt_max (a b : Int64) : (max a b).toInt = max a.toInt b.toInt := by
  have hmax : max a b = if a ≤ b then b else a := rfl
  rw [hmax]
  split
  · next hle => exact (max_eq_right (Int64.le_iff_toInt_le.mp hle)).symm
  · next hlt =>
    have hle := Int64.le_of_lt (Int64.not_le.mp hlt)
    exact (max_eq_left (Int64.le_iff_toInt_le.mp hle)).symm

lemma toInt_rotationPeriod (h : s.InRange now) :
    s.rotationPeriod.toInt = max (2 * s.clockDiff.toInt + s.latency.toInt) 1 := by
  obtain ⟨hlow, hhigh⟩ := h.length
  have hsum : (2 * s.clockDiff + s.latency).toInt = 2 * s.clockDiff.toInt + s.latency.toInt := by
    have htwo : (2 : Int64).toInt = 2 := rfl
    rw [Int64.toInt_add, Int64.toInt_mul, Int.bmod_add_bmod, htwo]
    exact Int.bmod_eq_of_le (by omega) (by omega)
  rw [rotationPeriod, toInt_max, hsum]
  rfl

lemma rotationPeriod_pos (h : s.InRange now) : 0 < s.rotationPeriod.toInt := by
  rw [toInt_rotationPeriod h]
  omega

/-- The number of the period at a time from the epoch on is the number of whole periods before
it. -/
lemma toNat_periodAt (h : s.InRange now) (hnow : s.epoch ≤ now) :
    ((s.periodAt now).toNat : Int) =
      (now.toInt - s.epoch.toInt) / s.rotationPeriod.toInt := by
  have hsince := h.since
  have hpos := rotationPeriod_pos h
  rw [Int64.le_iff_toInt_le] at hnow
  have hspan : (now - s.epoch).toInt = now.toInt - s.epoch.toInt := by
    rw [Int64.toInt_sub]
    exact Int.bmod_eq_of_le (by omega) (by omega)
  have hne : s.rotationPeriod ≠ -1 := by
    intro hneg
    rw [hneg] at hpos
    exact absurd hpos (by decide)
  have hquotient : ((now - s.epoch) / s.rotationPeriod).toInt =
      (now.toInt - s.epoch.toInt) / s.rotationPeriod.toInt := by
    rw [Int64.toInt_div_of_ne_right _ _ hne, hspan, Int.tdiv_eq_ediv_of_nonneg (by omega)]
  have hnonneg : 0 ≤ (now.toInt - s.epoch.toInt) / s.rotationPeriod.toInt :=
    Int.ediv_nonneg (by omega) hpos.le
  rw [periodAt]
  split
  · next hle =>
    rw [Int64.le_iff_toInt_le] at hle
    rw [show now.toInt - s.epoch.toInt = 0 by omega, Int.zero_ediv]
    rfl
  · have hle : 0 ≤ (now - s.epoch) / s.rotationPeriod := by
      rw [Int64.le_iff_toInt_le, hquotient]
      exact hnonneg
    rw [Int64.toNat_toUInt64_of_le hle]
    show ((((now - s.epoch) / s.rotationPeriod).toInt.toNat : Nat) : Int) = _
    rw [hquotient, Int.toNat_of_nonneg hnonneg]

/-- A time from the epoch on falls into a period exactly if it is not before the start of the
period, and before its end. -/
theorem periodAt_eq_iff (h : s.InRange now) (hnow : s.epoch ≤ now) (p : UInt64) :
    s.periodAt now = p ↔
      s.epoch.toInt + p.toNat * s.rotationPeriod.toInt ≤ now.toInt ∧
        now.toInt < s.epoch.toInt + (p.toNat + 1) * s.rotationPeriod.toInt := by
  have hpos := rotationPeriod_pos h
  have hnumber : s.periodAt now = p ↔
      (now.toInt - s.epoch.toInt) / s.rotationPeriod.toInt = (p.toNat : Int) := by
    rw [← toNat_periodAt h hnow, Nat.cast_inj, UInt64.toNat_inj]
  rw [hnumber, le_antisymm_iff, ← Int.lt_add_one_iff, Int.ediv_lt_iff_lt_mul hpos,
    Int.le_ediv_iff_mul_le hpos]
  constructor <;> rintro ⟨_, _⟩ <;> constructor <;> linarith

/-- The periods do not go back while the clock goes on. -/
theorem periodAt_mono (h : s.InRange now') (hle : now ≤ now') :
    s.periodAt now ≤ s.periodAt now' := by
  rw [UInt64.le_iff_toNat_le]
  by_cases hnow : s.epoch ≤ now
  · have hstart := Int64.le_iff_toInt_le.mp hle
    have hearlier : s.InRange now := ⟨h.length, by have := h.since; omega⟩
    have hquotient := Int.ediv_le_ediv (rotationPeriod_pos h)
      (show now.toInt - s.epoch.toInt ≤ now'.toInt - s.epoch.toInt by omega)
    rw [← toNat_periodAt hearlier hnow, ← toNat_periodAt h (Int64.le_trans hnow hle)] at hquotient
    exact_mod_cast hquotient
  · have hzero : s.periodAt now = 0 := if_pos ((Int64.le_total now s.epoch).resolve_right hnow)
    rw [hzero]
    exact Nat.zero_le _

end MessageSync.Secret
