import OlympusMetrics.Library.BigNumber
import Mathlib.Tactic.FieldSimp
import Mathlib.Tactic.Linarith
import Mathlib.Tactic.Positivity

/-!
How far rounding half up moves a number.
-/

namespace OlympusMetrics.BigNumber

/-- Half of the last place. -/
def halfUnit (places : ℕ) : ℚ := 1 / 2 / 10 ^ places

theorem halfUnit_pos (places : ℕ) : 0 < halfUnit places := by
  unfold halfUnit
  positivity

theorem halfUnit_mul (places : ℕ) : halfUnit places * 10 ^ places = 1 / 2 := by
  unfold halfUnit
  field_simp

variable {places : ℕ} {q : ℚ}

theorem roundHalfUp_of_nonneg (h : 0 ≤ q) :
    roundHalfUp places q = (⌊q * 10 ^ places + 1 / 2⌋ : ℤ) / 10 ^ places := by
  unfold roundHalfUp
  dsimp only
  rw [abs_of_nonneg h, if_neg (not_lt.mpr h)]

theorem roundHalfUp_neg (q : ℚ) : roundHalfUp places (-q) = -roundHalfUp places q := by
  rcases lt_trichotomy q 0 with h | rfl | h
  · have hneg : 0 ≤ -q := by linarith
    rw [roundHalfUp_of_nonneg hneg]
    unfold roundHalfUp
    dsimp only
    rw [abs_of_neg h, if_pos h]
    ring
  · have hzero : ⌊(2 : ℚ)⁻¹⌋ = 0 := by
      rw [Int.floor_eq_zero_iff]
      constructor <;> norm_num
    simp [roundHalfUp, hzero]
  · have hneg : -q < 0 := by linarith
    rw [roundHalfUp_of_nonneg h.le]
    unfold roundHalfUp
    dsimp only
    rw [abs_neg, abs_of_pos h, if_pos hneg]
    ring

theorem roundHalfUp_nonneg (h : 0 ≤ q) : 0 ≤ roundHalfUp places q := by
  rw [roundHalfUp_of_nonneg h]
  have hfloor : 0 ≤ ⌊q * 10 ^ places + 1 / 2⌋ := by
    rw [Int.floor_nonneg]
    positivity
  positivity

/-- Rounding keeps the order. -/
theorem roundHalfUp_mono {p q : ℚ} (h : p ≤ q) : roundHalfUp places p ≤ roundHalfUp places q := by
  have hnonneg {p q : ℚ} (hp : 0 ≤ p) (h : p ≤ q) : roundHalfUp places p ≤ roundHalfUp places q := by
    rw [roundHalfUp_of_nonneg hp, roundHalfUp_of_nonneg (hp.trans h)]
    have hfloor : ⌊p * 10 ^ places + 1 / 2⌋ ≤ ⌊q * 10 ^ places + 1 / 2⌋ := by
      apply Int.floor_le_floor
      gcongr
    gcongr
  rcases le_total 0 p with hp | hp
  · exact hnonneg hp h
  · rcases le_total 0 q with hq | hq
    · have hneg : 0 ≤ roundHalfUp places (-p) := roundHalfUp_nonneg (neg_nonneg.mpr hp)
      rw [roundHalfUp_neg] at hneg
      have hpos : 0 ≤ roundHalfUp places q := roundHalfUp_nonneg hq
      linarith
    · have hneg := hnonneg (neg_nonneg.mpr hq) (neg_le_neg h)
      rw [roundHalfUp_neg, roundHalfUp_neg] at hneg
      linarith

/-- Rounding moves a number by at most half of the last place. -/
theorem abs_roundHalfUp_sub_le (q : ℚ) : |roundHalfUp places q - q| ≤ halfUnit places := by
  have hnonneg (q : ℚ) (h : 0 ≤ q) : |roundHalfUp places q - q| ≤ halfUnit places := by
    have hten : (0 : ℚ) < 10 ^ places := by positivity
    have hle := Int.floor_le (q * 10 ^ places + 1 / 2)
    have hlt := Int.lt_floor_add_one (q * 10 ^ places + 1 / 2)
    have hunit := halfUnit_mul places
    rw [roundHalfUp_of_nonneg h, abs_le]
    constructor
    · rw [le_sub_iff_add_le, le_div_iff₀ hten]
      linarith
    · rw [sub_le_iff_le_add, div_le_iff₀ hten]
      linarith
  rcases le_total 0 q with h | h
  · exact hnonneg q h
  · have hneg := hnonneg (-q) (by linarith)
    have hsub : -roundHalfUp places q - -q = -(roundHalfUp places q - q) := by ring
    rw [roundHalfUp_neg, hsub, abs_neg] at hneg
    exact hneg

/-- A part that is stored as a rounded share and is multiplied out again is off by at most half of the
last place for each unit of the total, and for the last rounding. -/
theorem abs_rounded_share_sub_le {part total : ℚ} (htotal : 0 < total) :
    |roundHalfUp places (total * roundHalfUp places (part / total)) - part| ≤
      (total + 1) * halfUnit places := by
  have hshare := @abs_roundHalfUp_sub_le places (part / total)
  have hround := @abs_roundHalfUp_sub_le places (total * roundHalfUp places (part / total))
  have hpart : total * (part / total) = part := mul_div_cancel₀ part htotal.ne'
  have hscaled : |total * roundHalfUp places (part / total) - part| ≤ total * halfUnit places := by
    calc |total * roundHalfUp places (part / total) - part|
        = |total * (roundHalfUp places (part / total) - part / total)| := by rw [mul_sub, hpart]
      _ = total * |roundHalfUp places (part / total) - part / total| := by
          rw [abs_mul, abs_of_pos htotal]
      _ ≤ total * halfUnit places := mul_le_mul_of_nonneg_left hshare htotal.le
  calc |roundHalfUp places (total * roundHalfUp places (part / total)) - part|
      ≤ |roundHalfUp places (total * roundHalfUp places (part / total)) -
            total * roundHalfUp places (part / total)| +
          |total * roundHalfUp places (part / total) - part| := abs_sub_le _ _ _
    _ ≤ halfUnit places + total * halfUnit places := add_le_add hround hscaled
    _ = (total + 1) * halfUnit places := by ring

/-- A number without further places stays. -/
theorem roundHalfUp_eq_self {n : ℤ} (h : q * 10 ^ places = n) : roundHalfUp places q = q := by
  have hnonneg {q : ℚ} {n : ℤ} (hq : 0 ≤ q) (h : q * 10 ^ places = n) :
      roundHalfUp places q = q := by
    have hten : (10 : ℚ) ^ places ≠ 0 := by positivity
    have hfloor : ⌊(n : ℚ) + 1 / 2⌋ = n := by
      rw [Int.floor_intCast_add]
      have hzero : ⌊(1 / 2 : ℚ)⌋ = 0 := by
        rw [Int.floor_eq_zero_iff]
        constructor <;> norm_num
      rw [hzero, add_zero]
    rw [roundHalfUp_of_nonneg hq, h, hfloor, ← h, mul_div_assoc, div_self hten, mul_one]
  rcases le_total 0 q with hq | hq
  · exact hnonneg hq h
  · have hneg : (-q) * 10 ^ places = ((-n : ℤ) : ℚ) := by
      rw [neg_mul, h, Int.cast_neg]
    have hround := hnonneg (by linarith) hneg
    rw [roundHalfUp_neg, neg_inj] at hround
    exact hround

/-- A rounded number has no further places. -/
theorem exists_roundHalfUp_mul (q : ℚ) : ∃ n : ℤ, roundHalfUp places q * 10 ^ places = n := by
  have hten : (10 : ℚ) ^ places ≠ 0 := by positivity
  unfold roundHalfUp
  dsimp only
  split
  · exact ⟨-⌊|q| * 10 ^ places + 1 / 2⌋, by rw [div_mul_cancel₀ _ hten, Int.cast_neg]⟩
  · exact ⟨⌊|q| * 10 ^ places + 1 / 2⌋, div_mul_cancel₀ _ hten⟩

@[simp] theorem roundHalfUp_roundHalfUp (q : ℚ) :
    roundHalfUp places (roundHalfUp places q) = roundHalfUp places q := by
  obtain ⟨n, hn⟩ := @exists_roundHalfUp_mul places q
  exact roundHalfUp_eq_self hn

@[simp] theorem roundHalfUp_zero : roundHalfUp places 0 = 0 :=
  @roundHalfUp_eq_self places 0 0 (by simp)

/-- Rounding the terms of a sum moves it by half of the last place for each term. -/
theorem abs_sum_roundHalfUp_sub_le {α : Type*} (f : α → ℚ) (xs : List α) :
    |(xs.map (fun x => roundHalfUp places (f x))).sum - (xs.map f).sum| ≤
      xs.length * halfUnit places := by
  induction xs with
  | nil => simp
  | cons x xs ih =>
      simp only [List.map_cons, List.sum_cons, List.length_cons, Nat.cast_add, Nat.cast_one]
      have hfirst := @abs_roundHalfUp_sub_le places (f x)
      have hsum := abs_add_le (roundHalfUp places (f x) - f x)
        ((xs.map (fun x => roundHalfUp places (f x))).sum - (xs.map f).sum)
      rw [sub_add_sub_comm] at hsum
      linarith

/-- What a number rounds down to a bound with as many places. -/
theorem roundHalfUp_le_iff (h : 0 ≤ q) (n : ℤ) :
    roundHalfUp places q ≤ n / 10 ^ places ↔ q < n / 10 ^ places + halfUnit places := by
  have hten : (0 : ℚ) < 10 ^ places := by positivity
  have hsum : (n : ℚ) / 10 ^ places + halfUnit places = (n + 1 / 2) / 10 ^ places := by
    unfold halfUnit
    ring
  rw [roundHalfUp_of_nonneg h, div_le_div_iff_of_pos_right hten, Int.cast_le, ← Int.lt_add_one_iff,
    Int.floor_lt, hsum, lt_div_iff₀ hten]
  push_cast
  constructor <;> intro hlt <;> linarith

/-- What is at least half of the last place does not vanish. -/
theorem roundHalfUp_pos_iff (h : 0 ≤ q) :
    0 < roundHalfUp places q ↔ halfUnit places ≤ q := by
  have hiff : roundHalfUp places q ≤ (0 : ℤ) / 10 ^ places ↔
      q < (0 : ℤ) / 10 ^ places + halfUnit places := roundHalfUp_le_iff h 0
  rw [Int.cast_zero, zero_div, zero_add] at hiff
  rw [← not_le, hiff, not_lt]

/-- What stays below half of the last place vanishes. -/
theorem roundHalfUp_eq_zero_iff : roundHalfUp places q = 0 ↔ |q| < halfUnit places := by
  have hnonneg {q : ℚ} (h : 0 ≤ q) : roundHalfUp places q = 0 ↔ q < halfUnit places := by
    rw [← not_le, ← roundHalfUp_pos_iff h, not_lt]
    constructor
    · intro heq
      exact heq.le
    · intro hle
      exact le_antisymm hle (roundHalfUp_nonneg h)
  rcases le_total 0 q with h | h
  · rw [abs_of_nonneg h, hnonneg h]
  · have hneg := hnonneg (neg_nonneg.mpr h)
    rwa [roundHalfUp_neg, neg_eq_zero, ← abs_of_nonpos h] at hneg

end OlympusMetrics.BigNumber
