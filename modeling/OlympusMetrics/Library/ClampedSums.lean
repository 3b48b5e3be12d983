import Mathlib.Algebra.BigOperators.Group.List.Basic
import Mathlib.Algebra.Order.Ring.Defs
import Mathlib.Order.Bounds.Basic
import Mathlib.Data.List.Infix
import Mathlib.Tactic.Linarith
import Mathlib.Tactic.Ring

/-!
Running sums that are held at zero from below.

Such a sum is the true one and what was ever missing from it: the most by which
the true sum of a first part of the changes was negative.
-/

namespace OlympusMetrics.ClampedSums

variable {α : Type*} [CommRing α] [LinearOrder α]

/-- An amount after a change; what would be negative is zero. -/
def clampedAdd (amount delta : α) : α := if amount + delta < 0 then 0 else amount + delta

theorem clampedAdd_eq_max (amount delta : α) : clampedAdd amount delta = max 0 (amount + delta) := by
  unfold clampedAdd
  split
  case isTrue h => exact (max_eq_left h.le).symm
  case isFalse h => exact (max_eq_right (not_lt.mp h)).symm

/-- An amount after some changes. -/
def clampedSum (start : α) (deltas : List α) : α := deltas.foldl clampedAdd start

@[simp] theorem clampedSum_nil (start : α) : clampedSum start [] = start := rfl

@[simp] theorem clampedSum_cons (start delta : α) (deltas : List α) :
    clampedSum start (delta :: deltas) = clampedSum (clampedAdd start delta) deltas := rfl

/-! ### What is missing -/

/-- The most by which the sum of a first part of the changes is negative. -/
def overdraft : List α → α
  | [] => 0
  | delta :: deltas => max 0 (overdraft deltas - delta)

@[simp] theorem overdraft_nil : overdraft ([] : List α) = 0 := rfl

theorem overdraft_nonneg (deltas : List α) : 0 ≤ overdraft deltas := by
  cases deltas with
  | nil => exact le_refl 0
  | cons delta deltas => exact le_max_left 0 _

theorem exists_overdraft_eq (deltas : List α) :
    ∃ first, first <+: deltas ∧ overdraft deltas = -first.sum := by
  induction deltas with
  | nil => exact ⟨[], List.nil_prefix, by simp⟩
  | cons delta deltas ih =>
      obtain ⟨first, hfirst, heq⟩ := ih
      rcases le_total (overdraft deltas - delta) 0 with h | h
      · exact ⟨[], List.nil_prefix, by simp [overdraft, h]⟩
      · refine ⟨delta :: first, List.cons_prefix_cons.mpr ⟨rfl, hfirst⟩, ?_⟩
        rw [overdraft, max_eq_right h, heq, List.sum_cons]
        ring

variable [IsStrictOrderedRing α]

theorem neg_sum_le_overdraft {deltas first : List α} (h : first <+: deltas) :
    -first.sum ≤ overdraft deltas := by
  induction deltas generalizing first with
  | nil =>
      obtain rfl := List.prefix_nil.mp h
      simp
  | cons delta deltas ih =>
      rcases List.prefix_cons_iff.mp h with rfl | ⟨rest, rfl, hrest⟩
      · simpa using overdraft_nonneg (delta :: deltas)
      · have hle := ih hrest
        rw [List.sum_cons, overdraft]
        apply le_max_of_le_right
        linarith

theorem isGreatest_overdraft (deltas : List α) :
    IsGreatest {x | ∃ first, first <+: deltas ∧ x = -first.sum} (overdraft deltas) := by
  refine ⟨exists_overdraft_eq deltas, ?_⟩
  rintro _ ⟨first, hfirst, rfl⟩
  exact neg_sum_le_overdraft hfirst

/-- Nothing is ever missing where no first part of the changes has a negative sum. -/
theorem overdraft_eq_zero_iff (deltas : List α) :
    overdraft deltas = 0 ↔ ∀ first, first <+: deltas → 0 ≤ first.sum := by
  constructor
  · intro h first hfirst
    have hle := neg_sum_le_overdraft hfirst
    rw [h] at hle
    exact neg_nonpos.mp hle
  · intro h
    obtain ⟨first, hfirst, heq⟩ := exists_overdraft_eq deltas
    apply le_antisymm _ (overdraft_nonneg deltas)
    rw [heq]
    exact neg_nonpos.mpr (h first hfirst)

/-! ### The clamped sum -/

/-- A start makes up for what is missing, as far as it goes. -/
theorem clampedSum_eq {start : α} (h : 0 ≤ start) (deltas : List α) :
    clampedSum start deltas = start + deltas.sum + max 0 (overdraft deltas - start) := by
  induction deltas generalizing start with
  | nil => simp [h]
  | cons delta deltas ih =>
      have hover := overdraft_nonneg deltas
      rw [clampedSum_cons, List.sum_cons, overdraft, clampedAdd_eq_max, ih (le_max_left 0 _)]
      rcases le_total 0 (start + delta) with hsum | hsum
      · -- The change is covered, and the later ones are missing what they were.
        have hmissing : max 0 (max 0 (overdraft deltas - delta) - start) =
            max 0 (overdraft deltas - (start + delta)) := by
          rcases le_total (overdraft deltas - delta) 0 with hdelta | hdelta
          · rw [max_eq_left hdelta, max_eq_left (by linarith), max_eq_left (by linarith)]
          · rw [max_eq_right hdelta, sub_sub, add_comm delta]
        rw [max_eq_right hsum, hmissing]
        ring
      · have hlater : 0 ≤ overdraft deltas - delta := by linarith
        rw [max_eq_left hsum, max_eq_right hlater, sub_zero, max_eq_right hover,
          max_eq_right (by linarith : 0 ≤ overdraft deltas - delta - start)]
        ring

/-- The true sum and what was ever missing. -/
theorem clampedSum_zero (deltas : List α) : clampedSum 0 deltas = deltas.sum + overdraft deltas := by
  rw [clampedSum_eq (le_refl 0), sub_zero, zero_add, max_eq_right (overdraft_nonneg deltas)]

/-! ### Runs -/

omit [IsStrictOrderedRing α] in
/-- A value that each step either leaves or clamps after a change is a clamped sum after a run. -/
theorem value_foldl {σ ι : Type*} {step : σ → ι → σ} {value : σ → α} {deltaOf : ι → Option α}
    (h : ∀ s i, value (step s i) = (deltaOf i).elim (value s) (clampedAdd (value s))) (s : σ)
    (is : List ι) : value (is.foldl step s) = clampedSum (value s) (is.filterMap deltaOf) := by
  induction is generalizing s with
  | nil => rfl
  | cons i is ih =>
      rw [List.foldl_cons, ih, h, List.filterMap_cons]
      cases deltaOf i <;> rfl

end OlympusMetrics.ClampedSums
