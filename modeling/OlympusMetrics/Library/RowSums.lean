import Mathlib.Algebra.BigOperators.Group.List.Basic
import Mathlib.Algebra.Order.BigOperators.Group.List
import Mathlib.Data.List.Nodup

/-!
Sums over the rows that are counted.

A row is counted by its key. Counting more keys adds the rows that only they
count.
-/

namespace OlympusMetrics.RowSums

variable {α κ M : Type*} [DecidableEq κ]

/-- What the rows add up to whose key is listed. -/
def sumCounted [AddMonoid M] (key : α → κ) (keys : List κ) (f : α → M) (rows : List α) : M :=
  (rows.map (fun row => if key row ∈ keys then f row else 0)).sum

section

variable [AddCommMonoid M] (key : α → κ) (f : α → M)

theorem sumCounted_append (keys : List κ) (rows rows' : List α) :
    sumCounted key keys f (rows ++ rows') =
      sumCounted key keys f rows + sumCounted key keys f rows' := by
  simp [sumCounted]

theorem sumCounted_perm (keys : List κ) {rows rows' : List α} (h : rows.Perm rows') :
    sumCounted key keys f rows = sumCounted key keys f rows' :=
  (h.map _).sum_eq

theorem indicator_sum {keys : List κ} (h : keys.Nodup) (k : κ) (x : M) :
    (keys.map (fun key => if k = key then x else 0)).sum = if k ∈ keys then x else 0 := by
  induction keys with
  | nil => simp
  | cons key keys ih =>
      obtain ⟨hnot, hrest⟩ := List.nodup_cons.mp h
      by_cases hk : k = key
      · subst hk
        simp [ih hrest, hnot]
      · simp [ih hrest, hk]

/-- Summing by keys counts every row once. -/
theorem sum_by_keys {keys : List κ} (h : keys.Nodup) (rows : List α) :
    (keys.map (fun k => ((rows.filter (fun row => key row = k)).map f).sum)).sum =
      sumCounted key keys f rows := by
  induction rows with
  | nil => simp [sumCounted]
  | cons row rows ih =>
      have hcons (k : κ) : (((row :: rows).filter (fun row => key row = k)).map f).sum =
          (if key row = k then f row else 0) +
            ((rows.filter (fun row => key row = k)).map f).sum := by
        by_cases hk : key row = k
        · simp [hk]
        · simp [hk]
      have hsum : sumCounted key keys f (row :: rows) =
          (if key row ∈ keys then f row else 0) + sumCounted key keys f rows := by
        simp [sumCounted]
      simp only [hcons]
      rw [List.sum_map_add, indicator_sum h, ih, hsum]

end

variable [AddCommMonoid M] [PartialOrder M] [IsOrderedAddMonoid M] {key : α → κ} {f : α → M}

/-- Counting further keys, whose rows add nothing positive, does not raise the sum. -/
theorem sumCounted_le {keys keys' : List κ} (hsub : keys ⊆ keys') {rows : List α}
    (hrows : ∀ row ∈ rows, key row ∉ keys → f row ≤ 0) :
    sumCounted key keys' f rows ≤ sumCounted key keys f rows := by
  apply List.sum_le_sum
  intro row hrow
  by_cases hkey : key row ∈ keys
  · rw [if_pos hkey, if_pos (hsub hkey)]
  · rw [if_neg hkey]
    split
    · exact hrows row hrow hkey
    · exact le_refl 0

end OlympusMetrics.RowSums
