import Mathlib.Data.List.Basic
import Mathlib.Data.List.Range

/-!
Lists that are sorted by a number, taken apart by that number.
-/

namespace OlympusMetrics.SortedRows

variable {α : Type}

/-- The elements come in the order of their keys. -/
def Sorted (key : α → ℕ) (xs : List α) : Prop := xs.Pairwise (fun a b => key a ≤ key b)

/-- The numbers from `first` to `last`. -/
def between (first last : ℕ) : List ℕ := List.range' first (last + 1 - first)

@[simp] theorem mem_between {first last n : ℕ} : n ∈ between first last ↔ first ≤ n ∧ n ≤ last := by
  simp only [between, List.mem_range'_1]
  omega

theorem between_eq_nil {first last : ℕ} (h : last < first) : between first last = [] := by
  rw [between, Nat.sub_eq_zero_of_le h]
  rfl

theorem between_append {first mid last : ℕ} (hfirst : first ≤ mid + 1) (hlast : mid ≤ last) :
    between first mid ++ between (mid + 1) last = between first last := by
  unfold between
  obtain ⟨a, ha⟩ : ∃ a, mid + 1 = first + a := ⟨mid + 1 - first, by omega⟩
  obtain ⟨b, hb⟩ : ∃ b, last + 1 = mid + 1 + b := ⟨last - mid, by omega⟩
  have hsum : last + 1 - first = a + b := by omega
  have hleft : mid + 1 - first = a := by omega
  have hright : last + 1 - (mid + 1) = b := by omega
  rw [hsum, hleft, hright, ha, ← List.range'_append_1]

variable {key : α → ℕ} {xs : List α}

theorem Sorted.filter (h : Sorted key xs) (p : α → Bool) : Sorted key (xs.filter p) :=
  List.Pairwise.filter p h

/-- Where every element of the second test comes after those of the first, the two selections make
up one. -/
theorem filter_append_filter {p q : α → Bool} (h : Sorted key xs)
    (hlater : ∀ a b, p a = true → q b = true → key a < key b) :
    xs.filter p ++ xs.filter q = xs.filter (fun x => p x || q x) := by
  induction xs with
  | nil => rfl
  | cons x xs ih =>
      obtain ⟨hx, hxs⟩ := List.pairwise_cons.mp h
      have ih' := ih hxs
      cases hp : p x with
      | true =>
          have hq : q x = false := by
            refine Bool.eq_false_iff.mpr (fun hq => ?_)
            exact absurd (hlater x x hp hq) (Nat.lt_irrefl _)
          simp only [List.filter_cons, hp, hq, if_true, Bool.or_false, ← ih']
          simp
      | false =>
          cases hq : q x with
          | true =>
              have hnone : xs.filter p = [] := by
                refine List.filter_eq_nil_iff.mpr (fun a ha hpa => ?_)
                have := hlater a x hpa hq
                have := hx a ha
                omega
              rw [hnone] at ih'
              simp only [List.filter_cons, hp, hq, hnone, ← ih']
              simp
          | false =>
              simp only [List.filter_cons, hp, hq, ← ih']
              simp

/-- A sorted list, cut to an interval of keys, is what it holds under each key in turn. -/
theorem filter_between (h : Sorted key xs) (first last : ℕ) :
    xs.filter (fun x => decide (first ≤ key x) && decide (key x ≤ last)) =
      (between first last).flatMap (fun n => xs.filter (fun x => key x == n)) := by
  unfold between
  generalize hcount : last + 1 - first = count
  induction count generalizing last with
  | zero =>
      refine List.filter_eq_nil_iff.mpr (fun x _ hx => ?_)
      simp only [Bool.and_eq_true, decide_eq_true_eq] at hx
      omega
  | succ count ih =>
      have hsplit : xs.filter (fun x => decide (first ≤ key x) && decide (key x ≤ last)) =
          xs.filter (fun x => decide (first ≤ key x) && decide (key x < last)) ++
            xs.filter (fun x => key x == last) := by
        rw [filter_append_filter h]
        · refine List.filter_congr (fun x _ => Bool.eq_iff_iff.mpr ?_)
          simp only [Bool.and_eq_true, Bool.or_eq_true, decide_eq_true_eq, beq_iff_eq]
          omega
        · intro a b ha hb
          simp only [Bool.and_eq_true, decide_eq_true_eq, beq_iff_eq] at ha hb
          omega
      have hlast : last = first + count := by omega
      rw [hsplit, List.range'_1_concat, List.flatMap_append, ← hlast]
      simp only [List.flatMap_cons, List.flatMap_nil, List.append_nil]
      congr 1
      cases last with
      | zero =>
          obtain rfl : count = 0 := by omega
          refine List.filter_eq_nil_iff.mpr (fun x _ hx => ?_)
          simp only [Bool.and_eq_true, decide_eq_true_eq] at hx
          omega
      | succ last =>
          rw [← ih last (by omega)]
          refine List.filter_congr (fun x _ => Bool.eq_iff_iff.mpr ?_)
          simp only [Bool.and_eq_true, decide_eq_true_eq]
          omega

/-- What a list of buckets holds under one key is the bucket of the key. -/
theorem filter_flatMap_bucket {numbers : List ℕ} {rows : ℕ → List α} (hnodup : numbers.Nodup)
    (hkey : ∀ n ∈ numbers, ∀ x ∈ rows n, key x = n) {n : ℕ} (hn : n ∈ numbers) :
    (numbers.flatMap rows).filter (fun x => key x == n) = rows n := by
  induction numbers with
  | nil => exact absurd hn List.not_mem_nil
  | cons m numbers ih =>
      obtain ⟨hm, hnodup'⟩ := List.nodup_cons.mp hnodup
      have hkey' : ∀ n ∈ numbers, ∀ x ∈ rows n, key x = n :=
        fun n hn => hkey n (List.mem_cons_of_mem m hn)
      rw [List.flatMap_cons, List.filter_append]
      rcases List.mem_cons.mp hn with rfl | hmem
      · have hfirst : (rows n).filter (fun x => key x == n) = rows n :=
          List.filter_eq_self.mpr (fun x hx => beq_iff_eq.mpr (hkey n hn x hx))
        have hrest : (numbers.flatMap rows).filter (fun x => key x == n) = [] := by
          refine List.filter_eq_nil_iff.mpr (fun x hx hxn => hm ?_)
          obtain ⟨m', hm', hx⟩ := List.mem_flatMap.mp hx
          rw [← beq_iff_eq.mp hxn, hkey' m' hm' x hx]
          exact hm'
        rw [hfirst, hrest, List.append_nil]
      · have hfirst : (rows m).filter (fun x => key x == n) = [] := by
          refine List.filter_eq_nil_iff.mpr (fun x hx hxn => hm ?_)
          rw [← hkey m List.mem_cons_self x hx, beq_iff_eq.mp hxn]
          exact hmem
        rw [hfirst, ih hnodup' hkey' hmem, List.nil_append]

theorem nodup_between (first last : ℕ) : (between first last).Nodup := List.nodup_range'

end OlympusMetrics.SortedRows
