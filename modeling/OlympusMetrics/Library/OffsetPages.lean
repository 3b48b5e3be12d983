import Mathlib.Data.List.Sort
import Mathlib.Data.List.Range

/-!
Pages taken by offset from a sorted list that grows between the requests.

Elements are only added, so an element's position never falls: no element that
was there at the first page is missed, and an element is taken twice exactly when
another one is added in front of what was already taken.
-/

namespace OlympusMetrics.OffsetPages

variable {α : Type*} [LinearOrder α]

/-- The position of an element: how many elements come before it. -/
def rank (x : α) (xs : List α) : ℕ := (xs.filter (fun y => y < x)).length

def page (size offset : ℕ) (xs : List α) : List α := (xs.drop offset).take size

variable {x y : α} {xs ys : List α}

theorem rank_cons_self (h : (x :: xs).Pairwise (· < ·)) : rank x (x :: xs) = 0 := by
  have hnone : ∀ y ∈ x :: xs, ¬ y < x := by
    intro y hy
    rcases List.mem_cons.mp hy with rfl | hy
    · exact lt_irrefl y
    · exact (List.rel_of_pairwise_cons h hy).not_gt
  rw [rank, List.length_eq_zero_iff, List.filter_eq_nil_iff]
  intro y hy
  simpa using hnone y hy

theorem rank_cons_of_lt (h : y < x) : rank x (y :: xs) = rank x xs + 1 := by
  simp [rank, h]

/-- A page holds the elements whose positions it covers. -/
theorem mem_page_iff (hxs : xs.Pairwise (· < ·)) (size offset : ℕ) :
    x ∈ page size offset xs ↔ x ∈ xs ∧ offset ≤ rank x xs ∧ rank x xs < offset + size := by
  induction xs generalizing offset size with
  | nil => simp [page]
  | cons y xs ih =>
      have hrest := List.Pairwise.of_cons hxs
      by_cases hx : x = y
      · subst hx
        have hnot : x ∉ xs := fun hmem => lt_irrefl x (List.rel_of_pairwise_cons hxs hmem)
        rw [rank_cons_self hxs]
        cases offset with
        | zero =>
            cases size with
            | zero => simp [page]
            | succ size => simp [page]
        | succ offset =>
            have hdrop : x ∉ page size (offset + 1) (x :: xs) := by
              intro hmem
              exact hnot (List.mem_of_mem_drop (List.mem_of_mem_take hmem))
            simp [hdrop]
      · by_cases hmem : x ∈ xs
        · have hlt : y < x := List.rel_of_pairwise_cons hxs hmem
          rw [rank_cons_of_lt hlt]
          cases offset with
          | zero =>
              cases size with
              | zero => simp [page]
              | succ size =>
                  have hpage : x ∈ page (size + 1) 0 (y :: xs) ↔ x ∈ page size 0 xs := by
                    simp [page, hx]
                  rw [hpage, ih hrest size 0]
                  simp [hx]
          | succ offset =>
              have hpage : page size (offset + 1) (y :: xs) = page size offset xs := rfl
              rw [hpage, ih hrest size offset]
              simp [hx]
              omega
        · have hnot : x ∉ y :: xs := by simp [hx, hmem]
          have hpage : x ∉ page size offset (y :: xs) := by
            intro hpage
            exact hnot (List.mem_of_mem_drop (List.mem_of_mem_take hpage))
          simp [hnot, hpage]

theorem rank_lt_of_lt (hx : x ∈ xs) (h : x < y) : rank x xs < rank y xs := by
  unfold rank
  have hsub : xs.filter (fun z => z < x) = (xs.filter (fun z => z < y)).filter (fun z => z < x) := by
    rw [List.filter_filter]
    apply List.filter_congr
    intro z _
    have himp : z < x → z < y := fun hz => hz.trans h
    simp only [← Bool.decide_and]
    exact decide_eq_decide.mpr ⟨fun hz => ⟨hz, himp hz⟩, fun hz => hz.1⟩
  rw [hsub, List.length_filter_lt_length_iff_exists]
  exact ⟨x, List.mem_filter.mpr ⟨hx, decide_eq_true h⟩, by simp⟩

theorem rank_le_of_le (h : x ≤ y) : rank x xs ≤ rank y xs := by
  apply List.Sublist.length_le
  apply List.monotone_filter_right
  intro z hz
  exact decide_eq_true ((of_decide_eq_true hz).trans_le h)

/-- Elements that are added in between only raise positions. -/
theorem rank_mono (hxs : xs.Pairwise (· < ·)) (h : xs ⊆ ys) (x : α) : rank x xs ≤ rank x ys := by
  unfold rank
  apply List.Subperm.length_le
  apply List.subperm_of_subset
  · exact (hxs.imp ne_of_lt).sublist List.filter_sublist
  · exact List.filter_subset _ h

/-- An element that is added in front raises the position. -/
theorem rank_lt_rank (hxs : xs.Pairwise (· < ·)) (h : xs ⊆ ys) (hy : y ∈ ys) (hnew : y ∉ xs)
    (hlt : y < x) : rank x xs < rank x ys := by
  have hnodup : (y :: xs.filter (fun z => z < x)).Nodup := by
    refine List.nodup_cons.mpr ⟨fun hmem => hnew (List.mem_filter.mp hmem).1, ?_⟩
    exact (hxs.imp ne_of_lt).sublist List.filter_sublist
  have hsubset : y :: xs.filter (fun z => z < x) ⊆ ys.filter (fun z => z < x) := by
    refine List.cons_subset.mpr ⟨List.mem_filter.mpr ⟨hy, decide_eq_true hlt⟩, ?_⟩
    exact List.filter_subset _ h
  have hlength := (List.subperm_of_subset hnodup hsubset).length_le
  exact hlength

theorem rank_getElem (hxs : xs.Pairwise (· < ·)) {i : ℕ} (hi : i < xs.length) :
    rank xs[i] xs = i := by
  induction xs generalizing i with
  | nil => simp at hi
  | cons x xs ih =>
      cases i with
      | zero => exact rank_cons_self hxs
      | succ i =>
          have hlt : i < xs.length := by simpa using hi
          have hx : x < xs[i] := List.rel_of_pairwise_cons hxs (List.getElem_mem hlt)
          rw [List.getElem_cons_succ, rank_cons_of_lt hx, ih hxs.of_cons hlt]

theorem rank_lt_length (hx : x ∈ xs) : rank x xs < xs.length := by
  unfold rank
  rw [List.length_filter_lt_length_iff_exists]
  exact ⟨x, hx, by simp⟩

/-! ### The pages of a growing list -/

/-- The list is sorted at every request and keeps its elements. -/
structure Growing (lists : ℕ → List α) : Prop where
  sorted : ∀ k, (lists k).Pairwise (· < ·)
  keeps : ∀ k, lists k ⊆ lists (k + 1)

/-- What the first requests take, each at the next offset. -/
def taken (size : ℕ) (lists : ℕ → List α) (requests : ℕ) : List α :=
  (List.range requests).flatMap (fun k => page size (k * size) (lists k))

/-- Between two requests elements are only added behind those that were taken. -/
def AddsBehind (size : ℕ) (lists : ℕ → List α) (last : ℕ) : Prop :=
  ∀ k < last, ∀ x ∈ lists (k + 1), x ∉ lists k → (k + 1) * size ≤ rank x (lists k)

variable {size last : ℕ} {lists : ℕ → List α}

omit [LinearOrder α] in
theorem mem_taken {requests : ℕ} : x ∈ taken size lists requests ↔
    ∃ k < requests, x ∈ page size (k * size) (lists k) := by
  simp [taken]

/-- An element that was not passed over yet is on one of the pages to come. -/
theorem mem_page_of_rank (h : Growing lists) (hlast : (lists last).length < (last + 1) * size)
    {first : ℕ} (hfirst : first ≤ last) (hmem : x ∈ lists first)
    (hrank : first * size ≤ rank x (lists first)) :
    ∃ k, first ≤ k ∧ k ≤ last ∧ x ∈ page size (k * size) (lists k) := by
  obtain ⟨rest, rfl⟩ := Nat.exists_eq_add_of_le hfirst
  induction rest generalizing first with
  | zero =>
      refine ⟨first, le_refl _, le_refl _, (mem_page_iff (h.sorted _) _ _).mpr ⟨hmem, hrank, ?_⟩⟩
      have hlt := rank_lt_length hmem
      rw [Nat.add_zero, Nat.succ_mul] at hlast
      omega
  | succ rest ih =>
      by_cases hlt : rank x (lists first) < first * size + size
      · exact ⟨first, le_refl _, hfirst, (mem_page_iff (h.sorted _) _ _).mpr ⟨hmem, hrank, hlt⟩⟩
      · have hgrown := rank_mono (h.sorted first) (h.keeps first) x
        have heq : first + 1 + rest = first + (rest + 1) := by omega
        have hnext : (first + 1) * size ≤ rank x (lists (first + 1)) := by
          rw [Nat.succ_mul]
          omega
        obtain ⟨k, hk, hle, hpage⟩ := ih (h.keeps first hmem) hnext (heq ▸ hlast) (by omega)
        exact ⟨k, by omega, by omega, hpage⟩

/-- No element of the first list is missed. -/
theorem subset_taken (h : Growing lists) (hlast : (lists last).length < (last + 1) * size) :
    lists 0 ⊆ taken size lists (last + 1) := by
  intro x hx
  obtain ⟨k, -, hk, hpage⟩ := mem_page_of_rank h hlast (Nat.zero_le last) hx
    (by rw [Nat.zero_mul]; exact Nat.zero_le _)
  exact mem_taken.mpr ⟨k, by omega, hpage⟩

/-- What was taken keeps its position while elements are only added behind it. -/
theorem rank_succ_eq (h : Growing lists) (hbehind : AddsBehind size lists last) {k : ℕ}
    (hk : k < last) (hrank : rank x (lists k) < (k + 1) * size) :
    rank x (lists (k + 1)) = rank x (lists k) := by
  apply le_antisymm _ (rank_mono (h.sorted k) (h.keeps k) x)
  unfold rank
  apply List.Subperm.length_le
  apply List.subperm_of_subset
  · exact ((h.sorted (k + 1)).imp ne_of_lt).sublist List.filter_sublist
  · intro y hy
    obtain ⟨hmem, hlt⟩ := List.mem_filter.mp hy
    refine List.mem_filter.mpr ⟨?_, hlt⟩
    by_contra hnot
    have hbound := hbehind k hk y hmem hnot
    have hle : rank y (lists k) ≤ rank x (lists k) := rank_le_of_le (of_decide_eq_true hlt).le
    omega

theorem rank_eq_of_le (h : Growing lists) (hbehind : AddsBehind size lists last) {j k : ℕ}
    (hjk : j ≤ k) (hk : k ≤ last) (hrank : rank x (lists j) < (j + 1) * size) :
    rank x (lists k) = rank x (lists j) := by
  obtain ⟨rest, rfl⟩ := Nat.exists_eq_add_of_le hjk
  induction rest with
  | zero => rfl
  | succ rest ih =>
      have hprev := ih (by omega) (by omega)
      have hmono : (j + 1) * size ≤ (j + rest + 1) * size := Nat.mul_le_mul_right _ (by omega)
      have hnext : rank x (lists (j + rest + 1)) = rank x (lists (j + rest)) :=
        rank_succ_eq h hbehind (by omega) (by omega)
      exact hnext.trans hprev

/-- No element is taken twice exactly when elements are only added behind those that were taken. -/
theorem nodup_taken_iff (hsize : 0 < size) (h : Growing lists)
    (hfull : ∀ k < last, (k + 1) * size ≤ (lists k).length)
    (hlast : (lists last).length < (last + 1) * size) :
    (taken size lists (last + 1)).Nodup ↔ AddsBehind size lists last := by
  have hpage (k : ℕ) : (page size (k * size) (lists k)).Nodup :=
    ((h.sorted k).imp ne_of_lt).sublist ((List.take_sublist _ _).trans (List.drop_sublist _ _))
  constructor
  · intro hnodup k hk y hy hnew
    by_contra hlt
    rw [Nat.not_le] at hlt
    -- The last element of the page comes after the new one, and is taken again later.
    have hpos : 0 < (k + 1) * size := Nat.mul_pos (Nat.succ_pos k) hsize
    obtain ⟨x, hx, hrank⟩ : ∃ x ∈ lists k, rank x (lists k) + 1 = (k + 1) * size := by
      have hindex : (k + 1) * size - 1 < (lists k).length := by
        have := hfull k hk
        omega
      refine ⟨_, List.getElem_mem hindex, ?_⟩
      rw [rank_getElem (h.sorted k) hindex]
      omega
    have hlater : (k + 1) * size ≤ rank x (lists (k + 1)) := by
      have hyx : y < x := by
        rcases lt_trichotomy y x with hyx | rfl | hxy
        · exact hyx
        · exact absurd hx hnew
        · have := rank_lt_of_lt hx hxy
          omega
      have hraised := rank_lt_rank (h.sorted k) (h.keeps k) hy hnew hyx
      omega
    obtain ⟨later, hle, hlater, hxlater⟩ :=
      mem_page_of_rank h hlast (by omega) (h.keeps k hx) hlater
    have hxpage : x ∈ page size (k * size) (lists k) := by
      rw [mem_page_iff (h.sorted k), Nat.succ_mul] at *
      exact ⟨hx, by omega, by omega⟩
    have hdisjoint := (List.nodup_flatMap.mp hnodup).2
    have hpair := List.pairwise_iff_getElem.mp hdisjoint k later (by simp; omega) (by simp; omega)
      (by omega)
    simp only [List.getElem_range] at hpair
    exact hpair hxpage hxlater
  · intro hbehind
    refine List.nodup_flatMap.mpr ⟨fun k _ => hpage k, ?_⟩
    refine (List.pairwise_lt_range).imp_of_mem (fun {j k} hj hk hjk => ?_)
    intro x hxj hxk
    have hkle : k ≤ last := by
      have := List.mem_range.mp hk
      omega
    obtain ⟨-, -, hupper⟩ := (mem_page_iff (h.sorted j) _ _).mp hxj
    obtain ⟨-, hlower, -⟩ := (mem_page_iff (h.sorted k) _ _).mp hxk
    have hrank := rank_eq_of_le h hbehind hjk.le hkle (by rw [Nat.succ_mul]; exact hupper)
    have hmono : (j + 1) * size ≤ k * size := Nat.mul_le_mul_right _ hjk
    rw [Nat.succ_mul] at hmono
    omega

end OlympusMetrics.OffsetPages
