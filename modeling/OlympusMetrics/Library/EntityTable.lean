import Mathlib.Data.List.Nodup
import Mathlib.Data.List.Perm.Basic

/-!
Tables of entities that are stored under an id computed from the entity.

A table never holds two rows with one id: storing a row replaces the row that
had its id before.
-/

namespace OlympusMetrics

variable {V K : Type*}

structure EntityTable (id : V → K) where
  rows : List V
  nodup_ids : (rows.map id).Nodup

namespace EntityTable

variable {id : V → K}

instance : EmptyCollection (EntityTable id) := ⟨⟨[], List.nodup_nil⟩⟩

@[simp] theorem rows_empty : (∅ : EntityTable id).rows = [] := rfl

@[ext] theorem ext {t u : EntityTable id} (h : t.rows = u.rows) : t = u := by
  cases t
  cases u
  simp_all

/-- Rows with one id are one row. -/
theorem eq_of_mem_of_id_eq {t : EntityTable id} {v w : V} (hv : v ∈ t.rows) (hw : w ∈ t.rows)
    (h : id v = id w) : v = w :=
  List.inj_on_of_nodup_map t.nodup_ids hv hw h

variable [DecidableEq K]

/-- The row stored under `k`. -/
def get (t : EntityTable id) (k : K) : Option V := t.rows.find? (fun v => id v = k)

/-- Stores `v` in place of the row that had its id. -/
def set (t : EntityTable id) (v : V) : EntityTable id where
  rows := t.rows.filter (fun w => id w ≠ id v) ++ [v]
  nodup_ids := by
    rw [List.map_append, List.nodup_append]
    refine ⟨(t.nodup_ids.sublist (List.filter_sublist.map id)), List.nodup_singleton _, ?_⟩
    intro k hk l hl
    obtain ⟨w, hw, rfl⟩ := List.mem_map.mp hk
    obtain rfl : l = id v := by simpa using hl
    exact of_decide_eq_true (List.mem_filter.mp hw).2

/-- Stores the rows of a list one after another. -/
def setAll (t : EntityTable id) (vs : List V) : EntityTable id := vs.foldl set t

@[simp] theorem get_empty (k : K) : (∅ : EntityTable id).get k = none := rfl

theorem rows_set (t : EntityTable id) (v : V) :
    (t.set v).rows = t.rows.filter (fun w => id w ≠ id v) ++ [v] := rfl

@[simp] theorem setAll_nil (t : EntityTable id) : t.setAll [] = t := rfl

@[simp] theorem setAll_cons (t : EntityTable id) (v : V) (vs : List V) :
    t.setAll (v :: vs) = (t.set v).setAll vs := rfl

theorem mem_rows_set {t : EntityTable id} {v w : V} :
    w ∈ (t.set v).rows ↔ w = v ∨ w ∈ t.rows ∧ id w ≠ id v := by
  simp only [rows_set, List.mem_append, List.mem_filter, List.mem_singleton, decide_eq_true_eq]
  exact or_comm

theorem get_eq_some_iff {t : EntityTable id} {k : K} {v : V} :
    t.get k = some v ↔ v ∈ t.rows ∧ id v = k := by
  constructor
  · intro h
    exact ⟨List.mem_of_find?_eq_some h, by simpa using List.find?_some h⟩
  · rintro ⟨hmem, rfl⟩
    cases hfind : t.get (id v) with
    | none =>
        have hne := List.find?_eq_none.mp hfind v hmem
        exact absurd (decide_eq_true rfl) hne
    | some w =>
        have hw : w ∈ t.rows := List.mem_of_find?_eq_some hfind
        have hid : id w = id v := by simpa using List.find?_some hfind
        rw [eq_of_mem_of_id_eq hw hmem hid]

theorem get_eq_none_iff {t : EntityTable id} {k : K} :
    t.get k = none ↔ ∀ v ∈ t.rows, id v ≠ k := by
  simp [get, List.find?_eq_none]

theorem get_set_self (t : EntityTable id) (v : V) : (t.set v).get (id v) = some v :=
  get_eq_some_iff.mpr ⟨mem_rows_set.mpr (Or.inl rfl), rfl⟩

theorem get_set_of_ne (t : EntityTable id) {v : V} {k : K} (h : k ≠ id v) :
    (t.set v).get k = t.get k := by
  cases hget : t.get k with
  | none =>
      rw [get_eq_none_iff] at hget ⊢
      intro w hw
      rcases mem_rows_set.mp hw with rfl | ⟨hw, -⟩
      · exact Ne.symm h
      · exact hget w hw
  | some w =>
      obtain ⟨hmem, rfl⟩ := get_eq_some_iff.mp hget
      exact get_eq_some_iff.mpr ⟨mem_rows_set.mpr (Or.inr ⟨hmem, h⟩), rfl⟩

theorem get_set (t : EntityTable id) (v : V) (k : K) :
    (t.set v).get k = if k = id v then some v else t.get k := by
  split
  · next h => rw [h, get_set_self]
  · next h => exact get_set_of_ne t h

theorem get_setAll_of_not_mem (t : EntityTable id) (vs : List V) {k : K}
    (h : k ∉ vs.map id) : (t.setAll vs).get k = t.get k := by
  induction vs generalizing t with
  | nil => rfl
  | cons v vs ih =>
      rw [List.map_cons, List.mem_cons, not_or] at h
      rw [setAll_cons, ih _ h.2, get_set_of_ne t h.1]

/-- Among rows with distinct ids, every stored row can be read back. -/
theorem get_setAll_of_mem (t : EntityTable id) {vs : List V} (hnodup : (vs.map id).Nodup) {v : V}
    (hv : v ∈ vs) : (t.setAll vs).get (id v) = some v := by
  induction vs generalizing t with
  | nil => exact absurd hv List.not_mem_nil
  | cons w vs ih =>
      rw [List.map_cons, List.nodup_cons] at hnodup
      rw [setAll_cons]
      rcases List.mem_cons.mp hv with rfl | hv
      · rw [get_setAll_of_not_mem _ _ hnodup.1, get_set_self]
      · exact ih _ hnodup.2 hv

theorem mem_rows_setAll_of_id {t : EntityTable id} {vs : List V} {w : V}
    (hw : w ∈ (t.setAll vs).rows) : w ∈ vs ∨ w ∈ t.rows := by
  induction vs generalizing t with
  | nil => exact Or.inr hw
  | cons v vs ih =>
      rcases ih hw with hw | hw
      · exact Or.inl (List.mem_cons_of_mem _ hw)
      · rcases mem_rows_set.mp hw with rfl | ⟨hw, -⟩
        · exact Or.inl List.mem_cons_self
        · exact Or.inr hw

end EntityTable

end OlympusMetrics
