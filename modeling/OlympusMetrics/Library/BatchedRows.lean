import Mathlib.Data.List.Induction
import OlympusMetrics.Library.EntityTable

/-!
Tables that are written in batches.

Every row has a tag, and rows with one id have one tag. A batch whose rows have a
tag of their own then leaves the rows of all other tags as they are.
-/

namespace OlympusMetrics.EntityTable

variable {V K T : Type*} [DecidableEq K] {id : V → K}

/-- Storing a batch drops the rows with its ids and adds what the batch leaves of itself. -/
theorem rows_setAll (t : EntityTable id) (vs : List V) :
    (t.setAll vs).rows =
      t.rows.filter (fun w => id w ∉ vs.map id) ++ ((∅ : EntityTable id).setAll vs).rows := by
  induction vs using List.reverseRecOn with
  | nil => simp
  | append_singleton vs v ih =>
      have hstep (u : EntityTable id) : u.setAll (vs ++ [v]) = (u.setAll vs).set v := by
        rw [setAll, List.foldl_append]
        rfl
      rw [hstep, hstep, rows_set, rows_set, ih, List.filter_append, List.filter_filter,
        List.append_assoc]
      congr 1
      apply List.filter_congr
      intro w _
      simp only [List.map_append, List.map_singleton, List.mem_append, List.mem_singleton, not_or,
        ne_eq, decide_not, Bool.decide_and, Bool.and_comm]

section

variable [DecidableEq T] {tag : V → T} {t : EntityTable id} {vs : List V} {target : T}

/-- A batch of other tags leaves the rows of a tag as they are. -/
theorem filter_setAll_of_ne (hids : ∀ w ∈ t.rows, ∀ v ∈ vs, id w = id v → tag w = tag v)
    (h : ∀ v ∈ vs, tag v ≠ target) :
    (t.setAll vs).rows.filter (fun w => tag w = target) =
      t.rows.filter (fun w => tag w = target) := by
  have hnone : ((∅ : EntityTable id).setAll vs).rows.filter (fun w => tag w = target) = [] := by
    refine List.filter_eq_nil_iff.mpr (fun w hw => ?_)
    rcases mem_rows_setAll_of_id hw with hw | hw
    · simpa using h w hw
    · cases hw
  rw [rows_setAll, List.filter_append, hnone, List.append_nil, List.filter_filter]
  apply List.filter_congr
  intro w hw
  rw [Bool.eq_iff_iff]
  simp only [Bool.and_eq_true, decide_eq_true_eq, and_iff_left_iff_imp]
  intro htag hmem
  obtain ⟨v, hv, hid⟩ := List.mem_map.mp hmem
  exact h v hv ((hids w hw v hv hid.symm).symm.trans htag)

/-- The first batch of a tag is what the table holds of the tag. -/
theorem filter_setAll_of_first (h : ∀ v ∈ vs, tag v = target)
    (hfirst : ∀ w ∈ t.rows, tag w ≠ target) :
    (t.setAll vs).rows.filter (fun w => tag w = target) =
      ((∅ : EntityTable id).setAll vs).rows := by
  rw [rows_setAll, List.filter_append]
  have hnone : (t.rows.filter (fun w => id w ∉ vs.map id)).filter (fun w => tag w = target) = [] :=
    List.filter_eq_nil_iff.mpr (fun w hw => by simpa using hfirst w (List.mem_of_mem_filter hw))
  rw [hnone, List.nil_append]
  refine List.filter_eq_self.mpr (fun w hw => decide_eq_true ?_)
  rcases mem_rows_setAll_of_id hw with hw | hw
  · exact h w hw
  · cases hw

end

end OlympusMetrics.EntityTable
