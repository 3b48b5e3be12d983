import Mathlib.Data.List.Basic

/-!
Identifiers built by joining components with a slash.

A component that contains no slash can be read back from the joined text, from
the front or from the back, so joining slash-free components is injective.
-/

namespace OlympusMetrics.SlashPath

/-- The text contains no separator. -/
def SlashFree (s : String) : Prop := '/' ∉ s.toList

instance (s : String) : Decidable (SlashFree s) :=
  inferInstanceAs (Decidable ('/' ∉ s.toList))

theorem SlashFree.append {s t : String} (hs : SlashFree s) (ht : SlashFree t) :
    SlashFree (s ++ t) := by
  intro h
  rw [String.toList_append, List.mem_append] at h
  exact h.elim hs ht

/-- Decimal digits contain no separator. -/
theorem slashFree_toString (n : ℕ) : SlashFree (toString n) := by
  intro h
  rw [Nat.toString_eq_repr, Nat.toList_repr] at h
  have hd := Nat.isDigit_of_mem_toDigits (by decide) (by decide) h
  exact absurd hd (by decide)

theorem toString_injective {m n : ℕ} (h : toString m = toString n) : m = n := by
  rw [Nat.toString_eq_repr, Nat.toString_eq_repr] at h
  have hdigits := congrArg (fun s => Nat.ofDigitChars 10 s.toList 0) h
  simpa only [Nat.toList_repr, Nat.ofDigitChars_ten_toDigits] using hdigits

/-- The first occurrence of a separator splits a list in one way only. -/
theorem append_cons_inj_of_notMem_of_notMem {α : Type*} {c : α} {xs ys s t : List α}
    (hx : c ∉ xs) (hy : c ∉ ys) (h : xs ++ c :: s = ys ++ c :: t) : xs = ys ∧ s = t := by
  induction xs generalizing ys with
  | nil =>
      cases ys with
      | nil => exact ⟨rfl, List.tail_eq_of_cons_eq h⟩
      | cons y ys => exact absurd (List.head_eq_of_cons_eq h) (fun e => hy (e ▸ List.mem_cons_self))
  | cons x xs ih =>
      cases ys with
      | nil => exact absurd (List.head_eq_of_cons_eq h) (fun e => hx (e ▸ List.mem_cons_self))
      | cons y ys =>
          have hrest := ih (fun hmem => hx (List.mem_cons_of_mem _ hmem))
            (fun hmem => hy (List.mem_cons_of_mem _ hmem)) (List.tail_eq_of_cons_eq h)
          exact ⟨congrArg₂ _ (List.head_eq_of_cons_eq h) hrest.1, hrest.2⟩

/-- The text `s`, a separator and the text `t`. -/
def join (s t : String) : String := s ++ "/" ++ t

theorem toList_join (s t : String) : (join s t).toList = s.toList ++ '/' :: t.toList := by
  simp [join, String.toList_append]

/-- A slash-free first component is determined by the joined text, and so is the rest. -/
theorem join_inj_first {a b s t : String} (ha : SlashFree a) (hb : SlashFree b)
    (h : join a s = join b t) : a = b ∧ s = t := by
  have hlist := congrArg String.toList h
  rw [toList_join, toList_join] at hlist
  have hparts := append_cons_inj_of_notMem_of_notMem ha hb hlist
  exact ⟨String.toList_inj.mp hparts.1, String.toList_inj.mp hparts.2⟩

/-- A slash-free last component is determined by the joined text, and so is what precedes it. -/
theorem join_inj_last {a b s t : String} (hs : SlashFree s) (ht : SlashFree t)
    (h : join a s = join b t) : a = b ∧ s = t := by
  have hlist := congrArg (List.reverse ∘ String.toList) h
  simp only [Function.comp, toList_join, List.reverse_append, List.reverse_cons,
    List.append_assoc, List.singleton_append] at hlist
  have hs' : '/' ∉ s.toList.reverse := fun hmem => hs (List.mem_reverse.mp hmem)
  have ht' : '/' ∉ t.toList.reverse := fun hmem => ht (List.mem_reverse.mp hmem)
  have hparts := append_cons_inj_of_notMem_of_notMem hs' ht' hlist
  exact ⟨String.toList_inj.mp (List.reverse_injective hparts.2),
    String.toList_inj.mp (List.reverse_injective hparts.1)⟩

end OlympusMetrics.SlashPath
