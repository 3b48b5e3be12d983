import Mathlib.Data.List.Induction
import Mathlib.Tactic.Push

/-!
The running choice of a best element, in which a later element replaces the one
chosen so far unless that one beats it.

Elements may be incomparable: they beat nothing and nothing beats them, so they
replace what was chosen and are replaced in turn.
-/

namespace OlympusMetrics.LastBest

variable {α : Type} {beats : α → α → Bool} {comparable : α → Prop}

/-- `beats` ranks the comparable elements. -/
structure Ranks (beats : α → α → Bool) (comparable : α → Prop) : Prop where
  comparable_left : ∀ {x y}, beats x y = true → comparable x
  comparable_right : ∀ {x y}, beats x y = true → comparable y
  asymm : ∀ {x y}, beats x y = true → beats y x = false
  cotrans : ∀ {x y z}, beats x z = true → comparable y → beats x y = false → beats y z = true

/-- What is chosen after one more element. -/
def keep (beats : α → α → Bool) (chosen : Option α) (x : α) : Option α :=
  match chosen with
  | none => some x
  | some best => if beats best x then some best else some x

/-- The element chosen from a list. -/
def lastBest (beats : α → α → Bool) (xs : List α) : Option α := xs.foldl (keep beats) none

@[simp] theorem lastBest_nil : lastBest beats [] = none := rfl

theorem lastBest_append_singleton (xs : List α) (x : α) :
    lastBest beats (xs ++ [x]) = keep beats (lastBest beats xs) x := by
  simp [lastBest]

theorem lastBest_append (xs ys : List α) :
    lastBest beats (xs ++ ys) = ys.foldl (keep beats) (lastBest beats xs) :=
  List.foldl_append

theorem keep_cases (chosen : Option α) (x : α) :
    keep beats chosen x = some x ∨ ∃ best, chosen = some best ∧ beats best x = true ∧
      keep beats chosen x = some best := by
  cases chosen with
  | none => exact Or.inl rfl
  | some best =>
      cases hbeats : beats best x with
      | true => exact Or.inr ⟨best, rfl, hbeats, by simp [keep, hbeats]⟩
      | false => exact Or.inl (by simp [keep, hbeats])

theorem foldl_keep_mem {xs : List α} {chosen : Option α} {best : α}
    (h : xs.foldl (keep beats) chosen = some best) : best ∈ xs ∨ chosen = some best := by
  induction xs generalizing chosen with
  | nil => exact Or.inr h
  | cons x xs ih =>
      rcases ih h with hmem | hkeep
      · exact Or.inl (List.mem_cons_of_mem x hmem)
      · rcases @keep_cases α beats chosen x with hx | ⟨other, hother, -, hbest⟩
        · rw [hx] at hkeep
          exact Or.inl (Option.some.inj hkeep ▸ List.mem_cons_self)
        · rw [hbest] at hkeep
          exact Or.inr (hother.trans hkeep)

theorem lastBest_mem {xs : List α} {best : α} (h : lastBest beats xs = some best) : best ∈ xs :=
  (foldl_keep_mem h).resolve_right (fun hnone => nomatch hnone)

theorem lastBest_eq_none_iff {xs : List α} : lastBest beats xs = none ↔ xs = [] := by
  induction xs using List.reverseRecOn with
  | nil => simp
  | append_singleton xs x =>
      rw [lastBest_append_singleton]
      rcases @keep_cases α beats (lastBest beats xs) x with h | ⟨best, -, -, h⟩ <;> simp [h]

/-- A chosen element that is nowhere later stays exactly as long as it beats what comes. -/
theorem foldl_keep_some_iff {xs : List α} {x : α} (h : x ∉ xs) :
    xs.foldl (keep beats) (some x) = some x ↔ ∀ y ∈ xs, beats x y = true := by
  induction xs with
  | nil => simp
  | cons y xs ih =>
      simp only [List.mem_cons, not_or] at h
      rw [List.foldl_cons, List.forall_mem_cons]
      cases hbeats : beats x y with
      | true =>
          have hkeep : keep beats (some x) y = some x := by simp [keep, hbeats]
          rw [hkeep, ih h.2]
          simp
      | false =>
          have hkeep : keep beats (some x) y = some y := by simp [keep, hbeats]
          simp only [hkeep, Bool.false_eq_true, false_and, iff_false]
          intro hfinal
          rcases foldl_keep_mem hfinal with hmem | heq
          · exact h.2 hmem
          · exact h.1 (Option.some.inj heq).symm

theorem exists_last_incomparable {xs : List α} {x : α} (hx : x ∈ xs) (h : ¬ comparable x) :
    ∃ early z late, xs = early ++ z :: late ∧ ¬ comparable z ∧ ∀ y ∈ late, comparable y := by
  induction xs using List.reverseRecOn with
  | nil => exact absurd hx List.not_mem_nil
  | append_singleton xs y ih =>
      by_cases hy : comparable y
      · rcases List.mem_append.mp hx with hx | hx
        · obtain ⟨early, z, late, rfl, hz, hlate⟩ := ih hx
          refine ⟨early, z, late ++ [y], by simp, hz, fun z' hz' => ?_⟩
          rcases List.mem_append.mp hz' with hz' | hz'
          · exact hlate z' hz'
          · exact List.mem_singleton.mp hz' ▸ hy
        · exact absurd (List.mem_singleton.mp hx ▸ hy) h
      · exact ⟨xs, y, [], rfl, hy, by simp⟩

section ranks

variable (hranks : Ranks beats comparable)
include hranks

/-- The choice beats `z` exactly when an element does after which everything is comparable. -/
theorem lastBest_beats_iff {xs : List α} {z : α} :
    (∃ best, lastBest beats xs = some best ∧ beats best z = true) ↔
      ∃ early x late, xs = early ++ x :: late ∧ beats x z = true ∧ ∀ y ∈ late, comparable y := by
  induction xs using List.reverseRecOn with
  | nil => simp
  | append_singleton xs y ih =>
      rw [lastBest_append_singleton]
      constructor
      · rintro ⟨best, hbest, hbeats⟩
        rcases @keep_cases α beats (lastBest beats xs) y with hy | ⟨other, hother, hkept, heq⟩
        · rw [hy] at hbest
          obtain rfl := Option.some.inj hbest
          exact ⟨xs, y, [], rfl, hbeats, by simp⟩
        · rw [heq] at hbest
          obtain rfl := Option.some.inj hbest
          obtain ⟨early, x, late, rfl, hx, hlate⟩ := ih.mp ⟨other, hother, hbeats⟩
          refine ⟨early, x, late ++ [y], by simp, hx, fun z' hz' => ?_⟩
          rcases List.mem_append.mp hz' with hz' | hz'
          · exact hlate z' hz'
          · exact List.mem_singleton.mp hz' ▸ hranks.comparable_right hkept
      · rintro ⟨early, x, late, heq, hx, hlate⟩
        rcases List.eq_nil_or_concat late with rfl | ⟨late', last, rfl⟩
        · obtain ⟨rfl, hlast⟩ := List.append_inj' heq rfl
          obtain rfl := List.singleton_inj.mp hlast
          rcases @keep_cases α beats (lastBest beats xs) y with hy | ⟨best, hbest, hkept, hbest'⟩
          · exact ⟨y, hy, hx⟩
          · refine ⟨best, hbest', ?_⟩
            by_contra hnot
            have hyx := hranks.cotrans hx (hranks.comparable_left hkept)
            cases hyb : beats y best with
            | true => exact absurd (hranks.asymm hyb) (by simp [hkept])
            | false => exact hnot (hyx hyb)
        · simp only [List.concat_eq_append] at heq hlate
          rw [← List.cons_append, ← List.append_assoc] at heq
          obtain ⟨rfl, hlast⟩ := List.append_inj' heq rfl
          obtain rfl := List.singleton_inj.mp hlast
          have hcomparable : comparable y := hlate y (by simp)
          obtain ⟨best, hbest, hbeats⟩ := ih.mpr
            ⟨early, x, late', rfl, hx, fun z' hz' => hlate z' (by simp [hz'])⟩
          rw [hbest]
          cases hkept : beats best y with
          | true => exact ⟨best, by simp [keep, hkept], hbeats⟩
          | false => exact ⟨y, by simp [keep, hkept], hranks.cotrans hbeats hcomparable hkept⟩

/-- An element that occurs once is chosen exactly when it beats everything later, and everything
earlier that beats it comes before an incomparable element. -/
theorem lastBest_eq_iff {before after : List α} {x : α} (hbefore : x ∉ before) (hafter : x ∉ after) :
    lastBest beats (before ++ x :: after) = some x ↔ (∀ y ∈ after, beats x y = true) ∧
      ∀ early y late, before = early ++ y :: late → beats y x = true →
        ∃ z ∈ late, ¬ comparable z := by
  rw [lastBest_append, List.foldl_cons]
  have hbeaten := @lastBest_beats_iff α beats comparable hranks before x
  rcases @keep_cases α beats (lastBest beats before) x with hx | ⟨best, hbest, hbeats, hkept⟩
  · rw [hx, foldl_keep_some_iff hafter]
    refine ⟨fun h => ⟨h, fun early y late heq hy => ?_⟩, fun h => h.1⟩
    by_contra hnone
    push Not at hnone
    obtain ⟨best, hbest, hbeats⟩ := hbeaten.mpr ⟨early, y, late, heq, hy, hnone⟩
    rw [hbest] at hx
    simp only [keep, hbeats, if_true, Option.some.injEq] at hx
    exact hbefore (hx ▸ lastBest_mem hbest)
  · rw [hkept]
    constructor
    · intro hfinal
      rcases foldl_keep_mem hfinal with hmem | heq
      · exact absurd hmem hafter
      · exact absurd (Option.some.inj heq ▸ lastBest_mem hbest) hbefore
    · rintro ⟨-, hearlier⟩
      obtain ⟨early, y, late, heq, hy, hlate⟩ := hbeaten.mp ⟨best, hbest, hbeats⟩
      obtain ⟨z, hz, hnot⟩ := hearlier early y late heq hy
      exact absurd (hlate z hz) hnot

/-- Nothing beats the choice where what it comes from is comparable. -/
theorem lastBest_unbeaten {xs : List α} {best : α} (h : lastBest beats xs = some best)
    (hcomparable : ∀ x ∈ xs, comparable x) : ∀ x ∈ xs, beats x best = false := by
  intro x hx
  by_contra hbeats
  rw [Bool.not_eq_false] at hbeats
  obtain ⟨early, late, rfl⟩ := List.append_of_mem hx
  obtain ⟨best', hbest', hbeats'⟩ := (lastBest_beats_iff hranks).mpr
    ⟨early, x, late, rfl, hbeats, fun y hy => hcomparable y (by simp [hy])⟩
  obtain rfl := Option.some.inj (h.symm.trans hbest')
  exact absurd (hranks.asymm hbeats') (by simp [hbeats'])

theorem keep_of_incomparable (chosen : Option α) {x : α} (h : ¬ comparable x) :
    keep beats chosen x = some x := by
  rcases @keep_cases α beats chosen x with hx | ⟨best, -, hbeats, -⟩
  · exact hx
  · exact absurd (hranks.comparable_right hbeats) h

/-- An incomparable element hides what comes before it. -/
theorem lastBest_incomparable {early late : List α} {x : α} (h : ¬ comparable x) (hlate : late ≠ []) :
    lastBest beats (early ++ x :: late) = lastBest beats late := by
  obtain ⟨y, late, rfl⟩ := List.exists_cons_of_ne_nil hlate
  have hxy : beats x y = false := by
    by_contra hbeats
    exact h (hranks.comparable_left (Bool.not_eq_false _ ▸ hbeats))
  rw [lastBest_append, List.foldl_cons, keep_of_incomparable hranks _ h, List.foldl_cons]
  simp [lastBest, keep, hxy]

/-- Nothing beats the choice exactly when, behind the last incomparable element, there is something
that no earlier element beats. -/
theorem unbeaten_iff {xs : List α} :
    (∀ best, lastBest beats xs = some best → ∀ x ∈ xs, beats x best = false) ↔
      ∀ early z late, xs = early ++ z :: late → ¬ comparable z → late ≠ [] →
        (∀ y ∈ late, comparable y) → ∀ x ∈ early, ∃ y ∈ late, beats x y = false := by
  constructor
  · rintro h early z late rfl hz hlate - x hx
    have hsome : lastBest beats late ≠ none := fun hnone => hlate (lastBest_eq_none_iff.mp hnone)
    obtain ⟨best, hbest⟩ := Option.ne_none_iff_exists'.mp hsome
    refine ⟨best, lastBest_mem hbest, h best ?_ x (by simp [hx])⟩
    rw [lastBest_incomparable hranks hz hlate, hbest]
  · intro h best hbest x hx
    by_cases hall : ∀ y ∈ xs, comparable y
    · exact lastBest_unbeaten hranks hbest hall x hx
    · push Not at hall
      obtain ⟨w, hw, hnot⟩ := hall
      obtain ⟨early, z, late, rfl, hz, hlate⟩ := exists_last_incomparable hw hnot
      by_cases hnil : late = []
      · -- the incomparable element is the choice
        subst hnil
        rw [lastBest_append_singleton, keep_of_incomparable hranks _ hz] at hbest
        obtain rfl := Option.some.inj hbest
        by_contra hbeats
        exact hz (hranks.comparable_right (Bool.not_eq_false _ ▸ hbeats))
      · rw [lastBest_incomparable hranks hz hnil] at hbest
        have hunbeaten := lastBest_unbeaten hranks hbest hlate
        rcases List.mem_append.mp hx with hx | hx
        · obtain ⟨y, hy, hxy⟩ := h early z late rfl hz hnil hlate x hx
          by_contra hbeats
          rw [Bool.not_eq_false] at hbeats
          exact absurd (hranks.cotrans hbeats (hlate y hy) hxy) (by simp [hunbeaten y hy])
        · rcases List.mem_cons.mp hx with rfl | hx
          · by_contra hbeats
            exact hz (hranks.comparable_left (Bool.not_eq_false _ ▸ hbeats))
          · exact hunbeaten x hx

end ranks

end OlympusMetrics.LastBest
