import Mathlib.Data.List.Basic
import Mathlib.Data.List.Nodup
import Mathlib.Logic.Function.Basic

/-!
An ambient value that operations install when they start and restore when they
settle.

Each operation remembers what was installed before it. While operations settle in
the reverse order of their starts, the installed one is the innermost.
-/

namespace OlympusMetrics.AmbientScopes

variable {Op : Type} [DecidableEq Op]

/-- The installed operation and what each operation remembers. The list of those running, the
latest first, is bookkeeping only. -/
structure Scopes (Op : Type) where
  active : Option Op
  previous : Op → Option Op
  running : List Op

def Scopes.none : Scopes Op := ⟨.none, fun _ => .none, []⟩

namespace Scopes

variable (s : Scopes Op) (op : Op)

def enter : Scopes Op where
  active := some op
  previous := Function.update s.previous op s.active
  running := op :: s.running

def exit : Scopes Op where
  active := s.previous op
  previous := s.previous
  running := s.running.erase op

omit [DecidableEq Op] in
@[simp] theorem running_none : (none : Scopes Op).running = [] := rfl

@[simp] theorem active_enter : (s.enter op).active = some op := rfl

@[simp] theorem running_enter : (s.enter op).running = op :: s.running := rfl

@[simp] theorem active_exit : (s.exit op).active = s.previous op := rfl

@[simp] theorem running_exit : (s.exit op).running = s.running.erase op := rfl

end Scopes

/-- Every operation of a stack remembers the one below it. -/
def Linked (previous : Op → Option Op) : List Op → Prop
  | [] => True
  | op :: rest => previous op = rest.head? ∧ Linked previous rest

theorem Linked.update {previous : Op → Option Op} {ops : List Op} (h : Linked previous ops)
    {op : Op} (hop : op ∉ ops) (value : Option Op) :
    Linked (Function.update previous op value) ops := by
  induction ops with
  | nil => trivial
  | cons first rest ih =>
      rw [List.mem_cons, not_or] at hop
      refine ⟨?_, ih h.2 hop.2⟩
      rw [Function.update_of_ne (Ne.symm hop.1)]
      exact h.1

/-- The running operations form a stack with the installed one on top. -/
structure Stacked (s : Scopes Op) : Prop where
  nodup : s.running.Nodup
  active : s.active = s.running.head?
  linked : Linked s.previous s.running

omit [DecidableEq Op] in
theorem stacked_none : Stacked (.none : Scopes Op) :=
  ⟨List.nodup_nil, rfl, trivial⟩

variable {s : Scopes Op} {op : Op}

theorem Stacked.enter (h : Stacked s) (hop : op ∉ s.running) : Stacked (s.enter op) where
  nodup := List.nodup_cons.mpr ⟨hop, h.nodup⟩
  active := rfl
  linked := by
    refine ⟨?_, h.linked.update hop _⟩
    show Function.update s.previous op s.active op = s.running.head?
    rw [Function.update_self]
    exact h.active

/-- The innermost operation leaves the one below it installed. -/
theorem Stacked.exit (h : Stacked s) (hop : s.running.head? = some op) : Stacked (s.exit op) := by
  obtain ⟨rest, hrunning⟩ := List.head?_eq_some_iff.mp hop
  have hnodup := h.nodup
  have hlinked := h.linked
  rw [hrunning] at hnodup hlinked
  have herase : (s.exit op).running = rest := by
    simp [hrunning]
  refine ⟨?_, ?_, ?_⟩
  · rw [herase]
    exact hnodup.of_cons
  · rw [herase]
    exact hlinked.1
  · rw [herase]
    exact hlinked.2

omit [DecidableEq Op] in
/-- An operation that is not innermost never remembers the innermost one. -/
theorem Linked.previous_ne {previous : Op → Option Op} {top : Op} {rest : List Op}
    (h : Linked previous (top :: rest)) (hnodup : (top :: rest).Nodup) (hop : op ∈ rest) :
    previous op ≠ some top := by
  have htop : top ∉ rest := (List.nodup_cons.mp hnodup).1
  have hbelow (ops : List Op) (hlinked : Linked previous ops) (hmem : op ∈ ops) :
      ∀ below, previous op = some below → below ∈ ops := by
    induction ops with
    | nil => exact absurd hmem List.not_mem_nil
    | cons first ops ih =>
        intro below hprevious
        rcases List.mem_cons.mp hmem with rfl | hmem
        · rw [hlinked.1] at hprevious
          exact List.mem_cons_of_mem _ (List.mem_of_mem_head? hprevious)
        · exact List.mem_cons_of_mem _ (ih hlinked.2 hmem below hprevious)
  intro heq
  exact htop (hbelow rest h.2 hop top heq)

/-- When another operation settles first, the innermost one is not installed any more. -/
theorem Stacked.active_exit_ne (h : Stacked s) {top : Op} (htop : s.running.head? = some top)
    (hop : op ∈ s.running) (hne : op ≠ top) :
    (s.exit op).running.head? = some top ∧ (s.exit op).active ≠ some top := by
  obtain ⟨rest, hrunning⟩ := List.head?_eq_some_iff.mp htop
  have hnodup := h.nodup
  have hlinked := h.linked
  rw [hrunning] at hnodup hlinked hop
  have hrest : op ∈ rest := (List.mem_cons.mp hop).resolve_left hne
  refine ⟨?_, hlinked.previous_ne hnodup hrest⟩
  rw [Scopes.running_exit, hrunning, List.erase_cons_tail (by simpa using hne.symm)]
  rfl

end OlympusMetrics.AmbientScopes
