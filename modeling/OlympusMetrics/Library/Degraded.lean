import OlympusMetrics.Library.CrashRuns
import Mathlib.Data.List.Basic

/-!
Programs over operations that may fail, compared with the same programs when
no operation fails that has an answer.

A judgement relates what a program returns in any run to what another program
returns against the answers themselves. Its rules follow the structure of the
two programs.
-/

namespace OlympusMetrics

namespace Process

variable {Op : Type} {Answer : Op → Type} {E α β γ : Type}

/-- Every operation gives its answer, if it has one, or fails. -/
def OrFails (answer : (op : Op) → Except E (Answer op)) (op : Op) (_ : Unit)
    (r : Except E (Answer op)) (_ : Unit) : Prop :=
  ∀ x, r = .ok x → answer op = .ok x

/-- Every run of `p` returns something that is related to what `q` returns against the answers. -/
def DegradesTo (answer : (op : Op) → Except E (Answer op)) (R : α → β → Prop)
    (p : Process Op Answer E α) (q : Process Op Answer E β) : Prop :=
  Meets (OrFails answer) (fun _ => True) p
    (fun r _ => ∃ out full, r = .ok out ∧ q.eval answer = .ok full ∧ R out full) ()

/-- A run of `p` that returns at all returns something that is related to what `q` returns against
the answers. -/
def StrictTo (answer : (op : Op) → Except E (Answer op)) (R : α → β → Prop)
    (p : Process Op Answer E α) (q : Process Op Answer E β) : Prop :=
  Meets (OrFails answer) (fun _ => True) p
    (fun r _ => ∀ out, r = .ok out → ∃ full, q.eval answer = .ok full ∧ R out full) ()

variable {answer : (op : Op) → Except E (Answer op)}

/-- The answers themselves are among what the operations may give. -/
theorem orFails_answer (op : Op) : OrFails answer op () (answer op) () := fun _ h => h

theorem eval_bind_eq_ok {p : Process Op Answer E α} {f : α → Process Op Answer E β} {y : β} :
    (p >>= f).eval answer = .ok y ↔
      ∃ x, p.eval answer = .ok x ∧ (f x).eval answer = .ok y := by
  rw [eval_bind]
  cases p.eval answer with
  | ok x => simp
  | error e => simp

/-! ### Programs that fail when an operation does -/

section

variable {R : α → β → Prop} {p : Process Op Answer E α} {q : Process Op Answer E β}

theorem strictTo_ret {x : α} {y : β} (h : R x y) :
    StrictTo answer R (.ret x : Process Op Answer E α) (.ret y) := by
  refine ⟨trivial, fun out hout => ?_⟩
  obtain rfl := Except.ok.inj hout
  exact ⟨y, rfl, h⟩

theorem strictTo_throw {e : E} : StrictTo answer R (.throw e : Process Op Answer E α) q :=
  ⟨trivial, fun _ hout => by cases hout⟩

theorem strictTo_await (op : Op) :
    StrictTo answer Eq (.await op : Process Op Answer E (Answer op)) (.await op) := by
  refine meets_await trivial (fun r s' h => ⟨trivial, fun x hr => ?_⟩)
  rw [eval_await]
  exact ⟨x, h x hr, rfl⟩

/-- The related value is the one that the program on the right returns. -/
theorem StrictTo.of_eval (h : StrictTo answer R p q) :
    StrictTo answer (fun out full => R out full ∧ q.eval answer = .ok full) p q := by
  refine h.finally (fun r s _ hr out hout => ?_)
  obtain ⟨full, hfull, hrelated⟩ := hr out hout
  exact ⟨full, hfull, hrelated, hfull⟩

theorem strictTo_bind {α' β' : Type} {R' : α' → β' → Prop} {f : α → Process Op Answer E α'}
    {g : β → Process Op Answer E β'} (hp : StrictTo answer R p q)
    (hf : ∀ out full, R out full → StrictTo answer R' (f out) (g full)) :
    StrictTo answer R' (p >>= f) (q >>= g) := by
  refine meets_bind (hp.finally ?_)
  rintro (e | x) s' _ hx
  · exact fun y hy => by cases hy
  · obtain ⟨full, hfull, hrelated⟩ := hx x rfl
    refine (hf x full hrelated).finally (fun r s'' _ hr y hy => ?_)
    rw [eval_bind, hfull]
    exact hr y hy

end

/-! ### Rules of the judgement -/

section

variable {R : α → β → Prop} {p : Process Op Answer E α} {q : Process Op Answer E β}

theorem DegradesTo.weaken {R' : α → β → Prop} (h : DegradesTo answer R p q)
    (hR : ∀ out full, R out full → R' out full) : DegradesTo answer R' p q := by
  refine h.finally ?_
  rintro r s _ ⟨out, full, hout, hfull, hrelated⟩
  exact ⟨out, full, hout, hfull, hR out full hrelated⟩

/-- The related value is the one that the program on the right returns. -/
theorem DegradesTo.of_eval (h : DegradesTo answer R p q) :
    DegradesTo answer (fun out full => R out full ∧ q.eval answer = .ok full) p q := by
  refine h.finally ?_
  rintro r s _ ⟨out, full, hout, hfull, hrelated⟩
  exact ⟨out, full, hout, hfull, hrelated, hfull⟩

theorem degradesTo_ret {x : α} {y : β} (h : R x y) :
    DegradesTo answer R (.ret x : Process Op Answer E α) (.ret y) :=
  ⟨trivial, x, y, rfl, rfl, h⟩

/-- The program on the right returns: the left one may be run against the answers. -/
theorem DegradesTo.returns (h : DegradesTo answer R p q) :
    ∃ out full, q.eval answer = .ok full ∧ R out full := by
  induction p with
  | ret x =>
      obtain ⟨-, out, full, -, hfull, hrelated⟩ := h
      exact ⟨out, full, hfull, hrelated⟩
  | throw e =>
      obtain ⟨-, out, full, hout, -⟩ := h
      cases hout
  | call op next ih => exact ih (answer op) (h.2 (answer op) () (orFails_answer op))

/-- A program may give up with a value that is related to whatever it could have returned. -/
theorem DegradesTo.giveUp (h : DegradesTo answer R p q) {x : γ} {R' : γ → β → Prop}
    (hx : ∀ out full, R out full → R' x full) : DegradesTo answer R' (.ret x) q := by
  obtain ⟨out, full, hfull, hrelated⟩ := h.returns
  exact ⟨trivial, x, full, rfl, hfull, hx out full hrelated⟩

theorem degradesTo_bind {α' β' : Type} {R' : α' → β' → Prop} {f : α → Process Op Answer E α'}
    {g : β → Process Op Answer E β'} (hp : DegradesTo answer R p q)
    (hf : ∀ out full, R out full → DegradesTo answer R' (f out) (g full)) :
    DegradesTo answer R' (p >>= f) (q >>= g) := by
  refine meets_bind (hp.finally ?_)
  rintro r s _ ⟨out, full, rfl, hfull, hrelated⟩
  refine (hf out full hrelated).finally ?_
  rintro r s _ ⟨out', full', hout', hfull', hrelated'⟩
  refine ⟨out', full', hout', ?_, hrelated'⟩
  rw [eval_bind, hfull]
  exact hfull'

/-- A loop, by one round of it. -/
theorem degradesTo_forEach {f : α → γ → Process Op Answer E α} {g : β → γ → Process Op Answer E β}
    {xs : List γ} (hstep : ∀ out full, ∀ x ∈ xs, R out full →
      DegradesTo answer R (f out x) (g full x)) {out : α} {full : β} (h : R out full) :
    DegradesTo answer R (forEach f xs out) (forEach g xs full) := by
  induction xs generalizing out full with
  | nil => exact degradesTo_ret h
  | cons x xs ih =>
      refine degradesTo_bind (hstep out full x List.mem_cons_self h) (fun out' full' h' => ?_)
      exact ih (fun out full y hy => hstep out full y (List.mem_cons_of_mem x hy)) h'

end

/-! ### Guarded programs -/

/-- `try { … } catch { … }` with a value for the case of an error. -/
def catching (p : Process Op Answer E α) (fallback : α) : Process Op Answer E α :=
  p.tryCatch (fun _ => .ret fallback)

/-- A guarded program returns what its body returns, or its fallback. -/
theorem degradesTo_catching {R : α → β → Prop} {p : Process Op Answer E α}
    {q : Process Op Answer E β} (hp : StrictTo answer R p q) {fallback : α} {fallback' : β}
    (hskip : ∀ e, q.eval answer = .error e → R fallback fallback')
    (hfail : ∀ full, q.eval answer = .ok full → R fallback full) :
    DegradesTo answer R (p.catching fallback) (q.catching fallback') := by
  have heval : ∃ full, (q.catching fallback').eval answer = .ok full ∧ R fallback full ∧
      ∀ y, q.eval answer = .ok y → full = y := by
    unfold catching
    rw [eval_tryCatch]
    cases hq : q.eval answer with
    | ok y => exact ⟨y, rfl, hfail y hq, fun y' hy' => Except.ok.inj hy'⟩
    | error e => exact ⟨fallback', rfl, hskip e hq, fun y hy => by cases hy⟩
  obtain ⟨full, hfull, hfallback, hvalue⟩ := heval
  refine meets_tryCatch (hp.finally ?_)
  rintro (e | x) s _ hx
  · exact ⟨trivial, fallback, full, rfl, hfull, hfallback⟩
  · obtain ⟨y, hy, hrelated⟩ := hx x rfl
    exact ⟨x, full, rfl, hfull, (hvalue y hy) ▸ hrelated⟩

theorem meets_attempt_result {p : Process Op Answer E α}
    {post : Except E α → Prop} (h : Meets (OrFails answer) (fun _ => True) p (fun r _ => post r) ()) :
    Meets (OrFails answer) (fun _ => True) p.attempt (fun r _ => ∃ out, r = .ok out ∧ post out)
      () := by
  induction p with
  | ret x => exact ⟨trivial, .ok x, rfl, h.2⟩
  | throw e => exact ⟨trivial, .error e, rfl, h.2⟩
  | call op next ih => exact ⟨trivial, fun r s' hop => ih r (h.2 r s' hop)⟩

/-- The result of a program as a value: an error, or what it returns against the answers. -/
theorem degradesTo_attempt {p : Process Op Answer E α} (hp : StrictTo answer Eq p p) :
    DegradesTo answer (fun out full => (∃ e, out = .error e) ∨ out = full) p.attempt p.attempt := by
  refine (meets_attempt_result hp).finally ?_
  rintro r s _ ⟨out, rfl, hout⟩
  refine ⟨out, p.eval answer, rfl, eval_attempt p, ?_⟩
  cases out with
  | error e => exact Or.inl ⟨e, rfl⟩
  | ok x =>
      obtain ⟨full, hfull, rfl⟩ := hout x rfl
      exact Or.inr hfull.symm

end Process

end OlympusMetrics
