import OlympusMetrics.Library.FixedAnswers

/-!
Two programs that call corresponding operations in the same order.

When corresponding operations answer alike, the programs end alike, whatever is
done to the store between two operations.
-/

namespace OlympusMetrics.Process

variable {Op Op' : Type} {Answer : Op → Type} {Answer' : Op' → Type} {E E' : Type}
  {α α' β β' γ S S' : Type}

/-- Two results are both values, and related, or both errors, and related. -/
def ResultsAlike (errors : E → E' → Prop) (values : α → α' → Prop) :
    Except E α → Except E' α' → Prop
  | .ok x, .ok x' => values x x'
  | .error e, .error e' => errors e e'
  | _, _ => False

/-- Which operations correspond, and which of their answers and errors do. -/
structure Correspondence (Op : Type) (Answer : Op → Type) (E : Type) (Op' : Type)
    (Answer' : Op' → Type) (E' : Type) where
  ops : Op → Op' → Prop
  answers : (op : Op) → (op' : Op') → Answer op → Answer' op' → Prop
  errors : E → E' → Prop

variable {c : Correspondence Op Answer E Op' Answer' E'}

/-- Two programs call corresponding operations, and go on alike when these answer alike. -/
def LockStep (c : Correspondence Op Answer E Op' Answer' E') (values : α → α' → Prop) :
    Process Op Answer E α → Process Op' Answer' E' α' → Prop
  | .ret x, .ret x' => values x x'
  | .throw e, .throw e' => c.errors e e'
  | .call op next, .call op' next' => c.ops op op' ∧ ∀ r r',
      ResultsAlike c.errors (c.answers op op') r r' → LockStep c values (next r) (next' r')
  | _, _ => False

/-! ### Rules -/

section

variable {values : α → α' → Prop} {values' : β → β' → Prop} {p : Process Op Answer E α}
  {p' : Process Op' Answer' E' α'}

theorem lockStep_ofExcept {r : Except E α} {r' : Except E' α'}
    (h : ResultsAlike c.errors values r r') :
    LockStep c values (.ofExcept r : Process Op Answer E α)
      (.ofExcept r' : Process Op' Answer' E' α') := by
  cases r with
  | ok x =>
      cases r' with
      | ok x' => exact h
      | error e' => exact absurd h id
  | error e =>
      cases r' with
      | ok x' => exact absurd h id
      | error e' => exact h

theorem lockStep_await {op : Op} {op' : Op'} (hop : c.ops op op') :
    LockStep c (c.answers op op') (.await op : Process Op Answer E (Answer op))
      (.await op' : Process Op' Answer' E' (Answer' op')) :=
  ⟨hop, fun _ _ h => lockStep_ofExcept h⟩

theorem lockStep_bind {f : α → Process Op Answer E β} {f' : α' → Process Op' Answer' E' β'}
    (hp : LockStep c values p p')
    (hf : ∀ x x', values x x' → LockStep c values' (f x) (f' x')) :
    LockStep c values' (p >>= f) (p' >>= f') := by
  induction p generalizing p' with
  | ret x =>
      cases p' with
      | ret x' => exact hf x x' hp
      | throw e' => exact absurd hp id
      | call op' next' => exact absurd hp id
  | throw e =>
      cases p' with
      | ret x' => exact absurd hp id
      | throw e' => exact hp
      | call op' next' => exact absurd hp id
  | call op next ih =>
      cases p' with
      | ret x' => exact absurd hp id
      | throw e' => exact absurd hp id
      | call op' next' => exact ⟨hp.1, fun r r' h => ih r (hp.2 r r' h)⟩

/-- What the first program makes of its result takes no step of the second one. -/
theorem lockStep_bind_ret {values : β → α' → Prop} {related : α → α' → Prop} {f : α → β}
    (hp : LockStep c related p p') (hf : ∀ x x', related x x' → values (f x) x') :
    LockStep c values (p >>= fun x => .ret (f x)) p' := by
  induction p generalizing p' with
  | ret x =>
      cases p' with
      | ret x' => exact hf x x' hp
      | throw e' => exact absurd hp id
      | call op' next' => exact absurd hp id
  | throw e =>
      cases p' with
      | ret x' => exact absurd hp id
      | throw e' => exact hp
      | call op' next' => exact absurd hp id
  | call op next ih =>
      cases p' with
      | ret x' => exact absurd hp id
      | throw e' => exact absurd hp id
      | call op' next' => exact ⟨hp.1, fun r r' h => ih r (hp.2 r r' h)⟩

theorem lockStep_tryCatch {handler : E → Process Op Answer E α}
    {handler' : E' → Process Op' Answer' E' α'} (hp : LockStep c values p p')
    (hhandler : ∀ e e', c.errors e e' → LockStep c values (handler e) (handler' e')) :
    LockStep c values (p.tryCatch handler) (p'.tryCatch handler') := by
  induction p generalizing p' with
  | ret x =>
      cases p' with
      | ret x' => exact hp
      | throw e' => exact absurd hp id
      | call op' next' => exact absurd hp id
  | throw e =>
      cases p' with
      | ret x' => exact absurd hp id
      | throw e' => exact hhandler e e' hp
      | call op' next' => exact absurd hp id
  | call op next ih =>
      cases p' with
      | ret x' => exact absurd hp id
      | throw e' => exact absurd hp id
      | call op' next' => exact ⟨hp.1, fun r r' h => ih r (hp.2 r r' h)⟩

theorem lockStep_forEach (values : α → α' → Prop) {f : α → γ → Process Op Answer E α}
    {f' : α' → γ → Process Op' Answer' E' α'}
    (hf : ∀ acc acc' x, values acc acc' → LockStep c values (f acc x) (f' acc' x)) (xs : List γ)
    {acc : α} {acc' : α'} (hacc : values acc acc') :
    LockStep c values (forEach f xs acc) (forEach f' xs acc') := by
  induction xs generalizing acc acc' with
  | nil => exact hacc
  | cons x xs ih =>
      exact lockStep_bind (hf acc acc' x hacc) (fun _ _ hnext => ih hnext)

end

/-! ### Programs side by side -/

section

variable {left : α → α' → Prop} {right : β → β' → Prop} {p : Process Op Answer E α}
  {p' : Process Op' Answer' E' α'} {q : Process Op Answer E β} {q' : Process Op' Answer' E' β'}

theorem lockStep_bothCall {δ δ' : Type} {values : δ → δ' → Prop} {op : Op} {op' : Op'}
    {next : Except E (Answer op) → List Bool → Process Op Answer E β → Process Op Answer E δ}
    {next' : Except E' (Answer' op') → List Bool → Process Op' Answer' E' β' →
      Process Op' Answer' E' δ'}
    (hop : c.ops op op')
    (hnext : ∀ r r' turns q q', ResultsAlike c.errors (c.answers op op') r r' →
      LockStep c right q q' → LockStep c values (next r turns q) (next' r' turns q'))
    (hq : LockStep c right q q') (turns : List Bool) :
    LockStep c values (bothCall op next turns q) (bothCall op' next' turns q') := by
  induction turns generalizing q q' with
  | nil => exact ⟨hop, fun r r' h => hnext r r' [] q q' h hq⟩
  | cons turn turns ih =>
      cases turn with
      | true => exact ⟨hop, fun r r' h => hnext r r' turns q q' h hq⟩
      | false =>
          -- it is the turn of the second programs, if they have a step left
          cases q with
          | ret y =>
              cases q' with
              | ret y' => exact ⟨hop, fun r r' h => hnext r r' turns _ _ h hq⟩
              | throw e' => exact absurd hq id
              | call op₂' next₂' => exact absurd hq id
          | throw e =>
              cases q' with
              | ret y' => exact absurd hq id
              | throw e' => exact hq
              | call op₂' next₂' => exact absurd hq id
          | call op₂ next₂ =>
              cases q' with
              | ret y' => exact absurd hq id
              | throw e' => exact absurd hq id
              | call op₂' next₂' => exact ⟨hq.1, fun r r' h => ih (hq.2 r r' h)⟩

theorem lockStep_both (hp : LockStep c left p p') (hq : LockStep c right q q')
    (turns : List Bool) :
    LockStep c (fun x x' => left x.1 x'.1 ∧ right x.2 x'.2) (p.both turns q)
      (p'.both turns q') := by
  induction p generalizing p' q q' turns with
  | ret x =>
      cases p' with
      | ret x' => exact lockStep_bind hq (fun y y' hy => ⟨hp, hy⟩)
      | throw e' => exact absurd hp id
      | call op' next' => exact absurd hp id
  | throw e =>
      cases p' with
      | ret x' => exact absurd hp id
      | throw e' => exact hp
      | call op' next' => exact absurd hp id
  | call op next ih =>
      cases p' with
      | ret x' => exact absurd hp id
      | throw e' => exact absurd hp id
      | call op' next' =>
          exact lockStep_bothCall hp.1
            (fun r r' turns q q' h hq => ih r (hp.2 r r' h) hq turns) hq turns

end

/-! ### Programs on a store -/

/-- The result of a program and the store that it leaves, when every operation has one answer in
every state of the store. -/
def runFrom (exec : (op : Op) → S → Except E (Answer op) × S) :
    Process Op Answer E α → S → Except E α × S
  | .ret x, s => (.ok x, s)
  | .throw e, s => (.error e, s)
  | .call op next, s => (next (exec op s).1).runFrom exec (exec op s).2

section

variable {exec : (op : Op) → S → Except E (Answer op) × S}
  {exec' : (op' : Op') → S' → Except E' (Answer' op') × S'}

@[simp] theorem runFrom_ret (x : α) (s : S) :
    (Process.ret x : Process Op Answer E α).runFrom exec s = (.ok x, s) := rfl

@[simp] theorem runFrom_throw (e : E) (s : S) :
    (Process.throw e : Process Op Answer E α).runFrom exec s = (.error e, s) := rfl

@[simp] theorem runFrom_ofExcept (r : Except E α) (s : S) :
    (Process.ofExcept r : Process Op Answer E α).runFrom exec s = (r, s) := by
  cases r with
  | ok x => rfl
  | error e => rfl

@[simp] theorem runFrom_await (op : Op) (s : S) :
    (Process.await op : Process Op Answer E (Answer op)).runFrom exec s = exec op s :=
  runFrom_ofExcept (exec op s).1 (exec op s).2

theorem runFrom_bind_ok {p : Process Op Answer E α} {f : α → Process Op Answer E β} {s s' : S}
    {x : α} (h : p.runFrom exec s = (.ok x, s')) :
    (p >>= f).runFrom exec s = (f x).runFrom exec s' := by
  induction p generalizing s with
  | ret y =>
      simp only [runFrom_ret, Prod.mk.injEq, Except.ok.injEq] at h
      obtain ⟨rfl, rfl⟩ := h
      rfl
  | throw e => simp at h
  | call op next ih => exact ih _ h

theorem runFrom_bind_error {p : Process Op Answer E α} {f : α → Process Op Answer E β} {s s' : S}
    {e : E} (h : p.runFrom exec s = (.error e, s')) :
    (p >>= f).runFrom exec s = (.error e, s') := by
  induction p generalizing s with
  | ret y => simp at h
  | throw e' =>
      simp only [runFrom_throw, Prod.mk.injEq, Except.error.injEq] at h
      obtain ⟨rfl, rfl⟩ := h
      rfl
  | call op next ih => exact ih _ h

theorem runFrom_tryCatch_ok {p : Process Op Answer E α} {handler : E → Process Op Answer E α}
    {s s' : S} {x : α} (h : p.runFrom exec s = (.ok x, s')) :
    (p.tryCatch handler).runFrom exec s = (.ok x, s') := by
  induction p generalizing s with
  | ret y => exact h
  | throw e => simp at h
  | call op next ih => exact ih _ h

theorem runFrom_tryCatch_error {p : Process Op Answer E α} {handler : E → Process Op Answer E α}
    {s s' : S} {e : E} (h : p.runFrom exec s = (.error e, s')) :
    (p.tryCatch handler).runFrom exec s = (handler e).runFrom exec s' := by
  induction p generalizing s with
  | ret y => simp at h
  | throw e' =>
      simp only [runFrom_throw, Prod.mk.injEq, Except.error.injEq] at h
      obtain ⟨rfl, rfl⟩ := h
      rfl
  | call op next ih => exact ih _ h

theorem runFrom_attempt {p : Process Op Answer E α} {s s' : S} {r : Except E α}
    (h : p.runFrom exec s = (r, s')) : p.attempt.runFrom exec s = (.ok r, s') := by
  unfold attempt
  cases r with
  | ok x =>
      have hbind : (p.bind (fun x => .ret (Except.ok x : Except E α))).runFrom exec s =
          (.ok (.ok x), s') := runFrom_bind_ok h
      exact runFrom_tryCatch_ok hbind
  | error e =>
      have hbind : (p.bind (fun x => .ret (Except.ok x : Except E α))).runFrom exec s =
          (.error e, s') := runFrom_bind_error h
      exact runFrom_tryCatch_error hbind

theorem Ends.runFrom {post : Except E α → Prop} {p : Process Op Answer E α} (h : Ends post p)
    (s : S) : post (p.runFrom exec s).1 := by
  induction p generalizing s with
  | ret x => exact h
  | throw e => exact h
  | call op next ih => exact ih _ (h _) _

/-- Two programs in lock step end alike, on stores that stay alike when corresponding operations
are called. -/
theorem LockStep.runFrom {values : α → α' → Prop} {p : Process Op Answer E α}
    {p' : Process Op' Answer' E' α'} {same : S → S' → Prop}
    (hexec : ∀ op op' s s', c.ops op op' → same s s' →
      ResultsAlike c.errors (c.answers op op') (exec op s).1 (exec' op' s').1 ∧
        same (exec op s).2 (exec' op' s').2)
    (h : LockStep c values p p') {s : S} {s' : S'} (hsame : same s s') :
    ResultsAlike c.errors values (p.runFrom exec s).1 (p'.runFrom exec' s').1 ∧
      same (p.runFrom exec s).2 (p'.runFrom exec' s').2 := by
  induction p generalizing p' s s' with
  | ret x =>
      cases p' with
      | ret x' => exact ⟨h, hsame⟩
      | throw e' => exact absurd h id
      | call op' next' => exact absurd h id
  | throw e =>
      cases p' with
      | ret x' => exact absurd h id
      | throw e' => exact ⟨h, hsame⟩
      | call op' next' => exact absurd h id
  | call op next ih =>
      cases p' with
      | ret x' => exact absurd h id
      | throw e' => exact absurd h id
      | call op' next' =>
          obtain ⟨hanswers, hsame'⟩ := hexec op op' s s' h.1 hsame
          exact ih _ (h.2 _ _ hanswers) hsame'

end

end OlympusMetrics.Process
