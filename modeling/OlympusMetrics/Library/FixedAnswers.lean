import OlympusMetrics.Library.CrashRuns

/-!
Programs that only use some operations, and that end badly once one of these
fails.

Such a program has the result that it has against fixed answers, if every
operation answers so, or it ends badly.
-/

namespace OlympusMetrics

namespace Process

variable {Op : Type} {Answer : Op → Type} {E α β γ : Type}

/-- Every end of a program, whatever the operations answer. -/
def Ends (post : Except E α → Prop) : Process Op Answer E α → Prop
  | .ret x => post (.ok x)
  | .throw e => post (.error e)
  | .call _ next => ∀ r, Ends post (next r)

/-- The program throws an error of some kind. -/
def Throws (fail : E → Prop) : Except E α → Prop
  | .ok _ => False
  | .error e => fail e

/-- A program only calls allowed operations, and ends badly when one of them fails. -/
def Careful (allowed : Op → Prop) (fail : E → Prop) (bad : Except E α → Prop) :
    Process Op Answer E α → Prop
  | .ret _ | .throw _ => True
  | .call op next => allowed op ∧ (∀ e, fail e → Ends bad (next (.error e))) ∧
      ∀ r, Careful allowed fail bad (next r)

variable {allowed : Op → Prop} {fail : E → Prop} {bad : Except E α → Prop}
  {p : Process Op Answer E α}

theorem ends_of_forall {post : Except E α → Prop} (p : Process Op Answer E α) (h : ∀ r, post r) :
    Ends post p := by
  induction p with
  | ret x => exact h _
  | throw e => exact h _
  | call op next ih => exact fun r => ih r

theorem ends_tryCatch {post : Except E α → Prop} {handler : E → Process Op Answer E α}
    (h : Ends (fun r => match r with
      | .ok x => post (.ok x)
      | .error e => Ends post (handler e)) p) : Ends post (p.tryCatch handler) := by
  induction p with
  | ret x => exact h
  | throw e => exact h
  | call op next ih => exact fun r => ih r (h r)

theorem ends_bind_of_throws {f : α → Process Op Answer E β} (h : Ends (Throws fail) p) :
    Ends (Throws fail) (p >>= f) := by
  induction p with
  | ret x => exact absurd h id
  | throw e => exact h
  | call op next ih => exact fun r => ih r (h r)

theorem ends_tryCatch_of_throws {handler : E → Process Op Answer E α} (h : Ends (Throws fail) p)
    (hhandler : ∀ e, fail e → Ends bad (handler e)) : Ends bad (p.tryCatch handler) := by
  induction p with
  | ret x => exact absurd h id
  | throw e => exact hhandler e h
  | call op next ih => exact fun r => ih r (h r)

theorem careful_bind {f : α → Process Op Answer E β} (hp : Careful allowed fail (Throws fail) p)
    (hf : ∀ x, Careful allowed fail (Throws fail) (f x)) :
    Careful allowed fail (Throws fail) (p >>= f) := by
  induction p with
  | ret x => exact hf x
  | throw e => trivial
  | call op next ih =>
      exact ⟨hp.1, fun e he => ends_bind_of_throws (hp.2.1 e he), fun r => ih r (hp.2.2 r)⟩

theorem careful_ofExcept (r : Except E α) :
    Careful allowed fail bad (.ofExcept r : Process Op Answer E α) := by
  cases r with
  | ok x => trivial
  | error e => trivial

theorem careful_await {op : Op} (h : allowed op) :
    Careful allowed fail (Throws fail) (.await op : Process Op Answer E (Answer op)) :=
  ⟨h, fun _ he => he, fun r => careful_ofExcept r⟩

theorem careful_tryCatch {handler : E → Process Op Answer E α}
    (hp : Careful allowed fail (Throws fail) p) (hfail : ∀ e, fail e → Ends bad (handler e))
    (hhandler : ∀ e, Careful allowed fail bad (handler e)) :
    Careful allowed fail bad (p.tryCatch handler) := by
  induction p with
  | ret x => trivial
  | throw e => exact hhandler e
  | call op next ih =>
      exact ⟨hp.1, fun e he => ends_tryCatch_of_throws (hp.2.1 e he) hfail,
        fun r => ih r (hp.2.2 r)⟩

/-- What follows a program only turns its result into another one. -/
theorem ends_bind_ret {post : Except E α → Prop} {post' : Except E β → Prop} {g : α → β}
    (hp : Ends post p) (hok : ∀ x, post (.ok x) → post' (.ok (g x)))
    (herror : ∀ e, post (.error e) → post' (.error e)) :
    Ends post' (p >>= fun x => .ret (g x)) := by
  induction p with
  | ret x => exact hok x hp
  | throw e => exact herror e hp
  | call op next ih => exact fun r => ih r (hp r)

theorem careful_bind_ret {bad' : Except E β → Prop} {g : α → β} (hp : Careful allowed fail bad p)
    (hok : ∀ x, bad (.ok x) → bad' (.ok (g x)))
    (herror : ∀ e, bad (.error e) → bad' (.error e)) :
    Careful allowed fail bad' (p >>= fun x => .ret (g x)) := by
  induction p with
  | ret x => trivial
  | throw e => trivial
  | call op next ih =>
      exact ⟨hp.1, fun e he => ends_bind_ret (hp.2.1 e he) hok herror, fun r => ih r (hp.2.2 r)⟩

/-- A program that ends badly without throwing does so whatever would be caught. -/
theorem ends_tryCatch_of_ok {handler : E → Process Op Answer E α} (hp : Ends bad p)
    (hbad : ∀ e, ¬ bad (.error e)) : Ends bad (p.tryCatch handler) := by
  induction p with
  | ret x => exact hp
  | throw e => exact absurd hp (hbad e)
  | call op next ih => exact fun r => ih r (hp r)

theorem careful_tryCatch_of_ok {handler : E → Process Op Answer E α}
    (hp : Careful allowed fail bad p) (hbad : ∀ e, ¬ bad (.error e))
    (hhandler : ∀ e, Careful allowed fail bad (handler e)) :
    Careful allowed fail bad (p.tryCatch handler) := by
  induction p with
  | ret x => trivial
  | throw e => exact hhandler e
  | call op next ih =>
      exact ⟨hp.1, fun e he => ends_tryCatch_of_ok (hp.2.1 e he) hbad, fun r => ih r (hp.2.2 r)⟩

theorem careful_forEach {f : β → γ → Process Op Answer E β} {xs : List γ}
    (hf : ∀ acc, ∀ x ∈ xs, Careful allowed fail (Throws fail) (f acc x)) (acc : β) :
    Careful allowed fail (Throws fail) (forEach f xs acc) := by
  induction xs generalizing acc with
  | nil => trivial
  | cons x xs ih =>
      refine careful_bind (hf acc x List.mem_cons_self) (fun acc' => ?_)
      exact ih (fun acc y hy => hf acc y (List.mem_cons_of_mem x hy)) acc'

/-! ### Programs side by side -/

/-- The only errors that a program throws are of some kind. -/
def OnlyFails (fail : E → Prop) : Except E α → Prop
  | .ok _ => True
  | .error e => fail e

theorem ends_bind {f : α → Process Op Answer E β} (hp : Ends (OnlyFails fail) p)
    (hf : ∀ x, Ends (OnlyFails fail) (f x)) : Ends (OnlyFails fail) (p >>= f) := by
  induction p with
  | ret x => exact hf x
  | throw e => exact hp
  | call op next ih => exact fun r => ih r (hp r)

theorem ends_forEach {f : β → γ → Process Op Answer E β} {xs : List γ}
    (hf : ∀ acc, ∀ x ∈ xs, Ends (OnlyFails fail) (f acc x)) (acc : β) :
    Ends (OnlyFails fail) (forEach f xs acc) := by
  induction xs generalizing acc with
  | nil => trivial
  | cons x xs ih =>
      refine ends_bind (hf acc x List.mem_cons_self) (fun acc' => ?_)
      exact ih (fun acc y hy => hf acc y (List.mem_cons_of_mem x hy)) acc'

section both

variable {op : Op} {q : Process Op Answer E β}
  {next : Except E (Answer op) → List Bool → Process Op Answer E β → Process Op Answer E γ}

theorem ends_bothCall {postRight : Except E β → Prop} {post : Except E γ → Prop}
    (hq : Ends postRight q) (herror : ∀ e, postRight (.error e) → post (.error e))
    (hnext : ∀ r turns q', Ends postRight q' → Ends post (next r turns q'))
    (turns : List Bool) : Ends post (bothCall op next turns q) := by
  induction q generalizing turns with
  | ret y =>
      cases turns with
      | nil => exact fun r => hnext r [] _ hq
      | cons turn turns => cases turn <;> exact fun r => hnext r turns _ hq
  | throw e =>
      cases turns with
      | nil => exact fun r => hnext r [] _ hq
      | cons turn turns =>
          cases turn with
          | true => exact fun r => hnext r turns _ hq
          | false => exact herror e hq
  | call op' next' ih =>
      cases turns with
      | nil => exact fun r => hnext r [] _ hq
      | cons turn turns =>
          cases turn with
          | true => exact fun r => hnext r turns _ hq
          | false => exact fun r => ih r (hq r) turns

/-- When the first program ends badly, both do. -/
theorem ends_both_left (hp : Ends (Throws fail) p) (hq : Ends (OnlyFails fail) q)
    (turns : List Bool) : Ends (Throws fail) (p.both turns q) := by
  induction p generalizing turns q with
  | ret x => exact absurd hp id
  | throw e => exact hp
  | call op next ih =>
      refine ends_bothCall hq ?_ ?_ turns
      · exact fun _ he => he
      · exact fun r turns q' hq' => ih r (hp r) hq' turns

/-- When the second program ends badly, both do. -/
theorem ends_both_right (hp : Ends (OnlyFails fail) p) (hq : Ends (Throws fail) q)
    (turns : List Bool) : Ends (Throws fail) (p.both turns q) := by
  induction p generalizing turns q with
  | ret x => exact ends_bind_of_throws hq
  | throw e => exact hp
  | call op next ih =>
      refine ends_bothCall hq ?_ ?_ turns
      · exact fun _ he => he
      · exact fun r turns q' hq' => ih r (hp r) hq' turns

/-- Both programs only throw what each of them may throw. -/
theorem ends_both (hp : Ends (OnlyFails fail) p) (hq : Ends (OnlyFails fail) q)
    (turns : List Bool) : Ends (OnlyFails fail) (p.both turns q) := by
  induction p generalizing turns q with
  | ret x => exact ends_bind hq (fun _ => trivial)
  | throw e => exact hp
  | call op next ih =>
      refine ends_bothCall hq ?_ ?_ turns
      · exact fun _ he => he
      · exact fun r turns q' hq' => ih r (hp r) hq' turns

theorem careful_bothCall (hop : allowed op) (hq : Careful allowed fail (Throws fail) q)
    (hqError : Ends (OnlyFails fail) q)
    (hfirst : ∀ e, fail e → ∀ turns q', Ends (OnlyFails fail) q' →
      Ends (Throws fail) (next (.error e) turns q'))
    (hsecond : ∀ r turns q', Ends (Throws fail) q' → Ends (Throws fail) (next r turns q'))
    (hnext : ∀ r turns q', Careful allowed fail (Throws fail) q' → Ends (OnlyFails fail) q' →
      Careful allowed fail (Throws fail) (next r turns q'))
    (turns : List Bool) : Careful allowed fail (Throws fail) (bothCall op next turns q) := by
  have hcall (q' : Process Op Answer E β) (turns : List Bool)
      (hq' : Careful allowed fail (Throws fail) q') (hqError' : Ends (OnlyFails fail) q') :
      Careful allowed fail (Throws fail) (.call op (fun r => next r turns q')) :=
    ⟨hop, fun e he => hfirst e he turns q' hqError', fun r => hnext r turns q' hq' hqError'⟩
  induction q generalizing turns with
  | ret y =>
      cases turns with
      | nil => exact hcall _ [] hq hqError
      | cons turn turns => cases turn <;> exact hcall _ turns hq hqError
  | throw e =>
      cases turns with
      | nil => exact hcall _ [] hq hqError
      | cons turn turns =>
          cases turn with
          | true => exact hcall _ turns hq hqError
          | false => trivial
  | call op' next' ih =>
      cases turns with
      | nil => exact hcall _ [] hq hqError
      | cons turn turns =>
          cases turn with
          | true => exact hcall _ turns hq hqError
          | false =>
              refine ⟨hq.1, fun e he => ?_, fun r => ih r (hq.2.2 r) (hqError r) turns⟩
              refine ends_bothCall (hq.2.1 e he) ?_ hsecond turns
              exact fun _ h => h

theorem careful_both (hp : Careful allowed fail (Throws fail) p) (hpError : Ends (OnlyFails fail) p)
    (hq : Careful allowed fail (Throws fail) q) (hqError : Ends (OnlyFails fail) q)
    (turns : List Bool) : Careful allowed fail (Throws fail) (p.both turns q) := by
  induction p generalizing turns q with
  | ret x => exact careful_bind hq (fun _ => trivial)
  | throw e => trivial
  | call op next ih =>
      exact careful_bothCall hp.1 hq hqError
        (fun e he turns q' hq' => ends_both_left (hp.2.1 e he) hq' turns)
        (fun r turns q' hq' => ends_both_right (hpError r) hq' turns)
        (fun r turns q' hq' hqError' => ih r (hp.2.2 r) (hpError r) hq' hqError' turns) turns

end both

/-! ### Programs that leave the state alone -/

/-- A program only calls allowed operations. -/
def Calls (allowed : Op → Prop) : Process Op Answer E α → Prop
  | .ret _ | .throw _ => True
  | .call op next => allowed op ∧ ∀ r, Calls allowed (next r)

theorem calls_bind {f : α → Process Op Answer E β} (hp : Calls allowed p)
    (hf : ∀ x, Calls allowed (f x)) : Calls allowed (p >>= f) := by
  induction p with
  | ret x => exact hf x
  | throw e => trivial
  | call op next ih => exact ⟨hp.1, fun r => ih r (hp.2 r)⟩

theorem calls_ofExcept (r : Except E α) :
    Calls allowed (.ofExcept r : Process Op Answer E α) := by
  cases r with
  | ok x => trivial
  | error e => trivial

theorem calls_await {op : Op} (h : allowed op) :
    Calls allowed (.await op : Process Op Answer E (Answer op)) :=
  ⟨h, fun r => calls_ofExcept r⟩

theorem calls_tryCatch {handler : E → Process Op Answer E α} (hp : Calls allowed p)
    (hhandler : ∀ e, Calls allowed (handler e)) : Calls allowed (p.tryCatch handler) := by
  induction p with
  | ret x => trivial
  | throw e => exact hhandler e
  | call op next ih => exact ⟨hp.1, fun r => ih r (hp.2 r)⟩

theorem calls_forEach {f : β → γ → Process Op Answer E β} (xs : List γ)
    (hf : ∀ acc x, Calls allowed (f acc x)) (acc : β) : Calls allowed (forEach f xs acc) := by
  induction xs generalizing acc with
  | nil => trivial
  | cons x xs ih => exact calls_bind (hf acc x) (fun acc' => ih acc')

theorem calls_bothCall {op : Op} {q : Process Op Answer E β}
    {next : Except E (Answer op) → List Bool → Process Op Answer E β → Process Op Answer E γ}
    (hop : allowed op) (hq : Calls allowed q)
    (hnext : ∀ r turns q', Calls allowed q' → Calls allowed (next r turns q'))
    (turns : List Bool) : Calls allowed (bothCall op next turns q) := by
  induction q generalizing turns with
  | ret y =>
      cases turns with
      | nil => exact ⟨hop, fun r => hnext r [] _ hq⟩
      | cons turn turns => cases turn <;> exact ⟨hop, fun r => hnext r turns _ hq⟩
  | throw e =>
      cases turns with
      | nil => exact ⟨hop, fun r => hnext r [] _ hq⟩
      | cons turn turns =>
          cases turn with
          | true => exact ⟨hop, fun r => hnext r turns _ hq⟩
          | false => trivial
  | call op' next' ih =>
      cases turns with
      | nil => exact ⟨hop, fun r => hnext r [] _ hq⟩
      | cons turn turns =>
          cases turn with
          | true => exact ⟨hop, fun r => hnext r turns _ hq⟩
          | false => exact ⟨hq.1, fun r => ih r (hq.2 r) turns⟩

theorem calls_both {q : Process Op Answer E β} (hp : Calls allowed p) (hq : Calls allowed q)
    (turns : List Bool) : Calls allowed (p.both turns q) := by
  induction p generalizing turns q with
  | ret x => exact calls_bind hq (fun _ => trivial)
  | throw e => trivial
  | call op next ih =>
      exact calls_bothCall hp.1 hq (fun r turns q' hq' => ih r (hp.2 r) hq' turns) turns

/-- A program whose operations leave the state alone ends where it began. -/
theorem meets_of_calls {S : Type} {exec : (op : Op) → S → Except E (Answer op) → S → Prop}
    {inv : S → Prop} {post : Except E α → Prop}
    (hexec : ∀ op s r s', allowed op → exec op s r s' → s' = s) (hcalls : Calls allowed p)
    (hends : Ends post p) {s : S} (hinv : inv s) :
    Meets exec inv p (fun r s' => post r ∧ s' = s) s := by
  induction p with
  | ret x => exact ⟨hinv, hends, rfl⟩
  | throw e => exact ⟨hinv, hends, rfl⟩
  | call op next ih =>
      refine ⟨hinv, fun r s' hstep => ?_⟩
      obtain rfl := hexec op s r s' hcalls.1 hstep
      exact ih r (hcalls.2 r) (hends r)

/-! ### Fixed answers -/

end Process

end OlympusMetrics
