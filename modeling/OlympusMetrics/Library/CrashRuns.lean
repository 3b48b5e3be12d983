import OlympusMetrics.Library.Process

/-!
Runs of a program that has the store for itself and may stop at any operation.

A program meets an invariant and a condition on its end when every state that
it goes through has the invariant, and every end that it comes to the condition.
-/

namespace OlympusMetrics

namespace Process

variable {S Op : Type} {Answer : Op → Type} {E α β γ : Type}

/-- A run of a program: it stops somewhere, or it ends with a result. -/
inductive Runs (exec : (op : Op) → S → Except E (Answer op) → S → Prop) :
    Process Op Answer E α → S → Option (Except E α) → S → Prop
  | stop {p s} : Runs exec p s none s
  | ret {x s} : Runs exec (.ret x) s (some (.ok x)) s
  | throw {e s} : Runs exec (.throw e) s (some (.error e)) s
  | call {op next s r s' out s''} : exec op s r s' → Runs exec (next r) s' out s'' →
      Runs exec (.call op next) s out s''

/-- Runs a program on a state that answers as a list of choices says, and stops after the last one. -/
def play {C : Type} (answer : C → (op : Op) → S → Except E (Answer op) × S) :
    List C → Process Op Answer E α → S → Option (Except E α) × S
  | _, .ret x, s => (some (.ok x), s)
  | _, .throw e, s => (some (.error e), s)
  | [], .call _ _, s => (none, s)
  | c :: choices, .call op next, s =>
      play answer choices (next (answer c op s).1) (answer c op s).2

theorem runs_play {C : Type} {exec : (op : Op) → S → Except E (Answer op) → S → Prop}
    {answer : C → (op : Op) → S → Except E (Answer op) × S}
    (h : ∀ c op s, exec op s (answer c op s).1 (answer c op s).2) (choices : List C)
    (p : Process Op Answer E α) (s : S) :
    Runs exec p s (play answer choices p s).1 (play answer choices p s).2 := by
  induction p generalizing choices s with
  | ret x =>
      cases choices with
      | nil => exact .ret
      | cons c choices => exact .ret
  | throw e =>
      cases choices with
      | nil => exact .throw
      | cons c choices => exact .throw
  | call op next ih =>
      cases choices with
      | nil => exact .stop
      | cons c choices => exact .call (h c op s) (ih _ choices _)

/-- However its operations answer, a program ends. -/
theorem exists_play (answer : Nat → (op : Op) → S → Except E (Answer op) × S)
    (p : Process Op Answer E α) (start : Nat) (s : S) :
    ∃ length result s', play answer (List.range' start length) p s = (some result, s') := by
  induction p generalizing start s with
  | ret x => exact ⟨0, .ok x, s, rfl⟩
  | throw e => exact ⟨0, .error e, s, rfl⟩
  | call op next ih =>
      obtain ⟨length, result, s', h⟩ :=
        ih (answer start op s).1 (start + 1) (answer start op s).2
      refine ⟨length + 1, result, s', ?_⟩
      rw [List.range'_succ]
      exact h

/-- From `s` on, all states of a program have the invariant, and its ends are in `post`. -/
def Meets (exec : (op : Op) → S → Except E (Answer op) → S → Prop) (inv : S → Prop) :
    Process Op Answer E α → (Except E α → S → Prop) → S → Prop
  | .ret x, post, s => inv s ∧ post (.ok x) s
  | .throw e, post, s => inv s ∧ post (.error e) s
  | .call op next, post, s => inv s ∧ ∀ r s', exec op s r s' → Meets exec inv (next r) post s'

variable {exec : (op : Op) → S → Except E (Answer op) → S → Prop} {inv inv' : S → Prop}
  {p : Process Op Answer E α} {post post' : Except E α → S → Prop} {s s' : S}

theorem Meets.now (h : Meets exec inv p post s) : inv s := by
  cases p with
  | ret x => exact h.1
  | throw e => exact h.1
  | call op next => exact h.1

/-- What is proved of a program holds of its runs. -/
theorem Meets.run (h : Meets exec inv p post s) {out : Option (Except E α)}
    (hrun : Runs exec p s out s') : inv s' ∧ ∀ r, out = some r → post r s' := by
  induction hrun with
  | stop => exact ⟨h.now, fun r hr => nomatch hr⟩
  | ret =>
      refine ⟨h.1, fun r hr => ?_⟩
      obtain rfl := Option.some.inj hr
      exact h.2
  | throw =>
      refine ⟨h.1, fun r hr => ?_⟩
      obtain rfl := Option.some.inj hr
      exact h.2
  | call hexec _ ih => exact ih (h.2 _ _ hexec)

theorem Meets.weaken (h : Meets exec inv p post s) (hinv : ∀ s, inv s → inv' s)
    (hpost : ∀ r s, inv s → post r s → post' r s) : Meets exec inv' p post' s := by
  induction p generalizing s with
  | ret x => exact ⟨hinv s h.1, hpost _ _ h.1 h.2⟩
  | throw e => exact ⟨hinv s h.1, hpost _ _ h.1 h.2⟩
  | call op next ih => exact ⟨hinv s h.1, fun r s' hexec => ih r (h.2 r s' hexec)⟩

theorem Meets.finally (h : Meets exec inv p post s) (hpost : ∀ r s, inv s → post r s → post' r s) :
    Meets exec inv p post' s :=
  h.weaken (fun _ => id) hpost

/-- What `p` may leave for the program that goes on with its result. -/
def Followed (exec : (op : Op) → S → Except E (Answer op) → S → Prop) (inv : S → Prop)
    (f : α → Process Op Answer E β) (post : Except E β → S → Prop) : Except E α → S → Prop
  | .ok x, s => Meets exec inv (f x) post s
  | .error e, s => post (.error e) s

@[simp] theorem followed_ok {f : α → Process Op Answer E β} {post : Except E β → S → Prop} {x : α} :
    Followed exec inv f post (.ok x) s = Meets exec inv (f x) post s := rfl

theorem meets_bind {f : α → Process Op Answer E β} {post : Except E β → S → Prop}
    (h : Meets exec inv p (Followed exec inv f post) s) : Meets exec inv (p >>= f) post s := by
  induction p generalizing s with
  | ret x => exact h.2
  | throw e => exact h
  | call op next ih => exact ⟨h.1, fun r s' hexec => ih r (h.2 r s' hexec)⟩

/-- A computation without operations. -/
theorem meets_ofExcept_bind {r : Except E α} {f : α → Process Op Answer E β}
    {post : Except E β → S → Prop} (herror : ∀ e, r = .error e → inv s ∧ post (.error e) s)
    (hok : ∀ x, r = .ok x → Meets exec inv (f x) post s) :
    Meets exec inv (.ofExcept r >>= f) post s := by
  cases r with
  | ok x => exact hok x rfl
  | error e => exact herror e rfl

theorem meets_await {op : Op} {post : Except E (Answer op) → S → Prop} (hinv : inv s)
    (h : ∀ r s', exec op s r s' → inv s' ∧ post r s') : Meets exec inv (.await op) post s := by
  refine ⟨hinv, fun r s' hexec => ?_⟩
  cases r with
  | ok x => exact h _ _ hexec
  | error e => exact h _ _ hexec

theorem meets_tryCatch {handler : E → Process Op Answer E α}
    (h : Meets exec inv p (fun r s => match r with
      | .ok x => post (.ok x) s
      | .error e => Meets exec inv (handler e) post s) s) :
    Meets exec inv (p.tryCatch handler) post s := by
  induction p generalizing s with
  | ret x => exact h
  | throw e => exact h.2
  | call op next ih => exact ⟨h.1, fun r s' hexec => ih r (h.2 r s' hexec)⟩

theorem meets_tryFinally {cleanup : Process Op Answer E Unit}
    (h : Meets exec inv p (fun r s => Meets exec inv cleanup (fun r' s' => match r' with
      | .ok _ => post r s'
      | .error e => post (.error e) s') s) s) :
    Meets exec inv (p.tryFinally cleanup) post s := by
  induction p generalizing s with
  | ret x =>
      refine meets_bind (h.2.finally ?_)
      rintro (e | _) t hinv ht
      · exact ht
      · exact ⟨hinv, ht⟩
  | throw e =>
      refine meets_bind (h.2.finally ?_)
      rintro (e' | _) t hinv ht
      · exact ht
      · exact ⟨hinv, ht⟩
  | call op next ih => exact ⟨h.1, fun r s' hexec => ih r (h.2 r s' hexec)⟩

/-- A loop, by an assertion about what is done and what is left. -/
theorem meets_forEach {f : β → γ → Process Op Answer E β} {post : Except E β → S → Prop}
    (loop : β → List γ → S → Prop)
    (hstep : ∀ {acc x xs s}, loop acc (x :: xs) s → Meets exec inv (f acc x) (fun r s =>
      match r with
      | .ok acc' => loop acc' xs s
      | .error e => post (.error e) s) s)
    (hdone : ∀ {acc s}, loop acc [] s → inv s ∧ post (.ok acc) s) {acc : β} {xs : List γ}
    (h : loop acc xs s) : Meets exec inv (Process.forEach f xs acc) post s := by
  induction xs generalizing acc s with
  | nil => exact hdone h
  | cons x xs ih =>
      refine meets_bind ((hstep h).finally ?_)
      rintro (e | acc') t _ ht
      · exact ht
      · exact ih ht

end Process

end OlympusMetrics
