import Mathlib.Logic.Function.Basic
import Mathlib.Logic.Relation

/-!
Programs over the operations of a shared store, their interleavings, and a
rely-guarantee logic for them.

Every operation is one atomic step. Between two operations of a program the
others may change the store as the program's rely condition allows.
-/

namespace OlympusMetrics

/-- A program that calls operations one after another; an operation answers or throws. -/
inductive Process (Op : Type) (Answer : Op → Type) (E α : Type)
  | ret (x : α)
  | throw (e : E)
  | call (op : Op) (next : Except E (Answer op) → Process Op Answer E α)

namespace Process

variable {Op : Type} {Answer : Op → Type} {E α β : Type}

def bind (p : Process Op Answer E α) (f : α → Process Op Answer E β) : Process Op Answer E β :=
  match p with
  | .ret x => f x
  | .throw e => .throw e
  | .call op next => .call op (fun r => (next r).bind f)

instance : Monad (Process Op Answer E) where
  pure := .ret
  bind := bind

@[simp] theorem pure_def (x : α) : (pure x : Process Op Answer E α) = .ret x := rfl

@[simp] theorem ret_bind (x : α) (f : α → Process Op Answer E β) :
    (Process.ret x >>= f) = f x := rfl

@[simp] theorem throw_bind (e : E) (f : α → Process Op Answer E β) :
    ((Process.throw e : Process Op Answer E α) >>= f) = .throw e := rfl

@[simp] theorem call_bind (op : Op) (next : Except E (Answer op) → Process Op Answer E α)
    (f : α → Process Op Answer E β) :
    (Process.call op next >>= f) = .call op (fun r => next r >>= f) := rfl

/-- The result of a computation without operations. -/
def ofExcept : Except E α → Process Op Answer E α
  | .ok x => .ret x
  | .error e => .throw e

/-- Calls one operation and passes on what it answers or throws. -/
def await (op : Op) : Process Op Answer E (Answer op) := .call op ofExcept

/-- `try { … } catch`. -/
def tryCatch (p : Process Op Answer E α) (handler : E → Process Op Answer E α) :
    Process Op Answer E α :=
  match p with
  | .ret x => .ret x
  | .throw e => handler e
  | .call op next => .call op (fun r => (next r).tryCatch handler)

/-- `try { … } finally { … }`: the cleanup runs in both cases, and its own error wins. -/
def tryFinally (p : Process Op Answer E α) (cleanup : Process Op Answer E Unit) :
    Process Op Answer E α :=
  match p with
  | .ret x => cleanup.bind (fun _ => .ret x)
  | .throw e => cleanup.bind (fun _ => .throw e)
  | .call op next => .call op (fun r => (next r).tryFinally cleanup)

/-- Runs a program for every element of a list in turn. -/
def forEach {γ : Type} (f : β → γ → Process Op Answer E β) : List γ → β → Process Op Answer E β
  | [], acc => .ret acc
  | x :: xs, acc => (f acc x).bind (forEach f xs)

/-- The result of `p` as a value, whether it is an error or not. -/
def attempt (p : Process Op Answer E α) : Process Op Answer E (Except E α) :=
  tryCatch (p.bind (fun x => .ret (.ok x))) (fun e => .ret (.error e))

/-- A call of one program while another one runs beside it. -/
def bothCall {γ : Type} (op : Op)
    (next : Except E (Answer op) → List Bool → Process Op Answer E β → Process Op Answer E γ) :
    List Bool → Process Op Answer E β → Process Op Answer E γ
  | false :: turns, .call op' next' => .call op' (fun r => bothCall op next turns (next' r))
  | false :: _, .throw e => .throw e
  | _ :: turns, q => .call op (fun r => next r turns q)
  | [], q => .call op (fun r => next r [] q)

/-- `Promise.all` of two programs: `turns` says which of them takes the next step, the first one
when the turns are used up. The first error ends both. -/
def both : Process Op Answer E α → List Bool → Process Op Answer E β →
    Process Op Answer E (α × β)
  | .ret x, _, q => q.bind (fun y => .ret (x, y))
  | .throw e, _, _ => .throw e
  | .call op next, turns, q => bothCall op (fun r turns q => (next r).both turns q) turns q

/-! ### Programs against fixed answers -/

/-- The result of a program when every operation has one answer. -/
def eval (answer : (op : Op) → Except E (Answer op)) : Process Op Answer E α → Except E α
  | .ret x => .ok x
  | .throw e => .error e
  | .call op next => (next (answer op)).eval answer

@[simp] theorem except_ok_bind {ε : Type} (x : α) (f : α → Except ε β) :
    (Except.ok x >>= f) = f x := rfl

@[simp] theorem except_error_bind {ε : Type} (e : ε) (f : α → Except ε β) :
    (Except.error e >>= f) = Except.error e := rfl

section eval

variable {answer : (op : Op) → Except E (Answer op)}

@[simp] theorem eval_ret (x : α) : (Process.ret x : Process Op Answer E α).eval answer = .ok x := rfl

@[simp] theorem eval_throw (e : E) :
    (Process.throw e : Process Op Answer E α).eval answer = .error e := rfl

@[simp] theorem eval_ofExcept (r : Except E α) :
    (Process.ofExcept r : Process Op Answer E α).eval answer = r := by
  cases r with
  | ok x => rfl
  | error e => rfl

@[simp] theorem eval_await (op : Op) :
    (Process.await op : Process Op Answer E (Answer op)).eval answer = answer op :=
  eval_ofExcept (answer op)

@[simp] theorem eval_bind (p : Process Op Answer E α) (f : α → Process Op Answer E β) :
    (p >>= f).eval answer = p.eval answer >>= fun x => (f x).eval answer := by
  induction p with
  | ret x => rfl
  | throw e => rfl
  | call op next ih => exact ih (answer op)

theorem eval_tryCatch (p : Process Op Answer E α) (handler : E → Process Op Answer E α) :
    (p.tryCatch handler).eval answer = match p.eval answer with
      | .ok x => .ok x
      | .error e => (handler e).eval answer := by
  induction p with
  | ret x => rfl
  | throw e => rfl
  | call op next ih => exact ih (answer op)

@[simp] theorem eval_attempt (p : Process Op Answer E α) :
    p.attempt.eval answer = .ok (p.eval answer) := by
  have hbind : (p.bind (fun x => .ret (Except.ok x : Except E α))).eval answer =
      p.eval answer >>= fun x => .ok (.ok x) :=
    eval_bind p (fun x => .ret (Except.ok x))
  unfold attempt
  rw [eval_tryCatch, hbind]
  cases p.eval answer with
  | ok x => rfl
  | error e => rfl

theorem eval_forEach {γ : Type} (f : β → γ → Process Op Answer E β) (xs : List γ) (acc : β) :
    (forEach f xs acc).eval answer = xs.foldlM (fun acc x => (f acc x).eval answer) acc := by
  induction xs generalizing acc with
  | nil => rfl
  | cons x xs ih =>
      rw [List.foldlM_cons, ← funext ih]
      exact eval_bind (f acc x) (forEach f xs)

theorem eval_bothCall {γ : Type} {op : Op}
    {next : Except E (Answer op) → List Bool → Process Op Answer E β → Process Op Answer E γ}
    {q : Process Op Answer E β} {y : β} (hq : q.eval answer = .ok y) {z : Except E γ}
    (hnext : ∀ turns q', q'.eval answer = .ok y → (next (answer op) turns q').eval answer = z)
    (turns : List Bool) : (bothCall op next turns q).eval answer = z := by
  induction q generalizing turns with
  | ret x =>
      cases turns with
      | nil => exact hnext [] _ hq
      | cons turn turns => cases turn <;> exact hnext turns _ hq
  | throw e => exact nomatch hq
  | call op' next' ih =>
      cases turns with
      | nil => exact hnext [] _ hq
      | cons turn turns =>
          cases turn with
          | true => exact hnext turns _ hq
          | false => exact ih (answer op') hq turns

/-- Programs that run side by side have the results that they have alone. -/
theorem eval_both {p : Process Op Answer E α} {q : Process Op Answer E β} {x : α} {y : β}
    (hp : p.eval answer = .ok x) (hq : q.eval answer = .ok y) (turns : List Bool) :
    (p.both turns q).eval answer = .ok (x, y) := by
  induction p generalizing turns q with
  | ret x' =>
      obtain rfl := Except.ok.inj hp
      have hbind : (q.bind (fun y => .ret (x', y))).eval answer =
          q.eval answer >>= fun y => .ok (x', y) := eval_bind q (fun y => .ret (x', y))
      change (q.bind (fun y => .ret (x', y))).eval answer = _
      rw [hbind, hq]
      rfl
  | throw e => exact nomatch hp
  | call op next ih => exact eval_bothCall hq (fun turns q' hq' => ih (answer op) hp hq' turns) turns

theorem eval_bothCall_error {γ : Type} {op : Op}
    {next : Except E (Answer op) → List Bool → Process Op Answer E β → Process Op Answer E γ}
    {q : Process Op Answer E β} {y : Except E β} (hq : q.eval answer = y) {fail : E → Prop}
    (hy : ∀ e, y = .error e → fail e)
    (hnext : ∀ turns q', q'.eval answer = y →
      ∃ e, (next (answer op) turns q').eval answer = .error e ∧ fail e)
    (turns : List Bool) : ∃ e, (bothCall op next turns q).eval answer = .error e ∧ fail e := by
  induction q generalizing turns with
  | ret x =>
      cases turns with
      | nil => exact hnext [] _ hq
      | cons turn turns => cases turn <;> exact hnext turns _ hq
  | throw e =>
      cases turns with
      | nil => exact hnext [] _ hq
      | cons turn turns =>
          cases turn with
          | true => exact hnext turns _ hq
          | false => exact ⟨e, rfl, hy e hq.symm⟩
  | call op' next' ih =>
      cases turns with
      | nil => exact hnext [] _ hq
      | cons turn turns =>
          cases turn with
          | true => exact hnext turns _ hq
          | false => exact ih (answer op') hq turns

/-- When one of two programs fails alone, both fail side by side, with an error of one of them. -/
theorem eval_both_error {p : Process Op Answer E α} {q : Process Op Answer E β} {fail : E → Prop}
    (hp : ∀ e, p.eval answer = .error e → fail e) (hq : ∀ e, q.eval answer = .error e → fail e)
    (h : (∃ e, p.eval answer = .error e) ∨ ∃ e, q.eval answer = .error e) (turns : List Bool) :
    ∃ e, (p.both turns q).eval answer = .error e ∧ fail e := by
  induction p generalizing turns q with
  | ret x =>
      obtain ⟨e, he⟩ := h.resolve_left (fun ⟨e, he⟩ => nomatch he)
      have hbind : (q.bind (fun y => .ret (x, y))).eval answer =
          q.eval answer >>= fun y => .ok (x, y) := eval_bind q (fun y => .ret (x, y))
      refine ⟨e, ?_, hq e he⟩
      change (q.bind (fun y => .ret (x, y))).eval answer = _
      rw [hbind, he]
      rfl
  | throw e => exact ⟨e, rfl, hp e rfl⟩
  | call op next ih =>
      refine eval_bothCall_error rfl hq (fun turns q' hq' => ?_) turns
      refine ih (answer op) hp (fun e he => hq e (hq' ▸ he)) ?_ turns
      rw [hq']
      exact h

end eval

end Process

/-! ### Interleavings -/

/-- A shared state and what is left of every program. -/
structure System (I S Op : Type) (Answer : Op → Type) (E α : Type) where
  state : S
  programs : I → Process Op Answer E α

section

variable {I S Op : Type} {Answer : Op → Type} {E α : Type}

/-- One step of a system: the state changes on its own, or one program calls its next operation. -/
inductive System.Step [DecidableEq I] (idle : S → S → Prop)
    (exec : I → (op : Op) → S → Except E (Answer op) → S → Prop) :
    System I S Op Answer E α → System I S Op Answer E α → Prop
  | idle {s s' programs} : idle s s' → Step idle exec ⟨s, programs⟩ ⟨s', programs⟩
  | call {s s' programs} (i : I) {op next r} : programs i = .call op next → exec i op s r s' →
      Step idle exec ⟨s, programs⟩ ⟨s', Function.update programs i (next r)⟩

theorem System.Step.mono [DecidableEq I] {idle : S → S → Prop}
    {exec exec' : I → (op : Op) → S → Except E (Answer op) → S → Prop}
    (hexec : ∀ i op s r s', exec i op s r s' → exec' i op s r s')
    {σ σ' : System I S Op Answer E α} (h : System.Step idle exec σ σ') :
    System.Step idle exec' σ σ' := by
  cases h with
  | idle hidle => exact .idle hidle
  | call i hprogram hcall => exact .call i hprogram (hexec _ _ _ _ _ hcall)

/-- What any interleaving of the programs can reach. -/
def System.Reaches [DecidableEq I] (idle : S → S → Prop)
    (exec : I → (op : Op) → S → Except E (Answer op) → S → Prop) :
    System I S Op Answer E α → System I S Op Answer E α → Prop :=
  Relation.ReflTransGen (System.Step idle exec)

theorem System.Reaches.mono [DecidableEq I] {idle : S → S → Prop}
    {exec exec' : I → (op : Op) → S → Except E (Answer op) → S → Prop}
    (hexec : ∀ i op s r s', exec i op s r s' → exec' i op s r s')
    {σ σ' : System I S Op Answer E α} (h : System.Reaches idle exec σ σ') :
    System.Reaches idle exec' σ σ' :=
  Relation.ReflTransGen.mono (fun _ _ hstep => hstep.mono hexec) _ _ h

end

/-! ### Rely and guarantee -/

/-- What every program may assume of the others between its operations, and what it promises about
each of its own operations. -/
structure Discipline (I S Op : Type) (Answer : Op → Type) (E : Type) where
  idle : S → S → Prop
  exec : I → (op : Op) → S → Except E (Answer op) → S → Prop
  inv : S → Prop
  rely : I → S → S → Prop
  guar : I → S → S → Prop
  rely_refl : ∀ i s, rely i s s
  rely_trans : ∀ {i s t u}, rely i s t → rely i t u → rely i s u
  inv_idle : ∀ {s s'}, inv s → idle s s' → inv s'
  rely_idle : ∀ {i s s'}, idle s s' → rely i s s'
  rely_guar : ∀ {i j s s'}, i ≠ j → guar j s s' → rely i s s'

namespace Discipline

variable {I S Op : Type} {Answer : Op → Type} {E α β γ : Type}
  (d : Discipline I S Op Answer E) {i : I}

/-- From `s` on, program `i` keeps its promises and the invariant at each of its operations, and
ends only in results and states that `post` allows. -/
def WP (i : I) : Process Op Answer E α → (Except E α → S → Prop) → S → Prop
  | .ret x, post, s => ∀ s', d.rely i s s' → d.inv s' → post (.ok x) s'
  | .throw e, post, s => ∀ s', d.rely i s s' → d.inv s' → post (.error e) s'
  | .call op next, post, s => ∀ s', d.rely i s s' → d.inv s' → ∀ r s'', d.exec i op s' r s'' →
      d.inv s'' ∧ d.guar i s' s'' ∧ WP i (next r) post s''

variable {d} {p : Process Op Answer E α} {post post' : Except E α → S → Prop} {s s' : S}

/-- The others may interfere before a program goes on. -/
theorem WP.stable (h : d.WP i p post s) (hrely : d.rely i s s') : d.WP i p post s' := by
  cases p with
  | ret x => exact fun t ht => h t (d.rely_trans hrely ht)
  | throw e => exact fun t ht => h t (d.rely_trans hrely ht)
  | call op next => exact fun t ht => h t (d.rely_trans hrely ht)

theorem WP.weaken (h : d.WP i p post s) (hpost : ∀ r s, post r s → post' r s) :
    d.WP i p post' s := by
  induction p generalizing s with
  | ret x => exact fun t ht hinv => hpost _ _ (h t ht hinv)
  | throw e => exact fun t ht hinv => hpost _ _ (h t ht hinv)
  | call op next ih =>
      intro t ht hinv r u hexec
      obtain ⟨hinv', hguar, hnext⟩ := h t ht hinv r u hexec
      exact ⟨hinv', hguar, ih r hnext⟩

/-- A program may be judged from the states that the others leave before it goes on. -/
theorem WP.intro (h : ∀ s', d.rely i s s' → d.inv s' → d.WP i p post s') : d.WP i p post s := by
  cases p with
  | ret x => exact fun t ht hinv => h t ht hinv t (d.rely_refl i t) hinv
  | throw e => exact fun t ht hinv => h t ht hinv t (d.rely_refl i t) hinv
  | call op next => exact fun t ht hinv => h t ht hinv t (d.rely_refl i t) hinv

theorem wp_ret {x : α} (h : ∀ s', d.rely i s s' → d.inv s' → post (.ok x) s') :
    d.WP i (.ret x) post s := h

theorem wp_throw {e : E} (h : ∀ s', d.rely i s s' → d.inv s' → post (.error e) s') :
    d.WP i (.throw e) post s := h

/-- What `p` may leave for the program that goes on with its result. -/
def Then (d : Discipline I S Op Answer E) (i : I) (f : α → Process Op Answer E β)
    (post : Except E β → S → Prop) : Except E α → S → Prop
  | .ok x, s => d.WP i (f x) post s
  | .error e, s => post (.error e) s

@[simp] theorem then_ok {f : α → Process Op Answer E β} {post : Except E β → S → Prop} {x : α} :
    d.Then i f post (.ok x) s = d.WP i (f x) post s := rfl

theorem wp_bind {f : α → Process Op Answer E β} {post : Except E β → S → Prop}
    (h : d.WP i p (d.Then i f post) s) : d.WP i (p >>= f) post s := by
  induction p generalizing s with
  | ret x => exact WP.intro h
  | throw e => exact h
  | call op next ih =>
      intro t ht hinv r u hexec
      obtain ⟨hinv', hguar, hnext⟩ := h t ht hinv r u hexec
      exact ⟨hinv', hguar, ih r hnext⟩

theorem wp_ofExcept {r : Except E α} (h : ∀ s', d.rely i s s' → d.inv s' → post r s') :
    d.WP i (.ofExcept r) post s := by
  cases r with
  | ok x => exact h
  | error e => exact h

/-- A computation without operations does not give way to the others. -/
theorem wp_ofExcept_bind {r : Except E α} {f : α → Process Op Answer E β}
    {post : Except E β → S → Prop} (herror : ∀ e, r = .error e → d.WP i (.throw e) post s)
    (hok : ∀ x, r = .ok x → d.WP i (f x) post s) : d.WP i (.ofExcept r >>= f) post s := by
  cases r with
  | ok x => exact hok x rfl
  | error e => exact herror e rfl

theorem wp_await {op : Op} {post : Except E (Answer op) → S → Prop}
    (h : ∀ s', d.rely i s s' → d.inv s' → ∀ r s'', d.exec i op s' r s'' →
      d.inv s'' ∧ d.guar i s' s'' ∧ ∀ t, d.rely i s'' t → d.inv t → post r t) :
    d.WP i (.await op) post s := by
  intro s' hrely hinv r s'' hexec
  obtain ⟨hinv', hguar, hpost⟩ := h s' hrely hinv r s'' hexec
  exact ⟨hinv', hguar, wp_ofExcept hpost⟩

theorem wp_tryCatch {handler : E → Process Op Answer E α}
    (h : d.WP i p (fun r s => match r with
      | .ok x => post (.ok x) s
      | .error e => d.WP i (handler e) post s) s) : d.WP i (p.tryCatch handler) post s := by
  induction p generalizing s with
  | ret x => exact h
  | throw e => exact WP.intro h
  | call op next ih =>
      intro t ht hinv r u hexec
      obtain ⟨hinv', hguar, hnext⟩ := h t ht hinv r u hexec
      exact ⟨hinv', hguar, ih r hnext⟩

/-- The cleanup does its work from whatever state the body leaves; an error of its own wins. -/
theorem wp_tryFinally {cleanup : Process Op Answer E Unit}
    (h : d.WP i p (fun r s => d.WP i cleanup (fun r' s => match r' with
      | .ok _ => ∀ s', d.rely i s s' → d.inv s' → post r s'
      | .error e => post (.error e) s) s) s) : d.WP i (p.tryFinally cleanup) post s := by
  induction p generalizing s with
  | ret x =>
      refine wp_bind ((WP.intro h).weaken ?_)
      rintro (e | _) t ht
      · exact ht
      · exact ht
  | throw e =>
      refine wp_bind ((WP.intro h).weaken ?_)
      rintro (e | _) t ht
      · exact ht
      · exact ht
  | call op next ih =>
      intro t ht hinv r u hexec
      obtain ⟨hinv', hguar, hnext⟩ := h t ht hinv r u hexec
      exact ⟨hinv', hguar, ih r hnext⟩

/-- A loop keeps what holds of its accumulator, the elements to come and the state. -/
theorem wp_forEach {f : β → γ → Process Op Answer E β} {post : Except E β → S → Prop}
    (loop : β → List γ → S → Prop)
    (hstable : ∀ {acc xs s s'}, loop acc xs s → d.rely i s s' → loop acc xs s')
    (hstep : ∀ {acc x xs s}, loop acc (x :: xs) s → d.WP i (f acc x) (fun r s => match r with
      | .ok acc' => loop acc' xs s
      | .error e => post (.error e) s) s)
    (hdone : ∀ {acc s}, loop acc [] s → d.inv s → post (.ok acc) s) {acc : β} {xs : List γ}
    (h : loop acc xs s) : d.WP i (Process.forEach f xs acc) post s := by
  induction xs generalizing acc s with
  | nil => exact fun s' hrely hinv => hdone (hstable h hrely) hinv
  | cons x xs ih =>
      refine wp_bind ((hstep h).weaken ?_)
      rintro (e | acc') t ht
      · exact ht
      · exact ih ht

/-- When every program keeps its promises, so does every interleaving of them. -/
theorem reaches_inv [DecidableEq I] {σ σ' : System I S Op Answer E α}
    {post : I → Except E α → S → Prop} (hinv : d.inv σ.state)
    (hwp : ∀ i, d.WP i (σ.programs i) (post i) σ.state)
    (h : System.Reaches d.idle d.exec σ σ') :
    d.inv σ'.state ∧ ∀ i, d.WP i (σ'.programs i) (post i) σ'.state := by
  induction h with
  | refl => exact ⟨hinv, hwp⟩
  | tail _ hstep ih =>
      obtain ⟨hinv, hwp⟩ := ih
      cases hstep with
      | idle hidle =>
          exact ⟨d.inv_idle hinv hidle, fun i => (hwp i).stable (d.rely_idle hidle)⟩
      | @call s s' programs i op next r hprogram hexec =>
          have hcall : d.WP i (.call op next) (post i) s := hprogram ▸ hwp i
          obtain ⟨hinv', hguar, hnext⟩ := hcall s (d.rely_refl i s) hinv r s' hexec
          refine ⟨hinv', fun j => ?_⟩
          by_cases hj : j = i
          · subst hj
            dsimp only
            rw [Function.update_self]
            exact hnext
          · dsimp only
            rw [Function.update_of_ne hj]
            exact (hwp j).stable (d.rely_guar hj hguar)

end Discipline

end OlympusMetrics
