import OlympusMetrics.Library.Process

/-!
Programs with marks, and schedules of their steps.

A mark is a step that changes nothing but bookkeeping: it records where a
program is. Erasing the marks gives the program back, and every interleaving
of the erased programs is one of the marked programs.
-/

namespace OlympusMetrics

/-- An operation, or a mark. -/
inductive Marked (Op Mark : Type)
  | operation (op : Op)
  | mark (mark : Mark)

/-- A mark answers nothing. -/
def Marked.Answer {Op : Type} (Mark : Type) (Answer : Op → Type) : Marked Op Mark → Type
  | .operation op => Answer op
  | .mark _ => Unit

/-- A program that may set marks. -/
abbrev MarkedProcess (Op : Type) (Answer : Op → Type) (Mark E α : Type) :=
  Process (Marked Op Mark) (Marked.Answer Mark Answer) E α

namespace Process

variable {Op : Type} {Answer : Op → Type} {Mark E α β : Type}

/-- A program as one that sets no marks. -/
def unmarked : Process Op Answer E α → MarkedProcess Op Answer Mark E α
  | .ret x => .ret x
  | .throw e => .throw e
  | .call op next => .call (.operation op) (fun r => (next r).unmarked)

/-- Sets a mark. -/
def mark (m : Mark) : MarkedProcess Op Answer Mark E Unit := .await (Marked.mark m)

/-- A program without its marks. -/
def erase : MarkedProcess Op Answer Mark E α → Process Op Answer E α
  | .ret x => .ret x
  | .throw e => .throw e
  | .call (.operation op) next => .call op (fun r => (next r).erase)
  | .call (.mark _) next => (next (.ok ())).erase

@[simp] theorem erase_ret (x : α) :
    (Process.ret x : MarkedProcess Op Answer Mark E α).erase = .ret x := rfl

@[simp] theorem erase_throw (e : E) :
    (Process.throw e : MarkedProcess Op Answer Mark E α).erase = .throw e := rfl

@[simp] theorem erase_ofExcept (r : Except E α) :
    (Process.ofExcept r : MarkedProcess Op Answer Mark E α).erase = .ofExcept r := by
  cases r with
  | ok x => rfl
  | error e => rfl

@[simp] theorem erase_unmarked (p : Process Op Answer E α) :
    (p.unmarked : MarkedProcess Op Answer Mark E α).erase = p := by
  induction p with
  | ret x => rfl
  | throw e => rfl
  | call op next ih =>
      change Process.call op (fun r => (next r).unmarked.erase) = _
      rw [funext ih]

@[simp] theorem erase_mark_bind (m : Mark) (f : Unit → MarkedProcess Op Answer Mark E α) :
    (mark m >>= f).erase = (f ()).erase := rfl

@[simp] theorem erase_bind (p : MarkedProcess Op Answer Mark E α)
    (f : α → MarkedProcess Op Answer Mark E β) :
    (p >>= f).erase = p.erase >>= fun x => (f x).erase := by
  induction p with
  | ret x => rfl
  | throw e => rfl
  | call op next ih =>
      cases op with
      | operation op => exact congrArg (Process.call op) (funext ih)
      | mark m => exact ih (.ok ())

@[simp] theorem erase_tryFinally (p : MarkedProcess Op Answer Mark E α)
    (cleanup : MarkedProcess Op Answer Mark E Unit) :
    (p.tryFinally cleanup).erase = p.erase.tryFinally cleanup.erase := by
  induction p with
  | ret x => exact erase_bind cleanup (fun _ => .ret x)
  | throw e => exact erase_bind cleanup (fun _ => .throw e)
  | call op next ih =>
      cases op with
      | operation op => exact congrArg (Process.call op) (funext ih)
      | mark m => exact ih (.ok ())

theorem unmarked_bind (p : Process Op Answer E α) (f : α → Process Op Answer E β) :
    ((p >>= f).unmarked : MarkedProcess Op Answer Mark E β) =
      p.unmarked >>= fun x => (f x).unmarked := by
  induction p with
  | ret x => rfl
  | throw e => rfl
  | call op next ih => exact congrArg (Process.call (Marked.operation op)) (funext ih)

end Process

/-! ### Interleavings of marked programs -/

section

variable {I S G Op : Type} {Answer : Op → Type} {Mark E α : Type} [DecidableEq I]

/-- An operation acts on the state and a mark on the bookkeeping. -/
def Marked.exec (exec : I → (op : Op) → S → Except E (Answer op) → S → Prop)
    (note : I → Mark → G → G) (i : I) :
    (op : Marked Op Mark) → S × G → Except E (op.Answer Mark Answer) → S × G → Prop
  | .operation op, s, r, s' => exec i op s.1 r s'.1 ∧ s'.2 = s.2
  | .mark m, s, r, s' => r = .ok () ∧ s'.1 = s.1 ∧ s'.2 = note i m s.2

/-- The bookkeeping stays while the state changes on its own. -/
def Marked.idle (idle : S → S → Prop) (s s' : S × G) : Prop := idle s.1 s'.1 ∧ s'.2 = s.2

/-- A system of marked programs. -/
abbrev MarkedSystem (I S G Op : Type) (Answer : Op → Type) (Mark E α : Type) :=
  System I (S × G) (Marked Op Mark) (Marked.Answer Mark Answer) E α

/-- A system without its marks and bookkeeping. -/
def System.erase (σ : MarkedSystem I S G Op Answer Mark E α) : System I S Op Answer E α where
  state := σ.state.1
  programs := fun i => (σ.programs i).erase

variable {idle : S → S → Prop} {exec : I → (op : Op) → S → Except E (Answer op) → S → Prop}
  {note : I → Mark → G → G}

omit [DecidableEq I] in
theorem System.erase_update [DecidableEq I]
    {programs : I → MarkedProcess Op Answer Mark E α} {i : I} {p : MarkedProcess Op Answer Mark E α} :
    (fun j => (Function.update programs i p j).erase) =
      Function.update (fun j => (programs j).erase) i p.erase := by
  funext j
  exact Function.apply_update (fun _ (q : MarkedProcess Op Answer Mark E α) => q.erase) programs i p j

/-- A marked interleaving without its marks is an interleaving of the erased programs. -/
theorem System.Reaches.erase {σ σ' : MarkedSystem I S G Op Answer Mark E α}
    (h : System.Reaches (Marked.idle idle) (Marked.exec exec note) σ σ') :
    System.Reaches idle exec σ.erase σ'.erase := by
  induction h with
  | refl => exact .refl
  | tail _ hstep ih =>
      cases hstep with
      | idle hidle => exact ih.tail (.idle hidle.1)
      | @call s s' programs i op next r hprogram hexec =>
          cases op with
          | operation op =>
              refine ih.tail ?_
              have hcall : (programs i).erase = .call op (fun r => (next r).erase) := by
                rw [hprogram]
                rfl
              have hstep : System.Step idle exec (System.erase ⟨s, programs⟩)
                  ⟨s'.1, Function.update (fun j => (programs j).erase) i (next r).erase⟩ :=
                @System.Step.call _ _ _ _ _ _ _ idle exec s.1 s'.1 (fun j => (programs j).erase) i op
                  (fun r => (next r).erase) r hcall hexec.1
              simpa only [System.erase, System.erase_update] using hstep
          | mark m =>
              obtain ⟨rfl, hstate, -⟩ := hexec
              have herase : (fun j => (Function.update programs i (next (.ok ())) j).erase) =
                  fun j => (programs j).erase := by
                rw [System.erase_update]
                refine Function.update_eq_self_iff.mpr ?_
                rw [hprogram]
                rfl
              simpa only [System.erase, herase, hstate] using ih

/-- A program can set its marks until it is at its next operation. -/
theorem System.exists_at_call {σ : MarkedSystem I S G Op Answer Mark E α} {i : I} {op : Op}
    {next : Except E (Answer op) → Process Op Answer E α}
    (h : (σ.programs i).erase = .call op next) :
    ∃ σ' next', System.Reaches (Marked.idle idle) (Marked.exec exec note) σ σ' ∧
      σ'.erase = σ.erase ∧ σ'.programs i = .call (.operation op) next' ∧
      ∀ r : Except E (Answer op), (next' r).erase = next r := by
  obtain ⟨⟨s, g⟩, programs⟩ := σ
  simp only at h
  generalize hprogram : programs i = p at h
  induction p generalizing g programs with
  | ret x => exact nomatch h
  | throw e => exact nomatch h
  | call op' next' ih =>
      cases op' with
      | operation op' =>
          obtain ⟨rfl, hnext⟩ := Process.call.inj h
          exact ⟨_, next', .refl, rfl, hprogram, congrFun (eq_of_heq hnext)⟩
      | mark m =>
          have hmark : System.Step (Marked.idle idle) (Marked.exec exec note)
              ⟨(s, g), programs⟩
              ⟨(s, note i m g), Function.update programs i (next' (.ok ()))⟩ :=
            .call i hprogram ⟨rfl, rfl, rfl⟩
          obtain ⟨σ', next'', hreach, herase, hrest⟩ := ih (.ok ())
            (Function.update programs i (next' (.ok ()))) (note i m g)
            (Function.update_self ..) h
          refine ⟨σ', next'', (Relation.ReflTransGen.single hmark).trans hreach, ?_, hrest⟩
          rw [herase]
          refine congrArg (System.mk s) (System.erase_update.trans ?_)
          refine Function.update_eq_self_iff.mpr ?_
          rw [hprogram]
          rfl

/-- Marks do not restrict the interleavings. -/
theorem System.Reaches.exists_marked {σ : MarkedSystem I S G Op Answer Mark E α}
    {τ : System I S Op Answer E α} (h : System.Reaches idle exec σ.erase τ) :
    ∃ σ', System.Reaches (Marked.idle idle) (Marked.exec exec note) σ σ' ∧ σ'.erase = τ := by
  induction h with
  | refl => exact ⟨σ, .refl, rfl⟩
  | tail _ hstep ih =>
      obtain ⟨⟨⟨s, g⟩, programs⟩, hreach, herase⟩ := ih
      cases hstep with
      | @idle t t' programs' hidle =>
          obtain ⟨rfl, rfl⟩ := System.mk.inj herase
          exact ⟨⟨(t', g), programs⟩, hreach.tail (.idle ⟨hidle, rfl⟩), rfl⟩
      | @call t t' programs' i op next r hprogram hexec =>
          obtain ⟨rfl, rfl⟩ := System.mk.inj herase
          obtain ⟨⟨⟨s', g'⟩, programs'⟩, next', hmarks, herase', hcall, hnext⟩ :=
            @System.exists_at_call _ _ _ _ _ _ _ _ _ idle exec note _ _ _ _ hprogram
          obtain ⟨rfl, hprograms⟩ := System.mk.inj herase'
          refine ⟨⟨(t', g'), Function.update programs' i (next' r)⟩,
            (hreach.trans hmarks).tail (.call i hcall ⟨hexec, rfl⟩), ?_⟩
          refine congrArg (System.mk t') ?_
          calc (fun j => (Function.update programs' i (next' r) j).erase)
              = Function.update (fun j => (programs' j).erase) i (next' r).erase :=
                System.erase_update
            _ = Function.update (fun j => (programs j).erase) i (next r) := by
                exact congrArg₂ (Function.update · i) hprograms (hnext r)

end

/-! ### Schedules -/

section

variable {I T S Op : Type} {Answer : Op → Type} {E α : Type} [DecidableEq I]

/-- One entry of a schedule: a program takes its next step, or the state changes on its own. -/
inductive Turn (I T : Type)
  | run (i : I)
  | idle (t : T)

/-- Plays a schedule, where `move` and `tick` say what a step does. -/
def System.play (move : I → (op : Op) → S → Option (Except E (Answer op) × S))
    (tick : T → S → Option S) :
    List (Turn I T) → System I S Op Answer E α → Option (System I S Op Answer E α)
  | [], σ => some σ
  | .run i :: turns, σ =>
      match σ.programs i with
      | .call op next =>
          (move i op σ.state).bind (fun moved => System.play move tick turns
            ⟨moved.2, Function.update σ.programs i (next moved.1)⟩)
      | _ => none
  | .idle t :: turns, σ =>
      (tick t σ.state).bind (fun s => System.play move tick turns ⟨s, σ.programs⟩)

variable {move : I → (op : Op) → S → Option (Except E (Answer op) × S)} {tick : T → S → Option S}
  {idle : S → S → Prop} {exec : I → (op : Op) → S → Except E (Answer op) → S → Prop}

/-- A schedule that goes through is an interleaving. -/
theorem System.reaches_of_play (hmove : ∀ i op s r s', move i op s = some (r, s') → exec i op s r s')
    (htick : ∀ t s s', tick t s = some s' → idle s s') {turns : List (Turn I T)}
    {σ σ' : System I S Op Answer E α} (h : System.play move tick turns σ = some σ') :
    System.Reaches idle exec σ σ' := by
  induction turns generalizing σ with
  | nil =>
      obtain rfl := Option.some.inj h
      exact .refl
  | cons turn turns ih =>
      cases turn with
      | run i =>
          unfold System.play at h
          split at h
          · next op next hprogram =>
              obtain ⟨⟨r, s'⟩, hmoved, hrest⟩ := Option.bind_eq_some_iff.mp h
              exact Relation.ReflTransGen.head (.call i hprogram (hmove i op σ.state r s' hmoved))
                (ih hrest)
          · exact nomatch h
      | idle t =>
          obtain ⟨s', hticked, hrest⟩ := Option.bind_eq_some_iff.mp h
          exact Relation.ReflTransGen.head (.idle (htick t σ.state s' hticked)) (ih hrest)

/-- A schedule that ends in a state that passes a check. -/
theorem System.exists_of_play (hmove : ∀ i op s r s', move i op s = some (r, s') → exec i op s r s')
    (htick : ∀ t s s', tick t s = some s' → idle s s') {turns : List (Turn I T)}
    {σ : System I S Op Answer E α} {check : System I S Op Answer E α → Bool}
    (h : (System.play move tick turns σ).any check = true) :
    ∃ σ', System.Reaches idle exec σ σ' ∧ check σ' = true := by
  cases hplay : System.play move tick turns σ with
  | none =>
      rw [hplay] at h
      exact nomatch h
  | some σ' =>
      rw [hplay] at h
      exact ⟨σ', System.reaches_of_play hmove htick hplay, h⟩

end

end OlympusMetrics
