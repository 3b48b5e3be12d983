import OlympusMetrics.Library.CrashRuns

/-!
Programs over the operations of one layer, carried out by programs over the
operations of the layer below.

What is proved of each operation's own program and of the program above it
gives what holds of the two together.
-/

namespace OlympusMetrics

namespace Process

variable {S Op Op' : Type} {Answer : Op → Type} {Answer' : Op' → Type} {E α β : Type}

/-- Carries out every operation of a program by a program of the layer below. -/
def through (f : (op : Op) → Process Op' Answer' E (Answer op)) :
    Process Op Answer E α → Process Op' Answer' E α
  | .ret x => .ret x
  | .throw e => .throw e
  | .call op next => (f op).attempt.bind (fun r => (next r).through f)

section

variable {exec : (op : Op) → S → Except E (Answer op) → S → Prop}
  {exec' : (op : Op') → S → Except E (Answer' op) → S → Prop} {inv : S → Prop} {s s' : S}

theorem meets_attempt {p : Process Op Answer E α} {post : Except E (Except E α) → S → Prop}
    (h : Meets exec inv p (fun r s => post (.ok r) s) s) : Meets exec inv p.attempt post s := by
  induction p generalizing s with
  | ret x => exact h
  | throw e => exact h
  | call op next ih => exact ⟨h.1, fun r s' hexec => ih r (h.2 r s' hexec)⟩

/-- When the operations' programs do what the operations may do, the whole does what the program
may do. -/
theorem meets_through {f : (op : Op) → Process Op' Answer' E (Answer op)} (hinv : ∀ s, inv s)
    (hf : ∀ op s, Meets exec' inv (f op) (fun r s' => exec op s r s') s)
    (p : Process Op Answer E α) (s : S) :
    Meets exec' inv (p.through f) (fun r s' => Runs exec p s (some r) s') s := by
  induction p generalizing s with
  | ret x => exact ⟨hinv s, .ret⟩
  | throw e => exact ⟨hinv s, .throw⟩
  | call op next ih =>
      refine meets_bind (meets_attempt ((hf op s).finally ?_))
      intro r s' _ hexec
      exact (ih r s').finally (fun out s'' _ hrun => .call hexec hrun)

/-- A run is one on a store of which less is known. -/
theorem Runs.forget {S' : Type} {exec' : (op : Op) → S' → Except E (Answer op) → S' → Prop}
    (f : S → S') (hexec : ∀ op s r s', exec op s r s' → exec' op (f s) r (f s'))
    {p : Process Op Answer E α} {out : Option (Except E α)} (hrun : Runs exec p s out s') :
    Runs exec' p (f s) out (f s') := by
  induction hrun with
  | stop => exact .stop
  | ret => exact .ret
  | throw => exact .throw
  | call hcall _ ih => exact .call (hexec _ _ _ _ hcall) ih

/-- A run of a program whose operations have fixed answers ends as the program does. -/
theorem Runs.eq_eval {answer : (op : Op) → Except E (Answer op)}
    (hexec : ∀ op s r s', exec op s r s' → r = answer op) {p : Process Op Answer E α}
    {out : Option (Except E α)} (hrun : Runs exec p s out s') :
    ∀ r, out = some r → r = p.eval answer := by
  induction hrun with
  | stop => exact fun r hr => by cases hr
  | ret => exact fun r hr => (Option.some.inj hr).symm
  | throw => exact fun r hr => (Option.some.inj hr).symm
  | call hcall _ ih =>
      intro r hr
      rw [ih r hr, hexec _ _ _ _ hcall]
      rfl

end

end Process

end OlympusMetrics
