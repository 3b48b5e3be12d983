import OlympusMetrics.Library.Lookup

/-!
Computations whose reads and lookups are answered by two functions.
-/

namespace OlympusMetrics.Lookup

variable {Q R K V E α β : Type}

namespace Prog

/-- The result of a computation against fixed answers. -/
def given (answer : Q → R) (value : K → V) : Prog Q R K V E α → Except E α
  | .ret x => .ok x
  | .fail e => .error e
  | .read q next => (next (answer q)).given answer value
  | .ask key next => (next (value key)).given answer value

variable {answer : Q → R} {value : K → V}

@[simp] theorem given_ret (x : α) :
    (.ret x : Prog Q R K V E α).given answer value = .ok x := rfl

@[simp] theorem given_fail (e : E) :
    (.fail e : Prog Q R K V E α).given answer value = .error e := rfl

@[simp] theorem given_read (q : Q) (next : R → Prog Q R K V E α) :
    (Prog.read q next).given answer value = (next (answer q)).given answer value := rfl

@[simp] theorem given_ask (key : K) (next : V → Prog Q R K V E α) :
    (Prog.ask key next).given answer value = (next (value key)).given answer value := rfl

/-- A computation in sequence with another one goes on with the first one's result. -/
theorem given_bind_ok {p : Prog Q R K V E α} {f : α → Prog Q R K V E β} {x : α}
    (h : p.given answer value = .ok x) :
    (p >>= f).given answer value = (f x).given answer value := by
  induction p with
  | ret y =>
      simp only [given_ret, Except.ok.injEq] at h
      subst h
      rfl
  | fail e => simp at h
  | read q next ih => exact ih _ h
  | ask key next ih => exact ih _ h

end Prog

end OlympusMetrics.Lookup
