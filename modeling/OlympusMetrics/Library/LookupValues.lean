import OlympusMetrics.Library.CachedAnswers

/-!
Values that lookups keep to.

If the body of every lookup returns good values where it is answered good values,
and the fallbacks are good, then all lookups return good values and leave good
values cached, wherever the guard cuts them off.
-/

namespace OlympusMetrics.Lookup

variable {Q R K V E α β : Type}

namespace Prog

/-- Whatever the store answers, a computation that is answered good values ends with `post`. -/
def Gives (good : K → V → Prop) (post : α → Prop) : Prog Q R K V E α → Prop
  | .ret x => post x
  | .fail _ => True
  | .read _ next => ∀ r, Gives good post (next r)
  | .ask key next => ∀ v, good key v → Gives good post (next v)

theorem Gives.bind {good : K → V → Prop} {p : Prog Q R K V E α} {f : α → Prog Q R K V E β}
    {mid : α → Prop} {post : β → Prop} (hp : p.Gives good mid)
    (hf : ∀ x, mid x → (f x).Gives good post) : (p >>= f).Gives good post := by
  induction p with
  | ret x => exact hf x hp
  | fail e => trivial
  | read q next ih => exact fun r => ih r (hp r)
  | ask key next ih => exact fun v hv => ih v (hp v hv)

/-- Where any result will do, nothing has to be known of the answers. -/
theorem gives_of_forall {good : K → V → Prop} {post : α → Prop} (h : ∀ x, post x)
    (p : Prog Q R K V E α) : p.Gives good post := by
  induction p with
  | ret x => exact h x
  | fail e => trivial
  | read q next ih => exact ih
  | ask key next ih => exact fun v _ => ih v

end Prog

variable [DecidableEq K] {good : K → V → Prop}

/-- Every cached value is good. -/
def Session.Good (good : K → V → Prop) (s : Session Q K V) : Prop :=
  ∀ key v, s.cached key = some v → good key v

theorem Session.good_fresh : (Session.fresh : Session Q K V).Good good := by
  intro key v h
  cases h

theorem Session.Good.cons {s s' : Session Q K V} (hs : s.Good good) {key : K} {entry : Entry V}
    (hvalue : good key entry.value) (hcache : s'.cache = (key, entry) :: s.cache) :
    s'.Good good := by
  intro k v hk
  rw [Session.cached_cons hcache] at hk
  split at hk
  · next heq =>
      rw [heq, ← Option.some.inj hk]
      exact hvalue
  · exact hs k v hk

theorem run_gives {answer : Q → R}
    {look : K → Session Q K V → Option (Except E V × Session Q K V)}
    (hlook : ∀ key s r s', s.Good good → look key s = some (r, s') →
      s'.Good good ∧ ∀ v, r = .ok v → good key v)
    {post : α → Prop} {p : Prog Q R K V E α} (hp : p.Gives good post) {s s' : Session Q K V}
    (hs : s.Good good) {r : Except E α} (h : p.run answer look s = some (r, s')) :
    s'.Good good ∧ ∀ x, r = .ok x → post x := by
  induction p generalizing s with
  | ret x =>
      obtain ⟨rfl, rfl⟩ := Prod.mk.inj (Option.some.inj h)
      exact ⟨hs, fun y hy => Except.ok.inj hy ▸ hp⟩
  | fail e =>
      obtain ⟨rfl, rfl⟩ := Prod.mk.inj (Option.some.inj h)
      exact ⟨hs, fun y hy => by cases hy⟩
  | read q next ih =>
      have hreads : Session.Good good { s with reads := s.reads ++ [q] } := hs
      exact ih _ (hp _) hreads h
  | ask key next ih =>
      rw [Prog.run] at h
      split at h
      · cases h
      · next heq =>
          obtain ⟨rfl, rfl⟩ := Prod.mk.inj (Option.some.inj h)
          exact ⟨(hlook _ _ _ _ hs heq).1, fun y hy => by cases hy⟩
      · next v mid heq =>
          obtain ⟨hmid, hvalue⟩ := hlook _ _ _ _ hs heq
          exact ih v (hp v (hvalue v rfl)) hmid h

variable {service : Service Q R K V E}

/-- A lookup from good cached values returns a good value and leaves good values cached. -/
theorem look_gives (hfallback : ∀ key, good key (service.fallback key))
    (hbody : ∀ key, (service.body key).Gives good (good key)) {fuel : ℕ} {inFlight : List K}
    {key : K} {s s' : Session Q K V} (hs : s.Good good) {r : Except E V}
    (h : service.look fuel inFlight key s = some (r, s')) :
    s'.Good good ∧ ∀ v, r = .ok v → good key v := by
  induction fuel generalizing inFlight key s r s' with
  | zero => cases h
  | succ fuel ih =>
      rw [Service.look] at h
      split at h
      · obtain ⟨rfl, rfl⟩ := Prod.mk.inj (Option.some.inj h)
        exact ⟨hs, fun v hv => Except.ok.inj hv ▸ hfallback key⟩
      · split at h
        · next entry hentry =>
            obtain ⟨rfl, rfl⟩ := Prod.mk.inj (Option.some.inj h)
            refine ⟨hs, fun v hv => hs key v ?_⟩
            rw [Session.cached, hentry, ← Except.ok.inj hv]
            rfl
        · split at h
          · cases h
          · next result mid heq =>
              have hcuts : Session.Good good { s with cuts := [] } := hs
              obtain ⟨hmid, hvalue⟩ :=
                run_gives (fun _ _ _ _ hgood hlook => ih hgood hlook) (hbody key) hcuts heq
              split at h
              · obtain ⟨rfl, rfl⟩ := Prod.mk.inj (Option.some.inj h)
                exact ⟨hmid, fun v hv => by cases hv⟩
              · next v =>
                  obtain ⟨rfl, rfl⟩ := Prod.mk.inj (Option.some.inj h)
                  exact ⟨hmid.cons (hvalue v rfl) rfl,
                    fun w hw => Except.ok.inj hw ▸ hvalue v rfl⟩

/-- Computations at the top level leave good values cached. -/
theorem good_of_reached (hfallback : ∀ key, good key (service.fallback key))
    (hbody : ∀ key, (service.body key).Gives good (good key)) {s : Session Q K V}
    (h : service.Reached s) : s.Good good := by
  induction h with
  | fresh => exact Session.good_fresh
  | @run α p fuel s s' r _ hrun ih =>
      have hany : p.Gives good (fun _ => True) := Prog.gives_of_forall (fun _ => trivial) p
      exact (run_gives (fun _ _ _ _ hgood hlook => look_gives hfallback hbody hgood hlook) hany ih
        hrun).1

end OlympusMetrics.Lookup
