import OlympusMetrics.Library.Lookup

/-!
Computations answered from what a session has cached.

A cached value stays. A key that no body asks for is only ever looked up at the
top level, where nothing is in flight above it, so its value is what its body
gives from the cached values of the keys that the body asks for.
-/

namespace OlympusMetrics.Lookup

variable {Q R K V E α β : Type} [DecidableEq K]

namespace Session

/-- The value that is cached for a key. -/
def cached (s : Session Q K V) (key : K) : Option V := (s.cache.lookup key).map (·.value)

@[simp] theorem cached_fresh (key : K) : (fresh : Session Q K V).cached key = none := rfl

theorem cached_cons {s s' : Session Q K V} {key : K} {entry : Entry V}
    (h : s'.cache = (key, entry) :: s.cache) (k : K) :
    s'.cached k = if k = key then some entry.value else s.cached k := by
  rw [cached, h, List.lookup_cons]
  by_cases hk : k = key
  · simp [hk]
  · rw [beq_false_of_ne hk, if_neg hk]
    rfl

/-- Every cached value is still cached. -/
def Keeps (s s' : Session Q K V) : Prop := ∀ key v, s.cached key = some v → s'.cached key = some v

theorem Keeps.refl (s : Session Q K V) : s.Keeps s := fun _ _ h => h

theorem Keeps.cons {s s' : Session Q K V} {key : K} {entry : Entry V} (hnone : s.cached key = none)
    (h : s'.cache = (key, entry) :: s.cache) : s.Keeps s' := by
  intro k v hk
  have hne : k ≠ key := by
    rintro rfl
    rw [hnone] at hk
    exact nomatch hk
  rw [cached_cons h, if_neg hne, hk]

theorem Keeps.trans {s s' s'' : Session Q K V} (h : s.Keeps s') (h' : s'.Keeps s'') : s.Keeps s'' :=
  fun key v hcached => h' key v (h key v hcached)

end Session

/-! ### Answers from a cache -/

namespace Prog

/-- The result of a computation that asks only for what is cached. -/
def fromCache (answer : Q → R) (cached : K → Option V) : Prog Q R K V E α → Option (Except E α)
  | .ret x => some (.ok x)
  | .fail e => some (.error e)
  | .read q next => (next (answer q)).fromCache answer cached
  | .ask key next => (cached key).bind (fun v => (next v).fromCache answer cached)

variable {answer : Q → R} {cached cached' : K → Option V}

omit [DecidableEq K]

@[simp] theorem fromCache_ret (x : α) :
    (.ret x : Prog Q R K V E α).fromCache answer cached = some (.ok x) := rfl

@[simp] theorem fromCache_fail (e : E) :
    (.fail e : Prog Q R K V E α).fromCache answer cached = some (.error e) := rfl

@[simp] theorem fromCache_read (q : Q) (next : R → Prog Q R K V E α) :
    (Prog.read q next).fromCache answer cached = (next (answer q)).fromCache answer cached := rfl

@[simp] theorem fromCache_ask (key : K) (next : V → Prog Q R K V E α) :
    (Prog.ask key next).fromCache answer cached =
      (cached key).bind (fun v => (next v).fromCache answer cached) := rfl

@[simp] theorem fromCache_get (q : Q) :
    (get q : Prog Q R K V E R).fromCache answer cached = some (.ok (answer q)) := rfl

/-- A result stays when more is cached. -/
theorem fromCache_mono {p : Prog Q R K V E α} {r : Except E α}
    (hcached : ∀ key v, cached key = some v → cached' key = some v)
    (h : p.fromCache answer cached = some r) : p.fromCache answer cached' = some r := by
  induction p with
  | ret x => exact h
  | fail e => exact h
  | read q next ih => exact ih _ h
  | ask key next ih =>
      obtain ⟨v, hv, hnext⟩ := Option.bind_eq_some_iff.mp h
      rw [fromCache_ask, hcached key v hv]
      exact ih v hnext

/-- Two computations in sequence succeed when both do. -/
theorem fromCache_bind_ok_iff {p : Prog Q R K V E α} {f : α → Prog Q R K V E β} {y : β} :
    (p >>= f).fromCache answer cached = some (.ok y) ↔
      ∃ x, p.fromCache answer cached = some (.ok x) ∧
        (f x).fromCache answer cached = some (.ok y) := by
  induction p with
  | ret x => simp
  | fail e => simp
  | read q next ih => exact ih _
  | ask key next ih =>
      rw [ask_bind, fromCache_ask, fromCache_ask]
      cases cached key with
      | none => simp
      | some v => exact ih v

end Prog

/-! ### What lookups cache -/

theorem run_keeps {answer : Q → R}
    {look : K → Session Q K V → Option (Except E V × Session Q K V)}
    (hlook : ∀ key s r s', look key s = some (r, s') → s.Keeps s') {p : Prog Q R K V E α}
    {s s' : Session Q K V} {r : Except E α} (h : p.run answer look s = some (r, s')) :
    s.Keeps s' := by
  induction p generalizing s with
  | ret x =>
      obtain ⟨-, rfl⟩ := Prod.mk.inj (Option.some.inj h)
      exact .refl s
  | fail e =>
      obtain ⟨-, rfl⟩ := Prod.mk.inj (Option.some.inj h)
      exact .refl s
  | read q next ih =>
      rw [Prog.run] at h
      have hrest : { s with reads := s.reads ++ [q] }.Keeps s' := ih _ h
      exact hrest
  | ask key next ih =>
      rw [Prog.run] at h
      split at h
      · cases h
      · next heq =>
          obtain ⟨-, rfl⟩ := Prod.mk.inj (Option.some.inj h)
          exact hlook _ _ _ _ heq
      · next heq => exact (hlook _ _ _ _ heq).trans (ih _ h)

variable (service : Service Q R K V E)

theorem look_keeps {fuel : ℕ} {inFlight : List K} {key : K} {s s' : Session Q K V}
    {r : Except E V} (h : service.look fuel inFlight key s = some (r, s')) : s.Keeps s' := by
  induction fuel generalizing inFlight key s r s' with
  | zero => cases h
  | succ fuel ih =>
      rw [Service.look] at h
      split at h
      · obtain ⟨-, rfl⟩ := Prod.mk.inj (Option.some.inj h)
        exact .refl s
      · split at h
        · obtain ⟨-, rfl⟩ := Prod.mk.inj (Option.some.inj h)
          exact .refl s
        · next hnone =>
            split at h
            · cases h
            · next result mid heq =>
                have hmid : { s with cuts := [] }.Keeps mid :=
                  run_keeps (fun _ _ _ _ hlook => ih hlook) heq
                split at h
                · obtain ⟨-, rfl⟩ := Prod.mk.inj (Option.some.inj h)
                  exact hmid
                · obtain ⟨-, rfl⟩ := Prod.mk.inj (Option.some.inj h)
                  intro k v hk
                  have hne : k ≠ key := by
                    rintro rfl
                    rw [Session.cached, hnone] at hk
                    cases hk
                  rw [Session.cached_cons (s := mid) rfl, if_neg hne]
                  exact hmid k v hk

/-- A lookup that is not cut returns what is cached for it from then on. -/
theorem cached_of_look {fuel : ℕ} {inFlight : List K} {key : K} {s s' : Session Q K V} {v : V}
    (hkey : key ∉ inFlight) (h : service.look fuel inFlight key s = some (.ok v, s')) :
    s'.cached key = some v := by
  cases fuel with
  | zero => cases h
  | succ fuel =>
      rw [Service.look, if_neg hkey] at h
      split at h
      · next entry hentry =>
          obtain ⟨hv, rfl⟩ := Prod.mk.inj (Option.some.inj h)
          rw [Session.cached, hentry, ← Except.ok.inj hv]
          rfl
      · split at h
        · cases h
        · next mid _ =>
            split at h
            · cases h
            · obtain ⟨hv, rfl⟩ := Prod.mk.inj (Option.some.inj h)
              rw [Session.cached_cons (s := mid) rfl, if_pos rfl, ← Except.ok.inj hv]

/-- A computation that asks for nothing in flight gives the same again from what it leaves
cached. -/
theorem fromCache_of_run {fuel : ℕ} {inFlight : List K} {queries : Q → Prop} {keys : K → Prop}
    {p : Prog Q R K V E α} (hp : p.Within queries keys) (hkeys : ∀ key, keys key → key ∉ inFlight)
    {s s' : Session Q K V} {x : α}
    (h : p.run service.answer (service.look fuel inFlight) s = some (.ok x, s')) :
    p.fromCache service.answer s'.cached = some (.ok x) := by
  induction p generalizing s with
  | ret y =>
      obtain ⟨hx, -⟩ := Prod.mk.inj (Option.some.inj h)
      rw [← hx, Prog.fromCache_ret]
  | fail e => cases Option.some.inj h
  | read q next ih => exact ih _ (hp.2 _) h
  | ask key next ih =>
      rw [Prog.run] at h
      split at h
      · cases h
      · cases Option.some.inj h
      · next v mid heq =>
          have hcached : mid.cached key = some v := cached_of_look service (hkeys key hp.1) heq
          have hkeeps : mid.Keeps s' := run_keeps (fun _ _ _ _ => look_keeps service) h
          rw [Prog.fromCache_ask, hkeeps key v hcached]
          exact ih v (hp.2 v) h

omit [DecidableEq K] in
theorem Prog.within_any (p : Prog Q R K V E α) : p.Within (fun _ => True) (fun _ => True) := by
  induction p with
  | ret x => exact trivial
  | fail e => exact trivial
  | read q next ih => exact ⟨trivial, ih⟩
  | ask key next ih => exact ⟨trivial, ih⟩

/-- At the top level any computation gives the same again from what it leaves cached. -/
theorem fromCache_of_run_top {fuel : ℕ} {p : Prog Q R K V E α} {s s' : Session Q K V} {x : α}
    (h : p.run service.answer (service.look fuel []) s = some (.ok x, s')) :
    p.fromCache service.answer s'.cached = some (.ok x) :=
  fromCache_of_run service p.within_any (fun _ _ => List.not_mem_nil) h

/-! ### Keys that no body asks for -/

section inner

variable {service} {queries : Q → Prop} {inner : K → Prop}

theorem run_cached_eq {k : K} {answer : Q → R}
    {look : K → Session Q K V → Option (Except E V × Session Q K V)}
    (hlook : ∀ key s r s', inner key → look key s = some (r, s') → s'.cached k = s.cached k)
    {p : Prog Q R K V E α} (hp : p.Within queries inner) {s s' : Session Q K V} {r : Except E α}
    (h : p.run answer look s = some (r, s')) : s'.cached k = s.cached k := by
  induction p generalizing s with
  | ret x =>
      obtain ⟨-, rfl⟩ := Prod.mk.inj (Option.some.inj h)
      rfl
  | fail e =>
      obtain ⟨-, rfl⟩ := Prod.mk.inj (Option.some.inj h)
      rfl
  | read q next ih =>
      rw [Prog.run] at h
      have hrest : s'.cached k = { s with reads := s.reads ++ [q] }.cached k := ih _ (hp.2 _) h
      exact hrest
  | ask key next ih =>
      rw [Prog.run] at h
      split at h
      · cases h
      · next heq =>
          obtain ⟨-, rfl⟩ := Prod.mk.inj (Option.some.inj h)
          exact hlook _ _ _ _ hp.1 heq
      · next heq => rw [ih _ (hp.2 _) h, hlook _ _ _ _ hp.1 heq]

/-- A lookup that bodies ask for leaves the other keys as they are. -/
theorem look_cached_eq (hbody : ∀ key, (service.body key).Within queries inner) {fuel : ℕ}
    {inFlight : List K} {key : K} (hkey : inner key) {s s' : Session Q K V} {r : Except E V}
    (h : service.look fuel inFlight key s = some (r, s')) {k : K} (hk : ¬inner k) :
    s'.cached k = s.cached k := by
  induction fuel generalizing inFlight key s r s' with
  | zero => cases h
  | succ fuel ih =>
      rw [Service.look] at h
      split at h
      · obtain ⟨-, rfl⟩ := Prod.mk.inj (Option.some.inj h)
        rfl
      · split at h
        · obtain ⟨-, rfl⟩ := Prod.mk.inj (Option.some.inj h)
          rfl
        · split at h
          · cases h
          · next result mid heq =>
              have hmid : mid.cached k = { s with cuts := [] }.cached k :=
                run_cached_eq (fun _ _ _ _ hk hlook => ih hk hlook) (hbody key) heq
              split at h
              · obtain ⟨-, rfl⟩ := Prod.mk.inj (Option.some.inj h)
                exact hmid
              · obtain ⟨-, rfl⟩ := Prod.mk.inj (Option.some.inj h)
                have hne : k ≠ key := fun heq => hk (heq ▸ hkey)
                rw [Session.cached_cons (s := mid) rfl, if_neg hne]
                exact hmid

/-! ### Sessions at the top level -/

/-- The keys that no body asks for hold what their bodies give from the cache. -/
def Service.Settled (service : Service Q R K V E) (inner : K → Prop) (s : Session Q K V) : Prop :=
  ∀ key v, ¬inner key → s.cached key = some v →
    (service.body key).fromCache service.answer s.cached = some (.ok v)

theorem Service.Settled.grow {s s' : Session Q K V} (hs : service.Settled inner s)
    (hkeeps : s.Keeps s') (hsame : ∀ k, ¬inner k → s'.cached k = s.cached k) :
    service.Settled inner s' := by
  intro key v hkey hcached
  rw [hsame key hkey] at hcached
  exact Prog.fromCache_mono hkeeps (hs key v hkey hcached)

theorem Service.Settled.cons {s s' : Session Q K V} (hs : service.Settled inner s) {key : K}
    {entry : Entry V} (hnone : s.cached key = none)
    (hvalue : (service.body key).fromCache service.answer s.cached = some (.ok entry.value))
    (hcache : s'.cache = (key, entry) :: s.cache) : service.Settled inner s' := by
  intro k v hk hcached
  rw [Session.cached_cons hcache] at hcached
  have hkeeps : s.Keeps s' := .cons hnone hcache
  split at hcached
  · next heq =>
      subst heq
      obtain rfl := Option.some.inj hcached
      exact Prog.fromCache_mono hkeeps hvalue
  · exact Prog.fromCache_mono hkeeps (hs k v hk hcached)

/-- A lookup at the top level keeps a session settled. -/
theorem look_settled (hbody : ∀ key, (service.body key).Within queries inner) {fuel : ℕ} {key : K}
    {s s' : Session Q K V} {r : Except E V} (hs : service.Settled inner s)
    (h : service.look fuel [] key s = some (r, s')) : service.Settled inner s' := by
  by_cases hkey : inner key
  · exact hs.grow (look_keeps service h) (fun k hk => look_cached_eq hbody hkey h hk)
  · cases fuel with
    | zero => cases h
    | succ fuel =>
        rw [Service.look, if_neg List.not_mem_nil] at h
        split at h
        · obtain ⟨-, rfl⟩ := Prod.mk.inj (Option.some.inj h)
          exact hs
        · next hnone =>
            split at h
            · cases h
            · next result mid heq =>
                have hsame {k : K} (hk : ¬inner k) : mid.cached k = s.cached k := by
                  have hrun : mid.cached k = { s with cuts := [] }.cached k :=
                    run_cached_eq (fun _ _ _ _ hin hlook => look_cached_eq hbody hin hlook hk)
                      (hbody key) heq
                  exact hrun
                have hkeeps : { s with cuts := [] }.Keeps mid :=
                  run_keeps (fun _ _ _ _ => look_keeps service) heq
                have hmid : service.Settled inner mid := hs.grow hkeeps (fun _ => hsame)
                split at h
                · obtain ⟨-, rfl⟩ := Prod.mk.inj (Option.some.inj h)
                  exact hmid
                · obtain ⟨-, rfl⟩ := Prod.mk.inj (Option.some.inj h)
                  refine hmid.cons ?_ ?_ rfl
                  · rw [hsame hkey, Session.cached, hnone]
                    rfl
                  · -- Only the key itself is in flight, and its body does not ask for it.
                    refine fromCache_of_run service (hbody key) ?_ heq
                    intro k hk hflight
                    exact hkey (List.mem_singleton.mp hflight ▸ hk)

theorem run_settled (hbody : ∀ key, (service.body key).Within queries inner) {fuel : ℕ}
    {p : Prog Q R K V E α} {s s' : Session Q K V} {r : Except E α}
    (hs : service.Settled inner s)
    (h : p.run service.answer (service.look fuel []) s = some (r, s')) :
    service.Settled inner s' := by
  induction p generalizing s with
  | ret x =>
      obtain ⟨-, rfl⟩ := Prod.mk.inj (Option.some.inj h)
      exact hs
  | fail e =>
      obtain ⟨-, rfl⟩ := Prod.mk.inj (Option.some.inj h)
      exact hs
  | read q next ih =>
      rw [Prog.run] at h
      have hread : service.Settled inner { s with reads := s.reads ++ [q] } := hs
      exact ih _ hread h
  | ask key next ih =>
      rw [Prog.run] at h
      split at h
      · cases h
      · next heq =>
          obtain ⟨-, rfl⟩ := Prod.mk.inj (Option.some.inj h)
          exact look_settled hbody hs heq
      · next heq => exact ih _ (look_settled hbody hs heq) h

/-- A session that computations at the top level lead to, one after another. -/
inductive Service.Reached (service : Service Q R K V E) : Session Q K V → Prop
  | fresh : service.Reached .fresh
  | run {α : Type} {p : Prog Q R K V E α} {fuel : ℕ} {s s' : Session Q K V} {r : Except E α} :
      service.Reached s → p.run service.answer (service.look fuel []) s = some (r, s') →
      service.Reached s'

theorem Service.Reached.settled (hbody : ∀ key, (service.body key).Within queries inner)
    {s : Session Q K V} (h : service.Reached s) : service.Settled inner s := by
  induction h with
  | fresh =>
      intro key v _ hcached
      rw [Session.cached_fresh] at hcached
      exact nomatch hcached
  | run _ hrun ih => exact run_settled hbody ih hrun

end inner

end OlympusMetrics.Lookup
