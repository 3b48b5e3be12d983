import Mathlib.Data.List.Basic
import Mathlib.Data.List.Nodup

/-!
Memoised lookups that ask for each other, with a guard that cuts cycles.

The body of a lookup may ask for other lookups. A key that is already in flight
is answered with a fallback, and the value of every lookup that returns is kept
in a cache for the rest of the session. A value computed below a cut depends on
what was in flight, and the cache forgets that.
-/

namespace OlympusMetrics.Lookup

/-- A computation that reads from a store and asks for lookups on the way. -/
inductive Prog (Q R K V E α : Type)
  | ret (x : α)
  | fail (e : E)
  | read (q : Q) (next : R → Prog Q R K V E α)
  | ask (key : K) (next : V → Prog Q R K V E α)

variable {Q R K V E α β : Type}

namespace Prog

def bind (p : Prog Q R K V E α) (f : α → Prog Q R K V E β) : Prog Q R K V E β :=
  match p with
  | .ret x => f x
  | .fail e => .fail e
  | .read q next => .read q (fun r => (next r).bind f)
  | .ask key next => .ask key (fun v => (next v).bind f)

instance : Monad (Prog Q R K V E) where
  pure := .ret
  bind := bind

@[simp] theorem pure_def (x : α) : (pure x : Prog Q R K V E α) = .ret x := rfl

@[simp] theorem ret_bind (x : α) (f : α → Prog Q R K V E β) : (Prog.ret x >>= f) = f x := rfl

@[simp] theorem fail_bind (e : E) (f : α → Prog Q R K V E β) :
    ((Prog.fail e : Prog Q R K V E α) >>= f) = .fail e := rfl

@[simp] theorem read_bind (q : Q) (next : R → Prog Q R K V E α) (f : α → Prog Q R K V E β) :
    (Prog.read q next >>= f) = .read q (fun r => next r >>= f) := rfl

@[simp] theorem ask_bind (key : K) (next : V → Prog Q R K V E α) (f : α → Prog Q R K V E β) :
    (Prog.ask key next >>= f) = .ask key (fun v => next v >>= f) := rfl

theorem bind_assoc {γ : Type} (p : Prog Q R K V E α) (f : α → Prog Q R K V E β)
    (g : β → Prog Q R K V E γ) : (p >>= f) >>= g = p >>= fun x => f x >>= g := by
  induction p with
  | ret x => rfl
  | fail e => rfl
  | read q next ih => exact congrArg (Prog.read q) (funext ih)
  | ask key next ih => exact congrArg (Prog.ask key) (funext ih)

/-- Every result of a computation, whatever it is answered. -/
def Ends (post : α → Prop) : Prog Q R K V E α → Prop
  | .ret x => post x
  | .fail _ => True
  | .read _ next => ∀ r, Ends post (next r)
  | .ask _ next => ∀ v, Ends post (next v)

theorem Ends.bind {p : Prog Q R K V E α} {f : α → Prog Q R K V E β} {mid : α → Prop}
    {post : β → Prop} (hp : p.Ends mid) (hf : ∀ x, mid x → (f x).Ends post) :
    (p >>= f).Ends post := by
  induction p with
  | ret x => exact hf x hp
  | fail e => trivial
  | read q next ih => exact fun r => ih r (hp r)
  | ask key next ih => exact fun v => ih v (hp v)

theorem ends_any (p : Prog Q R K V E α) : p.Ends (fun _ => True) := by
  induction p with
  | ret x => trivial
  | fail e => trivial
  | read q next ih => exact ih
  | ask key next ih => exact ih

/-- Reads one answer of the store. -/
def get (q : Q) : Prog Q R K V E R := .read q .ret

/-- Asks for one lookup. -/
def lookup (key : K) : Prog Q R K V E V := .ask key .ret

/-- Whatever it is answered, a computation makes only the reads of `queries` and asks only for the
lookups of `keys`. -/
def Within (queries : Q → Prop) (keys : K → Prop) : Prog Q R K V E α → Prop
  | .ret _ => True
  | .fail _ => True
  | .read q next => queries q ∧ ∀ r, Within queries keys (next r)
  | .ask key next => keys key ∧ ∀ v, Within queries keys (next v)

variable {queries queries' : Q → Prop} {keys keys' : K → Prop}

theorem Within.bind {p : Prog Q R K V E α} {f : α → Prog Q R K V E β}
    (hp : p.Within queries keys) (hf : ∀ x, (f x).Within queries keys) :
    (p >>= f).Within queries keys := by
  induction p with
  | ret x => exact hf x
  | fail e => exact trivial
  | read q next ih => exact ⟨hp.1, fun r => ih r (hp.2 r)⟩
  | ask key next ih => exact ⟨hp.1, fun v => ih v (hp.2 v)⟩

theorem Within.mono {p : Prog Q R K V E α} (hp : p.Within queries keys)
    (hqueries : ∀ q, queries q → queries' q) (hkeys : ∀ key, keys key → keys' key) :
    p.Within queries' keys' := by
  induction p with
  | ret x => exact trivial
  | fail e => exact trivial
  | read q next ih => exact ⟨hqueries q hp.1, fun r => ih r (hp.2 r)⟩
  | ask key next ih => exact ⟨hkeys key hp.1, fun v => ih v (hp.2 v)⟩

theorem within_get {q : Q} (h : queries q) : (get q : Prog Q R K V E R).Within queries keys :=
  ⟨h, fun _ => trivial⟩

end Prog

/-- A cached value. The flag is bookkeeping only: the guard cut the computation of the value off at
a lookup that was in flight above it. -/
structure Entry (V : Type) where
  value : V
  cutOff : Bool

/-- What a session has gathered. Only the cache influences later results: `cuts` are the keys that
the guard answered, `stale` says that a cut-off entry was served, `reads` are the reads made. -/
structure Session (Q K V : Type) where
  cache : List (K × Entry V)
  cuts : List K
  stale : Bool
  reads : List Q

def Session.fresh : Session Q K V := ⟨[], [], false, []⟩

/-- The store's answers, the guard's fallbacks and the bodies of the lookups. -/
structure Service (Q R K V E : Type) where
  answer : Q → R
  fallback : K → V
  body : K → Prog Q R K V E V

/-- Runs a computation whose lookups are answered by `look`; a lookup that fails fails it. -/
def Prog.run (answer : Q → R)
    (look : K → Session Q K V → Option (Except E V × Session Q K V)) :
    Prog Q R K V E α → Session Q K V → Option (Except E α × Session Q K V)
  | .ret x, s => some (.ok x, s)
  | .fail e, s => some (.error e, s)
  | .read q next, s => (next (answer q)).run answer look { s with reads := s.reads ++ [q] }
  | .ask key next, s =>
      match look key s with
      | none => none
      | some (.error e, s') => some (.error e, s')
      | some (.ok v, s') => (next v).run answer look s'

section run

variable {answer : Q → R} {look : K → Session Q K V → Option (Except E V × Session Q K V)}

theorem Prog.run_bind_ok {p : Prog Q R K V E α} {f : α → Prog Q R K V E β} {s s' : Session Q K V}
    {x : α} (h : p.run answer look s = some (.ok x, s')) :
    (p >>= f).run answer look s = (f x).run answer look s' := by
  induction p generalizing s with
  | ret y =>
      obtain ⟨hx, rfl⟩ := Prod.mk.inj (Option.some.inj h)
      rw [← Except.ok.inj hx]
      rfl
  | fail e => exact nomatch Option.some.inj h
  | read q next ih => exact ih _ h
  | ask key next ih =>
      rw [Prog.ask_bind, Prog.run]
      rw [Prog.run] at h
      split at h
      · exact nomatch h
      · exact nomatch Option.some.inj h
      · next hlook => exact ih _ h

theorem Prog.Ends.run {p : Prog Q R K V E α} {post : α → Prop} (hp : p.Ends post)
    {s s' : Session Q K V} {x : α} (h : p.run answer look s = some (.ok x, s')) : post x := by
  induction p generalizing s with
  | ret y =>
      obtain ⟨hx, -⟩ := Prod.mk.inj (Option.some.inj h)
      exact Except.ok.inj hx ▸ hp
  | fail e => exact nomatch Option.some.inj h
  | read q next ih => exact ih _ (hp _) h
  | ask key next ih =>
      rw [Prog.run] at h
      split at h
      · exact nomatch h
      · exact nomatch Option.some.inj h
      · exact ih _ (hp _) h

end run

variable [DecidableEq K]

/-- One lookup below the keys `inFlight`; the fuel bounds how deep lookups may nest. -/
def Service.look (service : Service Q R K V E) :
    ℕ → List K → K → Session Q K V → Option (Except E V × Session Q K V)
  | 0, _, _, _ => none
  | fuel + 1, inFlight, key, s =>
      if key ∈ inFlight then
        some (.ok (service.fallback key), { s with cuts := s.cuts ++ [key] })
      else
        match s.cache.lookup key with
        | some entry => some (.ok entry.value, { s with stale := s.stale || entry.cutOff })
        | none =>
            match (service.body key).run service.answer (service.look fuel (key :: inFlight))
                { s with cuts := [] } with
            | none => none
            | some (result, s') =>
                let cuts := s'.cuts.filter (fun cut => cut ≠ key)
                match result with
                | .error e => some (.error e, { s' with cuts := s.cuts ++ cuts })
                | .ok v =>
                    some (.ok v,
                      { s' with
                        cache := (key, ⟨v, !cuts.isEmpty⟩) :: s'.cache
                        cuts := s.cuts ++ cuts })

/-- In a fresh session a lookup gives what its body gives below it. -/
theorem Service.look_fresh (service : Service Q R K V E) {fuel : ℕ} {key : K} {r : Except E V}
    {s : Session Q K V} (h : (service.body key).run service.answer (service.look fuel [key]) .fresh =
      some (r, s)) : (service.look (fuel + 1) [] key .fresh).map Prod.fst = some r := by
  have hbody : (service.body key).run service.answer (service.look fuel [key])
      { (Session.fresh : Session Q K V) with cuts := [] } = some (r, s) := h
  rw [Service.look, if_neg List.not_mem_nil]
  simp only [Session.fresh, List.lookup_nil] at hbody ⊢
  rw [hbody]
  cases r <;> rfl

/-- Calls made one after another in one session. -/
def Service.calls (service : Service Q R K V E) (fuel : ℕ) :
    List K → Session Q K V → Option (List (Except E V) × Session Q K V)
  | [], s => some ([], s)
  | key :: keys, s =>
      match service.look fuel [] key s with
      | none => none
      | some (result, s') =>
          match service.calls fuel keys s' with
          | none => none
          | some (results, s'') => some (result :: results, s'')

/-! ### The recursion without a cache -/

/-- `Eval service inFlight p r touched`: without a cache `p` gives `r` below the keys `inFlight`,
and `touched` are the keys it asks for, directly or not. -/
inductive Eval (service : Service Q R K V E) :
    {α : Type} → List K → Prog Q R K V E α → Except E α → List K → Prop
  | ret {α : Type} {inFlight} (x : α) : Eval service inFlight (.ret x) (.ok x) []
  | fail {α : Type} {inFlight} (e : E) :
      Eval service inFlight (.fail e : Prog Q R K V E α) (.error e) []
  | read {α : Type} {inFlight touched q} {next : R → Prog Q R K V E α} {r} :
      Eval service inFlight (next (service.answer q)) r touched →
      Eval service inFlight (.read q next) r touched
  | cut {α : Type} {inFlight touched key} {next : V → Prog Q R K V E α} {r} :
      key ∈ inFlight → Eval service inFlight (next (service.fallback key)) r touched →
      Eval service inFlight (.ask key next) r (key :: touched)
  | ok {α : Type} {inFlight touched touched' key v} {next : V → Prog Q R K V E α} {r} :
      key ∉ inFlight → Eval service (key :: inFlight) (service.body key) (.ok v) touched →
      Eval service inFlight (next v) r touched' →
      Eval service inFlight (.ask key next) r (key :: touched ++ touched')
  | error {α : Type} {inFlight touched key e} {next : V → Prog Q R K V E α} :
      key ∉ inFlight → Eval service (key :: inFlight) (service.body key) (.error e) touched →
      Eval service inFlight (.ask key next) (.error e) (key :: touched)

omit [DecidableEq K] in
theorem Eval.deterministic {service : Service Q R K V E} {inFlight : List K}
    {p : Prog Q R K V E α} {r r' : Except E α} {touched touched' : List K}
    (h : Eval service inFlight p r touched) (h' : Eval service inFlight p r' touched') :
    r = r' := by
  induction h generalizing touched' with
  | ret x => cases h'; rfl
  | fail e => cases h'; rfl
  | read _ ih =>
      cases h' with
      | read hnext => exact ih hnext
  | cut hmem _ ih =>
      cases h' with
      | cut _ hnext => exact ih hnext
      | ok hnot => exact absurd hmem hnot
      | error hnot => exact absurd hmem hnot
  | ok hnot _ _ ihbody ihnext =>
      cases h' with
      | cut hmem => exact absurd hmem hnot
      | ok _ hbody hnext =>
          obtain rfl := Except.ok.inj (ihbody hbody)
          exact ihnext hnext
      | error _ hbody => exact nomatch ihbody hbody
  | error hnot _ ihbody =>
      cases h' with
      | cut hmem => exact absurd hmem hnot
      | ok _ hbody => exact nomatch ihbody hbody
      | error _ hbody =>
          obtain rfl := Except.error.inj (ihbody hbody)
          rfl

omit [DecidableEq K] in
/-- A computation that touches none of the outer keys in flight gives the same below any others
that it does not touch. -/
theorem Eval.change_outer {service : Service Q R K V E} (path outer outer' : List K)
    {p : Prog Q R K V E α} {r : Except E α} {touched : List K}
    (h : Eval service (path ++ outer) p r touched) (houter : ∀ key ∈ touched, key ∉ outer)
    (houter' : ∀ key ∈ touched, key ∉ outer') : Eval service (path ++ outer') p r touched := by
  generalize hstack : path ++ outer = inFlight at h
  induction h generalizing path with
  | ret x => exact .ret x
  | fail e => exact .fail e
  | read _ ih => exact .read (ih path houter houter' hstack)
  | @cut _ _ _ key _ _ hmem _ ih =>
      subst hstack
      have hpath : key ∈ path := by
        rcases List.mem_append.mp hmem with h | h
        · exact h
        · exact absurd h (houter key List.mem_cons_self)
      refine .cut (List.mem_append_left _ hpath) (ih path ?_ ?_ rfl)
      · exact fun k hk => houter k (List.mem_cons_of_mem _ hk)
      · exact fun k hk => houter' k (List.mem_cons_of_mem _ hk)
  | @ok _ _ _ _ key _ _ _ hnot _ _ ihbody ihnext =>
      subst hstack
      have hpath : key ∉ path := fun h => hnot (List.mem_append_left _ h)
      refine .ok ?_ (ihbody (key :: path) ?_ ?_ rfl) (ihnext path ?_ ?_ rfl)
      · rw [List.mem_append, not_or]
        exact ⟨hpath, houter' key List.mem_cons_self⟩
      · exact fun k hk => houter k (List.mem_cons_of_mem _ (List.mem_append_left _ hk))
      · exact fun k hk => houter' k (List.mem_cons_of_mem _ (List.mem_append_left _ hk))
      · exact fun k hk => houter k (List.mem_cons_of_mem _ (List.mem_append_right _ hk))
      · exact fun k hk => houter' k (List.mem_cons_of_mem _ (List.mem_append_right _ hk))
  | @error _ _ _ key _ _ hnot _ ihbody =>
      subst hstack
      have hpath : key ∉ path := fun h => hnot (List.mem_append_left _ h)
      refine .error ?_ (ihbody (key :: path) ?_ ?_ rfl)
      · rw [List.mem_append, not_or]
        exact ⟨hpath, houter' key List.mem_cons_self⟩
      · exact fun k hk => houter k (List.mem_cons_of_mem _ hk)
      · exact fun k hk => houter' k (List.mem_cons_of_mem _ hk)

omit [DecidableEq K] in
theorem Eval.ask_ok {service : Service Q R K V E} {inFlight touched touched' : List K} {key : K}
    {v : V} {next : V → Prog Q R K V E α} {r : Except E α}
    (h : Eval service inFlight (.ask key .ret) (.ok v) touched)
    (hnext : Eval service inFlight (next v) r touched') :
    Eval service inFlight (.ask key next) r (touched ++ touched') := by
  cases h with
  | cut hmem hret =>
      cases hret
      exact .cut hmem hnext
  | ok hnot hbody hret =>
      cases hret
      rw [List.append_nil]
      exact .ok hnot hbody hnext

omit [DecidableEq K] in
theorem Eval.ask_error {service : Service Q R K V E} {inFlight touched : List K} {key : K}
    {e : E} (next : V → Prog Q R K V E α)
    (h : Eval service inFlight (.ask key .ret) (.error e) touched) :
    Eval service inFlight (.ask key next) (.error e) touched := by
  cases h with
  | cut _ hret => cases hret
  | ok _ _ hret => cases hret
  | error hnot hbody => exact .error hnot hbody

/-! ### What every session keeps -/

/-- A session only gains cached keys, cuts and staleness. -/
structure Session.Extends (s s' : Session Q K V) : Prop where
  cache : ∀ key, (s.cache.lookup key).isSome → (s'.cache.lookup key).isSome
  cuts : s.cuts ⊆ s'.cuts
  stale : s'.stale = false → s.stale = false

theorem Session.Extends.refl (s : Session Q K V) : s.Extends s :=
  ⟨fun _ h => h, fun _ h => h, fun h => h⟩

theorem Session.Extends.trans {s s' s'' : Session Q K V} (h : s.Extends s')
    (h' : s'.Extends s'') : s.Extends s'' :=
  ⟨fun key hkey => h'.cache key (h.cache key hkey), fun _ hcut => h'.cuts (h.cuts hcut),
    fun hstale => h.stale (h'.stale hstale)⟩

theorem lookup_cons_isSome (cache : List (K × Entry V)) (key k : K) (entry : Entry V) :
    (((key, entry) :: cache).lookup k).isSome = (k == key || (cache.lookup k).isSome) := by
  rw [List.lookup_cons]
  cases k == key <;> rfl

theorem run_extends {answer : Q → R}
    {look : K → Session Q K V → Option (Except E V × Session Q K V)}
    (hlook : ∀ key s r s', look key s = some (r, s') → s.Extends s') (p : Prog Q R K V E α)
    {s s' : Session Q K V} {r : Except E α} (h : p.run answer look s = some (r, s')) :
    s.Extends s' := by
  induction p generalizing s with
  | ret x =>
      obtain ⟨-, rfl⟩ := Prod.mk.inj (Option.some.inj h)
      exact .refl s
  | fail e =>
      obtain ⟨-, rfl⟩ := Prod.mk.inj (Option.some.inj h)
      exact .refl s
  | read q next ih =>
      rw [Prog.run] at h
      have hread : s.Extends { s with reads := s.reads ++ [q] } :=
        ⟨fun _ h => h, fun _ h => h, fun h => h⟩
      exact hread.trans (ih _ h)
  | ask key next ih =>
      rw [Prog.run] at h
      split at h
      · exact nomatch h
      · next heq =>
          obtain ⟨-, rfl⟩ := Prod.mk.inj (Option.some.inj h)
          exact hlook _ _ _ _ heq
      · next heq => exact (hlook _ _ _ _ heq).trans (ih _ h)

theorem look_extends (service : Service Q R K V E) {fuel : ℕ} {inFlight : List K} {key : K}
    {s s' : Session Q K V} {r : Except E V}
    (h : service.look fuel inFlight key s = some (r, s')) : s.Extends s' := by
  induction fuel generalizing inFlight key s r s' with
  | zero => exact nomatch h
  | succ fuel ih =>
      rw [Service.look] at h
      split at h
      · obtain ⟨-, rfl⟩ := Prod.mk.inj (Option.some.inj h)
        exact ⟨fun _ h => h, List.subset_append_left _ _, id⟩
      · split at h
        · obtain ⟨-, rfl⟩ := Prod.mk.inj (Option.some.inj h)
          exact ⟨fun _ h => h, fun _ h => h, fun h => (Bool.or_eq_false_iff.mp h).1⟩
        · split at h
          · exact nomatch h
          · next heq =>
              have hrun := run_extends (fun _ _ _ _ hlook => ih hlook) _ heq
              split at h
              · obtain ⟨-, rfl⟩ := Prod.mk.inj (Option.some.inj h)
                exact ⟨hrun.cache, List.subset_append_left _ _, hrun.stale⟩
              · obtain ⟨-, rfl⟩ := Prod.mk.inj (Option.some.inj h)
                refine ⟨?_, List.subset_append_left _ _, hrun.stale⟩
                intro k hk
                rw [lookup_cons_isSome, Bool.or_eq_true]
                exact Or.inr (hrun.cache k hk)

/-! ### Sessions that are served nothing stale -/

/-- Nothing in flight is cached, and every entry that was not cut off is what the recursion without
a cache gives, having touched cached keys only. -/
structure Sound (service : Service Q R K V E) (inFlight : List K) (cache : List (K × Entry V)) :
    Prop where
  absent : ∀ key ∈ inFlight, cache.lookup key = none
  entry : ∀ key entry, cache.lookup key = some entry → entry.cutOff = false →
    ∃ touched, Eval service [key] (service.body key) (.ok entry.value) touched ∧
      ∀ k ∈ touched, (cache.lookup k).isSome

theorem Sound.nil (service : Service Q R K V E) : Sound service [] [] :=
  ⟨fun _ h => absurd h List.not_mem_nil, fun _ _ h => nomatch h⟩

theorem Sound.tail {service : Service Q R K V E} {key : K} {inFlight : List K}
    {cache : List (K × Entry V)} (h : Sound service (key :: inFlight) cache) :
    Sound service inFlight cache :=
  ⟨fun k hk => h.absent k (List.mem_cons_of_mem _ hk), h.entry⟩

/-- What a computation that was served nothing stale has done. -/
structure Faithful (service : Service Q R K V E) (inFlight : List K) (p : Prog Q R K V E α)
    (r : Except E α) (s' : Session Q K V) (touched : List K) : Prop where
  eval : Eval service inFlight p r touched
  sound : Sound service inFlight s'.cache
  cuts : ∀ k ∈ touched, k ∈ inFlight → k ∈ s'.cuts
  cached : ∀ x, r = .ok x → ∀ k ∈ touched, k ∈ inFlight ∨ (s'.cache.lookup k).isSome

theorem run_faithful {service : Service Q R K V E} {inFlight : List K}
    {look : K → Session Q K V → Option (Except E V × Session Q K V)}
    (hextends : ∀ key s r s', look key s = some (r, s') → s.Extends s')
    (hlook : ∀ key s r s', look key s = some (r, s') → Sound service inFlight s.cache →
      s'.stale = false → ∃ touched, Faithful service inFlight (.ask key .ret) r s' touched)
    (p : Prog Q R K V E α) {s s' : Session Q K V} {r : Except E α}
    (h : p.run service.answer look s = some (r, s')) (hs : Sound service inFlight s.cache)
    (hstale : s'.stale = false) : ∃ touched, Faithful service inFlight p r s' touched := by
  induction p generalizing s with
  | ret x =>
      obtain ⟨rfl, rfl⟩ := Prod.mk.inj (Option.some.inj h)
      exact ⟨[], .ret x, hs, fun _ h => absurd h List.not_mem_nil,
        fun _ _ _ h => absurd h List.not_mem_nil⟩
  | fail e =>
      obtain ⟨rfl, rfl⟩ := Prod.mk.inj (Option.some.inj h)
      exact ⟨[], .fail e, hs, fun _ h => absurd h List.not_mem_nil,
        fun _ _ _ h => absurd h List.not_mem_nil⟩
  | read q next ih =>
      rw [Prog.run] at h
      obtain ⟨touched, hfaithful⟩ := ih _ h hs
      exact ⟨touched, .read hfaithful.eval, hfaithful.sound, hfaithful.cuts, hfaithful.cached⟩
  | ask key next ih =>
      rw [Prog.run] at h
      split at h
      · exact nomatch h
      · next heq =>
          obtain ⟨rfl, rfl⟩ := Prod.mk.inj (Option.some.inj h)
          obtain ⟨touched, hfaithful⟩ := hlook _ _ _ _ heq hs hstale
          exact ⟨touched, hfaithful.eval.ask_error next, hfaithful.sound, hfaithful.cuts,
            fun _ hx => nomatch hx⟩
      · next v mid heq =>
          have hmid : mid.Extends s' := run_extends hextends _ h
          obtain ⟨touched, hfirst⟩ := hlook _ _ _ _ heq hs (hmid.stale hstale)
          obtain ⟨touched', hrest⟩ := ih v h hfirst.sound
          refine ⟨touched ++ touched', hfirst.eval.ask_ok hrest.eval, hrest.sound, ?_, ?_⟩
          · intro k hk hflight
            rcases List.mem_append.mp hk with hk | hk
            · exact hmid.cuts (hfirst.cuts k hk hflight)
            · exact hrest.cuts k hk hflight
          · intro x hx k hk
            rcases List.mem_append.mp hk with hk | hk
            · exact (hfirst.cached v rfl k hk).imp_right (hmid.cache k)
            · exact hrest.cached x hx k hk

/-- A lookup that was served nothing stale is the recursion without a cache. -/
theorem look_faithful (service : Service Q R K V E) {fuel : ℕ} {inFlight : List K} {key : K}
    {s s' : Session Q K V} {r : Except E V}
    (h : service.look fuel inFlight key s = some (r, s')) (hs : Sound service inFlight s.cache)
    (hstale : s'.stale = false) :
    ∃ touched, Faithful service inFlight (.ask key .ret) r s' touched := by
  induction fuel generalizing inFlight key s r s' with
  | zero => exact nomatch h
  | succ fuel ih =>
      rw [Service.look] at h
      split at h
      · next hmem =>
          obtain ⟨rfl, rfl⟩ := Prod.mk.inj (Option.some.inj h)
          refine ⟨[key], .cut hmem (.ret _), hs, ?_, ?_⟩
          · intro k hk _
            exact List.mem_append_right _ hk
          · intro _ _ k hk
            exact Or.inl (List.mem_singleton.mp hk ▸ hmem)
      · next hnot =>
          split at h
          · next entry hentry =>
              obtain ⟨rfl, rfl⟩ := Prod.mk.inj (Option.some.inj h)
              have hclean := (Bool.or_eq_false_iff.mp hstale).2
              obtain ⟨touched, heval, htouched⟩ := hs.entry key entry hentry hclean
              have houter : ∀ k ∈ touched, k ∉ inFlight := by
                intro k hk hflight
                have hsome := htouched k hk
                rw [hs.absent k hflight] at hsome
                exact nomatch hsome
              have hbelow : Eval service (key :: inFlight) (service.body key)
                  (.ok entry.value) touched := by
                exact Eval.change_outer [key] [] inFlight heval
                  (fun _ _ => List.not_mem_nil) houter
              have hcached : ∀ k ∈ key :: touched ++ [], (s.cache.lookup k).isSome := by
                intro k hk
                rw [List.append_nil] at hk
                rcases List.mem_cons.mp hk with rfl | hk
                · rw [hentry]; rfl
                · exact htouched k hk
              refine ⟨_, .ok hnot hbelow (.ret _), hs, ?_, fun _ _ k hk => Or.inr (hcached k hk)⟩
              intro k hk hflight
              have hsome := hcached k hk
              rw [hs.absent k hflight] at hsome
              exact nomatch hsome
          · next hnone =>
              split at h
              · exact nomatch h
              · next result mid heq =>
                  have hstart : Sound service (key :: inFlight) s.cache := by
                    refine ⟨?_, hs.entry⟩
                    intro k hk
                    rcases List.mem_cons.mp hk with rfl | hk
                    · exact hnone
                    · exact hs.absent k hk
                  have hmid : mid.stale = false := by
                    split at h <;>
                      (obtain ⟨-, rfl⟩ := Prod.mk.inj (Option.some.inj h); exact hstale)
                  obtain ⟨touched, hbody⟩ := run_faithful
                    (fun _ _ _ _ hlook => look_extends service hlook)
                    (fun _ _ _ _ hlook hsound hstale => ih hlook hsound hstale) _ heq hstart hmid
                  have hcuts : ∀ k ∈ touched, k ∈ inFlight →
                      k ∈ mid.cuts.filter (fun cut => cut ≠ key) := by
                    intro k hk hflight
                    refine List.mem_filter.mpr
                      ⟨hbody.cuts k hk (List.mem_cons_of_mem _ hflight), ?_⟩
                    exact decide_eq_true (fun heq => hnot (heq ▸ hflight))
                  split at h
                  · obtain ⟨rfl, rfl⟩ := Prod.mk.inj (Option.some.inj h)
                    refine ⟨_, .error hnot hbody.eval, hbody.sound.tail, ?_,
                      fun _ hx => nomatch hx⟩
                    intro k hk hflight
                    rcases List.mem_cons.mp hk with rfl | hk
                    · exact absurd hflight hnot
                    · exact List.mem_append_right _ (hcuts k hk hflight)
                  · next v =>
                      obtain ⟨rfl, rfl⟩ := Prod.mk.inj (Option.some.inj h)
                      have hlookup : ∀ k, k ≠ key → ∀ entry : Entry V,
                          ((key, entry) :: mid.cache).lookup k = mid.cache.lookup k := by
                        intro k hk entry
                        rw [List.lookup_cons, beq_false_of_ne hk]
                      have hcached : ∀ k ∈ key :: touched ++ [], ∀ entry : Entry V,
                          k ∈ inFlight ∨ (((key, entry) :: mid.cache).lookup k).isSome := by
                        intro k hk entry
                        rw [List.append_nil] at hk
                        rw [lookup_cons_isSome, Bool.or_eq_true, beq_iff_eq]
                        rcases List.mem_cons.mp hk with rfl | hk
                        · exact Or.inr (Or.inl rfl)
                        · rcases hbody.cached v rfl k hk with hk | hk
                          · rcases List.mem_cons.mp hk with rfl | hk
                            · exact Or.inr (Or.inl rfl)
                            · exact Or.inl hk
                          · exact Or.inr (Or.inr hk)
                      refine ⟨_, .ok hnot hbody.eval (.ret _), ⟨?_, ?_⟩, ?_,
                        fun _ _ k hk => hcached k hk _⟩
                      · intro k hk
                        rw [hlookup k (fun heq => hnot (heq ▸ hk))]
                        exact hbody.sound.absent k (List.mem_cons_of_mem _ hk)
                      · intro k entry hentry hclean
                        by_cases hk : k = key
                        · subst hk
                          rw [List.lookup_cons, beq_self_eq_true] at hentry
                          obtain rfl := Option.some.inj hentry
                          -- The guard answered nothing above the lookup, so it can be made alone.
                          have houter : ∀ k' ∈ touched, k' ∉ inFlight := by
                            intro k' hk' hflight
                            have hmem := hcuts k' hk' hflight
                            rw [Bool.not_eq_false', List.isEmpty_iff] at hclean
                            rw [hclean] at hmem
                            exact absurd hmem List.not_mem_nil
                          refine ⟨touched, ?_, ?_⟩
                          · exact Eval.change_outer [k] inFlight [] hbody.eval houter
                              (fun _ _ => List.not_mem_nil)
                          · intro k' hk'
                            have hmem : k' ∈ k :: touched ++ [] := by
                              rw [List.append_nil]
                              exact List.mem_cons_of_mem _ hk'
                            exact (hcached k' hmem _).resolve_left (houter k' hk')
                        · rw [hlookup k hk] at hentry
                          obtain ⟨touched', heval, htouched⟩ :=
                            hbody.sound.entry k entry hentry hclean
                          refine ⟨touched', heval, fun k' hk' => ?_⟩
                          rw [lookup_cons_isSome, Bool.or_eq_true]
                          exact Or.inr (htouched k' hk')
                      · intro k hk hflight
                        rw [List.append_nil] at hk
                        rcases List.mem_cons.mp hk with rfl | hk
                        · exact absurd hflight hnot
                        · exact List.mem_append_right _ (hcuts k hk hflight)

/-! ### Calls of a session -/

theorem calls_extends (service : Service Q R K V E) {fuel : ℕ} {keys : List K}
    {s s' : Session Q K V} {results : List (Except E V)}
    (h : service.calls fuel keys s = some (results, s')) : s.Extends s' := by
  induction keys generalizing s results with
  | nil =>
      obtain ⟨-, rfl⟩ := Prod.mk.inj (Option.some.inj h)
      exact .refl s
  | cons key keys ih =>
      rw [Service.calls] at h
      split at h
      · exact nomatch h
      · next heq =>
          split at h
          · exact nomatch h
          · next hrest =>
              obtain ⟨-, rfl⟩ := Prod.mk.inj (Option.some.inj h)
              exact (look_extends service heq).trans (ih hrest)

theorem calls_faithful (service : Service Q R K V E) {fuel : ℕ} {keys : List K}
    {s s' : Session Q K V} {results : List (Except E V)}
    (h : service.calls fuel keys s = some (results, s')) (hs : Sound service [] s.cache)
    (hstale : s'.stale = false) :
    List.Forall₂ (fun key r => ∃ touched, Eval service [] (.ask key .ret) r touched)
      keys results := by
  induction keys generalizing s results with
  | nil =>
      obtain ⟨rfl, -⟩ := Prod.mk.inj (Option.some.inj h)
      exact .nil
  | cons key keys ih =>
      rw [Service.calls] at h
      split at h
      · exact nomatch h
      · next heq =>
          split at h
          · exact nomatch h
          · next hrest =>
              obtain ⟨rfl, rfl⟩ := Prod.mk.inj (Option.some.inj h)
              have hmid := (calls_extends service hrest).stale hstale
              obtain ⟨touched, hfirst⟩ := look_faithful service heq hs hmid
              exact .cons ⟨touched, hfirst.eval⟩ (ih hrest hfirst.sound)

/-- In a session that was served no cut-off entry every call returns what it returns alone, when it
is not served one alone either. -/
theorem calls_eq_alone (service : Service Q R K V E) {fuel : ℕ} {keys : List K}
    {s : Session Q K V} {results : List (Except E V)}
    (h : service.calls fuel keys .fresh = some (results, s)) (hstale : s.stale = false) :
    List.Forall₂ (fun key r => ∀ r' s', service.look fuel [] key .fresh = some (r', s') →
      s'.stale = false → r' = r) keys results := by
  refine (calls_faithful service h (Sound.nil service) hstale).imp ?_
  rintro key r ⟨touched, heval⟩ r' s' hlook hstale'
  obtain ⟨touched', halone⟩ := look_faithful service hlook (Sound.nil service) hstale'
  exact halone.eval.deterministic heval

/-! ### Lookups over finitely many keys return -/

omit [DecidableEq K] in
theorem run_isSome {answer : Q → R} {queries : Q → Prop} {keys : K → Prop}
    {look : K → Session Q K V → Option (Except E V × Session Q K V)}
    (hlook : ∀ key s, keys key → (look key s).isSome) (p : Prog Q R K V E α)
    (hp : p.Within queries keys) (s : Session Q K V) : (p.run answer look s).isSome := by
  induction p generalizing s with
  | ret x => rfl
  | fail e => rfl
  | read q next ih => exact ih _ (hp.2 _) _
  | ask key next ih =>
      have hsome := hlook key s hp.1
      rw [Prog.run]
      split
      · next hnone => rw [hnone] at hsome; exact hsome
      · rfl
      · exact ih _ (hp.2 _) _

/-- A key that joins those in flight leaves fewer that can. -/
theorem room_lt {keys : List K} {key : K} {inFlight : List K} (hkey : key ∈ keys)
    (hnot : key ∉ inFlight) : (keys.filter (fun k => k ∉ key :: inFlight)).length <
      (keys.filter (fun k => k ∉ inFlight)).length := by
  have hsub : keys.filter (fun k => k ∉ key :: inFlight) =
      (keys.filter (fun k => k ∉ inFlight)).filter (fun k => k ≠ key) := by
    rw [List.filter_filter]
    apply List.filter_congr
    intro k _
    simp only [List.mem_cons, not_or, Bool.decide_and]
  rw [hsub]
  apply List.length_filter_lt_length_iff_exists.mpr
  exact ⟨key, List.mem_filter.mpr ⟨hkey, decide_eq_true hnot⟩, by simp⟩

/-! ### The reads of a session -/

end OlympusMetrics.Lookup
