import OlympusMetrics.Library.Lookup

/-!
Lookups whose cache and guard go by a canonical form of the keys.

Two keys with one form share a place in flight and a cached value, so that one of
them may be answered with what the other gives. A session in which this does not
happen is one that goes by the keys themselves.
-/

namespace OlympusMetrics.Lookup

variable {Q R K V E C α : Type} [DecidableEq K] [DecidableEq C]

/-- One lookup below the keys `inFlight`, where keys with one form are taken for one. The session is
stale also when a lookup is answered for another key. -/
def Service.lookBy (service : Service Q R K V E) (form : K → C) :
    ℕ → List K → K → Session Q K V → Option (Except E V × Session Q K V)
  | 0, _, _, _ => none
  | fuel + 1, inFlight, key, s =>
      match inFlight.find? (fun k => form k = form key) with
      | some k =>
          some (.ok (service.fallback key),
            { s with
              cuts := s.cuts ++ [k]
              stale := s.stale || decide (k ≠ key) })
      | none =>
          match s.cache.find? (fun cached => form cached.1 = form key) with
          | some (k, entry) =>
              some (.ok entry.value,
                { s with stale := s.stale || entry.cutOff || decide (k ≠ key) })
          | none =>
              match (service.body key).run service.answer
                  (service.lookBy form fuel (key :: inFlight)) { s with cuts := [] } with
              | none => none
              | some (result, s') =>
                  let cuts := s'.cuts.filter (fun cut => cut ≠ key)
                  match result with
                  | .error e => some (.error e, { s' with cuts := s.cuts ++ cuts })
                  | .ok v =>
                      some (.ok v,
                        { s' with
                          cache := (key, ⟨v, !cuts.isEmpty⟩) :: s'.cache
                          cuts := s.cuts ++ cuts })

/-- Calls made one after another in one session. -/
def Service.callsBy (service : Service Q R K V E) (form : K → C) (fuel : ℕ) :
    List K → Session Q K V → Option (List (Except E V) × Session Q K V)
  | [], s => some ([], s)
  | key :: keys, s =>
      match service.lookBy form fuel [] key s with
      | none => none
      | some (result, s') =>
          match service.callsBy form fuel keys s' with
          | none => none
          | some (results, s'') => some (result :: results, s'')

/-! ### The reads of a session -/

section

variable {queries : Q → Prop} {keys : K → Prop}

/-- All reads that were made are of `queries`. -/
def Session.ReadsOnly (queries : Q → Prop) (s : Session Q K V) : Prop := ∀ q ∈ s.reads, queries q

omit [DecidableEq K] in
theorem run_readsOnly {answer : Q → R}
    {look : K → Session Q K V → Option (Except E V × Session Q K V)}
    (hlook : ∀ key s r s', keys key → s.ReadsOnly queries → look key s = some (r, s') →
      s'.ReadsOnly queries)
    {p : Prog Q R K V E α} (hp : p.Within queries keys) {s s' : Session Q K V} {r : Except E α}
    (hs : s.ReadsOnly queries) (h : p.run answer look s = some (r, s')) :
    s'.ReadsOnly queries := by
  induction p generalizing s with
  | ret x =>
      obtain ⟨-, rfl⟩ := Prod.mk.inj (Option.some.inj h)
      exact hs
  | fail e =>
      obtain ⟨-, rfl⟩ := Prod.mk.inj (Option.some.inj h)
      exact hs
  | read q next ih =>
      have hread : Session.ReadsOnly queries { s with reads := s.reads ++ [q] } := by
        intro query hquery
        rcases List.mem_append.mp hquery with hquery | hquery
        · exact hs query hquery
        · rw [List.mem_singleton.mp hquery]
          exact hp.1
      exact ih _ (hp.2 _) hread h
  | ask key next ih =>
      rw [Prog.run] at h
      split at h
      · cases h
      · next heq =>
          obtain ⟨-, rfl⟩ := Prod.mk.inj (Option.some.inj h)
          exact hlook _ _ _ _ hp.1 hs heq
      · next heq => exact ih _ (hp.2 _) (hlook _ _ _ _ hp.1 hs heq) h

/-- A lookup whose bodies keep to `queries` and ask only for lookups that do makes no other
reads. -/
theorem lookBy_readsOnly {service : Service Q R K V E} {form : K → C}
    (hbody : ∀ key, keys key → (service.body key).Within queries keys) {fuel : ℕ}
    {inFlight : List K} {key : K} (hkey : keys key) {s s' : Session Q K V} {r : Except E V}
    (hs : s.ReadsOnly queries) (h : service.lookBy form fuel inFlight key s = some (r, s')) :
    s'.ReadsOnly queries := by
  induction fuel generalizing inFlight key s r s' with
  | zero => cases h
  | succ fuel ih =>
      rw [Service.lookBy] at h
      split at h
      · obtain ⟨-, rfl⟩ := Prod.mk.inj (Option.some.inj h)
        exact hs
      · split at h
        · obtain ⟨-, rfl⟩ := Prod.mk.inj (Option.some.inj h)
          exact hs
        · split at h
          · cases h
          · next heq =>
              have hcuts : Session.ReadsOnly queries { s with cuts := [] } := hs
              have hrun := run_readsOnly
                (fun _ _ _ _ hkey hs hlook => ih hkey hs hlook) (hbody key hkey) hcuts heq
              split at h
              · obtain ⟨-, rfl⟩ := Prod.mk.inj (Option.some.inj h)
                exact hrun
              · obtain ⟨-, rfl⟩ := Prod.mk.inj (Option.some.inj h)
                exact hrun

end

/-! ### A session stays stale -/

section

omit [DecidableEq K]

theorem run_stale {answer : Q → R}
    {look : K → Session Q K V → Option (Except E V × Session Q K V)}
    (hlook : ∀ key s r s', look key s = some (r, s') → s'.stale = false → s.stale = false)
    {p : Prog Q R K V E α} {s s' : Session Q K V} {r : Except E α}
    (h : p.run answer look s = some (r, s')) (hstale : s'.stale = false) : s.stale = false := by
  induction p generalizing s with
  | ret x =>
      obtain ⟨-, rfl⟩ := Prod.mk.inj (Option.some.inj h)
      exact hstale
  | fail e =>
      obtain ⟨-, rfl⟩ := Prod.mk.inj (Option.some.inj h)
      exact hstale
  | read q next ih =>
      have hrest : { s with reads := s.reads ++ [q] }.stale = false := ih _ h
      exact hrest
  | ask key next ih =>
      rw [Prog.run] at h
      split at h
      · cases h
      · next heq =>
          obtain ⟨-, rfl⟩ := Prod.mk.inj (Option.some.inj h)
          exact hlook _ _ _ _ heq hstale
      · next heq => exact hlook _ _ _ _ heq (ih _ h)

/-- A computation gives the same over lookups that agree wherever the session is not stale. -/
theorem run_of_agrees {answer : Q → R}
    {look look' : K → Session Q K V → Option (Except E V × Session Q K V)}
    (hlook : ∀ key s r s', look key s = some (r, s') → s'.stale = false → s.stale = false)
    (hagree : ∀ key s r s', look key s = some (r, s') → s'.stale = false →
      look' key s = some (r, s'))
    {p : Prog Q R K V E α} {s s' : Session Q K V} {r : Except E α}
    (h : p.run answer look s = some (r, s')) (hstale : s'.stale = false) :
    p.run answer look' s = some (r, s') := by
  induction p generalizing s with
  | ret x => exact h
  | fail e => exact h
  | read q next ih => exact ih _ h
  | ask key next ih =>
      rw [Prog.run] at h
      split at h
      · cases h
      · next heq =>
          obtain ⟨rfl, rfl⟩ := Prod.mk.inj (Option.some.inj h)
          rw [Prog.run, hagree _ _ _ _ heq hstale]
      · next heq =>
          rw [Prog.run, hagree _ _ _ _ heq (run_stale hlook h hstale)]
          exact ih _ h

end

variable (service : Service Q R K V E) {form : K → C}

theorem lookBy_stale {fuel : ℕ} {inFlight : List K} {key : K} {s s' : Session Q K V}
    {r : Except E V} (h : service.lookBy form fuel inFlight key s = some (r, s'))
    (hstale : s'.stale = false) : s.stale = false := by
  induction fuel generalizing inFlight key s r s' with
  | zero => cases h
  | succ fuel ih =>
      rw [Service.lookBy] at h
      split at h
      · obtain ⟨-, rfl⟩ := Prod.mk.inj (Option.some.inj h)
        exact (Bool.or_eq_false_iff.mp hstale).1
      · split at h
        · obtain ⟨-, rfl⟩ := Prod.mk.inj (Option.some.inj h)
          exact (Bool.or_eq_false_iff.mp (Bool.or_eq_false_iff.mp hstale).1).1
        · split at h
          · cases h
          · next heq =>
              have hrun := run_stale (fun _ _ _ _ hlook => ih hlook) heq
              split at h
              · obtain ⟨-, rfl⟩ := Prod.mk.inj (Option.some.inj h)
                exact hrun hstale
              · obtain ⟨-, rfl⟩ := Prod.mk.inj (Option.some.inj h)
                exact hrun hstale

/-- The first entry with the form of a key, if it is of the key, is the entry of the key. -/
theorem lookup_of_find_form {cache : List (K × Entry V)} {key : K}
    {entry : Entry V} (h : cache.find? (fun cached => form cached.1 = form key) = some (key, entry)) :
    cache.lookup key = some entry := by
  induction cache with
  | nil => cases h
  | cons first cache ih =>
      rw [List.find?_cons] at h
      rw [List.lookup_cons]
      by_cases hkey : key = first.1
      · rw [hkey, decide_eq_true rfl] at h
        have hfirst : first = (first.1, entry) := Option.some.inj h
        rw [hkey, beq_self_eq_true, hfirst]
      · rw [beq_false_of_ne hkey]
        split at h
        · have hfirst : first = (key, entry) := Option.some.inj h
          exact absurd (congrArg Prod.fst hfirst).symm hkey
        · exact ih h

theorem lookup_eq_none_of_find_form {cache : List (K × Entry V)} {key : K}
    (h : cache.find? (fun cached => form cached.1 = form key) = none) :
    cache.lookup key = none := by
  rw [List.lookup_eq_none_iff]
  intro cached hmem
  have hne := List.find?_eq_none.mp h cached hmem
  refine bne_iff_ne.mpr (fun heq => hne (decide_eq_true (congrArg form heq.symm)))

/-- While no lookup is answered for another key, the forms of the keys do not matter. -/
theorem look_of_lookBy {fuel : ℕ} {inFlight : List K} {key : K} {s s' : Session Q K V}
    {r : Except E V} (h : service.lookBy form fuel inFlight key s = some (r, s'))
    (hstale : s'.stale = false) : service.look fuel inFlight key s = some (r, s') := by
  induction fuel generalizing inFlight key s r s' with
  | zero => cases h
  | succ fuel ih =>
      rw [Service.lookBy] at h
      rw [Service.look]
      split at h
      · next k hfind =>
          obtain ⟨rfl, rfl⟩ := Prod.mk.inj (Option.some.inj h)
          obtain ⟨-, hkey⟩ := Bool.or_eq_false_iff.mp hstale
          obtain rfl : k = key := not_not.mp (of_decide_eq_false hkey)
          rw [if_pos (List.mem_of_find?_eq_some hfind), hkey, Bool.or_false]
      · next hflight =>
          have hnot : key ∉ inFlight := fun hmem =>
            (List.find?_eq_none.mp hflight key hmem) (decide_eq_true rfl)
          rw [if_neg hnot]
          split at h
          · next k entry hfind =>
              obtain ⟨rfl, rfl⟩ := Prod.mk.inj (Option.some.inj h)
              obtain ⟨-, hkey⟩ := Bool.or_eq_false_iff.mp hstale
              obtain rfl : k = key := not_not.mp (of_decide_eq_false hkey)
              rw [lookup_of_find_form hfind, hkey, Bool.or_false]
          · next hfind =>
              rw [lookup_eq_none_of_find_form hfind]
              split at h
              · cases h
              · next result mid heq =>
                  have hrun (hmid : mid.stale = false) := run_of_agrees
                    (fun _ _ _ _ hlook => lookBy_stale service hlook)
                    (fun _ _ _ _ hlook => ih hlook) heq hmid
                  split at h
                  · obtain ⟨rfl, rfl⟩ := Prod.mk.inj (Option.some.inj h)
                    rw [hrun hstale]
                  · obtain ⟨rfl, rfl⟩ := Prod.mk.inj (Option.some.inj h)
                    rw [hrun hstale]

theorem calls_of_callsBy {fuel : ℕ} {keys : List K} {s s' : Session Q K V}
    {results : List (Except E V)} (h : service.callsBy form fuel keys s = some (results, s'))
    (hstale : s'.stale = false) :
    service.calls fuel keys s = some (results, s') ∧ s.stale = false := by
  induction keys generalizing s results with
  | nil =>
      obtain ⟨rfl, rfl⟩ := Prod.mk.inj (Option.some.inj h)
      exact ⟨rfl, hstale⟩
  | cons key keys ih =>
      rw [Service.callsBy] at h
      split at h
      · cases h
      · next hfirst =>
          split at h
          · cases h
          · next hrest =>
              obtain ⟨rfl, rfl⟩ := Prod.mk.inj (Option.some.inj h)
              obtain ⟨hcalls, hmid⟩ := ih hrest
              rw [Service.calls, look_of_lookBy service hfirst hmid]
              simp only [hcalls]
              exact ⟨trivial, lookBy_stale service hfirst hmid⟩

/-! ### Lookups over finitely many keys return -/

theorem lookBy_isSome {queries : Q → Prop} {keys : List K}
    (hkeys : ∀ key ∈ keys, (service.body key).Within queries (· ∈ keys)) {fuel : ℕ}
    {inFlight : List K} {key : K} (hkey : (service.body key).Within queries (· ∈ keys))
    (hfuel : (keys.filter (fun k => k ∉ key :: inFlight)).length < fuel) (s : Session Q K V) :
    (service.lookBy form (fuel + 1) inFlight key s).isSome := by
  induction fuel generalizing inFlight key s with
  | zero => exact absurd hfuel (Nat.not_lt_zero _)
  | succ fuel ih =>
      rw [Service.lookBy]
      split
      · rfl
      · split
        · rfl
        · have hrun (start : Session Q K V) : ((service.body key).run service.answer
              (service.lookBy form (fuel + 1) (key :: inFlight)) start).isSome := by
            refine run_isSome ?_ _ hkey start
            intro k s hk
            by_cases hflight : k ∈ key :: inFlight
            · rw [Service.lookBy]
              split
              · rfl
              · next hfind =>
                  exact absurd (decide_eq_true rfl) (List.find?_eq_none.mp hfind k hflight)
            · refine ih (hkeys k hk) ?_ s
              have hlt := room_lt hk hflight
              omega
          have hsome := hrun { s with cuts := [] }
          split
          · next hnone => rw [hnone] at hsome; exact hsome
          · split <;> rfl

theorem callsBy_isSome {fuel : ℕ} {keys : List K}
    (h : ∀ key ∈ keys, ∀ s, (service.lookBy form fuel [] key s).isSome) (s : Session Q K V) :
    (service.callsBy form fuel keys s).isSome := by
  induction keys generalizing s with
  | nil => rfl
  | cons key keys ih =>
      have hfirst := h key List.mem_cons_self s
      rw [Service.callsBy]
      split
      · next hnone => rw [hnone] at hfirst; exact hfirst
      · next s' _ =>
          have hrest := ih (fun k hk => h k (List.mem_cons_of_mem _ hk)) s'
          split
          · next hnone => rw [hnone] at hrest; exact hrest
          · rfl

end OlympusMetrics.Lookup
