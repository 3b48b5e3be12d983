import OlympusMetrics.Library.KeyedLookup
import OlympusMetrics.Library.SharedFaithful

/-!
Concurrent calls whose cache and guard go by a canonical form of the keys.

As long as keys with one form are never confused, the calls take the steps that
they take over a cache that goes by the keys themselves.
-/

namespace OlympusMetrics.Lookup

variable {Q R K V E C ι : Type} [DecidableEq K] [DecidableEq C]

/-- What the calls share: the cached promises and the keys in flight, both under the forms. -/
structure KeyedStore (C K V E : Type) where
  cache : C → Option (K × ℕ)
  inFlight : Finset C
  promises : K → ℕ → Promise V E
  created : ℕ

structure KeyedScope (ι C Q R K V E : Type) where
  store : KeyedStore C K V E
  calls : ι → Call Q R K V E

/-- No call has started. -/
def KeyedScope.initial (keys : ι → K) : KeyedScope ι C Q R K V E where
  store := { cache := fun _ => none, inFlight := ∅, promises := fun _ _ => .pending, created := 0 }
  calls := fun i => .idle (keys i)

def KeyedScope.put [DecidableEq ι] (s : KeyedScope ι C Q R K V E) (i : ι)
    (store : KeyedStore C K V E) (call : Call Q R K V E) : KeyedScope ι C Q R K V E where
  store := store
  calls := Function.update s.calls i call

namespace KeyedStore

variable (form : K → C)

/-- The body of a lookup starts: its form is in flight and its promise is cached under it. -/
def start (store : KeyedStore C K V E) (key : K) : KeyedStore C K V E where
  cache := Function.update store.cache (form key) (some (key, store.created))
  inFlight := insert (form key) store.inFlight
  promises := Function.update store.promises key
    (Function.update (store.promises key) store.created .pending)
  created := store.created + 1

def drop (store : KeyedStore C K V E) (key : K) : KeyedStore C K V E :=
  { store with cache := Function.update store.cache (form key) none }

def release (store : KeyedStore C K V E) (key : K) : KeyedStore C K V E :=
  { store with inFlight := store.inFlight.erase (form key) }

omit [DecidableEq C] in
def settle (store : KeyedStore C K V E) (key : K) (serial : ℕ) (result : Except E V)
    (cutOff : Bool) : KeyedStore C K V E :=
  { store with
    promises := Function.update store.promises key
      (Function.update (store.promises key) serial
        ((store.promises key serial).settle result cutOff)) }

end KeyedStore

/-- One step of a call, as `Call.advance` takes it, over a cache that goes by the forms. -/
def Call.advanceBy (service : Service Q R K V E) (form : K → C) (store : KeyedStore C K V E) :
    Call Q R K V E → Option (KeyedStore C K V E × Call Q R K V E)
  | .idle key => some (store, .active .call [] (.run (.ask key .ret)))
  | .active stack cuts (.run (.read q next)) =>
      some (store, .active stack cuts (.run (next (service.answer q))))
  | .active stack cuts (.run (.ask key next)) =>
      if form key ∈ store.inFlight then
        some (store, .active stack (cuts ++ [key]) (.run (next (service.fallback key))))
      else
        match store.cache (form key) with
        | some (k, serial) => some (store, .active stack cuts (.await k serial next))
        | none =>
            some (store.start form key,
              .active (.frame key store.created next cuts stack) [] (.run (service.body key)))
  | .active stack cuts (.await key serial next) =>
      match store.promises key serial with
      | .pending => none
      | .fulfilled v _ => some (store, .active stack cuts (.run (next v)))
      | .rejected e => some (store, .active stack cuts (.run (.fail e)))
  | .active .call _ (.run (.ret v)) => some (store, .settled (.ok v))
  | .active .call _ (.run (.fail e)) => some (store, .settled (.error e))
  | .active (.frame key serial next outerCuts outer) cuts (.run (.ret v)) =>
      some (store.release form key, .active (.frame key serial next outerCuts outer) cuts
        (.released (.ok v)))
  | .active (.frame key serial next outerCuts outer) cuts (.run (.fail e)) =>
      some (store.drop form key, .active (.frame key serial next outerCuts outer) cuts (.caught e))
  | .active (.frame key serial next outerCuts outer) cuts (.caught e) =>
      some (store.release form key, .active (.frame key serial next outerCuts outer) cuts
        (.released (.error e)))
  | .active (.frame key serial next outerCuts outer) cuts (.released result) =>
      let above := cuts.filter (fun cut => cut ≠ key)
      some (store.settle key serial result (!above.isEmpty),
        .active outer (outerCuts ++ above) (.run (resume next result)))
  | .active .call _ (.caught _) => none
  | .active .call _ (.released _) => none
  | .settled _ => none

/-- Whether the next step of a call is answered for its own lookup, and for the lookups that it runs
below only: a form in flight is that of a key of its own stack, a cached promise is of the key that
is asked for, and an awaited value was not cut off. -/
def Call.isAlignedBy (form : K → C) (store : KeyedStore C K V E) : Call Q R K V E → Bool
  | .active stack _ (.run (.ask key _)) =>
      decide (form key ∈ store.inFlight → key ∈ stack.keys) &&
        (store.cache (form key)).all (fun cached => cached.1 = key)
  | .active _ _ (.await key serial _) =>
      match store.promises key serial with
      | .fulfilled _ cutOff => !cutOff
      | _ => true
  | _ => true

/-- A store under the forms holds what a store under the keys holds. -/
structure KeyedStore.Holds (form : K → C) (store : KeyedStore C K V E) (typed : Store K V E) :
    Prop where
  inFlight : store.inFlight = typed.inFlight.image form
  distinct : Set.InjOn form (typed.inFlight : Set K)
  cache : ∀ k n, typed.cache k = some n ↔ store.cache (form k) = some (k, n)
  promises : typed.promises = store.promises
  created : typed.created = store.created

namespace KeyedStore.Holds

variable {form : K → C} {store : KeyedStore C K V E} {typed : Store K V E} {key : K}

theorem start (h : store.Holds form typed) (hnot : form key ∉ store.inFlight)
    (hnone : store.cache (form key) = none) :
    (store.start form key).Holds form (typed.start key) where
  inFlight := by
    change insert _ _ = (insert _ _ : Finset K).image form
    rw [Finset.image_insert, h.inFlight]
  distinct := by
    change Set.InjOn form ((insert key typed.inFlight : Finset K) : Set K)
    have hfresh : form key ∉ form '' (typed.inFlight : Set K) := by
      rw [h.inFlight] at hnot
      simpa using hnot
    rw [Finset.coe_insert]
    exact (Set.injOn_insert (fun hmem => hfresh ⟨key, hmem, rfl⟩)).mpr ⟨h.distinct, hfresh⟩
  cache := by
    intro k n
    change Function.update typed.cache key _ k = _ ↔ Function.update store.cache (form key) _ _ = _
    by_cases hk : k = key
    · subst hk
      rw [Function.update_self, Function.update_self, h.created]
      simp
    · rw [Function.update_of_ne hk, h.cache]
      by_cases hform : form k = form key
      · rw [hform, Function.update_self, hnone]
        simp [Ne.symm hk]
      · rw [Function.update_of_ne hform]
  promises := by
    change Function.update typed.promises key _ = Function.update store.promises key _
    rw [h.promises, h.created]
  created := congrArg (· + 1) h.created

theorem drop {serial : ℕ} (h : store.Holds form typed) (hlive : typed.cache key = some serial) :
    (store.drop form key).Holds form (typed.drop key) where
  inFlight := h.inFlight
  distinct := h.distinct
  cache := by
    intro k n
    change Function.update typed.cache key _ k = _ ↔ Function.update store.cache (form key) _ _ = _
    by_cases hk : k = key
    · subst hk
      simp
    · rw [Function.update_of_ne hk, h.cache]
      by_cases hform : form k = form key
      · rw [hform, Function.update_self, (h.cache key serial).mp hlive]
        simp [Ne.symm hk]
      · rw [Function.update_of_ne hform]
  promises := h.promises
  created := h.created

theorem release (h : store.Holds form typed) (hflight : key ∈ typed.inFlight) :
    (store.release form key).Holds form (typed.release key) where
  inFlight := by
    change store.inFlight.erase _ = (typed.inFlight.erase key).image form
    rw [h.inFlight]
    ext c
    simp only [Finset.mem_erase, Finset.mem_image]
    constructor
    · rintro ⟨hne, k, hk, rfl⟩
      exact ⟨k, ⟨fun heq => hne (congrArg form heq), hk⟩, rfl⟩
    · rintro ⟨k, ⟨hne, hk⟩, rfl⟩
      exact ⟨fun heq => hne (h.distinct hk hflight heq), k, hk, rfl⟩
  distinct := h.distinct.mono (Finset.coe_subset.mpr (Finset.erase_subset key typed.inFlight))
  cache := h.cache
  promises := h.promises
  created := h.created

theorem settle (h : store.Holds form typed) (key : K) (serial : ℕ) (result : Except E V)
    (cutOff : Bool) :
    (store.settle key serial result cutOff).Holds form (typed.settle key serial result cutOff) where
  inFlight := h.inFlight
  distinct := h.distinct
  cache := h.cache
  promises := by
    change Function.update typed.promises key _ = Function.update store.promises key _
    rw [h.promises]
  created := h.created

omit [DecidableEq K] in
theorem initial (form : K → C) :
    KeyedStore.Holds form (V := V) (E := E)
      { cache := fun _ => none, inFlight := ∅, promises := fun _ _ => .pending, created := 0 }
      { cache := fun _ => none, inFlight := ∅, promises := fun _ _ => .pending, created := 0 } where
  inFlight := Finset.image_empty form
  distinct := by simp
  cache := fun _ _ => by simp
  promises := rfl
  created := rfl

end KeyedStore.Holds

/-! ### Aligned steps -/

section advance

variable {service : Service Q R K V E} {form : K → C} {store store' : KeyedStore C K V E}
  {typed : Store K V E} {call call' : Call Q R K V E}

/-- An aligned step over the forms is the aligned step over the keys. -/
theorem KeyedStore.Holds.advance (h : store.Holds form typed) (hfits : Fits typed call)
    (haligned : call.isAlignedBy form store = true)
    (hstep : call.advanceBy service form store = some (store', call')) :
    call.isAligned typed = true ∧ ∃ typed', call.advance service typed = some (typed', call') ∧
      store'.Holds form typed' := by
  unfold Call.advanceBy at hstep
  split at hstep
  · cases hstep
    exact ⟨rfl, _, rfl, h⟩
  · cases hstep
    exact ⟨rfl, _, rfl, h⟩
  · next stack cuts key next =>
      obtain ⟨hflight, hcached⟩ := Bool.and_eq_true_iff.mp haligned
      have hstack := of_decide_eq_true hflight
      have hform (hmem : key ∈ typed.inFlight) : form key ∈ store.inFlight := by
        rw [h.inFlight]
        exact Finset.mem_image_of_mem form hmem
      refine ⟨decide_eq_true (fun hmem => hstack (hform hmem)), ?_⟩
      rw [Call.advance]
      split at hstep
      · next hmem =>
          cases hstep
          rw [if_pos (hfits.flight key (hstack hmem))]
          exact ⟨_, rfl, h⟩
      · next hnot =>
          rw [if_neg (fun hmem => hnot (hform hmem))]
          split at hstep
          · next k serial hcache =>
              cases hstep
              rw [hcache] at hcached
              obtain rfl : k = key := of_decide_eq_true hcached
              rw [(h.cache k serial).mpr hcache]
              exact ⟨_, rfl, h⟩
          · next hnone =>
              cases hstep
              have htyped : typed.cache key = none := by
                cases hcache : typed.cache key with
                | none => rfl
                | some serial =>
                    have hsome := (h.cache key serial).mp hcache
                    rw [hnone] at hsome
                    cases hsome
              rw [htyped, ← h.created]
              exact ⟨_, rfl, h.start hnot hnone⟩
  · next stack cuts key serial next =>
      have hsame : typed.promises key serial = store.promises key serial := by rw [h.promises]
      refine ⟨?_, ?_⟩
      · rw [Call.isAligned, hsame]
        exact haligned
      · rw [Call.advance, hsame]
        cases hpromise : store.promises key serial with
        | pending =>
            rw [hpromise] at hstep
            cases hstep
        | fulfilled value cutOff =>
            rw [hpromise] at hstep
            cases hstep
            exact ⟨_, rfl, h⟩
        | rejected error =>
            rw [hpromise] at hstep
            cases hstep
            exact ⟨_, rfl, h⟩
  · cases hstep
    exact ⟨rfl, _, rfl, h⟩
  · cases hstep
    exact ⟨rfl, _, rfl, h⟩
  · cases hstep
    exact ⟨rfl, _, rfl, h.release (hfits.flight _ List.mem_cons_self)⟩
  · next key serial next outerCuts outer cuts e =>
      cases hstep
      have hlive := hfits.live (key, serial) List.mem_cons_self
      exact ⟨rfl, _, rfl, h.drop hlive⟩
  · cases hstep
    exact ⟨rfl, _, rfl, h.release (hfits.flight _ List.mem_cons_self)⟩
  · cases hstep
    exact ⟨rfl, _, rfl, h.settle _ _ _ _⟩
  · cases hstep
  · cases hstep
  · cases hstep

end advance

/-! ### Runs -/

section runs

variable [DecidableEq ι] {service : Service Q R K V E} {form : K → C}
  {s s' : KeyedScope ι C Q R K V E} {calls : ι → K}

/-- Lets the calls of a schedule step one after another, those that can. -/
def KeyedScope.play (service : Service Q R K V E) (form : K → C) (schedule : List ι)
    (s : KeyedScope ι C Q R K V E) : KeyedScope ι C Q R K V E :=
  schedule.foldl (fun s i =>
    match (s.calls i).advanceBy service form s.store with
    | some (store, call) => s.put i store call
    | none => s) s

end runs

end OlympusMetrics.Lookup
