import OlympusMetrics.Library.Lookup
import Mathlib.Data.Finset.Basic
import Mathlib.Logic.Relation

/-!
Calls that run concurrently over one cache of promises.

Each call computes its lookups one below the other. A key is in flight while its
body runs, and its promise is cached from the start of the body until the body
fails. The keys in flight are shared by all calls.
-/

namespace OlympusMetrics.Lookup

variable {Q R K V E ι : Type}

/-- The promise of a lookup; the flag is bookkeeping only, as in `Entry`. -/
inductive Promise (V E : Type)
  | pending
  | fulfilled (value : V) (cutOff : Bool)
  | rejected (error : E)

/-- The lookups that a computation runs below, from the inside out: each with the number of its
promise, and with what awaits it and the cuts gathered there. -/
inductive Stack (Q R K V E : Type)
  | call
  | frame (key : K) (serial : ℕ) (next : V → Prog Q R K V E V) (cuts : List K)
      (outer : Stack Q R K V E)

inductive Phase (Q R K V E : Type)
  | run (p : Prog Q R K V E V)
  | await (key : K) (serial : ℕ) (next : V → Prog Q R K V E V)
  | caught (error : E)
  | released (result : Except E V)

/-- A call: not started, inside the innermost lookup of a stack, or settled. -/
inductive Call (Q R K V E : Type)
  | idle (key : K)
  | active (stack : Stack Q R K V E) (cuts : List K) (phase : Phase Q R K V E)
  | settled (result : Except E V)

/-- What the calls share: the cached promises, named by their keys and numbers, and the keys in
flight. -/
structure Store (K V E : Type) where
  cache : K → Option ℕ
  inFlight : Finset K
  promises : K → ℕ → Promise V E
  created : ℕ

structure Scope (ι Q R K V E : Type) where
  store : Store K V E
  calls : ι → Call Q R K V E

/-- No call has started. -/
def Scope.initial (keys : ι → K) : Scope ι Q R K V E where
  store := { cache := fun _ => none, inFlight := ∅, promises := fun _ _ => .pending, created := 0 }
  calls := fun i => .idle (keys i)

/-- How a computation goes on when what it awaits settles. -/
def resume (next : V → Prog Q R K V E V) : Except E V → Prog Q R K V E V
  | .ok v => next v
  | .error e => .fail e

def Promise.ofResult (result : Except E V) (cutOff : Bool) : Promise V E :=
  match result with
  | .ok v => .fulfilled v cutOff
  | .error e => .rejected e

/-- A promise settles once. -/
def Promise.settle (promise : Promise V E) (result : Except E V) (cutOff : Bool) : Promise V E :=
  match promise with
  | .pending => .ofResult result cutOff
  | .fulfilled v c => .fulfilled v c
  | .rejected e => .rejected e

/-! ### What is known of a call -/

/-- The lookups of a stack by key and promise. -/
def Stack.frames : Stack Q R K V E → List (K × ℕ)
  | .call => []
  | .frame key serial _ _ outer => (key, serial) :: outer.frames

def Stack.keys (stack : Stack Q R K V E) : List K := stack.frames.map Prod.fst

namespace Call

def frames : Call Q R K V E → List (K × ℕ)
  | .active stack _ _ => stack.frames
  | _ => []

/-- The keys that a call holds in flight. -/
def inFlight : Call Q R K V E → List K
  | .active stack _ (.released _) => stack.keys.tail
  | .active stack _ _ => stack.keys
  | _ => []

/-- The lookups of a call whose promises are cached. -/
def live : Call Q R K V E → List (K × ℕ)
  | .active stack _ (.caught _) => stack.frames.tail
  | .active stack _ (.released (.error _)) => stack.frames.tail
  | .active stack _ _ => stack.frames
  | _ => []

/-- The lookup of a call that has failed. -/
def dropped : Call Q R K V E → List (K × ℕ)
  | .active stack _ (.caught _) => stack.frames.take 1
  | .active stack _ (.released (.error _)) => stack.frames.take 1
  | _ => []

/-- The lookup of a call that has a value and is not settled yet. -/
def freed : Call Q R K V E → List (K × ℕ)
  | .active stack _ (.released (.ok _)) => stack.frames.take 1
  | _ => []

/-- The promise that a call awaits. -/
def awaited : Call Q R K V E → List (K × ℕ)
  | .active _ _ (.await key serial _) => [(key, serial)]
  | _ => []

variable {call : Call Q R K V E} {f : K × ℕ}

theorem dropped_subset_frames : call.dropped ⊆ call.frames := by
  cases call with
  | idle key => exact List.Subset.refl _
  | settled result => exact List.Subset.refl _
  | active stack cuts phase =>
      cases phase with
      | run p => exact List.nil_subset _
      | await key serial next => exact List.nil_subset _
      | caught e => exact List.take_subset _ _
      | released result =>
          cases result with
          | ok v => exact List.nil_subset _
          | error e => exact List.take_subset _ _

theorem freed_subset_live : call.freed ⊆ call.live := by
  cases call with
  | idle key => exact List.Subset.refl _
  | settled result => exact List.Subset.refl _
  | active stack cuts phase =>
      cases phase with
      | run p => exact List.nil_subset _
      | await key serial next => exact List.nil_subset _
      | caught e => exact List.nil_subset _
      | released result =>
          cases result with
          | ok v => exact List.take_subset _ _
          | error e => exact List.nil_subset _

theorem inFlight_sublist : call.inFlight.Sublist (call.frames.map Prod.fst) := by
  cases call with
  | idle key => exact List.Sublist.refl _
  | settled result => exact List.Sublist.refl _
  | active stack cuts phase =>
      cases phase with
      | released result => exact List.tail_sublist _
      | run p => exact List.Sublist.refl _
      | await key serial next => exact List.Sublist.refl _
      | caught e => exact List.Sublist.refl _

/-- A cached promise of a call is of a key in flight, or about to settle. -/
theorem live_cases (h : f ∈ call.live) : f.1 ∈ call.inFlight ∨ f ∈ call.freed := by
  cases call with
  | idle key => exact nomatch h
  | settled result => exact nomatch h
  | active stack cuts phase =>
      cases phase with
      | run p => exact Or.inl (List.mem_map_of_mem h)
      | await key serial next => exact Or.inl (List.mem_map_of_mem h)
      | caught e => exact Or.inl (List.mem_map_of_mem (List.tail_subset _ h))
      | released result =>
          cases stack with
          | call => cases result <;> exact nomatch h
          | frame key serial next outerCuts outer =>
              cases result with
              | error e => exact Or.inl (List.mem_map_of_mem h)
              | ok v =>
                  rcases List.mem_cons.mp h with rfl | h
                  · exact Or.inr List.mem_cons_self
                  · exact Or.inl (List.mem_map_of_mem h)

end Call

/-! ### The steps -/

variable [DecidableEq K]

namespace Store

/-- The body of a lookup starts: its key is in flight and its promise is cached. -/
def start (store : Store K V E) (key : K) : Store K V E where
  cache := Function.update store.cache key (some store.created)
  inFlight := insert key store.inFlight
  promises := Function.update store.promises key
    (Function.update (store.promises key) store.created .pending)
  created := store.created + 1

def drop (store : Store K V E) (key : K) : Store K V E :=
  { store with cache := Function.update store.cache key none }

def release (store : Store K V E) (key : K) : Store K V E :=
  { store with inFlight := store.inFlight.erase key }

def settle (store : Store K V E) (key : K) (serial : ℕ) (result : Except E V) (cutOff : Bool) :
    Store K V E :=
  { store with
    promises := Function.update store.promises key
      (Function.update (store.promises key) serial
        ((store.promises key serial).settle result cutOff)) }

end Store

/-- One step of a call. The guard answers a key in flight, a cached promise is awaited, and every
other lookup starts its body. -/
def Call.advance (service : Service Q R K V E) (store : Store K V E) :
    Call Q R K V E → Option (Store K V E × Call Q R K V E)
  | .idle key => some (store, .active .call [] (.run (.ask key .ret)))
  | .active stack cuts (.run (.read q next)) =>
      some (store, .active stack cuts (.run (next (service.answer q))))
  | .active stack cuts (.run (.ask key next)) =>
      if key ∈ store.inFlight then
        some (store, .active stack (cuts ++ [key]) (.run (next (service.fallback key))))
      else
        match store.cache key with
        | some serial => some (store, .active stack cuts (.await key serial next))
        | none =>
            some (store.start key,
              .active (.frame key store.created next cuts stack) [] (.run (service.body key)))
  | .active stack cuts (.await key serial next) =>
      match store.promises key serial with
      | .pending => none
      | .fulfilled v _ => some (store, .active stack cuts (.run (next v)))
      | .rejected e => some (store, .active stack cuts (.run (.fail e)))
  | .active .call _ (.run (.ret v)) => some (store, .settled (.ok v))
  | .active .call _ (.run (.fail e)) => some (store, .settled (.error e))
  | .active (.frame key serial next outerCuts outer) cuts (.run (.ret v)) =>
      some (store.release key, .active (.frame key serial next outerCuts outer) cuts
        (.released (.ok v)))
  | .active (.frame key serial next outerCuts outer) cuts (.run (.fail e)) =>
      some (store.drop key, .active (.frame key serial next outerCuts outer) cuts (.caught e))
  | .active (.frame key serial next outerCuts outer) cuts (.caught e) =>
      some (store.release key, .active (.frame key serial next outerCuts outer) cuts
        (.released (.error e)))
  | .active (.frame key serial next outerCuts outer) cuts (.released result) =>
      let above := cuts.filter (fun cut => cut ≠ key)
      some (store.settle key serial result (!above.isEmpty),
        .active outer (outerCuts ++ above) (.run (resume next result)))
  | .active .call _ (.caught _) => none
  | .active .call _ (.released _) => none
  | .settled _ => none

/-- The steps of a call, one constructor for each thing that it can do. -/
inductive Advances (service : Service Q R K V E) (store : Store K V E) :
    Call Q R K V E → Store K V E → Call Q R K V E → Prop
  | start (key : K) : Advances service store (.idle key) store
      (.active .call [] (.run (.ask key .ret)))
  | read {stack cuts q next} : Advances service store (.active stack cuts (.run (.read q next)))
      store (.active stack cuts (.run (next (service.answer q))))
  | cut {stack cuts key next} : key ∈ store.inFlight →
      Advances service store (.active stack cuts (.run (.ask key next))) store
        (.active stack (cuts ++ [key]) (.run (next (service.fallback key))))
  | share {stack cuts key next serial} : key ∉ store.inFlight → store.cache key = some serial →
      Advances service store (.active stack cuts (.run (.ask key next))) store
        (.active stack cuts (.await key serial next))
  | look {stack cuts key next} : key ∉ store.inFlight → store.cache key = none →
      Advances service store (.active stack cuts (.run (.ask key next))) (store.start key)
        (.active (.frame key store.created next cuts stack) [] (.run (service.body key)))
  | take {stack cuts key serial next v cutOff} :
      store.promises key serial = .fulfilled v cutOff →
      Advances service store (.active stack cuts (.await key serial next)) store
        (.active stack cuts (.run (next v)))
  | rethrow {stack cuts key serial next e} : store.promises key serial = .rejected e →
      Advances service store (.active stack cuts (.await key serial next)) store
        (.active stack cuts (.run (.fail e)))
  | give {key serial next outerCuts outer cuts v} :
      Advances service store (.active (.frame key serial next outerCuts outer) cuts (.run (.ret v)))
        (store.release key)
        (.active (.frame key serial next outerCuts outer) cuts (.released (.ok v)))
  | drop {key serial next outerCuts outer cuts e} :
      Advances service store
        (.active (.frame key serial next outerCuts outer) cuts (.run (.fail e))) (store.drop key)
        (.active (.frame key serial next outerCuts outer) cuts (.caught e))
  | release {key serial next outerCuts outer cuts e} :
      Advances service store (.active (.frame key serial next outerCuts outer) cuts (.caught e))
        (store.release key)
        (.active (.frame key serial next outerCuts outer) cuts (.released (.error e)))
  | settle {key serial next outerCuts outer cuts result} :
      Advances service store
        (.active (.frame key serial next outerCuts outer) cuts (.released result))
        (store.settle key serial result (!(cuts.filter (fun cut => cut ≠ key)).isEmpty))
        (.active outer (outerCuts ++ cuts.filter (fun cut => cut ≠ key)) (.run (resume next result)))
  | finish {cuts v} : Advances service store (.active .call cuts (.run (.ret v))) store
      (.settled (.ok v))
  | raise {cuts e} : Advances service store (.active .call cuts (.run (.fail e))) store
      (.settled (.error e))

theorem Call.advances_of_advance {service : Service Q R K V E} {store store' : Store K V E}
    {call call' : Call Q R K V E} (h : call.advance service store = some (store', call')) :
    Advances service store call store' call' := by
  unfold Call.advance at h
  split at h
  · cases h; exact .start _
  · cases h; exact .read
  · split at h
    · next hmem => cases h; exact .cut hmem
    · next hnot =>
        split at h
        · next hcached => cases h; exact .share hnot hcached
        · next hnone => cases h; exact .look hnot hnone
  · split at h
    · exact nomatch h
    · next hvalue => cases h; exact .take hvalue
    · next herror => cases h; exact .rethrow herror
  · cases h; exact .finish
  · cases h; exact .raise
  · cases h; exact .give
  · cases h; exact .drop
  · cases h; exact .release
  · cases h; exact .settle
  all_goals exact nomatch h

/-! ### The invariant -/

/-- What the store knows of a call. -/
structure Fits (store : Store K V E) (call : Call Q R K V E) : Prop where
  serials : ∀ f ∈ call.frames, f.2 < store.created
  flight : ∀ key ∈ call.inFlight, key ∈ store.inFlight
  nodup : (call.frames.map Prod.fst).Nodup
  live : ∀ f ∈ call.live, store.cache f.1 = some f.2
  dropped : ∀ f ∈ call.dropped, store.cache f.1 ≠ some f.2
  freed : ∀ f ∈ call.freed, f.1 ∉ store.inFlight
  awaited : ∀ f ∈ call.awaited, store.cache f.1 = some f.2 ∧ f.1 ∉ store.inFlight

section fits

variable {store : Store K V E} {call : Call Q R K V E} {key : K}

theorem Fits.start (h : Fits store call) (hnone : store.cache key = none) :
    Fits (store.start key) call := by
  have hne {f : K × ℕ} (hcache : store.cache f.1 = some f.2) : f.1 ≠ key := by
    rintro rfl
    exact nomatch hcache.symm.trans hnone
  have hold {f : K × ℕ} (hcache : store.cache f.1 = some f.2) :
      (store.start key).cache f.1 = some f.2 := by
    simp only [Store.start, Function.update_of_ne (hne hcache), hcache]
  refine ⟨fun f hf => Nat.lt_succ_of_lt (h.serials f hf),
    fun k hk => Finset.mem_insert_of_mem (h.flight k hk), h.nodup,
    fun f hf => hold (h.live f hf), fun f hf => ?_, fun f hf hmem => ?_, fun f hf => ?_⟩
  · by_cases hkey : f.1 = key
    · have hlt := h.serials f (Call.dropped_subset_frames hf)
      simp only [Store.start, hkey, Function.update_self, ne_eq, Option.some.injEq]
      omega
    · simp only [Store.start, Function.update_of_ne hkey]
      exact h.dropped f hf
  · rcases Finset.mem_insert.mp hmem with hkey | hmem
    · exact hne (h.live f (Call.freed_subset_live hf)) hkey
    · exact h.freed f hf hmem
  · obtain ⟨hcache, hflight⟩ := h.awaited f hf
    refine ⟨hold hcache, fun hmem => ?_⟩
    rcases Finset.mem_insert.mp hmem with hkey | hmem
    · exact hne hcache hkey
    · exact hflight hmem

theorem Fits.release (h : Fits store call) (hkey : key ∉ call.inFlight) :
    Fits (store.release key) call where
  serials := h.serials
  flight := fun k hk => Finset.mem_erase.mpr ⟨fun heq => hkey (heq ▸ hk), h.flight k hk⟩
  nodup := h.nodup
  live := h.live
  dropped := h.dropped
  freed := fun f hf hmem => h.freed f hf (Finset.mem_of_mem_erase hmem)
  awaited := fun f hf =>
    ⟨(h.awaited f hf).1, fun hmem => (h.awaited f hf).2 (Finset.mem_of_mem_erase hmem)⟩

theorem Fits.drop (h : Fits store call) (hflight : key ∈ store.inFlight)
    (hkey : key ∉ call.inFlight) : Fits (store.drop key) call := by
  have hold {f : K × ℕ} (hne : f.1 ≠ key) (hcache : store.cache f.1 = some f.2) :
      (store.drop key).cache f.1 = some f.2 := by
    simp only [Store.drop, Function.update_of_ne hne, hcache]
  refine ⟨h.serials, h.flight, h.nodup, fun f hf => ?_, fun f hf => ?_, h.freed, fun f hf => ?_⟩
  · refine hold (fun heq => ?_) (h.live f hf)
    rcases Call.live_cases hf with hin | hfreed
    · exact hkey (heq ▸ hin)
    · exact h.freed f hfreed (heq ▸ hflight)
  · by_cases heq : f.1 = key
    · simp [Store.drop, heq]
    · simp only [Store.drop, Function.update_of_ne heq]
      exact h.dropped f hf
  · obtain ⟨hcache, hnot⟩ := h.awaited f hf
    exact ⟨hold (fun heq => hnot (heq ▸ hflight)) hcache, hnot⟩

omit [DecidableEq K] in
theorem Fits.of_promises (h : Fits store call) (promises : K → ℕ → Promise V E) :
    Fits { store with promises := promises } call :=
  ⟨h.serials, h.flight, h.nodup, h.live, h.dropped, h.freed, h.awaited⟩

end fits

/-- The keys in flight are those of the calls, each of one call, and the cached promises are fulfilled or
pending in a call. -/
structure Scope.Inv (s : Scope ι Q R K V E) : Prop where
  fits : ∀ i, Fits s.store (s.calls i)
  owned : ∀ key ∈ s.store.inFlight, ∃ i, key ∈ (s.calls i).inFlight
  disjoint : ∀ i j key, key ∈ (s.calls i).inFlight → key ∈ (s.calls j).inFlight → i = j
  serial : ∀ key serial, s.store.cache key = some serial → serial < s.store.created
  cached : ∀ key serial, s.store.cache key = some serial →
    (∃ v cutOff, s.store.promises key serial = .fulfilled v cutOff) ∨
      s.store.promises key serial = .pending ∧ ∃ i, (key, serial) ∈ (s.calls i).live

omit [DecidableEq K] in
theorem inv_initial (keys : ι → K) : (Scope.initial keys : Scope ι Q R K V E).Inv where
  fits := fun i => by
    constructor
    · exact fun f hf => nomatch hf
    · exact fun key hkey => nomatch hkey
    · exact List.nodup_nil
    · exact fun f hf => nomatch hf
    · exact fun f hf => nomatch hf
    · exact fun f hf => nomatch hf
    · exact fun f hf => nomatch hf
  owned := fun key h => nomatch h
  disjoint := fun i j key h => nomatch h
  serial := fun key serial h => nomatch h
  cached := fun key serial h => nomatch h

section preservation

variable [DecidableEq ι] {s : Scope ι Q R K V E} {i : ι} {service : Service Q R K V E}

/-- The scope after a step of one call. -/
def Scope.put (s : Scope ι Q R K V E) (i : ι) (store : Store K V E) (call : Call Q R K V E) :
    Scope ι Q R K V E where
  store := store
  calls := Function.update s.calls i call

omit [DecidableEq K] in
@[simp] theorem Scope.put_calls_self (store : Store K V E) (call : Call Q R K V E) :
    (s.put i store call).calls i = call := Function.update_self ..

omit [DecidableEq K] in
theorem Scope.put_calls_of_ne {j : ι} (hj : j ≠ i) (store : Store K V E) (call : Call Q R K V E) :
    (s.put i store call).calls j = s.calls j := Function.update_of_ne hj ..

omit [DecidableEq K] in
theorem Scope.Inv.put (h : s.Inv) {store : Store K V E} {call : Call Q R K V E}
    (hself : Fits store call) (hothers : ∀ j, j ≠ i → Fits store (s.calls j))
    (howned : ∀ key ∈ store.inFlight, key ∈ call.inFlight ∨ ∃ j, j ≠ i ∧ key ∈ (s.calls j).inFlight)
    (hdisjoint : ∀ key ∈ call.inFlight, ∀ j, j ≠ i → key ∉ (s.calls j).inFlight)
    (hserial : ∀ key serial, store.cache key = some serial → serial < store.created)
    (hcached : ∀ key serial, store.cache key = some serial →
      (∃ v cutOff, store.promises key serial = .fulfilled v cutOff) ∨
        store.promises key serial = .pending ∧ ((key, serial) ∈ call.live ∨
          ∃ j, j ≠ i ∧ (key, serial) ∈ (s.calls j).live)) :
    (s.put i store call).Inv where
  fits := (Function.forall_update_iff s.calls (fun _ => Fits store)).mpr ⟨hself, hothers⟩
  owned := fun key hkey =>
    (Function.exists_update_iff s.calls (fun _ c => key ∈ c.inFlight)).mpr (howned key hkey)
  disjoint := by
    intro j j' key hj hj'
    by_cases heq : j = i
    · by_cases heq' : j' = i
      · rw [heq, heq']
      · subst heq
        rw [Scope.put_calls_self] at hj
        rw [Scope.put_calls_of_ne heq'] at hj'
        exact absurd hj' (hdisjoint key hj j' heq')
    · rw [Scope.put_calls_of_ne heq] at hj
      by_cases heq' : j' = i
      · subst heq'
        rw [Scope.put_calls_self] at hj'
        exact absurd hj (hdisjoint key hj' j heq)
      · rw [Scope.put_calls_of_ne heq'] at hj'
        exact h.disjoint j j' key hj hj'
  serial := hserial
  cached := fun key serial hkey => (hcached key serial hkey).imp_right (And.imp_right
    (Function.exists_update_iff s.calls (fun _ c => (key, serial) ∈ c.live)).mpr)

omit [DecidableEq K] [DecidableEq ι] in
/-- A key in flight and not of a call is of another call. -/
theorem Scope.Inv.owned_of (h : s.Inv) {key : K} (hkey : key ∈ s.store.inFlight) :
    key ∈ (s.calls i).inFlight ∨ ∃ j, j ≠ i ∧ key ∈ (s.calls j).inFlight := by
  obtain ⟨j, hj⟩ := h.owned key hkey
  by_cases heq : j = i
  · exact Or.inl (heq ▸ hj)
  · exact Or.inr ⟨j, heq, hj⟩

omit [DecidableEq K] [DecidableEq ι] in
theorem Scope.Inv.cached_of (h : s.Inv) {key : K} {serial : ℕ}
    (hkey : s.store.cache key = some serial) :
    (∃ v cutOff, s.store.promises key serial = .fulfilled v cutOff) ∨
      s.store.promises key serial = .pending ∧ ((key, serial) ∈ (s.calls i).live ∨
        ∃ j, j ≠ i ∧ (key, serial) ∈ (s.calls j).live) := by
  refine (h.cached key serial hkey).imp_right (And.imp_right ?_)
  rintro ⟨j, hj⟩
  by_cases heq : j = i
  · exact Or.inl (heq ▸ hj)
  · exact Or.inr ⟨j, heq, hj⟩

omit [DecidableEq K] [DecidableEq ι] in
/-- The keys of one call are not in flight in another. -/
theorem Scope.Inv.notMem_of_ne (h : s.Inv) {key : K} (hkey : key ∈ (s.calls i).inFlight) {j : ι}
    (hj : j ≠ i) : key ∉ (s.calls j).inFlight :=
  fun hmem => hj (h.disjoint j i key hmem hkey)

omit [DecidableEq K] in
/-- A step inside a computation changes neither the store nor what the call holds. -/
theorem Scope.Inv.inside (h : s.Inv) {call : Call Q R K V E}
    (hframes : call.frames = (s.calls i).frames) (hinFlight : call.inFlight = (s.calls i).inFlight)
    (hlive : call.live = (s.calls i).live) (hdropped : call.dropped = []) (hfreed : call.freed = [])
    (hawaited : ∀ f ∈ call.awaited, s.store.cache f.1 = some f.2 ∧ f.1 ∉ s.store.inFlight) :
    (s.put i s.store call).Inv := by
  have hfits := h.fits i
  refine h.put ⟨?_, ?_, ?_, ?_, ?_, ?_, hawaited⟩ (fun j _ => h.fits j) ?_ ?_ h.serial ?_
  · rw [hframes]
    exact hfits.serials
  · rw [hinFlight]
    exact hfits.flight
  · rw [hframes]
    exact hfits.nodup
  · rw [hlive]
    exact hfits.live
  · rw [hdropped]
    exact fun f hf => nomatch hf
  · rw [hfreed]
    exact fun f hf => nomatch hf
  · rw [hinFlight]
    exact fun key hkey => h.owned_of hkey
  · rw [hinFlight]
    exact fun key hkey j hj => h.notMem_of_ne hkey hj
  · rw [hlive]
    exact fun key serial hkey => h.cached_of hkey

variable {stack outer : Stack Q R K V E} {cuts outerCuts : List K} {key : K} {serial : ℕ}
  {next : V → Prog Q R K V E V}

theorem Scope.Inv.look (h : s.Inv)
    (hcall : s.calls i = .active stack cuts (.run (.ask key next)))
    (hnot : key ∉ s.store.inFlight) (hnone : s.store.cache key = none) :
    (s.put i (s.store.start key)
      (.active (.frame key s.store.created next cuts stack) []
        (.run (service.body key)))).Inv := by
  have hfits := h.fits i
  rw [hcall] at hfits
  have hfits' := hfits.start hnone
  refine h.put ⟨?_, ?_, ?_, ?_, ?_, ?_, ?_⟩ (fun j _ => (h.fits j).start hnone) ?_ ?_ ?_ ?_
  · intro f hf
    rcases List.mem_cons.mp hf with rfl | hf
    · exact Nat.lt_succ_self _
    · exact hfits'.serials f hf
  · intro k hk
    rcases List.mem_cons.mp hk with rfl | hk
    · exact Finset.mem_insert_self _ _
    · exact hfits'.flight k hk
  · exact List.nodup_cons.mpr ⟨fun hmem => hnot (hfits.flight key hmem), hfits.nodup⟩
  · intro f hf
    rcases List.mem_cons.mp hf with rfl | hf
    · exact Function.update_self ..
    · exact hfits'.live f hf
  · exact fun f hf => nomatch hf
  · exact fun f hf => nomatch hf
  · exact fun f hf => nomatch hf
  · intro k hk
    rcases Finset.mem_insert.mp hk with rfl | hk
    · exact Or.inl List.mem_cons_self
    · refine (h.owned_of hk).imp_left (fun hk => ?_)
      rw [hcall] at hk
      exact List.mem_cons_of_mem _ hk
  · intro k hk j hj
    rcases List.mem_cons.mp hk with rfl | hk
    · exact fun hmem => hnot ((h.fits j).flight k hmem)
    · refine h.notMem_of_ne ?_ hj
      rw [hcall]
      exact hk
  · intro k n hk
    by_cases heq : k = key
    · subst heq
      obtain rfl : s.store.created = n := by
        simpa [Store.start] using hk
      exact Nat.lt_succ_self _
    · simp only [Store.start, Function.update_of_ne heq] at hk
      exact Nat.lt_succ_of_lt (h.serial k n hk)
  · intro k n hk
    by_cases heq : k = key
    · subst heq
      obtain rfl : s.store.created = n := by
        simpa [Store.start] using hk
      refine Or.inr ⟨?_, Or.inl List.mem_cons_self⟩
      simp [Store.start]
    · simp only [Store.start, Function.update_of_ne heq] at hk ⊢
      refine (h.cached_of hk).imp_right (And.imp_right (Or.imp_left fun hlive => ?_))
      rw [hcall] at hlive
      exact List.mem_cons_of_mem _ hlive

/-- A step that takes the innermost key of a call out of flight. -/
theorem Scope.Inv.release (h : s.Inv) {call : Call Q R K V E}
    (hinFlight : (s.calls i).inFlight = key :: call.inFlight)
    (hframes : call.frames = (s.calls i).frames) (hlive : call.live = (s.calls i).live)
    (hdropped : call.dropped ⊆ (s.calls i).dropped) (hfreed : ∀ f ∈ call.freed, f.1 = key)
    (hawaited : call.awaited = []) : (s.put i (s.store.release key) call).Inv := by
  have hfits := h.fits i
  have hkey : key ∈ (s.calls i).inFlight := by
    rw [hinFlight]
    exact List.mem_cons_self
  have hmem {k : K} (hk : k ∈ call.inFlight) : k ∈ (s.calls i).inFlight := by
    rw [hinFlight]
    exact List.mem_cons_of_mem _ hk
  have hnodup := Call.inFlight_sublist.nodup hfits.nodup
  rw [hinFlight] at hnodup
  have hhead : key ∉ call.inFlight := (List.nodup_cons.mp hnodup).1
  refine h.put ⟨?_, ?_, ?_, ?_, ?_, ?_, ?_⟩
    (fun j hj => (h.fits j).release (h.notMem_of_ne hkey hj)) ?_ ?_ h.serial ?_
  · rw [hframes]
    exact hfits.serials
  · intro k hk
    refine Finset.mem_erase.mpr ⟨?_, hfits.flight k (hmem hk)⟩
    rintro rfl
    exact hhead hk
  · rw [hframes]
    exact hfits.nodup
  · rw [hlive]
    exact hfits.live
  · exact fun f hf => hfits.dropped f (hdropped hf)
  · intro f hf
    rw [hfreed f hf]
    exact Finset.notMem_erase _ _
  · rw [hawaited]
    exact fun f hf => nomatch hf
  · intro k hk
    obtain ⟨hne, hk⟩ := Finset.mem_erase.mp hk
    refine (h.owned_of hk).imp_left (fun hk => ?_)
    rw [hinFlight] at hk
    exact (List.mem_cons.mp hk).resolve_left hne
  · exact fun k hk j hj => h.notMem_of_ne (hmem hk) hj
  · rw [hlive]
    exact fun k n hk => h.cached_of hk

theorem Scope.Inv.drop (h : s.Inv) {e : E}
    (hcall : s.calls i = .active (.frame key serial next outerCuts outer) cuts (.run (.fail e))) :
    (s.put i (s.store.drop key)
      (.active (.frame key serial next outerCuts outer) cuts (.caught e))).Inv := by
  have hfits := h.fits i
  rw [hcall] at hfits
  have hkey : key ∈ (s.calls i).inFlight := by
    rw [hcall]
    exact List.mem_cons_self
  have hhead : key ∉ outer.keys := (List.nodup_cons.mp hfits.nodup).1
  refine h.put ⟨hfits.serials, hfits.flight, hfits.nodup, ?_, ?_, ?_, ?_⟩
    (fun j hj => (h.fits j).drop (hfits.flight key List.mem_cons_self) (h.notMem_of_ne hkey hj))
    ?_ ?_ ?_ ?_
  · intro f hf
    have hmem : f.1 ∈ outer.keys := List.mem_map_of_mem hf
    have hne : f.1 ≠ key := fun heq => hhead (heq ▸ hmem)
    simp only [Store.drop, Function.update_of_ne hne]
    exact hfits.live f (List.mem_cons_of_mem _ hf)
  · intro f hf
    obtain rfl := List.mem_singleton.mp hf
    simp [Store.drop]
  · exact fun f hf => nomatch hf
  · exact fun f hf => nomatch hf
  · intro k hk
    refine (h.owned_of hk).imp_left (fun hk => ?_)
    rw [hcall] at hk
    exact hk
  · intro k hk j hj
    refine h.notMem_of_ne ?_ hj
    rw [hcall]
    exact hk
  · intro k n hk
    by_cases heq : k = key
    · subst heq
      simp [Store.drop] at hk
    · simp only [Store.drop, Function.update_of_ne heq] at hk
      exact h.serial k n hk
  · intro k n hk
    by_cases heq : k = key
    · subst heq
      simp [Store.drop] at hk
    · simp only [Store.drop, Function.update_of_ne heq] at hk
      refine (h.cached_of hk).imp_right (And.imp_right (Or.imp_left fun hlive => ?_))
      rw [hcall] at hlive
      refine (List.mem_cons.mp hlive).resolve_left (fun hframe => heq ?_)
      exact congrArg Prod.fst hframe

/-- A promise that settles changes no other promise. -/
theorem Store.settle_promises_of_ne {store : Store K V E} {result : Except E V} {cutOff : Bool}
    {k : K} {n : ℕ} (hne : (k, n) ≠ (key, serial)) :
    (store.settle key serial result cutOff).promises k n = store.promises k n := by
  unfold Store.settle
  by_cases hk : k = key
  · subst hk
    have hn : n ≠ serial := fun heq => hne (heq ▸ rfl)
    simp [Function.update_of_ne hn]
  · simp [Function.update_of_ne hk]

theorem Store.settle_promises_self {store : Store K V E} {result : Except E V} {cutOff : Bool} :
    (store.settle key serial result cutOff).promises key serial =
      (store.promises key serial).settle result cutOff := by
  simp [Store.settle]

theorem Scope.Inv.settle (h : s.Inv) {result : Except E V} (cutOff : Bool) (cuts' : List K)
    (hcall : s.calls i = .active (.frame key serial next outerCuts outer) cuts (.released result)) :
    (s.put i (s.store.settle key serial result cutOff)
      (.active outer cuts' (.run (resume next result)))).Inv := by
  have hfits := h.fits i
  rw [hcall] at hfits
  have hlive : ∀ f ∈ outer.frames,
      f ∈ (Call.active (.frame key serial next outerCuts outer) cuts (.released result)).live := by
    intro f hf
    cases result with
    | ok v => exact List.mem_cons_of_mem _ hf
    | error e => exact hf
  refine h.put ⟨?_, hfits.flight, (List.nodup_cons.mp hfits.nodup).2, ?_, ?_, ?_, ?_⟩
    (fun j _ => (h.fits j).of_promises _) ?_ ?_ h.serial ?_
  · exact fun f hf => hfits.serials f (List.mem_cons_of_mem _ hf)
  · exact fun f hf => hfits.live f (hlive f hf)
  · exact fun f hf => nomatch hf
  · exact fun f hf => nomatch hf
  · exact fun f hf => nomatch hf
  · intro k hk
    have hk' := h.owned_of (i := i) hk
    rw [hcall] at hk'
    exact hk'
  · intro k hk j hj
    refine h.notMem_of_ne ?_ hj
    rw [hcall]
    exact hk
  · intro k n hk
    by_cases heq : (k, n) = (key, serial)
    · obtain ⟨rfl, rfl⟩ := Prod.mk.inj heq
      rw [Store.settle_promises_self]
      cases result with
      | ok v =>
          rcases h.cached k n hk with ⟨v', cutOff', hvalue⟩ | ⟨hpending, -⟩
          · rw [hvalue]
            exact Or.inl ⟨v', cutOff', rfl⟩
          · rw [hpending]
            exact Or.inl ⟨v, cutOff, rfl⟩
      | error e => exact absurd hk (hfits.dropped (k, n) List.mem_cons_self)
    · rw [Store.settle_promises_of_ne heq]
      refine (h.cached_of hk).imp_right (And.imp_right (Or.imp_left fun hmem => ?_))
      rw [hcall] at hmem
      cases result with
      | ok v => exact (List.mem_cons.mp hmem).resolve_left heq
      | error e => exact hmem

theorem Advances.inv {call call' : Call Q R K V E} {store : Store K V E}
    (hstep : Advances service s.store call store call') (hcall : s.calls i = call) (h : s.Inv) :
    (s.put i store call').Inv := by
  cases hstep with
  | start | read | cut | take | rethrow | finish | raise =>
      refine h.inside ?_ ?_ ?_ rfl rfl (fun f hf => nomatch hf) <;> (rw [hcall]; rfl)
  | share hnot hcached =>
      refine h.inside ?_ ?_ ?_ rfl rfl (fun f hf => ?_)
      · rw [hcall]; rfl
      · rw [hcall]; rfl
      · rw [hcall]; rfl
      · obtain rfl := List.mem_singleton.mp hf
        exact ⟨hcached, hnot⟩
  | look hnot hnone => exact h.look hcall hnot hnone
  | give =>
      refine h.release ?_ ?_ ?_ (List.nil_subset _) (fun f hf => ?_) rfl
      · rw [hcall]; rfl
      · rw [hcall]; rfl
      · rw [hcall]; rfl
      · obtain rfl := List.mem_singleton.mp hf
        rfl
  | drop => exact h.drop hcall
  | release =>
      refine h.release ?_ ?_ ?_ ?_ (fun f hf => nomatch hf) rfl
      · rw [hcall]; rfl
      · rw [hcall]; rfl
      · rw [hcall]; rfl
      · rw [hcall]
        exact List.Subset.refl _
  | settle => exact h.settle _ _ hcall

end preservation

/-! ### Runs -/

/-- A step of a call; a read of a body gives the stored answer, or throws. -/
inductive StepOf [DecidableEq ι] (service : Service Q R K V E) (i : ι) :
    Scope ι Q R K V E → Scope ι Q R K V E → Prop
  | advance {s store call} (h : (s.calls i).advance service s.store = some (store, call)) :
      StepOf service i s (s.put i store call)
  | throw {s} (e : E) {key serial next outerCuts outer cuts p}
      (h : s.calls i = .active (.frame key serial next outerCuts outer) cuts (.run p))
      (hp : ∀ e', p ≠ .fail e') :
      StepOf service i s
        (s.put i s.store (.active (.frame key serial next outerCuts outer) cuts (.run (.fail e))))

/-- A step of one of the calls. -/
def Step [DecidableEq ι] (service : Service Q R K V E) (s s' : Scope ι Q R K V E) : Prop :=
  ∃ i, StepOf service i s s'

section runs

variable [DecidableEq ι] {service : Service Q R K V E} {s s' : Scope ι Q R K V E} {i : ι}

/-- The scopes that the calls for `keys` can reach. -/
def Reachable (service : Service Q R K V E) (keys : ι → K) (s : Scope ι Q R K V E) : Prop :=
  Relation.ReflTransGen (Step service) (.initial keys) s

theorem StepOf.inv (hstep : StepOf service i s s') (h : s.Inv) : s'.Inv := by
  cases hstep with
  | advance hadvance => exact (Call.advances_of_advance hadvance).inv rfl h
  | throw e hcall hp =>
      refine h.inside ?_ ?_ ?_ rfl rfl (fun f hf => nomatch hf) <;> (rw [hcall]; rfl)

theorem Reachable.inv {keys : ι → K} (h : Reachable service keys s) : s.Inv := by
  induction h with
  | refl => exact inv_initial keys
  | tail _ hstep ih =>
      obtain ⟨i, hstep⟩ := hstep
      exact hstep.inv ih

end runs

end OlympusMetrics.Lookup
