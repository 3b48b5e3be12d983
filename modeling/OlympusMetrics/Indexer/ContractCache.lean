import OlympusMetrics.Library.AmbientScopes

/-!
The per-snapshot cache of contract reads, which operations install for as long
as they run.

An operation's cache is named by the operation, and a read by its cache key. A
stored promise stays in the cache unless it rejects.
-/

namespace OlympusMetrics.ContractCache

open AmbientScopes

/-- Which cache a read used, and whether it was served from it. -/
structure CacheUse (Op Key : Type) where
  op : Op
  key : Key
  cache : Option Op
  served : Bool
  deriving DecidableEq

/-- The module's state: the ambient cache, the operations begun so far, what each cache holds and
the uses made of the caches. -/
structure ReadState (Op Key : Type) where
  scopes : Scopes Op
  begun : List Op
  caches : Op → List Key
  uses : List (CacheUse Op Key)

/-- The asynchronous steps of the operations. -/
inductive CacheEvent (Op Key : Type)
  | begin (op : Op)
  | read (op : Op) (key : Key)
  | reject (cache : Option Op) (key : Key)
  | settle (op : Op)

variable {Op Key : Type} [DecidableEq Op] [DecidableEq Key]

def ReadState.initial : ReadState Op Key := ⟨.none, [], fun _ => [], []⟩

namespace ReadState

variable (s : ReadState Op Key)

/-- The start of `withContractReadCache`: a new cache is installed. -/
def beginOperation (op : Op) : ReadState Op Key :=
  { s with
    scopes := s.scopes.enter op
    begun := op :: s.begun
    caches := Function.update s.caches op [] }

/-- `readContract`: the ambient cache serves the read or stores its promise. -/
def readContract (op : Op) (key : Key) : ReadState Op Key :=
  let cache := s.scopes.active
  match cache with
  | none => { s with uses := ⟨op, key, none, false⟩ :: s.uses }
  | some active =>
      if key ∈ s.caches active then { s with uses := ⟨op, key, some active, true⟩ :: s.uses }
      else
        { s with
          caches := Function.update s.caches active (key :: s.caches active)
          uses := ⟨op, key, some active, false⟩ :: s.uses }

/-- A rejected read is removed from the cache that it was stored in. -/
def rejectRead (cache : Option Op) (key : Key) : ReadState Op Key :=
  match cache with
  | none => s
  | some stored => { s with caches := Function.update s.caches stored ((s.caches stored).erase key) }

/-- The `finally` of `withContractReadCache`, after a normal end or an error. -/
def settleOperation (op : Op) : ReadState Op Key := { s with scopes := s.scopes.exit op }

end ReadState

/-- One step. An operation begins once, reads and settles while it runs, and only a read that was
sent can reject. -/
def step (s : ReadState Op Key) : CacheEvent Op Key → Option (ReadState Op Key)
  | .begin op => if op ∈ s.begun then none else some (s.beginOperation op)
  | .read op key => if op ∈ s.scopes.running then some (s.readContract op key) else none
  | .reject cache key =>
      if ∃ use ∈ s.uses, use.key = key ∧ use.cache = cache ∧ use.served = false then
        some (s.rejectRead cache key)
      else none
  | .settle op => if op ∈ s.scopes.running then some (s.settleOperation op) else none

/-- The state after a sequence of steps. -/
def runFrom (s : ReadState Op Key) : List (CacheEvent Op Key) → Option (ReadState Op Key)
  | [] => some s
  | event :: events => (step s event).bind (fun s' => runFrom s' events)

/-- Every step of a run satisfies a condition on the state before it. -/
def EveryStep (condition : ReadState Op Key → CacheEvent Op Key → Prop) (s : ReadState Op Key) :
    List (CacheEvent Op Key) → Prop
  | [] => True
  | event :: events => condition s event ∧
      match step s event with
      | none => True
      | some s' => EveryStep condition s' events

instance EveryStep.decide {condition : ReadState Op Key → CacheEvent Op Key → Prop}
    [∀ s event, Decidable (condition s event)] (s : ReadState Op Key) :
    (events : List (CacheEvent Op Key)) → Decidable (EveryStep condition s events)
  | [] => .isTrue trivial
  | event :: events =>
      match hstep : step s event with
      | none => decidable_of_iff (condition s event) (by simp [EveryStep, hstep])
      | some s' =>
          have : Decidable (EveryStep condition s' events) := EveryStep.decide s' events
          decidable_of_iff (condition s event ∧ EveryStep condition s' events)
            (by simp [EveryStep, hstep])

/-- No operation reads or settles while one that began later is running. -/
def Innermost (s : ReadState Op Key) : CacheEvent Op Key → Prop
  | .begin _ | .reject _ _ => True
  | .read op _ | .settle op => s.scopes.running.head? = some op

instance (s : ReadState Op Key) : (event : CacheEvent Op Key) → Decidable (Innermost s event)
  | .begin _ | .reject _ _ => .isTrue trivial
  | .read op _ | .settle op =>
      inferInstanceAs (Decidable (s.scopes.running.head? = some op))

/-- Each read used its own operation's cache, and no cache is installed once all operations have
settled. -/
structure Isolated (s : ReadState Op Key) : Prop where
  own : ∀ use ∈ s.uses, use.cache = some use.op
  cleared : s.scopes.running = [] → s.scopes.active = none

/-! ### What one step keeps -/

/-- The invariant of nested operations. -/
structure Nested (s : ReadState Op Key) : Prop where
  stacked : Stacked s.scopes
  begun : ∀ op ∈ s.scopes.running, op ∈ s.begun
  own : ∀ use ∈ s.uses, use.cache = some use.op

omit [DecidableEq Op] [DecidableEq Key] in
theorem nested_initial : Nested (.initial : ReadState Op Key) :=
  ⟨stacked_none, fun _ h => absurd h List.not_mem_nil, fun _ h => absurd h List.not_mem_nil⟩

omit [DecidableEq Op] [DecidableEq Key] in
theorem Nested.isolated {s : ReadState Op Key} (h : Nested s) : Isolated s where
  own := h.own
  cleared := by
    intro hrunning
    rw [h.stacked.active, hrunning]
    rfl

@[simp] theorem scopes_readContract (s : ReadState Op Key) (op : Op) (key : Key) :
    (s.readContract op key).scopes = s.scopes := by
  unfold ReadState.readContract
  dsimp only
  split
  · rfl
  · split <;> rfl

@[simp] theorem begun_readContract (s : ReadState Op Key) (op : Op) (key : Key) :
    (s.readContract op key).begun = s.begun := by
  unfold ReadState.readContract
  dsimp only
  split
  · rfl
  · split <;> rfl

/-- A read uses the ambient cache. -/
theorem uses_readContract (s : ReadState Op Key) (op : Op) (key : Key) :
    ∃ served, (s.readContract op key).uses = ⟨op, key, s.scopes.active, served⟩ :: s.uses := by
  unfold ReadState.readContract
  cases hactive : s.scopes.active with
  | none => exact ⟨false, rfl⟩
  | some active =>
      dsimp only
      split
      · exact ⟨true, rfl⟩
      · exact ⟨false, rfl⟩

theorem Nested.step {s s' : ReadState Op Key} {event : CacheEvent Op Key} (h : Nested s)
    (hinnermost : Innermost s event) (hstep : step s event = some s') : Nested s' := by
  cases event with
  | begin op =>
      simp only [ContractCache.step] at hstep
      split at hstep
      · exact nomatch hstep
      · next hnew =>
          obtain rfl := Option.some.inj hstep
          refine ⟨h.stacked.enter (fun hmem => hnew (h.begun op hmem)), ?_, h.own⟩
          intro op' hop'
          rcases List.mem_cons.mp hop' with rfl | hop'
          · exact List.mem_cons_self
          · exact List.mem_cons_of_mem _ (h.begun op' hop')
  | read op key =>
      simp only [ContractCache.step] at hstep
      split at hstep
      · obtain rfl := Option.some.inj hstep
        obtain ⟨served, huses⟩ := uses_readContract s op key
        refine ⟨by simpa using h.stacked, by simpa using h.begun, ?_⟩
        rw [huses]
        intro use huse
        rcases List.mem_cons.mp huse with rfl | huse
        · exact h.stacked.active.trans hinnermost
        · exact h.own use huse
      · exact nomatch hstep
  | reject cache key =>
      simp only [ContractCache.step] at hstep
      split at hstep
      · obtain rfl := Option.some.inj hstep
        unfold ReadState.rejectRead
        split
        · exact h
        · exact ⟨h.stacked, h.begun, h.own⟩
      · exact nomatch hstep
  | settle op =>
      simp only [ContractCache.step] at hstep
      split at hstep
      · obtain rfl := Option.some.inj hstep
        refine ⟨h.stacked.exit hinnermost, ?_, h.own⟩
        intro op' hop'
        exact h.begun op' (List.mem_of_mem_erase hop')
      · exact nomatch hstep

theorem nested_run {s s' : ReadState Op Key} {events : List (CacheEvent Op Key)} (h : Nested s)
    (hinnermost : EveryStep Innermost s events) (hrun : runFrom s events = some s') :
    Nested s' := by
  induction events generalizing s with
  | nil =>
      obtain rfl := Option.some.inj hrun
      exact h
  | cons event events ih =>
      obtain ⟨mid, hstep, hrest⟩ := Option.bind_eq_some_iff.mp hrun
      have hrestInnermost := hinnermost.2
      rw [hstep] at hrestInnermost
      exact ih (h.step hinnermost.1 hstep) hrestInnermost hrest

/-- In every run in which only the innermost operation reads or settles, the caches do not leak. -/
theorem isolated_of_innermost {events : List (CacheEvent Op Key)} {s : ReadState Op Key}
    (hinnermost : EveryStep Innermost .initial events)
    (hrun : runFrom .initial events = some s) : Isolated s :=
  (nested_run nested_initial hinnermost hrun).isolated

/-! ### The first step that is not nested -/

/-- When another operation than the innermost one settles, the next read of the innermost one
misses its own cache. -/
theorem settle_uninstalls {s : ReadState Op Key} (h : Nested s) {op top : Op} {key : Key}
    (hop : op ∈ s.scopes.running) (htop : s.scopes.running.head? = some top) (hne : op ≠ top) :
    ∃ use ∈ ((s.settleOperation op).readContract top key).uses,
      use.op = top ∧ use.cache ≠ some top := by
  obtain ⟨served, huses⟩ := uses_readContract (s.settleOperation op) top key
  refine ⟨⟨top, key, (s.settleOperation op).scopes.active, served⟩, huses ▸ List.mem_cons_self,
    rfl, ?_⟩
  exact (h.stacked.active_exit_ne htop hop hne).2

/-! ### Two snapshots -/

/-- Two operations one inside the other. -/
def nestedSnapshots : List (CacheEvent String ℕ) :=
  [.begin "ethereum", .read "ethereum" 1, .begin "base", .read "base" 1, .settle "base",
   .read "ethereum" 2, .settle "ethereum"]

theorem isolated_nestedSnapshots :
    ∃ s, runFrom .initial nestedSnapshots = some s ∧ Isolated s := by
  have hinnermost : EveryStep Innermost .initial nestedSnapshots := by
    decide +kernel
  obtain ⟨s, hrun⟩ : ∃ s, runFrom .initial nestedSnapshots = some s :=
    Option.isSome_iff_exists.mp (by decide +kernel)
  exact ⟨s, hrun, isolated_of_innermost hinnermost hrun⟩

/-- Two operations that overlap: the first reads while the second is installed, and settles
first. -/
def overlappingSnapshots : List (CacheEvent String ℕ) :=
  [.begin "ethereum", .begin "base", .read "ethereum" 1, .settle "ethereum", .settle "base"]

/-- The read is stored in the other snapshot's cache, and a cache stays installed at the end. -/
theorem overlappingSnapshots_leak :
    ∃ s, runFrom .initial overlappingSnapshots = some s ∧
      s.uses = [⟨"ethereum", 1, some "base", false⟩] ∧ s.scopes.running = [] ∧
      s.scopes.active = some "ethereum" ∧ ¬ Isolated s := by
  have hrun : (runFrom .initial overlappingSnapshots).map
      (fun s => (s.uses, s.scopes.running, s.scopes.active)) =
        some ([⟨"ethereum", 1, some "base", false⟩], [], some "ethereum") := by
    decide +kernel
  obtain ⟨s, hs, heq⟩ := Option.map_eq_some_iff.mp hrun
  simp only [Prod.mk.injEq] at heq
  obtain ⟨huses, hrunning, hactive⟩ := heq
  refine ⟨s, hs, huses, hrunning, hactive, fun h => ?_⟩
  have hcleared := h.cleared hrunning
  rw [hactive] at hcleared
  exact nomatch hcleared

end OlympusMetrics.ContractCache
