import OlympusMetrics.Publisher.Publish

/-!
Publisher runs that share one artifact store.

The runs are interleaved at their store operations. Time passes between the
operations, and a lock is always released before it expires.
-/

namespace OlympusMetrics.Publisher

variable {Row : ArtifactKind → Type}

/-- The stored objects and the time. `manifestRead` is bookkeeping: the manifest that each run has
read, under the id of the run. -/
structure PublisherState (Row : ArtifactKind → Type) where
  objects : Objects Row
  clock : ℕ
  manifestRead : String → Option Manifest

/-- Every key that the stored manifest lists names a stored object. -/
def NoDangling (objects : Objects Row) : Prop :=
  ∀ manifest, objects.lookup manifestKey = some (.manifest manifest) →
    ∀ key ∈ manifest.artifacts, key ∈ objects

/-- The lock in the store. -/
def storedLock (objects : Objects Row) : Option PublisherLock :=
  match objects.lookup publisherLockKey with
  | some (.lock lock) => some lock
  | _ => none

/-- The id of the run that holds the lock. -/
def holder (objects : Objects Row) : Option String := (storedLock objects).map (·.runId)

def manifestOf : Except PublishError (Artifact Row) → Option Manifest
  | .ok (.manifest manifest) => some manifest
  | _ => none

/-- The manifest that an operation has answered. -/
def manifestAnswer : (op : StoreOp Row) → Except PublishError op.Answer → Option Manifest
  | .getJson key, result => if key = manifestKey then manifestOf result else none
  | .getJsonWithMetadata _, _ | .putJson .., _ | .putJsonIfAbsent .., _ | .putJsonIfMatch .., _
  | .listKeys _, _ | .deleteJson _, _ | .deleteJsonIfMatch .., _ => none

/-- Notes the manifest that a run has read. -/
def noteManifest (runId : String) (read : String → Option Manifest) (op : StoreOp Row)
    (result : Except PublishError op.Answer) : String → Option Manifest :=
  match manifestAnswer op result with
  | some manifest => Function.update read runId (some manifest)
  | none => read

/-- One store operation of a run. The run has started, and a stored lock has not expired yet. -/
structure StoreStep (json : Serialization Row) (inputs : String → PublishInput Row)
    (runId : String) (op : StoreOp Row) (s : PublisherState Row)
    (result : Except PublishError op.Answer) (s' : PublisherState Row) : Prop where
  started : (inputs runId).now ≤ s.clock
  unexpired : ∀ lock, storedLock s.objects = some lock → s.clock < lock.expiresAt
  effect : memoryStore json s.objects op = (result, s'.objects)
  clock : s'.clock = s.clock
  manifestRead : s'.manifestRead = noteManifest runId s.manifestRead op result

/-- Time passes between the operations. -/
def TimePasses (s s' : PublisherState Row) : Prop :=
  s'.objects = s.objects ∧ s'.manifestRead = s.manifestRead ∧ s.clock ≤ s'.clock

/-- When a run acquires the lock, the shards of its own deployment that the manifest it has read
lists are still stored. -/
def ReadStillStored (inputs : String → PublishInput Row) (runId : String) (op : StoreOp Row)
    (s : PublisherState Row) : Prop :=
  ∀ lock, op = .putJsonIfAbsent publisherLockKey lock →
    s.objects.lookup publisherLockKey = none →
    ∀ manifest, s.manifestRead runId = some manifest →
    ∀ deploymentId, parseDeploymentId (inputs runId).deploymentId = .ok deploymentId →
    ∀ key ∈ manifest.artifacts, startsWith key (deploymentPrefix deploymentId) → key ∈ s.objects

/-- The store with the runs on it. -/
abbrev PublisherSystem (Row : ArtifactKind → Type) :=
  System String (PublisherState Row) (StoreOp Row) StoreOp.Answer PublishError PublishResult

/-- All runs at their start over a store. -/
def PublisherSystem.start [∀ kind, Dated (Row kind)] (json : Serialization Row)
    (inputs : String → PublishInput Row) (objects : Objects Row) (clock : ℕ) :
    PublisherSystem Row where
  state := { objects := objects, clock := clock, manifestRead := fun _ => none }
  programs := fun runId => publishMetricsArtifacts json runId (inputs runId)

/-- What any interleaving of the runs can reach. -/
def Interleaving (json : Serialization Row) (inputs : String → PublishInput Row) :
    PublisherSystem Row → PublisherSystem Row → Prop :=
  System.Reaches TimePasses (StoreStep json inputs)

/-- An interleaving in which every acquisition of the lock finds the shards that the run builds
on. -/
def FreshInterleaving (json : Serialization Row) (inputs : String → PublishInput Row) :
    PublisherSystem Row → PublisherSystem Row → Prop :=
  System.Reaches TimePasses (fun runId op s result s' =>
    StoreStep json inputs runId op s result s' ∧ ReadStillStored inputs runId op s)

/-! ### Schedules -/

/-- The steps that a schedule may take. -/
abbrev StepFilter (Row : ArtifactKind → Type) := String → StoreOp Row → PublisherState Row → Bool

/-- Whether a step meets `ReadStillStored`. -/
def readStillStored (inputs : String → PublishInput Row) : StepFilter Row := fun runId op s =>
  match op with
  | .putJsonIfAbsent key _ =>
      match decide (key = publisherLockKey), s.objects.lookup publisherLockKey,
        s.manifestRead runId, parseDeploymentId (inputs runId).deploymentId with
      | true, none, some manifest, .ok deploymentId => manifest.artifacts.keys.all (fun key =>
          !startsWith key (deploymentPrefix deploymentId) || s.objects.keys.contains key)
      | _, _, _, _ => true
  | _ => true

theorem readStillStored_sound {inputs : String → PublishInput Row} {runId : String}
    {op : StoreOp Row} {s : PublisherState Row} (h : readStillStored inputs runId op s = true) :
    ReadStillStored inputs runId op s := by
  rintro lock rfl hfree manifest hread deploymentId hid key hkey hbelow
  simp only [readStillStored, decide_true, hfree, hread, hid] at h
  have hstored := List.all_eq_true.mp h key (AList.mem_keys.mp hkey)
  rw [hbelow, Bool.not_true, Bool.false_or] at hstored
  exact AList.mem_keys.mpr (List.contains_iff_mem.mp hstored)

namespace PublisherSystem

variable (json : Serialization Row) (inputs : String → PublishInput Row) (allowed : StepFilter Row)

/-- The next operation of a run at a given time. -/
def runNext (runId : String) (time : ℕ) (σ : PublisherSystem Row) :
    Option (PublisherSystem Row) :=
  match σ.programs runId with
  | .call op next =>
      if σ.state.clock ≤ time ∧ (inputs runId).now ≤ time ∧
          (storedLock σ.state.objects).all (fun lock => time < lock.expiresAt) ∧
          allowed runId op { σ.state with clock := time } then
        let answer := memoryStore json σ.state.objects op
        some
          { state :=
              { objects := answer.2
                clock := time
                manifestRead := noteManifest runId σ.state.manifestRead op answer.1 }
            programs := Function.update σ.programs runId (next answer.1) }
      else none
  | _ => none

/-- The next `count` operations of a run, all at one time. -/
def runFor (runId : String) (time : ℕ) :
    ℕ → PublisherSystem Row → Option (PublisherSystem Row)
  | 0, σ => some σ
  | count + 1, σ => (runNext json inputs allowed runId time σ).bind (runFor runId time count)

/-- A schedule: each entry is a run, a time and a number of operations of the run at that time. -/
def runSchedule : List (String × ℕ × ℕ) → PublisherSystem Row → Option (PublisherSystem Row)
  | [], σ => some σ
  | (runId, time, count) :: rest, σ =>
      (runFor json inputs allowed runId time count σ).bind (runSchedule rest)

/-- The interleavings whose steps pass a filter. -/
def Filtered : PublisherSystem Row → PublisherSystem Row → Prop :=
  System.Reaches TimePasses (fun runId op s result s' =>
    StoreStep json inputs runId op s result s' ∧ allowed runId op s = true)

variable {json inputs allowed} {σ σ' : PublisherSystem Row}

theorem filtered_runNext {runId : String} {time : ℕ}
    (h : runNext json inputs allowed runId time σ = some σ') :
    Filtered json inputs allowed σ σ' := by
  unfold runNext at h
  split at h
  · next op next hprogram =>
      split at h
      · next hguard =>
          obtain ⟨hclock, hstarted, hunexpired, hallowed⟩ := hguard
          obtain rfl := Option.some.inj h
          have htime : System.Step TimePasses (fun runId op s result s' =>
              StoreStep json inputs runId op s result s' ∧ allowed runId op s = true) σ
              ⟨{ σ.state with clock := time }, σ.programs⟩ := .idle ⟨rfl, rfl, hclock⟩
          refine (Relation.ReflTransGen.single htime).tail
            (.call runId hprogram ⟨⟨hstarted, ?_, rfl, rfl, rfl⟩, hallowed⟩)
          intro lock hlock
          dsimp only at hlock
          rw [hlock] at hunexpired
          exact of_decide_eq_true hunexpired
      · exact nomatch h
  · exact nomatch h

theorem filtered_runFor {runId : String} {time count : ℕ}
    (h : runFor json inputs allowed runId time count σ = some σ') :
    Filtered json inputs allowed σ σ' := by
  induction count generalizing σ with
  | zero =>
      obtain rfl := Option.some.inj h
      exact .refl
  | succ count ih =>
      obtain ⟨mid, hnext, hrest⟩ := Option.bind_eq_some_iff.mp h
      exact (filtered_runNext hnext).trans (ih hrest)

/-- A schedule that goes through is an interleaving. -/
theorem filtered_runSchedule {schedule : List (String × ℕ × ℕ)}
    (h : runSchedule json inputs allowed schedule σ = some σ') :
    Filtered json inputs allowed σ σ' := by
  induction schedule generalizing σ with
  | nil =>
      obtain rfl := Option.some.inj h
      exact .refl
  | cons entry rest ih =>
      obtain ⟨mid, hfirst, hrest⟩ := Option.bind_eq_some_iff.mp h
      exact (filtered_runFor hfirst).trans (ih hrest)

/-- A schedule that ends in a state that passes a check. -/
theorem exists_of_runSchedule {schedule : List (String × ℕ × ℕ)}
    {check : PublisherSystem Row → Bool}
    (h : (runSchedule json inputs allowed schedule σ).any check = true) :
    ∃ σ', Filtered json inputs allowed σ σ' ∧ check σ' = true := by
  cases hrun : runSchedule json inputs allowed schedule σ with
  | none =>
      rw [hrun] at h
      exact nomatch h
  | some σ' =>
      rw [hrun] at h
      exact ⟨σ', filtered_runSchedule hrun, h⟩

theorem Filtered.interleaving (h : Filtered json inputs allowed σ σ') :
    Interleaving json inputs σ σ' :=
  System.Reaches.mono (fun _ _ _ _ _ => And.left) h

theorem Filtered.fresh (h : Filtered json inputs (readStillStored inputs) σ σ') :
    FreshInterleaving json inputs σ σ' :=
  System.Reaches.mono (fun _ _ _ _ _ hstep => ⟨hstep.1, readStillStored_sound hstep.2⟩) h

end PublisherSystem

end OlympusMetrics.Publisher
