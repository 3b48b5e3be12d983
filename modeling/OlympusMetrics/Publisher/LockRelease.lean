import OlympusMetrics.Publisher.Entries

/-!
The lock that a run leaves behind.

The release covers what a run does under its lock. The acquisition comes before
it: a write of the lock that takes effect and still throws leaves the lock in
the store.
-/

namespace OlympusMetrics.Publisher

open Process

variable {Row : ArtifactKind → Type} {json : Serialization Row} {runId : String}
  {objects t : Objects Row}

/-- The store holds the lock of a run. -/
def HoldsLock (runId : String) (objects : Objects Row) : Prop :=
  ∃ lock, objects.lookup publisherLockKey = some (.lock lock) ∧ lock.runId = runId

/-- The operations on the lock. -/
def StoreOp.OnLock : StoreOp Row → Prop
  | .getJson key | .getJsonWithMetadata key | .putJson key _ | .putJsonIfAbsent key _
  | .putJsonIfMatch key _ _ | .deleteJson key | .deleteJsonIfMatch key _ => key = publisherLockKey
  | .listKeys _ => False

/-- An operation that may fail in any way, except that none on the lock throws where the lock of the
run is in the store then. -/
def LeavesNoLock (json : Serialization Row) (runId : String) (op : StoreOp Row)
    (objects : Objects Row) (result : Except PublishError op.Answer) (objects' : Objects Row) : Prop :=
  Executes json op objects result objects' ∧
    (op.OnLock → ∀ e, result = .error e → ¬ HoldsLock runId objects')

theorem not_holdsLock_of_lookup {value : Artifact Row}
    (hlookup : objects.lookup publisherLockKey = some value)
    (h : ∀ lock, value = .lock lock → lock.runId ≠ runId) : ¬ HoldsLock runId objects := by
  rintro ⟨lock, hlock, hid⟩
  exact h lock (Option.some.inj (hlookup.symm.trans hlock)) hid

theorem not_holdsLock_of_none (h : objects.lookup publisherLockKey = none) :
    ¬ HoldsLock runId objects := by
  rintro ⟨lock, hlock, -⟩
  exact nomatch h.symm.trans hlock

theorem holdsLock_congr (h : t.lookup publisherLockKey = objects.lookup publisherLockKey) :
    HoldsLock runId t ↔ HoldsLock runId objects := by
  unfold HoldsLock
  rw [h]

/-- Any program runs without a condition. -/
theorem meets_any {α : Type} (p : PublisherProcess Row α) (objects : Objects Row) :
    Meets (LeavesNoLock json runId) (fun _ => True) p (fun _ _ => True) objects := by
  induction p generalizing objects with
  | ret x => exact ⟨trivial, trivial⟩
  | throw e => exact ⟨trivial, trivial⟩
  | call op next ih => exact ⟨trivial, fun r t _ => ih r t⟩

theorem meets_leaves {α : Type} {p : PublisherProcess Row α} (hp : Leaves json publisherLockKey p) :
    Meets (LeavesNoLock json runId) (fun _ => True) p
      (fun _ t => t.lookup publisherLockKey = objects.lookup publisherLockKey) objects := by
  have hlock (start : Objects Row)
      (h : start.lookup publisherLockKey = objects.lookup publisherLockKey) :
      Meets (LeavesNoLock json runId) (fun _ => True) p
        (fun _ t => t.lookup publisherLockKey = objects.lookup publisherLockKey) start := by
    induction p generalizing start with
    | ret x => exact ⟨trivial, h⟩
    | throw e => exact ⟨trivial, h⟩
    | call op next ih =>
        refine ⟨trivial, fun r t hexec => ih r (hp.2 start r t hexec.1) t ?_⟩
        exact (hexec.1.lookup hp.1).trans h
  exact hlock objects rfl

/-! ### Reading the lock -/

/-- What a read of the lock says about the store. -/
def LockRead (json : Serialization Row) (runId : String) (objects : Objects Row) :
    Except PublishError (Option (PublisherLock × Option String)) → Objects Row → Prop
  | .ok (some (lock, etag)), t => t.lookup publisherLockKey = objects.lookup publisherLockKey ∧
      t.lookup publisherLockKey = some (.lock lock) ∧ etag = some (json.etag (.lock lock))
  | _, t => ¬ HoldsLock runId t

theorem meets_readPublisherLock : Meets (LeavesNoLock json runId) (fun _ => True)
    (readPublisherLock : PublisherProcess Row _) (LockRead json runId objects) objects := by
  refine ⟨trivial, fun r t hexec => ?_⟩
  have hsame : t.lookup publisherLockKey = objects.lookup publisherLockKey :=
    hexec.1.lookup (by simp [StoreOp.target])
  cases r with
  | error e =>
      have hfree : ¬ HoldsLock runId t := hexec.2 rfl e rfl
      cases e with
      | artifactNotFound key => exact ⟨trivial, hfree⟩
      | metricsNotDataReady => exact ⟨trivial, hfree⟩
      | error message => exact ⟨trivial, hfree⟩
  | ok answer =>
      obtain ⟨value, etag⟩ := answer
      obtain ⟨hlookup, hetag⟩ := executes_getJsonWithMetadata hexec.1
      have hother (hvalue : ∀ lock, value ≠ .lock lock) : ¬ HoldsLock runId t :=
        not_holdsLock_of_lookup (hsame.trans hlookup) (fun lock hlock => absurd hlock (hvalue lock))
      cases value with
      | lock lock => exact ⟨trivial, hsame, hsame.trans hlookup, hetag⟩
      | manifest manifest => exact ⟨trivial, hother (fun _ h => by cases h)⟩
      | schema key => exact ⟨trivial, hother (fun _ h => by cases h)⟩
      | shard kind rows => exact ⟨trivial, hother (fun _ h => by cases h)⟩

/-- What only reads the lock and then answers leaves a free store free. -/
theorem meets_lockRefused (h : ¬ HoldsLock runId objects) :
    Meets (LeavesNoLock json runId) (fun _ => True) (lockRefused runId : PublisherProcess Row _)
      (fun _ t => ¬ HoldsLock runId t) objects := by
  refine meets_bind (meets_readPublisherLock.finally ?_)
  rintro (e | _ | ⟨lock, etag⟩) t - hread
  · exact hread
  · exact ⟨trivial, hread⟩
  · exact ⟨trivial, fun hholds => h ((holdsLock_congr hread.1).mp hholds)⟩

/-! ### The acquisition -/

/-- A run that is not told that it has the lock has not left one. -/
def Acquired (runId : String) : Except PublishError LockOutcome → Objects Row → Prop
  | .ok outcome, t => outcome.acquired = false → ¬ HoldsLock runId t
  | .error _, t => ¬ HoldsLock runId t

/-- A conditional write that is refused changes nothing. -/
theorem putJsonIfAbsent_refused {key : String} {value : Artifact Row}
    (h : Executes json (.putJsonIfAbsent key value) objects (.ok false) t) : t = objects := by
  have heffect := h.ok
  cases hlookup : objects.lookup key with
  | none =>
      simp only [memoryStore, hlookup] at heffect
      cases Except.ok.inj (congrArg Prod.fst heffect)
  | some stored =>
      simp only [memoryStore, hlookup] at heffect
      exact (congrArg Prod.snd heffect).symm

theorem putJsonIfMatch_refused {key etag : String} {value : Artifact Row}
    (h : Executes json (.putJsonIfMatch key value etag) objects (.ok false) t) : t = objects := by
  rcases memoryStore_putJsonIfMatch json objects key value etag with hsame | ⟨existing, -, -, hput⟩
  · exact (congrArg Prod.snd (hsame.symm.trans h.ok)).symm
  · exact nomatch Except.ok.inj (congrArg Prod.fst (hput.symm.trans h.ok))

/-- What follows a conditional write of the lock, where the answers in `refused` change nothing. -/
theorem meets_conditionalWrite (op : StoreOp Row) (refused : op.Answer → Prop)
    {next : op.Answer → PublisherProcess Row LockOutcome} (honLock : op.OnLock)
    (hrefused : ∀ x t, refused x → Executes json op objects (.ok x) t → t = objects)
    (hfree : ¬ HoldsLock runId objects)
    (hnext : ∀ x t, (refused x → ¬ HoldsLock runId t) →
      Meets (LeavesNoLock json runId) (fun _ => True) (next x) (Acquired runId) t) :
    Meets (LeavesNoLock json runId) (fun _ => True) (Process.await op >>= next) (Acquired runId)
      objects := by
  refine meets_bind (meets_await trivial (fun r t hexec => ?_))
  cases r with
  | error e => exact ⟨trivial, hexec.2 honLock e rfl⟩
  | ok x =>
      refine ⟨trivial, hnext x t (fun hx => ?_)⟩
      rw [hrefused x t hx hexec.1]
      exact hfree

theorem meets_replacePublisherLock {lock : PublisherLock} {etag : Option String}
    (h : ¬ HoldsLock runId objects) :
    Meets (LeavesNoLock json runId) (fun _ => True)
      (replacePublisherLock runId lock etag : PublisherProcess Row _) (Acquired runId) objects := by
  have hafter (replaced : Bool) (t : Objects Row) (ht : replaced = false → ¬ HoldsLock runId t) :
      Meets (LeavesNoLock json runId) (fun _ => True) (if replaced then do
        let verified ← readPublisherLock
        .ret { acquired := verified.map (fun v => v.1.runId) == some runId, runId := runId }
        else lockRefused runId : PublisherProcess Row LockOutcome) (Acquired runId) t := by
    cases replaced with
    | false =>
        refine (meets_lockRefused (ht rfl)).finally ?_
        rintro (e | outcome) t - hfree
        · exact hfree
        · exact fun _ => hfree
    | true =>
        refine meets_bind (meets_readPublisherLock.finally ?_)
        rintro (e | _ | ⟨held, etag⟩) t - hread
        · exact hread
        · exact ⟨trivial, fun _ => hread⟩
        · refine ⟨trivial, fun hrefused => not_holdsLock_of_lookup hread.2.1 (fun lock hlock => ?_)⟩
          obtain rfl := Artifact.lock.inj hlock
          simpa using hrefused
  unfold replacePublisherLock
  cases etag with
  | none =>
      refine meets_conditionalWrite (.putJsonIfAbsent publisherLockKey (.lock lock))
        (fun x : Bool => x = false) rfl ?_ h hafter
      rintro x t rfl hexec
      exact putJsonIfAbsent_refused hexec
  | some etag =>
      refine meets_conditionalWrite (.putJsonIfMatch publisherLockKey (.lock lock) etag)
        (fun x : Bool => x = false) rfl ?_ h hafter
      rintro x t rfl hexec
      exact putJsonIfMatch_refused hexec

theorem meets_acquirePublisherLock {operation : LockOperation} {now ttlMs : ℕ}
    (h : ¬ HoldsLock runId objects) :
    Meets (LeavesNoLock json runId) (fun _ => True)
      (acquirePublisherLock runId operation now ttlMs : PublisherProcess Row _) (Acquired runId)
      objects := by
  unfold acquirePublisherLock
  refine meets_ofExcept_bind (fun e _ => ⟨trivial, h⟩) (fun lock _ => ?_)
  refine meets_conditionalWrite (.putJsonIfAbsent publisherLockKey (.lock lock))
    (fun x : Bool => x = false) rfl ?_ h ?_
  · rintro x t rfl hexec
    exact putJsonIfAbsent_refused hexec
  intro (acquired : Bool) t ht
  cases acquired with
  | true => exact ⟨trivial, fun hrefused => nomatch hrefused⟩
  | false =>
      refine meets_bind (meets_readPublisherLock.finally ?_)
      rintro (e | _ | ⟨held, etag⟩) t' - hread
      · exact hread
      · exact ⟨trivial, fun _ => hread⟩
      · have hfree : ¬ HoldsLock runId t' := fun hholds => ht rfl ((holdsLock_congr hread.1).mp hholds)
        rw [followed_ok]
        dsimp only
        split
        · exact ⟨trivial, fun _ => hfree⟩
        · exact meets_replacePublisherLock hfree

/-! ### The release -/

/-- After the release the lock of the run is gone. -/
theorem meets_releasePublisherLock : Meets (LeavesNoLock json runId) (fun _ => True)
    (releasePublisherLock runId : PublisherProcess Row _) (fun _ t => ¬ HoldsLock runId t) objects := by
  unfold releasePublisherLock
  refine meets_bind (meets_readPublisherLock.finally ?_)
  rintro (e | _ | ⟨held, etag⟩) t - hread
  · exact hread
  · exact ⟨trivial, hread⟩
  · obtain ⟨-, hlookup, rfl⟩ := hread
    rw [followed_ok]
    dsimp only
    split
    · refine meets_bind (meets_await trivial (fun r t' hexec => ?_))
      cases r with
      | error e => exact ⟨trivial, hexec.2 rfl e rfl⟩
      | ok deleted =>
          have heffect := congrArg Prod.snd hexec.1.ok
          simp only [memoryStore, hlookup, if_true] at heffect
          refine ⟨trivial, trivial, not_holdsLock_of_none ?_⟩
          rw [← heffect]
          exact AList.lookup_erase publisherLockKey t
    · next hother =>
        refine ⟨trivial, not_holdsLock_of_lookup hlookup (fun lock hlock => ?_)⟩
        obtain rfl := Artifact.lock.inj hlock
        exact hother

/-! ### A run -/

section

variable [∀ kind, Dated (Row kind)] {input : PublishInput Row}

theorem meets_publishAgainst_released {deploymentId : DeploymentId} {ttlMs : ℕ}
    {existing : Option Manifest} (h : ¬ HoldsLock runId objects) :
    Meets (LeavesNoLock json runId) (fun _ => True)
      (publishAgainst json runId input deploymentId ttlMs existing)
      (fun _ t => ¬ HoldsLock runId t) objects := by
  unfold publishAgainst
  refine meets_bind ((meets_acquirePublisherLock h).finally ?_)
  rintro (e | outcome) t - hacquired
  · exact hacquired
  · show Meets _ _ (if (!outcome.acquired) = true then _ else _) _ t
    split
    · next hrefused => exact ⟨trivial, hacquired (by simpa using hrefused)⟩
    · refine meets_tryFinally ((meets_any _ t).finally (fun r t' _ _ => ?_))
      refine meets_releasePublisherLock.finally ?_
      rintro (e | _) t'' - hfree
      · exact hfree
      · exact hfree

theorem meets_publish_released (h : ¬ HoldsLock runId objects) :
    Meets (LeavesNoLock json runId) (fun _ => True) (publishMetricsArtifacts json runId input)
      (fun _ t => ¬ HoldsLock runId t) objects := by
  unfold publishMetricsArtifacts
  refine meets_ofExcept_bind (fun _ _ => ⟨trivial, h⟩) (fun deploymentId _ => ?_)
  dsimp only
  split
  · exact ⟨trivial, h⟩
  · split
    · exact meets_publishAgainst_released h
    · refine meets_bind ((meets_leaves leaves_getExistingManifest).finally ?_)
      rintro (e | existing) t - hsame
      · exact fun hholds => h ((holdsLock_congr hsame).mp hholds)
      · exact meets_publishAgainst_released (fun hholds => h ((holdsLock_congr hsame).mp hholds))

/-- A run that returns or throws leaves no lock of its own, unless an operation on the lock throws
and leaves it in the store. -/
theorem not_holdsLock_of_leavesNoLock (json : Serialization Row) (runId : String)
    (input : PublishInput Row) (objects objects' : Objects Row)
    (out : Except PublishError PublishResult) (hfresh : ¬ HoldsLock runId objects)
    (hrun : Runs (LeavesNoLock json runId) (publishMetricsArtifacts json runId input) objects
      (some out) objects') : ¬ HoldsLock runId objects' :=
  ((meets_publish_released hfresh).run hrun).2 out rfl

end

/-! ### Runs that fail -/

theorem leavesNoLock_memoryStore (op : StoreOp Row) (objects : Objects Row) :
    LeavesNoLock json runId op objects (memoryStore json objects op).1
      (memoryStore json objects op).2 := by
  refine ⟨Or.inl rfl, fun honLock e herror => not_holdsLock_of_none ?_⟩
  have hread {key : String} (hkey : key = publisherLockKey) (h : objects.lookup key = none) :
      objects.lookup publisherLockKey = none := hkey ▸ h
  cases op with
  | getJson key =>
      cases hlookup : objects.lookup key with
      | none =>
          simp only [memoryStore, hlookup]
          exact hread honLock hlookup
      | some value =>
          simp only [memoryStore, hlookup] at herror
          cases herror
  | getJsonWithMetadata key =>
      cases hlookup : objects.lookup key with
      | none =>
          simp only [memoryStore, hlookup]
          exact hread honLock hlookup
      | some value =>
          simp only [memoryStore, hlookup] at herror
          cases herror
  | putJson key value => cases herror
  | putJsonIfAbsent key value =>
      simp only [memoryStore] at herror
      split at herror <;> cases herror
  | putJsonIfMatch key value etag =>
      rcases memoryStore_putJsonIfMatch json objects key value etag with hsame | ⟨_, -, -, hput⟩
      · cases (congrArg Prod.fst hsame).symm.trans herror
      · cases (congrArg Prod.fst hput).symm.trans herror
  | listKeys keyPrefix => exact absurd honLock id
  | deleteJson key => cases herror
  | deleteJsonIfMatch key etag =>
      simp only [memoryStore] at herror
      split at herror
      · cases herror
      · split at herror <;> cases herror

/-- The bounds of the source cannot be fetched. -/
def outageInput : PublishInput DateRow where
  deploymentId := "d1"
  source :=
    { dailySource "2024-01-31" with
      fetchBounds := fun _ => .error (.error "request failed") }
  now := february 1

theorem not_holdsLock_empty (runId : String) : ¬ HoldsLock runId (∅ : Objects Row) :=
  not_holdsLock_of_none rfl

instance decidableOnLock : (op : StoreOp Row) → Decidable op.OnLock
  | .getJson key | .getJsonWithMetadata key | .putJson key _ | .putJsonIfAbsent key _
  | .putJsonIfMatch key _ _ | .deleteJson key | .deleteJsonIfMatch key _ =>
      inferInstanceAs (Decidable (key = publisherLockKey))
  | .listKeys _ => inferInstanceAs (Decidable False)

/-- A store on which the operations of a run may fail, other than those on the lock. -/
def answerOffLock (json : Serialization Row) (turn : Turn) (op : StoreOp Row)
    (objects : Objects Row) : Except PublishError op.Answer × Objects Row :=
  if op.OnLock then memoryStore json objects op else turn.answer json op objects

theorem leavesNoLock_answerOffLock (turn : Turn) (op : StoreOp Row) (objects : Objects Row) :
    LeavesNoLock json runId op objects (answerOffLock json turn op objects).1
      (answerOffLock json turn op objects).2 := by
  unfold answerOffLock
  split
  · exact leavesNoLock_memoryStore op objects
  · next hoff =>
      exact ⟨(turn.performs op objects).executes, fun honLock => absurd honLock hoff⟩

/-- A run whose write of a shard takes effect and throws. -/
def failedWriteRun : Option (Except PublishError PublishResult) × Objects DateRow :=
  play (answerOffLock plainSerialization)
    (List.replicate 7 .done ++ [.failed true] ++ List.replicate 2 .done)
    (publishMetricsArtifacts plainSerialization "first" (handoverInputs "first")) ∅

/-- The shard stays, and the lock does not. -/
theorem failedWriteRun_released : ∃ e, failedWriteRun.1 = some (.error e) ∧
    "v2/deployments/d1/treasury-assets/daily/2024-01.json" ∈ failedWriteRun.2 ∧
    ¬ HoldsLock "first" failedWriteRun.2 := by
  have hout : failedWriteRun.1 = some (.error (.error "request failed")) := rfl
  have hrun : Runs (LeavesNoLock plainSerialization "first")
      (publishMetricsArtifacts plainSerialization "first" (handoverInputs "first")) ∅
      failedWriteRun.1 failedWriteRun.2 :=
    runs_play leavesNoLock_answerOffLock _ _ _
  rw [hout] at hrun
  exact ⟨_, hout, by decide +kernel, not_holdsLock_of_leavesNoLock plainSerialization "first"
    (handoverInputs "first") ∅ _ _ (not_holdsLock_empty "first") hrun⟩

/-- The write of the lock takes effect and throws: the run ends, and its lock stays. -/
theorem failed_acquisition_leaves_lock : ∃ objects' e,
    Runs (Executes plainSerialization) (publishMetricsArtifacts plainSerialization "first"
        outageInput) ∅ (some (.error e)) objects' ∧
      ¬ HoldsLock "first" (∅ : Objects DateRow) ∧ HoldsLock "first" objects' := by
  let stopped := playRun plainSerialization "first" outageInput [.done, .failed true] ∅
  have hout : stopped.1 = some (.error (.error "request failed")) := rfl
  have hrun : Runs (Executes plainSerialization) (publishMetricsArtifacts plainSerialization "first"
      outageInput) ∅ stopped.1 stopped.2 :=
    runs_play (fun turn op objects => (turn.performs op objects).executes) _ _ _
  rw [hout] at hrun
  refine ⟨stopped.2, _, hrun, not_holdsLock_empty "first", ?_⟩
  exact ⟨{ runId := "first", startedAt := february 1, expiresAt := february 1 + 43200000, operation := .initialBackfill }, by rfl, rfl⟩

end OlympusMetrics.Publisher
