import OlympusMetrics.Publisher.History

/-!
A run writes the manifest at most once, and what it has published stays.
-/

namespace OlympusMetrics.Publisher

open Process

variable {Row : ArtifactKind → Type} {json : Serialization Row} {key : String} {α β : Type}

/-- After an operation that is aimed at `key` the program leaves it alone. -/
def WritesOnce (json : Serialization Row) (key : String) {α : Type} : PublisherProcess Row α → Prop
  | .ret _ | .throw _ => True
  | .call op next => ∀ objects result objects', Executes json op objects result objects' →
      (op.target = some key → Leaves json key (next result)) ∧
        (op.target ≠ some key → WritesOnce json key (next result))

theorem writesOnce_of_leaves {p : PublisherProcess Row α} (h : Leaves json key p) :
    WritesOnce json key p := by
  induction p with
  | ret x => trivial
  | throw e => trivial
  | call op next ih =>
      exact fun objects result objects' hexec => ⟨fun htarget => absurd htarget h.1,
        fun _ => ih result (h.2 objects result objects' hexec)⟩

theorem writesOnce_bind_left {p : PublisherProcess Row α} {f : α → PublisherProcess Row β}
    (hp : WritesOnce json key p) (hf : ∀ x, Leaves json key (f x)) :
    WritesOnce json key (p >>= f) := by
  induction p with
  | ret x => exact writesOnce_of_leaves (hf x)
  | throw e => trivial
  | call op next ih =>
      intro objects result objects' hexec
      obtain ⟨hlast, hnext⟩ := hp objects result objects' hexec
      exact ⟨fun htarget => leaves_bind (hlast htarget) hf,
        fun htarget => ih result (hnext htarget)⟩

theorem writesOnce_bind_right {p : PublisherProcess Row α} {f : α → PublisherProcess Row β}
    (hp : Leaves json key p) (hf : ∀ x, WritesOnce json key (f x)) :
    WritesOnce json key (p >>= f) := by
  induction p with
  | ret x => exact hf x
  | throw e => trivial
  | call op next ih =>
      intro objects result objects' hexec
      exact ⟨fun htarget => absurd htarget hp.1,
        fun _ => ih result (hp.2 objects result objects' hexec)⟩

theorem writesOnce_await {op : StoreOp Row} : WritesOnce json key (.await op) := by
  intro objects result objects' hexec
  exact ⟨fun _ => leaves_ofExcept result, fun _ => writesOnce_of_leaves (leaves_ofExcept result)⟩

theorem leaves_tryFinally {p : PublisherProcess Row α} {cleanup : PublisherProcess Row Unit}
    (hp : Leaves json key p) (hcleanup : Leaves json key cleanup) :
    Leaves json key (p.tryFinally cleanup) := by
  induction p with
  | ret x => exact leaves_bind hcleanup (fun _ => trivial)
  | throw e => exact leaves_bind hcleanup (fun _ => trivial)
  | call op next ih =>
      exact ⟨hp.1, fun objects result objects' hexec => ih result (hp.2 objects result objects' hexec)⟩

theorem writesOnce_tryFinally {p : PublisherProcess Row α} {cleanup : PublisherProcess Row Unit}
    (hp : WritesOnce json key p) (hcleanup : Leaves json key cleanup) :
    WritesOnce json key (p.tryFinally cleanup) := by
  induction p with
  | ret x => exact writesOnce_of_leaves (leaves_bind hcleanup (fun _ => trivial))
  | throw e => exact writesOnce_of_leaves (leaves_bind hcleanup (fun _ => trivial))
  | call op next ih =>
      intro objects result objects' hexec
      obtain ⟨hlast, hnext⟩ := hp objects result objects' hexec
      exact ⟨fun htarget => leaves_tryFinally (hlast htarget) hcleanup,
        fun htarget => ih result (hnext htarget)⟩

/-! ### The manifest -/

variable [∀ kind, Dated (Row kind)] {input : PublishInput Row} {runId : String}

theorem writesOnce_writePublication {deploymentId : DeploymentId} {existing : Option Manifest}
    {progress : IndexingProgress} {bounds : MetricsBounds} {publicStartDate : String}
    {range : DateRange} {rows : (kind : ArtifactKind) → List (Row kind)} :
    WritesOnce json manifestKey (writePublication json runId input deploymentId existing progress
      bounds publicStartDate range rows) := by
  unfold writePublication
  generalize orError (monthKeysForRange range.start range.stop) = months
  refine writesOnce_bind_right (leaves_ofExcept months) (fun months => ?_)
  refine writesOnce_bind_right (leaves_forEach (fun acc p hp => ?_) _) (fun written => ?_)
  · refine leaves_bind (leaves_await ?_) (fun _ => trivial)
    simpa [StoreOp.target] using (mem_pendingArtifacts hp).2
  · generalize nextManifest input deploymentId existing progress bounds publicStartDate range
      written.artifacts = next
    refine writesOnce_bind_right (leaves_ofExcept next) (fun next => ?_)
    refine writesOnce_bind_left writesOnce_await (fun _ => ?_)
    exact leaves_bind (leaves_cleanup (by decide)) (fun _ => trivial)

theorem writesOnce_publishUnderLock {deploymentId : DeploymentId} {existing : Option Manifest} :
    WritesOnce json manifestKey (publishUnderLock json runId input deploymentId existing) := by
  unfold publishUnderLock
  refine writesOnce_bind_right (leaves_ofExcept _) (fun progress => ?_)
  dsimp only
  split
  · trivial
  · trivial
  · refine writesOnce_bind_right (leaves_ofExcept _) (fun fresh => ?_)
    split
    · trivial
    · refine writesOnce_bind_right (leaves_ofExcept _) (fun range => ?_)
      refine writesOnce_bind_right (leaves_ofExcept _) (fun rows => ?_)
      refine writesOnce_bind_right (leaves_ofExcept _) (fun missing => ?_)
      split
      · trivial
      · exact writesOnce_writePublication

theorem writesOnce_publishAgainst {deploymentId : DeploymentId} {lockTtlMs : ℕ}
    {existing : Option Manifest} : WritesOnce json manifestKey
      (publishAgainst json runId input deploymentId lockTtlMs existing) := by
  unfold publishAgainst
  refine writesOnce_bind_right (leaves_acquirePublisherLock manifestKey_ne_lockKey) (fun lock => ?_)
  split
  · trivial
  · exact writesOnce_tryFinally writesOnce_publishUnderLock
      (leaves_releasePublisherLock manifestKey_ne_lockKey)

/-- A run writes the manifest at most once. -/
theorem writesOnce_publishMetricsArtifacts :
    WritesOnce json manifestKey (publishMetricsArtifacts json runId input) := by
  unfold publishMetricsArtifacts
  generalize parseDeploymentId input.deploymentId = parsed
  refine writesOnce_bind_right (leaves_ofExcept parsed) (fun deploymentId => ?_)
  dsimp only
  split
  · trivial
  · split
    · exact writesOnce_publishAgainst
    · exact writesOnce_bind_right leaves_getExistingManifest (fun _ => writesOnce_publishAgainst)

/-! ### A run under way -/

/-- What is left of a run that started on `before`: it has not written its manifest yet, or it will
not write it any more. -/
structure UnderWay (json : Serialization Row) (input : PublishInput Row) (before : Objects Row)
    (p : PublisherProcess Row PublishResult) (objects : Objects Row) : Prop where
  meets : Meets (Performs json) (RunState json input (existingManifest input before) before) p
    (fun _ _ => True) objects
  manifest : (WritesOnce json manifestKey p ∧ storedManifest objects = storedManifest before) ∨
    Leaves json manifestKey p

variable {before objects objects' : Objects Row}

theorem underWay_of_meets {p : PublisherProcess Row PublishResult}
    (hmeets : Meets (Performs json) (RunState json input (existingManifest input before) before) p
      (RunEnd json input (existingManifest input before) before) before)
    (honce : WritesOnce json manifestKey p) : UnderWay json input before p before :=
  ⟨hmeets.weaken (fun _ h => h) (fun _ _ _ _ => trivial), Or.inl ⟨honce, rfl⟩⟩

seal publishMetricsArtifacts in
theorem underWay_start :
    UnderWay json input before (publishMetricsArtifacts json runId input) before := by
  apply underWay_of_meets
  · exact meets_publishMetricsArtifacts
  · exact writesOnce_publishMetricsArtifacts

theorem UnderWay.step {op : StoreOp Row}
    {next : Except PublishError op.Answer → PublisherProcess Row PublishResult}
    (h : UnderWay json input before (.call op next) objects) {result : Except PublishError op.Answer}
    (hexec : Performs json op objects result objects') :
    UnderWay json input before (next result) objects' ∧
      (Leaves json manifestKey (.call op next) →
        Leaves json manifestKey (next result) ∧ storedManifest objects' = storedManifest objects) := by
  have hleaves : Leaves json manifestKey (.call op next) →
      Leaves json manifestKey (next result) ∧ storedManifest objects' = storedManifest objects :=
    fun hleaves => ⟨hleaves.2 objects result objects' hexec.executes,
      storedManifest_congr (hexec.executes.lookup hleaves.1)⟩
  refine ⟨⟨h.meets.2 result objects' hexec, ?_⟩, hleaves⟩
  rcases h.manifest with ⟨honce, hmanifest⟩ | hlast
  · obtain ⟨hlast, hnext⟩ := honce objects result objects' hexec.executes
    by_cases htarget : op.target = some manifestKey
    · exact Or.inr (hlast htarget)
    · refine Or.inl ⟨hnext htarget, ?_⟩
      exact (storedManifest_congr (hexec.executes.lookup htarget)).trans hmanifest
  · exact Or.inr (hleaves hlast).1

/-- The run has stored its manifest. -/
def HasStored (json : Serialization Row) (input : PublishInput Row) (before objects : Objects Row)
    (manifest : Manifest) : Prop :=
  ∃ plan : Plan input (existingManifest input before), plan.next json = .ok manifest ∧
    CleanedFrom plan.deploymentId (plan.stored manifest before) objects

/-- A manifest that was not stored before is the one of the run. -/
theorem UnderWay.hasStored {p : PublisherProcess Row PublishResult} {manifest : Manifest}
    (h : UnderWay json input before p objects) (hmanifest : storedManifest objects = some manifest)
    (hnew : some manifest ≠ storedManifest before) : HasStored json input before objects manifest := by
  have hnot : storedManifest objects ≠ storedManifest before := by
    rw [hmanifest]
    exact hnew
  cases h.meets.now with
  | unchanged hsame => exact absurd hsame.storedManifest_eq hnot
  | writing plan written rest hpending hsame =>
      refine absurd (hsame.storedManifest_eq.trans (storedManifest_congr ?_)) hnot
      exact lookup_storeAll_of_notMem (plan.manifestKey_notMem_written hpending)
  | published plan next hnext hclean =>
      have hstored := hclean.storedManifest_eq
      rw [storedManifest_eq plan.lookup_stored_manifest, hmanifest] at hstored
      rw [← Option.some.inj hstored] at hnext hclean
      exact ⟨plan, hnext, hclean⟩

end OlympusMetrics.Publisher
