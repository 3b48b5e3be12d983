import OlympusMetrics.Library.CrashRuns
import OlympusMetrics.Publisher.FaultyStore

/-!
What a run that has the store for itself does to it, up to any operation.

Up to the lock, a run leaves the store alone, or it has written some of its
artifacts, or it has written all of them and then the manifest, and may have
deleted the shards of other deployments.
-/

namespace OlympusMetrics.Publisher

open Process

variable {Row : ArtifactKind → Type}

/-- What an operation may do that reports an object as missing only if it is: it succeeds, or it
fails with a message, with or without its effect. -/
def Performs (json : Serialization Row) (op : StoreOp Row) (objects : Objects Row)
    (result : Except PublishError op.Answer) (objects' : Objects Row) : Prop :=
  memoryStore json objects op = (result, objects') ∨
    ∃ message, result = .error (.error message) ∧
      (objects' = objects ∨ objects' = (memoryStore json objects op).2)

theorem Performs.executes {json : Serialization Row} {op : StoreOp Row} {objects objects' : Objects Row}
    {result : Except PublishError op.Answer} (h : Performs json op objects result objects') :
    Executes json op objects result objects' := by
  rcases h with heffect | ⟨message, hresult, heffect⟩
  · exact Or.inl heffect
  · exact Or.inr ⟨.error message, hresult, heffect⟩

/-- The stores agree except for the lock. -/
def SameButLock (objects objects' : Objects Row) : Prop :=
  ∀ key, key ≠ publisherLockKey → objects'.lookup key = objects.lookup key

theorem SameButLock.refl (objects : Objects Row) : SameButLock objects objects := fun _ _ => rfl

theorem SameButLock.trans {o₁ o₂ o₃ : Objects Row} (h : SameButLock o₁ o₂)
    (h' : SameButLock o₂ o₃) : SameButLock o₁ o₃ :=
  fun key hkey => (h' key hkey).trans (h key hkey)

theorem SameButLock.insert {o₁ o₂ : Objects Row} (h : SameButLock o₁ o₂) (key : String)
    (value : Artifact Row) : SameButLock (o₁.insert key value) (o₂.insert key value) := by
  intro other hother
  by_cases heq : other = key
  · rw [heq, AList.lookup_insert, AList.lookup_insert]
  · rw [AList.lookup_insert_ne heq, AList.lookup_insert_ne heq]
    exact h other hother

/-- The store after a list of writes. -/
def storeAll (pending : List (PendingArtifact Row)) (objects : Objects Row) : Objects Row :=
  pending.foldl (fun objects p => objects.insert p.key p.value) objects

@[simp] theorem storeAll_nil (objects : Objects Row) : storeAll [] objects = objects := rfl

theorem storeAll_append_singleton (pending : List (PendingArtifact Row))
    (p : PendingArtifact Row) (objects : Objects Row) :
    storeAll (pending ++ [p]) objects = (storeAll pending objects).insert p.key p.value := by
  unfold storeAll
  rw [List.foldl_append]
  rfl

/-- The entries after a list of writes. -/
def gather (json : Serialization Row) (pending : List (PendingArtifact Row))
    (artifacts : JsonRecord ArtifactEntry) : JsonRecord ArtifactEntry :=
  pending.foldl (fun artifacts p =>
    artifacts.insert p.key (json.artifactEntry p.value p.rowCount)) artifacts

theorem gather_append_singleton (json : Serialization Row) (pending : List (PendingArtifact Row))
    (p : PendingArtifact Row) (artifacts : JsonRecord ArtifactEntry) :
    gather json (pending ++ [p]) artifacts =
      (gather json pending artifacts).insert p.key (json.artifactEntry p.value p.rowCount) := by
  unfold gather
  rw [List.foldl_append]
  rfl

/-- A key below the prefix of some other deployment. -/
def IsStale (deploymentId : DeploymentId) (key : String) : Prop :=
  startsWith key deploymentsPrefix = true ∧ startsWith key (deploymentPrefix deploymentId) = false

/-- Up to the lock, some objects of other deployments are gone, and nothing else has changed. -/
def CleanedFrom (deploymentId : DeploymentId) (objects objects' : Objects Row) : Prop :=
  ∀ key, key ≠ publisherLockKey → objects'.lookup key = objects.lookup key ∨
    (IsStale deploymentId key ∧ objects'.lookup key = none)

theorem CleanedFrom.same {deploymentId : DeploymentId} {o₁ o₂ o₃ : Objects Row}
    (h : CleanedFrom deploymentId o₁ o₂) (h' : SameButLock o₂ o₃) :
    CleanedFrom deploymentId o₁ o₃ := by
  intro key hkey
  rw [h' key hkey]
  exact h key hkey

theorem SameButLock.cleanedFrom {deploymentId : DeploymentId} {o₁ o₂ : Objects Row}
    (h : SameButLock o₁ o₂) : CleanedFrom deploymentId o₁ o₂ :=
  fun key hkey => Or.inl (h key hkey)

/-! ### The plan of a run -/

section

variable [∀ kind, Dated (Row kind)]

/-- The public start date that a run is given or assumes. -/
def PublishInput.startOfPublic (input : PublishInput Row) : String :=
  input.publicStartDate.getD defaultPublicStartDate

/-- What a run has decided on once it begins to write. -/
structure Plan (input : PublishInput Row) (existing : Option Manifest) where
  deploymentId : DeploymentId
  progress : IndexingProgress
  bounds : MetricsBounds
  range : DateRange
  rows : (kind : ArtifactKind) → List (Row kind)
  months : List String
  deploymentId_eq : parseDeploymentId input.deploymentId = .ok deploymentId
  progress_eq : input.source.fetchLatestIndexingProgress = .ok progress
  bounds_eq : input.source.fetchBounds (if deploymentHasPublishedArtifacts existing deploymentId then
    .crossChain else .allChains) = .ok bounds
  range_eq : resolvePublishRange input bounds existing input.startOfPublic
    (deploymentHasPublishedArtifacts existing deploymentId) = .ok range
  rows_eq : fetchAllRows input.source range = .ok rows
  months_eq : monthKeysForRange range.start range.stop = .ok months

namespace Plan

variable {input : PublishInput Row} {existing : Option Manifest}

omit [∀ kind, Dated (Row kind)] in
/-- The input and the manifest that a run builds on decide on its plan. -/
theorem eq (plan plan' : Plan input existing) : plan = plan' := by
  obtain ⟨deploymentId, progress, bounds, range, rows, months, hid, hprogress, hbounds, hrange, hrows,
    hmonths⟩ := plan
  obtain ⟨deploymentId', progress', bounds', range', rows', months', hid', hprogress', hbounds',
    hrange', hrows', hmonths'⟩ := plan'
  obtain rfl := Except.ok.inj (hid.symm.trans hid')
  obtain rfl := Except.ok.inj (hprogress.symm.trans hprogress')
  obtain rfl := Except.ok.inj (hbounds.symm.trans hbounds')
  obtain rfl := Except.ok.inj (hrange.symm.trans hrange')
  obtain rfl := Except.ok.inj (hrows.symm.trans hrows')
  obtain rfl := Except.ok.inj (hmonths.symm.trans hmonths')
  rfl

/-- The artifacts that the run writes before the manifest. -/
def pending (plan : Plan input existing) : List (PendingArtifact Row) :=
  schemaArtifacts ++ shardArtifacts plan.deploymentId plan.months plan.rows

/-- The manifest that the run writes. -/
def next (json : Serialization Row) (plan : Plan input existing) : Except PublishError Manifest :=
  nextManifest input plan.deploymentId existing plan.progress plan.bounds input.startOfPublic
    plan.range (gather json plan.pending (existingArtifacts existing))

/-- The store when the run has written its manifest. -/
def stored (plan : Plan input existing) (manifest : Manifest) (objects : Objects Row) :
    Objects Row :=
  (storeAll plan.pending objects).insert manifestKey (.manifest manifest)

end Plan

/-- The stores that a run from `objects` on goes through. -/
inductive RunState (json : Serialization Row) (input : PublishInput Row)
    (existing : Option Manifest) (objects : Objects Row) : Objects Row → Prop
  | unchanged {objects'} : SameButLock objects objects' → RunState json input existing objects objects'
  | writing {objects'} (plan : Plan input existing) (written rest : List (PendingArtifact Row)) :
      plan.pending = written ++ rest → SameButLock (storeAll written objects) objects' →
      RunState json input existing objects objects'
  | published {objects'} (plan : Plan input existing) (manifest : Manifest) :
      plan.next json = .ok manifest →
      CleanedFrom plan.deploymentId (plan.stored manifest objects) objects' →
      RunState json input existing objects objects'

/-- A run has published. -/
def HasPublished (json : Serialization Row) (input : PublishInput Row) (existing : Option Manifest)
    (objects : Objects Row) (result : PublishResult) (objects' : Objects Row) : Prop :=
  ∃ (plan : Plan input existing) (manifest : Manifest), plan.next json = .ok manifest ∧
    CleanedFrom plan.deploymentId (plan.stored manifest objects) objects' ∧
    result.range = some plan.range

/-- The store that a run leaves which returns `result`. -/
def RunResult (json : Serialization Row) (input : PublishInput Row) (existing : Option Manifest)
    (objects : Objects Row) (result : PublishResult) (objects' : Objects Row) : Prop :=
  (result.skipped = true ∧ SameButLock objects objects') ∨
    (result.skipped = false ∧ HasPublished json input existing objects result objects')

variable {json : Serialization Row} {input : PublishInput Row} {existing : Option Manifest}
  {objects t t' : Objects Row} {runId : String}

theorem RunState.same (h : RunState json input existing objects t) (h' : SameButLock t t') :
    RunState json input existing objects t' := by
  cases h with
  | unchanged hsame => exact .unchanged (hsame.trans h')
  | writing plan written rest hpending hsame => exact .writing plan written rest hpending (hsame.trans h')
  | published plan manifest hnext hclean => exact .published plan manifest hnext (hclean.same h')

theorem RunResult.same {result : PublishResult} (h : RunResult json input existing objects result t)
    (h' : SameButLock t t') : RunResult json input existing objects result t' := by
  rcases h with ⟨hskipped, hsame⟩ | ⟨hskipped, plan, manifest, hnext, hclean, hrange⟩
  · exact Or.inl ⟨hskipped, hsame.trans h'⟩
  · exact Or.inr ⟨hskipped, plan, manifest, hnext, hclean.same h', hrange⟩

/-! ### The lock operations -/

omit [∀ kind, Dated (Row kind)] in
/-- A program that is only aimed at the lock leaves everything else alone. -/
theorem meets_sameButLock {α : Type} {p : PublisherProcess Row α}
    (hp : ∀ key, key ≠ publisherLockKey → Leaves json key p) (h : SameButLock objects t) :
    Meets (Performs json) (SameButLock objects) p (fun _ => SameButLock objects) t := by
  induction p generalizing t with
  | ret x => exact ⟨h, h⟩
  | throw e => exact ⟨h, h⟩
  | call op next ih =>
      refine ⟨h, fun r t' hexec => ih r (fun key hkey => ?_) (fun key hkey => ?_)⟩
      · exact (hp key hkey).2 t r t' hexec.executes
      · exact (hexec.executes.lookup (hp key hkey).1).trans (h key hkey)

omit [∀ kind, Dated (Row kind)] in
theorem leaves_readPublisherLock {key : String} :
    Leaves json key (readPublisherLock : PublisherProcess Row _) := by
  refine leaves_orNotFound (leaves_bind (leaves_await (by simp [StoreOp.target])) ?_)
  rintro ⟨value, etag⟩
  cases value <;> trivial

omit [∀ kind, Dated (Row kind)] in
theorem leaves_lockRefused {key : String} :
    Leaves json key (lockRefused runId : PublisherProcess Row _) :=
  leaves_bind leaves_readPublisherLock (fun _ => trivial)

omit [∀ kind, Dated (Row kind)] in
theorem leaves_replacePublisherLock {key : String} (hkey : key ≠ publisherLockKey)
    {lock : PublisherLock} {etag : Option String} :
    Leaves json key (replacePublisherLock runId lock etag : PublisherProcess Row _) := by
  have htarget : (some publisherLockKey : Option String) ≠ some key := by
    simpa using hkey.symm
  have hafter (replaced : Bool) : Leaves json key (if replaced then do
      let verified ← readPublisherLock
      .ret { acquired := verified.map (fun v => v.1.runId) == some runId, runId := runId }
      else lockRefused runId : PublisherProcess Row LockOutcome) := by
    split
    · exact leaves_bind leaves_readPublisherLock (fun _ => trivial)
    · exact leaves_lockRefused
  unfold replacePublisherLock
  cases etag with
  | none => exact leaves_bind (leaves_await htarget) hafter
  | some etag => exact leaves_bind (leaves_await htarget) hafter

omit [∀ kind, Dated (Row kind)] in
theorem leaves_acquirePublisherLock {key : String} (hkey : key ≠ publisherLockKey)
    {operation : LockOperation} {now ttlMs : ℕ} :
    Leaves json key (acquirePublisherLock runId operation now ttlMs : PublisherProcess Row _) := by
  have htarget : (some publisherLockKey : Option String) ≠ some key := by
    simpa using hkey.symm
  unfold acquirePublisherLock
  refine leaves_bind (leaves_ofExcept _) (fun lock => ?_)
  refine leaves_bind (leaves_await htarget) (fun acquired => ?_)
  split
  · trivial
  · refine leaves_bind leaves_readPublisherLock (fun existing => ?_)
    rcases existing with _ | ⟨held, etag⟩
    · trivial
    · dsimp only
      split
      · trivial
      · exact leaves_replacePublisherLock hkey

omit [∀ kind, Dated (Row kind)] in
theorem leaves_releasePublisherLock {key : String} (hkey : key ≠ publisherLockKey) :
    Leaves json key (releasePublisherLock runId : PublisherProcess Row _) := by
  have htarget : (some publisherLockKey : Option String) ≠ some key := by
    simpa using hkey.symm
  refine leaves_bind leaves_readPublisherLock (fun existing => ?_)
  rcases existing with _ | ⟨held, etag⟩
  · trivial
  · dsimp only
    split
    · cases etag with
      | none => exact leaves_await htarget
      | some etag => exact leaves_bind (leaves_await htarget) (fun _ => trivial)
    · trivial

/-! ### The writes -/

theorem meets_writeArtifacts (plan : Plan input existing) (h : SameButLock objects t) :
    Meets (Performs json) (RunState json input existing objects)
      (Process.forEach (writeArtifact json) plan.pending
        { artifacts := existingArtifacts existing, writtenKeys := [] })
      (fun r t => ∀ written, r = .ok written →
        written.artifacts = gather json plan.pending (existingArtifacts existing) ∧
          SameButLock (storeAll plan.pending objects) t) t := by
  refine meets_forEach (fun (acc : Written) rest t => ∃ done, plan.pending = done ++ rest ∧
    acc.artifacts = gather json done (existingArtifacts existing) ∧
      SameButLock (storeAll done objects) t) ?_ ?_ ⟨[], rfl, rfl, h⟩
  · rintro acc p rest t ⟨done, hpending, hartifacts, hsame⟩
    have hstate : RunState json input existing objects t := .writing plan done (p :: rest) hpending hsame
    have hpending' : plan.pending = (done ++ [p]) ++ rest := by simpa using hpending
    refine meets_bind (meets_await hstate (fun r t' hexec => ?_))
    have hput : t' = t ∨ t' = t.insert p.key p.value := hexec.executes.effect
    have hstate' : RunState json input existing objects t' := by
      rcases hput with rfl | rfl
      · exact hstate
      · refine .writing plan (done ++ [p]) rest hpending' ?_
        rw [storeAll_append_singleton]
        exact hsame.insert p.key p.value
    cases r with
    | error e => exact ⟨hstate', fun written hwritten => nomatch hwritten⟩
    | ok answer =>
        have heffect : t' = t.insert p.key p.value := (congrArg Prod.snd hexec.executes.ok).symm
        refine ⟨hstate', hstate', done ++ [p], hpending', ?_, ?_⟩
        · rw [gather_append_singleton, ← hartifacts]
        · rw [storeAll_append_singleton, heffect]
          exact hsame.insert p.key p.value
  · rintro acc t ⟨done, hpending, hartifacts, hsame⟩
    rw [List.append_nil] at hpending
    subst hpending
    refine ⟨.writing plan plan.pending [] (List.append_nil _).symm hsame, ?_⟩
    rintro written hwritten
    obtain rfl := Except.ok.inj hwritten
    exact ⟨hartifacts, hsame⟩

omit [∀ kind, Dated (Row kind)] in
theorem CleanedFrom.erase {deploymentId : DeploymentId} (h : CleanedFrom deploymentId objects t)
    {key : String} (hstale : IsStale deploymentId key) :
    CleanedFrom deploymentId objects (t.erase key) := by
  intro other hother
  by_cases heq : other = key
  · rw [heq]
    exact Or.inr ⟨hstale, AList.lookup_erase key t⟩
  · rw [AList.lookup_erase_ne heq]
    exact h other hother

omit [∀ kind, Dated (Row kind)] in
theorem meets_cleanup {deploymentId : DeploymentId} (h : CleanedFrom deploymentId objects t) :
    Meets (Performs json) (CleanedFrom deploymentId objects)
      (cleanupHistoricalDeploymentArtifacts deploymentId)
      (fun _ => CleanedFrom deploymentId objects) t := by
  refine ⟨h, fun r t' hexec => ?_⟩
  have hsame : t' = t := by
    rcases hexec.executes.effect with heq | heq
    · exact heq
    · exact heq
  subst hsame
  cases r with
  | error e => exact ⟨h, h⟩
  | ok answer =>
      let keys : List String := answer
      change Meets _ _ (Process.forEach (fun _ stale => deleteJson stale)
        (keys.filter (fun key => !startsWith key (deploymentPrefix deploymentId))) () >>=
          fun _ => .ret _) _ _
      have hstale : ∀ key ∈ keys.filter
          (fun key => !startsWith key (deploymentPrefix deploymentId)), IsStale deploymentId key := by
        intro key hkey
        obtain ⟨hlisted, hother⟩ := List.mem_filter.mp hkey
        exact ⟨(mem_of_listKeys hexec.executes hlisted).2, by simpa using hother⟩
      refine meets_bind (meets_forEach (fun _ rest t => CleanedFrom deploymentId objects t ∧
        ∀ key ∈ rest, IsStale deploymentId key) ?_ ?_ ⟨h, hstale⟩)
      · rintro acc key rest t ⟨hclean, hrest⟩
        refine meets_await hclean (fun r t' hexec => ?_)
        have hclean' : CleanedFrom deploymentId objects t' := by
          rcases hexec.executes.effect with rfl | rfl
          · exact hclean
          · exact hclean.erase (hrest key List.mem_cons_self)
        refine ⟨hclean', ?_⟩
        cases r with
        | error e => exact hclean'
        | ok answer => exact ⟨hclean', fun key hkey => hrest key (List.mem_cons_of_mem _ hkey)⟩
      · rintro acc t ⟨hclean, -⟩
        exact ⟨hclean, hclean, hclean⟩

/-- What the end of a run says about the store it leaves. -/
def RunEnd (json : Serialization Row) (input : PublishInput Row) (existing : Option Manifest)
    (objects : Objects Row) (r : Except PublishError PublishResult) (objects' : Objects Row) : Prop :=
  ∀ result, r = .ok result → RunResult json input existing objects result objects'

theorem runEnd_error {e : PublishError} : RunEnd json input existing objects (.error e) t :=
  fun _ h => nomatch h

theorem runEnd_skipped {result : PublishResult} (hskipped : result.skipped = true)
    (h : SameButLock objects t) : RunEnd json input existing objects (.ok result) t := by
  intro result' hresult
  obtain rfl := Except.ok.inj hresult
  exact Or.inl ⟨hskipped, h⟩

theorem meets_writePublication (plan : Plan input existing) (h : SameButLock objects t) :
    Meets (Performs json) (RunState json input existing objects)
      (writePublication json runId input plan.deploymentId existing plan.progress plan.bounds
        input.startOfPublic plan.range plan.rows)
      (RunEnd json input existing objects) t := by
  unfold writePublication
  refine meets_ofExcept_bind (fun _ _ => ⟨.unchanged h, runEnd_error⟩) (fun months hmonths => ?_)
  have hplan := orError_eq_ok hmonths
  rw [plan.months_eq] at hplan
  obtain rfl := Except.ok.inj hplan
  refine meets_bind ((meets_writeArtifacts plan h).finally ?_)
  rintro (e | written) t₁ hstate hwritten
  · exact runEnd_error
  have hartifacts := (hwritten written rfl).1
  have hsame := (hwritten written rfl).2
  have hnext : nextManifest input plan.deploymentId existing plan.progress plan.bounds
      input.startOfPublic plan.range written.artifacts = plan.next json := by
    rw [hartifacts]
    rfl
  rw [followed_ok]
  generalize nextManifest input plan.deploymentId existing plan.progress plan.bounds
    input.startOfPublic plan.range written.artifacts = next at hnext ⊢
  refine meets_ofExcept_bind (fun _ _ => ⟨hstate, runEnd_error⟩) (fun manifest hmanifest => ?_)
  rw [hnext] at hmanifest
  have hpublished {t₂ : Objects Row}
      (hclean : CleanedFrom plan.deploymentId (plan.stored manifest objects) t₂) :
      RunState json input existing objects t₂ := .published plan manifest hmanifest hclean
  have hstored : CleanedFrom plan.deploymentId (plan.stored manifest objects)
      (t₁.insert manifestKey (.manifest manifest)) :=
    (hsame.insert manifestKey (.manifest manifest)).cleanedFrom
  refine meets_bind (meets_await hstate (fun r t₂ hexec => ?_))
  have hput : t₂ = t₁ ∨ t₂ = t₁.insert manifestKey (.manifest manifest) := hexec.executes.effect
  have hstate₂ : RunState json input existing objects t₂ := by
    rcases hput with rfl | rfl
    · exact hstate
    · exact hpublished hstored
  refine ⟨hstate₂, ?_⟩
  cases r with
  | error e => exact runEnd_error
  | ok answer =>
      have heffect : t₂ = t₁.insert manifestKey (.manifest manifest) :=
        (congrArg Prod.snd hexec.executes.ok).symm
      refine meets_bind ((meets_cleanup (heffect ▸ hstored)).weaken (fun _ => hpublished) ?_)
      rintro (e | deletedKeys) t₃ hclean _
      · exact runEnd_error
      · refine ⟨hpublished hclean, fun result hresult => ?_⟩
        obtain rfl := Except.ok.inj hresult
        exact Or.inr ⟨rfl, plan, manifest, hmanifest, hclean, rfl⟩

/-! ### The run -/

theorem meets_publishUnderLock {deploymentId : DeploymentId}
    (hid : parseDeploymentId input.deploymentId = .ok deploymentId) (h : SameButLock objects t) :
    Meets (Performs json) (RunState json input existing objects)
      (publishUnderLock json runId input deploymentId existing)
      (RunEnd json input existing objects) t := by
  have hstate : RunState json input existing objects t := .unchanged h
  unfold publishUnderLock
  refine meets_ofExcept_bind (fun _ _ => ⟨hstate, runEnd_error⟩) (fun progress hprogress => ?_)
  dsimp only
  split
  · exact ⟨hstate, runEnd_skipped rfl h⟩
  · exact ⟨hstate, runEnd_error⟩
  · next bounds hbounds =>
      refine meets_ofExcept_bind (fun _ _ => ⟨hstate, runEnd_error⟩) (fun fresh _ => ?_)
      split
      · exact ⟨hstate, runEnd_skipped rfl h⟩
      · refine meets_ofExcept_bind (fun _ _ => ⟨hstate, runEnd_error⟩) (fun range hrange => ?_)
        refine meets_ofExcept_bind (fun _ _ => ⟨hstate, runEnd_error⟩) (fun rows hrows => ?_)
        refine meets_ofExcept_bind (fun _ _ => ⟨hstate, runEnd_error⟩) (fun missing _ => ?_)
        split
        · exact ⟨hstate, runEnd_skipped rfl h⟩
        · cases hmonths : monthKeysForRange range.start range.stop with
          | error e =>
              unfold writePublication
              rw [hmonths]
              exact ⟨hstate, runEnd_error⟩
          | ok months =>
              let plan : Plan input existing :=
                { deploymentId := deploymentId, progress := progress, bounds := bounds
                  range := range, rows := rows, months := months, deploymentId_eq := hid
                  progress_eq := hprogress, bounds_eq := hbounds, range_eq := orError_eq_ok hrange
                  rows_eq := hrows, months_eq := hmonths }
              exact meets_writePublication plan h

theorem meets_publishAgainst {deploymentId : DeploymentId} {ttlMs : ℕ}
    (hid : parseDeploymentId input.deploymentId = .ok deploymentId) (h : SameButLock objects t) :
    Meets (Performs json) (RunState json input existing objects)
      (publishAgainst json runId input deploymentId ttlMs existing)
      (RunEnd json input existing objects) t := by
  unfold publishAgainst
  refine meets_bind ((meets_sameButLock (fun key hkey => leaves_acquirePublisherLock hkey) h).weaken
    (fun _ => .unchanged) ?_)
  rintro (e | outcome) t₁ _ hsame
  · exact runEnd_error
  show Meets _ _ (if (!outcome.acquired) = true then _ else _) _ t₁
  split
  · exact ⟨.unchanged hsame, runEnd_skipped rfl hsame⟩
  · refine meets_tryFinally ((meets_publishUnderLock hid hsame).finally ?_)
    intro r t₂ hstate hend
    refine (meets_sameButLock (fun key hkey => leaves_releasePublisherLock hkey)
      (SameButLock.refl t₂)).weaken (fun _ => hstate.same) ?_
    rintro (e | _) t₃ hsame₃ _
    · exact runEnd_error
    · exact fun result hresult => (hend result hresult).same hsame₃

/-- The manifest in the store. -/
def storedManifest (objects : Objects Row) : Option Manifest :=
  match objects.lookup manifestKey with
  | some (.manifest manifest) => some manifest
  | _ => none

omit [∀ kind, Dated (Row kind)] in
theorem performs_getJson {key : String} {result : Except PublishError (Artifact Row)}
    (h : Performs json (.getJson key) objects result t) : t = objects ∧
      (∀ value, result = .ok value → objects.lookup key = some value) ∧
      (∀ other, result = .error (.artifactNotFound other) → objects.lookup key = none) := by
  have hsame : (memoryStore json objects (.getJson key)).2 = objects := by
    cases hlookup : objects.lookup key with
    | none => simp only [memoryStore, hlookup]
    | some value => simp only [memoryStore, hlookup]
  rcases h with heffect | ⟨message, rfl, heffect⟩
  · refine ⟨(congrArg Prod.snd heffect).symm.trans hsame, ?_⟩
    have hresult : (memoryStore json objects (.getJson key)).1 = result := congrArg Prod.fst heffect
    cases hlookup : objects.lookup key with
    | none =>
        simp only [memoryStore, hlookup] at hresult
        subst hresult
        exact ⟨fun value hvalue => (by cases hvalue), fun _ _ => rfl⟩
    | some stored =>
        simp only [memoryStore, hlookup] at hresult
        subst hresult
        exact ⟨fun value hvalue => congrArg some (Except.ok.inj hvalue), fun _ h => (by cases h)⟩
  · refine ⟨?_, fun value hvalue => (by cases hvalue), fun _ h => (by cases h)⟩
    rcases heffect with rfl | rfl
    · rfl
    · exact hsame

omit [∀ kind, Dated (Row kind)] in
theorem meets_getExistingManifest :
    Meets (Performs json) (SameButLock objects) (getExistingManifest : PublisherProcess Row _)
      (fun r t => (∀ existing, r = .ok existing → existing = storedManifest objects) ∧
        SameButLock objects t) objects := by
  have hrefl := SameButLock.refl objects
  refine ⟨hrefl, fun r t hexec => ?_⟩
  obtain ⟨rfl, hok, hmissing⟩ := performs_getJson hexec
  have hfail (e : PublishError) : (∀ existing, (.error e : Except PublishError (Option Manifest)) =
      .ok existing → existing = storedManifest t) ∧ SameButLock t t :=
    ⟨fun _ h => (nomatch h), hrefl⟩
  cases r with
  | error e =>
      cases e with
      | artifactNotFound other =>
          refine ⟨hrefl, fun existing hexisting => ?_, hrefl⟩
          obtain rfl := Except.ok.inj hexisting
          simp only [storedManifest, hmissing other rfl]
      | metricsNotDataReady => exact ⟨hrefl, hfail _⟩
      | error message => exact ⟨hrefl, hfail _⟩
  | ok value =>
      have hlookup := hok value rfl
      cases value with
      | manifest manifest =>
          refine ⟨hrefl, fun existing hexisting => ?_, hrefl⟩
          obtain rfl := Except.ok.inj hexisting
          simp only [storedManifest, hlookup]
      | lock lock => exact ⟨hrefl, hfail _⟩
      | schema key => exact ⟨hrefl, hfail _⟩
      | shard kind rows => exact ⟨hrefl, hfail _⟩

/-- The manifest that a run builds on. -/
def existingManifest (input : PublishInput Row) (objects : Objects Row) : Option Manifest :=
  input.manifest.or (storedManifest objects)

/-- Every state of a run, and the end of a run that returns. -/
theorem meets_publishMetricsArtifacts :
    Meets (Performs json) (RunState json input (existingManifest input objects) objects)
      (publishMetricsArtifacts json runId input)
      (RunEnd json input (existingManifest input objects) objects) objects := by
  have hrefl := SameButLock.refl objects
  have hstate : RunState json input (existingManifest input objects) objects objects :=
    .unchanged hrefl
  unfold publishMetricsArtifacts
  refine meets_ofExcept_bind (fun _ _ => ⟨hstate, runEnd_error⟩) (fun deploymentId hid => ?_)
  dsimp only
  split
  · exact ⟨hstate, runEnd_error⟩
  · cases hmanifest : input.manifest with
    | some manifest =>
        have hexisting : existingManifest input objects = some manifest := by
          simp [existingManifest, hmanifest]
        rw [hexisting]
        exact meets_publishAgainst hid hrefl
    | none =>
        have hexisting : existingManifest input objects = storedManifest objects := by
          simp [existingManifest, hmanifest]
        rw [hexisting]
        refine meets_bind (meets_getExistingManifest.weaken (fun _ => .unchanged) ?_)
        rintro (e | existing) t _ ⟨hread, hsame⟩
        · exact runEnd_error
        · obtain rfl := hread existing rfl
          exact meets_publishAgainst hid hsame

/-- What a run has done to the store wherever it has stopped, and when it has returned. -/
theorem runs_publish {out : Option (Except PublishError PublishResult)}
    (h : Runs (Performs json) (publishMetricsArtifacts json runId input) objects out t) :
    RunState json input (existingManifest input objects) objects t ∧
      ∀ result, out = some (.ok result) →
        RunResult json input (existingManifest input objects) objects result t := by
  obtain ⟨hstate, hend⟩ := meets_publishMetricsArtifacts.run h
  exact ⟨hstate, fun result hresult => hend _ hresult result rfl⟩

end

end OlympusMetrics.Publisher
