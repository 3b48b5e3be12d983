import OlympusMetrics.Publisher.Plans

/-!
Runs of the publisher one after another, from an empty store on.

A run may stop at any operation, and the next one finds what it has left. The
manifest in the store lists objects that are stored, of one deployment only.
-/

namespace OlympusMetrics.Publisher

open Process

variable {Row : ArtifactKind → Type} {objects t : Objects Row} {input : PublishInput Row}
  {manifest : Manifest} {key : String}

/-! ### The stored manifest -/

theorem storedManifest_congr (h : t.lookup manifestKey = objects.lookup manifestKey) :
    storedManifest t = storedManifest objects := by
  unfold storedManifest
  rw [h]

theorem storedManifest_eq (h : objects.lookup manifestKey = some (.manifest manifest)) :
    storedManifest objects = some manifest := by
  unfold storedManifest
  rw [h]

theorem lookup_of_storedManifest (h : storedManifest objects = some manifest) :
    objects.lookup manifestKey = some (.manifest manifest) := by
  unfold storedManifest at h
  split at h
  · next stored hlookup =>
      rw [hlookup, Option.some.inj h]
  · exact nomatch h

/-- A run that is given no manifest builds on the stored one. -/
theorem existingManifest_of_none (h : input.manifest = none) :
    existingManifest input objects = storedManifest objects := by
  simp [existingManifest, h]

theorem not_isStale_manifestKey {deploymentId : DeploymentId} : ¬ IsStale deploymentId manifestKey := by
  intro hstale
  exact absurd hstale.1 (by decide)

/-- The objects of one deployment, and others that are neither the lock nor the manifest. -/
structure OwnKey (deploymentId : DeploymentId) (key : String) : Prop where
  notStale : ¬ IsStale deploymentId key
  ne_lock : key ≠ publisherLockKey
  ne_manifest : key ≠ manifestKey

theorem CleanedFrom.lookup_eq {deploymentId : DeploymentId} (h : CleanedFrom deploymentId objects t)
    (hkey : OwnKey deploymentId key) : t.lookup key = objects.lookup key :=
  (h key hkey.ne_lock).resolve_right (fun hstale => hkey.notStale hstale.1)

theorem CleanedFrom.storedManifest_eq {deploymentId : DeploymentId}
    (h : CleanedFrom deploymentId objects t) : storedManifest t = storedManifest objects :=
  storedManifest_congr ((h manifestKey manifestKey_ne_lockKey).resolve_right
    (fun hstale => not_isStale_manifestKey hstale.1))

theorem SameButLock.storedManifest_eq (h : SameButLock objects t) :
    storedManifest t = storedManifest objects :=
  storedManifest_congr (h manifestKey manifestKey_ne_lockKey)

/-! ### Objects behind the entries -/

/-- The manifest lists stored objects, all of its own deployment. -/
structure Backed (objects : Objects Row) (manifest : Manifest) (deploymentId : DeploymentId) :
    Prop where
  deploymentId_eq : manifest.indexerDeploymentId = some deploymentId.text
  ownKey : ∀ key ∈ manifest.artifacts, OwnKey deploymentId key
  stored : ∀ key ∈ manifest.artifacts, key ∈ objects

/-- The stored manifest is backed. -/
def StoredBacked (objects : Objects Row) : Prop :=
  ∀ manifest, storedManifest objects = some manifest → ∃ deploymentId, Backed objects manifest deploymentId

theorem Backed.of_lookup {deploymentId : DeploymentId} (h : Backed objects manifest deploymentId)
    (hlookup : ∀ key ∈ manifest.artifacts, key ∈ objects → key ∈ t) : Backed t manifest deploymentId :=
  ⟨h.deploymentId_eq, h.ownKey, fun key hkey => hlookup key hkey (h.stored key hkey)⟩

theorem mem_of_lookup_eq (h : t.lookup key = objects.lookup key) (hmem : key ∈ objects) : key ∈ t := by
  rw [← AList.lookup_isSome, h]
  exact AList.lookup_isSome.mpr hmem

theorem lookup_storeAll_of_notMem {pending : List (PendingArtifact Row)}
    (h : key ∉ pending.map (·.key)) : (storeAll pending objects).lookup key = objects.lookup key :=
  lookup_foldl_insert_of_notMem h

theorem mem_storeAll {pending : List (PendingArtifact Row)} (h : key ∈ objects) :
    key ∈ storeAll pending objects := by
  induction pending generalizing objects with
  | nil => exact h
  | cons p pending ih => exact ih ((AList.mem_insert _).mpr (Or.inr h))

theorem StoredBacked.noDangling (h : StoredBacked objects) : NoDangling objects := by
  intro manifest hmanifest key hkey
  obtain ⟨deploymentId, hbacked⟩ := h manifest (storedManifest_eq hmanifest)
  exact hbacked.stored key hkey

theorem storedBacked_empty : StoredBacked (∅ : Objects Row) := fun _ h => nomatch h

section

variable [∀ kind, Dated (Row kind)]

/-! ### Histories -/

/-- The stores that runs leave one after another, where each run is allowed in the store that it
starts from. -/
inductive History (json : Serialization Row) (allowed : PublishInput Row → Objects Row → Prop) :
    Objects Row → Prop
  | empty : History json allowed ∅
  | run {objects objects'} (runId : String) (input : PublishInput Row)
      (out : Option (Except PublishError PublishResult)) :
      History json allowed objects → allowed input objects →
      Runs (Performs json) (publishMetricsArtifacts json runId input) objects out objects' →
      History json allowed objects'

variable {json : Serialization Row} {allowed allowed' : PublishInput Row → Objects Row → Prop}
  {existing : Option Manifest}

/-- What every run preserves holds after all of them. -/
theorem History.inv {inv : Objects Row → Prop} (hempty : inv ∅)
    (hstep : ∀ {objects t input}, inv objects → allowed input objects →
      RunState json input (existingManifest input objects) objects t → inv t)
    (h : History json allowed objects) : inv objects := by
  induction h with
  | empty => exact hempty
  | run runId input out _ hstart hrun ih => exact hstep ih hstart (runs_publish hrun).1

/-! ### The keys of a published manifest -/

namespace Plan

variable {plan : Plan input existing}

theorem notStale_of_keepsEntry {deploymentId : DeploymentId} {earliestDate latestDate : String}
    (h : keepsEntry deploymentId earliestDate latestDate key = true) : ¬ IsStale deploymentId key := by
  rintro ⟨hbelow, hother⟩
  simp [keepsEntry, hbelow, hother] at h

/-- An entry of the manifest is one that the run has written, or one that it carries over. -/
theorem Publishes.entry (h : Publishes json plan manifest) {entry : ArtifactEntry}
    (hentry : manifest.artifacts.lookup key = some entry) :
    keepsEntry plan.deploymentId manifest.earliestDate manifest.latestDate key = true ∧
      ((∃ p ∈ plan.pending, p.key = key ∧ entry = json.artifactEntry p.value p.rowCount) ∨
        (key ∉ plan.pending.map (·.key) ∧
          (existingArtifacts existing).lookup key = some entry)) := by
  rw [h.lookup_eq] at hentry
  split at hentry
  · next hkeep =>
      refine ⟨hkeep, ?_⟩
      by_cases hmem : key ∈ plan.pending.map (·.key)
      · obtain ⟨p, hp, rfl⟩ := List.mem_map.mp hmem
        rw [plan.lookup_gather hp] at hentry
        exact Or.inl ⟨p, hp, rfl, (Option.some.inj hentry).symm⟩
      · rw [plan.lookup_gather_of_notMem hmem] at hentry
        exact Or.inr ⟨hmem, hentry⟩
  · exact nomatch hentry

theorem Publishes.mem (h : Publishes json plan manifest)
    (hkeep : keepsEntry plan.deploymentId manifest.earliestDate manifest.latestDate key = true)
    (hkey : key ∈ plan.pending.map (·.key) ∨ key ∈ existingArtifacts existing) :
    key ∈ manifest.artifacts := by
  rw [← AList.lookup_isSome, h.lookup_eq, if_pos hkeep]
  by_cases hmem : key ∈ plan.pending.map (·.key)
  · obtain ⟨p, hp, rfl⟩ := List.mem_map.mp hmem
    rw [plan.lookup_gather hp]
    rfl
  · rw [plan.lookup_gather_of_notMem hmem, AList.lookup_isSome]
    exact hkey.resolve_left hmem

/-- The entry of a month of the published bounds is kept. -/
theorem keepsEntry_dataKey {deploymentId : DeploymentId} {earliestDate latestDate : String}
    {kind : ArtifactKind} {month : ℕ} (hmonth : month < 120000) :
    keepsEntry deploymentId earliestDate latestDate (dataKey deploymentId kind (monthKey month)) =
      ((publishedMonths earliestDate latestDate).map monthKey).contains (monthKey month) := by
  unfold keepsEntry
  rw [dataArtifactMonth_dataKey _ _ hmonth, dataKey_startsWith_deploymentPrefix, Bool.or_true,
    Bool.and_true]

end Plan

theorem Plan.Publishes.backed {plan : Plan input existing} (h : Plan.Publishes json plan manifest)
    (hexisting : ∀ old, existing = some old → ∃ deploymentId, Backed objects old deploymentId) :
    Backed (plan.stored manifest objects) manifest plan.deploymentId := by
  refine ⟨h.deploymentId_eq, fun key hkey => ?_, fun key hkey => ?_⟩
  · obtain ⟨entry, hentry⟩ := Option.isSome_iff_exists.mp (AList.lookup_isSome.mpr hkey)
    obtain ⟨hkeep, hcases⟩ := h.entry hentry
    have hstale := notStale_of_keepsEntry hkeep
    rcases hcases with ⟨p, hp, rfl, -⟩ | ⟨-, hold⟩
    · exact ⟨hstale, (mem_pendingArtifacts hp).1, (mem_pendingArtifacts hp).2⟩
    · cases existing with
      | none => exact nomatch hold
      | some old =>
          obtain ⟨deploymentId, hbacked⟩ := hexisting old rfl
          have hown := hbacked.ownKey key (AList.lookup_isSome.mp (by
            rw [show old.artifacts.lookup key = some entry from hold]
            rfl))
          exact ⟨hstale, hown.ne_lock, hown.ne_manifest⟩
  · obtain ⟨entry, hentry⟩ := Option.isSome_iff_exists.mp (AList.lookup_isSome.mpr hkey)
    obtain ⟨-, hcases⟩ := h.entry hentry
    refine (AList.mem_insert _).mpr (Or.inr ?_)
    rcases hcases with ⟨p, hp, rfl, -⟩ | ⟨-, hold⟩
    · rw [← AList.lookup_isSome, plan.lookup_storeAll hp]
      rfl
    · cases existing with
      | none => exact nomatch hold
      | some old =>
          obtain ⟨deploymentId, hbacked⟩ := hexisting old rfl
          refine mem_storeAll (hbacked.stored key (AList.lookup_isSome.mp ?_))
          rw [show old.artifacts.lookup key = some entry from hold]
          rfl

theorem Plan.manifestKey_notMem_written (plan : Plan input existing)
    {written rest : List (PendingArtifact Row)} (hpending : plan.pending = written ++ rest) :
    manifestKey ∉ written.map (·.key) := by
  intro hmem
  refine plan.manifestKey_notMem_keys ?_
  rw [hpending, List.map_append]
  exact List.mem_append_left _ hmem

/-- A run leaves the stored manifest alone, or it stores its own. -/
theorem RunState.storedManifest_cases (h : RunState json input existing objects t) :
    storedManifest t = storedManifest objects ∨ ∃ (plan : Plan input existing) (next : Manifest),
      plan.next json = .ok next ∧ storedManifest t = some next := by
  cases h with
  | unchanged hsame => exact Or.inl hsame.storedManifest_eq
  | writing plan written rest hpending hsame =>
      exact Or.inl (hsame.storedManifest_eq.trans (storedManifest_congr
        (lookup_storeAll_of_notMem (plan.manifestKey_notMem_written hpending))))
  | published plan next hnext hclean =>
      refine Or.inr ⟨plan, next, hnext, hclean.storedManifest_eq.trans ?_⟩
      exact storedManifest_eq plan.lookup_stored_manifest

/-- Wherever a run stops that builds on the stored manifest, the stored manifest is backed. -/
theorem RunState.storedBacked (h : RunState json input (storedManifest objects) objects t)
    (hinv : StoredBacked objects) : StoredBacked t := by
  intro manifest hmanifest
  cases h with
  | unchanged hsame =>
      rw [hsame.storedManifest_eq] at hmanifest
      obtain ⟨deploymentId, hbacked⟩ := hinv manifest hmanifest
      refine ⟨deploymentId, hbacked.of_lookup (fun key hkey => mem_of_lookup_eq ?_)⟩
      exact hsame key (hbacked.ownKey key hkey).ne_lock
  | writing plan written rest hpending hsame =>
      rw [hsame.storedManifest_eq, storedManifest_congr
        (lookup_storeAll_of_notMem (plan.manifestKey_notMem_written hpending))] at hmanifest
      obtain ⟨deploymentId, hbacked⟩ := hinv manifest hmanifest
      refine ⟨deploymentId, hbacked.of_lookup (fun key hkey hmem => ?_)⟩
      exact mem_of_lookup_eq (hsame key (hbacked.ownKey key hkey).ne_lock) (mem_storeAll hmem)
  | published plan next hnext hclean =>
      rw [hclean.storedManifest_eq, storedManifest_eq plan.lookup_stored_manifest] at hmanifest
      obtain rfl := Option.some.inj hmanifest
      have hbacked := (plan.publishes_of_next hnext).backed hinv
      refine ⟨plan.deploymentId, hbacked.of_lookup (fun key hkey => mem_of_lookup_eq ?_)⟩
      exact hclean.lookup_eq (hbacked.ownKey key hkey)

/-! ### Histories that are played -/

/-- How an operation goes in a played run: it succeeds, or it fails with or without its effect. -/
inductive Turn
  | done | failed (effect : Bool)

/-- What the store does in a turn. -/
def Turn.answer (json : Serialization Row) (turn : Turn) (op : StoreOp Row) (objects : Objects Row) :
    Except PublishError op.Answer × Objects Row :=
  match turn with
  | .done => memoryStore json objects op
  | .failed effect => (.error (.error "request failed"),
      if effect then (memoryStore json objects op).2 else objects)

omit [∀ kind, Dated (Row kind)] in
theorem Turn.performs (turn : Turn) (op : StoreOp Row) (objects : Objects Row) :
    Performs json op objects (turn.answer json op objects).1 (turn.answer json op objects).2 := by
  cases turn with
  | done => exact Or.inl rfl
  | failed effect =>
      refine Or.inr ⟨_, rfl, ?_⟩
      cases effect with
      | false => exact Or.inl rfl
      | true => exact Or.inr rfl

/-- The end of a played run. -/
def playRun (json : Serialization Row) (runId : String) (input : PublishInput Row)
    (turns : List Turn) (objects : Objects Row) :
    Option (Except PublishError PublishResult) × Objects Row :=
  play (Turn.answer json) turns (publishMetricsArtifacts json runId input) objects

theorem runs_playRun (runId : String) (turns : List Turn) :
    Runs (Performs json) (publishMetricsArtifacts json runId input) objects
      (playRun json runId input turns objects).1 (playRun json runId input turns objects).2 :=
  runs_play Turn.performs turns _ objects

end

end OlympusMetrics.Publisher
