import OlympusMetrics.Publisher.History

/-!
What the entries of the stored manifest say of the stored objects.

A run overwrites shards before it replaces the manifest. A run that stops in
between leaves objects that the manifest does not describe, until a later run
writes them again.
-/

namespace OlympusMetrics.Publisher

open Process

variable {Row : ArtifactKind → Type}

/-- The row count of an object. -/
def Artifact.rowCount : Artifact Row → ℕ
  | .shard _ rows => rows.length
  | _ => 0

/-- The entry that describes an object. -/
def Serialization.describe (json : Serialization Row) (value : Artifact Row) : ArtifactEntry :=
  json.artifactEntry value value.rowCount

/-- Hash, length and row count of every entry are those of the object under its key. -/
def DescribesStore (json : Serialization Row) (objects : Objects Row) : Prop :=
  ∀ manifest, storedManifest objects = some manifest →
    ∀ key entry, manifest.artifacts.lookup key = some entry →
      ∃ value, objects.lookup key = some value ∧ entry = json.describe value

variable [∀ kind, Dated (Row kind)] {json : Serialization Row} {objects t : Objects Row}
  {input : PublishInput Row} {existing : Option Manifest} {manifest : Manifest} {key : String}

theorem Plan.rowCount_eq (plan : Plan input existing) {p : PendingArtifact Row}
    (hp : p ∈ plan.pending) : p.rowCount = p.value.rowCount := by
  rcases plan.mem_pending hp with ⟨-, hvalue, hcount⟩ | ⟨kind, month, -, rfl⟩
  · rw [hvalue, hcount]
    rfl
  · rfl

theorem Plan.artifactEntry_eq (plan : Plan input existing) {p : PendingArtifact Row}
    (hp : p ∈ plan.pending) : json.artifactEntry p.value p.rowCount = json.describe p.value := by
  rw [plan.rowCount_eq hp]
  rfl

/-! ### Keys that unfinished runs have left -/

/-- Keys of which the last write was one of an unfinished run, and not what the stored manifest lists. -/
def leftBy (json : Serialization Row) (objects : Objects Row) (written : List (PendingArtifact Row))
    (left : Set String) : Set String :=
  {key | (∃ p ∈ written, p.key = key ∧ ∀ manifest, storedManifest objects = some manifest →
      manifest.artifacts.lookup key ≠ some (json.describe p.value)) ∨
    (key ∉ written.map (·.key) ∧ key ∈ left)}

/-- What a run leaves to the next one: the keys that it has written before it stopped, or nothing of
what it writes once it has stored its manifest. -/
inductive Leaving (json : Serialization Row) (input : PublishInput Row) (objects : Objects Row)
    (left : Set String) : Objects Row → Set String → Prop
  | unchanged {objects'} : SameButLock objects objects' → Leaving json input objects left objects' left
  | writing {objects'} (plan : Plan input (storedManifest objects))
      (written rest : List (PendingArtifact Row)) :
      plan.pending = written ++ rest → SameButLock (storeAll written objects) objects' →
      Leaving json input objects left objects' (leftBy json objects written left)
  | published {objects'} (plan : Plan input (storedManifest objects)) (next : Manifest) :
      plan.next json = .ok next → CleanedFrom plan.deploymentId (plan.stored next objects) objects' →
      Leaving json input objects left objects' (left \ {key | key ∈ plan.pending.map (·.key)})

/-- Runs one after another that build on the stored manifest, with the keys that they have left. -/
inductive LeavingHistory (json : Serialization Row) : Objects Row → Set String → Prop
  | empty : LeavingHistory json ∅ ∅
  | run {objects objects' left left'} (runId : String) (input : PublishInput Row)
      (out : Option (Except PublishError PublishResult)) :
      LeavingHistory json objects left → input.manifest = none →
      Runs (Performs json) (publishMetricsArtifacts json runId input) objects out objects' →
      Leaving json input objects left objects' left' → LeavingHistory json objects' left'

/-- Wherever a run stops, it leaves some keys. -/
theorem RunState.leaving (h : RunState json input (storedManifest objects) objects t)
    (left : Set String) : ∃ left', Leaving json input objects left t left' := by
  cases h with
  | unchanged hsame => exact ⟨_, .unchanged hsame⟩
  | writing plan written rest hpending hsame => exact ⟨_, .writing plan written rest hpending hsame⟩
  | published plan next hnext hclean => exact ⟨_, .published plan next hnext hclean⟩

theorem Leaving.runState {left left' : Set String} (h : Leaving json input objects left t left') :
    RunState json input (storedManifest objects) objects t := by
  cases h with
  | unchanged hsame => exact .unchanged hsame
  | writing plan written rest hpending hsame => exact .writing plan written rest hpending hsame
  | published plan next hnext hclean => exact .published plan next hnext hclean

/-- Every history leaves some keys. -/
theorem History.leaving (h : History json (fun input _ => input.manifest = none) objects) :
    ∃ left, LeavingHistory json objects left := by
  induction h with
  | empty => exact ⟨∅, .empty⟩
  | run runId input out _ hmanifest hrun ih =>
      obtain ⟨left, hleft⟩ := ih
      have hstate := (runs_publish hrun).1
      rw [existingManifest_of_none hmanifest] at hstate
      obtain ⟨left', hleaving⟩ := hstate.leaving left
      exact ⟨left', .run runId input out hleft hmanifest hrun hleaving⟩

/-! ### Entries and objects -/

/-- Under every listed key there is an object, and the entry describes it unless the key is left. -/
def DescribesUnlessLeft (json : Serialization Row) (objects : Objects Row) (left : Set String) : Prop :=
  ∀ manifest, storedManifest objects = some manifest →
    ∀ key entry, manifest.artifacts.lookup key = some entry →
      ∃ value, objects.lookup key = some value ∧ (key ∉ left ↔ entry = json.describe value)

omit [∀ kind, Dated (Row kind)] in
/-- The keys that a run has just written are left exactly where the listed entry is another one. -/
theorem mem_leftBy {written : List (PendingArtifact Row)} {left : Set String}
    (hnodup : (written.map (·.key)).Nodup) (hmanifest : storedManifest objects = some manifest)
    {p : PendingArtifact Row} (hp : p ∈ written) :
    p.key ∈ leftBy json objects written left ↔
      manifest.artifacts.lookup p.key ≠ some (json.describe p.value) := by
  constructor
  · rintro (⟨q, hq, hkey, hother⟩ | ⟨hunwritten, -⟩)
    · have hlookup : (storeAll written objects).lookup q.key = some q.value :=
        lookup_foldl_insert_of_mem hnodup hq
      rw [hkey] at hlookup
      have hvalue := hlookup.symm.trans (lookup_foldl_insert_of_mem hnodup hp)
      rw [← Option.some.inj hvalue]
      exact hother manifest hmanifest
    · exact absurd (List.mem_map_of_mem hp) hunwritten
  · intro hother
    refine Or.inl ⟨p, hp, rfl, fun stored hstored => ?_⟩
    rw [← Option.some.inj (hmanifest.symm.trans hstored)]
    exact hother

omit [∀ kind, Dated (Row kind)] in
theorem mem_leftBy_of_notMem {written : List (PendingArtifact Row)} {left : Set String}
    (h : key ∉ written.map (·.key)) : key ∈ leftBy json objects written left ↔ key ∈ left := by
  constructor
  · rintro (⟨p, hp, rfl, -⟩ | ⟨-, hleft⟩)
    · exact absurd (List.mem_map_of_mem hp) h
    · exact hleft
  · exact fun hleft => Or.inr ⟨h, hleft⟩

theorem Leaving.describes {left left' : Set String} (h : Leaving json input objects left t left')
    (hbacked : StoredBacked objects) (hinv : DescribesUnlessLeft json objects left) :
    DescribesUnlessLeft json t left' := by
  intro manifest hmanifest key entry hentry
  have hlisted : key ∈ manifest.artifacts := AList.lookup_isSome.mp (by rw [hentry]; rfl)
  obtain ⟨deploymentId, hbackedBy⟩ := h.runState.storedBacked hbacked manifest hmanifest
  have hown := hbackedBy.ownKey key hlisted
  cases h with
  | unchanged hsame =>
      rw [hsame.storedManifest_eq] at hmanifest
      rw [hsame key hown.ne_lock]
      exact hinv manifest hmanifest key entry hentry
  | writing plan written rest hpending hsame =>
      rw [hsame.storedManifest_eq, storedManifest_congr
        (lookup_storeAll_of_notMem (plan.manifestKey_notMem_written hpending))] at hmanifest
      have hnodup := plan.nodup_keys
      rw [hpending, List.map_append] at hnodup
      rw [hsame key hown.ne_lock]
      by_cases hmem : key ∈ written.map (·.key)
      · obtain ⟨p, hp, rfl⟩ := List.mem_map.mp hmem
        refine ⟨p.value, lookup_foldl_insert_of_mem hnodup.of_append_left hp, ?_⟩
        rw [mem_leftBy hnodup.of_append_left hmanifest hp, hentry, not_ne_iff, Option.some_inj]
      · rw [lookup_storeAll_of_notMem hmem, mem_leftBy_of_notMem hmem]
        exact hinv manifest hmanifest key entry hentry
  | published plan next hnext hclean =>
      rw [hclean.storedManifest_eq, storedManifest_eq plan.lookup_stored_manifest] at hmanifest
      obtain rfl := Option.some.inj hmanifest
      have hpublishes := plan.publishes_of_next hnext
      have htext := hbackedBy.deploymentId_eq.symm.trans hpublishes.deploymentId_eq
      obtain rfl := DeploymentId.ext (Option.some.inj htext)
      rw [hclean.lookup_eq hown]
      rcases (hpublishes.entry hentry).2 with ⟨p, hp, rfl, rfl⟩ | ⟨hunwritten, hold⟩
      · refine ⟨p.value, plan.lookup_stored hp, ?_⟩
        refine iff_of_true (fun hleft => hleft.2 (List.mem_map_of_mem hp)) ?_
        exact plan.artifactEntry_eq hp
      · rw [plan.lookup_stored_of_notMem hunwritten hown.ne_manifest]
        have hcarried : ∃ old, storedManifest objects = some old ∧
            old.artifacts.lookup key = some entry := by
          cases hstored : storedManifest objects with
          | none =>
              rw [hstored] at hold
              exact nomatch hold
          | some old =>
              rw [hstored] at hold
              exact ⟨old, rfl, hold⟩
        obtain ⟨old, hstored, hlookup⟩ := hcarried
        obtain ⟨value, hvalue, hdescribes⟩ := hinv old hstored key entry hlookup
        refine ⟨value, hvalue, ?_⟩
        rw [← hdescribes]
        exact not_congr (and_iff_left hunwritten)

/-- After any runs, every entry describes the stored object unless its key is left. -/
theorem LeavingHistory.describes {left : Set String} (h : LeavingHistory json objects left) :
    StoredBacked objects ∧ DescribesUnlessLeft json objects left := by
  induction h with
  | empty => exact ⟨storedBacked_empty, fun _ h => nomatch h⟩
  | run runId input out _ _ _ hleaving ih =>
      exact ⟨hleaving.runState.storedBacked ih.1, hleaving.describes ih.1 ih.2⟩

/-- A run that has completed leaves entries that describe the store exactly if no listed key is left
by an earlier run that stopped before its manifest. -/
theorem describesStore_iff_of_completed {left left' : Set String} {runId : String}
    {result : PublishResult} (h : LeavingHistory json objects left) (hmanifest : input.manifest = none)
    (hrun : Runs (Performs json) (publishMetricsArtifacts json runId input) objects
      (some (.ok result)) t) (hleaving : Leaving json input objects left t left') :
    DescribesStore json t ↔
      ∀ manifest, storedManifest t = some manifest → ∀ key ∈ manifest.artifacts, key ∉ left' := by
  obtain ⟨-, hdescribes⟩ :=
    (LeavingHistory.run runId input (some (.ok result)) h hmanifest hrun hleaving).describes
  constructor
  · intro hstore manifest hstored key hkey
    obtain ⟨entry, hentry⟩ := Option.isSome_iff_exists.mp (AList.lookup_isSome.mpr hkey)
    obtain ⟨value, hvalue, hiff⟩ := hdescribes manifest hstored key entry hentry
    obtain ⟨value', hvalue', heq⟩ := hstore manifest hstored key entry hentry
    obtain rfl := Option.some.inj (hvalue.symm.trans hvalue')
    exact hiff.mpr heq
  · intro hnone manifest hstored key entry hentry
    obtain ⟨value, hvalue, hiff⟩ := hdescribes manifest hstored key entry hentry
    have hkey : key ∈ manifest.artifacts := AList.lookup_isSome.mp (by rw [hentry]; rfl)
    exact ⟨value, hvalue, hiff.mp (hnone manifest hstored key hkey)⟩

/-! ### A run that stops between two shards -/

/-- A run that has published something. -/
def completes (out : Option (Except PublishError PublishResult)) : Bool :=
  match out with
  | some (.ok result) => !result.skipped
  | _ => false

theorem exists_of_completes {out : Option (Except PublishError PublishResult)}
    (h : completes out = true) : ∃ result, out = some (.ok result) ∧ result.skipped = false := by
  unfold completes at h
  split at h
  · next result => exact ⟨result, rfl, by simpa using h⟩
  · exact nomatch h

/-- A run on the day after the latest date, from `startDate` on, with some treasury assets. -/
def monthEndInput (startDate latestDate : String) (day : ℕ) (assets : List String) :
    PublishInput DateRow where
  publicStartDate := some "2024-01-31"
  deploymentId := "d1"
  startDate := some startDate
  source :=
    { dailySource latestDate with
      fetchRows := fun kind range =>
        match kind with
        | .metrics => orError (datesOfRange range.start range.stop)
        | .treasuryAssets => .ok assets
        | .ohmSupply => .ok [] }
  now := february day

/-- The first run publishes the last day of January. -/
def januaryStore : Objects DateRow :=
  (playRun plainSerialization "first" (monthEndInput "2024-01-31" "2024-01-31" 1 [])
    (List.replicate 13 .done) ∅).2

/-- The second run stops after it has written two of the shards of January. -/
def stoppedStore : Objects DateRow :=
  (playRun plainSerialization "second" (monthEndInput "2024-01-31" "2024-01-31" 1 ["2024-01-31"])
    (List.replicate 8 .done ++ [.failed false, .done, .done]) januaryStore).2

/-- The third run publishes the first of February. -/
def februaryRun : Option (Except PublishError PublishResult) × Objects DateRow :=
  playRun plainSerialization "third" (monthEndInput "2024-02-01" "2024-02-01" 2 [])
    (List.replicate 13 .done) stoppedStore

theorem leavingHistory_stoppedStore :
    ∃ left, LeavingHistory plainSerialization stoppedStore left := by
  have hjanuary : History plainSerialization (fun input _ => input.manifest = none) januaryStore :=
    .run "first" _ _ .empty rfl (runs_playRun "first" _)
  exact History.leaving (.run "second" _ _ hjanuary rfl (runs_playRun "second" _))

theorem runs_februaryRun :
    Runs (Performs plainSerialization) (publishMetricsArtifacts plainSerialization "third"
      (monthEndInput "2024-02-01" "2024-02-01" 2 [])) stoppedStore februaryRun.1 februaryRun.2 :=
  runs_playRun "third" _

/-- The listed keys of which the entry does not describe the object. -/
def misdescribedKeys (json : Serialization Row) (objects : Objects Row) : Option (List String) :=
  (storedManifest objects).map (fun manifest => manifest.artifacts.keys.filter (fun key =>
    (objects.lookup key).map json.describe ≠ manifest.artifacts.lookup key))

omit [∀ kind, Dated (Row kind)] in
/-- The listed keys that are left can be read off the store. -/
theorem DescribesUnlessLeft.mem_iff {left : Set String} {keys : List String}
    (h : DescribesUnlessLeft json objects left) (hkeys : misdescribedKeys json objects = some keys)
    (hmanifest : storedManifest objects = some manifest) (hkey : key ∈ manifest.artifacts) :
    key ∈ left ↔ key ∈ keys := by
  obtain ⟨entry, hentry⟩ := Option.isSome_iff_exists.mp (AList.lookup_isSome.mpr hkey)
  obtain ⟨value, hvalue, hiff⟩ := h manifest hmanifest key entry hentry
  rw [misdescribedKeys, hmanifest, Option.map_some, Option.some.injEq] at hkeys
  subst hkeys
  constructor
  · intro hleft
    refine List.mem_filter.mpr ⟨AList.mem_keys.mp hkey, decide_eq_true (fun heq => ?_)⟩
    rw [hvalue, hentry, Option.map_some, Option.some_inj] at heq
    exact hiff.mpr heq.symm hleft
  · intro hmem
    have hne := of_decide_eq_true (List.mem_filter.mp hmem).2
    by_contra hnot
    rw [hvalue, hentry, hiff.mp hnot] at hne
    exact hne rfl

/-- The third run completes, but the second one has left the assets of January. -/
theorem describesStore_iff_februaryRun : ∃ left left' : Set String,
    LeavingHistory plainSerialization stoppedStore left ∧
      Leaving plainSerialization (monthEndInput "2024-02-01" "2024-02-01" 2 []) stoppedStore left
        februaryRun.2 left' ∧
      (∀ manifest, storedManifest februaryRun.2 = some manifest → ∀ key ∈ manifest.artifacts,
        (key ∈ left' ↔ key = "v2/deployments/d1/treasury-assets/daily/2024-01.json")) ∧
      (DescribesStore plainSerialization februaryRun.2 ↔
        ∀ manifest, storedManifest februaryRun.2 = some manifest → ∀ key ∈ manifest.artifacts,
          key ∉ left') := by
  have hcheck : completes februaryRun.1 = true ∧
      misdescribedKeys plainSerialization februaryRun.2 =
        some ["v2/deployments/d1/treasury-assets/daily/2024-01.json"] := by decide +kernel
  obtain ⟨left, hleft⟩ := leavingHistory_stoppedStore
  have hmanifest : (monthEndInput "2024-02-01" "2024-02-01" 2 []).manifest = none := rfl
  have hrun := runs_februaryRun
  have hstate := (runs_publish hrun).1
  rw [existingManifest_of_none hmanifest] at hstate
  obtain ⟨left', hleaving⟩ := hstate.leaving left
  have hdescribes := (LeavingHistory.run "third" _ _ hleft hmanifest hrun hleaving).describes.2
  obtain ⟨result, hout, -⟩ := exists_of_completes hcheck.1
  rw [hout] at hrun
  refine ⟨left, left', hleft, hleaving, fun manifest hstored key hkey => ?_,
    describesStore_iff_of_completed hleft hmanifest hrun hleaving⟩
  rw [hdescribes.mem_iff hcheck.2 hstored hkey, List.mem_singleton]

/-- The row count that the manifest lists under a key, and that of the object. -/
def rowCounts (objects : Objects DateRow) (key : String) : Option (ℕ × ℕ) := do
  let manifest ← storedManifest objects
  let entry ← manifest.artifacts.lookup key
  let value ← objects.lookup key
  some (entry.rowCount, value.rowCount)

theorem rowCounts_eq {objects : Objects DateRow} {key : String} {listed stored : ℕ}
    (h : DescribesStore plainSerialization objects)
    (hcounts : rowCounts objects key = some (listed, stored)) : listed = stored := by
  simp only [rowCounts, Option.bind_eq_bind, Option.bind_eq_some_iff, Option.some.injEq,
    Prod.mk.injEq] at hcounts
  obtain ⟨manifest, hmanifest, entry, hentry, value, hvalue, rfl, rfl⟩ := hcounts
  obtain ⟨value', hvalue', rfl⟩ := h manifest hmanifest key entry hentry
  rw [← Option.some.inj (hvalue.symm.trans hvalue')]
  rfl

/-- The assets of January stay listed as the empty shard that the second run has replaced. -/
theorem stopped_run_misdescribed : ∃ objects objects' runId input result,
    History plainSerialization (fun input _ => input.manifest = none) objects ∧
      Runs (Performs plainSerialization) (publishMetricsArtifacts plainSerialization runId input)
        objects (some (.ok result)) objects' ∧
      input.manifest = none ∧ result.skipped = false ∧
      ¬ DescribesStore plainSerialization objects' := by
  have hjanuary : History plainSerialization (fun input _ => input.manifest = none) januaryStore :=
    .run "first" _ _ .empty rfl (runs_playRun "first" _)
  have hstopped : History plainSerialization (fun input _ => input.manifest = none) stoppedStore :=
    .run "second" _ _ hjanuary rfl (runs_playRun "second" _)
  have hcheck : completes februaryRun.1 = true ∧
      rowCounts februaryRun.2 "v2/deployments/d1/treasury-assets/daily/2024-01.json" =
        some (0, 1) := by decide +kernel
  obtain ⟨hpublished, hcounts⟩ := hcheck
  obtain ⟨result, hout, hskipped⟩ := exists_of_completes hpublished
  refine ⟨stoppedStore, februaryRun.2, "third", _, result, hstopped,
    hout ▸ runs_februaryRun, rfl, hskipped, ?_⟩
  exact fun hdescribes => absurd (rowCounts_eq hdescribes hcounts) (by decide)

end OlympusMetrics.Publisher
