import OlympusMetrics.Api.RoundTrip
import OlympusMetrics.Publisher.Entries

/-!
Which published days a run keeps.

A run rewrites the shards of its months with the rows of its range, and it drops
the shards of other deployments. What it publishes merges its range with the
bounds of the stored manifest.
-/

namespace OlympusMetrics.Api

open Process Publisher SlashPath

variable {Row : ArtifactKind → Type}

/-! ### The keys of a published manifest -/

/-- A manifest lists schemas, and shards of one deployment. -/
structure OwnShards (manifest : Manifest) (deploymentId : DeploymentId) : Prop where
  deploymentId_eq : manifest.indexerDeploymentId = some deploymentId.text
  key_cases : ∀ key ∈ manifest.artifacts, key ∈ schemaKeys ∨
    ∃ kind, ∃ month < 120000, key = dataKey deploymentId kind (monthKey month)

section keys

variable {manifest : Manifest} {deploymentId : DeploymentId} {kind : ArtifactKind} {month : ℕ}

theorem endsWith_append (start stop : String) : endsWith (start ++ stop) stop = true := by
  rw [endsWith, List.isSuffixOf_iff_suffix, String.toList_append]
  exact List.suffix_append _ _

/-- Wherever a reader looks for a shard, the key ends with its kind and month. -/
theorem endsWith_artifactKeyForMonth (manifest : Manifest) (kind : ArtifactKind) (month : String) :
    endsWith (artifactKeyForMonth manifest kind month) ("/" ++ deploymentPath kind month) = true := by
  have hstable : endsWith (stableKey kind month) ("/" ++ deploymentPath kind month) = true := by
    have hkey : stableKey kind month = "v2" ++ ("/" ++ deploymentPath kind month) := by
      refine String.toList_injective ?_
      simp [stableKey]
    rw [hkey]
    exact endsWith_append _ _
  have hfallback : endsWith (if stableKey kind month ∈ manifest.artifacts then
      stableKey kind month else (manifest.artifacts.keys.reverse.find? (fun key =>
        startsWith key deploymentsPrefix &&
          endsWith key ("/" ++ deploymentPath kind month))).getD (stableKey kind month))
        ("/" ++ deploymentPath kind month) = true := by
    split
    · exact hstable
    · cases hfind : manifest.artifacts.keys.reverse.find? (fun key =>
          startsWith key deploymentsPrefix &&
            endsWith key ("/" ++ deploymentPath kind month)) with
      | none => exact hstable
      | some found =>
          have hfound := List.find?_some hfind
          rw [Bool.and_eq_true] at hfound
          exact hfound.2
  unfold artifactKeyForMonth
  dsimp only
  split
  · split
    · rw [String.append_assoc]
      exact endsWith_append _ _
    · exact hfallback
  · exact hfallback

theorem slashFree_file (month : ℕ) : SlashFree (monthKey month ++ ".json") :=
  (slashFree_monthKey month).append (by decide)

/-- A key that ends with a kind and a month has them as its last components. -/
theorem exists_join_of_endsWith {key : String}
    (h : endsWith key ("/" ++ deploymentPath kind (monthKey month)) = true) :
    ∃ start, key = join (join (join start kind.path) "daily") (monthKey month ++ ".json") := by
  rw [endsWith, List.isSuffixOf_iff_suffix] at h
  obtain ⟨start, hstart⟩ := h
  refine ⟨String.ofList start, String.toList_injective ?_⟩
  rw [← hstart]
  simp [deploymentPath, join]

/-- The listed key that a reader finds is that of the deployment's own shard. -/
theorem OwnShards.key_eq (h : OwnShards manifest deploymentId)
    (hkey : artifactKeyForMonth manifest kind (monthKey month) ∈ manifest.artifacts) :
    artifactKeyForMonth manifest kind (monthKey month) =
      dataKey deploymentId kind (monthKey month) := by
  obtain ⟨start, hjoin⟩ :=
    exists_join_of_endsWith (endsWith_artifactKeyForMonth manifest kind (monthKey month))
  rcases h.key_cases _ hkey with hschema | ⟨kind', month', -, hdata⟩
  · -- the files of the schemas do not lie in a directory `daily`
    rw [hjoin] at hschema
    have hdirectory : ∀ key ∈ schemaKeys, ∃ file, SlashFree file ∧
        key = join (join "v2" "schemas") file := by
      intro key hmem
      simp only [schemaKeys, List.mem_cons, List.not_mem_nil, or_false] at hmem
      rcases hmem with rfl | rfl | rfl | rfl
      · exact ⟨"manifest.schema.json", by decide, by decide⟩
      · exact ⟨"daily-metric.schema.json", by decide, by decide⟩
      · exact ⟨"treasury-asset.schema.json", by decide, by decide⟩
      · exact ⟨"ohm-supply.schema.json", by decide, by decide⟩
    obtain ⟨file, hfile, heq⟩ := hdirectory _ hschema
    obtain ⟨hparent, -⟩ := join_inj_last (slashFree_file month) hfile heq
    obtain ⟨-, hdaily⟩ := join_inj_last (by decide) (by decide) hparent
    exact absurd hdaily (by decide)
  · have hcomponents : dataKey deploymentId kind' (monthKey month') =
        join (join (join (join (join "v2" "deployments") deploymentId.text) kind'.path) "daily")
          (monthKey month' ++ ".json") := by
      rw [dataKey_eq]
      refine String.toList_injective ?_
      simp [join]
    have heq := hjoin.symm.trans (hdata.trans hcomponents)
    obtain ⟨hparent, hfile⟩ := join_inj_last (slashFree_file month) (slashFree_file month') heq
    obtain ⟨hparent, -⟩ := join_inj_last (by decide) (by decide) hparent
    obtain ⟨-, hpath⟩ := join_inj_last (slashFree_path kind) (slashFree_path kind') hparent
    have hmonths : monthKey month = monthKey month' := by
      have hlist := congrArg String.toList hfile
      simp only [String.toList_append, List.append_cancel_right_eq] at hlist
      exact String.toList_injective hlist
    rw [hdata, path_injective hpath, hmonths]

/-- The reader of a published manifest finds a listed shard exactly if the deployment has it. -/
theorem OwnShards.mem_iff (h : OwnShards manifest deploymentId) :
    artifactKeyForMonth manifest kind (monthKey month) ∈ manifest.artifacts ↔
      dataKey deploymentId kind (monthKey month) ∈ manifest.artifacts := by
  constructor
  · intro hkey
    rw [← h.key_eq hkey]
    exact hkey
  · intro hkey
    rw [artifactKeyForMonth_of_mem h.deploymentId_eq hkey]
    exact hkey

end keys

variable [∀ kind, Dated (Row kind)] {json : Serialization Row} {objects t : Objects Row}
  {input : PublishInput Row} {existing : Option Manifest} {manifest old : Manifest}
  {deploymentId : DeploymentId} {date : String}

/-! ### Manifests that runs have stored -/

/-- The manifest of a run lists shards of its deployment, if the one that it builds on lists shards of
some deployment. -/
theorem ownShards_of_publishes {plan : Plan input existing} (h : Plan.Publishes json plan manifest)
    (hexisting : ∀ old, existing = some old → ∃ deploymentId, OwnShards old deploymentId) :
    OwnShards manifest plan.deploymentId := by
  refine ⟨h.deploymentId_eq, fun key hkey => ?_⟩
  obtain ⟨entry, hentry⟩ := Option.isSome_iff_exists.mp (AList.lookup_isSome.mpr hkey)
  obtain ⟨hkeep, hcases⟩ := h.entry hentry
  rcases hcases with ⟨p, hp, rfl, -⟩ | ⟨-, hold⟩
  · rcases plan.mem_pending hp with ⟨hschema, -⟩ | ⟨kind, month, hmonth, rfl⟩
    · exact Or.inl hschema
    · exact Or.inr ⟨kind, month, plan.lt_of_mem_monthNumbers hmonth, rfl⟩
  · cases existing with
    | none => exact nomatch hold
    | some old =>
        obtain ⟨deploymentId, hown⟩ := hexisting old rfl
        have hlisted : key ∈ old.artifacts := AList.lookup_isSome.mp (by
          rw [show old.artifacts.lookup key = some entry from hold]
          rfl)
        rcases hown.key_cases key hlisted with hschema | ⟨kind, month, hmonth, rfl⟩
        · exact Or.inl hschema
        · refine Or.inr ⟨kind, month, hmonth, ?_⟩
          have hbefore : startsWith (dataKey deploymentId kind (monthKey month))
              (deploymentPrefix plan.deploymentId) = true := by
            by_contra hother
            exact Plan.notStale_of_keepsEntry hkeep
              ⟨dataKey_startsWith_deploymentsPrefix _ _ _, Bool.eq_false_iff.mpr hother⟩
          rw [deployment_unique hbefore (dataKey_startsWith_deploymentPrefix _ _ _)]

/-- The stored manifest lists shards of one deployment. -/
def StoredOwn (objects : Objects Row) : Prop :=
  ∀ manifest, storedManifest objects = some manifest →
    ∃ deploymentId, OwnShards manifest deploymentId

theorem storedOwn_of_history (h : History json (fun input _ => input.manifest = none) objects) :
    StoredOwn objects := by
  refine h.inv (fun _ hnone => nomatch hnone) ?_
  intro objects t input hinv hmanifest hstate manifest hstored
  rw [existingManifest_of_none hmanifest] at hstate
  rcases hstate.storedManifest_cases with hsame | ⟨plan, next, hnext, hpublished⟩
  · exact hinv manifest (hsame.symm.trans hstored)
  · obtain rfl := Option.some.inj (hstored.symm.trans hpublished)
    exact ⟨plan.deploymentId, ownShards_of_publishes (plan.publishes_of_next hnext) hinv⟩

/-! ### Days -/

/-- A listed shard of the month of a date has a daily metric of this date. -/
def HasDay (objects : Objects Row) (manifest : Manifest) (date : String) : Prop :=
  artifactKeyForMonth manifest .metrics (monthOfDate date) ∈ manifest.artifacts ∧
    ∃ rows : List (Row .metrics),
      objects.lookup (artifactKeyForMonth manifest .metrics (monthOfDate date)) =
        some (.shard .metrics rows) ∧ ∃ row ∈ rows, Dated.date row = date

/-- Every date with a daily metric that the new manifest publishes still has one. -/
def KeepsDays (objects t : Objects Row) : Prop :=
  ∀ old next, storedManifest objects = some old → storedManifest t = some next →
    ∀ date, IsDate date → HasDay objects old date → next.earliestDate ≤ date →
      date ≤ next.latestDate → HasDay t next date

/-- The source answers a range with rows of this range, and it has a row of every date of the range
that is published. -/
def SourceKeeps (input : PublishInput Row) (objects : Objects Row) : Prop :=
  ∀ range rows, input.source.fetchRows .metrics range = .ok rows →
    (∀ row ∈ rows, isInRange (Dated.date row) range = true) ∧
      ∀ old, storedManifest objects = some old → ∀ date, IsDate date → HasDay objects old date →
        isInRange date range = true → ∃ row ∈ rows, Dated.date row = date

/-- The daily metrics of a date in the shard of its month. -/
theorem OwnShards.hasDay_iff (h : OwnShards manifest deploymentId) (hdate : IsDate date) :
    HasDay objects manifest date ↔
      dataKey deploymentId .metrics (monthKey (monthOf (dayOf date))) ∈ manifest.artifacts ∧
        ∃ rows : List (Row .metrics),
          objects.lookup (dataKey deploymentId .metrics (monthKey (monthOf (dayOf date)))) =
            some (.shard .metrics rows) ∧ ∃ row ∈ rows, Dated.date row = date := by
  unfold HasDay
  rw [hdate.monthOfDate_eq, h.mem_iff]
  refine and_congr_right (fun hkey => ?_)
  rw [artifactKeyForMonth_of_mem h.deploymentId_eq hkey]

/-! ### What a run does to a day -/

omit [∀ kind, Dated (Row kind)] in
theorem fetchRows_eq {plan : Plan input existing} :
    input.source.fetchRows .metrics plan.range = .ok (plan.rows .metrics) := by
  have hrows := plan.rows_eq
  unfold fetchAllRows at hrows
  obtain ⟨metrics, hmetrics, hrows⟩ := exists_of_bind_eq_ok hrows
  obtain ⟨treasuryAssets, -, hrows⟩ := exists_of_bind_eq_ok hrows
  obtain ⟨ohmSupply, -, hrows⟩ := exists_of_bind_eq_ok hrows
  rw [← Except.ok.inj hrows]
  exact hmetrics

/-- The manifest of a run lists the shard of a month if the run has written it or its deployment had
it, and the month is published. -/
theorem mem_publishes_iff {plan : Plan input (storedManifest objects)}
    (h : Plan.Publishes json plan manifest) (hold : storedManifest objects = some old) {month : ℕ}
    (hmonth : month < 120000) :
    dataKey plan.deploymentId .metrics (monthKey month) ∈ manifest.artifacts ↔
      month ∈ Plan.publishedMonths manifest.earliestDate manifest.latestDate ∧
        (month ∈ plan.monthNumbers ∨
          dataKey plan.deploymentId .metrics (monthKey month) ∈ old.artifacts) := by
  have hexisting : existingArtifacts (storedManifest objects) = old.artifacts := by
    rw [hold]
    rfl
  have hlast := utcMonth_lt h.isDate_latest.inCalendar
  have hkeep : Plan.keepsEntry plan.deploymentId manifest.earliestDate manifest.latestDate
      (dataKey plan.deploymentId .metrics (monthKey month)) = true ↔
        month ∈ Plan.publishedMonths manifest.earliestDate manifest.latestDate := by
    rw [Plan.keepsEntry_dataKey hmonth, List.contains_iff_mem]
    constructor
    · intro hmem
      obtain ⟨month', hmonth', heq⟩ := List.mem_map.mp hmem
      have hlt : month' < 120000 := (SortedRows.mem_between.mp hmonth').2.trans_lt hlast
      rw [← monthKey_inj hlt hmonth heq]
      exact hmonth'
    · exact fun hmem => List.mem_map_of_mem hmem
  constructor
  · intro hkey
    obtain ⟨entry, hentry⟩ := Option.isSome_iff_exists.mp (AList.lookup_isSome.mpr hkey)
    obtain ⟨hkept, hcases⟩ := h.entry hentry
    refine ⟨hkeep.mp hkept, ?_⟩
    rcases hcases with ⟨p, hp, hpKey, -⟩ | ⟨-, hcarried⟩
    · have hwritten : dataKey plan.deploymentId .metrics (monthKey month) ∈
          plan.pending.map (·.key) := hpKey ▸ List.mem_map_of_mem hp
      exact Or.inl ((plan.dataKey_mem_keys hmonth).mp hwritten).2
    · rw [hexisting] at hcarried
      refine Or.inr (AList.lookup_isSome.mp ?_)
      rw [hcarried]
      rfl
  · rintro ⟨hpublished, hcases⟩
    refine h.mem (hkeep.mpr hpublished) ?_
    rw [hexisting]
    exact hcases.imp_left (fun hmem => (plan.dataKey_mem_keys hmonth).mpr ⟨rfl, hmem⟩)

/-- The first date that a run publishes: no earlier than the public start date, and that of the
stored manifest if it is earlier than the range. -/
def earliestPublished (plan : Plan input existing) : String :=
  maxDate input.startOfPublic
    (minDate ((existing.map (·.earliestDate)).getD plan.range.start) plan.range.start)

/-- The last date that a run publishes: no later than the source, and that of the stored manifest if
it is later than the range. -/
def latestPublished (plan : Plan input existing) : String :=
  minDate (maxDate ((existing.map (·.latestDate)).getD plan.range.stop) plan.range.stop)
    plan.bounds.latestDate

/-- A published date stays: a month that the run writes again stays published where the date lies in
the range, and another month where the run has the deployment of the stored manifest. -/
structure StaysPublished (plan : Plan input existing) (old : Manifest) (date : String) : Prop where
  listed : monthOf (dayOf date) ∈
    Plan.publishedMonths (earliestPublished plan) (latestPublished plan)
  inRange : monthOf (dayOf date) ∈ plan.monthNumbers → isInRange date plan.range = true
  deploymentId_eq : monthOf (dayOf date) ∉ plan.monthNumbers →
    old.indexerDeploymentId = some plan.deploymentId.text

/-- The run writes a row of every date that stays published in a month that it writes. -/
theorem exists_row_of_staysPublished {plan : Plan input (storedManifest objects)}
    (hsource : SourceKeeps input objects) (hold : storedManifest objects = some old)
    (hdate : IsDate date) (hday : HasDay objects old date) (h : StaysPublished plan old date)
    (hwritten : monthOf (dayOf date) ∈ plan.monthNumbers) :
    ∃ row ∈ (plan.rows .metrics).filter
      (fun row => startsWith (Dated.date row) (monthKey (monthOf (dayOf date)))),
      Dated.date row = date := by
  obtain ⟨-, hkeeps⟩ := hsource plan.range (plan.rows .metrics) fetchRows_eq
  obtain ⟨row, hrow, hrowDate⟩ := hkeeps old hold date hdate hday (h.inRange hwritten)
  refine ⟨row, List.mem_filter.mpr ⟨hrow, ?_⟩, hrowDate⟩
  have hstarts := (startsWith_monthKey hdate.inCalendar (monthOf_lt hdate.inCalendar)).mpr rfl
  rw [hdate.dateText_dayOf] at hstarts
  rw [hrowDate]
  exact hstarts

/-- A run that has published keeps a day exactly if the date stays published. -/
theorem hasDay_iff_staysPublished {plan : Plan input (storedManifest objects)}
    (hown : StoredOwn objects) (hsource : SourceKeeps input objects)
    (hold : storedManifest objects = some old) (h : Plan.Publishes json plan manifest)
    (hclean : CleanedFrom plan.deploymentId (plan.stored manifest objects) t)
    (hdate : IsDate date) (hday : HasDay objects old date) :
    HasDay t manifest date ↔ StaysPublished plan old date := by
  obtain ⟨oldId, hownOld⟩ := hown old hold
  have hownNext : OwnShards manifest plan.deploymentId := ownShards_of_publishes h hown
  have hmonth := monthOf_lt hdate.inCalendar
  have hearliest : earliestPublished plan = manifest.earliestDate := h.earliest_eq.symm
  have hlatest : latestPublished plan = manifest.latestDate := h.latest_eq.symm
  have hlookup : t.lookup (dataKey plan.deploymentId .metrics (monthKey (monthOf (dayOf date)))) =
      (plan.stored manifest objects).lookup
        (dataKey plan.deploymentId .metrics (monthKey (monthOf (dayOf date)))) := by
    refine hclean.lookup_eq ⟨fun hstale => ?_, dataKey_ne_lockKey _ _ _, dataKey_ne_manifestKey _ _ _⟩
    have hother := hstale.2
    rw [dataKey_startsWith_deploymentPrefix] at hother
    exact nomatch hother
  obtain ⟨hinRange, -⟩ := hsource plan.range (plan.rows .metrics) fetchRows_eq
  rw [hownNext.hasDay_iff hdate, mem_publishes_iff h hold hmonth, hlookup]
  by_cases hwritten : monthOf (dayOf date) ∈ plan.monthNumbers
  · have hshard : (plan.stored manifest objects).lookup
        (dataKey plan.deploymentId .metrics (monthKey (monthOf (dayOf date)))) =
          some (.shard .metrics ((plan.rows .metrics).filter
            (fun row => startsWith (Dated.date row) (monthKey (monthOf (dayOf date)))))) :=
      plan.lookup_stored (plan.shard_mem_pending .metrics hwritten)
    constructor
    · rintro ⟨⟨hpublished, -⟩, rows, hrows, row, hrow, rfl⟩
      refine ⟨?_, fun _ => ?_, fun hunwritten => absurd hwritten hunwritten⟩
      · rw [hearliest, hlatest]
        exact hpublished
      · rw [hshard] at hrows
        obtain rfl : _ = rows := by simpa using hrows
        exact hinRange row (List.mem_filter.mp hrow).1
    · intro hstays
      have hlisted := hstays.listed
      rw [hearliest, hlatest] at hlisted
      exact ⟨⟨hlisted, Or.inl hwritten⟩, _, hshard,
        exists_row_of_staysPublished hsource hold hdate hday hstays hwritten⟩
  · have hkey : dataKey plan.deploymentId .metrics (monthKey (monthOf (dayOf date))) ∉
        plan.pending.map (·.key) := fun hmem => hwritten ((plan.dataKey_mem_keys hmonth).mp hmem).2
    rw [plan.lookup_stored_of_notMem hkey (dataKey_ne_manifestKey _ _ _)]
    obtain ⟨hmem, rows, hrows, hrow⟩ := (hownOld.hasDay_iff hdate).mp hday
    constructor
    · rintro ⟨⟨hpublished, hcases⟩, -⟩
      refine ⟨?_, fun hmonths => absurd hmonths hwritten, fun _ => ?_⟩
      · rw [hearliest, hlatest]
        exact hpublished
      · -- the stored manifest lists shards of one deployment only
        rcases hownOld.key_cases _ (hcases.resolve_left hwritten) with hschema | ⟨_, _, _, heq⟩
        · have hbelow := startsWith_schemaKey hschema
          rw [dataKey_startsWith_deploymentsPrefix] at hbelow
          exact nomatch hbelow
        · rw [(dataKey_inj heq).1]
          exact hownOld.deploymentId_eq
    · rintro ⟨hlisted, -, hid⟩
      rw [hearliest, hlatest] at hlisted
      have hsame := (hid hwritten).symm.trans hownOld.deploymentId_eq
      obtain rfl : plan.deploymentId = oldId := DeploymentId.ext (Option.some.inj hsame)
      exact ⟨⟨hlisted, Or.inr hmem⟩, rows, hrows, hrow⟩

/-- Every date with a daily metric between two dates stays published. -/
def KeepsWindow (plan : Plan input existing) (objects : Objects Row) (old : Manifest)
    (first last : String) : Prop :=
  ∀ date, IsDate date → HasDay objects old date → first ≤ date → date ≤ last →
    StaysPublished plan old date

theorem keepsDays_of_sameButLock (hown : StoredOwn objects) (hsame : SameButLock objects t) :
    KeepsDays objects t := by
  intro old next hold hnext date hdate hday _ _
  rw [hsame.storedManifest_eq, hold] at hnext
  obtain rfl := Option.some.inj hnext
  obtain ⟨deploymentId, hownOld⟩ := hown old hold
  rw [hownOld.hasDay_iff hdate] at hday ⊢
  rw [hsame _ (dataKey_ne_lockKey _ _ _)]
  exact hday

/-- A run that has not stored its manifest keeps the days of the stored one that stay published. -/
theorem keepsDays_of_writing {plan : Plan input (storedManifest objects)}
    {written rest : List (PendingArtifact Row)} (hown : StoredOwn objects)
    (hsource : SourceKeeps input objects) (hpending : plan.pending = written ++ rest)
    (hsame : SameButLock (storeAll written objects) t)
    (hwindow : ∀ old, storedManifest objects = some old →
      KeepsWindow plan objects old old.earliestDate old.latestDate) : KeepsDays objects t := by
  intro old next hold hnext date hdate hday hfirst hlast
  rw [hsame.storedManifest_eq, storedManifest_congr
    (lookup_storeAll_of_notMem (plan.manifestKey_notMem_written hpending)), hold] at hnext
  obtain rfl := Option.some.inj hnext
  have hstays := hwindow old hold date hdate hday hfirst hlast
  obtain ⟨deploymentId, hownOld⟩ := hown old hold
  have hmonth := monthOf_lt hdate.inCalendar
  obtain ⟨hmem, rows, hrows, hrow⟩ := (hownOld.hasDay_iff hdate).mp hday
  refine (hownOld.hasDay_iff hdate).mpr ⟨hmem, ?_⟩
  rw [hsame _ (dataKey_ne_lockKey _ _ _)]
  by_cases hkey : dataKey deploymentId .metrics (monthKey (monthOf (dayOf date))) ∈
      written.map (·.key)
  · obtain ⟨p, hp, hpKey⟩ := List.mem_map.mp hkey
    have hpPending : p ∈ plan.pending := by
      rw [hpending]
      exact List.mem_append_left _ hp
    have hkeyPending : dataKey deploymentId .metrics (monthKey (monthOf (dayOf date))) ∈
        plan.pending.map (·.key) := hpKey ▸ List.mem_map_of_mem hpPending
    obtain ⟨rfl, hwritten⟩ := (plan.dataKey_mem_keys hmonth).mp hkeyPending
    have hvalue : (storeAll plan.pending objects).lookup p.key = some p.value :=
      plan.lookup_storeAll hpPending
    have hshard : (storeAll plan.pending objects).lookup
        (dataKey plan.deploymentId .metrics (monthKey (monthOf (dayOf date)))) =
          some (plan.shard .metrics (monthOf (dayOf date))).value :=
      plan.lookup_storeAll (plan.shard_mem_pending .metrics hwritten)
    have hnodup := plan.nodup_keys
    rw [hpending, List.map_append] at hnodup
    have hlookup : (storeAll written objects).lookup p.key = some p.value :=
      lookup_foldl_insert_of_mem hnodup.of_append_left hp
    rw [hpKey] at hlookup hvalue
    rw [hlookup, ← hvalue, hshard]
    exact ⟨_, rfl, exists_row_of_staysPublished hsource hold hdate hday hstays hwritten⟩
  · rw [lookup_storeAll_of_notMem hkey]
    exact ⟨rows, hrows, hrow⟩

/-- What it takes for a run to keep the days: within the bounds that it publishes, every date with a
daily metric stays published. -/
def KeepsPublished (input : PublishInput Row) (objects : Objects Row) : Prop :=
  ∀ (plan : Plan input (storedManifest objects)) (old : Manifest),
    storedManifest objects = some old →
      KeepsWindow plan objects old (earliestPublished plan) (latestPublished plan)

theorem keepsDays_iff_of_published {plan : Plan input (storedManifest objects)}
    (hown : StoredOwn objects) (hsource : SourceKeeps input objects)
    (hnext : plan.next json = .ok manifest)
    (hclean : CleanedFrom plan.deploymentId (plan.stored manifest objects) t) :
    KeepsDays objects t ↔ KeepsPublished input objects := by
  have hpublishes := plan.publishes_of_next hnext
  have hstored : storedManifest t = some manifest :=
    hclean.storedManifest_eq.trans (storedManifest_eq plan.lookup_stored_manifest)
  have hearliest : earliestPublished plan = manifest.earliestDate := hpublishes.earliest_eq.symm
  have hlatest : latestPublished plan = manifest.latestDate := hpublishes.latest_eq.symm
  constructor
  · intro hkeeps plan' old hold date hdate hday hfirst hlast
    obtain rfl := plan.eq plan'
    rw [hearliest] at hfirst
    rw [hlatest] at hlast
    exact (hasDay_iff_staysPublished hown hsource hold hpublishes hclean hdate hday).mp
      (hkeeps old manifest hold hstored date hdate hday hfirst hlast)
  · intro hwindow old next hold hnextStored date hdate hday hfirst hlast
    obtain rfl := Option.some.inj (hstored.symm.trans hnextStored)
    refine (hasDay_iff_staysPublished hown hsource hold hpublishes hclean hdate hday).mpr ?_
    exact hwindow plan old hold date hdate hday (hearliest ▸ hfirst) (hlatest ▸ hlast)

/-- A run that returns keeps every published day if it skips, and otherwise exactly if every date with
a daily metric within the bounds that it publishes stays published. Wherever a run stops, it keeps the
days if those within the stored bounds stay published too. -/
theorem keepsDays_iff {runId : String} {out : Option (Except PublishError PublishResult)}
    (hhistory : History json (fun input _ => input.manifest = none) objects)
    (hmanifest : input.manifest = none) (hsource : SourceKeeps input objects)
    (hrun : Runs (Performs json) (publishMetricsArtifacts json runId input) objects out t) :
    (∀ result, out = some (.ok result) →
      if result.skipped then KeepsDays objects t
      else KeepsDays objects t ↔ KeepsPublished input objects) ∧
    (KeepsPublished input objects →
      (∀ (plan : Plan input (storedManifest objects)) (old : Manifest),
        storedManifest objects = some old →
          KeepsWindow plan objects old old.earliestDate old.latestDate) → KeepsDays objects t) := by
  have hown := storedOwn_of_history hhistory
  obtain ⟨hstate, hresult⟩ := runs_publish hrun
  rw [existingManifest_of_none hmanifest] at hstate hresult
  refine ⟨fun result hout => ?_, fun hpublished hwindow => ?_⟩
  · rcases hresult result hout with ⟨hskipped, hsame⟩ | ⟨hskipped, plan, manifest, hnext, hclean, -⟩
    · rw [hskipped, if_pos rfl]
      exact keepsDays_of_sameButLock hown hsame
    · rw [hskipped, if_neg Bool.false_ne_true]
      exact keepsDays_iff_of_published hown hsource hnext hclean
  · cases hstate with
    | unchanged hsame => exact keepsDays_of_sameButLock hown hsame
    | writing plan written rest hpending hsame =>
        exact keepsDays_of_writing hown hsource hpending hsame (hwindow plan)
    | published plan manifest hnext hclean =>
        exact (keepsDays_iff_of_published hown hsource hnext hclean).mpr hpublished

/-! ### A window that begins within a month -/

/-- The days that the source has. -/
def januaryDays : List String := ["2024-01-30", "2024-01-31"]

/-- A run on the first of February, with or without a start date. -/
def windowInput (startDate : Option String) : PublishInput DateRow where
  publicStartDate := some "2024-01-30"
  deploymentId := "d1"
  startDate := startDate
  source :=
    { fetchLatestIndexingProgress := .ok []
      fetchBounds := fun _ => .ok { earliestDate := "2024-01-30", latestDate := "2024-01-31" }
      fetchRows := fun kind range =>
        match kind with
        | .metrics => .ok (januaryDays.filter (fun date => isInRange date range))
        | .treasuryAssets | .ohmSupply => .ok [] }
  now := february 1

/-- The first run publishes both days. -/
def bothDaysStore : Objects DateRow :=
  (playRun plainSerialization "first" (windowInput none) (List.replicate 13 .done) ∅).2

/-- The second run publishes a window of them. -/
def windowRun (startDate : Option String) :
    Option (Except PublishError PublishResult) × Objects DateRow :=
  playRun plainSerialization "second" (windowInput startDate) (List.replicate 13 .done) bothDaysStore

theorem history_bothDaysStore :
    History plainSerialization (fun input _ => input.manifest = none) bothDaysStore :=
  .run "first" (windowInput none) _ .empty rfl (runs_playRun "first" _)

theorem runs_windowRun (startDate : Option String) :
    Runs (Performs plainSerialization)
      (publishMetricsArtifacts plainSerialization "second" (windowInput startDate)) bothDaysStore
      (windowRun startDate).1 (windowRun startDate).2 :=
  runs_playRun "second" _

/-- The dates of an object that holds daily metrics. -/
def metricDates (value : Artifact DateRow) : List String :=
  match value with
  | .shard .metrics dates => dates
  | _ => []

theorem mem_metricDates {value : Artifact DateRow} {date : String} :
    date ∈ metricDates value ↔ ∃ dates : List String, value = .shard .metrics dates ∧
      date ∈ dates := by
  constructor
  · intro h
    unfold metricDates at h
    split at h
    · exact ⟨_, rfl, h⟩
    · exact nomatch h
  · rintro ⟨dates, rfl, hdate⟩
    exact hdate

theorem sourceKeeps_windowInput (startDate : Option String) :
    SourceKeeps (windowInput startDate) bothDaysStore := by
  have hdays : ∀ entry ∈ bothDaysStore.entries, ∀ date ∈ metricDates entry.2,
      date ∈ januaryDays := by decide +kernel
  intro range rows hrows
  obtain rfl := Except.ok.inj hrows
  refine ⟨fun row hrow => (List.mem_filter.mp hrow).2, fun old _ date _ hday hrange => ?_⟩
  obtain ⟨-, rows, hlookup, row, hrow, rfl⟩ := hday
  have hentry := AList.mem_lookup_iff.mp (Option.mem_def.mpr hlookup)
  exact ⟨row, List.mem_filter.mpr ⟨hdays _ hentry row hrow, hrange⟩, rfl⟩

theorem keepsDays_iff_refresh : KeepsDays bothDaysStore (windowRun none).2 ↔
    KeepsPublished (windowInput none) bothDaysStore := by
  obtain ⟨result, hout, hskipped⟩ := exists_of_completes
    (show completes (windowRun none).1 = true by decide +kernel)
  have hkeeps := (keepsDays_iff history_bothDaysStore rfl (sourceKeeps_windowInput none)
    (runs_windowRun none)).1 result hout
  rw [hskipped, if_neg Bool.false_ne_true] at hkeeps
  exact hkeeps

/-- Whether the stored manifest publishes a date, and whether it has a daily metric of it. -/
def publishedDay (objects : Objects DateRow) (date : String) : Bool × Bool :=
  match storedManifest objects with
  | none => (false, false)
  | some manifest =>
      let key := artifactKeyForMonth manifest .metrics (monthOfDate date)
      (decide (manifest.earliestDate ≤ date ∧ date ≤ manifest.latestDate),
        decide (key ∈ manifest.artifacts ∧ date ∈ (objects.lookup key).elim [] metricDates))

theorem hasDay_iff_publishedDay {objects : Objects DateRow} {manifest : Manifest} {date : String}
    (h : storedManifest objects = some manifest) :
    HasDay objects manifest date ↔ (publishedDay objects date).2 = true := by
  unfold publishedDay HasDay
  rw [h]
  simp only [decide_eq_true_eq]
  refine and_congr_right (fun _ => ?_)
  cases objects.lookup (artifactKeyForMonth manifest .metrics (monthOfDate date)) with
  | none => simp
  | some value =>
      simp only [Option.some.injEq, Option.elim_some]
      rw [mem_metricDates]
      constructor
      · rintro ⟨dates, rfl, row, hrow, rfl⟩
        exact ⟨dates, rfl, hrow⟩
      · rintro ⟨dates, rfl, hdate⟩
        exact ⟨dates, rfl, date, hdate, rfl⟩

theorem keepsDays_publishedDay {objects t : Objects DateRow} {date : String} (hdate : IsDate date)
    (h : KeepsDays objects t) (hbefore : (publishedDay objects date).2 = true)
    (hafter : (publishedDay t date).1 = true) : (publishedDay t date).2 = true := by
  cases hold : storedManifest objects with
  | none =>
      simp only [publishedDay, hold] at hbefore
      exact nomatch hbefore
  | some old =>
      cases hnext : storedManifest t with
      | none =>
          simp only [publishedDay, hnext] at hafter
          exact nomatch hafter
      | some next =>
          rw [← hasDay_iff_publishedDay hold] at hbefore
          rw [← hasDay_iff_publishedDay hnext]
          simp only [publishedDay, hnext, decide_eq_true_eq] at hafter
          exact h old next hold hnext date hdate hbefore hafter.1 hafter.2

/-- A source whose bounds have not shrunk below those of the stored manifest. -/
def BoundsKeep (input : PublishInput Row) (objects : Objects Row) : Prop :=
  ∀ completeness bounds, input.source.fetchBounds completeness = .ok bounds →
    ∀ old, storedManifest objects = some old →
      bounds.earliestDate ≤ old.earliestDate ∧ old.latestDate ≤ bounds.latestDate

/-- A window from the last day of January on drops the day before from the shard of the month, and the
manifest still publishes it. -/
theorem window_within_month_drops_day : ∃ objects objects' runId input result,
    History plainSerialization (fun input _ => input.manifest = none) objects ∧
      Runs (Performs plainSerialization) (publishMetricsArtifacts plainSerialization runId input)
        objects (some (.ok result)) objects' ∧
      input.manifest = none ∧ SourceKeeps input objects ∧ BoundsKeep input objects ∧
      result.skipped = false ∧ ¬ KeepsDays objects objects' := by
  have hcheck : completes (windowRun (some "2024-01-31")).1 = true ∧
      publishedDay bothDaysStore "2024-01-30" = (true, true) ∧
      publishedDay (windowRun (some "2024-01-31")).2 "2024-01-30" = (true, false) ∧
      (storedManifest bothDaysStore).map (fun old => (old.earliestDate, old.latestDate)) =
        some ("2024-01-30", "2024-01-31") := by decide +kernel
  obtain ⟨hcompletes, hbefore, hafter, hbounds⟩ := hcheck
  obtain ⟨result, hout, hskipped⟩ := exists_of_completes hcompletes
  have hrun := runs_windowRun (some "2024-01-31")
  rw [hout] at hrun
  refine ⟨bothDaysStore, _, "second", windowInput (some "2024-01-31"), result,
    history_bothDaysStore, hrun, rfl, sourceKeeps_windowInput _, ?_, hskipped, fun hkeeps => ?_⟩
  · intro completeness bounds hsource old hold
    obtain rfl := Except.ok.inj hsource
    rw [hold] at hbounds
    obtain ⟨hearliest, hlatest⟩ := Prod.mk.inj (Option.some.inj hbounds)
    rw [hearliest, hlatest]
    exact ⟨le_refl _, le_refl _⟩
  · have hkept := keepsDays_publishedDay ⟨⟨2024, 1, 30⟩, by rfl⟩ hkeeps
      (congrArg Prod.snd hbefore) (congrArg Prod.fst hafter)
    rw [hafter] at hkept
    exact nomatch hkept

end OlympusMetrics.Api
