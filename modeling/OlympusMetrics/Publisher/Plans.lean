import OlympusMetrics.Publisher.RunEffects
import OlympusMetrics.Publisher.ShardKeys

/-!
What the plan of a run puts into the store and into the manifest.
-/

namespace OlympusMetrics.Publisher

open SortedRows

/-! ### Records -/

section records

variable {V α : Type} {keyOf : α → String} {value : α → V} {key : String}

theorem lookup_foldl_insert_of_notMem {xs : List α} {table : AList (fun _ : String => V)}
    (h : key ∉ xs.map keyOf) :
    (xs.foldl (fun table x => table.insert (keyOf x) (value x)) table).lookup key =
      table.lookup key := by
  induction xs generalizing table with
  | nil => rfl
  | cons x xs ih =>
      simp only [List.map_cons, List.mem_cons, not_or] at h
      rw [List.foldl_cons, ih h.2]
      exact AList.lookup_insert_ne h.1

/-- Where the keys differ, every written value stays. -/
theorem lookup_foldl_insert_of_mem {xs : List α} {table : AList (fun _ : String => V)}
    (hnodup : (xs.map keyOf).Nodup) {x : α} (hx : x ∈ xs) :
    (xs.foldl (fun table x => table.insert (keyOf x) (value x)) table).lookup (keyOf x) =
      some (value x) := by
  induction xs generalizing table with
  | nil => simp at hx
  | cons y xs ih =>
      simp only [List.map_cons, List.nodup_cons] at hnodup
      rcases List.mem_cons.mp hx with rfl | hx
      · rw [List.foldl_cons, lookup_foldl_insert_of_notMem hnodup.1]
        exact AList.lookup_insert table
      · exact ih hnodup.2 hx

theorem lookup_filterKeys (keep : String → Bool) (record : JsonRecord V) (key : String) :
    (filterKeys keep record).lookup key = if keep key then record.lookup key else none := by
  obtain ⟨entries, hnodup⟩ := record
  show (entries.filter (fun entry => keep entry.1)).dlookup key =
    if keep key then entries.dlookup key else none
  clear hnodup
  induction entries with
  | nil => simp
  | cons entry entries ih =>
      obtain ⟨other, x⟩ := entry
      by_cases hkey : other = key
      · subst hkey
        cases hkeep : keep other with
        | true => simp [hkeep]
        | false =>
            simp only [hkeep] at ih
            simp [hkeep, ih]
      · have hcons (rest : List (Sigma (fun _ : String => V))) :
            List.dlookup key (⟨other, x⟩ :: rest) = List.dlookup key rest :=
          List.dlookup_cons_ne rest ⟨other, x⟩ (Ne.symm hkey)
        cases hkeep : keep other with
        | true => simp [hkeep, hcons, ih]
        | false => simp [hkeep, hcons, ih]

theorem lookup_filterKeys_filterKeys (keep keep' : String → Bool) (record : JsonRecord V)
    (key : String) : (filterKeys keep (filterKeys keep' record)).lookup key =
      if keep key && keep' key then record.lookup key else none := by
  rw [lookup_filterKeys, lookup_filterKeys]
  cases keep key <;> rfl

end records

/-! ### The artifacts of a plan -/

section plan

variable {Row : ArtifactKind → Type} [∀ kind, Dated (Row kind)] {json : Serialization Row}
  {input : PublishInput Row} {existing : Option Manifest} {objects : Objects Row}
  {manifest : Manifest}

namespace Plan

/-- The months that the run writes. -/
def monthNumbers (plan : Plan input existing) : List ℕ :=
  between (utcMonth (ofDayNumber (dayOf plan.range.start)))
    (utcMonth (ofDayNumber (dayOf plan.range.stop)))

variable (plan : Plan input existing)

omit [∀ kind, Dated (Row kind)] in
theorem isDate_range : IsDate plan.range.start ∧ IsDate plan.range.stop :=
  isDate_of_monthKeysForRange plan.months_eq

omit [∀ kind, Dated (Row kind)] in
theorem months_eq_map : plan.months = plan.monthNumbers.map monthKey := by
  obtain ⟨hstart, hstop⟩ := plan.isDate_range
  exact Except.ok.inj (plan.months_eq.symm.trans (monthKeysForRange_eq hstart hstop))

omit [∀ kind, Dated (Row kind)] in
theorem lt_of_mem_monthNumbers {month : ℕ} (h : month ∈ plan.monthNumbers) : month < 120000 :=
  (mem_between.mp h).2.trans_lt (utcMonth_lt plan.isDate_range.2.inCalendar)

/-- The shard that the run writes for a month. -/
def shard (kind : ArtifactKind) (month : ℕ) : PendingArtifact Row :=
  let monthRows := (plan.rows kind).filter (fun row => startsWith (Dated.date row) (monthKey month))
  { key := dataKey plan.deploymentId kind (monthKey month)
    value := .shard kind monthRows
    rowCount := monthRows.length }

theorem pending_eq : plan.pending = schemaArtifacts ++ plan.monthNumbers.flatMap (fun month =>
    ArtifactKind.all.map (fun kind => plan.shard kind month)) := by
  unfold pending shardArtifacts
  rw [plan.months_eq_map, List.flatMap_map]
  rfl

theorem shard_mem_pending (kind : ArtifactKind) {month : ℕ} (h : month ∈ plan.monthNumbers) :
    plan.shard kind month ∈ plan.pending := by
  have hkind : kind ∈ ArtifactKind.all := by
    cases kind <;> decide
  rw [plan.pending_eq]
  exact List.mem_append_right _ (List.mem_flatMap.mpr
    ⟨month, h, List.mem_map.mpr ⟨kind, hkind, rfl⟩⟩)

theorem mem_pending {p : PendingArtifact Row} (h : p ∈ plan.pending) :
    (p.key ∈ schemaKeys ∧ p.value = .schema p.key ∧ p.rowCount = 0) ∨
      ∃ kind, ∃ month ∈ plan.monthNumbers, p = plan.shard kind month := by
  rw [plan.pending_eq] at h
  rcases List.mem_append.mp h with h | h
  · obtain ⟨key, hkey, rfl⟩ := List.mem_map.mp h
    exact Or.inl ⟨hkey, rfl, rfl⟩
  · obtain ⟨month, hmonth, h⟩ := List.mem_flatMap.mp h
    obtain ⟨kind, -, rfl⟩ := List.mem_map.mp h
    exact Or.inr ⟨kind, month, hmonth, rfl⟩

theorem nodup_keys : (plan.pending.map (·.key)).Nodup := by
  have hschemas : (schemaArtifacts : List (PendingArtifact Row)).map (·.key) = schemaKeys := by
    simp [schemaArtifacts, Function.comp_def]
  rw [plan.pending_eq, List.map_append, hschemas, List.map_flatMap]
  refine List.nodup_append.mpr ⟨by decide, ?_, ?_⟩
  · refine List.nodup_flatMap.mpr ⟨fun month _ => ?_, ?_⟩
    · rw [List.map_map]
      refine List.Nodup.map (fun kind kind' h => (dataKey_inj h).2.1) (by decide)
    · refine List.Pairwise.imp_of_mem (fun {month month'} hmonth hmonth' hne => ?_)
        (nodup_between _ _)
      intro key hkey hkey'
      simp only [List.mem_map, exists_exists_and_eq_and] at hkey hkey'
      obtain ⟨kind, -, rfl⟩ := hkey
      obtain ⟨kind', -, heq⟩ := hkey'
      exact hne (monthKey_inj (plan.lt_of_mem_monthNumbers hmonth)
        (plan.lt_of_mem_monthNumbers hmonth') (dataKey_inj heq).2.2.symm)
  · intro key hkey other hother heq
    subst heq
    simp only [List.mem_flatMap, List.mem_map, exists_exists_and_eq_and] at hother
    obtain ⟨month, -, kind, -, rfl⟩ := hother
    have habove := startsWith_schemaKey hkey
    rw [shard, dataKey_startsWith_deploymentsPrefix] at habove
    exact nomatch habove

/-! ### The store and the entries after the writes -/

theorem lookup_storeAll {p : PendingArtifact Row} (h : p ∈ plan.pending) :
    (storeAll plan.pending objects).lookup p.key = some p.value :=
  lookup_foldl_insert_of_mem plan.nodup_keys h

theorem lookup_storeAll_of_notMem {key : String} (h : key ∉ plan.pending.map (·.key)) :
    (storeAll plan.pending objects).lookup key = objects.lookup key :=
  lookup_foldl_insert_of_notMem h

theorem lookup_gather {p : PendingArtifact Row} (h : p ∈ plan.pending)
    (artifacts : JsonRecord ArtifactEntry) :
    (gather json plan.pending artifacts).lookup p.key =
      some (json.artifactEntry p.value p.rowCount) :=
  lookup_foldl_insert_of_mem plan.nodup_keys h

theorem lookup_gather_of_notMem {key : String} (h : key ∉ plan.pending.map (·.key))
    (artifacts : JsonRecord ArtifactEntry) :
    (gather json plan.pending artifacts).lookup key = artifacts.lookup key :=
  lookup_foldl_insert_of_notMem h

/-- The run writes the shards of its own months only. -/
theorem dataKey_mem_keys {deploymentId : DeploymentId} {kind : ArtifactKind} {month : ℕ}
    (hmonth : month < 120000) :
    dataKey deploymentId kind (monthKey month) ∈ plan.pending.map (·.key) ↔
      deploymentId = plan.deploymentId ∧ month ∈ plan.monthNumbers := by
  constructor
  · intro h
    obtain ⟨p, hp, hkey⟩ := List.mem_map.mp h
    rcases plan.mem_pending hp with ⟨hschema, -⟩ | ⟨kind', month', hmonth', rfl⟩
    · have habove := startsWith_schemaKey hschema
      rw [hkey, dataKey_startsWith_deploymentsPrefix] at habove
      exact nomatch habove
    · obtain ⟨hid, -, hmonths⟩ := dataKey_inj hkey
      obtain rfl := monthKey_inj (plan.lt_of_mem_monthNumbers hmonth') hmonth hmonths
      exact ⟨hid.symm, hmonth'⟩
  · rintro ⟨rfl, hmem⟩
    exact List.mem_map.mpr ⟨_, plan.shard_mem_pending kind hmem, rfl⟩

theorem manifestKey_notMem_keys : manifestKey ∉ plan.pending.map (·.key) := by
  intro h
  obtain ⟨p, hp, hkey⟩ := List.mem_map.mp h
  exact (mem_pendingArtifacts hp).2 hkey

theorem lookup_stored_manifest :
    (plan.stored manifest objects).lookup manifestKey = some (.manifest manifest) :=
  AList.lookup_insert _

theorem lookup_stored {p : PendingArtifact Row} (h : p ∈ plan.pending) :
    (plan.stored manifest objects).lookup p.key = some p.value := by
  have hne : p.key ≠ manifestKey := (mem_pendingArtifacts h).2
  unfold stored
  rw [AList.lookup_insert_ne hne, plan.lookup_storeAll h]

theorem lookup_stored_of_notMem {key : String} (h : key ∉ plan.pending.map (·.key))
    (hmanifest : key ≠ manifestKey) :
    (plan.stored manifest objects).lookup key = objects.lookup key := by
  unfold stored
  rw [AList.lookup_insert_ne hmanifest, plan.lookup_storeAll_of_notMem h]

/-! ### The manifest -/

/-- The months of the published bounds. -/
def publishedMonths (earliestDate latestDate : String) : List ℕ :=
  between (utcMonth (ofDayNumber (dayOf earliestDate))) (utcMonth (ofDayNumber (dayOf latestDate)))

/-- Whether a manifest with these bounds keeps the entry of a key. -/
def keepsEntry (deploymentId : DeploymentId) (earliestDate latestDate key : String) : Bool :=
  (match dataArtifactMonth key with
    | none => true
    | some month => ((publishedMonths earliestDate latestDate).map monthKey).contains month) &&
  (!startsWith key deploymentsPrefix || startsWith key (deploymentPrefix deploymentId))

/-- What a run puts into its manifest. -/
structure Publishes (json : Serialization Row) (plan : Plan input existing) (manifest : Manifest) :
    Prop where
  isDate_earliest : IsDate manifest.earliestDate
  isDate_latest : IsDate manifest.latestDate
  deploymentId_eq : manifest.indexerDeploymentId = some plan.deploymentId.text
  earliest_eq : manifest.earliestDate = maxDate input.startOfPublic
    (minDate ((existing.map (·.earliestDate)).getD plan.range.start) plan.range.start)
  latest_eq : manifest.latestDate = minDate
    (maxDate ((existing.map (·.latestDate)).getD plan.range.stop) plan.range.stop)
    plan.bounds.latestDate
  lookup_eq : ∀ key, manifest.artifacts.lookup key =
    if keepsEntry plan.deploymentId manifest.earliestDate manifest.latestDate key then
      (gather json plan.pending (existingArtifacts existing)).lookup key
    else none

theorem publishes_of_next (h : plan.next json = .ok manifest) : Publishes json plan manifest := by
  unfold next nextManifest at h
  obtain ⟨pruned, hpruned, hmanifest⟩ := exists_of_bind_eq_ok h
  obtain ⟨months, hmonths, hfilter⟩ := exists_of_bind_eq_ok (orError_eq_ok hpruned)
  obtain ⟨hearliest, hlatest⟩ := isDate_of_monthKeysForRange hmonths
  rw [monthKeysForRange_eq hearliest hlatest] at hmonths
  obtain rfl := Except.ok.inj hmonths
  obtain rfl := Except.ok.inj hfilter
  obtain rfl := Except.ok.inj hmanifest
  refine ⟨hearliest, hlatest, rfl, rfl, rfl, fun key => ?_⟩
  exact lookup_filterKeys_filterKeys _ _ _ key

end Plan

end plan

end OlympusMetrics.Publisher
