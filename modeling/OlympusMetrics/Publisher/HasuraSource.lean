import OlympusMetrics.Indexer.SnapshotStore
import OlympusMetrics.Publisher.DailyMetrics
import OlympusMetrics.Publisher.MetricsSource
import OlympusMetrics.Publisher.Publish

/-!
The metrics source of the publisher over the tables of the indexer, while these
are at rest.
-/

namespace OlympusMetrics.Publisher

open MetricsSource

variable {N V : Type}

/-! ### Rows of a range -/

/-- A table as its rows are queried, by date and id. -/
def sourceTable {id : V → String} (date : V → String) (table : EntityTable id) :
    SourceTable String String V where
  rows := table.rows.map (fun v => ⟨date v, id v, v⟩)
  nodup_ids := by
    rw [List.map_map]
    exact table.nodup_ids

/-- The rows of a range, ordered by date and id. -/
def rowsOfRange {id : V → String} (date : V → String) (table : EntityTable id) (start stop : String) :
    List V :=
  (selectRange start stop (sourceTable date table)).map SourceRow.fields

/-- A read of a table at rest. -/
def readAtRest {id : V → String} (date : V → String) (table : EntityTable id) (start stop : String)
    {pageSize : ℕ} (h : 1 ≤ pageSize) : PagedRead String String V where
  pageSize := pageSize
  start := start
  stop := stop
  initial := sourceTable date table
  changes := fun _ => []
  pageSize_pos := h

section

variable {id : V → String} {date : V → String} {table : EntityTable id} {start stop : String}

theorem mem_rowsOfRange {v : V} : v ∈ rowsOfRange date table start stop ↔
    v ∈ table.rows ∧ start ≤ date v ∧ date v ≤ stop := by
  simp only [rowsOfRange, List.mem_map, mem_selectRange, sourceTable]
  constructor
  · rintro ⟨_, ⟨⟨w, hw, rfl⟩, hstart, hstop⟩, rfl⟩
    exact ⟨hw, hstart, hstop⟩
  · rintro ⟨hv, hstart, hstop⟩
    exact ⟨_, ⟨⟨v, hv, rfl⟩, hstart, hstop⟩, rfl⟩

/-- The rows are sorted by date, and by id within a date. -/
theorem sorted_rowsOfRange : (rowsOfRange date table start stop).Pairwise
    (fun v w => (toLex (date v, id v) : String ×ₗ String) < toLex (date w, id w)) := by
  have hkeys : (rowsOfRange date table start stop).map
      (fun v => (toLex (date v, id v) : String ×ₗ String)) =
        (selectRange start stop (sourceTable date table)).map SourceRow.key := by
    rw [rowsOfRange, List.map_map]
    apply List.map_congr_left
    intro row hrow
    obtain ⟨v, -, rfl⟩ := List.mem_map.mp (mem_selectRange.mp hrow).1
    rfl
  rw [← List.pairwise_map (f := fun v => (toLex (date v, id v) : String ×ₗ String)), hkeys]
  exact sorted_selectRange

theorem sortedDates_rowsOfRange :
    (rowsOfRange date table start stop).Pairwise (fun v w => date v ≤ date w) := by
  refine sorted_rowsOfRange.imp (fun {v w} h => ?_)
  rcases (Prod.Lex.lt_iff.mp h) with hlt | ⟨heq, -⟩
  · exact hlt.le
  · exact heq.le

theorem nodup_rowsOfRange : (rowsOfRange date table start stop).Nodup :=
  sorted_rowsOfRange.imp (fun {v w} h heq => by
    subst heq
    exact lt_irrefl _ h)

end

/-! ### Normalizing records -/

section

variable [Zero N] [Add N] (toNumber : BigNumber → N)

/-- The asset of a record, once its chain is named. -/
def treasuryAssetOf (chain : ChainId) (row : SerializedTokenRecord) : Api.TreasuryAsset N where
  id := row.id
  balance := toNumber row.balance
  block := toNumber (.ofInt row.block)
  blockchain := Api.chainName chain
  category := row.category
  date := row.date
  isBluechip := row.isBluechip
  isLiquid := row.isLiquid
  multiplier := toNumber row.multiplier
  rate := toNumber row.rate
  source := row.source
  sourceAddress := row.sourceAddress
  timestamp := toNumber (.ofInt row.timestamp)
  token := row.token
  tokenAddress := row.tokenAddress
  value := toNumber row.value
  valueExcludingOhm := toNumber row.valueExcludingOhm

/-- `normalizeTreasuryAsset`. -/
def normalizeTreasuryAsset (row : SerializedTokenRecord) : Except String (Api.TreasuryAsset N) := do
  let chain ← chainNamed row.blockchain
  return treasuryAssetOf toNumber chain row

/-- The supply of a row, once its chain is named. -/
def ohmSupplyOf (chain : ChainId) (row : SerializedTokenSupply) : Api.OhmSupply N where
  id := row.id
  balance := toNumber row.balance
  block := toNumber (.ofInt row.block)
  blockchain := Api.chainName chain
  date := row.date
  pool := row.pool
  poolAddress := row.poolAddress
  source := row.source.getD ""
  sourceAddress := row.sourceAddress.getD ""
  supplyBalance := toNumber row.supplyBalance
  timestamp := toNumber (.ofInt row.timestamp)
  token := row.token
  tokenAddress := row.tokenAddress
  type := row.type

/-- `normalizeOhmSupply`. -/
def normalizeOhmSupply (row : SerializedTokenSupply) : Except String (Api.OhmSupply N) := do
  let chain ← chainNamed row.blockchain
  return ohmSupplyOf toNumber chain row

/-! ### The source -/

/-- The date row with its relations in the order in which they are stored. -/
def rawDailyMetric (store : RollupStore) (snapshot : GlobalMetricSnapshot) : RawDailyMetric where
  snapshot := snapshot
  chainValues := store.chainMetricValues.rows.filter (fun row => row.snapshotId = snapshot.id)
  supplyCategories :=
    store.chainSupplyCategory.rows.filter (fun row => row.snapshotId = snapshot.id)

variable (store : IndexerStore)

/-- `fetchDailyMetrics`. -/
def fetchDailyMetrics (range : DateRange) : Except String (List (Api.DailyMetric N)) :=
  (rowsOfRange (·.date) store.rollup.globalMetricSnapshot range.start range.stop).mapM
    (fun snapshot => normalizeDailyMetric toNumber (rawDailyMetric store.rollup snapshot))

/-- `fetchTreasuryAssets`. -/
def fetchTreasuryAssets (range : DateRange) : Except String (List (Api.TreasuryAsset N)) :=
  (rowsOfRange (·.date) store.tokenRecord range.start range.stop).mapM
    (normalizeTreasuryAsset toNumber)

/-- `fetchOhmSupply`. -/
def fetchOhmSupply (range : DateRange) : Except String (List (Api.OhmSupply N)) :=
  (rowsOfRange (·.date) store.tokenSupply range.start range.stop).mapM (normalizeOhmSupply toNumber)

/-- The filter of the bounds query. -/
def meetsCompleteness (completeness : PublishBoundsCompleteness) (row : GlobalMetricSnapshot) :
    Bool :=
  match completeness with
  | .crossChain => row.crossChainComplete
  | .allChains => Api.chainNames.all (fun chain => row.chainsIndexed.contains chain)

/-- The dates that the bounds query selects from. -/
def completeDates (completeness : PublishBoundsCompleteness) : List String :=
  (store.rollup.globalMetricSnapshot.rows.filter (meetsCompleteness completeness)).map (·.date)

/-- `fetchBounds`: the first of the dates in ascending and in descending order. -/
def fetchBounds (completeness : PublishBoundsCompleteness) : Except PublishError MetricsBounds :=
  let dates := completeDates store completeness
  match (dates.insertionSort (· ≤ ·)).head?, (dates.insertionSort (· ≥ ·)).head? with
  | some earliestDate, some latestDate => .ok ⟨earliestDate, latestDate⟩
  | _, _ => .error .metricsNotDataReady

/-- The chain row with the latest timestamp. -/
def latestChainRow (chain : ChainId) : Option ChainMetricValues :=
  ((store.rollup.chainMetricValues.rows.filter (fun row => row.chainId = chain)).insertionSort
    (fun a b => b.timestamp ≤ a.timestamp)).head?

/-- `fetchLatestIndexingProgress`. -/
def fetchLatestIndexingProgress : IndexingProgress :=
  Api.chainNames.filterMap (fun chain =>
    (latestChainRow store chain).map (fun row =>
      (Api.chainName chain,
        { block := row.block, date := row.date, timestamp := row.timestamp })))

/-- `HasuraGraphqlMetricsSource`. -/
def hasuraSource : MetricsSource (Api.MetricRow N) where
  fetchLatestIndexingProgress := .ok (fetchLatestIndexingProgress store)
  fetchBounds := fetchBounds store
  fetchRows := fun kind range =>
    match kind with
    | .metrics => orError (fetchDailyMetrics toNumber store range)
    | .treasuryAssets => orError (fetchTreasuryAssets toNumber store range)
    | .ohmSupply => orError (fetchOhmSupply toNumber store range)

end

/-! ### The bounds -/

/-- The chains that a complete date needs. -/
def requiredChains : PublishBoundsCompleteness → List ChainId
  | .crossChain => [.ethereum, .arbitrum]
  | .allChains => Api.chainNames

/-- Every required chain has a snapshot with rows of the date. -/
def CompleteDate (es : List RollupEvent) (completeness : PublishBoundsCompleteness)
    (date : String) : Prop :=
  ∀ chain ∈ requiredChains completeness, (latestSnapshot es chain date).isSome

section

variable {compound : BigNumber → BigNumber} {es : List RollupEvent} {store : IndexerStore}

theorem rawDailyMetric_readsFrom {store : RollupStore} {snapshot : GlobalMetricSnapshot}
    (h : snapshot ∈ store.globalMetricSnapshot.rows) :
    (rawDailyMetric store snapshot).ReadsFrom store where
  snapshot := EntityTable.get_eq_some_iff.mpr ⟨h, rfl⟩
  chainValues := List.Perm.refl _
  supplyCategories := List.Perm.refl _

theorem mem_chainsIndexed_iff_latest (run : RollupRun compound es store.rollup)
    {row : GlobalMetricSnapshot} (h : row ∈ store.rollup.globalMetricSnapshot.rows)
    (chain : ChainId) : chain ∈ row.chainsIndexed ↔ (latestSnapshot es chain row.id).isSome := by
  have hinj : Function.Injective ChainId.number := fun _ _ => ChainId.number_injective
  rw [← mem_chainsIndexed_iff run (EntityTable.get_eq_some_iff.mpr ⟨h, rfl⟩) chain,
    List.mem_map_of_injective hinj]

/-- The complete dates are those that the bounds query selects from. -/
theorem mem_completeDates_iff (run : RollupRun compound es store.rollup)
    (completeness : PublishBoundsCompleteness) (date : String) :
    date ∈ completeDates store completeness ↔ CompleteDate es completeness date := by
  have inv := rollupInvariant_of_run run
  have hmeets {row : GlobalMetricSnapshot} (h : row ∈ store.rollup.globalMetricSnapshot.rows) :
      meetsCompleteness completeness row = true ↔ CompleteDate es completeness row.id := by
    have hindexed := mem_chainsIndexed_iff_latest run h
    have hget := EntityTable.get_eq_some_iff.mpr ⟨h, rfl⟩
    cases completeness with
    | crossChain =>
        have hcomplete := (inv.chains row.id row hget).complete
        rw [hindexed, hindexed] at hcomplete
        simpa [meetsCompleteness, CompleteDate, requiredChains] using hcomplete
    | allChains =>
        simp only [meetsCompleteness, List.all_eq_true, List.contains_iff_mem, hindexed]
        rfl
  have hid {row : GlobalMetricSnapshot} (h : row ∈ store.rollup.globalMetricSnapshot.rows) :
      row.date = row.id := by
    obtain ⟨before, s, -, heq⟩ := dateRow_of_run run (EntityTable.get_eq_some_iff.mpr ⟨h, rfl⟩)
    rw [heq]
    rfl
  simp only [completeDates, List.mem_map, List.mem_filter]
  constructor
  · rintro ⟨row, ⟨hrow, hmeet⟩, rfl⟩
    rw [hid hrow]
    exact (hmeets hrow).mp hmeet
  · intro hdate
    obtain ⟨chain, hchain⟩ : ∃ chain, chain ∈ requiredChains completeness := by
      cases completeness with
      | crossChain => exact ⟨.ethereum, by decide⟩
      | allChains => exact ⟨.ethereum, by decide⟩
    obtain ⟨s, hs⟩ := Option.isSome_iff_exists.mp (hdate chain hchain)
    obtain ⟨row, hget⟩ := inv.written date chain s hs
    obtain ⟨hrow, rfl⟩ := EntityTable.get_eq_some_iff.mp hget
    exact ⟨row, ⟨hrow, (hmeets hrow).mpr hdate⟩, hid hrow⟩

/-- The first element of a sorted list bounds all of them. -/
theorem head_insertionSort {α : Type} {r : α → α → Prop} [DecidableRel r] [Std.Total r]
    [IsTrans α r] {items : List α} {first : α} (h : (items.insertionSort r).head? = some first) :
    first ∈ items ∧ ∀ item ∈ items, r first item := by
  obtain ⟨rest, hrest⟩ := List.head?_eq_some_iff.mp h
  have hmem (item : α) : item ∈ first :: rest ↔ item ∈ items := by
    rw [← hrest]
    exact List.mem_insertionSort r
  have hsorted := List.pairwise_insertionSort r items
  rw [hrest, List.pairwise_cons] at hsorted
  refine ⟨(hmem first).mp List.mem_cons_self, fun item hitem => ?_⟩
  rcases List.mem_cons.mp ((hmem item).mpr hitem) with rfl | hrest
  · exact (Std.Total.total (r := r) item item).elim id id
  · exact hsorted.1 item hrest

theorem eq_nil_of_head_insertionSort {α : Type} {r : α → α → Prop} [DecidableRel r]
    {items : List α} (h : (items.insertionSort r).head? = none) : items = [] := by
  have hperm := List.perm_insertionSort r items
  rw [List.head?_eq_none_iff.mp h] at hperm
  exact hperm.symm.eq_nil

/-- The bounds are the first and the last of the complete dates, and they are only refused when
there is none. -/
theorem fetchBounds_of_run (run : RollupRun compound es store.rollup)
    (completeness : PublishBoundsCompleteness) :
    (∀ bounds, fetchBounds store completeness = .ok bounds →
      CompleteDate es completeness bounds.earliestDate ∧
        CompleteDate es completeness bounds.latestDate ∧
        ∀ date, CompleteDate es completeness date →
          bounds.earliestDate ≤ date ∧ date ≤ bounds.latestDate) ∧
      ∀ error, fetchBounds store completeness = .error error →
        error = .metricsNotDataReady ∧ ∀ date, ¬CompleteDate es completeness date := by
  have hmem := mem_completeDates_iff run completeness
  rw [fetchBounds]
  cases hfirst : ((completeDates store completeness).insertionSort (· ≤ ·)).head? with
  | none =>
      have hempty := eq_nil_of_head_insertionSort hfirst
      refine ⟨fun bounds h => (by cases h), fun error h => ⟨(Except.error.inj h).symm, ?_⟩⟩
      intro date hdate
      rw [← hmem, hempty] at hdate
      cases hdate
  | some earliestDate =>
      obtain ⟨hearliest, hle⟩ := head_insertionSort hfirst
      cases hlast : ((completeDates store completeness).insertionSort (· ≥ ·)).head? with
      | none =>
          rw [eq_nil_of_head_insertionSort hlast] at hearliest
          cases hearliest
      | some latestDate =>
          obtain ⟨hlatest, hge⟩ := head_insertionSort hlast
          refine ⟨fun bounds h => ?_, fun error h => (by cases h)⟩
          obtain rfl := Except.ok.inj h
          refine ⟨(hmem _).mp hearliest, (hmem _).mp hlatest, fun date hdate => ?_⟩
          have hin := (hmem date).mpr hdate
          exact ⟨hle date hin, hge date hin⟩

theorem nodup_chainNames : Api.chainNames.Nodup := by decide

/-- The bounds of a day with a snapshot of every chain. -/
theorem fetchBounds_dayRun :
    (∀ bounds, fetchBounds (dayRun Api.chainNames).2 .allChains = .ok bounds →
      CompleteDate (dayRun Api.chainNames).1 .allChains bounds.earliestDate ∧
        CompleteDate (dayRun Api.chainNames).1 .allChains bounds.latestDate ∧
        ∀ date, CompleteDate (dayRun Api.chainNames).1 .allChains date →
          bounds.earliestDate ≤ date ∧ date ≤ bounds.latestDate) ∧
      ∀ error, fetchBounds (dayRun Api.chainNames).2 .allChains = .error error →
        error = .metricsNotDataReady ∧
          ∀ date, ¬CompleteDate (dayRun Api.chainNames).1 .allChains date :=
  fetchBounds_of_run (indexerRun_dayRun nodup_chainNames).rollupRun .allChains

/-! ### The indexing progress -/

/-- The last snapshot of a chain that produced rows. -/
def lastIndexed (es : List RollupEvent) (chain : ChainId) : Option Snapshot :=
  (es.filterMap (fun e =>
    match e with
    | .snapshot s => if s.chain = chain ∧ s.date.isSome then some s else none
    | .logRebase .. => none)).getLast?

theorem lastIndexed_append_snapshot (es : List RollupEvent) (s : Snapshot) (chain : ChainId) :
    lastIndexed (es ++ [.snapshot s]) chain =
      if s.chain = chain ∧ s.date.isSome then some s else lastIndexed es chain := by
  by_cases h : s.chain = chain ∧ s.date.isSome
  · simp [lastIndexed, List.filterMap_append, h]
  · simp [lastIndexed, List.filterMap_append, h]

theorem lastIndexed_append_logRebase (es : List RollupEvent) (chain : ChainId)
    (chainId srcAddress index epoch block timestamp) :
    lastIndexed (es ++ [.logRebase chainId srcAddress index epoch block timestamp]) chain =
      lastIndexed es chain := by
  simp [lastIndexed, List.filterMap_append]

/-- The last snapshot of a chain is the latest of its date, and no snapshot of the chain with
rows has a later timestamp. -/
structure IsLastIndexed (es : List RollupEvent) (chain : ChainId) (s : Snapshot) : Prop where
  latest : latestSnapshot es chain (isoDate s.timestamp) = some s
  last : ∀ date s', latestSnapshot es chain date = some s' →
    date = isoDate s'.timestamp ∧ s'.timestamp ≤ s.timestamp

theorem isLastIndexed_of_run (run : IndexerRun compound es store) (chain : ChainId) :
    (∀ s, lastIndexed es chain = some s → IsLastIndexed es chain s) ∧
      (lastIndexed es chain = none → ∀ date, latestSnapshot es chain date = none) := by
  induction run with
  | nil => exact ⟨fun _ h => (by cases h), fun _ _ => rfl⟩
  | @snapshot es store s run howns _ hfollows ih =>
      have hlatest (date : String) := latestSnapshot_append_snapshot es s chain date
      rw [lastIndexed_append_snapshot]
      by_cases h : s.chain = chain ∧ s.date.isSome
      · rw [if_pos h]
        refine ⟨fun s' hs' => ?_, fun hnone => (by cases hnone)⟩
        obtain rfl := Option.some.inj hs'
        obtain ⟨hchain, hsome⟩ := h
        obtain ⟨date, hdate⟩ := Option.isSome_iff_exists.mp hsome
        have hiso := howns.date_eq hdate
        refine ⟨by rw [hlatest, if_pos ⟨hchain, hdate.trans (congrArg some hiso)⟩], ?_⟩
        intro date' s' hs'
        rw [hlatest] at hs'
        split at hs'
        · next heq =>
            obtain rfl := Option.some.inj hs'
            exact ⟨howns.date_eq heq.2, le_refl _⟩
        · obtain ⟨hchain', hdate'⟩ := mem_snapshotsOf (List.mem_of_getLast? hs')
          have hmem : RollupEvent.snapshot s' ∈ es := by
            obtain ⟨e, he, heq⟩ := List.mem_filterMap.mp (List.mem_of_getLast? hs')
            cases e with
            | snapshot u =>
                simp only [Option.ite_none_right_eq_some, Option.some.injEq] at heq
                exact heq.2 ▸ he
            | logRebase => simp at heq
          exact ⟨(run.ownsRows hmem).date_eq hdate',
            (hfollows s' hmem (hchain'.trans hchain.symm)).2⟩
      · rw [if_neg h]
        have hsame (date : String) :
            latestSnapshot (es ++ [.snapshot s]) chain date = latestSnapshot es chain date := by
          rw [hlatest, if_neg (fun heq => h ⟨heq.1, by rw [heq.2]; rfl⟩)]
        refine ⟨fun s' hs' => ?_, fun hnone date => ?_⟩
        · obtain ⟨hfirst, hlast⟩ := ih.1 s' hs'
          exact ⟨by rw [hsame]; exact hfirst, fun date u hu => hlast date u (by rwa [hsame] at hu)⟩
        · rw [hsame]
          exact ih.2 hnone date
  | @logRebase es store chainId srcAddress index epoch block timestamp _ ih =>
      rw [lastIndexed_append_logRebase]
      refine ⟨fun s hs => ?_, fun hnone date => ?_⟩
      · obtain ⟨hfirst, hlast⟩ := ih.1 s hs
        exact ⟨by rw [latestSnapshot_append_logRebase]; exact hfirst,
          fun date u hu => hlast date u (by rwa [latestSnapshot_append_logRebase] at hu)⟩
      · rw [latestSnapshot_append_logRebase]
        exact ih.2 hnone date

/-- The chain row with the latest timestamp is that of the chain's last snapshot with rows. -/
theorem latestChainRow_of_run (run : IndexerRun compound es store) (chain : ChainId) :
    latestChainRow store chain =
      (lastIndexed es chain).map (fun s => s.chainRow (isoDate s.timestamp)) := by
  have hrollup := run.rollupRun
  have hlast := isLastIndexed_of_run run chain
  have htotal : Std.Total (fun a b : ChainMetricValues => b.timestamp ≤ a.timestamp) :=
    ⟨fun a b => le_total b.timestamp a.timestamp⟩
  have htrans : IsTrans ChainMetricValues (fun a b => b.timestamp ≤ a.timestamp) :=
    ⟨fun _ _ _ hab hbc => le_trans hbc hab⟩
  cases hindexed : lastIndexed es chain with
  | none =>
      rw [latestChainRow, Option.map_none]
      have hempty : store.rollup.chainMetricValues.rows.filter (fun row => row.chainId = chain) =
          [] := by
        refine List.filter_eq_nil_iff.mpr (fun row hrow hchain => ?_)
        obtain ⟨s, hs, -⟩ := latestSnapshot_of_mem hrollup hrow
        rw [of_decide_eq_true hchain, hlast.2 hindexed] at hs
        cases hs
      rw [hempty, List.insertionSort_nil, List.head?_nil]
  | some s =>
      obtain ⟨hlatest, hle⟩ := hlast.1 s hindexed
      have hchain : s.chain = chain := (mem_snapshotsOf (List.mem_of_getLast? hlatest)).1
      have hmem : s.chainRow (isoDate s.timestamp) ∈
          store.rollup.chainMetricValues.rows.filter (fun row => row.chainId = chain) := by
        have hget := (rollupInvariant_of_run hrollup).chainRow (isoDate s.timestamp) chain
        rw [hlatest, Option.map_some] at hget
        refine List.mem_filter.mpr ⟨(EntityTable.get_eq_some_iff.mp hget).1, decide_eq_true ?_⟩
        rw [Snapshot.chainRow_chainId, hchain]
      rw [latestChainRow, Option.map_some]
      cases hfirst : ((store.rollup.chainMetricValues.rows.filter
          (fun row => row.chainId = chain)).insertionSort
            (fun a b => b.timestamp ≤ a.timestamp)).head? with
      | none =>
          rw [eq_nil_of_head_insertionSort hfirst] at hmem
          cases hmem
      | some first =>
          obtain ⟨hin, hmax⟩ := head_insertionSort hfirst
          obtain ⟨hrow, hfirstChain⟩ := List.mem_filter.mp hin
          obtain ⟨s', hs', heq⟩ := latestSnapshot_of_mem hrollup hrow
          rw [of_decide_eq_true hfirstChain] at hs'
          obtain ⟨hdate', htime⟩ := hle _ s' hs'
          have hge : s.timestamp ≤ s'.timestamp := by
            have h := hmax _ hmem
            rw [heq] at h
            exact h
          -- Snapshots with one timestamp are of one date, which has one latest snapshot.
          rw [hdate', le_antisymm htime hge, hlatest] at hs'
          obtain rfl := Option.some.inj hs'
          rw [heq, hdate']

/-- The progress of every chain is that of its last snapshot with rows. -/
theorem fetchLatestIndexingProgress_of_run (run : IndexerRun compound es store) :
    fetchLatestIndexingProgress store = Api.chainNames.filterMap (fun chain =>
      (lastIndexed es chain).map (fun s => (Api.chainName chain,
        { block := s.block, date := isoDate s.timestamp, timestamp := s.timestamp }))) := by
  rw [fetchLatestIndexingProgress]
  congr 1
  funext chain
  rw [latestChainRow_of_run run, Option.map_map]
  rfl

theorem fetchLatestIndexingProgress_dayRun :
    fetchLatestIndexingProgress (dayRun Api.chainNames).2 = Api.chainNames.filterMap (fun chain =>
      (lastIndexed (dayRun Api.chainNames).1 chain).map (fun s => (Api.chainName chain,
        { block := s.block, date := isoDate s.timestamp, timestamp := s.timestamp }))) :=
  fetchLatestIndexingProgress_of_run (indexerRun_dayRun nodup_chainNames)

end

/-! ### The fetched rows -/

theorem mapM_eq_ok {α β ε : Type} {f : α → Except ε β} {g : α → β} {items : List α}
    (h : ∀ item ∈ items, f item = .ok (g item)) : items.mapM f = .ok (items.map g) := by
  induction items with
  | nil => rfl
  | cons item items ih =>
      rw [List.mapM_cons, h item List.mem_cons_self,
        ih (fun other hother => h other (List.mem_cons_of_mem _ hother))]
      rfl

theorem chainNamed_of_isOf {origin : RowOrigin} {s : Snapshot} (h : origin.IsOf s) :
    chainNamed origin.blockchain = .ok origin.chainId := by
  rw [chainNamed, h.blockchain, chainOfName_blockchain, h.chainId]

section

variable [Zero N] [Add N] (toNumber : BigNumber → N) {compound : BigNumber → BigNumber}
  {es : List RollupEvent} {store : IndexerStore}

/-- The metric of a stored date row. -/
def storedMetric (store : RollupStore) (snapshot : GlobalMetricSnapshot) : Api.DailyMetric N :=
  dailyMetricOf toNumber (rawDailyMetric store snapshot).keyed (rawDailyMetric store snapshot)

theorem fetchDailyMetrics_of_run (run : IndexerRun compound es store) (range : DateRange) :
    fetchDailyMetrics toNumber store range =
      .ok ((rowsOfRange (·.date) store.rollup.globalMetricSnapshot range.start range.stop).map
        (storedMetric toNumber store.rollup)) :=
  mapM_eq_ok (fun _ hsnapshot => normalizeDailyMetric_eq toNumber run.rollupRun
    (rawDailyMetric_readsFrom (mem_rowsOfRange.mp hsnapshot).1))

omit [Zero N] [Add N] in
theorem fetchTreasuryAssets_of_run (run : IndexerRun compound es store) (range : DateRange) :
    fetchTreasuryAssets toNumber store range =
      .ok ((rowsOfRange (·.date) store.tokenRecord range.start range.stop).map
        (fun row => treasuryAssetOf toNumber row.chainId row)) := by
  refine mapM_eq_ok (fun row hrow => ?_)
  obtain ⟨s, hs, hmem⟩ := run.rowsOfSnapshots.records row (mem_rowsOfRange.mp hrow).1
  have hchain := chainNamed_of_isOf ((run.ownsRows hs).records row hmem)
  rw [normalizeTreasuryAsset, show row.blockchain = row.origin.blockchain from rfl, hchain]
  rfl

omit [Zero N] [Add N] in
theorem fetchOhmSupply_of_run (run : IndexerRun compound es store) (range : DateRange) :
    fetchOhmSupply toNumber store range =
      .ok ((rowsOfRange (·.date) store.tokenSupply range.start range.stop).map
        (fun row => ohmSupplyOf toNumber row.chainId row)) := by
  refine mapM_eq_ok (fun row hrow => ?_)
  obtain ⟨s, hs, hmem⟩ := run.rowsOfSnapshots.supplies row (mem_rowsOfRange.mp hrow).1
  have hchain := chainNamed_of_isOf ((run.ownsRows hs).supplies row hmem)
  rw [normalizeOhmSupply, show row.blockchain = row.origin.blockchain from rfl, hchain]
  rfl

/-- The rows that the source has for a range. -/
def storedRows (store : IndexerStore) (range : DateRange) :
    (kind : ArtifactKind) → List (Api.MetricRow N kind)
  | .metrics =>
      (rowsOfRange (·.date) store.rollup.globalMetricSnapshot range.start range.stop).map
        (storedMetric toNumber store.rollup)
  | .treasuryAssets =>
      (rowsOfRange (·.date) store.tokenRecord range.start range.stop).map
        (fun row => treasuryAssetOf toNumber row.chainId row)
  | .ohmSupply =>
      (rowsOfRange (·.date) store.tokenSupply range.start range.stop).map
        (fun row => ohmSupplyOf toNumber row.chainId row)

/-- Every range is fetched without an error. -/
theorem fetchAllRows_of_run (run : IndexerRun compound es store) (range : DateRange) :
    fetchAllRows (hasuraSource toNumber store) range = .ok (storedRows toNumber store range) := by
  have hmetrics : (hasuraSource toNumber store).fetchRows .metrics range =
      .ok (storedRows toNumber store range .metrics) :=
    congrArg orError (fetchDailyMetrics_of_run toNumber run range)
  have hassets : (hasuraSource toNumber store).fetchRows .treasuryAssets range =
      .ok (storedRows toNumber store range .treasuryAssets) :=
    congrArg orError (fetchTreasuryAssets_of_run toNumber run range)
  have hsupply : (hasuraSource toNumber store).fetchRows .ohmSupply range =
      .ok (storedRows toNumber store range .ohmSupply) :=
    congrArg orError (fetchOhmSupply_of_run toNumber run range)
  rw [fetchAllRows, hmetrics, hassets, hsupply]
  refine congrArg Except.ok (funext fun kind => ?_)
  cases kind <;> rfl

end

end OlympusMetrics.Publisher
