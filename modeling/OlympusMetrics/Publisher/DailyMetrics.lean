import OlympusMetrics.Api.DailyMetric
import OlympusMetrics.Indexer.SupplyCategories
import OlympusMetrics.Publisher.DateRanges

/-!
The daily metrics that the publisher makes of the indexer's rollup rows.

A date row is fetched with the chain rows and the category rows of its date. What
is published of a chain is what its latest snapshot of the date has written.
-/

namespace OlympusMetrics.Publisher

/-! ### The rows that are fetched -/

/-- A date row with its two relations, as `DAILY_METRIC_SELECTION` selects them. -/
structure RawDailyMetric where
  snapshot : GlobalMetricSnapshot
  chainValues : List ChainMetricValues
  supplyCategories : List ChainSupplyCategory

/-- The row is stored, and its relations are the rows that refer to it, in any order. -/
structure RawDailyMetric.ReadsFrom (raw : RawDailyMetric) (store : RollupStore) : Prop where
  snapshot : store.globalMetricSnapshot.get raw.snapshot.id = some raw.snapshot
  chainValues : raw.chainValues.Perm
    (store.chainMetricValues.rows.filter (fun row => row.snapshotId = raw.snapshot.id))
  supplyCategories : raw.supplyCategories.Perm
    (store.chainSupplyCategory.rows.filter (fun row => row.snapshotId = raw.snapshot.id))

/-! ### Normalizing -/

/-- `chainName`. -/
def chainNamed (value : String) : Except String ChainId :=
  match Api.chainOfName value with
  | some chain => .ok chain
  | none => .error ("Unknown chain name: " ++ value)

/-- The rows of `chainValues` with the chains that they name. -/
def namedChainValues (rows : List ChainMetricValues) :
    Except String (List (ChainId × ChainMetricValues)) :=
  rows.mapM (fun row => do
    let chain ← chainNamed row.blockchain
    return (chain, row))

/-- One column of the rows by chain: a later row of a chain overwrites an earlier one. -/
def assignColumn {M : Type} [Zero M] (column : ChainMetricValues → M)
    (named : List (ChainId × ChainMetricValues)) : ChainId → M :=
  named.foldl (fun values entry => Function.update values entry.1 (column entry.2)) (fun _ => 0)

/-- `SUPPLY_CATEGORY_TO_LEGACY_KEY`, where a key is named by the category that it is for. -/
def supplyCategoryToLegacyKey (category : String) : Option SupplyCategoryType :=
  [("TOTAL_SUPPLY", SupplyCategoryType.totalSupply), ("TREASURY", .treasury),
   ("OHM_MIGRATION_OFFSET", .ohmMigrationOffset), ("BONDS_PREMINTED", .bondsPreminted),
   ("BONDS_VESTING_DEPOSITS", .bondsVestingDeposits),
   ("BONDS_VESTING_TOKENS", .bondsVestingTokens), ("BONDS_DEPOSITS", .bondsDeposits),
   ("LIQUIDITY", .liquidity), ("BOOSTED_LIQUIDITY_VAULT", .boostedLiquidityVault),
   ("LENDING", .lending)].lookup category

variable {N : Type}

/-- The value under a key. -/
def valueOfKey (values : Api.SupplyCategoryValues N) : SupplyCategoryType → N
  | .totalSupply => values.totalSupply
  | .treasury => values.treasury
  | .ohmMigrationOffset => values.migrationOffset
  | .bondsPreminted => values.bondsPreminted
  | .bondsVestingDeposits => values.bondsVestingDeposits
  | .bondsVestingTokens => values.bondsVestingTokens
  | .bondsDeposits => values.bondsDeposits
  | .liquidity => values.protocolOwnedLiquidity
  | .boostedLiquidityVault => values.boostedLiquidityVault
  | .lending => values.lendingMarkets

/-- `ohmSupplyCategories[key] += amount`. -/
def addToKey [Add N] (values : Api.SupplyCategoryValues N) (amount : N) :
    SupplyCategoryType → Api.SupplyCategoryValues N
  | .totalSupply => { values with totalSupply := values.totalSupply + amount }
  | .treasury => { values with treasury := values.treasury + amount }
  | .ohmMigrationOffset => { values with migrationOffset := values.migrationOffset + amount }
  | .bondsPreminted => { values with bondsPreminted := values.bondsPreminted + amount }
  | .bondsVestingDeposits =>
      { values with bondsVestingDeposits := values.bondsVestingDeposits + amount }
  | .bondsVestingTokens => { values with bondsVestingTokens := values.bondsVestingTokens + amount }
  | .bondsDeposits => { values with bondsDeposits := values.bondsDeposits + amount }
  | .liquidity => { values with protocolOwnedLiquidity := values.protocolOwnedLiquidity + amount }
  | .boostedLiquidityVault =>
      { values with boostedLiquidityVault := values.boostedLiquidityVault + amount }
  | .lending => { values with lendingMarkets := values.lendingMarkets + amount }

/-- The first millisecond of a date. -/
def startOfDate (date : String) : ℕ :=
  match parseDate date with
  | .ok parsed => (dayNumber parsed - dayNumber ⟨1970, 1, 1⟩) * 86400000
  | .error _ => 0

/-- `metricTimestamp`. -/
def metricTimestamp (date : String) (timestamps : ChainId → ℕ) : ℕ :=
  let latestTimestamp := (Api.chainNames.map timestamps).foldl max 0
  if 0 < latestTimestamp then latestTimestamp * 1000 else startOfDate date

section

variable [Zero N] [Add N] (toNumber : BigNumber → N)

/-- The loop over the category rows. -/
def sumSupplyCategories (rows : List ChainSupplyCategory) : Api.SupplyCategoryValues N :=
  rows.foldl (fun values row =>
    match supplyCategoryToLegacyKey row.category.text with
    | some key => addToKey values (toNumber row.balance) key
    | none => values) Api.emptySupplyCategoryValues

/-- The metric of a row, once its chain rows are named. `toNumber` is the number that a stored
decimal is read as. -/
def dailyMetricOf (named : List (ChainId × ChainMetricValues)) (row : RawDailyMetric) :
    Api.DailyMetric N :=
  let chainsIndexed := row.snapshot.chainsIndexed.map ChainId.number
  let chainsMissing := Api.missingChainIds chainsIndexed
  { date := row.snapshot.date
    blocks := assignColumn (fun values => toNumber (.ofInt values.block)) named
    timestamps := assignColumn (fun values => toNumber (.ofInt values.timestamp)) named
    crossChainComplete := Api.isCrossChainComplete chainsIndexed
    chainsIndexed := chainsIndexed
    chainsMissing := chainsMissing
    ohmIndex := toNumber row.snapshot.ohmIndex
    ohmApy := toNumber row.snapshot.ohmApy
    ohmTotalSupply := toNumber row.snapshot.ohmTotalSupply
    ohmTotalSupplyComponents := assignColumn (fun values => toNumber values.ohmTotalSupply) named
    ohmCirculatingSupply := toNumber row.snapshot.ohmCirculatingSupply
    ohmCirculatingSupplyComponents :=
      assignColumn (fun values => toNumber values.ohmCirculatingSupply) named
    ohmFloatingSupply := toNumber row.snapshot.ohmFloatingSupply
    ohmFloatingSupplyComponents :=
      assignColumn (fun values => toNumber values.ohmFloatingSupply) named
    ohmBackedSupply := toNumber row.snapshot.ohmBackedSupply
    gOhmBackedSupply := toNumber row.snapshot.gOhmBackedSupply
    ohmBackedSupplyComponents := assignColumn (fun values => toNumber values.ohmBackedSupply) named
    ohmSupplyCategories := sumSupplyCategories toNumber row.supplyCategories
    ohmPrice := toNumber row.snapshot.ohmPrice
    gOhmPrice := toNumber row.snapshot.gOhmPrice
    marketCap := toNumber row.snapshot.marketCap
    sOhmCirculatingSupply := toNumber row.snapshot.sOhmCirculatingSupply
    sOhmTotalValueLocked := toNumber row.snapshot.sOhmTotalValueLocked
    treasuryMarketValue := toNumber row.snapshot.treasuryMarketValue
    treasuryMarketValueComponents :=
      assignColumn (fun values => toNumber values.treasuryMarketValue) named
    treasuryLiquidBacking := toNumber row.snapshot.treasuryLiquidBacking
    treasuryLiquidBackingComponents :=
      assignColumn (fun values => toNumber values.treasuryLiquidBacking) named
    treasuryLiquidBackingPerOhmFloating := toNumber row.snapshot.treasuryLiquidBackingPerOhmFloating
    treasuryLiquidBackingPerOhmBacked := toNumber row.snapshot.treasuryLiquidBackingPerOhmBacked
    treasuryLiquidBackingPerGOhmBacked := toNumber row.snapshot.treasuryLiquidBackingPerGOhmBacked
    records := none
    metadata :=
      { chainsComplete := (Api.chainNames.filter (fun chain =>
          chainsIndexed.contains chain.number)).map Api.chainName
        chainsFailed := (Api.chainNames.filter (fun chain =>
          chainsMissing.contains chain.number)).map Api.chainName
        timestamp := metricTimestamp row.snapshot.date (assignColumn (·.timestamp) named) } }

/-- `normalizeDailyMetric`. -/
def normalizeDailyMetric (row : RawDailyMetric) : Except String (Api.DailyMetric N) := do
  let named ← namedChainValues row.chainValues
  return dailyMetricOf toNumber named row

end

/-! ### Columns -/

section

variable {M : Type} [Zero M] {column : ChainMetricValues → M}
  {named : List (ChainId × ChainMetricValues)} {chain : ChainId}

theorem assignColumn_append (named : List (ChainId × ChainMetricValues))
    (entry : ChainId × ChainMetricValues) (chain : ChainId) :
    assignColumn column (named ++ [entry]) chain =
      if chain = entry.1 then column entry.2 else assignColumn column named chain := by
  simp [assignColumn, Function.update_apply]

theorem assignColumn_of_not_mem (h : chain ∉ named.map Prod.fst) :
    assignColumn column named chain = 0 := by
  induction named using List.reverseRecOn with
  | nil => rfl
  | append_singleton named entry ih =>
      simp only [List.map_append, List.mem_append, List.map_singleton, List.mem_singleton,
        not_or] at h
      rw [assignColumn_append, if_neg h.2, ih h.1]

theorem assignColumn_of_mem (hnodup : (named.map Prod.fst).Nodup) {row : ChainMetricValues}
    (h : (chain, row) ∈ named) : assignColumn column named chain = column row := by
  induction named using List.reverseRecOn with
  | nil => cases h
  | append_singleton named entry ih =>
      rw [List.map_append, List.nodup_append] at hnodup
      obtain ⟨hnodup, -, hdisjoint⟩ := hnodup
      rw [assignColumn_append]
      rcases List.mem_append.mp h with hmem | hmem
      · have hne : chain ≠ entry.1 :=
          hdisjoint chain (List.mem_map.mpr ⟨_, hmem, rfl⟩) entry.1 (by simp)
        rw [if_neg hne, ih hnodup hmem]
      · obtain rfl := List.mem_singleton.mp hmem
        exact if_pos rfl

end

/-! ### Categories -/

/-- Every category of the indexer has a key. -/
theorem supplyCategoryToLegacyKey_text (category : SupplyCategoryType) :
    supplyCategoryToLegacyKey category.text = some category := by
  cases category <;> decide

theorem valueOfKey_addToKey [Add N] (values : Api.SupplyCategoryValues N) (amount : N)
    (category key : SupplyCategoryType) :
    valueOfKey (addToKey values amount category) key =
      if category = key then valueOfKey values key + amount else valueOfKey values key := by
  cases category <;> cases key <;> rfl

/-- The value under a key is the sum over the rows of its category. -/
theorem valueOfKey_sumSupplyCategories [Zero N] [Add N] (toNumber : BigNumber → N)
    (rows : List ChainSupplyCategory) (category : SupplyCategoryType) :
    valueOfKey (sumSupplyCategories toNumber rows) category =
      Api.sum ((rows.filter (fun row => row.category = category)).map
        (fun row => toNumber row.balance)) := by
  induction rows using List.reverseRecOn with
  | nil => cases category <;> rfl
  | append_singleton rows row ih =>
      have hstep : sumSupplyCategories toNumber (rows ++ [row]) =
          addToKey (sumSupplyCategories toNumber rows) (toNumber row.balance) row.category := by
        simp [sumSupplyCategories, supplyCategoryToLegacyKey_text]
      rw [hstep, valueOfKey_addToKey, ih, List.filter_append]
      by_cases h : row.category = category
      · simp [h, Api.sum]
      · simp [h]

/-! ### The rows of a run -/

/-- The configured names are those that the publisher knows. -/
theorem chainOfName_blockchain (chain : ChainId) :
    Api.chainOfName (chainConfigs chain).blockchain = some chain := by
  cases chain <;> decide

section

variable {compound : BigNumber → BigNumber} {es : List RollupEvent} {store : RollupStore}

/-- Every stored chain row was written by the latest snapshot of its chain and date. -/
theorem latestSnapshot_of_mem (run : RollupRun compound es store) {row : ChainMetricValues}
    (h : row ∈ store.chainMetricValues.rows) :
    ∃ s, latestSnapshot es row.chainId row.date = some s ∧ row = s.chainRow row.date := by
  have inv := rollupInvariant_of_run run
  have hget := EntityTable.get_eq_some_iff.mpr ⟨h, inv.keyed row h⟩
  rw [inv.chainRow, Option.map_eq_some_iff] at hget
  obtain ⟨s, hs, heq⟩ := hget
  exact ⟨s, hs, heq.symm⟩

theorem snapshotId_of_mem (run : RollupRun compound es store) {row : ChainMetricValues}
    (h : row ∈ store.chainMetricValues.rows) : row.snapshotId = row.date := by
  obtain ⟨s, -, heq⟩ := latestSnapshot_of_mem run h
  rw [heq]
  rfl

theorem blockchain_of_mem (run : RollupRun compound es store) {row : ChainMetricValues}
    (h : row ∈ store.chainMetricValues.rows) :
    row.blockchain = (chainConfigs row.chainId).blockchain := by
  obtain ⟨s, hs, heq⟩ := latestSnapshot_of_mem run h
  have hchain := (mem_snapshotsOf (List.mem_of_getLast? hs)).1
  rw [heq, Snapshot.chainRow_chainId]
  rfl

/-- Every stored date row was written by the last snapshot of its date. -/
theorem dateRow_of_run (run : RollupRun compound es store) {date : String}
    {row : GlobalMetricSnapshot} (h : store.globalMetricSnapshot.get date = some row) :
    ∃ before s, LastOfDay es before s date ∧
      row = s.dateRow compound date (storeAfter compound before) := by
  induction run with
  | nil => cases h
  | @snapshot es store s run _ ih =>
      cases hd : s.date with
      | none =>
          rw [Snapshot.apply_of_date_none hd] at h
          obtain ⟨before, s', hlast, heq⟩ := ih h
          refine ⟨before, s', hlast.append (fun s'' hs'' => ?_), heq⟩
          obtain rfl := RollupEvent.snapshot.inj hs''
          rw [hd]
          exact fun hnone => by cases hnone
      | some d =>
          rw [Snapshot.apply_of_date hd, EntityTable.get_set] at h
          split at h
          · next heq =>
              have heq' : date = d := heq
              subst heq'
              refine ⟨es, s, lastOfDay_append_snapshot es hd, ?_⟩
              rw [storeAfter_of_run run]
              exact (Option.some.inj h).symm
          · next hne =>
              have hne' : date ≠ d := hne
              obtain ⟨before, s', hlast, heq⟩ := ih h
              refine ⟨before, s', hlast.append (fun s'' hs'' => ?_), heq⟩
              obtain rfl := RollupEvent.snapshot.inj hs''
              rw [hd]
              exact fun hsame => hne' (Option.some.inj hsame).symm
  | @logRebase es store chainId srcAddress index epoch block timestamp _ ih =>
      rw [(applyLogRebase_tables chainId srcAddress index epoch block timestamp store).2.1] at h
      obtain ⟨before, s, hlast, heq⟩ := ih h
      exact ⟨before, s, hlast.append (fun _ hs => by cases hs), heq⟩

/-- Without a snapshot of Ethereum nothing has been computed that only Ethereum can. -/
theorem canonical_of_no_ethereum (run : RollupRun compound es store) {date : String}
    (hnone : latestSnapshot es .ethereum date = none) {row : GlobalMetricSnapshot}
    (h : store.globalMetricSnapshot.get date = some row) :
    (⟨row.ohmPrice, row.sOhmCirculatingSupply, row.ohmApy⟩ : CanonicalFields) = .zero := by
  induction run generalizing row with
  | nil => cases h
  | @snapshot es store s _ _ ih =>
      rw [latestSnapshot_append_snapshot] at hnone
      split at hnone
      · cases hnone
      · next hother =>
          cases hd : s.date with
          | none =>
              rw [Snapshot.apply_of_date_none hd] at h
              exact ih hnone h
          | some d =>
              rw [Snapshot.apply_of_date hd, EntityTable.get_set] at h
              split at h
              · next heq =>
                  have heq' : date = d := heq
                  subst heq'
                  obtain rfl := (Option.some.inj h).symm
                  have hchain : (chainConfigs s.chain).chainId ≠ .ethereum := by
                    rw [chainConfigs_chainId]
                    exact fun hethereum => hother ⟨hethereum, hd⟩
                  rw [canonicalFields_dateRow]
                  cases hget : store.globalMetricSnapshot.get date with
                  | none => exact if_neg hchain
                  | some existing =>
                      rw [canonicalFields_other _ _ _ hchain]
                      exact ih hnone hget
              · exact ih hnone h
  | @logRebase es store chainId srcAddress index epoch block timestamp _ ih =>
      rw [(applyLogRebase_tables chainId srcAddress index epoch block timestamp store).2.1] at h
      rw [latestSnapshot_append_logRebase] at hnone
      exact ih hnone h

end

/-! ### What is published of a day -/

/-- A column of the row that the latest snapshot of a chain has written for a date. -/
def ofLatest {M : Type} [Zero M] (column : ChainMetricValues → M) (es : List RollupEvent)
    (date : String) (chain : ChainId) : M :=
  ((latestSnapshot es chain date).map (fun s => column (s.chainRow date))).getD 0

/-- The components are what the chains' latest snapshots have written, and the total is read from
their exact sum. -/
structure IsSplit [Zero N] (toNumber : BigNumber → N) (es : List RollupEvent) (date : String)
    (column : ChainMetricValues → BigNumber) (total : N) (components : ChainId → N) : Prop where
  components : ∀ chain,
    components chain = ofLatest (fun row => toNumber (column row)) es date chain
  total : total = toNumber ((Api.chainNames.map (ofLatest column es date)).sum)

/-- The time is that of the latest timestamp, or the start of the date if no chain has one. -/
def IsLatestTime (date : String) (timestamps : ChainId → ℕ) (time : ℕ) : Prop :=
  ((∀ chain, timestamps chain = 0) ∧ time = startOfDate date) ∨
    ∃ chain, time = timestamps chain * 1000 ∧ 0 < timestamps chain ∧
      ∀ other, timestamps other ≤ timestamps chain

/-- The row of a date as the events have left it: sums over the chains' latest snapshots, what the
latest one of Ethereum has computed, the index that was stored when the last one of the date was
handled, and the values that derive from these. -/
structure DayValues (compound : BigNumber → BigNumber) (es : List RollupEvent) (date : String)
    (row : GlobalMetricSnapshot) : Prop where
  ohmCirculatingSupply : row.ohmCirculatingSupply =
    (Api.chainNames.map (ofLatest (·.ohmCirculatingSupply) es date)).sum
  ohmFloatingSupply : row.ohmFloatingSupply =
    (Api.chainNames.map (ofLatest (·.ohmFloatingSupply) es date)).sum
  ohmBackedSupply : row.ohmBackedSupply =
    (Api.chainNames.map (ofLatest (·.ohmBackedSupply) es date)).sum
  treasuryLiquidBacking : row.treasuryLiquidBacking =
    (Api.chainNames.map (ofLatest (·.treasuryLiquidBacking) es date)).sum
  canonical : (⟨row.ohmPrice, row.sOhmCirculatingSupply, row.ohmApy⟩ : CanonicalFields) =
    (latestSnapshot es .ethereum date).elim .zero
      (fun s => computeCanonicalFields compound (chainConfigs .ethereum) s.reads)
  index : ∃ before s, LastOfDay es before s date ∧
    row.ohmIndex = readOhmIndex (storeAfter compound before)
  derived : DerivesFields row

/-- The values of a metric that are not split by chain are those of a row. -/
structure ShowsRow (toNumber : BigNumber → N) (row : GlobalMetricSnapshot)
    (metric : Api.DailyMetric N) : Prop where
  ohmIndex : metric.ohmIndex = toNumber row.ohmIndex
  ohmApy : metric.ohmApy = toNumber row.ohmApy
  ohmPrice : metric.ohmPrice = toNumber row.ohmPrice
  gOhmPrice : metric.gOhmPrice = toNumber row.gOhmPrice
  gOhmBackedSupply : metric.gOhmBackedSupply = toNumber row.gOhmBackedSupply
  marketCap : metric.marketCap = toNumber row.marketCap
  sOhmCirculatingSupply : metric.sOhmCirculatingSupply = toNumber row.sOhmCirculatingSupply
  sOhmTotalValueLocked : metric.sOhmTotalValueLocked = toNumber row.sOhmTotalValueLocked
  perOhmFloating : metric.treasuryLiquidBackingPerOhmFloating =
    toNumber row.treasuryLiquidBackingPerOhmFloating
  perOhmBacked : metric.treasuryLiquidBackingPerOhmBacked =
    toNumber row.treasuryLiquidBackingPerOhmBacked
  perGOhmBacked : metric.treasuryLiquidBackingPerGOhmBacked =
    toNumber row.treasuryLiquidBackingPerGOhmBacked

/-- The metric describes what the events have left of a date. -/
structure DescribesDay [Zero N] [Add N] (compound : BigNumber → BigNumber)
    (toNumber : BigNumber → N) (es : List RollupEvent) (date : String)
    (metric : Api.DailyMetric N) : Prop where
  ofDate : metric.date = date
  blocks : ∀ chain, metric.blocks chain =
    ofLatest (fun row => toNumber (.ofInt row.block)) es date chain
  timestamps : ∀ chain, metric.timestamps chain =
    ofLatest (fun row => toNumber (.ofInt row.timestamp)) es date chain
  ohmTotalSupply : IsSplit toNumber es date (·.ohmTotalSupply) metric.ohmTotalSupply
    metric.ohmTotalSupplyComponents
  ohmCirculatingSupply : IsSplit toNumber es date (·.ohmCirculatingSupply)
    metric.ohmCirculatingSupply metric.ohmCirculatingSupplyComponents
  ohmFloatingSupply : IsSplit toNumber es date (·.ohmFloatingSupply) metric.ohmFloatingSupply
    metric.ohmFloatingSupplyComponents
  ohmBackedSupply : IsSplit toNumber es date (·.ohmBackedSupply) metric.ohmBackedSupply
    metric.ohmBackedSupplyComponents
  treasuryMarketValue : IsSplit toNumber es date (·.treasuryMarketValue)
    metric.treasuryMarketValue metric.treasuryMarketValueComponents
  treasuryLiquidBacking : IsSplit toNumber es date (·.treasuryLiquidBacking)
    metric.treasuryLiquidBacking metric.treasuryLiquidBackingComponents
  categories : ∀ category, ∃ rows : List ChainSupplyCategory,
    rows.Perm (Api.chainNames.filterMap (fun chain =>
      (latestProducer es chain date category).map (fun s => s.categoryRow date category))) ∧
    valueOfKey metric.ohmSupplyCategories category =
      Api.sum (rows.map (fun row => toNumber row.balance))
  indexed : ∀ chain, chain.number ∈ metric.chainsIndexed ↔ (latestSnapshot es chain date).isSome
  missing : ∀ chain, chain.number ∈ metric.chainsMissing ↔ latestSnapshot es chain date = none
  complete : metric.crossChainComplete = true ↔
    (latestSnapshot es .ethereum date).isSome ∧ (latestSnapshot es .arbitrum date).isSome
  chainsComplete : metric.metadata.chainsComplete =
    (Api.chainNames.filter (fun chain => (latestSnapshot es chain date).isSome)).map Api.chainName
  chainsFailed : metric.metadata.chainsFailed =
    (Api.chainNames.filter (fun chain => (latestSnapshot es chain date).isNone)).map Api.chainName
  timestamp : IsLatestTime date (ofLatest (·.timestamp) es date) metric.metadata.timestamp
  values : ∃ row, DayValues compound es date row ∧ ShowsRow toNumber row metric

/-- The maximum of a list of numbers is its start or one of them. -/
theorem foldl_max_eq_or_mem (numbers : List ℕ) (start : ℕ) :
    numbers.foldl max start = start ∨ numbers.foldl max start ∈ numbers := by
  induction numbers generalizing start with
  | nil => exact Or.inl rfl
  | cons number numbers ih =>
      rw [List.foldl_cons]
      rcases ih (max start number) with heq | hmem
      · rw [heq]
        rcases max_choice start number with h | h
        · exact Or.inl h
        · exact Or.inr (by rw [h]; exact List.mem_cons_self)
      · exact Or.inr (List.mem_cons_of_mem _ hmem)

theorem mem_chainNames (chain : ChainId) : chain ∈ Api.chainNames := by
  cases chain <;> decide

theorem le_foldl_max {numbers : List ℕ} {number : ℕ} (h : number ∈ numbers) (start : ℕ) :
    number ≤ numbers.foldl max start := by
  have hstart (start : ℕ) (numbers : List ℕ) : start ≤ numbers.foldl max start := by
    induction numbers generalizing start with
    | nil => exact le_refl start
    | cons first numbers ih => exact (le_max_left start first).trans (ih (max start first))
  induction numbers generalizing start with
  | nil => exact absurd h List.not_mem_nil
  | cons first numbers ih =>
      rw [List.foldl_cons]
      rcases List.mem_cons.mp h with rfl | h
      · exact (le_max_right start number).trans (hstart _ numbers)
      · exact ih h _

theorem isLatestTime_metricTimestamp (date : String) (timestamps : ChainId → ℕ) :
    IsLatestTime date timestamps (metricTimestamp date timestamps) := by
  have hbound (chain : ChainId) :
      timestamps chain ≤ (Api.chainNames.map timestamps).foldl max 0 := by
    apply le_foldl_max
    exact List.mem_map_of_mem (mem_chainNames chain)
  rw [IsLatestTime, metricTimestamp]
  by_cases h : 0 < (Api.chainNames.map timestamps).foldl max 0
  · right
    rcases foldl_max_eq_or_mem (Api.chainNames.map timestamps) 0 with hzero | hmem
    · omega
    · obtain ⟨chain, -, hchain⟩ := List.mem_map.mp hmem
      refine ⟨chain, by rw [if_pos h, hchain], by rw [hchain]; exact h, fun other => ?_⟩
      rw [hchain]
      exact hbound other
  · left
    refine ⟨fun chain => ?_, if_neg h⟩
    have := hbound chain
    omega

section

variable {compound : BigNumber → BigNumber} {es : List RollupEvent} {store : RollupStore}

theorem namedChainValues_eq {rows : List ChainMetricValues}
    (h : ∀ row ∈ rows, row.blockchain = (chainConfigs row.chainId).blockchain) :
    namedChainValues rows = .ok (rows.map (fun row => (row.chainId, row))) := by
  induction rows with
  | nil => rfl
  | cons row rows ih =>
      have hchain : chainNamed row.blockchain = .ok row.chainId := by
        rw [chainNamed, h row List.mem_cons_self, chainOfName_blockchain]
      have htail := ih (fun row' hrow' => h row' (List.mem_cons_of_mem _ hrow'))
      rw [namedChainValues] at htail ⊢
      rw [List.mapM_cons, hchain, htail]
      rfl

/-- The chain rows that refer to a date are those of the date. -/
theorem chainRows_of_snapshotId (run : RollupRun compound es store) (date : String) :
    store.chainMetricValues.rows.filter (fun row => row.snapshotId = date) =
      chainRowsOf store date := by
  apply List.filter_congr
  intro row hrow
  rw [snapshotId_of_mem run hrow]

theorem mem_chainRowsOf_iff (run : RollupRun compound es store) {date : String}
    {row : ChainMetricValues} : row ∈ chainRowsOf store date ↔
      ∃ s, latestSnapshot es row.chainId date = some s ∧ row = s.chainRow date := by
  rw [chainRowsOf, List.mem_filter, decide_eq_true_iff]
  constructor
  · rintro ⟨hrow, rfl⟩
    exact latestSnapshot_of_mem run hrow
  · rintro ⟨s, hs, heq⟩
    have hget := (rollupInvariant_of_run run).chainRow date row.chainId
    rw [hs, Option.map_some, ← heq] at hget
    exact ⟨(EntityTable.get_eq_some_iff.mp hget).1, by rw [heq]; rfl⟩

/-- The chain rows of a date, chain by chain. -/
theorem chainRowsOf_perm_latest (run : RollupRun compound es store) (date : String) :
    (chainRowsOf store date).Perm (Api.chainNames.filterMap (fun chain =>
      (latestSnapshot es chain date).map (fun s => s.chainRow date))) := by
  have hchain {chain : ChainId} {s : Snapshot} (h : latestSnapshot es chain date = some s) :
      s.chain = chain := (mem_snapshotsOf (List.mem_of_getLast? h)).1
  have hnodup : (chainRowsOf store date).Nodup :=
    List.Nodup.of_map _ (chainIds_nodup (rollupInvariant_of_run run).keyed date)
  have hnodup' : (Api.chainNames.filterMap (fun chain =>
      (latestSnapshot es chain date).map (fun s => s.chainRow date))).Nodup := by
    refine List.Nodup.filterMap ?_ (by decide)
    intro chain chain' row hrow hrow'
    obtain ⟨s, hs, rfl⟩ := Option.map_eq_some_iff.mp hrow
    obtain ⟨s', hs', heq⟩ := Option.map_eq_some_iff.mp hrow'
    have h := congrArg ChainMetricValues.chainId heq
    rw [Snapshot.chainRow_chainId, Snapshot.chainRow_chainId, hchain hs, hchain hs'] at h
    exact h.symm
  refine (List.perm_ext_iff_of_nodup hnodup hnodup').mpr ?_
  intro row
  rw [mem_chainRowsOf_iff run, List.mem_filterMap]
  constructor
  · rintro ⟨s, hs, rfl⟩
    refine ⟨s.chain, by cases s.chain <;> decide, ?_⟩
    rw [Snapshot.chainRow_chainId] at hs
    rw [hs, Option.map_some]
  · rintro ⟨chain, -, hrow⟩
    obtain ⟨s, hs, rfl⟩ := Option.map_eq_some_iff.mp hrow
    refine ⟨s, ?_, rfl⟩
    rw [Snapshot.chainRow_chainId, hchain hs]
    exact hs

/-- A column of the fetched rows is that of the latest snapshots. -/
theorem assignColumn_eq_ofLatest (run : RollupRun compound es store) {raw : RawDailyMetric}
    (hreads : raw.ReadsFrom store) {M : Type} [Zero M] (column : ChainMetricValues → M)
    (chain : ChainId) :
    assignColumn column (raw.chainValues.map (fun row => (row.chainId, row))) chain =
      ofLatest column es raw.snapshot.id chain := by
  have hperm := hreads.chainValues
  rw [chainRows_of_snapshotId run] at hperm
  have hkeys : (raw.chainValues.map (fun row => (row.chainId, row))).map Prod.fst =
      raw.chainValues.map (·.chainId) := by
    rw [List.map_map]
    rfl
  have hnodup : ((raw.chainValues.map (fun row => (row.chainId, row))).map Prod.fst).Nodup := by
    rw [hkeys]
    exact ((hperm.map _).nodup_iff).mpr
      (chainIds_nodup (rollupInvariant_of_run run).keyed raw.snapshot.id)
  rw [ofLatest]
  cases hlatest : latestSnapshot es chain raw.snapshot.id with
  | none =>
      refine assignColumn_of_not_mem ?_
      rw [hkeys]
      intro hmem
      obtain ⟨row, hrow, rfl⟩ := List.mem_map.mp hmem
      obtain ⟨s, hs, -⟩ := (mem_chainRowsOf_iff run).mp (hperm.mem_iff.mp hrow)
      rw [hlatest] at hs
      cases hs
  | some s =>
      have hchain : (s.chainRow raw.snapshot.id).chainId = chain := by
        rw [Snapshot.chainRow_chainId]
        exact (mem_snapshotsOf (List.mem_of_getLast? hlatest)).1
      have hrow : s.chainRow raw.snapshot.id ∈ raw.chainValues :=
        hperm.mem_iff.mpr ((mem_chainRowsOf_iff run).mpr ⟨s, by rw [hchain]; exact hlatest, rfl⟩)
      exact assignColumn_of_mem hnodup
        (List.mem_map.mpr ⟨_, hrow, by rw [hchain]⟩)

/-- The sum over the chain rows of a date, chain by chain. -/
theorem sum_chainRowsOf (run : RollupRun compound es store) (date : String)
    (column : ChainMetricValues → BigNumber) :
    ((chainRowsOf store date).map column).sum =
      (Api.chainNames.map (ofLatest column es date)).sum := by
  rw [((chainRowsOf_perm_latest run date).map column).sum_eq]
  induction Api.chainNames with
  | nil => rfl
  | cons chain chains ih =>
      rw [List.map_cons, List.sum_cons, ← ih, List.filterMap_cons, ofLatest]
      cases latestSnapshot es chain date with
      | none => simp
      | some s => simp

/-- The stored row of a date is the one that the events have left. -/
theorem dayValues_of_run (run : RollupRun compound es store) {date : String}
    {row : GlobalMetricSnapshot} (h : store.globalMetricSnapshot.get date = some row) :
    DayValues compound es date row := by
  have inv := rollupInvariant_of_run run
  have hsums := inv.sums date row h
  have hsum := sum_chainRowsOf run date
  obtain ⟨before, s, hlast, hrow⟩ := dateRow_of_run run h
  exact
    { ohmCirculatingSupply := hsums.ohmCirculatingSupply.trans (hsum _)
      ohmFloatingSupply := hsums.ohmFloatingSupply.trans (hsum _)
      ohmBackedSupply := hsums.ohmBackedSupply.trans (hsum _)
      treasuryLiquidBacking := hsums.treasuryLiquidBacking.trans (hsum _)
      canonical := by
        cases hlatest : latestSnapshot es .ethereum date with
        | none => exact canonical_of_no_ethereum run hlatest h
        | some s => exact inv.canonical date row h s hlatest
      index := ⟨before, s, hlast, by rw [hrow]; rfl⟩
      derived := inv.derived date row h }

theorem isSplit_of_run [Zero N] {toNumber : BigNumber → N} (run : RollupRun compound es store)
    {raw : RawDailyMetric} (hreads : raw.ReadsFrom store)
    {column : ChainMetricValues → BigNumber} {total : BigNumber}
    (htotal : total = ((chainRowsOf store raw.snapshot.id).map column).sum) :
    IsSplit toNumber es raw.snapshot.id column (toNumber total)
      (assignColumn (fun row => toNumber (column row))
        (raw.chainValues.map (fun row => (row.chainId, row)))) where
  components := assignColumn_eq_ofLatest run hreads _
  total := by rw [htotal, sum_chainRowsOf run]

/-- Every stored category row was written by the latest snapshot that produced its category. -/
theorem latestProducer_of_mem (run : RollupRun compound es store) {row : ChainSupplyCategory}
    (h : row ∈ store.chainSupplyCategory.rows) :
    ∃ s, latestProducer es row.chainId row.date row.category = some s ∧
      row = s.categoryRow row.date row.category := by
  have hget := EntityTable.get_eq_some_iff.mpr ⟨h, categoryRows_keyed_of_run run row h⟩
  rw [get_category_of_run run, Option.map_eq_some_iff] at hget
  obtain ⟨s, hs, heq⟩ := hget
  exact ⟨s, hs, heq.symm⟩

/-- The category rows of a date and category, chain by chain. -/
theorem categoryRows_perm_latest (run : RollupRun compound es store) {raw : RawDailyMetric}
    (hreads : raw.ReadsFrom store) (category : SupplyCategoryType) :
    (raw.supplyCategories.filter (fun row => row.category = category)).Perm
      (Api.chainNames.filterMap (fun chain =>
        (latestProducer es chain raw.snapshot.id category).map
          (fun s => s.categoryRow raw.snapshot.id category))) := by
  have hchain {chain : ChainId} {s : Snapshot}
      (h : latestProducer es chain raw.snapshot.id category = some s) : s.chain = chain :=
    (mem_snapshotsOf (List.mem_of_mem_filter (List.mem_of_getLast? h))).1
  have hnodup : (raw.supplyCategories.filter (fun row => row.category = category)).Nodup := by
    refine List.Nodup.filter _ (hreads.supplyCategories.nodup_iff.mpr ?_)
    exact (List.Nodup.of_map _ store.chainSupplyCategory.nodup_ids).filter _
  have hnodup' : (Api.chainNames.filterMap (fun chain =>
      (latestProducer es chain raw.snapshot.id category).map
        (fun s => s.categoryRow raw.snapshot.id category))).Nodup := by
    refine List.Nodup.filterMap ?_ (by decide)
    intro chain chain' row hrow hrow'
    obtain ⟨s, hs, rfl⟩ := Option.map_eq_some_iff.mp hrow
    obtain ⟨s', hs', heq⟩ := Option.map_eq_some_iff.mp hrow'
    have h : s'.chain = s.chain := congrArg ChainSupplyCategory.chainId heq
    rw [← hchain hs, ← hchain hs', h]
  refine (List.perm_ext_iff_of_nodup hnodup hnodup').mpr ?_
  intro row
  rw [List.mem_filter, hreads.supplyCategories.mem_iff, List.mem_filter, List.mem_filterMap]
  simp only [decide_eq_true_iff]
  constructor
  · rintro ⟨⟨hrow, hid⟩, rfl⟩
    obtain ⟨s, hs, heq⟩ := latestProducer_of_mem run hrow
    have hdate : row.date = raw.snapshot.id := by
      rw [heq] at hid
      exact hid
    rw [hdate] at hs heq
    exact ⟨row.chainId, by cases row.chainId <;> decide, by rw [hs, Option.map_some, ← heq]⟩
  · rintro ⟨chain, -, hrow⟩
    obtain ⟨s, hs, rfl⟩ := Option.map_eq_some_iff.mp hrow
    refine ⟨⟨?_, rfl⟩, rfl⟩
    have hget := get_category_of_run run raw.snapshot.id chain category
    rw [hs, Option.map_some] at hget
    exact (EntityTable.get_eq_some_iff.mp hget).1

theorem mem_chainsIndexed_iff (run : RollupRun compound es store) {date : String}
    {row : GlobalMetricSnapshot} (h : store.globalMetricSnapshot.get date = some row)
    (chain : ChainId) :
    chain.number ∈ row.chainsIndexed.map ChainId.number ↔
      (latestSnapshot es chain date).isSome := by
  have hinj : Function.Injective ChainId.number := fun _ _ => ChainId.number_injective
  rw [List.mem_map_of_injective hinj, ((rollupInvariant_of_run run).chains date row h).indexed,
    Option.isSome_iff_exists]
  constructor
  · rintro ⟨r, hr, rfl⟩
    obtain ⟨s, hs, -⟩ := (mem_chainRowsOf_iff run).mp hr
    exact ⟨s, hs⟩
  · rintro ⟨s, hs⟩
    have hchain : (s.chainRow date).chainId = chain := by
      rw [Snapshot.chainRow_chainId]
      exact (mem_snapshotsOf (List.mem_of_getLast? hs)).1
    exact ⟨s.chainRow date, (mem_chainRowsOf_iff run).mpr ⟨s, by rw [hchain]; exact hs, rfl⟩, hchain⟩

theorem mem_missingChainIds_iff (chainsIndexed : List ℕ) (chain : ChainId) :
    chain.number ∈ Api.missingChainIds chainsIndexed ↔ chain.number ∉ chainsIndexed := by
  have hall : chain.number ∈ Api.allChainIds := by cases chain <;> decide
  simp [Api.missingChainIds, hall]

/-- The chain rows with the chains that they are stored for. -/
def RawDailyMetric.keyed (raw : RawDailyMetric) : List (ChainId × ChainMetricValues) :=
  raw.chainValues.map (fun row => (row.chainId, row))

/-- Every fetched date row is normalized without an error. -/
theorem normalizeDailyMetric_eq [Zero N] [Add N] (toNumber : BigNumber → N)
    (run : RollupRun compound es store) {raw : RawDailyMetric} (hreads : raw.ReadsFrom store) :
    normalizeDailyMetric toNumber raw = .ok (dailyMetricOf toNumber raw.keyed raw) := by
  have hnamed : namedChainValues raw.chainValues = .ok raw.keyed := by
    refine namedChainValues_eq (fun row hmem => ?_)
    exact blockchain_of_mem run (List.mem_of_mem_filter (hreads.chainValues.mem_iff.mp hmem))
  rw [normalizeDailyMetric, hnamed]
  rfl

/-- The metric of a fetched date row describes its date. -/
theorem describesDay_dailyMetricOf [Zero N] [Add N] (toNumber : BigNumber → N)
    (run : RollupRun compound es store) {raw : RawDailyMetric} (hreads : raw.ReadsFrom store) :
    DescribesDay compound toNumber es raw.snapshot.id (dailyMetricOf toNumber raw.keyed raw) := by
  have inv := rollupInvariant_of_run run
  have hsums := inv.sums _ _ hreads.snapshot
  obtain ⟨before, s, -, hrow⟩ := dateRow_of_run run hreads.snapshot
  have hdate : raw.snapshot.date = raw.snapshot.id := by
    rw [hrow]
    rfl
  have hindexed := mem_chainsIndexed_iff run hreads.snapshot
  have hcontains (chain : ChainId) :
      (raw.snapshot.chainsIndexed.map ChainId.number).contains chain.number =
        (latestSnapshot es chain raw.snapshot.id).isSome := by
    rw [Bool.eq_iff_iff, List.contains_iff_mem]
    exact hindexed chain
  have hmissing (chain : ChainId) :
      (Api.missingChainIds (raw.snapshot.chainsIndexed.map ChainId.number)).contains chain.number =
        (latestSnapshot es chain raw.snapshot.id).isNone := by
    rw [Bool.eq_iff_iff, List.contains_iff_mem, mem_missingChainIds_iff, hindexed]
    cases latestSnapshot es chain raw.snapshot.id <;> simp
  exact
    { ofDate := hdate
      blocks := assignColumn_eq_ofLatest run hreads (fun row => toNumber (.ofInt row.block))
      timestamps := assignColumn_eq_ofLatest run hreads (fun row => toNumber (.ofInt row.timestamp))
      ohmTotalSupply := isSplit_of_run run hreads hsums.ohmTotalSupply
      ohmCirculatingSupply := isSplit_of_run run hreads hsums.ohmCirculatingSupply
      ohmFloatingSupply := isSplit_of_run run hreads hsums.ohmFloatingSupply
      ohmBackedSupply := isSplit_of_run run hreads hsums.ohmBackedSupply
      treasuryMarketValue := isSplit_of_run run hreads hsums.treasuryMarketValue
      treasuryLiquidBacking := isSplit_of_run run hreads hsums.treasuryLiquidBacking
      categories := fun category =>
        ⟨_, categoryRows_perm_latest run hreads category,
          valueOfKey_sumSupplyCategories toNumber _ category⟩
      indexed := hindexed
      missing := fun chain => by
        have h := hmissing chain
        rw [Bool.eq_iff_iff, List.contains_iff_mem, Option.isNone_iff_eq_none] at h
        exact h
      complete := by
        change (_ && (_ && true)) = true ↔ _
        beta_reduce
        rw [hcontains, hcontains, Bool.and_true, Bool.and_eq_true, and_comm]
      chainsComplete := by
        simp only [dailyMetricOf, hcontains]
      chainsFailed := by
        simp only [dailyMetricOf, hmissing]
      timestamp := by
        have hcolumn := funext (assignColumn_eq_ofLatest run hreads (·.timestamp))
        simp only [dailyMetricOf, RawDailyMetric.keyed, hdate, hcolumn]
        exact isLatestTime_metricTimestamp _ _
      values := ⟨raw.snapshot, dayValues_of_run run hreads.snapshot,
        ⟨rfl, rfl, rfl, rfl, rfl, rfl, rfl, rfl, rfl, rfl, rfl⟩⟩ }

/-- Every fetched date row becomes a metric that describes its date. -/
theorem normalizeDailyMetric_of_run [Zero N] [Add N] (toNumber : BigNumber → N)
    (run : RollupRun compound es store) {raw : RawDailyMetric} (hreads : raw.ReadsFrom store) :
    ∃ metric, normalizeDailyMetric toNumber raw = .ok metric ∧
      DescribesDay compound toNumber es raw.snapshot.id metric :=
  ⟨_, normalizeDailyMetric_eq toNumber run hreads, describesDay_dailyMetricOf toNumber run hreads⟩

end

/-! ### A day of two chains -/

/-- The date row of the day with its relations. -/
def mixedRaw : RawDailyMetric where
  snapshot := mixedRow
  chainValues :=
    afterWithdrawal.chainMetricValues.rows.filter (fun row => row.snapshotId = "2023-11-14")
  supplyCategories :=
    afterWithdrawal.chainSupplyCategory.rows.filter (fun row => row.snapshotId = "2023-11-14")

theorem mixedRaw_readsFrom : mixedRaw.ReadsFrom afterWithdrawal where
  snapshot := get_mixedRow
  chainValues := List.Perm.refl _
  supplyCategories := List.Perm.refl _

theorem mixedRaw_described : ∃ metric,
    normalizeDailyMetric id mixedRaw = .ok metric ∧
      DescribesDay id id mixedEvents "2023-11-14" metric :=
  normalizeDailyMetric_of_run id mixedRun mixedRaw_readsFrom

end OlympusMetrics.Publisher
