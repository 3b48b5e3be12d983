import OlympusMetrics.Indexer.GlobalSnapshot

/-!
Runs of the rollup: snapshots of the chains and sOHM rebases, one handler after another.
-/

namespace OlympusMetrics

/-- One snapshot as `updateGlobalMetricSnapshot` receives it, with the answers to its reads. -/
structure Snapshot where
  chain : ChainId
  block : ℕ
  timestamp : ℕ
  records : List SerializedTokenRecord
  supplies : List SerializedTokenSupply
  reads : CanonicalReads
  getWhere : List ChainMetricValues

namespace Snapshot

def date (s : Snapshot) : Option String := snapshotDate s.records s.supplies

/-- The aggregate of the snapshot's own rows. -/
def aggregate (s : Snapshot) (date : String) : PerChainAggregate :=
  computePerChainAggregate (chainConfigs s.chain).chainId (chainConfigs s.chain).blockchain date
    s.block s.timestamp s.records s.supplies

/-- The chain row that the snapshot writes. -/
def chainRow (s : Snapshot) (date : String) : ChainMetricValues :=
  (s.aggregate date).toChainMetricValues

def apply (compound : BigNumber → BigNumber) (s : Snapshot) (store : RollupStore) : RollupStore :=
  updateGlobalMetricSnapshot compound (chainConfigs s.chain) s.reads s.getWhere s.block s.timestamp
    s.records s.supplies store

@[simp] theorem aggregate_chainId (s : Snapshot) (date : String) :
    (s.aggregate date).chainId = s.chain := chainConfigs_chainId s.chain

@[simp] theorem aggregate_date (s : Snapshot) (date : String) : (s.aggregate date).date = date := rfl

@[simp] theorem chainRow_chainId (s : Snapshot) (date : String) :
    (s.chainRow date).chainId = s.chain := chainConfigs_chainId s.chain

@[simp] theorem chainRow_date (s : Snapshot) (date : String) : (s.chainRow date).date = date := rfl

@[simp] theorem chainRow_id (s : Snapshot) (date : String) :
    (s.chainRow date).id = chainValuesId date s.chain := by
  change chainValuesId date (s.aggregate date).chainId = _
  rw [aggregate_chainId]

end Snapshot

inductive RollupEvent
  | snapshot (s : Snapshot)
  | logRebase (chainId : ChainId) (srcAddress : String) (index epoch : ℤ) (block timestamp : ℕ)

def RollupEvent.apply (compound : BigNumber → BigNumber) (store : RollupStore) :
    RollupEvent → RollupStore
  | .snapshot s => s.apply compound store
  | .logRebase chainId srcAddress index epoch block timestamp =>
      applyLogRebase chainId srcAddress index epoch block timestamp store

/-- The stored chain rows of a date. -/
def chainRowsOf (store : RollupStore) (date : String) : List ChainMetricValues :=
  store.chainMetricValues.rows.filter (fun row => row.date = date)

/-- `getWhere` returns every row that earlier handlers committed for the other chains. The row
of the chain itself, which the handler has just set, may be there, stale or missing. -/
structure ReadsCommitted (committed : List ChainMetricValues) (own : ChainId)
    (read : List ChainMetricValues) : Prop where
  others : (read.filter (fun row => row.chainId ≠ own)).Perm
    (committed.filter (fun row => row.chainId ≠ own))
  own : (read.filter (fun row => row.chainId = own)).length ≤ 1

/-- The reads of a snapshot are those of the store it runs on. -/
def Snapshot.ReadsFrom (s : Snapshot) (store : RollupStore) : Prop :=
  ∀ date, s.date = some date → ReadsCommitted (chainRowsOf store date) s.chain s.getWhere

/-- The events and the store after them, from an empty store. -/
inductive RollupRun (compound : BigNumber → BigNumber) : List RollupEvent → RollupStore → Prop
  | nil : RollupRun compound [] RollupStore.empty
  | snapshot {es store} (s : Snapshot) : RollupRun compound es store → s.ReadsFrom store →
      RollupRun compound (es ++ [.snapshot s]) (s.apply compound store)
  | logRebase {es store} (chainId srcAddress index epoch block timestamp) :
      RollupRun compound es store →
      RollupRun compound (es ++ [.logRebase chainId srcAddress index epoch block timestamp])
        (applyLogRebase chainId srcAddress index epoch block timestamp store)

/-- The store after the events. -/
def storeAfter (compound : BigNumber → BigNumber) (es : List RollupEvent) : RollupStore :=
  es.foldl (RollupEvent.apply compound) RollupStore.empty

theorem storeAfter_of_run {compound : BigNumber → BigNumber} {es : List RollupEvent}
    {store : RollupStore} (run : RollupRun compound es store) : storeAfter compound es = store := by
  induction run with
  | nil => rfl
  | snapshot s _ _ ih => rw [storeAfter, List.foldl_append, ← storeAfter, ih]; rfl
  | logRebase _ _ _ _ _ _ _ ih => rw [storeAfter, List.foldl_append, ← storeAfter, ih]; rfl

/-- A snapshot is the last one, of all chains, that produced rows of a date. -/
def LastOfDay (es before : List RollupEvent) (s : Snapshot) (date : String) : Prop :=
  ∃ later, es = before ++ .snapshot s :: later ∧ s.date = some date ∧
    ∀ s', .snapshot s' ∈ later → s'.date ≠ some date

theorem LastOfDay.append {es before : List RollupEvent} {s : Snapshot} {date : String}
    (h : LastOfDay es before s date) {e : RollupEvent}
    (he : ∀ s', e = .snapshot s' → s'.date ≠ some date) : LastOfDay (es ++ [e]) before s date := by
  obtain ⟨later, rfl, hdate, hlater⟩ := h
  refine ⟨later ++ [e], by simp, hdate, fun s' hs' => ?_⟩
  rcases List.mem_append.mp hs' with hs' | hs'
  · exact hlater s' hs'
  · exact he s' (List.mem_singleton.mp hs').symm

theorem lastOfDay_append_snapshot (es : List RollupEvent) {s : Snapshot} {date : String}
    (h : s.date = some date) : LastOfDay (es ++ [.snapshot s]) es s date :=
  ⟨[], rfl, h, fun _ hs => by cases hs⟩

/-- The snapshots of a chain that produced rows of a date, in order. -/
def snapshotsOf (es : List RollupEvent) (chain : ChainId) (date : String) : List Snapshot :=
  es.filterMap (fun e =>
    match e with
    | .snapshot s => if s.chain = chain ∧ s.date = some date then some s else none
    | .logRebase .. => none)

/-- The latest of them. -/
def latestSnapshot (es : List RollupEvent) (chain : ChainId) (date : String) : Option Snapshot :=
  (snapshotsOf es chain date).getLast?

theorem snapshotsOf_append_snapshot (es : List RollupEvent) (s : Snapshot) (chain : ChainId)
    (date : String) :
    snapshotsOf (es ++ [.snapshot s]) chain date =
      snapshotsOf es chain date ++
        if s.chain = chain ∧ s.date = some date then [s] else [] := by
  by_cases h : s.chain = chain ∧ s.date = some date
  · simp [snapshotsOf, List.filterMap_append, h]
  · simp [snapshotsOf, List.filterMap_append, h]

@[simp] theorem snapshotsOf_append_logRebase (es : List RollupEvent) (chain : ChainId)
    (date : String) (chainId srcAddress index epoch block timestamp) :
    snapshotsOf (es ++ [.logRebase chainId srcAddress index epoch block timestamp]) chain date =
      snapshotsOf es chain date := by
  simp [snapshotsOf, List.filterMap_append]

theorem latestSnapshot_append_snapshot (es : List RollupEvent) (s : Snapshot) (chain : ChainId)
    (date : String) :
    latestSnapshot (es ++ [.snapshot s]) chain date =
      if s.chain = chain ∧ s.date = some date then some s else latestSnapshot es chain date := by
  rw [latestSnapshot, snapshotsOf_append_snapshot]
  split
  · simp
  · rw [List.append_nil, latestSnapshot]

@[simp] theorem latestSnapshot_append_logRebase (es : List RollupEvent) (chain : ChainId)
    (date : String) (chainId srcAddress index epoch block timestamp) :
    latestSnapshot (es ++ [.logRebase chainId srcAddress index epoch block timestamp]) chain date =
      latestSnapshot es chain date := by
  rw [latestSnapshot, snapshotsOf_append_logRebase, latestSnapshot]

/-! ### What one event can do to the tables -/

/-- A snapshot without rows writes nothing. -/
theorem Snapshot.apply_of_date_none {compound : BigNumber → BigNumber} {s : Snapshot}
    {store : RollupStore} (h : s.date = none) : s.apply compound store = store := by
  have hdate : snapshotDate s.records s.supplies = none := h
  rw [Snapshot.apply, updateGlobalMetricSnapshot, hdate]

/-- The date row that a snapshot writes. -/
def Snapshot.dateRow (compound : BigNumber → BigNumber) (s : Snapshot) (date : String)
    (store : RollupStore) : GlobalMetricSnapshot :=
  globalMetricSnapshotRow date s.timestamp
    (aggregateAcrossChains date (perChainAggregates (s.aggregate date) s.getWhere))
    (canonicalFields compound (chainConfigs s.chain) s.reads
      (store.globalMetricSnapshot.get date))
    (readOhmIndex store)

/-- The category rows that a snapshot writes. -/
def Snapshot.categoryRows (s : Snapshot) (date : String) : List ChainSupplyCategory :=
  supplyCategoryRows date s.chain (supplyCategories s.supplies)

/-- A snapshot with rows writes the chain row, the date row and its categories, and nothing else. -/
theorem Snapshot.apply_of_date {compound : BigNumber → BigNumber} {s : Snapshot}
    {store : RollupStore} {date : String} (h : s.date = some date) :
    s.apply compound store =
      { chainMetricValues := store.chainMetricValues.set (s.chainRow date)
        globalMetricSnapshot := store.globalMetricSnapshot.set (s.dateRow compound date store)
        chainSupplyCategory := store.chainSupplyCategory.setAll (s.categoryRows date)
        ohmIndexState := store.ohmIndexState } := by
  have hdate : snapshotDate s.records s.supplies = some date := h
  rw [Snapshot.apply, updateGlobalMetricSnapshot, hdate]
  simp only [Snapshot.chainRow, Snapshot.dateRow, Snapshot.categoryRows, Snapshot.aggregate,
    chainConfigs_chainId]
  rfl

/-- A rebase leaves the rollup tables as they are. -/
theorem applyLogRebase_tables (chainId srcAddress index epoch block timestamp)
    (store : RollupStore) :
    (applyLogRebase chainId srcAddress index epoch block timestamp store).chainMetricValues =
        store.chainMetricValues ∧
      (applyLogRebase chainId srcAddress index epoch block timestamp store).globalMetricSnapshot =
        store.globalMetricSnapshot ∧
      (applyLogRebase chainId srcAddress index epoch block timestamp store).chainSupplyCategory =
        store.chainSupplyCategory := by
  rw [applyLogRebase]
  split
  · exact ⟨rfl, rfl, rfl⟩
  · exact ⟨rfl, rfl, rfl⟩

theorem chainValuesId_injective {date date' : String} {chain chain' : ChainId}
    (h : chainValuesId date chain = chainValuesId date' chain') : date = date' ∧ chain = chain' := by
  obtain ⟨hdate, hnumber⟩ := SlashPath.join_inj_last (SlashPath.slashFree_toString _)
    (SlashPath.slashFree_toString _) h
  exact ⟨hdate, ChainId.number_injective (SlashPath.toString_injective hnumber)⟩

/-! ### A day with two snapshots -/

/-- A supply row of 14 November 2023 on Ethereum. -/
def sampleSupply (type : String) (balance : BigNumber) : SerializedTokenSupply :=
  createTokenSupply (chainConfigs .ethereum) 1700000000 "OHM" (chainConfigs .ethereum).ohmToken
    none none none none type balance 18570000

/-- A snapshot of that day with the given supply rows. -/
def sampleSnapshot (block : ℕ) (supplies : List SerializedTokenSupply) : Snapshot where
  chain := .ethereum
  block := block
  timestamp := 1700000000
  records := []
  supplies := supplies
  reads := ⟨.finite 12, some 5000000000, none⟩
  getWhere := []

def liquiditySnapshot : Snapshot :=
  sampleSnapshot 18570000
    [sampleSupply typeTotalSupply (.finite 100), sampleSupply typeLiquidity (.finite 40)]

def withdrawnSnapshot : Snapshot :=
  sampleSnapshot 18572400 [sampleSupply typeTotalSupply (.finite 100)]

theorem sampleSnapshot_date : liquiditySnapshot.date = some "2023-11-14" ∧
    withdrawnSnapshot.date = some "2023-11-14" := by
  decide

theorem sampleSnapshot_readsFrom (block : ℕ) (supplies : List SerializedTokenSupply) :
    (sampleSnapshot block supplies).ReadsFrom RollupStore.empty := by
  intro date _
  exact ⟨List.Perm.refl _, Nat.zero_le _⟩

theorem sampleRun : RollupRun id [.snapshot liquiditySnapshot]
    (liquiditySnapshot.apply id RollupStore.empty) :=
  .snapshot liquiditySnapshot .nil (sampleSnapshot_readsFrom _ _)

/-! ### A day of two chains -/

/-- A snapshot that reads what a store holds of the other chains. -/
def Snapshot.reading (s : Snapshot) (store : RollupStore) : Snapshot :=
  { s with
    getWhere := (s.date.elim [] (chainRowsOf store)).filter (fun row => row.chainId ≠ s.chain) }

theorem Snapshot.readsFrom_reading (s : Snapshot) (store : RollupStore) :
    (s.reading store).ReadsFrom store := by
  intro date hdate
  have hdate' : s.date = some date := hdate
  rw [reading, hdate']
  constructor
  · rw [Option.elim_some, List.filter_filter]
    simp
  · rw [Option.elim_some, List.filter_filter]
    simp

def bridgedSnapshot : Snapshot where
  chain := .arbitrum
  block := 150000000
  timestamp := 1700003600
  records := []
  supplies :=
    [createTokenSupply (chainConfigs .arbitrum) 1700003600 "OHM" (chainConfigs .arbitrum).ohmToken
      none none none none typeTotalSupply (.finite 7) 150000000]
  reads := ⟨0, none, none⟩
  getWhere := []

def afterEthereum : RollupStore := liquiditySnapshot.apply id RollupStore.empty

def afterArbitrum : RollupStore := (bridgedSnapshot.reading afterEthereum).apply id afterEthereum

/-- An index of 250 is stored. -/
def afterRebase : RollupStore :=
  applyLogRebase .ethereum (canonicalSOhm.getD "") 250000000000 1900 18571000 1700004000 afterArbitrum

/-- Ethereum has withdrawn its liquidity. -/
def afterWithdrawal : RollupStore := (withdrawnSnapshot.reading afterRebase).apply id afterRebase

/-- Ethereum, Arbitrum, a rebase, and Ethereum again. -/
def mixedEvents : List RollupEvent :=
  [.snapshot liquiditySnapshot, .snapshot (bridgedSnapshot.reading afterEthereum),
   .logRebase .ethereum (canonicalSOhm.getD "") 250000000000 1900 18571000 1700004000,
   .snapshot (withdrawnSnapshot.reading afterRebase)]

theorem mixedRun : RollupRun id mixedEvents afterWithdrawal := by
  have harbitrum := sampleRun.snapshot _ (bridgedSnapshot.readsFrom_reading afterEthereum)
  have hrebase := harbitrum.logRebase .ethereum (canonicalSOhm.getD "") 250000000000 1900 18571000
    1700004000
  exact hrebase.snapshot _ (withdrawnSnapshot.readsFrom_reading afterRebase)

/-- The row of the day. -/
def mixedRow : GlobalMetricSnapshot :=
  (withdrawnSnapshot.reading afterRebase).dateRow id "2023-11-14" afterRebase

theorem get_mixedRow :
    afterWithdrawal.globalMetricSnapshot.get "2023-11-14" = some mixedRow := by
  have hdate : (withdrawnSnapshot.reading afterRebase).date = some "2023-11-14" :=
    sampleSnapshot_date.2
  rw [afterWithdrawal, Snapshot.apply_of_date hdate]
  exact EntityTable.get_set_self _ _

end OlympusMetrics
