import OlympusMetrics.Indexer.RollupRun

/-!
The daily rollup invariant: the date row is the sum of the latest snapshot of each chain.
-/

namespace OlympusMetrics

/-! ### The chain rows of a date -/

/-- Every chain row is stored under the id of its date and chain. -/
def ChainRowsKeyed (store : RollupStore) : Prop :=
  ∀ row ∈ store.chainMetricValues.rows, row.id = chainValuesId row.date row.chainId

/-- Of the rows of a date, a keyed write replaces those of its own chain. -/
theorem chainRows_set {rows : EntityTable ChainMetricValues.id}
    (keyed : ∀ row ∈ rows.rows, row.id = chainValuesId row.date row.chainId)
    {row : ChainMetricValues} (hrow : row.id = chainValuesId row.date row.chainId) (date : String) :
    (rows.set row).rows.filter (fun r => r.date = date) =
      if row.date = date then
        (rows.rows.filter (fun r => r.date = date)).filter (fun r => r.chainId ≠ row.chainId) ++ [row]
      else rows.rows.filter (fun r => r.date = date) := by
  rw [EntityTable.rows_set, List.filter_append, List.filter_filter]
  split
  · next hdate =>
      subst hdate
      rw [List.filter_filter]
      congr 1
      · apply List.filter_congr
        intro r hr
        have hiff : r.id = row.id ↔ r.date = row.date ∧ r.chainId = row.chainId := by
          rw [keyed r hr, hrow]
          exact ⟨chainValuesId_injective, fun h => by rw [h.1, h.2]⟩
        grind
      · simp
  · next hdate =>
      have hlast : [row].filter (fun r => decide (r.date = date)) = [] := by simp [hdate]
      rw [hlast, List.append_nil]
      apply List.filter_congr
      intro r hr
      have hne : r.date = date → r.id ≠ row.id := by
        intro h hid
        rw [keyed r hr, hrow] at hid
        exact hdate ((chainValuesId_injective hid).1.symm.trans h)
      grind

theorem chainRowsOf_apply {compound : BigNumber → BigNumber} {s : Snapshot} {store : RollupStore}
    (keyed : ChainRowsKeyed store) {d : String} (h : s.date = some d) (date : String) :
    chainRowsOf (s.apply compound store) date =
      if d = date then
        (chainRowsOf store d).filter (fun r => r.chainId ≠ s.chain) ++ [s.chainRow d]
      else chainRowsOf store date := by
  rw [chainRowsOf, Snapshot.apply_of_date h]
  rw [chainRows_set keyed (by rw [s.chainRow_id, s.chainRow_chainId, s.chainRow_date]) date]
  simp only [Snapshot.chainRow_date, Snapshot.chainRow_chainId]
  split
  · next hd => rw [hd, chainRowsOf]
  · rfl

/-! ### The aggregates a snapshot sums over -/

/-- The aggregates are those of the other chains' committed rows and the snapshot's own. -/
theorem perChainAggregates_perm {thisChain : PerChainAggregate}
    {committed read : List ChainMetricValues}
    (h : ReadsCommitted committed thisChain.chainId read) :
    (perChainAggregates thisChain read).Perm
      ((committed.filter (fun row => row.chainId ≠ thisChain.chainId)).map
        ChainMetricValues.toPerChainAggregate ++ [thisChain]) := by
  let replace : ChainMetricValues → PerChainAggregate := fun entity =>
    if entity.chainId = thisChain.chainId then thisChain else entity.toPerChainAggregate
  let others := read.filter (fun row => row.chainId ≠ thisChain.chainId)
  let own := read.filter (fun row => row.chainId = thisChain.chainId)
  have hreplaceOthers : others.map replace = others.map ChainMetricValues.toPerChainAggregate := by
    apply List.map_congr_left
    intro row hrow
    have hne : row.chainId ≠ thisChain.chainId := by simpa using (List.mem_filter.mp hrow).2
    simp [replace, hne]
  have hsplit : read.Perm (others ++ own) := by
    have hperm := List.filter_append_perm (fun row => decide (row.chainId ≠ thisChain.chainId)) read
    simpa [others, own] using hperm.symm
  have hmap : (read.map replace).Perm
      (others.map ChainMetricValues.toPerChainAggregate ++ own.map replace) := by
    rw [← hreplaceOthers, ← List.map_append]
    exact hsplit.map replace
  have hothers : (others.map ChainMetricValues.toPerChainAggregate).Perm
      ((committed.filter (fun row => row.chainId ≠ thisChain.chainId)).map
        ChainMetricValues.toPerChainAggregate) := h.others.map _
  have hany : (read.map replace).any (fun aggregate => aggregate.chainId == thisChain.chainId) =
      own.any (fun _ => true) := by
    rw [hmap.any_eq, List.any_append, List.any_map, List.any_map]
    have hnone : others.any ((fun aggregate => aggregate.chainId == thisChain.chainId) ∘
        ChainMetricValues.toPerChainAggregate) = false := by
      rw [List.any_eq_false]
      intro row hrow
      have hne : row.chainId ≠ thisChain.chainId := by simpa using (List.mem_filter.mp hrow).2
      simpa [ChainMetricValues.toPerChainAggregate] using hne
    have hall : own.any ((fun aggregate => aggregate.chainId == thisChain.chainId) ∘ replace) =
        own.any (fun _ => true) := by
      rw [Bool.eq_iff_iff, List.any_eq_true, List.any_eq_true]
      constructor
      · rintro ⟨row, hrow, -⟩
        exact ⟨row, hrow, rfl⟩
      · rintro ⟨row, hrow, -⟩
        have heq : row.chainId = thisChain.chainId := by simpa using (List.mem_filter.mp hrow).2
        exact ⟨row, hrow, by simp [replace, heq]⟩
    rw [hnone, hall, Bool.false_or]
  have hown : own.length ≤ 1 := h.own
  rw [perChainAggregates]
  cases hcases : own with
  | nil =>
      have hfalse : (read.map replace).any
          (fun aggregate => aggregate.chainId == thisChain.chainId) = false := by
        rw [hany, hcases, List.any_nil]
      rw [if_neg (by rw [hfalse]; exact Bool.false_ne_true)]
      rw [hcases, List.map_nil, List.append_nil] at hmap
      exact (hmap.trans hothers).append_right _
  | cons row rest =>
      have hrest : rest = [] := by
        rw [hcases, List.length_cons] at hown
        exact List.length_eq_zero_iff.mp (by omega)
      have htrue : (read.map replace).any
          (fun aggregate => aggregate.chainId == thisChain.chainId) = true := by
        rw [hany, hcases, List.any_cons, Bool.true_or]
      rw [if_pos htrue]
      have hrow : row.chainId = thisChain.chainId := by
        have hmem : row ∈ own := hcases ▸ List.mem_cons_self
        simpa using (List.mem_filter.mp hmem).2
      rw [hcases, hrest, List.map_singleton] at hmap
      have hreplaceRow : replace row = thisChain := by simp [replace, hrow]
      rw [hreplaceRow] at hmap
      exact hmap.trans (hothers.append_right _)

/-- A field summed over the aggregates is the field summed over the rows that are then stored. -/
theorem sumField_perChainAggregates {thisChain : PerChainAggregate}
    {committed read : List ChainMetricValues}
    (h : ReadsCommitted committed thisChain.chainId read)
    {field : PerChainAggregate → BigNumber} {column : ChainMetricValues → BigNumber}
    (hread : ∀ row : ChainMetricValues, field row.toPerChainAggregate = column row)
    (hwritten : column thisChain.toChainMetricValues = field thisChain) :
    sumField field (perChainAggregates thisChain read) =
      ((committed.filter (fun row => row.chainId ≠ thisChain.chainId) ++
        [thisChain.toChainMetricValues]).map column).sum := by
  rw [sumField_eq_sum, ((perChainAggregates_perm h).map field).sum_eq]
  rw [List.map_append, List.map_append, List.map_map, List.map_singleton, List.map_singleton,
    hwritten]
  have hcolumn : (field ∘ ChainMetricValues.toPerChainAggregate) = column := funext hread
  rw [hcolumn]

theorem chainIds_perChainAggregates {thisChain : PerChainAggregate}
    {committed read : List ChainMetricValues}
    (h : ReadsCommitted committed thisChain.chainId read) :
    ((perChainAggregates thisChain read).map (·.chainId)).Perm
      ((committed.filter (fun row => row.chainId ≠ thisChain.chainId) ++
        [thisChain.toChainMetricValues]).map (·.chainId)) := by
  have hperm := (perChainAggregates_perm h).map (·.chainId)
  rw [List.map_append, List.map_map] at hperm
  rw [List.map_append]
  exact hperm

/-! ### The invariant -/

/-- The additive fields of a date row are the sums over the chain rows of its date. -/
structure SumsChainRows (rows : List ChainMetricValues) (row : GlobalMetricSnapshot) : Prop where
  ohmTotalSupply : row.ohmTotalSupply = (rows.map (·.ohmTotalSupply)).sum
  ohmCirculatingSupply : row.ohmCirculatingSupply = (rows.map (·.ohmCirculatingSupply)).sum
  ohmFloatingSupply : row.ohmFloatingSupply = (rows.map (·.ohmFloatingSupply)).sum
  ohmBackedSupply : row.ohmBackedSupply = (rows.map (·.ohmBackedSupply)).sum
  treasuryMarketValue : row.treasuryMarketValue = (rows.map (·.treasuryMarketValue)).sum
  treasuryLiquidBacking : row.treasuryLiquidBacking = (rows.map (·.treasuryLiquidBacking)).sum

/-- The chain lists of a date row name exactly the chains with a row. -/
structure ListsChains (rows : List ChainMetricValues) (row : GlobalMetricSnapshot) : Prop where
  nodup : row.chainsIndexed.Nodup
  indexed : ∀ chain, chain ∈ row.chainsIndexed ↔ ∃ r ∈ rows, r.chainId = chain
  missing : ∀ chain, chain ∈ row.chainsMissing ↔ chain ∉ row.chainsIndexed
  complete : row.crossChainComplete = true ↔
    ChainId.ethereum ∈ row.chainsIndexed ∧ ChainId.arbitrum ∈ row.chainsIndexed

/-- Every derived field is its formula applied to the row's own fields. -/
structure DerivesFields (row : GlobalMetricSnapshot) : Prop where
  marketCap : row.marketCap = row.ohmPrice.times row.ohmCirculatingSupply
  gOhmPrice : row.gOhmPrice = row.ohmPrice.times row.ohmIndex
  sOhmTotalValueLocked : row.sOhmTotalValueLocked = row.sOhmCirculatingSupply.times row.ohmPrice
  gOhmBackedSupply : row.gOhmBackedSupply =
    if row.ohmBackedSupply = 0 ∨ row.ohmIndex = 0 then 0 else row.ohmBackedSupply.div row.ohmIndex
  perOhmFloating : row.treasuryLiquidBackingPerOhmFloating =
    if row.ohmFloatingSupply = 0 then 0 else row.treasuryLiquidBacking.div row.ohmFloatingSupply
  perOhmBacked : row.treasuryLiquidBackingPerOhmBacked =
    if row.ohmBackedSupply = 0 then 0 else row.treasuryLiquidBacking.div row.ohmBackedSupply
  perGOhmBacked : row.treasuryLiquidBackingPerGOhmBacked =
    if row.gOhmBackedSupply = 0 then 0 else row.treasuryLiquidBacking.div row.gOhmBackedSupply

/-- What holds of the row of a date after the events. -/
structure DateRollup (compound : BigNumber → BigNumber) (es : List RollupEvent)
    (store : RollupStore) (date : String) (row : GlobalMetricSnapshot) : Prop where
  chainRow : ∀ chain, store.chainMetricValues.get (chainValuesId date chain) =
    (latestSnapshot es chain date).map (fun s => s.chainRow date)
  chainRowOnce : ((chainRowsOf store date).map (·.chainId)).Nodup
  sums : SumsChainRows (chainRowsOf store date) row
  chains : ListsChains (chainRowsOf store date) row
  derived : DerivesFields row
  canonical : ∀ s, latestSnapshot es .ethereum date = some s →
    (⟨row.ohmPrice, row.sOhmCirculatingSupply, row.ohmApy⟩ : CanonicalFields) =
      computeCanonicalFields compound (chainConfigs .ethereum) s.reads

/-! ### What a snapshot writes -/

theorem sumsChainRows_dateRow (compound : BigNumber → BigNumber) {s : Snapshot}
    {store : RollupStore} {date : String}
    (h : ReadsCommitted (chainRowsOf store date) s.chain s.getWhere) :
    SumsChainRows ((chainRowsOf store date).filter (fun r => r.chainId ≠ s.chain) ++
      [s.chainRow date]) (s.dateRow compound date store) := by
  have hreads : ReadsCommitted (chainRowsOf store date) (s.aggregate date).chainId s.getWhere := by
    rw [s.aggregate_chainId]
    exact h
  have hsum {field : PerChainAggregate → BigNumber} {column : ChainMetricValues → BigNumber}
      (hread : ∀ row : ChainMetricValues, field row.toPerChainAggregate = column row)
      (hwritten : column (s.chainRow date) = field (s.aggregate date)) :
      sumField field (perChainAggregates (s.aggregate date) s.getWhere) =
        (((chainRowsOf store date).filter (fun r => r.chainId ≠ s.chain) ++
          [s.chainRow date]).map column).sum := by
    have h := sumField_perChainAggregates hreads hread hwritten
    rwa [s.aggregate_chainId] at h
  exact
    { ohmTotalSupply := hsum (fun _ => rfl) rfl
      ohmCirculatingSupply := hsum (fun _ => rfl) rfl
      ohmFloatingSupply := hsum (fun _ => rfl) rfl
      ohmBackedSupply := hsum (fun _ => rfl) rfl
      treasuryMarketValue := hsum (fun _ => rfl) rfl
      treasuryLiquidBacking := hsum (fun _ => rfl) rfl }

theorem listsChains_dateRow (compound : BigNumber → BigNumber) {s : Snapshot}
    {store : RollupStore} {date : String}
    (h : ReadsCommitted (chainRowsOf store date) s.chain s.getWhere)
    (hnodup : ((chainRowsOf store date).map (·.chainId)).Nodup) :
    ListsChains ((chainRowsOf store date).filter (fun r => r.chainId ≠ s.chain) ++
      [s.chainRow date]) (s.dateRow compound date store) := by
  have hreads : ReadsCommitted (chainRowsOf store date) (s.aggregate date).chainId s.getWhere := by
    rw [s.aggregate_chainId]
    exact h
  have hperm := chainIds_perChainAggregates hreads
  rw [s.aggregate_chainId] at hperm
  refine ⟨?_, ?_, ?_, ?_⟩
  · refine hperm.nodup_iff.mpr ?_
    rw [List.map_append, List.nodup_append]
    refine ⟨hnodup.sublist (List.filter_sublist.map _), List.nodup_singleton _, ?_⟩
    intro chain hchain other hother
    obtain ⟨row, hrow, rfl⟩ := List.mem_map.mp hchain
    obtain rfl : other = s.chain := by
      rw [List.map_singleton, List.mem_singleton] at hother
      exact hother.trans (s.chainRow_chainId date)
    simpa using (List.mem_filter.mp hrow).2
  · intro chain
    rw [← List.mem_map]
    exact hperm.mem_iff
  · intro chain
    have hmissing : (s.dateRow compound date store).chainsMissing = allChainIds.filter
        (fun chainId => !(s.dateRow compound date store).chainsIndexed.contains chainId) := rfl
    rw [hmissing]
    simp [mem_allChainIds]
  · have hcomplete : (s.dateRow compound date store).crossChainComplete =
        requiredChainsForComplete.all (s.dateRow compound date store).chainsIndexed.contains := rfl
    rw [hcomplete]
    simp [requiredChainsForComplete, and_comm]

theorem derivesFields_globalMetricSnapshotRow (date : String) (timestamp : ℕ)
    (aggregate : CrossChainAggregate) (canonical : CanonicalFields) (ohmIndex : BigNumber) :
    DerivesFields (globalMetricSnapshotRow date timestamp aggregate canonical ohmIndex) := by
  constructor <;>
    simp [globalMetricSnapshotRow, computeDerivedRatios, ratio, BigNumber.eq_zero_iff]

/-- The canonical fields of a written date row, whatever the chain. -/
theorem canonicalFields_dateRow (compound : BigNumber → BigNumber) (s : Snapshot) (date : String)
    (store : RollupStore) :
    (⟨(s.dateRow compound date store).ohmPrice,
      (s.dateRow compound date store).sOhmCirculatingSupply,
      (s.dateRow compound date store).ohmApy⟩ : CanonicalFields) =
      canonicalFields compound (chainConfigs s.chain) s.reads
        (store.globalMetricSnapshot.get date) := rfl

theorem canonicalFields_ethereum (compound : BigNumber → BigNumber) {config : ChainConfig}
    (reads : CanonicalReads) (existing : Option GlobalMetricSnapshot)
    (h : config.chainId = .ethereum) :
    canonicalFields compound config reads existing = computeCanonicalFields compound config reads :=
  if_pos h

theorem canonicalFields_other (compound : BigNumber → BigNumber) {config : ChainConfig}
    (reads : CanonicalReads) (row : GlobalMetricSnapshot) (h : config.chainId ≠ .ethereum) :
    canonicalFields compound config reads (some row) =
      ⟨row.ohmPrice, row.sOhmCirculatingSupply, row.ohmApy⟩ :=
  if_neg h

/-! ### Runs -/

/-- Rows of one date belong to different chains. -/
theorem chainIds_nodup {store : RollupStore} (keyed : ChainRowsKeyed store) (date : String) :
    ((chainRowsOf store date).map (·.chainId)).Nodup := by
  have hids : ((chainRowsOf store date).map ChainMetricValues.id).Nodup :=
    store.chainMetricValues.nodup_ids.sublist (List.filter_sublist.map _)
  have hid : (chainRowsOf store date).map ChainMetricValues.id =
      ((chainRowsOf store date).map (·.chainId)).map (chainValuesId date) := by
    rw [List.map_map]
    apply List.map_congr_left
    intro row hrow
    obtain ⟨hmem, hdate⟩ := List.mem_filter.mp hrow
    rw [keyed row hmem, of_decide_eq_true hdate, Function.comp]
  rw [hid] at hids
  exact hids.of_map _

/-- The facts about all dates that every event preserves. -/
structure RollupInvariant (compound : BigNumber → BigNumber) (es : List RollupEvent)
    (store : RollupStore) : Prop where
  keyed : ChainRowsKeyed store
  chainRow : ∀ date chain, store.chainMetricValues.get (chainValuesId date chain) =
    (latestSnapshot es chain date).map (fun s => s.chainRow date)
  written : ∀ date chain s, latestSnapshot es chain date = some s →
    ∃ row, store.globalMetricSnapshot.get date = some row
  sums : ∀ date row, store.globalMetricSnapshot.get date = some row →
    SumsChainRows (chainRowsOf store date) row
  chains : ∀ date row, store.globalMetricSnapshot.get date = some row →
    ListsChains (chainRowsOf store date) row
  derived : ∀ date row, store.globalMetricSnapshot.get date = some row → DerivesFields row
  canonical : ∀ date row, store.globalMetricSnapshot.get date = some row →
    ∀ s, latestSnapshot es .ethereum date = some s →
      (⟨row.ohmPrice, row.sOhmCirculatingSupply, row.ohmApy⟩ : CanonicalFields) =
        computeCanonicalFields compound (chainConfigs .ethereum) s.reads

theorem rollupInvariant_empty (compound : BigNumber → BigNumber) :
    RollupInvariant compound [] RollupStore.empty where
  keyed _ h := absurd h List.not_mem_nil
  chainRow _ _ := rfl
  written _ _ _ h := by cases h
  sums _ _ h := by cases h
  chains _ _ h := by cases h
  derived _ _ h := by cases h
  canonical _ _ h := by cases h

/-- A rebase changes no row of the rollup. -/
theorem rollupInvariant_logRebase {compound : BigNumber → BigNumber} {es : List RollupEvent}
    {store : RollupStore} (inv : RollupInvariant compound es store)
    (chainId srcAddress index epoch block timestamp) :
    RollupInvariant compound
      (es ++ [.logRebase chainId srcAddress index epoch block timestamp])
      (applyLogRebase chainId srcAddress index epoch block timestamp store) := by
  obtain ⟨hvalues, hglobal, -⟩ :=
    applyLogRebase_tables chainId srcAddress index epoch block timestamp store
  constructor
  · intro row hrow
    rw [hvalues] at hrow
    exact inv.keyed row hrow
  · intro date chain
    rw [hvalues, latestSnapshot_append_logRebase]
    exact inv.chainRow date chain
  · intro date chain s hs
    rw [latestSnapshot_append_logRebase] at hs
    rw [hglobal]
    exact inv.written date chain s hs
  · intro date row hrow
    rw [hglobal] at hrow
    rw [chainRowsOf, hvalues]
    exact inv.sums date row hrow
  · intro date row hrow
    rw [hglobal] at hrow
    rw [chainRowsOf, hvalues]
    exact inv.chains date row hrow
  · intro date row hrow
    rw [hglobal] at hrow
    exact inv.derived date row hrow
  · intro date row hrow s hs
    rw [hglobal] at hrow
    rw [latestSnapshot_append_logRebase] at hs
    exact inv.canonical date row hrow s hs

/-- A snapshot that writes rows re-establishes the facts of its own date and keeps the others. -/
theorem rollupInvariant_snapshot_of_date {compound : BigNumber → BigNumber}
    {es : List RollupEvent} {store : RollupStore} (inv : RollupInvariant compound es store)
    {s : Snapshot} {d : String} (hd : s.date = some d)
    (hreads : ReadsCommitted (chainRowsOf store d) s.chain s.getWhere) :
    RollupInvariant compound (es ++ [.snapshot s]) (s.apply compound store) := by
  have hrows : ∀ date, chainRowsOf (s.apply compound store) date = _ :=
    chainRowsOf_apply inv.keyed hd
  have happly : s.apply compound store = _ := Snapshot.apply_of_date hd
  have hglobal (date : String) : (s.apply compound store).globalMetricSnapshot.get date =
      if date = d then some (s.dateRow compound d store)
      else store.globalMetricSnapshot.get date := by
    rw [happly]
    exact EntityTable.get_set _ _ _
  constructor
  · intro row hrow
    rw [happly] at hrow
    rcases EntityTable.mem_rows_set.mp hrow with rfl | ⟨hrow, -⟩
    · rw [s.chainRow_id, s.chainRow_date, s.chainRow_chainId]
    · exact inv.keyed row hrow
  · intro date chain
    rw [happly, latestSnapshot_append_snapshot]
    rw [EntityTable.get_set, s.chainRow_id]
    by_cases hsame : s.chain = chain ∧ s.date = some date
    · obtain ⟨rfl, hdate⟩ := hsame
      obtain rfl : d = date := Option.some.inj (hd.symm.trans hdate)
      simp [hd]
    · have hne : chainValuesId date chain ≠ chainValuesId d s.chain := by
        intro hid
        obtain ⟨rfl, rfl⟩ := chainValuesId_injective hid
        exact hsame ⟨rfl, hd⟩
      rw [if_neg hne, if_neg hsame]
      exact inv.chainRow date chain
  · intro date chain s' hs'
    rw [hglobal]
    split
    · exact ⟨_, rfl⟩
    · next hne =>
        have hother : ¬(s.chain = chain ∧ s.date = some date) := by
          rintro ⟨-, hdate⟩
          exact hne (Option.some.inj (hdate.symm.trans hd))
        rw [latestSnapshot_append_snapshot, if_neg hother] at hs'
        exact inv.written date chain s' hs'
  · intro date row hrow
    rw [hglobal] at hrow
    rw [hrows]
    split at hrow
    · next heq =>
        obtain rfl := Option.some.inj hrow
        subst heq
        rw [if_pos rfl]
        exact sumsChainRows_dateRow compound hreads
    · next hne =>
        rw [if_neg (Ne.symm hne)]
        exact inv.sums date row hrow
  · intro date row hrow
    rw [hglobal] at hrow
    rw [hrows]
    split at hrow
    · next heq =>
        obtain rfl := Option.some.inj hrow
        subst heq
        rw [if_pos rfl]
        exact listsChains_dateRow compound hreads (chainIds_nodup inv.keyed date)
    · next hne =>
        rw [if_neg (Ne.symm hne)]
        exact inv.chains date row hrow
  · intro date row hrow
    rw [hglobal] at hrow
    split at hrow
    · obtain rfl := Option.some.inj hrow
      exact derivesFields_globalMetricSnapshotRow _ _ _ _ _
    · exact inv.derived date row hrow
  · intro date row hrow s' hs'
    rw [hglobal] at hrow
    rw [latestSnapshot_append_snapshot] at hs'
    split at hrow
    · next heq =>
        obtain rfl := Option.some.inj hrow
        subst heq
        rw [canonicalFields_dateRow]
        by_cases heth : s.chain = .ethereum
        · rw [if_pos ⟨heth, hd⟩] at hs'
          obtain rfl := Option.some.inj hs'
          rw [heth, canonicalFields_ethereum _ _ _ (chainConfigs_chainId .ethereum)]
        · -- Another chain's write copies the row that the last Ethereum snapshot left.
          rw [if_neg (fun h => heth h.1)] at hs'
          obtain ⟨old, hold⟩ := inv.written date .ethereum s' hs'
          rw [hold, canonicalFields_other _ _ _ (by rwa [chainConfigs_chainId])]
          exact inv.canonical date old hold s' hs'
    · next hne =>
        have hother : ¬(s.chain = .ethereum ∧ s.date = some date) := by
          rintro ⟨-, hdate⟩
          exact hne (Option.some.inj (hdate.symm.trans hd))
        rw [if_neg hother] at hs'
        exact inv.canonical date row hrow s' hs'

theorem rollupInvariant_snapshot {compound : BigNumber → BigNumber} {es : List RollupEvent}
    {store : RollupStore} (inv : RollupInvariant compound es store) {s : Snapshot}
    (hreads : s.ReadsFrom store) :
    RollupInvariant compound (es ++ [.snapshot s]) (s.apply compound store) := by
  cases hd : s.date with
  | some d => exact rollupInvariant_snapshot_of_date inv hd (hreads d hd)
  | none =>
      have hlatest (chain : ChainId) (date : String) :
          latestSnapshot (es ++ [.snapshot s]) chain date = latestSnapshot es chain date := by
        rw [latestSnapshot_append_snapshot, if_neg (by simp [hd])]
      rw [Snapshot.apply_of_date_none hd]
      exact
        { keyed := inv.keyed
          chainRow := fun date chain => by rw [hlatest]; exact inv.chainRow date chain
          written := fun date chain s' h => by
            rw [hlatest] at h
            exact inv.written date chain s' h
          sums := inv.sums
          chains := inv.chains
          derived := inv.derived
          canonical := fun date row hrow s' h => by
            rw [hlatest] at h
            exact inv.canonical date row hrow s' h }

theorem rollupInvariant_of_run {compound : BigNumber → BigNumber} {es : List RollupEvent}
    {store : RollupStore} (run : RollupRun compound es store) :
    RollupInvariant compound es store := by
  induction run with
  | nil => exact rollupInvariant_empty compound
  | snapshot s _ hreads ih => exact rollupInvariant_snapshot ih hreads
  | logRebase chainId srcAddress index epoch block timestamp _ ih =>
      exact rollupInvariant_logRebase ih chainId srcAddress index epoch block timestamp

/-- After every run, every date row is the rollup of the latest snapshots of its date. -/
theorem dateRollup_of_run {compound : BigNumber → BigNumber} {es : List RollupEvent}
    {store : RollupStore} (run : RollupRun compound es store) {date : String}
    {row : GlobalMetricSnapshot} (h : store.globalMetricSnapshot.get date = some row) :
    DateRollup compound es store date row := by
  have inv := rollupInvariant_of_run run
  exact
    { chainRow := inv.chainRow date
      chainRowOnce := chainIds_nodup inv.keyed date
      sums := inv.sums date row h
      chains := inv.chains date row h
      derived := inv.derived date row h
      canonical := inv.canonical date row h }

theorem dateRollup_of_mixedRun :
    DateRollup id mixedEvents afterWithdrawal "2023-11-14" mixedRow :=
  dateRollup_of_run mixedRun get_mixedRow

/-- Both chains count, and the latest snapshot of Ethereum has no liquidity to take off. -/
example : mixedRow.ohmTotalSupply = .finite 107 ∧ mixedRow.ohmFloatingSupply = .finite 107 ∧
    mixedRow.ohmIndex = .finite 250 ∧ mixedRow.crossChainComplete = true := by
  decide +kernel

end OlympusMetrics
