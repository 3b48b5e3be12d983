import OlympusMetrics.Indexer.DailyRollup

/-!
Category rows: which snapshot of a date and chain each stored category row comes from.
-/

namespace OlympusMetrics

/-- The row type that is counted under a category. -/
def SupplyCategoryType.type : SupplyCategoryType → String
  | .totalSupply => typeTotalSupply
  | .treasury => typeTreasury
  | .ohmMigrationOffset => typeOffset
  | .bondsPreminted => typeBondsPreminted
  | .bondsVestingDeposits => typeBondsVestingDeposits
  | .bondsVestingTokens => typeBondsVestingTokens
  | .bondsDeposits => typeBondsDeposits
  | .liquidity => typeLiquidity
  | .boostedLiquidityVault => typeBlv
  | .lending => typeLending

theorem categoryTypeToEnum_type (category : SupplyCategoryType) :
    categoryTypeToEnum category.type = some category := by
  cases category <;> decide

/-- Every member of the enumeration stands for one row type. -/
theorem categoryTypeToEnum_eq_some_iff {type : String} {category : SupplyCategoryType} :
    categoryTypeToEnum type = some category ↔ type = category.type := by
  constructor
  · intro h
    obtain ⟨before, after, hlist, -⟩ := List.lookup_eq_some_iff.mp h
    have hmem : (type, category) ∈ before ++ (type, category) :: after :=
      List.mem_append_right _ List.mem_cons_self
    rw [← hlist] at hmem
    simp only [List.mem_cons, Prod.mk.injEq, List.not_mem_nil, or_false] at hmem
    rcases hmem with ⟨rfl, rfl⟩ | ⟨rfl, rfl⟩ | ⟨rfl, rfl⟩ | ⟨rfl, rfl⟩ | ⟨rfl, rfl⟩ | ⟨rfl, rfl⟩ |
      ⟨rfl, rfl⟩ | ⟨rfl, rfl⟩ | ⟨rfl, rfl⟩ | ⟨rfl, rfl⟩ <;> rfl
  · rintro rfl
    exact categoryTypeToEnum_type category

theorem SupplyCategoryType.text_injective {a b : SupplyCategoryType} (h : a.text = b.text) :
    a = b := by
  revert h
  cases a <;> cases b <;> decide

theorem SupplyCategoryType.slashFree_text (category : SupplyCategoryType) :
    SlashPath.SlashFree category.text := by
  cases category <;> decide

theorem supplyCategoryId_injective {date date' : String} {chain chain' : ChainId}
    {category category' : SupplyCategoryType}
    (h : supplyCategoryId date chain category = supplyCategoryId date' chain' category') :
    date = date' ∧ chain = chain' ∧ category = category' := by
  obtain ⟨hchain, htext⟩ := SlashPath.join_inj_last category.slashFree_text
    category'.slashFree_text h
  obtain ⟨hdate, hchain⟩ := chainValuesId_injective hchain
  exact ⟨hdate, hchain, SupplyCategoryType.text_injective htext⟩

/-! ### The rows of one snapshot -/

/-- A supply row of the snapshot is counted under the category. -/
def Snapshot.Produces (s : Snapshot) (category : SupplyCategoryType) : Prop :=
  ∃ supply ∈ s.supplies, categoryTypeToEnum supply.type = some category

instance (s : Snapshot) (category : SupplyCategoryType) : Decidable (s.Produces category) :=
  inferInstanceAs (Decidable (∃ supply ∈ s.supplies, categoryTypeToEnum supply.type = some category))

theorem Snapshot.produces_iff {s : Snapshot} {category : SupplyCategoryType} :
    s.Produces category ↔ category.type ∈ s.supplies.map (·.type) := by
  simp only [Produces, categoryTypeToEnum_eq_some_iff, List.mem_map]

/-- The category row with the snapshot's summed balances. -/
def Snapshot.categoryRow (s : Snapshot) (date : String) (category : SupplyCategoryType) :
    ChainSupplyCategory where
  id := supplyCategoryId date s.chain category
  snapshotId := date
  chainId := s.chain
  date := date
  category := category
  balance := (bucketOf category.type s.supplies).balance
  supplyBalance := (bucketOf category.type s.supplies).supplyBalance

/-- A snapshot writes one row for each category it produces, with the summed balances. -/
theorem Snapshot.mem_categoryRows {s : Snapshot} {date : String} {row : ChainSupplyCategory} :
    row ∈ s.categoryRows date ↔ ∃ category, s.Produces category ∧ row = s.categoryRow date category := by
  have hentry (type : String) (bucket : Bucket) :
      (⟨type, bucket⟩ : Sigma fun _ : String => Bucket) ∈ (supplyCategories s.supplies).entries ↔
        type ∈ s.supplies.map (·.type) ∧ bucket = bucketOf type s.supplies := by
    rw [← AList.mem_lookup_iff, lookup_supplyCategories]
    split
    · next h => simp [h, eq_comm]
    · next h => simp [h]
  simp only [categoryRows, supplyCategoryRows, List.mem_filterMap, Option.map_eq_some_iff,
    toBigDecimal_eq]
  constructor
  · rintro ⟨⟨type, bucket⟩, hmem, category, hcategory, rfl⟩
    obtain ⟨htype, rfl⟩ := (hentry type bucket).mp hmem
    obtain rfl := categoryTypeToEnum_eq_some_iff.mp hcategory
    exact ⟨category, produces_iff.mpr htype, rfl⟩
  · rintro ⟨category, hproduces, rfl⟩
    exact ⟨⟨category.type, bucketOf category.type s.supplies⟩,
      (hentry _ _).mpr ⟨produces_iff.mp hproduces, rfl⟩, category,
      categoryTypeToEnum_type category, rfl⟩

theorem Snapshot.categoryRows_nodup (s : Snapshot) (date : String) :
    ((s.categoryRows date).map ChainSupplyCategory.id).Nodup := by
  have hkeys : ((supplyCategories s.supplies).entries.map (·.1)).Nodup :=
    (supplyCategories s.supplies).nodupKeys
  have hrows : (s.categoryRows date).map ChainSupplyCategory.id =
      ((supplyCategories s.supplies).entries.map (·.1)).filterMap (fun type =>
        (categoryTypeToEnum type).map (supplyCategoryId date s.chain)) := by
    simp only [categoryRows, supplyCategoryRows, List.map_filterMap, List.filterMap_map]
    congr 1
    funext entry
    rw [Option.map_map]
    rfl
  rw [hrows]
  refine hkeys.filterMap ?_
  intro type type' id hid hid'
  obtain ⟨category, hcategory, rfl⟩ := Option.map_eq_some_iff.mp hid
  obtain ⟨category', hcategory', hsame⟩ := Option.map_eq_some_iff.mp hid'
  obtain ⟨-, -, rfl⟩ := supplyCategoryId_injective hsame
  rw [categoryTypeToEnum_eq_some_iff.mp hcategory, categoryTypeToEnum_eq_some_iff.mp hcategory']

/-- What is stored under a category's id after a snapshot of a date. -/
theorem Snapshot.get_category_apply {compound : BigNumber → BigNumber} {s : Snapshot}
    {store : RollupStore} {d : String} (hd : s.date = some d) (date : String) (chain : ChainId)
    (category : SupplyCategoryType) :
    (s.apply compound store).chainSupplyCategory.get (supplyCategoryId date chain category) =
      if s.chain = chain ∧ d = date ∧ s.Produces category then some (s.categoryRow date category)
      else store.chainSupplyCategory.get (supplyCategoryId date chain category) := by
  rw [apply_of_date hd]
  split
  · next h =>
      obtain ⟨rfl, rfl, hproduces⟩ := h
      exact EntityTable.get_setAll_of_mem _ (s.categoryRows_nodup d)
        (mem_categoryRows.mpr ⟨category, hproduces, rfl⟩)
  · next h =>
      apply EntityTable.get_setAll_of_not_mem
      intro hmem
      obtain ⟨row, hrow, hid⟩ := List.mem_map.mp hmem
      obtain ⟨category', hproduces, rfl⟩ := mem_categoryRows.mp hrow
      obtain ⟨rfl, rfl, rfl⟩ := supplyCategoryId_injective hid
      exact h ⟨rfl, rfl, hproduces⟩

/-! ### The rows after a run -/

/-- The latest snapshot of a date and chain that produced the category. -/
def latestProducer (es : List RollupEvent) (chain : ChainId) (date : String)
    (category : SupplyCategoryType) : Option Snapshot :=
  ((snapshotsOf es chain date).filter (fun s => s.Produces category)).getLast?

theorem latestProducer_append_snapshot (es : List RollupEvent) (s : Snapshot) (chain : ChainId)
    (date : String) (category : SupplyCategoryType) :
    latestProducer (es ++ [.snapshot s]) chain date category =
      if s.chain = chain ∧ s.date = some date ∧ s.Produces category then some s
      else latestProducer es chain date category := by
  rw [latestProducer, snapshotsOf_append_snapshot, List.filter_append]
  by_cases hsame : s.chain = chain ∧ s.date = some date
  · by_cases hproduces : s.Produces category
    · simp [hsame, hproduces]
    · simp [hsame, hproduces, latestProducer]
  · have hnot : ¬(s.chain = chain ∧ s.date = some date ∧ s.Produces category) :=
      fun h => hsame ⟨h.1, h.2.1⟩
    rw [if_neg hsame, if_neg hnot, List.filter_nil, List.append_nil, latestProducer]

/-- A category row is the one that the latest snapshot producing the category wrote. -/
theorem get_category_of_run {compound : BigNumber → BigNumber} {es : List RollupEvent}
    {store : RollupStore} (run : RollupRun compound es store) (date : String) (chain : ChainId)
    (category : SupplyCategoryType) :
    store.chainSupplyCategory.get (supplyCategoryId date chain category) =
      (latestProducer es chain date category).map (fun s => s.categoryRow date category) := by
  induction run with
  | nil => rfl
  | snapshot s _ _ ih =>
      rw [latestProducer_append_snapshot]
      cases hd : s.date with
      | none =>
          rw [Snapshot.apply_of_date_none hd, ih, if_neg (by simp)]
      | some d =>
          rw [Snapshot.get_category_apply hd, ih]
          simp only [Option.some.injEq]
          split <;> rfl
  | logRebase chainId srcAddress index epoch block timestamp _ ih =>
      rw [(applyLogRebase_tables chainId srcAddress index epoch block timestamp _).2.2, ih]
      rw [latestProducer, latestProducer, snapshotsOf_append_logRebase]

/-- Every category row is stored under the id of its date, chain and category. -/
theorem categoryRows_keyed_of_run {compound : BigNumber → BigNumber} {es : List RollupEvent}
    {store : RollupStore} (run : RollupRun compound es store) :
    ∀ row ∈ store.chainSupplyCategory.rows,
      row.id = supplyCategoryId row.date row.chainId row.category := by
  induction run with
  | nil => exact fun _ h => absurd h List.not_mem_nil
  | snapshot s _ _ ih =>
      cases hd : s.date with
      | none => rwa [Snapshot.apply_of_date_none hd]
      | some d =>
          intro row hrow
          rw [Snapshot.apply_of_date hd] at hrow
          rcases EntityTable.mem_rows_setAll_of_id hrow with hrow | hrow
          · obtain ⟨category, -, rfl⟩ := Snapshot.mem_categoryRows.mp hrow
            rfl
          · exact ih row hrow
  | logRebase chainId srcAddress index epoch block timestamp _ ih =>
      rwa [(applyLogRebase_tables chainId srcAddress index epoch block timestamp _).2.2]

/-! ### Category rows that describe the latest snapshot -/

/-- The stored category rows of a date and chain. -/
def categoryRowsOf (store : RollupStore) (date : String) (chain : ChainId) :
    List ChainSupplyCategory :=
  store.chainSupplyCategory.rows.filter (fun row => row.date = date ∧ row.chainId = chain)

/-- The supply balance that the stored rows attribute to a row type. -/
def storedSupplyOf (store : RollupStore) (date : String) (chain : ChainId) (type : String) :
    BigNumber :=
  (((categoryRowsOf store date chain).filter (fun row => row.category.type = type)).map
    (·.supplyBalance)).sum

/-- The stored category rows are those of the snapshot, and the supplies summed from them are
the supplies of the stored chain row. -/
structure CategoriesDescribe (store : RollupStore) (date : String) (s : Snapshot) : Prop where
  rows : ∀ row, row ∈ categoryRowsOf store date s.chain ↔
    ∃ category, s.Produces category ∧ row = s.categoryRow date category
  supplies : ∀ chainRow, store.chainMetricValues.get (chainValuesId date s.chain) = some chainRow →
    ohmSuppliesOf s.chain chainRow.block (storedSupplyOf store date s.chain) =
      ⟨chainRow.ohmTotalSupply, chainRow.ohmCirculatingSupply, chainRow.ohmFloatingSupply,
        chainRow.ohmBackedSupply⟩

theorem ohmSuppliesOf_congr (chainId : ChainId) (block : ℕ) {f g : String → BigNumber}
    (h : ∀ category : SupplyCategoryType, f category.type = g category.type) :
    ohmSuppliesOf chainId block f = ohmSuppliesOf chainId block g := by
  have hcirculating : ∀ type ∈ circulatingTypes, f type = g type := by
    simp only [circulatingTypes, List.forall_mem_cons]
    exact ⟨h .totalSupply, h .treasury, h .ohmMigrationOffset, h .bondsPreminted,
      h .bondsVestingDeposits, h .bondsDeposits, by simp⟩
  have hbacked : ∀ type ∈ backedTypes, f type = g type := by
    simp only [backedTypes, List.forall_mem_cons]
    exact ⟨h .totalSupply, h .treasury, h .ohmMigrationOffset, h .bondsPreminted,
      h .bondsVestingDeposits, h .bondsDeposits, h .liquidity, h .boostedLiquidityVault,
      h .lending, by simp⟩
  have hsum {types : List String} (htypes : ∀ type ∈ types, f type = g type) :
      sumOfTypes f types = sumOfTypes g types := by
    rw [sumOfTypes, sumOfTypes, BigNumber.foldl_plus_zero, BigNumber.foldl_plus_zero,
      List.map_congr_left htypes]
  have htotal : f typeTotalSupply = g typeTotalSupply := h .totalSupply
  have hblv : f typeBlv = g typeBlv := h .boostedLiquidityVault
  have hliquidity : f typeLiquidity = g typeLiquidity := h .liquidity
  simp only [ohmSuppliesOf, hsum hcirculating, hsum hbacked, htotal, hblv, hliquidity]

/-- When the stored rows are those of a snapshot, each type has the balance the snapshot summed. -/
theorem storedSupplyOf_eq {store : RollupStore} {date : String} {s : Snapshot}
    (hrows : ∀ row, row ∈ categoryRowsOf store date s.chain ↔
      ∃ category, s.Produces category ∧ row = s.categoryRow date category)
    (category : SupplyCategoryType) :
    storedSupplyOf store date s.chain category.type =
      (bucketOf category.type s.supplies).supplyBalance := by
  have htype {category' : SupplyCategoryType} (h : category'.type = category.type) :
      category' = category := by
    have hsome := categoryTypeToEnum_type category'
    rw [h, categoryTypeToEnum_type] at hsome
    exact (Option.some.inj hsome).symm
  have hmem (row : ChainSupplyCategory) :
      row ∈ (categoryRowsOf store date s.chain).filter
        (fun row => row.category.type = category.type) ↔
      s.Produces category ∧ row = s.categoryRow date category := by
    simp only [List.mem_filter, hrows, decide_eq_true_eq]
    constructor
    · rintro ⟨⟨category', hproduces, rfl⟩, hsame⟩
      obtain rfl := htype hsame
      exact ⟨hproduces, rfl⟩
    · rintro ⟨hproduces, rfl⟩
      exact ⟨⟨category, hproduces, rfl⟩, rfl⟩
  by_cases hproduces : s.Produces category
  · have hnodup : ((categoryRowsOf store date s.chain).filter
        (fun row => row.category.type = category.type)).Nodup :=
      ((store.chainSupplyCategory.nodup_ids.of_map _).filter _).filter _
    have hperm := (List.perm_ext_iff_of_nodup hnodup
      (List.nodup_singleton (s.categoryRow date category))).mpr (by simp [hmem, hproduces])
    rw [storedSupplyOf, (hperm.map _).sum_eq, List.map_singleton, List.sum_singleton]
    rfl
  · have hnone : (categoryRowsOf store date s.chain).filter
        (fun row => row.category.type = category.type) = [] := by
      rw [List.eq_nil_iff_forall_not_mem]
      intro row hrow
      exact hproduces ((hmem row).mp hrow).1
    rw [storedSupplyOf, hnone, bucketOf_of_not_mem (fun h => hproduces (Snapshot.produces_iff.mpr h))]
    rfl

theorem mem_snapshotsOf {es : List RollupEvent} {chain : ChainId} {date : String} {s : Snapshot}
    (h : s ∈ snapshotsOf es chain date) : s.chain = chain ∧ s.date = some date := by
  obtain ⟨e, -, he⟩ := List.mem_filterMap.mp h
  cases e with
  | snapshot s' =>
      simp only [Option.ite_none_right_eq_some, Option.some.injEq] at he
      obtain ⟨hsame, rfl⟩ := he
      exact hsame
  | logRebase => cases he

/-- A stored category row is the row of the latest snapshot that produced its category. -/
theorem mem_categoryRowsOf {compound : BigNumber → BigNumber} {es : List RollupEvent}
    {store : RollupStore} (run : RollupRun compound es store) {date : String} {chain : ChainId}
    {row : ChainSupplyCategory} :
    row ∈ categoryRowsOf store date chain ↔
      ∃ category s, latestProducer es chain date category = some s ∧
        row = s.categoryRow date category := by
  simp only [categoryRowsOf, List.mem_filter, decide_eq_true_eq]
  constructor
  · rintro ⟨hmem, rfl, rfl⟩
    have hget := EntityTable.get_eq_some_iff.mpr
      ⟨hmem, categoryRows_keyed_of_run run row hmem⟩
    rw [get_category_of_run run] at hget
    obtain ⟨s, hs, hrow⟩ := Option.map_eq_some_iff.mp hget
    exact ⟨row.category, s, hs, hrow.symm⟩
  · rintro ⟨category, s, hs, rfl⟩
    have hget := get_category_of_run run date chain category
    rw [hs, Option.map_some] at hget
    have hproducer := List.mem_of_getLast? hs
    obtain ⟨hchain, -⟩ := mem_snapshotsOf (List.mem_filter.mp hproducer).1
    exact ⟨(EntityTable.get_eq_some_iff.mp hget).1, rfl, hchain⟩

/-- The latest snapshot produces what it produces last. -/
theorem latestProducer_of_produces {es : List RollupEvent} {chain : ChainId} {date : String}
    {s : Snapshot} (h : latestSnapshot es chain date = some s) {category : SupplyCategoryType}
    (hproduces : s.Produces category) : latestProducer es chain date category = some s := by
  obtain ⟨earlier, hlist⟩ := List.getLast?_eq_some_iff.mp h
  rw [latestProducer, hlist, List.filter_append]
  simp [hproduces]

/-- After a snapshot with rows, the category rows of its date and chain describe it exactly when
no earlier snapshot of the date and chain produced a category that it does not produce. -/
theorem categoriesDescribe_iff {compound : BigNumber → BigNumber} {es : List RollupEvent}
    {store : RollupStore} (run : RollupRun compound es store) {date : String} {chain : ChainId}
    {s : Snapshot} (h : latestSnapshot es chain date = some s) :
    CategoriesDescribe store date s ↔
      ∀ s' ∈ snapshotsOf es chain date, ∀ category, s'.Produces category → s.Produces category := by
  obtain ⟨rfl, -⟩ := mem_snapshotsOf (List.mem_of_getLast? h)
  have hvalues : store.chainMetricValues.get (chainValuesId date s.chain) =
      some (s.chainRow date) := by
    rw [(rollupInvariant_of_run run).chainRow, h, Option.map_some]
  constructor
  · intro hdescribe s' hs' category hproduces
    have hmem : s' ∈ (snapshotsOf es s.chain date).filter (fun s => s.Produces category) :=
      List.mem_filter.mpr ⟨hs', decide_eq_true hproduces⟩
    obtain ⟨producer, hproducer⟩ := Option.isSome_iff_exists.mp
      (List.getLast?_isSome.mpr (List.ne_nil_of_mem hmem))
    obtain ⟨category', hproduces', hrow⟩ := (hdescribe.rows (producer.categoryRow date category)).mp
      ((mem_categoryRowsOf run).mpr ⟨category, producer, hproducer, rfl⟩)
    obtain rfl : category = category' := congrArg ChainSupplyCategory.category hrow
    exact hproduces'
  · intro hcover
    have hrows : ∀ row, row ∈ categoryRowsOf store date s.chain ↔
        ∃ category, s.Produces category ∧ row = s.categoryRow date category := by
      intro row
      rw [mem_categoryRowsOf run]
      constructor
      · rintro ⟨category, producer, hproducer, rfl⟩
        obtain ⟨hmem, hdecide⟩ := List.mem_filter.mp (List.mem_of_getLast? hproducer)
        have hproduces := hcover producer hmem category (of_decide_eq_true hdecide)
        rw [latestProducer_of_produces h hproduces] at hproducer
        obtain rfl := Option.some.inj hproducer
        exact ⟨category, hproduces, rfl⟩
      · rintro ⟨category, hproduces, rfl⟩
        exact ⟨category, s, latestProducer_of_produces h hproduces, rfl⟩
    refine ⟨hrows, ?_⟩
    intro chainRow hchainRow
    obtain rfl := Option.some.inj (hvalues.symm.trans hchainRow)
    have hcongr := ohmSuppliesOf_congr s.chain s.block
      (f := storedSupplyOf store date s.chain) (g := (supplyCategories s.supplies).supplyOf)
      (fun category => by rw [storedSupplyOf_eq hrows, supplyOf_supplyCategories])
    change ohmSuppliesOf s.chain s.block _ = _
    rw [hcongr]
    change _ = ohmSuppliesOf (chainConfigs s.chain).chainId s.block
      (supplyCategories s.supplies).supplyOf
    rw [chainConfigs_chainId]

/-! ### A category that outlives its snapshot -/

/-- The day's second snapshot sees no row of another chain either. -/
theorem withdrawnSnapshot_readsFrom :
    withdrawnSnapshot.ReadsFrom (liquiditySnapshot.apply id RollupStore.empty) := by
  intro date hdate
  obtain rfl := Option.some.inj (sampleSnapshot_date.2.symm.trans hdate)
  refine ⟨?_, Nat.zero_le _⟩
  rw [chainRowsOf_apply (fun _ h => absurd h List.not_mem_nil) sampleSnapshot_date.1, if_pos rfl]
  exact List.Perm.refl _

theorem withdrawnRun : RollupRun id [.snapshot liquiditySnapshot, .snapshot withdrawnSnapshot]
    (withdrawnSnapshot.apply id (liquiditySnapshot.apply id RollupStore.empty)) :=
  .snapshot withdrawnSnapshot sampleRun withdrawnSnapshot_readsFrom

theorem latestSnapshot_withdrawnRun :
    latestSnapshot [.snapshot liquiditySnapshot, .snapshot withdrawnSnapshot] .ethereum
      "2023-11-14" = some withdrawnSnapshot := by
  rw [show ([.snapshot liquiditySnapshot, .snapshot withdrawnSnapshot] : List RollupEvent) =
      [.snapshot liquiditySnapshot] ++ [.snapshot withdrawnSnapshot] from rfl,
    latestSnapshot_append_snapshot, if_pos ⟨rfl, sampleSnapshot_date.2⟩]

/-- Liquidity seen by the day's first snapshot only is still stored after the second. -/
theorem liquidity_outlives_snapshot :
    RollupRun id [.snapshot liquiditySnapshot, .snapshot withdrawnSnapshot]
        (withdrawnSnapshot.apply id (liquiditySnapshot.apply id RollupStore.empty)) ∧
      latestSnapshot [.snapshot liquiditySnapshot, .snapshot withdrawnSnapshot] .ethereum
        "2023-11-14" = some withdrawnSnapshot ∧
      ¬CategoriesDescribe
        (withdrawnSnapshot.apply id (liquiditySnapshot.apply id RollupStore.empty))
        "2023-11-14" withdrawnSnapshot := by
  refine ⟨withdrawnRun, latestSnapshot_withdrawnRun, ?_⟩
  intro hdescribe
  have hproduces : liquiditySnapshot.Produces .liquidity := by decide
  have hgone : ¬withdrawnSnapshot.Produces .liquidity := by decide
  have hproducer : latestProducer [.snapshot liquiditySnapshot, .snapshot withdrawnSnapshot]
      .ethereum "2023-11-14" .liquidity = some liquiditySnapshot := by
    rw [show ([.snapshot liquiditySnapshot, .snapshot withdrawnSnapshot] : List RollupEvent) =
        ([] ++ [.snapshot liquiditySnapshot]) ++ [.snapshot withdrawnSnapshot] from rfl,
      latestProducer_append_snapshot, if_neg (fun h => hgone h.2.2),
      latestProducer_append_snapshot, if_pos ⟨rfl, sampleSnapshot_date.1, hproduces⟩]
  obtain ⟨category, hcategory, hrow⟩ :=
    (hdescribe.rows (liquiditySnapshot.categoryRow "2023-11-14" .liquidity)).mp
      ((mem_categoryRowsOf withdrawnRun).mpr ⟨.liquidity, liquiditySnapshot, hproducer, rfl⟩)
  obtain rfl : SupplyCategoryType.liquidity = category :=
    congrArg ChainSupplyCategory.category hrow
  exact hgone hcategory

theorem categoriesDescribe_iff_withdrawnRun :
    CategoriesDescribe (withdrawnSnapshot.apply id (liquiditySnapshot.apply id RollupStore.empty))
        "2023-11-14" withdrawnSnapshot ↔
      ∀ s' ∈ snapshotsOf [.snapshot liquiditySnapshot, .snapshot withdrawnSnapshot] .ethereum
        "2023-11-14", ∀ category, s'.Produces category → withdrawnSnapshot.Produces category :=
  categoriesDescribe_iff withdrawnRun latestSnapshot_withdrawnRun

end OlympusMetrics
