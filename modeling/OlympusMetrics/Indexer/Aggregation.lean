import OlympusMetrics.Indexer.Global
import OlympusMetrics.Library.NumberOrder
import OlympusMetrics.Library.RowSums

/-!
The algebra of the aggregates: every summed field and every category bucket is a
sum over the rows, within a chain and across chains.

A supply counts the rows of some types, and the types of the four supplies are
nested.
-/

namespace OlympusMetrics

open RowSums

inductive SummedField
  | ohmTotalSupply
  | ohmCirculatingSupply
  | ohmFloatingSupply
  | ohmBackedSupply
  | treasuryMarketValue
  | treasuryLiquidBacking
  deriving DecidableEq

def PerChainAggregate.get (aggregate : PerChainAggregate) : SummedField → BigNumber
  | .ohmTotalSupply => aggregate.ohmTotalSupply
  | .ohmCirculatingSupply => aggregate.ohmCirculatingSupply
  | .ohmFloatingSupply => aggregate.ohmFloatingSupply
  | .ohmBackedSupply => aggregate.ohmBackedSupply
  | .treasuryMarketValue => aggregate.treasuryMarketValue
  | .treasuryLiquidBacking => aggregate.treasuryLiquidBacking

def CrossChainAggregate.get (aggregate : CrossChainAggregate) : SummedField → BigNumber
  | .ohmTotalSupply => aggregate.ohmTotalSupply
  | .ohmCirculatingSupply => aggregate.ohmCirculatingSupply
  | .ohmFloatingSupply => aggregate.ohmFloatingSupply
  | .ohmBackedSupply => aggregate.ohmBackedSupply
  | .treasuryMarketValue => aggregate.treasuryMarketValue
  | .treasuryLiquidBacking => aggregate.treasuryLiquidBacking

/-- The rows of a chain at a block, with what else an aggregate is computed from. -/
structure ChainRows where
  chainId : ChainId
  blockchain : String
  date : String
  block : ℕ
  timestamp : ℕ
  records : List SerializedTokenRecord
  supplies : List SerializedTokenSupply

namespace ChainRows

def aggregate (rows : ChainRows) : PerChainAggregate :=
  computePerChainAggregate rows.chainId rows.blockchain rows.date rows.block rows.timestamp
    rows.records rows.supplies

/-- The block is before the inclusion of boosted liquidity vaults. -/
def isPreBlvInclusion (rows : ChainRows) : Bool :=
  rows.chainId == .ethereum && decide (rows.block < ethereumBlvInclusionBlock)

/-- The row types that a field counts. -/
def countedTypes (rows : ChainRows) : SummedField → List String
  | .ohmTotalSupply => [typeTotalSupply]
  | .ohmCirculatingSupply =>
      circulatingTypes ++ if rows.isPreBlvInclusion then [typeBlv] else []
  | .ohmFloatingSupply =>
      circulatingTypes ++ (if rows.isPreBlvInclusion then [typeBlv] else []) ++ [typeLiquidity]
  | .ohmBackedSupply => backedTypes
  | .treasuryMarketValue | .treasuryLiquidBacking => []

end ChainRows

/-- What a token record adds to a field. -/
def recordShare (field : SummedField) (record : SerializedTokenRecord) : BigNumber :=
  match field with
  | .treasuryMarketValue =>
      if isOhmRecord record && !isBuybackRecord record then 0 else record.value
  | .treasuryLiquidBacking =>
      if isOhmRecord record || !record.isLiquid then 0 else record.valueExcludingOhm
  | _ => 0

/-- What the rows of a chain add up to. -/
def ChainRows.total (rows : ChainRows) (field : SummedField) : BigNumber :=
  (rows.records.map (recordShare field)).sum +
    sumCounted (·.type) (rows.countedTypes field) (·.supplyBalance) rows.supplies

/-! ### The fields of a chain -/

theorem foldl_addRecord (records : List SerializedTokenRecord) (start : TreasuryTotals) :
    records.foldl TreasuryTotals.addRecord start =
      { treasuryMarketValue := start.treasuryMarketValue +
          (records.map (recordShare .treasuryMarketValue)).sum
        treasuryLiquidBacking := start.treasuryLiquidBacking +
          (records.map (recordShare .treasuryLiquidBacking)).sum } := by
  induction records generalizing start with
  | nil => simp
  | cons record records ih =>
      have hstep : start.addRecord record =
          { treasuryMarketValue := start.treasuryMarketValue +
              recordShare .treasuryMarketValue record
            treasuryLiquidBacking := start.treasuryLiquidBacking +
              recordShare .treasuryLiquidBacking record } := by
        unfold TreasuryTotals.addRecord recordShare
        cases isOhmRecord record <;> cases isBuybackRecord record <;> cases record.isLiquid <;>
          simp [← BigNumber.add_def]
      rw [List.foldl_cons, ih, hstep]
      simp [add_assoc]

section

variable (supplyOf : String → BigNumber)

theorem sumOfTypes_eq_sum (types : List String) :
    sumOfTypes supplyOf types = (types.map supplyOf).sum :=
  BigNumber.foldl_plus_zero supplyOf types

@[simp] theorem sumOfTypes_nil : sumOfTypes supplyOf [] = 0 := rfl

@[simp] theorem sumOfTypes_singleton (type : String) :
    sumOfTypes supplyOf [type] = supplyOf type := by
  simp [sumOfTypes_eq_sum]

@[simp] theorem sumOfTypes_append (types types' : List String) :
    sumOfTypes supplyOf (types ++ types') =
      sumOfTypes supplyOf types + sumOfTypes supplyOf types' := by
  simp [sumOfTypes_eq_sum]

end

/-- The supply balances of several types are those of the rows that have one of them. -/
theorem sumOfTypes_supplyOf {supplies : List SerializedTokenSupply} {types : List String}
    (h : types.Nodup) : sumOfTypes (supplyCategories supplies).supplyOf types =
      sumCounted (·.type) types (·.supplyBalance) supplies := by
  rw [sumOfTypes_eq_sum, ← sum_by_keys _ _ h]
  apply congrArg List.sum
  apply List.map_congr_left
  intro type _
  rw [supplyOf_supplyCategories]
  rfl

namespace ChainRows

variable (rows : ChainRows)

theorem nodup_countedTypes (field : SummedField) : (rows.countedTypes field).Nodup := by
  unfold countedTypes
  cases rows.isPreBlvInclusion <;> cases field <;> decide

/-- A field of the aggregate is the sum of what the rows add to it. -/
theorem get_aggregate (field : SummedField) : rows.aggregate.get field = rows.total field := by
  let supplyOf := (supplyCategories rows.supplies).supplyOf
  have htotal : rows.total field = (rows.records.map (recordShare field)).sum +
      sumOfTypes supplyOf (rows.countedTypes field) := by
    rw [total, sumOfTypes_supplyOf (rows.nodup_countedTypes field)]
  have hnone (hshare : recordShare field = fun _ => 0) :
      rows.total field = sumOfTypes supplyOf (rows.countedTypes field) := by
    rw [htotal, hshare]
    simp
  have hfold := foldl_addRecord rows.records ⟨0, 0⟩
  simp only [zero_add] at hfold
  cases field with
  | ohmTotalSupply =>
      rw [hnone rfl, countedTypes, sumOfTypes_singleton]
      rfl
  | ohmCirculatingSupply =>
      rw [hnone rfl, countedTypes, sumOfTypes_append]
      show (if rows.isPreBlvInclusion then
        (sumOfTypes supplyOf circulatingTypes).plus (supplyOf typeBlv)
        else sumOfTypes supplyOf circulatingTypes) = _
      cases rows.isPreBlvInclusion <;> simp [← BigNumber.add_def]
  | ohmFloatingSupply =>
      rw [hnone rfl, countedTypes, sumOfTypes_append, sumOfTypes_append]
      show (if rows.isPreBlvInclusion then
        (sumOfTypes supplyOf circulatingTypes).plus (supplyOf typeBlv)
        else sumOfTypes supplyOf circulatingTypes).plus (supplyOf typeLiquidity) = _
      cases rows.isPreBlvInclusion <;> simp [← BigNumber.add_def]
  | ohmBackedSupply =>
      rw [hnone rfl]
      rfl
  | treasuryMarketValue =>
      rw [htotal, countedTypes, sumOfTypes_nil, add_zero]
      exact congrArg TreasuryTotals.treasuryMarketValue hfold
  | treasuryLiquidBacking =>
      rw [htotal, countedTypes, sumOfTypes_nil, add_zero]
      exact congrArg TreasuryTotals.treasuryLiquidBacking hfold

end ChainRows

/-! ### The buckets -/

/-- The bucket of a type; a type without rows has nothing. -/
def SupplyCategories.bucket (categories : SupplyCategories) (type : String) : Bucket :=
  (categories.lookup type).getD Bucket.zero

theorem Bucket.plus_zero (b : Bucket) : b.plus Bucket.zero = b := by
  simp only [Bucket.plus, Bucket.zero, BigNumber.plus_comm _ 0, BigNumber.zero_plus]

theorem bucketOf_append (type : String) (supplies supplies' : List SerializedTokenSupply) :
    bucketOf type (supplies ++ supplies') =
      (bucketOf type supplies).plus (bucketOf type supplies') := by
  simp [bucketOf, suppliesOfType, Bucket.plus, BigNumber.add_def]

theorem bucketOf_perm (type : String) {supplies supplies' : List SerializedTokenSupply}
    (h : supplies.Perm supplies') : bucketOf type supplies = bucketOf type supplies' := by
  have hrows : (suppliesOfType type supplies).Perm (suppliesOfType type supplies') := h.filter _
  simp only [bucketOf, (hrows.map _).sum_eq]

@[simp] theorem bucket_supplyCategories (supplies : List SerializedTokenSupply) (type : String) :
    (supplyCategories supplies).bucket type = bucketOf type supplies := by
  rw [SupplyCategories.bucket, lookup_supplyCategories]
  split
  · rfl
  · next hnot => rw [bucketOf_of_not_mem hnot, Option.getD_none]

theorem lookup_supplyCategories_perm {supplies supplies' : List SerializedTokenSupply}
    (h : supplies.Perm supplies') (type : String) :
    (supplyCategories supplies).lookup type = (supplyCategories supplies').lookup type := by
  rw [lookup_supplyCategories, lookup_supplyCategories, bucketOf_perm type h]
  simp only [(h.map (·.type)).mem_iff]

/-- Adding the buckets of a table to the ones that are kept. -/
theorem lookup_foldl_add {entries : List (Sigma fun _ : String => Bucket)}
    (h : entries.NodupKeys) (categories : SupplyCategories) (type : String) :
    (entries.foldl (fun acc entry => SupplyCategories.add acc entry.1 entry.2) categories).lookup
      type =
      match entries.dlookup type with
      | none => categories.lookup type
      | some bucket => some ((categories.bucket type).plus bucket) := by
  induction entries generalizing categories with
  | nil => rfl
  | cons entry entries ih =>
      obtain ⟨k, b⟩ := entry
      obtain ⟨hnot, hrest⟩ := List.nodupKeys_cons.mp h
      rw [List.foldl_cons, ih hrest]
      by_cases hk : type = k
      · subst hk
        rw [List.dlookup_cons_eq, List.dlookup_eq_none.mpr hnot]
        exact AList.lookup_insert _
      · have hlookup : (categories.add k b).lookup type = categories.lookup type :=
          AList.lookup_insert_ne hk
        rw [List.dlookup_cons_ne _ _ hk, SupplyCategories.bucket, hlookup]
        rfl

/-- The buckets across chains are those of all rows. -/
theorem lookup_aggregateAcrossChains (date : String) (chains : List ChainRows) (type : String) :
    (aggregateAcrossChains date (chains.map ChainRows.aggregate)).supplyCategories.lookup type =
      (supplyCategories (chains.flatMap (·.supplies))).lookup type := by
  induction chains using List.reverseRecOn with
  | nil => rfl
  | append_singleton chains rows ih =>
      let merged := (aggregateAcrossChains date (chains.map ChainRows.aggregate)).supplyCategories
      have hmerged : merged.bucket type = bucketOf type (chains.flatMap (·.supplies)) := by
        rw [SupplyCategories.bucket, ih, ← bucket_supplyCategories]
        rfl
      have hstep : (aggregateAcrossChains date
          ((chains ++ [rows]).map ChainRows.aggregate)).supplyCategories =
          rows.aggregate.supplyCategories.entries.foldl
            (fun acc entry => SupplyCategories.add acc entry.1 entry.2) merged := by
        simp [aggregateAcrossChains, merged, List.foldl_append]
      have hentries : rows.aggregate.supplyCategories.entries.dlookup type =
          (supplyCategories rows.supplies).lookup type := rfl
      have hall : (chains ++ [rows]).flatMap (·.supplies) =
          chains.flatMap (·.supplies) ++ rows.supplies := by simp
      rw [hstep, lookup_foldl_add rows.aggregate.supplyCategories.nodupKeys, hentries,
        lookup_supplyCategories, hall, lookup_supplyCategories, bucketOf_append]
      by_cases hmem : type ∈ rows.supplies.map (·.type)
      · rw [if_pos hmem, if_pos (by rw [List.map_append]; exact List.mem_append_right _ hmem)]
        rw [hmerged]
      · rw [if_neg hmem, bucketOf_of_not_mem hmem, Bucket.plus_zero]
        show merged.lookup type = _
        rw [ih, lookup_supplyCategories]
        simp only [List.map_append, List.mem_append, hmem, or_false]

/-! ### The order of the supplies -/

/-- Every supply balance is a number, and positive in rows of the total supply only. -/
def OnlyTotalPositive (supplies : List SerializedTokenSupply) : Prop :=
  ∀ supply ∈ supplies, supply.supplyBalance.IsNumber ∧
    (supply.type ≠ typeTotalSupply → supply.supplyBalance.lte 0 = true)

section order

variable {rows : ChainRows}

theorem sumCounted_eq_finite {types : List String} {supplies : List SerializedTokenSupply}
    (h : ∀ supply ∈ supplies, supply.supplyBalance.IsNumber) :
    sumCounted (·.type) types (·.supplyBalance) supplies =
      .finite (sumCounted (·.type) types (·.supplyBalance.toRat) supplies) := by
  rw [sumCounted, BigNumber.sum_eq_finite, List.map_map, sumCounted]
  · refine congrArg (fun xs : List ℚ => BigNumber.finite xs.sum) (List.map_congr_left ?_)
    intro supply _
    simp only [Function.comp_apply, apply_ite BigNumber.toRat]
    rfl
  · intro x hx
    obtain ⟨supply, hsupply, rfl⟩ := List.mem_map.mp hx
    split
    · exact h supply hsupply
    · exact ⟨0, rfl⟩

/-- A supply that counts more types than another, and the total supply with it, is at most the
other. -/
theorem lte_of_countedTypes_subset (h : OnlyTotalPositive rows.supplies)
    {field field' : SummedField} (hshare : recordShare field = fun _ => 0)
    (hshare' : recordShare field' = fun _ => 0)
    (htotal : typeTotalSupply ∈ rows.countedTypes field)
    (hsub : rows.countedTypes field ⊆ rows.countedTypes field') :
    (rows.aggregate.get field').lte (rows.aggregate.get field) = true := by
  have hzero : (rows.records.map (fun _ => (0 : BigNumber))).sum = 0 := by simp
  have hnumber : ∀ supply ∈ rows.supplies, supply.supplyBalance.IsNumber :=
    fun supply hsupply => (h supply hsupply).1
  rw [ChainRows.get_aggregate, ChainRows.get_aggregate, ChainRows.total, ChainRows.total, hshare,
    hshare', hzero, zero_add, zero_add, sumCounted_eq_finite hnumber, sumCounted_eq_finite hnumber,
    BigNumber.finite_lte_finite]
  apply sumCounted_le hsub
  intro supply hsupply hnot
  obtain ⟨⟨q, hq⟩, hnonpos⟩ := h supply hsupply
  have hne : supply.type ≠ typeTotalSupply := fun heq => hnot (heq ▸ htotal)
  have hle := hnonpos hne
  rw [hq, BigNumber.zero_def, BigNumber.finite_lte_finite] at hle
  rw [hq]
  exact hle

/-- Backed, floating, circulating and total supply are in order. -/
theorem supplies_ordered (h : OnlyTotalPositive rows.supplies) :
    rows.aggregate.ohmBackedSupply.lte rows.aggregate.ohmFloatingSupply = true ∧
      rows.aggregate.ohmFloatingSupply.lte rows.aggregate.ohmCirculatingSupply = true ∧
      rows.aggregate.ohmCirculatingSupply.lte rows.aggregate.ohmTotalSupply = true := by
  have hfloating : rows.countedTypes .ohmFloatingSupply ⊆ rows.countedTypes .ohmBackedSupply := by
    unfold ChainRows.countedTypes
    cases rows.isPreBlvInclusion <;> decide
  have hcirculating :
      rows.countedTypes .ohmCirculatingSupply ⊆ rows.countedTypes .ohmFloatingSupply :=
    List.subset_append_left _ _
  have htotal : rows.countedTypes .ohmTotalSupply ⊆ rows.countedTypes .ohmCirculatingSupply := by
    unfold ChainRows.countedTypes
    cases rows.isPreBlvInclusion <;> decide
  have hmem : typeTotalSupply ∈ rows.countedTypes .ohmTotalSupply := List.mem_singleton_self _
  have hbacked : (rows.aggregate.get .ohmBackedSupply).lte
      (rows.aggregate.get .ohmFloatingSupply) = true :=
    lte_of_countedTypes_subset h rfl rfl (hcirculating (htotal hmem)) hfloating
  have hfloats : (rows.aggregate.get .ohmFloatingSupply).lte
      (rows.aggregate.get .ohmCirculatingSupply) = true :=
    lte_of_countedTypes_subset h rfl rfl (htotal hmem) hcirculating
  have hcirculates : (rows.aggregate.get .ohmCirculatingSupply).lte
      (rows.aggregate.get .ohmTotalSupply) = true :=
    lte_of_countedTypes_subset h rfl rfl hmem htotal
  exact ⟨hbacked, hfloats, hcirculates⟩

end order

/-! ### The algebra -/

/-- The rows of a chain with others in their place. -/
def ChainRows.withRows (rows : ChainRows) (records : List SerializedTokenRecord)
    (supplies : List SerializedTokenSupply) : ChainRows :=
  { rows with records, supplies }

/-- Two aggregates agree in every summed field and every bucket. -/
structure SameSums (a b : PerChainAggregate) : Prop where
  fields : ∀ field, a.get field = b.get field
  buckets : ∀ type, a.supplyCategories.lookup type = b.supplyCategories.lookup type

/-- An aggregate has the sum of two others in every summed field and every bucket. -/
structure AddsUp (a b whole : PerChainAggregate) : Prop where
  fields : ∀ field, whole.get field = a.get field + b.get field
  buckets : ∀ type, whole.supplyCategories.bucket type =
    (a.supplyCategories.bucket type).plus (b.supplyCategories.bucket type)
  types : ∀ type, (whole.supplyCategories.lookup type).isSome =
    ((a.supplyCategories.lookup type).isSome || (b.supplyCategories.lookup type).isSome)

/-- An aggregate across chains has the sums over the rows of all of them. -/
structure SumsRows (chains : List ChainRows) (aggregate : CrossChainAggregate) : Prop where
  fields : ∀ field, aggregate.get field = (chains.map (·.total field)).sum
  buckets : ∀ type, aggregate.supplyCategories.lookup type =
    if type ∈ (chains.flatMap (·.supplies)).map (·.type)
    then some (bucketOf type (chains.flatMap (·.supplies))) else none

section algebra

variable (rows : ChainRows)

theorem sameSums_of_perm {records : List SerializedTokenRecord}
    {supplies : List SerializedTokenSupply} (hrecords : rows.records.Perm records)
    (hsupplies : rows.supplies.Perm supplies) :
    SameSums rows.aggregate (rows.withRows records supplies).aggregate where
  fields := by
    intro field
    rw [ChainRows.get_aggregate, ChainRows.get_aggregate, ChainRows.total, ChainRows.total,
      sumCounted, sumCounted, (hrecords.map _).sum_eq, (hsupplies.map _).sum_eq]
    rfl
  buckets := lookup_supplyCategories_perm hsupplies

theorem addsUp_append (records : List SerializedTokenRecord)
    (supplies : List SerializedTokenSupply) :
    AddsUp rows.aggregate (rows.withRows records supplies).aggregate
      (rows.withRows (rows.records ++ records) (rows.supplies ++ supplies)).aggregate where
  fields := by
    intro field
    simp only [ChainRows.get_aggregate, ChainRows.total, sumCounted, ChainRows.withRows,
      List.map_append, List.sum_append]
    exact add_add_add_comm _ _ _ _
  buckets := by
    intro type
    show (supplyCategories (rows.supplies ++ supplies)).bucket type =
      ((supplyCategories rows.supplies).bucket type).plus ((supplyCategories supplies).bucket type)
    rw [bucket_supplyCategories, bucket_supplyCategories, bucket_supplyCategories,
      bucketOf_append]
  types := by
    intro type
    show ((supplyCategories (rows.supplies ++ supplies)).lookup type).isSome =
      (((supplyCategories rows.supplies).lookup type).isSome ||
        ((supplyCategories supplies).lookup type).isSome)
    simp only [lookup_supplyCategories, List.map_append, List.mem_append]
    by_cases h : type ∈ rows.supplies.map (·.type) <;>
      by_cases h' : type ∈ supplies.map (·.type) <;> simp only [h, h'] <;> rfl

theorem get_aggregateAcrossChains (date : String) (chains : List PerChainAggregate)
    (field : SummedField) :
    (aggregateAcrossChains date chains).get field = (chains.map (·.get field)).sum := by
  cases field <;> exact sumField_eq_sum _ chains

theorem sumsRows_aggregateAcrossChains (date : String) (chains : List ChainRows) :
    SumsRows chains (aggregateAcrossChains date (chains.map ChainRows.aggregate)) where
  fields := by
    intro field
    rw [get_aggregateAcrossChains, List.map_map]
    apply congrArg List.sum
    apply List.map_congr_left
    intro rows _
    exact rows.get_aggregate field
  buckets := by
    intro type
    rw [lookup_aggregateAcrossChains, lookup_supplyCategories]

/-- The sums across chains do not depend on the order of the chains. -/
theorem SumsRows.perm {chains chains' : List ChainRows} {aggregate : CrossChainAggregate}
    (h : SumsRows chains aggregate) (hperm : chains.Perm chains') : SumsRows chains' aggregate where
  fields := by
    intro field
    rw [h.fields, (hperm.map _).sum_eq]
  buckets := by
    intro type
    have hsupplies := hperm.flatMap_right (·.supplies)
    rw [h.buckets, bucketOf_perm type hsupplies]
    simp only [(hsupplies.map (·.type)).mem_iff]

end algebra

/-- The aggregates of a chain depend on which rows there are, and not on their order; they add up
over parts of the rows and across chains; and the supplies are in order when only rows of the total
supply are positive. -/
theorem aggregation_algebra :
    (∀ (rows : ChainRows) records supplies, rows.records.Perm records →
      rows.supplies.Perm supplies →
      SameSums rows.aggregate (rows.withRows records supplies).aggregate) ∧
    (∀ (rows : ChainRows) records supplies,
      AddsUp rows.aggregate (rows.withRows records supplies).aggregate
        (rows.withRows (rows.records ++ records) (rows.supplies ++ supplies)).aggregate) ∧
    (∀ date (chains chains' : List ChainRows), chains.Perm chains' →
      SumsRows chains' (aggregateAcrossChains date (chains.map ChainRows.aggregate))) ∧
    (∀ rows : ChainRows, OnlyTotalPositive rows.supplies →
      rows.aggregate.ohmBackedSupply.lte rows.aggregate.ohmFloatingSupply = true ∧
        rows.aggregate.ohmFloatingSupply.lte rows.aggregate.ohmCirculatingSupply = true ∧
        rows.aggregate.ohmCirculatingSupply.lte rows.aggregate.ohmTotalSupply = true) := by
  refine ⟨?_, ?_, ?_, ?_⟩
  · intro rows records supplies hrecords hsupplies
    exact sameSums_of_perm rows hrecords hsupplies
  · exact addsUp_append
  · intro date chains chains' hperm
    exact (sumsRows_aggregateAcrossChains date chains).perm hperm
  · intro rows h
    exact supplies_ordered h

/-! ### Rows around the inclusion block -/

/-- A supply row with the same balance on both counts. -/
def supplyRow (type : String) (balance : ℚ) : SerializedTokenSupply where
  id := type
  chainId := .ethereum
  blockchain := "Ethereum"
  block := 0
  timestamp := 0
  date := "2024-09-01"
  token := "OHM"
  tokenAddress := "ohm"
  pool := none
  poolAddress := none
  source := none
  sourceAddress := none
  type := type
  balance := .finite balance
  supplyBalance := .finite balance

def inclusionRows (block : ℕ) : ChainRows where
  chainId := .ethereum
  blockchain := "Ethereum"
  date := "2024-09-01"
  block := block
  timestamp := 1700000000
  records := []
  supplies :=
    [supplyRow typeTotalSupply 1000000, supplyRow typeTreasury (-100000),
     supplyRow typeLiquidity (-50000), supplyRow typeBlv (-30000)]

example : (inclusionRows 17500000).aggregate.ohmCirculatingSupply = .finite 870000 ∧
    (inclusionRows 18000000).aggregate.ohmCirculatingSupply = .finite 900000 := by
  decide +kernel

theorem onlyTotalPositive_inclusionRows (block : ℕ) :
    OnlyTotalPositive (inclusionRows block).supplies := by
  intro supply hsupply
  simp only [inclusionRows, List.mem_cons, List.not_mem_nil, or_false] at hsupply
  rcases hsupply with rfl | rfl | rfl | rfl
  · exact ⟨⟨_, rfl⟩, fun h => absurd rfl h⟩
  · exact ⟨⟨_, rfl⟩, fun _ => by decide +kernel⟩
  · exact ⟨⟨_, rfl⟩, fun _ => by decide +kernel⟩
  · exact ⟨⟨_, rfl⟩, fun _ => by decide +kernel⟩

/-- The rows before the inclusion block, in two orders, and beside those after it. -/
theorem aggregation_algebra_inclusionRows :
    SameSums (inclusionRows 17500000).aggregate
      ((inclusionRows 17500000).withRows [] (inclusionRows 17500000).supplies.reverse).aggregate ∧
    SumsRows [inclusionRows 18000000, inclusionRows 17500000]
      (aggregateAcrossChains "2024-09-01"
        ([inclusionRows 17500000, inclusionRows 18000000].map ChainRows.aggregate)) ∧
    (inclusionRows 17500000).aggregate.ohmBackedSupply.lte
      (inclusionRows 17500000).aggregate.ohmFloatingSupply = true := by
  obtain ⟨hperm, -, hacross, horder⟩ := aggregation_algebra
  refine ⟨?_, ?_, ?_⟩
  · exact hperm _ [] _ List.Perm.nil (List.reverse_perm _).symm
  · exact hacross _ _ _ (List.Perm.swap _ _ _)
  · exact (horder _ (onlyTotalPositive_inclusionRows 17500000)).1

end OlympusMetrics
