import OlympusMetrics.Indexer.Types
import Mathlib.Data.List.Induction

/-!
Aggregation of one chain's rows and across chains, from `snapshot/global.ts`.
-/

namespace OlympusMetrics

def typeTotalSupply : String := "Total Supply"
def typeTreasury : String := "Treasury"
def typeOffset : String := "OHM Migration Offset"
def typeBondsPreminted : String := "Bonds (Pre-Minted)"
def typeBondsVestingDeposits : String := "Bonds (Vesting Deposits)"
def typeBondsVestingTokens : String := "Bonds (Vesting Tokens)"
def typeBondsDeposits : String := "Bonds (Deposits)"
def typeLiquidity : String := "Liquidity"
def typeBlv : String := "Boosted Liquidity Vault"
def typeLending : String := "Lending"

def ethereumBlvInclusionBlock : ℕ := 17620000
def buybackMs : String := "0xf7deb867e65306be0cb33918ac1b8f89a72109db"
def buybackMsInclusionBlock : ℕ := 20514801
def ohmCategory : String := "OHM"

def isBuybackRecord (record : SerializedTokenRecord) : Bool :=
  decide (buybackMsInclusionBlock ≤ record.block) && record.sourceAddress == buybackMs

def isOhmRecord (record : SerializedTokenRecord) : Bool := record.category == ohmCategory

/-- The summed balances of the supply rows of one type. -/
structure Bucket where
  balance : BigNumber
  supplyBalance : BigNumber
  deriving DecidableEq

def Bucket.zero : Bucket := ⟨0, 0⟩

def Bucket.plus (a b : Bucket) : Bucket :=
  ⟨a.balance.plus b.balance, a.supplyBalance.plus b.supplyBalance⟩

abbrev SupplyCategories := Table Bucket

/-- Adds a bucket to the bucket already kept for its type. -/
def SupplyCategories.add (categories : SupplyCategories) (type : String) (bucket : Bucket) :
    SupplyCategories :=
  categories.insert type (((categories.lookup type).getD Bucket.zero).plus bucket)

def SerializedTokenSupply.bucket (supply : SerializedTokenSupply) : Bucket :=
  ⟨supply.balance, supply.supplyBalance⟩

/-- Buckets the supply rows by type. -/
def supplyCategories (supplies : List SerializedTokenSupply) : SupplyCategories :=
  supplies.foldl (fun categories supply => categories.add supply.type supply.bucket) ∅

/-- `supplyOf`. -/
def SupplyCategories.supplyOf (categories : SupplyCategories) (type : String) : BigNumber :=
  ((categories.lookup type).map (·.supplyBalance)).getD 0

/-- The accumulators of the loop over the token records. -/
structure TreasuryTotals where
  treasuryMarketValue : BigNumber
  treasuryLiquidBacking : BigNumber
  deriving DecidableEq

def TreasuryTotals.addRecord (totals : TreasuryTotals) (record : SerializedTokenRecord) :
    TreasuryTotals :=
  if isOhmRecord record then
    -- OHM counts toward the market value only at the buyback multisig, never toward backing.
    if isBuybackRecord record then
      { totals with treasuryMarketValue := totals.treasuryMarketValue.plus record.value }
    else totals
  else
    { treasuryMarketValue := totals.treasuryMarketValue.plus record.value
      treasuryLiquidBacking :=
        if record.isLiquid then totals.treasuryLiquidBacking.plus record.valueExcludingOhm
        else totals.treasuryLiquidBacking }

def circulatingTypes : List String :=
  [typeTotalSupply, typeTreasury, typeOffset, typeBondsPreminted, typeBondsVestingDeposits,
   typeBondsDeposits]

def backedTypes : List String :=
  [typeTotalSupply, typeTreasury, typeOffset, typeBondsPreminted, typeBondsVestingDeposits,
   typeBondsDeposits, typeLiquidity, typeBlv, typeLending]

/-- The four supplies that are computed from the buckets. -/
structure OhmSupplies where
  ohmTotalSupply : BigNumber
  ohmCirculatingSupply : BigNumber
  ohmFloatingSupply : BigNumber
  ohmBackedSupply : BigNumber
  deriving DecidableEq

def sumOfTypes (supplyOf : String → BigNumber) (types : List String) : BigNumber :=
  types.foldl (fun acc type => acc.plus (supplyOf type)) 0

/-- The supplies of a chain at a block, from the supply balance of each type. -/
def ohmSuppliesOf (chainId : ChainId) (block : ℕ) (supplyOf : String → BigNumber) : OhmSupplies :=
  let isPreBlvInclusion := chainId == .ethereum && decide (block < ethereumBlvInclusionBlock)
  let circulating := sumOfTypes supplyOf circulatingTypes
  let circulating := if isPreBlvInclusion then circulating.plus (supplyOf typeBlv) else circulating
  { ohmTotalSupply := supplyOf typeTotalSupply
    ohmCirculatingSupply := circulating
    ohmFloatingSupply := circulating.plus (supplyOf typeLiquidity)
    ohmBackedSupply := sumOfTypes supplyOf backedTypes }

structure PerChainAggregate where
  chainId : ChainId
  blockchain : String
  date : String
  block : ℕ
  timestamp : ℕ
  ohmTotalSupply : BigNumber
  ohmCirculatingSupply : BigNumber
  ohmFloatingSupply : BigNumber
  ohmBackedSupply : BigNumber
  treasuryMarketValue : BigNumber
  treasuryLiquidBacking : BigNumber
  supplyCategories : SupplyCategories

def computePerChainAggregate (chainId : ChainId) (blockchain date : String) (block timestamp : ℕ)
    (records : List SerializedTokenRecord) (supplies : List SerializedTokenSupply) :
    PerChainAggregate :=
  let totals := records.foldl TreasuryTotals.addRecord ⟨0, 0⟩
  let categories := supplyCategories supplies
  let ohm := ohmSuppliesOf chainId block categories.supplyOf
  { chainId := chainId
    blockchain := blockchain
    date := date
    block := block
    timestamp := timestamp
    ohmTotalSupply := ohm.ohmTotalSupply
    ohmCirculatingSupply := ohm.ohmCirculatingSupply
    ohmFloatingSupply := ohm.ohmFloatingSupply
    ohmBackedSupply := ohm.ohmBackedSupply
    treasuryMarketValue := totals.treasuryMarketValue
    treasuryLiquidBacking := totals.treasuryLiquidBacking
    supplyCategories := categories }

structure CrossChainAggregate where
  date : String
  ohmTotalSupply : BigNumber
  ohmCirculatingSupply : BigNumber
  ohmFloatingSupply : BigNumber
  ohmBackedSupply : BigNumber
  treasuryMarketValue : BigNumber
  treasuryLiquidBacking : BigNumber
  supplyCategories : SupplyCategories
  chainsIndexed : List ChainId
  chainsMissing : List ChainId
  crossChainComplete : Bool

def requiredChainsForComplete : List ChainId := [.arbitrum, .ethereum]

def allChainIds : List ChainId := [.arbitrum, .ethereum, .fantom, .polygon, .base, .berachain]

theorem mem_allChainIds (chain : ChainId) : chain ∈ allChainIds := by
  cases chain <;> decide

/-- The sum of one field over the chains, accumulated as the source does. -/
def sumField (field : PerChainAggregate → BigNumber) (perChain : List PerChainAggregate) :
    BigNumber :=
  perChain.foldl (fun acc chain => acc.plus (field chain)) 0

theorem sumField_eq_sum (field : PerChainAggregate → BigNumber)
    (perChain : List PerChainAggregate) : sumField field perChain = (perChain.map field).sum :=
  BigNumber.foldl_plus_zero field perChain

def aggregateAcrossChains (date : String) (perChain : List PerChainAggregate) :
    CrossChainAggregate :=
  let chainsIndexed := perChain.map (·.chainId)
  { date := date
    ohmTotalSupply := sumField (·.ohmTotalSupply) perChain
    ohmCirculatingSupply := sumField (·.ohmCirculatingSupply) perChain
    ohmFloatingSupply := sumField (·.ohmFloatingSupply) perChain
    ohmBackedSupply := sumField (·.ohmBackedSupply) perChain
    treasuryMarketValue := sumField (·.treasuryMarketValue) perChain
    treasuryLiquidBacking := sumField (·.treasuryLiquidBacking) perChain
    supplyCategories := perChain.foldl (fun categories chain =>
      chain.supplyCategories.entries.foldl (fun acc entry => acc.add entry.1 entry.2) categories) ∅
    chainsIndexed := chainsIndexed
    chainsMissing := allChainIds.filter (fun chainId => !chainsIndexed.contains chainId)
    crossChainComplete := requiredChainsForComplete.all chainsIndexed.contains }

structure DerivedRatios where
  marketCap : BigNumber
  gOhmBackedSupply : BigNumber
  treasuryLiquidBackingPerOhmFloating : BigNumber
  treasuryLiquidBackingPerOhmBacked : BigNumber
  treasuryLiquidBackingPerGOhmBacked : BigNumber
  deriving DecidableEq

/-- A quotient that is zero when the denominator is zero. -/
def ratio (numerator denominator : BigNumber) : BigNumber :=
  if denominator.eq 0 then 0 else numerator.div denominator

def computeDerivedRatios (aggregate : CrossChainAggregate) (ohmPrice ohmIndex : BigNumber) :
    DerivedRatios :=
  let gOhmBackedSupply :=
    if aggregate.ohmBackedSupply.eq 0 || ohmIndex.eq 0 then 0
    else aggregate.ohmBackedSupply.div ohmIndex
  { marketCap := ohmPrice.times aggregate.ohmCirculatingSupply
    gOhmBackedSupply := gOhmBackedSupply
    treasuryLiquidBackingPerOhmFloating :=
      ratio aggregate.treasuryLiquidBacking aggregate.ohmFloatingSupply
    treasuryLiquidBackingPerOhmBacked :=
      ratio aggregate.treasuryLiquidBacking aggregate.ohmBackedSupply
    treasuryLiquidBackingPerGOhmBacked := ratio aggregate.treasuryLiquidBacking gOhmBackedSupply }

structure Apy where
  nextEpochRebase : BigNumber
  currentApy : BigNumber
  deriving DecidableEq

/-- `computeApy`. `compound` is the double-precision power the source takes of the rebase
ratio, less one, read back as a decimal. -/
def computeApy (compound : BigNumber → BigNumber) (distributedOhm sOhmCirculatingSupply : BigNumber) :
    Apy :=
  if sOhmCirculatingSupply.eq 0 || distributedOhm.eq 0 then ⟨0, 0⟩
  else
    let nextEpochRebase := (distributedOhm.div sOhmCirculatingSupply).times (.finite 100)
    let rebaseRatio := (nextEpochRebase.div (.finite 100)).plus 1
    { nextEpochRebase := nextEpochRebase
      currentApy := (compound rebaseRatio).times (.finite 100) }

/-! ### The buckets of a list of supply rows -/

/-- The rows of one type. -/
def suppliesOfType (type : String) (supplies : List SerializedTokenSupply) :
    List SerializedTokenSupply :=
  supplies.filter (fun supply => supply.type = type)

/-- The summed balances of the rows of one type. -/
def bucketOf (type : String) (supplies : List SerializedTokenSupply) : Bucket :=
  ⟨((suppliesOfType type supplies).map (·.balance)).sum,
   ((suppliesOfType type supplies).map (·.supplyBalance)).sum⟩

theorem bucketOf_append_singleton (type : String) (supplies : List SerializedTokenSupply)
    (supply : SerializedTokenSupply) :
    bucketOf type (supplies ++ [supply]) =
      if supply.type = type then (bucketOf type supplies).plus supply.bucket
      else bucketOf type supplies := by
  by_cases htype : supply.type = type
  · simp [bucketOf, suppliesOfType, htype, Bucket.plus, SerializedTokenSupply.bucket,
      BigNumber.add_def]
  · simp [bucketOf, suppliesOfType, htype]

theorem bucketOf_of_not_mem {type : String} {supplies : List SerializedTokenSupply}
    (h : type ∉ supplies.map (·.type)) : bucketOf type supplies = Bucket.zero := by
  have hnone : suppliesOfType type supplies = [] := by
    rw [suppliesOfType, List.filter_eq_nil_iff]
    intro supply hmem heq
    exact h (List.mem_map.mpr ⟨supply, hmem, of_decide_eq_true heq⟩)
  simp [bucketOf, hnone, Bucket.zero]

/-- A type has a bucket exactly when a row has the type, and the bucket sums those rows. -/
theorem lookup_supplyCategories (supplies : List SerializedTokenSupply) (type : String) :
    (supplyCategories supplies).lookup type =
      if type ∈ supplies.map (·.type) then some (bucketOf type supplies) else none := by
  induction supplies using List.reverseRecOn with
  | nil => rfl
  | append_singleton supplies supply ih =>
      have hstep : supplyCategories (supplies ++ [supply]) =
          (supplyCategories supplies).add supply.type supply.bucket := by
        simp [supplyCategories, List.foldl_append]
      rw [hstep, SupplyCategories.add, bucketOf_append_singleton]
      by_cases htype : supply.type = type
      · subst htype
        rw [AList.lookup_insert, ih]
        by_cases hmem : supply.type ∈ supplies.map (·.type)
        · simp [hmem]
        · rw [bucketOf_of_not_mem hmem]
          simp [hmem]
      · have hne : type ≠ supply.type := Ne.symm htype
        rw [AList.lookup_insert_ne hne, ih]
        simp [htype, hne]

theorem supplyOf_supplyCategories (supplies : List SerializedTokenSupply) (type : String) :
    (supplyCategories supplies).supplyOf type = (bucketOf type supplies).supplyBalance := by
  rw [SupplyCategories.supplyOf, lookup_supplyCategories]
  by_cases hmem : type ∈ supplies.map (·.type)
  · simp [hmem]
  · rw [bucketOf_of_not_mem hmem]
    simp [hmem, Bucket.zero]

end OlympusMetrics
