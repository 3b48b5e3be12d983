import OlympusMetrics.Indexer.Types
import OlympusMetrics.Publisher.ArtifactStore

/-!
The daily metrics and records that the shards hold, and how the API builds and
completes them.

Numbers are of any type `N` with a zero and a sum. Times are milliseconds.
-/

namespace OlympusMetrics.Api

open Publisher

/-- `CHAIN_NAMES`, in order. -/
def chainNames : List ChainId := [.arbitrum, .ethereum, .fantom, .polygon, .base, .berachain]

def chainName : ChainId → String
  | .arbitrum => "Arbitrum"
  | .ethereum => "Ethereum"
  | .fantom => "Fantom"
  | .polygon => "Polygon"
  | .base => "Base"
  | .berachain => "Berachain"

/-- `isChainName`: the chain with a name. -/
def chainOfName (name : String) : Option ChainId :=
  chainNames.find? (fun chain => chainName chain == name)

/-- `ALL_CHAIN_IDS`. -/
def allChainIds : List ℕ := chainNames.map ChainId.number

def requiredChainIdsForComplete : List ℕ := [ChainId.arbitrum.number, ChainId.ethereum.number]

variable {N : Type}

abbrev ChainValues (N : Type) := ChainId → N

structure SupplyCategoryValues (N : Type) where
  bondsDeposits : N
  bondsPreminted : N
  bondsVestingDeposits : N
  bondsVestingTokens : N
  boostedLiquidityVault : N
  lendingMarkets : N
  protocolOwnedLiquidity : N
  migrationOffset : N
  totalSupply : N
  treasury : N

structure TreasuryAsset (N : Type) where
  id : String
  balance : N
  block : N
  blockchain : String
  category : String
  date : String
  isBluechip : Bool
  isLiquid : Bool
  multiplier : N
  rate : N
  source : String
  sourceAddress : String
  timestamp : N
  token : String
  tokenAddress : String
  value : N
  valueExcludingOhm : N

structure OhmSupply (N : Type) where
  id : String
  balance : N
  block : N
  blockchain : String
  date : String
  pool : Option String
  poolAddress : Option String
  source : String
  sourceAddress : String
  supplyBalance : N
  timestamp : N
  token : String
  tokenAddress : String
  type : String

structure ResponseMetadata where
  chainsComplete : List String
  chainsFailed : List String
  timestamp : ℕ

/-- The records behind the totals of a metric. -/
structure MetricRecords (N : Type) where
  ohmTotalSupplyRecords : ChainId → List (OhmSupply N)
  ohmCirculatingSupplyRecords : ChainId → List (OhmSupply N)
  ohmFloatingSupplyRecords : ChainId → List (OhmSupply N)
  ohmBackedSupplyRecords : ChainId → List (OhmSupply N)
  treasuryMarketValueRecords : ChainId → List (TreasuryAsset N)
  treasuryLiquidBackingRecords : ChainId → List (TreasuryAsset N)

structure DailyMetric (N : Type) where
  date : String
  blocks : ChainValues N
  timestamps : ChainValues N
  crossChainComplete : Bool
  chainsIndexed : List ℕ
  chainsMissing : List ℕ
  ohmIndex : N
  ohmApy : N
  ohmTotalSupply : N
  ohmTotalSupplyComponents : ChainValues N
  ohmCirculatingSupply : N
  ohmCirculatingSupplyComponents : ChainValues N
  ohmFloatingSupply : N
  ohmFloatingSupplyComponents : ChainValues N
  ohmBackedSupply : N
  gOhmBackedSupply : N
  ohmBackedSupplyComponents : ChainValues N
  ohmSupplyCategories : SupplyCategoryValues N
  ohmPrice : N
  gOhmPrice : N
  marketCap : N
  sOhmCirculatingSupply : N
  sOhmTotalValueLocked : N
  treasuryMarketValue : N
  treasuryMarketValueComponents : ChainValues N
  treasuryLiquidBacking : N
  treasuryLiquidBackingComponents : ChainValues N
  treasuryLiquidBackingPerOhmFloating : N
  treasuryLiquidBackingPerOhmBacked : N
  treasuryLiquidBackingPerGOhmBacked : N
  records : Option (MetricRecords N)
  metadata : ResponseMetadata

/-- The rows of the three kinds of shards. -/
def MetricRow (N : Type) : ArtifactKind → Type
  | .metrics => DailyMetric N
  | .treasuryAssets => TreasuryAsset N
  | .ohmSupply => OhmSupply N

instance (kind : ArtifactKind) : Dated (MetricRow N kind) :=
  match kind with
  | .metrics => ⟨fun row : DailyMetric N => row.date⟩
  | .treasuryAssets => ⟨fun row : TreasuryAsset N => row.date⟩
  | .ohmSupply => ⟨fun row : OhmSupply N => row.date⟩

/-! ### Building a metric -/

def isCrossChainComplete (chainsIndexed : List ℕ) : Bool :=
  requiredChainIdsForComplete.all (fun chainId => chainsIndexed.contains chainId)

/-- The chains that are not indexed. -/
def missingChainIds (chainsIndexed : List ℕ) : List ℕ :=
  allChainIds.filter (fun chainId => !chainsIndexed.contains chainId)

def chainNamesFromIds (chainIds : List ℕ) : List String :=
  chainIds.filterMap (fun chainId =>
    (chainNames.find? (fun chain => chain.number == chainId)).map chainName)

def groupTreasuryAssetsByChain (assets : List (TreasuryAsset N)) : ChainId → List (TreasuryAsset N) :=
  fun chain => assets.filter (fun asset => chainOfName asset.blockchain == some chain)

def groupOhmSupplyByChain (supplies : List (OhmSupply N)) : ChainId → List (OhmSupply N) :=
  fun chain => supplies.filter (fun supply => chainOfName supply.blockchain == some chain)

section

variable [Zero N] [Add N]

def sum (values : List N) : N := values.foldl (· + ·) 0

/-- `sum(Object.values(components))`. -/
def sumOfChains (components : ChainValues N) : N := sum (chainNames.map components)

def emptySupplyCategoryValues : SupplyCategoryValues N where
  bondsDeposits := 0
  bondsPreminted := 0
  bondsVestingDeposits := 0
  bondsVestingTokens := 0
  boostedLiquidityVault := 0
  lendingMarkets := 0
  protocolOwnedLiquidity := 0
  migrationOffset := 0
  totalSupply := 0
  treasury := 0

structure DailyMetricInput (N : Type) where
  date : String
  treasuryAssets : List (TreasuryAsset N)
  ohmSupply : List (OhmSupply N)
  includeRecords : Bool
  chainsIndexed : List ℕ
  chainsMissing : List ℕ
  generatedAt : ℕ

def buildDailyMetric (input : DailyMetricInput N) : DailyMetric N :=
  let assets := groupTreasuryAssetsByChain input.treasuryAssets
  let supplies := groupOhmSupplyByChain input.ohmSupply
  let treasuryMarketValueComponents := fun chain => sum ((assets chain).map (·.value))
  let treasuryLiquidBackingComponents := fun chain =>
    sum (((assets chain).filter (·.isLiquid)).map (·.valueExcludingOhm))
  let ohmTotalSupplyComponents := fun chain =>
    sum (((supplies chain).filter (fun supply => supply.type == "Total Supply")).map (·.balance))
  let ohmCirculatingSupplyComponents := fun chain => sum ((supplies chain).map (·.supplyBalance))
  { date := input.date
    blocks := fun chain => (((assets chain).head?.map (·.block)).or
      ((supplies chain).head?.map (·.block))).getD 0
    timestamps := fun chain => (((assets chain).head?.map (·.timestamp)).or
      ((supplies chain).head?.map (·.timestamp))).getD 0
    crossChainComplete := isCrossChainComplete input.chainsIndexed
    chainsIndexed := input.chainsIndexed
    chainsMissing := input.chainsMissing
    ohmIndex := 0
    ohmApy := 0
    ohmTotalSupply := sumOfChains ohmTotalSupplyComponents
    ohmTotalSupplyComponents := ohmTotalSupplyComponents
    ohmCirculatingSupply := sumOfChains ohmCirculatingSupplyComponents
    ohmCirculatingSupplyComponents := ohmCirculatingSupplyComponents
    ohmFloatingSupply := sumOfChains ohmCirculatingSupplyComponents
    ohmFloatingSupplyComponents := ohmCirculatingSupplyComponents
    ohmBackedSupply := sumOfChains ohmCirculatingSupplyComponents
    gOhmBackedSupply := 0
    ohmBackedSupplyComponents := ohmCirculatingSupplyComponents
    ohmSupplyCategories := emptySupplyCategoryValues
    ohmPrice := 0
    gOhmPrice := 0
    marketCap := 0
    sOhmCirculatingSupply := 0
    sOhmTotalValueLocked := 0
    treasuryMarketValue := sumOfChains treasuryMarketValueComponents
    treasuryMarketValueComponents := treasuryMarketValueComponents
    treasuryLiquidBacking := sumOfChains treasuryLiquidBackingComponents
    treasuryLiquidBackingComponents := treasuryLiquidBackingComponents
    treasuryLiquidBackingPerOhmFloating := 0
    treasuryLiquidBackingPerOhmBacked := 0
    treasuryLiquidBackingPerGOhmBacked := 0
    records := if input.includeRecords then
      some
        { ohmTotalSupplyRecords := supplies
          ohmCirculatingSupplyRecords := supplies
          ohmFloatingSupplyRecords := supplies
          ohmBackedSupplyRecords := supplies
          treasuryMarketValueRecords := assets
          treasuryLiquidBackingRecords :=
            groupTreasuryAssetsByChain (input.treasuryAssets.filter (·.isLiquid)) }
      else none
    metadata :=
      { chainsComplete := chainNamesFromIds input.chainsIndexed
        chainsFailed := chainNamesFromIds input.chainsMissing
        timestamp := input.generatedAt } }

def buildEmptyDailyMetric (date : String) (includeRecords : Bool) (generatedAt : ℕ) :
    DailyMetric N :=
  buildDailyMetric
    { date := date
      treasuryAssets := []
      ohmSupply := []
      includeRecords := includeRecords
      chainsIndexed := []
      chainsMissing := allChainIds
      generatedAt := generatedAt }

end

/-! ### Completing a stored metric -/

def normalizeMetricCompleteness (metric : DailyMetric N) : DailyMetric N :=
  { metric with
    chainsMissing := missingChainIds metric.chainsIndexed
    crossChainComplete := isCrossChainComplete metric.chainsIndexed }

/-- Whether a record belongs to the block that the metric was computed at. -/
def isSelectedMetricBlock [Zero N] [DecidableEq N] (metric : DailyMetric N) (block : N)
    (blockchain : String) : Bool :=
  match chainOfName blockchain with
  | none => false
  | some chain => decide (metric.blocks chain ≠ 0) && decide (block = metric.blocks chain)

def attachMetricRecords [Zero N] [Add N] [DecidableEq N] (metric : DailyMetric N)
    (treasuryAssets : List (TreasuryAsset N)) (ohmSupply : List (OhmSupply N)) : DailyMetric N :=
  let records := buildDailyMetric
    { date := metric.date
      treasuryAssets := treasuryAssets.filter (fun asset =>
        isSelectedMetricBlock metric asset.block asset.blockchain)
      ohmSupply := ohmSupply.filter (fun supply =>
        isSelectedMetricBlock metric supply.block supply.blockchain)
      includeRecords := true
      chainsIndexed := metric.chainsIndexed
      chainsMissing := metric.chainsMissing
      generatedAt := metric.metadata.timestamp }
  { metric with records := records.records }

end OlympusMetrics.Api
