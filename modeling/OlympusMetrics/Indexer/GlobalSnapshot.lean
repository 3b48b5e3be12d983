import OlympusMetrics.Chains.Index
import OlympusMetrics.Indexer.Global
import OlympusMetrics.Indexer.Records
import OlympusMetrics.Library.EntityTable

/-!
The daily rollup rows and their writer, `updateGlobalMetricSnapshot`.
-/

namespace OlympusMetrics

structure ChainMetricValues where
  id : String
  snapshotId : String
  chainId : ChainId
  blockchain : String
  date : String
  block : ℕ
  timestamp : ℕ
  ohmTotalSupply : BigNumber
  ohmCirculatingSupply : BigNumber
  ohmFloatingSupply : BigNumber
  ohmBackedSupply : BigNumber
  treasuryMarketValue : BigNumber
  treasuryLiquidBacking : BigNumber
  deriving DecidableEq

structure GlobalMetricSnapshot where
  id : String
  date : String
  updatedAtTimestamp : ℕ
  crossChainComplete : Bool
  chainsIndexed : List ChainId
  chainsMissing : List ChainId
  ohmTotalSupply : BigNumber
  ohmCirculatingSupply : BigNumber
  ohmFloatingSupply : BigNumber
  ohmBackedSupply : BigNumber
  gOhmBackedSupply : BigNumber
  treasuryMarketValue : BigNumber
  treasuryLiquidBacking : BigNumber
  ohmIndex : BigNumber
  ohmApy : BigNumber
  ohmPrice : BigNumber
  gOhmPrice : BigNumber
  sOhmCirculatingSupply : BigNumber
  sOhmTotalValueLocked : BigNumber
  marketCap : BigNumber
  treasuryLiquidBackingPerOhmFloating : BigNumber
  treasuryLiquidBackingPerOhmBacked : BigNumber
  treasuryLiquidBackingPerGOhmBacked : BigNumber
  deriving DecidableEq

inductive SupplyCategoryType
  | totalSupply | treasury | ohmMigrationOffset | bondsPreminted | bondsVestingDeposits
  | bondsVestingTokens | bondsDeposits | liquidity | boostedLiquidityVault | lending
  deriving DecidableEq, Repr

/-- The member's name in the GraphQL enumeration. -/
def SupplyCategoryType.text : SupplyCategoryType → String
  | .totalSupply => "TOTAL_SUPPLY"
  | .treasury => "TREASURY"
  | .ohmMigrationOffset => "OHM_MIGRATION_OFFSET"
  | .bondsPreminted => "BONDS_PREMINTED"
  | .bondsVestingDeposits => "BONDS_VESTING_DEPOSITS"
  | .bondsVestingTokens => "BONDS_VESTING_TOKENS"
  | .bondsDeposits => "BONDS_DEPOSITS"
  | .liquidity => "LIQUIDITY"
  | .boostedLiquidityVault => "BOOSTED_LIQUIDITY_VAULT"
  | .lending => "LENDING"

/-- `CATEGORY_TYPE_TO_ENUM`. -/
def categoryTypeToEnum (type : String) : Option SupplyCategoryType :=
  [(typeTotalSupply, SupplyCategoryType.totalSupply), (typeTreasury, .treasury),
   (typeOffset, .ohmMigrationOffset), (typeBondsPreminted, .bondsPreminted),
   (typeBondsVestingDeposits, .bondsVestingDeposits),
   (typeBondsVestingTokens, .bondsVestingTokens), (typeBondsDeposits, .bondsDeposits),
   (typeLiquidity, .liquidity), (typeBlv, .boostedLiquidityVault),
   (typeLending, .lending)].lookup type

structure ChainSupplyCategory where
  id : String
  snapshotId : String
  chainId : ChainId
  date : String
  category : SupplyCategoryType
  balance : BigNumber
  supplyBalance : BigNumber
  deriving DecidableEq

structure OhmIndexState where
  id : String
  chainId : ChainId
  sOhmAddress : String
  index : ℤ
  epoch : ℤ
  updatedAtBlock : ℕ
  updatedAtTimestamp : ℕ
  deriving DecidableEq

/-- The entity tables that the rollup reads and writes. -/
structure RollupStore where
  chainMetricValues : EntityTable ChainMetricValues.id
  globalMetricSnapshot : EntityTable GlobalMetricSnapshot.id
  chainSupplyCategory : EntityTable ChainSupplyCategory.id
  ohmIndexState : EntityTable OhmIndexState.id

def RollupStore.empty : RollupStore := ⟨∅, ∅, ∅, ∅⟩

/-- What an Ethereum snapshot reads besides its rows, at its block: the price that `getPrice`
returns for OHM and the raw results of the two staking effects, `none` for the empty string. -/
structure CanonicalReads where
  ohmPrice : BigNumber
  readSOhmCirculatingSupply : Option ℤ
  readNextOhmDistribution : Option ℤ
  deriving DecidableEq

/-- The id of a chain's row of a date. -/
def chainValuesId (date : String) (chainId : ChainId) : String :=
  SlashPath.join date (toString chainId.number)

/-- The id of a category row. -/
def supplyCategoryId (date : String) (chainId : ChainId) (category : SupplyCategoryType) : String :=
  SlashPath.join (chainValuesId date chainId) category.text

def PerChainAggregate.toChainMetricValues (thisChain : PerChainAggregate) : ChainMetricValues where
  id := chainValuesId thisChain.date thisChain.chainId
  snapshotId := thisChain.date
  chainId := thisChain.chainId
  blockchain := thisChain.blockchain
  date := thisChain.date
  block := thisChain.block
  timestamp := thisChain.timestamp
  ohmTotalSupply := toBigDecimal thisChain.ohmTotalSupply
  ohmCirculatingSupply := toBigDecimal thisChain.ohmCirculatingSupply
  ohmFloatingSupply := toBigDecimal thisChain.ohmFloatingSupply
  ohmBackedSupply := toBigDecimal thisChain.ohmBackedSupply
  treasuryMarketValue := toBigDecimal thisChain.treasuryMarketValue
  treasuryLiquidBacking := toBigDecimal thisChain.treasuryLiquidBacking

/-- A stored chain row as an aggregate, without its categories. -/
def ChainMetricValues.toPerChainAggregate (entity : ChainMetricValues) : PerChainAggregate where
  chainId := entity.chainId
  blockchain := entity.blockchain
  date := entity.date
  block := entity.block
  timestamp := entity.timestamp
  ohmTotalSupply := entity.ohmTotalSupply
  ohmCirculatingSupply := entity.ohmCirculatingSupply
  ohmFloatingSupply := entity.ohmFloatingSupply
  ohmBackedSupply := entity.ohmBackedSupply
  treasuryMarketValue := entity.treasuryMarketValue
  treasuryLiquidBacking := entity.treasuryLiquidBacking
  supplyCategories := ∅

/-- The aggregates of the date: the rows that `getWhere` returned, with this chain's replaced by
the one in hand, which is added when it was not among them. -/
def perChainAggregates (thisChain : PerChainAggregate) (allChainValues : List ChainMetricValues) :
    List PerChainAggregate :=
  let aggregates := allChainValues.map (fun entity =>
    if entity.chainId = thisChain.chainId then thisChain else entity.toPerChainAggregate)
  if aggregates.any (fun aggregate => aggregate.chainId == thisChain.chainId) then aggregates
  else aggregates ++ [thisChain]

/-- `migrationOffset?.sOhmAddress` of the Ethereum configuration. -/
def canonicalSOhm : Option String := (chainConfigs .ethereum).migrationOffset.map (·.sOhmAddress)

/-- The id of the index state of a chain's sOHM. -/
def ohmIndexStateId (chainId : ChainId) (sOhmAddress : String) : String :=
  toString chainId.number ++ "-" ++ sOhmAddress

/-- The canonical `ohmIndex`, zero until a positive index is stored. -/
def readOhmIndex (store : RollupStore) : BigNumber :=
  match canonicalSOhm.bind (fun sOhm => store.ohmIndexState.get (ohmIndexStateId .ethereum sOhm)) with
  | none => 0
  | some state =>
      if 0 < state.index then (BigNumber.ofInt state.index).div (.finite 1000000000) else 0

/-- The fields that only Ethereum can compute. -/
structure CanonicalFields where
  ohmPrice : BigNumber
  sOhmCirculatingSupply : BigNumber
  ohmApy : BigNumber
  deriving DecidableEq

def CanonicalFields.zero : CanonicalFields := ⟨0, 0, 0⟩

section Writer

variable (compound : BigNumber → BigNumber)

/-- The canonical fields that an Ethereum snapshot computes from its reads. -/
def computeCanonicalFields (config : ChainConfig) (reads : CanonicalReads) : CanonicalFields :=
  let sOhmCirculatingSupply :=
    match config.migrationOffset, reads.readSOhmCirculatingSupply with
    | some _, some raw => (BigNumber.ofInt raw).div (.finite 1000000000)
    | _, _ => 0
  let ohmApy :=
    match config.stakingContracts, reads.readNextOhmDistribution with
    | some _, some raw =>
        if raw = 0 then 0
        else
          let distributedOhm := (BigNumber.ofInt raw).div (.finite 1000000000)
          (computeApy compound distributedOhm sOhmCirculatingSupply).currentApy
    | _, _ => 0
  ⟨reads.ohmPrice, sOhmCirculatingSupply, ohmApy⟩

/-- The canonical fields to write: recomputed on Ethereum, elsewhere those already stored. -/
def canonicalFields (config : ChainConfig) (reads : CanonicalReads)
    (existing : Option GlobalMetricSnapshot) : CanonicalFields :=
  if config.chainId = .ethereum then computeCanonicalFields compound config reads
  else
    match existing with
    | none => CanonicalFields.zero
    | some row => ⟨row.ohmPrice, row.sOhmCirculatingSupply, row.ohmApy⟩

/-- The date row, from the aggregate and the canonical inputs. -/
def globalMetricSnapshotRow (date : String) (timestamp : ℕ) (aggregate : CrossChainAggregate)
    (canonical : CanonicalFields) (ohmIndex : BigNumber) : GlobalMetricSnapshot :=
  let ratios := computeDerivedRatios aggregate canonical.ohmPrice ohmIndex
  { id := date
    date := date
    updatedAtTimestamp := timestamp
    crossChainComplete := aggregate.crossChainComplete
    chainsIndexed := aggregate.chainsIndexed
    chainsMissing := aggregate.chainsMissing
    ohmTotalSupply := toBigDecimal aggregate.ohmTotalSupply
    ohmCirculatingSupply := toBigDecimal aggregate.ohmCirculatingSupply
    ohmFloatingSupply := toBigDecimal aggregate.ohmFloatingSupply
    ohmBackedSupply := toBigDecimal aggregate.ohmBackedSupply
    gOhmBackedSupply := toBigDecimal ratios.gOhmBackedSupply
    treasuryMarketValue := toBigDecimal aggregate.treasuryMarketValue
    treasuryLiquidBacking := toBigDecimal aggregate.treasuryLiquidBacking
    ohmIndex := toBigDecimal ohmIndex
    ohmApy := toBigDecimal canonical.ohmApy
    ohmPrice := toBigDecimal canonical.ohmPrice
    gOhmPrice := toBigDecimal (canonical.ohmPrice.times ohmIndex)
    sOhmCirculatingSupply := toBigDecimal canonical.sOhmCirculatingSupply
    sOhmTotalValueLocked := toBigDecimal (canonical.sOhmCirculatingSupply.times canonical.ohmPrice)
    marketCap := toBigDecimal ratios.marketCap
    treasuryLiquidBackingPerOhmFloating := toBigDecimal ratios.treasuryLiquidBackingPerOhmFloating
    treasuryLiquidBackingPerOhmBacked := toBigDecimal ratios.treasuryLiquidBackingPerOhmBacked
    treasuryLiquidBackingPerGOhmBacked :=
      toBigDecimal ratios.treasuryLiquidBackingPerGOhmBacked }

/-- The category rows written for a chain; a type outside the enumeration is skipped. -/
def supplyCategoryRows (date : String) (chainId : ChainId) (categories : SupplyCategories) :
    List ChainSupplyCategory :=
  categories.entries.filterMap (fun entry =>
    (categoryTypeToEnum entry.1).map (fun category =>
      { id := supplyCategoryId date chainId category
        snapshotId := date
        chainId := chainId
        date := date
        category := category
        balance := toBigDecimal entry.2.balance
        supplyBalance := toBigDecimal entry.2.supplyBalance }))

/-- The date shared by the rows of a snapshot, if there are any. -/
def snapshotDate (records : List SerializedTokenRecord) (supplies : List SerializedTokenSupply) :
    Option String :=
  ((records.head?.map (·.date)).or (supplies.head?.map (·.date))).filter (fun date => date != "")

/-- `updateGlobalMetricSnapshot`. `getWhere` is the store's answer to the query for the rows of
the date, made after this chain's row was set. -/
def updateGlobalMetricSnapshot (config : ChainConfig) (reads : CanonicalReads)
    (getWhere : List ChainMetricValues) (blockNumber timestamp : ℕ)
    (records : List SerializedTokenRecord) (supplies : List SerializedTokenSupply)
    (store : RollupStore) : RollupStore :=
  match snapshotDate records supplies with
  | none => store
  | some date =>
      let thisChain := computePerChainAggregate config.chainId config.blockchain date blockNumber
        timestamp records supplies
      let aggregate := aggregateAcrossChains date (perChainAggregates thisChain getWhere)
      let canonical := canonicalFields compound config reads (store.globalMetricSnapshot.get date)
      let row := globalMetricSnapshotRow date timestamp aggregate canonical (readOhmIndex store)
      { store with
        chainMetricValues := store.chainMetricValues.set thisChain.toChainMetricValues
        globalMetricSnapshot := store.globalMetricSnapshot.set row
        chainSupplyCategory := store.chainSupplyCategory.setAll
          (supplyCategoryRows date config.chainId thisChain.supplyCategories) }

end Writer

/-- `applyLogRebase`: the sOHM must be the id of a `gohm` handler of the chain. -/
def applyLogRebase (chainId : ChainId) (srcAddress : String) (index epoch : ℤ)
    (block timestamp : ℕ) (store : RollupStore) : RollupStore :=
  match (chainConfigs chainId).liquidityHandlers.find? (fun handler =>
      (match handler.kind with | .gohm _ => true | _ => false) && handler.id == srcAddress) with
  | none => store
  | some _ =>
      { store with
        ohmIndexState := store.ohmIndexState.set
          { id := ohmIndexStateId chainId srcAddress
            chainId := chainId
            sOhmAddress := srcAddress
            index := index
            epoch := epoch
            updatedAtBlock := block
            updatedAtTimestamp := timestamp } }

end OlympusMetrics
