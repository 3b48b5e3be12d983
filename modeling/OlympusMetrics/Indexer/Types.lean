import OlympusMetrics.Library.BigNumber
import Mathlib.Data.List.AList

/-!
Data types of the indexer: chains, chain configurations and serialized rows.

A number that the source serializes as a decimal string is kept here as the
number that the string parses to.
-/

namespace OlympusMetrics

/-- A table of entities under their string ids. -/
abbrev Table (V : Type) := AList (fun _ : String => V)

inductive ChainId
  | ethereum | arbitrum | polygon | fantom | base | berachain
  deriving DecidableEq, Repr

/-- `CHAIN_IDS`. -/
def ChainId.number : ChainId → ℕ
  | .ethereum => 1
  | .arbitrum => 42161
  | .polygon => 137
  | .fantom => 250
  | .base => 8453
  | .berachain => 80094

theorem ChainId.number_injective {a b : ChainId} (h : a.number = b.number) : a = b := by
  cases a <;> cases b <;> simp_all [ChainId.number]

structure SerializedTokenRecord where
  id : String
  chainId : ChainId
  blockchain : String
  block : ℕ
  timestamp : ℕ
  date : String
  token : String
  tokenAddress : String
  source : String
  sourceAddress : String
  rate : BigNumber
  balance : BigNumber
  multiplier : BigNumber
  value : BigNumber
  valueExcludingOhm : BigNumber
  category : String
  isLiquid : Bool
  isBluechip : Bool
  deriving DecidableEq

structure SerializedTokenSupply where
  id : String
  chainId : ChainId
  blockchain : String
  block : ℕ
  timestamp : ℕ
  date : String
  token : String
  tokenAddress : String
  pool : Option String
  poolAddress : Option String
  source : Option String
  sourceAddress : Option String
  type : String
  balance : BigNumber
  supplyBalance : BigNumber
  deriving DecidableEq

structure TokenDefinition where
  address : String
  category : String
  isLiquid : Bool
  isBluechip : Bool
  decimals : ℕ
  multiplier : Option BigNumber := none
  isLiability : Bool := false
  startBlock : Option ℕ := none
  nonStandardBalance : Bool := false
  deriving DecidableEq

inductive ClearinghouseKind
  | clearinghouse | monocooler
  deriving DecidableEq, Repr

structure CoolerClearinghouse where
  address : String
  kind : ClearinghouseKind
  name : String
  receivableToken : String
  priceToken : Option String := none
  startBlock : Option ℕ := none
  deriving DecidableEq

/-- A contract that is read from its start block on. -/
structure GatedContract where
  address : String
  startBlock : ℕ
  deriving DecidableEq

structure MigrationOffset where
  migrationContract : String
  sOhmAddress : String
  offsetOhm : BigNumber
  startBlock : ℕ
  endBlock : ℕ
  deriving DecidableEq

inductive ConvertVia
  | gohmIndex | direct
  deriving DecidableEq, Repr

structure TreasuryOhmEquivalent where
  tokenAddress : String
  decimals : ℕ
  startBlock : ℕ
  convertVia : ConvertVia
  deriving DecidableEq

structure StakingContracts where
  v1 : String
  v2 : String
  v2StartBlock : ℕ
  v3 : String
  v3StartBlock : ℕ
  deriving DecidableEq

/-- The variants of `LiquidityHandler` with the fields each adds. -/
inductive HandlerKind
  | stable
  | remap (target : String)
  | chainlink (decimals : ℕ)
  | gohm (ohmToken : String)
  | erc4626 (underlying : String) (decimals underlyingDecimals : ℕ)
  | curve (lpToken : String) (coins : List String) (coinDecimals : List ℕ)
  | fraxswap (token0 token1 : String) (decimals0 decimals1 : ℕ)
  | univ2
  | univ3
  | univ3Quoter (quoter : String)
  | balancer (vault : String)
  | kodiak (pool quoter : String) (rewardVault : Option String)
  deriving DecidableEq

structure LiquidityHandler where
  kind : HandlerKind
  id : String
  tokens : List String
  startBlock : Option ℕ := none
  deriving DecidableEq

/-- `ChainConfig`, with records from addresses as association lists. -/
structure ChainConfig where
  chainId : ChainId
  blockchain : String
  startBlock : ℕ
  tokens : List TokenDefinition
  names : List (String × String)
  abbreviations : List (String × String)
  protocolAddresses : List String
  circulatingSupplyWallets : List String
  treasuryBlacklist : List (String × List String)
  ohmToken : String
  ohmStartBlock : Option ℕ := none
  nativeToken : Option String := none
  coolerClearinghouses : List CoolerClearinghouse := []
  blvRegistry : Option GatedContract := none
  bondManager : Option GatedContract := none
  migrationOffset : Option MigrationOffset := none
  treasuryOhmEquivalents : List TreasuryOhmEquivalent := []
  stakingContracts : Option StakingContracts := none
  univ3PositionManager : Option GatedContract := none
  liquidityHandlers : List LiquidityHandler
  ownedLiquidityHandlers : List LiquidityHandler

end OlympusMetrics
