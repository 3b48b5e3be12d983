import OlympusMetrics.Indexer.Types
import OlympusMetrics.Library.Calendar
import OlympusMetrics.Library.SlashPath

/-!
Helpers of `snapshot/math.ts` and the row constructors of `snapshot/records.ts`.

Addresses are kept in the lower-case form that `addr` gives them, so `same` is equality.
-/

namespace OlympusMetrics

/-- `isoDate`: the UTC calendar date of a timestamp in seconds. -/
def isoDate (timestamp : ℕ) : String := (Calendar.civilFromDays (timestamp / 86400)).iso

/-- `toDecimal`. -/
def toDecimal (value : ℤ) (decimals : ℕ) : BigNumber :=
  (BigNumber.ofInt value).div (.finite (10 ^ decimals))

/-- `toBigDecimal`: `toFixed()` writes every digit, so the stored value is the value. -/
def toBigDecimal (value : BigNumber) : BigNumber := value

@[simp] theorem toBigDecimal_eq (value : BigNumber) : toBigDecimal value = value := rfl

/-- `isActive` of a definition with an optional start block. -/
def isActive (startBlock : Option ℕ) (blockNumber : ℕ) : Bool :=
  match startBlock with
  | none => true
  | some start => decide (start ≤ blockNumber)

/-- `matches`. -/
def LiquidityHandler.matches (handler : LiquidityHandler) (tokenAddress : String) : Bool :=
  handler.tokens.contains tokenAddress

/-- `getTokenDefinition`. -/
def getTokenDefinition (config : ChainConfig) (tokenAddress : String) : Option TokenDefinition :=
  config.tokens.find? (fun definition => definition.address == tokenAddress)

/-- `getTokenDecimals`. -/
def getTokenDecimals (tokens : List TokenDefinition) (address : String) : ℕ :=
  ((tokens.find? (fun definition => definition.address == address)).map (·.decimals)).getD 18

/-- `getWalletAddressesForContract`. -/
def getWalletAddressesForContract (config : ChainConfig) (contractAddress : String) : List String :=
  let blacklist := (config.treasuryBlacklist.lookup contractAddress).getD []
  config.protocolAddresses.filter (fun address => !blacklist.contains address)

/-- `toLowerCase` of ASCII text: display names, addresses and pool ids. -/
def lowerCase (s : String) : String := String.ofList (s.toList.map Char.toLower)

/-- `getContractName`: the name and, unless it repeats the name, the abbreviation. -/
def getContractName (config : ChainConfig) (contractAddress : String) : String :=
  let name := (config.names.lookup contractAddress).getD contractAddress
  match config.abbreviations.lookup contractAddress with
  | none => name
  | some abbreviation =>
      if abbreviation ≠ "" ∧ lowerCase abbreviation ≠ lowerCase name then
        name ++ " (" ++ abbreviation ++ ")"
      else name

/-- The components shared by all row ids of one snapshot. -/
def snapshotPrefix (config : ChainConfig) (timestamp blockNumber : ℕ) : String :=
  isoDate timestamp ++ "/" ++ toString config.chainId.number ++ "/" ++ toString blockNumber ++ "/"

/-- The id of a token record. -/
def tokenRecordId (config : ChainConfig) (timestamp blockNumber : ℕ)
    (sourceName tokenName : String) : String :=
  snapshotPrefix config timestamp blockNumber ++ (sourceName ++ "/" ++ tokenName)

/-- `createTokenRecord`. -/
def createTokenRecord (config : ChainConfig) (timestamp : ℕ)
    (tokenName tokenAddress sourceName sourceAddress : String) (rate balance : BigNumber)
    (blockNumber : ℕ) (nonOhmMultiplier : Option BigNumber := none)
    (category : Option String := none) : SerializedTokenRecord :=
  let definition := getTokenDefinition config tokenAddress
  let multiplier := nonOhmMultiplier.getD ((definition.bind (·.multiplier)).getD 1)
  let baseValue := balance.times rate
  let isLiability := (definition.map (·.isLiability)).getD false
  let value := if isLiability then baseValue.times (.finite (-1)) else baseValue
  let valueExcludingOhm :=
    if isLiability then (baseValue.times multiplier).times (.finite (-1))
    else baseValue.times multiplier
  { id := tokenRecordId config timestamp blockNumber sourceName tokenName
    chainId := config.chainId
    blockchain := config.blockchain
    block := blockNumber
    timestamp := timestamp
    date := isoDate timestamp
    token := tokenName
    tokenAddress := tokenAddress
    source := sourceName
    sourceAddress := sourceAddress
    rate := rate.toString10
    balance := balance.toString10
    multiplier := multiplier.toString10
    value := value.toString10
    valueExcludingOhm := valueExcludingOhm.toString10
    category := category.getD ((definition.map (·.category)).getD "Unknown")
    isLiquid := (definition.map (·.isLiquid)).getD true
    isBluechip := (definition.map (·.isBluechip)).getD false }

/-- The id of a token supply row. -/
def tokenSupplyId (config : ChainConfig) (timestamp blockNumber : ℕ) (tokenName type : String)
    (poolName sourceName : Option String) : String :=
  snapshotPrefix config timestamp blockNumber ++
    (tokenName ++ "/" ++ type ++ "/" ++ poolName.getD "Unknown Pool" ++ "/" ++ sourceName.getD "")

/-- `createTokenSupply`. -/
def createTokenSupply (config : ChainConfig) (timestamp : ℕ) (tokenName tokenAddress : String)
    (poolName poolAddress sourceName sourceAddress : Option String) (type : String)
    (balance : BigNumber) (blockNumber : ℕ) (multiplier : ℤ := 1) : SerializedTokenSupply where
  id := tokenSupplyId config timestamp blockNumber tokenName type poolName sourceName
  chainId := config.chainId
  blockchain := config.blockchain
  block := blockNumber
  timestamp := timestamp
  date := isoDate timestamp
  token := tokenName
  tokenAddress := tokenAddress
  pool := poolName
  poolAddress := poolAddress
  source := sourceName
  sourceAddress := sourceAddress
  type := type
  balance := balance.toString10
  supplyBalance := (balance.times (.ofInt multiplier)).toString10

end OlympusMetrics
