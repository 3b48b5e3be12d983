import OlympusMetrics.Indexer.GlobalSnapshot

/-!
The supply rows that a snapshot makes of the OHM token: its total supply and what
the protocol's wallets hold of it.

On a chain where this token is gOHM the rows are converted by the sOHM index,
which is kept by the events of Ethereum.
-/

namespace OlympusMetrics

/-- The canonical index row that is stored. -/
def storedIndex (store : RollupStore) : Option OhmIndexState :=
  canonicalSOhm.bind (fun sOhm => store.ohmIndexState.get (ohmIndexStateId .ethereum sOhm))

/-- The `ohmIndex` of a date row that is written while this index is stored. -/
def ohmIndexOf (indexState : Option OhmIndexState) : BigNumber :=
  match indexState with
  | none => 0
  | some state =>
      if 0 < state.index then (BigNumber.ofInt state.index).div (.finite 1000000000) else 0

theorem readOhmIndex_eq (store : RollupStore) :
    readOhmIndex store = ohmIndexOf (storedIndex store) := rfl

/-- `SOHM_INDEX_DECIMALS`. -/
def sohmIndexDecimals : ℕ := 9

/-- `getSOhmV3Index`, over the index that is stored. -/
def getSOhmV3Index (indexState : Option OhmIndexState) : Option BigNumber :=
  match indexState with
  | none => none
  | some state => if state.index = 0 then none else some (toDecimal state.index sohmIndexDecimals)

/-- `getOhmEquivalentMultiplier`. -/
def getOhmEquivalentMultiplier (config : ChainConfig) (indexState : Option OhmIndexState) :
    Option BigNumber :=
  if getTokenDecimals config.tokens config.ohmToken = 9 then some 1 else getSOhmV3Index indexState

/-- What the supply rows are made of, besides the index: the tables of their own chain and the
balances at the block of the snapshot. -/
structure SupplyReads where
  erc20Supply : Option ℤ
  tokenBalance : String → String → ℤ
  readErc20BalanceOf : String → String → ℤ

/-- A raw balance as `readTokenBalance` and `readNonStandardBalance` return it. -/
def decimalBalance (raw : ℤ) (decimals : ℕ) : BigNumber :=
  if raw = 0 then 0 else toDecimal raw decimals

section

variable (config : ChainConfig) (reads : SupplyReads) (indexState : Option OhmIndexState)
  (timestamp blockNumber : ℕ)

/-- `config.ohmStartBlock && blockNumber < BigInt(config.ohmStartBlock)`. -/
def beforeOhmStart : Bool :=
  match config.ohmStartBlock with
  | none => false
  | some start => decide (blockNumber < start)

/-- `pushTotalSupply`: the rows that it adds. -/
def pushTotalSupply : List SerializedTokenSupply :=
  if beforeOhmStart config blockNumber then []
  else
    match reads.erc20Supply, getOhmEquivalentMultiplier config indexState with
    | some totalSupply, some multiplier =>
        let balance := (toDecimal totalSupply
          (getTokenDecimals config.tokens config.ohmToken)).times multiplier
        if balance.eq 0 then []
        else
          [createTokenSupply config timestamp (getContractName config config.ohmToken)
            config.ohmToken none none none none typeTotalSupply balance blockNumber]
    | _, _ => []

/-- The row of what a wallet holds of a token, in OHM. -/
def treasuryRow (tokenAddress : String) (multiplier rawBalance : BigNumber) (wallet : String) :
    Option SerializedTokenSupply :=
  if rawBalance.eq 0 then none
  else
    let balance := rawBalance.times multiplier
    if balance.eq 0 then none
    else
      some (createTokenSupply config timestamp (getContractName config tokenAddress) tokenAddress
        none none (some (getContractName config wallet)) (some wallet) typeTreasury balance
        blockNumber (-1))

/-- The rows of the OHM token itself. -/
def treasuryOhmRows (multiplier : BigNumber) : List SerializedTokenSupply :=
  let decimals := getTokenDecimals config.tokens config.ohmToken
  let useOnChainBalance :=
    ((getTokenDefinition config config.ohmToken).map (·.nonStandardBalance)).getD false
  config.circulatingSupplyWallets.filterMap (fun wallet =>
    let raw := if useOnChainBalance then reads.readErc20BalanceOf config.ohmToken wallet
      else reads.tokenBalance config.ohmToken wallet
    treasuryRow config timestamp blockNumber config.ohmToken multiplier
      (decimalBalance raw decimals) wallet)

/-- The multiplier of another token that stands for OHM. -/
def TreasuryOhmEquivalent.multiplier (entry : TreasuryOhmEquivalent) : Option BigNumber :=
  match entry.convertVia with
  | .gohmIndex => getSOhmV3Index indexState
  | .direct => some 1

/-- The rows of a token that stands for OHM. -/
def equivalentRows (entry : TreasuryOhmEquivalent) : List SerializedTokenSupply :=
  if blockNumber < entry.startBlock then []
  else
    match entry.multiplier indexState with
    | none => []
    | some multiplier =>
        config.circulatingSupplyWallets.filterMap (fun wallet =>
          treasuryRow config timestamp blockNumber entry.tokenAddress multiplier
            (decimalBalance (reads.tokenBalance entry.tokenAddress wallet) entry.decimals) wallet)

/-- `pushTreasuryOhm`: the rows that it adds. -/
def pushTreasuryOhm : List SerializedTokenSupply :=
  if beforeOhmStart config blockNumber then []
  else
    match getOhmEquivalentMultiplier config indexState with
    | none => []
    | some multiplier =>
        treasuryOhmRows config reads timestamp blockNumber multiplier ++
          config.treasuryOhmEquivalents.flatMap
            (equivalentRows config reads indexState timestamp blockNumber)

end

end OlympusMetrics
