import OlympusMetrics.Indexer.Erc20Transfers
import OlympusMetrics.Indexer.OhmSupplyRows
import OlympusMetrics.Indexer.OwnedLiquidity

/-!
The OHM that a snapshot finds in pools and in lending markets: the supply rows of
the protocol's liquidity, and those of the Arbitrum lenders.
-/

namespace OlympusMetrics.Pricing

open Lookup

/-- Whether a handler's pool is active and has OHM. -/
def holdsOhm (config : ChainConfig) (blockNumber : ℕ) (handler : LiquidityHandler) : Bool :=
  isActive handler.startBlock blockNumber && handler.matches config.ohmToken

section

variable (ctx : PricingContext) (timestamp : ℕ)

/-- A supply row of OHM that a wallet has in a pool or a market. -/
def heldOhmSupply (poolName poolAddress wallet type : String) (balance : BigNumber) :
    SerializedTokenSupply :=
  createTokenSupply ctx.config timestamp (getContractName ctx.config ctx.config.ohmToken)
    ctx.config.ohmToken (some poolName) (some poolAddress)
    (some (getContractName ctx.config wallet)) (some wallet) type balance ctx.blockNumber (-1)

/-- The loop over the wallets of a handler. -/
def pushPoolSupplies (handler : LiquidityHandler) (multiplier : BigNumber) :
    List String → List SerializedTokenSupply → PricingProg (List SerializedTokenSupply)
  | [], supplies => .ret supplies
  | wallet :: rest, supplies => do
      let rawBalance ← getUnderlyingTokenBalance ctx handler wallet ctx.config.ohmToken
      if rawBalance.eq 0 then pushPoolSupplies handler multiplier rest supplies
      else
        let balance := rawBalance.times multiplier
        if balance.eq 0 then pushPoolSupplies handler multiplier rest supplies
        else
          pushPoolSupplies handler multiplier rest
            (supplies ++ [heldOhmSupply ctx timestamp (getContractName ctx.config handler.id)
              handler.id wallet typeLiquidity balance])

/-- The loop over the handlers. -/
def pushLiquiditySupplies (multiplier : BigNumber) :
    List LiquidityHandler → List SerializedTokenSupply → PricingProg (List SerializedTokenSupply)
  | [], supplies => .ret supplies
  | handler :: rest, supplies =>
      if !holdsOhm ctx.config ctx.blockNumber handler then pushLiquiditySupplies multiplier rest supplies
      else do
        let supplies ← pushPoolSupplies ctx timestamp handler multiplier
          ctx.config.circulatingSupplyWallets supplies
        pushLiquiditySupplies multiplier rest supplies

/-- `pushOwnedLiquiditySupply`. -/
def pushOwnedLiquiditySupply (indexState : Option OhmIndexState)
    (supplies : List SerializedTokenSupply) : PricingProg (List SerializedTokenSupply) :=
  match getOhmEquivalentMultiplier ctx.config indexState with
  | none => .ret supplies
  | some multiplier =>
      pushLiquiditySupplies ctx timestamp multiplier ctx.config.ownedLiquidityHandlers supplies

/-! ### Arbitrum lending -/

/-- `ARBITRUM_DYNAMIC_LENDING_START_BLOCK`. -/
def arbitrumDynamicLendingStartBlock : ℕ := 130482707

/-- `LENDING_OHM_DECIMALS`. -/
def lendingOhmDecimals : ℕ := 9

/-- The markets with their start blocks, `SILO_COLLATERAL_START_BLOCK` and
`SENTIMENT_LTOKEN_START_BLOCK`. -/
def lendingMarkets : List (String × ℕ) :=
  [(Chains.Arbitrum.siloCollateral, 99067079), (Chains.Arbitrum.sentimentLtoken, 100875583)]

/-- The row of an active AMO of the chain. -/
def amoSupply (amo : LenderAmo) : Option SerializedTokenSupply :=
  if amo.chainId ≠ ctx.config.chainId ∨ amo.deployedOhm = 0 then none
  else
    some (createTokenSupply ctx.config timestamp
      (getContractName ctx.config ctx.config.ohmToken) ctx.config.ohmToken none none
      (some (getContractName ctx.config Chains.Arbitrum.olympusLender ++ " - " ++ amo.amoAddress))
      (some amo.amoAddress) typeLending (toDecimal amo.deployedOhm lendingOhmDecimals)
      ctx.blockNumber (-1))

/-- The loop over the wallets of a market. -/
def pushMarketSupplies (market : String) :
    List String → List SerializedTokenSupply → PricingProg (List SerializedTokenSupply)
  | [], supplies => .ret supplies
  | wallet :: rest, supplies => do
      let balance ← readTokenBalance market wallet lendingOhmDecimals
      if balance.eq 0 then pushMarketSupplies market rest supplies
      else
        pushMarketSupplies market rest
          (supplies ++ [heldOhmSupply ctx timestamp (getContractName ctx.config market) market
            wallet typeLending balance])

/-- The loop over the markets. -/
def pushLendingSupplies :
    List (String × ℕ) → List SerializedTokenSupply → PricingProg (List SerializedTokenSupply)
  | [], supplies => .ret supplies
  | (market, startBlock) :: rest, supplies =>
      if ctx.blockNumber < startBlock then pushLendingSupplies rest supplies
      else do
        let wallets := getWalletAddressesForContract ctx.config market
        let supplies ← pushMarketSupplies ctx timestamp market wallets supplies
        pushLendingSupplies rest supplies

/-- `pushArbitrumLendingSupply`, over the AMOs that are stored as active. -/
def pushArbitrumLendingSupply (activeAmos : List LenderAmo)
    (supplies : List SerializedTokenSupply) : PricingProg (List SerializedTokenSupply) :=
  pushLendingSupplies ctx timestamp lendingMarkets
    (if ctx.blockNumber < arbitrumDynamicLendingStartBlock then supplies
      else supplies ++ activeAmos.filterMap (amoSupply ctx timestamp))

end

end OlympusMetrics.Pricing
