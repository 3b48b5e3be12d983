import OlympusMetrics.Indexer.Pricing
import OlympusMetrics.Library.CachedAnswers
import OlympusMetrics.Library.NumberOrder

/-!
The owned-liquidity records of a snapshot: the LP balances of the protocol's
wallets, valued by the pools' handlers.
-/

namespace OlympusMetrics.Pricing

open Lookup BigNumber

/-- `getLpTokenForHandler`. -/
def getLpTokenForHandler (handler : LiquidityHandler) : Option String :=
  match handler.kind with
  | .univ2 => some handler.id
  | .balancer _ => some (Balancer.bptAddressFromPoolId handler.id)
  | .kodiak pool _ rewardVault => some (rewardVault.getD pool)
  | _ => none

/-- `readTokenBalance`. -/
def readTokenBalance (tokenAddress wallet : String) (decimals : ℕ) : PricingProg BigNumber := do
  let entity ← readTokenBalanceEntity tokenAddress wallet
  match entity with
  | none => .ret 0
  | some balance => .ret (if balance = 0 then 0 else toDecimal balance decimals)

/-- `readNonStandardBalance`, over what the effect `readErc20BalanceOf` returns. -/
def readNonStandardBalance (readErc20BalanceOf : String → String → Except String ℤ)
    (tokenAddress wallet : String) (decimals : ℕ) : PricingProg BigNumber := do
  let raw ← orThrow (readErc20BalanceOf tokenAddress wallet)
  .ret (if raw = 0 then 0 else toDecimal raw decimals)

section

variable (ctx : PricingContext) (readErc20BalanceOf : String → String → Except String ℤ)
  (timestamp : ℕ)

/-- What the loop over the handlers computes before it reads balances: the unit rate and the
multiplier, or nothing where it goes on with the next handler. -/
def unitRateAndMultiplier (handler : LiquidityHandler) :
    PricingProg (Option (BigNumber × BigNumber)) := do
  let totalValue ← getTotalValue handler []
  match totalValue with
  | none => .ret none
  | some totalValue =>
      if totalValue.eq 0 then .ret none
      else do
        let includedValue ← getTotalValue handler [ctx.config.ohmToken]
        match includedValue with
        | none => .ret none
        | some includedValue => do
            let unitRate ← getUnitPrice handler
            .ret (unitRate.map (fun unitRate => (unitRate, includedValue.div totalValue)))

/-- The record of a wallet's LP balance. -/
def ownedLiquidityRecord (handler : LiquidityHandler) (unitRate multiplier : BigNumber)
    (wallet : String) (balance : BigNumber) : SerializedTokenRecord :=
  createTokenRecord ctx.config timestamp (getContractName ctx.config handler.id) handler.id
    (getContractName ctx.config wallet) wallet unitRate balance ctx.blockNumber (some multiplier)
    (some "Protocol-Owned Liquidity")

/-- The balance of an LP token, from the chain where the token mints without Transfer events. -/
def readLpBalance (lpToken wallet : String) : PricingProg BigNumber :=
  let lpDecimals := ctx.decimals lpToken
  if ((getTokenDefinition ctx.config lpToken).map (·.nonStandardBalance)).getD false then
    readNonStandardBalance readErc20BalanceOf lpToken wallet lpDecimals
  else readTokenBalance lpToken wallet lpDecimals

/-- The loop over the protocol's wallets. -/
def pushWalletRecords (handler : LiquidityHandler) (lpToken : String)
    (unitRate multiplier : BigNumber) :
    List String → List SerializedTokenRecord → PricingProg (List SerializedTokenRecord)
  | [], records => .ret records
  | wallet :: rest, records => do
      let balance ← readLpBalance ctx readErc20BalanceOf lpToken wallet
      if balance.eq 0 then pushWalletRecords handler lpToken unitRate multiplier rest records
      else
        pushWalletRecords handler lpToken unitRate multiplier rest
          (records ++ [ownedLiquidityRecord ctx timestamp handler unitRate multiplier wallet balance])

/-- The loop over the handlers. -/
def pushHandlerRecords :
    List LiquidityHandler → List SerializedTokenRecord → PricingProg (List SerializedTokenRecord)
  | [], records => .ret records
  | handler :: rest, records =>
      if !ctx.isActive handler then pushHandlerRecords rest records
      else
        match getLpTokenForHandler handler with
        | none => pushHandlerRecords rest records
        | some lpToken =>
            if lpToken = "" then pushHandlerRecords rest records
            else do
              let rates ← unitRateAndMultiplier ctx handler
              match rates with
              | none => pushHandlerRecords rest records
              | some (unitRate, multiplier) => do
                  let records ← pushWalletRecords ctx readErc20BalanceOf timestamp handler lpToken
                    unitRate multiplier ctx.config.protocolAddresses records
                  pushHandlerRecords rest records

/-- `pushOwnedLiquidityRecords`. -/
def pushOwnedLiquidityRecords (records : List SerializedTokenRecord) :
    PricingProg (List SerializedTokenRecord) :=
  pushHandlerRecords ctx readErc20BalanceOf timestamp ctx.config.ownedLiquidityHandlers records

end

/-! ### The pools that have shares -/

/-- A Uniswap V2, Balancer or Kodiak pool. -/
def IsPool (handler : LiquidityHandler) : Prop :=
  match handler.kind with
  | .univ2 | .balancer _ | .kodiak .. => True
  | _ => False

instance : DecidablePred IsPool := fun handler => by
  unfold IsPool
  split <;> infer_instance

theorem isPool_of_getLpTokenForHandler {handler : LiquidityHandler} {lpToken : String}
    (h : getLpTokenForHandler handler = some lpToken) : IsPool handler := by
  unfold getLpTokenForHandler at h
  unfold IsPool
  split at h <;> simp_all

/-- The pool that the prices of a pool's tokens are asked for. -/
def pricedFrom (handler : LiquidityHandler) : Option String :=
  match handler.kind with
  | .balancer _ => none
  | _ => some handler.id

/-- The reserves of a pool, as they are stored or read. -/
def poolReserves (ctx : PricingContext) (handler : LiquidityHandler) : List ℤ :=
  match handler.kind with
  | .univ2 =>
      match ctx.view.univ2PoolState handler.id with
      | some state => [state.reserve0, state.reserve1]
      | none => []
  | .balancer _ =>
      match ctx.view.balancerPoolState handler.id with
      | some state => state.balances
      | none => []
  | .kodiak pool _ _ =>
      match ctx.view.getUnderlyingBalances pool with
      | .ok reserves => [reserves.1, reserves.2]
      | .error _ => []
  | _ => []

/-- The tokens of a pool with their decimal reserves, as the handler's loop goes through them. -/
def poolLegs (ctx : PricingContext) (handler : LiquidityHandler) : List (String × BigNumber) :=
  match handler.kind with
  | .univ2 | .kodiak .. =>
      match sortedTokens handler.tokens, poolReserves ctx handler with
      | token0 :: token1 :: _, [reserve0, reserve1] =>
          [(token0, toDecimal reserve0 (ctx.decimals token0)),
           (token1, toDecimal reserve1 (ctx.decimals token1))]
      | _, _ => []
  | .balancer _ =>
      (tokensAskedBy ctx handler).zipIdx.map (fun (token, i) =>
        (token, toDecimal ((poolReserves ctx handler).getD i 0) (ctx.decimals token)))
  | _ => []

/-- Whether the state of a pool is there to value it by. -/
def hasPoolState (ctx : PricingContext) (handler : LiquidityHandler) : Bool :=
  ctx.isActive handler &&
    match handler.kind with
    | .univ2 => (ctx.view.univ2PoolState handler.id).isSome
    | .balancer _ => (ctx.view.balancerPoolState handler.id).isSome
    | _ => true

section value

variable (ctx : PricingContext) (handler : LiquidityHandler)
  (cached : PricingKey → Option PricingValue)

/-- The price that a cache holds for a token. -/
def priceIn (token : String) (currentPool : Option String) : BigNumber :=
  match cached (.price token currentPool) with
  | some (.quote result) => result.price
  | _ => 0

/-- What one leg of a pool is worth. -/
def legValue (leg : String × BigNumber) : BigNumber :=
  leg.2.times (priceIn cached leg.1 (pricedFrom handler))

/-- The value of a pool without the excluded tokens, over cached prices. -/
def poolValue (excludedTokens : List String) : Option BigNumber :=
  if hasPoolState ctx handler then
    some ((((poolLegs ctx handler).filter (fun leg => !excludedTokens.contains leg.1)).map
      (legValue handler cached)).sum)
  else none

/-- The decimal supply of a pool's token. -/
def poolSupply (ledger : LedgerKey → Option ℤ) : Option BigNumber :=
  (ledger (.erc20Supply (poolToken handler))).map
    (fun supply => toDecimal supply (ctx.decimals (poolToken handler)))

def isKodiak : Bool :=
  match handler.kind with
  | .kodiak .. => true
  | _ => false

/-- The unit price of a pool over cached prices; a Kodiak pool without value has none. -/
def poolUnitPrice (ledger : LedgerKey → Option ℤ) : Option BigNumber :=
  (poolValue ctx handler cached []).bind (fun total =>
    (poolSupply ctx handler ledger).bind (fun supply =>
      if supply.eq 0 || (isKodiak handler && total.eq 0) then none else some (total.div supply)))

end value

end OlympusMetrics.Pricing
