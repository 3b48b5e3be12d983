import OlympusMetrics.Indexer.Records
import OlympusMetrics.Library.Lookup
import Mathlib.Data.List.Sort

/-!
The price handlers: how each kind of liquidity handler quotes a token and
values its pool.

The chain and the block are the same for all lookups of a snapshot and are left
out of the keys.
-/

namespace OlympusMetrics.Pricing

open Lookup

structure PriceLookupResult where
  price : BigNumber
  liquidity : BigNumber
  deriving DecidableEq

/-- `ZERO_RESULT`. -/
def zeroResult : PriceLookupResult := ⟨0, 0⟩

/-- A row of the ERC20 ledger that a lookup or a producer reads. -/
inductive LedgerKey
  | tokenBalance (token wallet : String)
  | erc20Supply (token : String)
  deriving DecidableEq

/-- The lookups that the pricing cache keeps. -/
inductive PricingKey
  | price (token : String) (currentPool : Option String)
  | totalValue (handler : LiquidityHandler) (excludedTokens : List String)
  | unitPrice (handler : LiquidityHandler)
  deriving DecidableEq

inductive PricingValue
  | quote (result : PriceLookupResult)
  | value (result : Option BigNumber)
  deriving DecidableEq

/-- A computation of the pricing layer; an error is the message that it throws. -/
abbrev PricingProg := Prog LedgerKey (Option ℤ) PricingKey PricingValue String

structure Univ2PoolState where
  reserve0 : ℤ
  reserve1 : ℤ

structure Univ3PoolState where
  sqrtPriceX96 : ℤ
  liquidity : ℤ

structure BalancerPool where
  tokens : List String
  balances : List ℤ

structure CurvePoolSnapshot where
  balances : List ℤ
  totalSupply : ℤ

structure FraxSwapPoolSnapshot where
  reserve0 : ℤ
  reserve1 : ℤ
  totalSupply : ℤ

/-- The normalized weights of a pool token and its decimals. -/
structure WeightsAndDecimals where
  weights : List ℤ
  decimals : ℕ

/-- The pool state that handlers read at the block, other than the ERC20 ledger: entities, and
effects and contract reads, which may throw. -/
structure PoolView where
  univ2PoolState : String → Option Univ2PoolState
  univ3PoolState : String → Option Univ3PoolState
  balancerPoolState : String → Option BalancerPool
  kodiakPool : String → Option String
  ohmIndexState : String → Option ℤ
  readChainlinkLatestAnswer : String → Except String ℤ
  readErc4626AssetsPerShare : String → ℕ → Except String (Option ℤ)
  snapshotCurvePool : String → String → ℕ → Except String CurvePoolSnapshot
  snapshotFraxSwapPool : String → Except String FraxSwapPoolSnapshot
  getWeightsAndDecimals : String → Except String WeightsAndDecimals
  getUnderlyingBalances : String → Except String (ℤ × ℤ)

/-- What the handlers are given. Tokens and wallets are in `addr` form, pool ids as they are written;
`toLowerCase` is that of ASCII texts unless it is given. -/
structure PricingContext where
  config : ChainConfig
  blockNumber : ℕ
  view : PoolView
  toLowerCase : String → String := lowerCase

namespace PricingContext

variable (ctx : PricingContext)

def isActive (handler : LiquidityHandler) : Bool :=
  OlympusMetrics.isActive handler.startBlock ctx.blockNumber

def decimals (token : String) : ℕ := getTokenDecimals ctx.config.tokens token

end PricingContext

/-- The `priceLookup` callback that handlers are given. -/
def priceLookup (token : String) (currentPool : Option String) :
    PricingProg PriceLookupResult :=
  .ask (.price token currentPool) (fun value =>
    match value with
    | .quote result => .ret result
    | .value _ => .ret zeroResult)

/-- The result of a read that may throw. -/
def orThrow {α : Type} : Except String α → PricingProg α
  | .ok x => .ret x
  | .error message => .fail message

/-- An element of an array that is used as a number; a missing one throws. -/
def element (values : List ℤ) (index : ℕ) : PricingProg ℤ :=
  match values[index]? with
  | some value => .ret value
  | none => .fail "Cannot read properties of undefined (reading 'toString')"

def readErc20Supply (token : String) : PricingProg (Option ℤ) := .get (.erc20Supply token)

def readTokenBalanceEntity (token wallet : String) : PricingProg (Option ℤ) :=
  .get (.tokenBalance token wallet)

/-- The addresses in order, as `sort` leaves them. -/
def sortedTokens (tokens : List String) : List String := tokens.insertionSort (fun a b => a ≤ b)

/-- `sortTokens`: the two lowest addresses. A missing one throws where it is first looked up. -/
def sortTokens (tokens : List String) : PricingProg (String × String) :=
  match sortedTokens tokens with
  | token0 :: token1 :: _ => .ret (token0, token1)
  | _ => .fail "Cannot read properties of undefined (reading 'toLowerCase')"

/-- Whether a token is `token0` of a pair. -/
def isToken0 (handler : LiquidityHandler) (tokenAddress : String) : Bool :=
  (sortedTokens handler.tokens).head? == some tokenAddress

/-- The loop of the `getTotalValue` methods over the pool's tokens and balances. -/
def totalOf (priceOf : String → PricingProg PriceLookupResult) (excludedTokens : List String) :
    List (String × PricingProg BigNumber) → BigNumber → PricingProg BigNumber
  | [], total => .ret total
  | (token, readBalance) :: rest, total =>
      if excludedTokens.contains token then totalOf priceOf excludedTokens rest total
      else do
        let balance ← readBalance
        let result ← priceOf token
        totalOf priceOf excludedTokens rest (total.plus (balance.times result.price))

/-! ### Uniswap V2 -/

namespace Univ2

variable (ctx : PricingContext) (handler : LiquidityHandler)

def getPrice (tokenAddress : String) : PricingProg (Option PriceLookupResult) :=
  if !ctx.isActive handler then .ret none
  else
    match ctx.view.univ2PoolState handler.id with
    | none => .ret none
    | some state => do
        let (token0, token1) ← sortTokens handler.tokens
        let lookupIsToken0 := tokenAddress == token0
        let secondaryToken := if lookupIsToken0 then token1 else token0
        let secondary ← priceLookup secondaryToken (some handler.id)
        if secondary.price.eq 0 then .ret none
        else
          let reserve0 := toDecimal state.reserve0 (ctx.decimals token0)
          let reserve1 := toDecimal state.reserve1 (ctx.decimals token1)
          if reserve0.eq 0 || reserve1.eq 0 then .ret none
          else
            let ratio := if lookupIsToken0 then reserve1.div reserve0 else reserve0.div reserve1
            let secondaryReserve := if lookupIsToken0 then reserve1 else reserve0
            .ret (some
              { price := ratio.times secondary.price
                liquidity := secondaryReserve.times secondary.price })

def getTotalValue (excludedTokens : List String) : PricingProg (Option BigNumber) :=
  if !ctx.isActive handler then .ret none
  else
    match ctx.view.univ2PoolState handler.id with
    | none => .ret none
    | some state => do
        let (token0, token1) ← sortTokens handler.tokens
        let total ← totalOf (fun token => priceLookup token (some handler.id)) excludedTokens
          [(token0, .ret (toDecimal state.reserve0 (ctx.decimals token0))),
           (token1, .ret (toDecimal state.reserve1 (ctx.decimals token1)))] 0
        .ret (some total)

def getUnitPrice : PricingProg (Option BigNumber) :=
  if !ctx.isActive handler then .ret none
  else do
    let totalValue ← getTotalValue ctx handler []
    match totalValue with
    | none => .ret none
    | some totalValue =>
        let supplyEntity ← readErc20Supply handler.id
        match supplyEntity with
        | none => .ret none
        | some totalSupply =>
            let supply := toDecimal totalSupply (ctx.decimals handler.id)
            .ret (if supply.eq 0 then none else some (totalValue.div supply))

def getUnderlyingTokenBalance (wallet tokenAddress : String) : PricingProg BigNumber :=
  if !ctx.isActive handler then .ret 0
  else
    match ctx.view.univ2PoolState handler.id with
    | none => .ret 0
    | some state => do
        let supplyEntity ← readErc20Supply handler.id
        match supplyEntity with
        | none => .ret 0
        | some supply =>
            let lpDecimals := ctx.decimals handler.id
            let totalSupply := toDecimal supply lpDecimals
            if totalSupply.eq 0 then .ret 0
            else
              let balanceEntity ← readTokenBalanceEntity handler.id wallet
              match balanceEntity with
              | none => .ret 0
              | some balance =>
                  if balance = 0 then .ret 0
                  else
                    let walletBalance := toDecimal balance lpDecimals
                    let tokenDecimals := ctx.decimals tokenAddress
                    let reserve :=
                      if isToken0 handler tokenAddress then toDecimal state.reserve0 tokenDecimals
                      else toDecimal state.reserve1 tokenDecimals
                    .ret ((reserve.times walletBalance).div totalSupply)

end Univ2

/-! ### Uniswap V3 and Kodiak -/

/-- `priceToken0InToken1`. -/
def priceToken0InToken1 (sqrtPriceX96 : ℤ) : BigNumber :=
  let sqrt := BigNumber.ofInt sqrtPriceX96
  (sqrt.times sqrt).div (.finite (2 ^ 192))

/-- Ten to the difference of two decimal counts, as both adjustments compute it. -/
def decimalFactor (decimals0 decimals1 : ℕ) (lookupIsToken0 : Bool) : BigNumber :=
  let diff : ℤ := if lookupIsToken0 then (decimals0 : ℤ) - decimals1 else decimals1 - decimals0
  let factor := BigNumber.finite (10 ^ diff.natAbs)
  if diff < 0 then (1 : BigNumber).div factor else factor

namespace Univ3

/-- `applyDecimalAdjustment`. -/
def applyDecimalAdjustment (raw : BigNumber) (decimals0 decimals1 : ℕ) (lookupIsToken0 : Bool) :
    BigNumber :=
  let adjusted := decimalFactor decimals0 decimals1 lookupIsToken0
  if lookupIsToken0 then raw.times adjusted else adjusted.div raw

end Univ3

namespace Kodiak

/-- `applyDecimalAdjustment`. -/
def applyDecimalAdjustment (raw : BigNumber) (decimals0 decimals1 : ℕ) (lookupIsToken0 : Bool) :
    BigNumber :=
  let rawTerm := if lookupIsToken0 then raw else (1 : BigNumber).div raw
  (decimalFactor decimals0 decimals1 lookupIsToken0).times rawTerm

end Kodiak

/-- The quote from a concentrated-liquidity pool, shared by the V3 and Kodiak handlers. -/
def concentratedPrice (ctx : PricingContext) (handler : LiquidityHandler)
    (adjust : BigNumber → ℕ → ℕ → Bool → BigNumber) (state : Option Univ3PoolState)
    (tokenAddress : String) : PricingProg (Option PriceLookupResult) :=
  match state with
  | none => .ret none
  | some state =>
      if state.sqrtPriceX96 = 0 then .ret none
      else do
        let (token0, token1) ← sortTokens handler.tokens
        let lookupIsToken0 := tokenAddress == token0
        let secondaryToken := if lookupIsToken0 then token1 else token0
        let secondary ← priceLookup secondaryToken (some handler.id)
        if secondary.price.eq 0 then .ret none
        else
          let adjusted := adjust (priceToken0InToken1 state.sqrtPriceX96) (ctx.decimals token0)
            (ctx.decimals token1) lookupIsToken0
          .ret (some
            { price := adjusted.times secondary.price
              liquidity := BigNumber.ofInt state.liquidity })

namespace Univ3

def getPrice (ctx : PricingContext) (handler : LiquidityHandler) (tokenAddress : String) :
    PricingProg (Option PriceLookupResult) :=
  if !ctx.isActive handler then .ret none
  else concentratedPrice ctx handler applyDecimalAdjustment (ctx.view.univ3PoolState handler.id)
    tokenAddress

end Univ3

namespace Kodiak

variable (ctx : PricingContext) (handler : LiquidityHandler) (pool : String)

/-- `getUnderlyingState`. -/
def getUnderlyingState : Option Univ3PoolState :=
  (ctx.view.kodiakPool pool).bind ctx.view.univ3PoolState

def getPrice (tokenAddress : String) : PricingProg (Option PriceLookupResult) :=
  if !ctx.isActive handler then .ret none
  else concentratedPrice ctx handler applyDecimalAdjustment (getUnderlyingState ctx pool)
    tokenAddress

def getTotalValue (excludedTokens : List String) : PricingProg (Option BigNumber) :=
  if !ctx.isActive handler then .ret none
  else do
    let (token0, token1) ← sortTokens handler.tokens
    let reserves ← orThrow (ctx.view.getUnderlyingBalances pool)
    let total ← totalOf (fun token => priceLookup token (some handler.id)) excludedTokens
      [(token0, .ret (toDecimal reserves.1 (ctx.decimals token0))),
       (token1, .ret (toDecimal reserves.2 (ctx.decimals token1)))] 0
    .ret (some total)

def getUnitPrice : PricingProg (Option BigNumber) :=
  if !ctx.isActive handler then .ret none
  else do
    let supplyEntity ← readErc20Supply pool
    match supplyEntity with
    | none => .ret none
    | some supply =>
        if supply = 0 then .ret none
        else
          let totalSupply := toDecimal supply (ctx.decimals pool)
          if totalSupply.eq 0 then .ret none
          else
            let totalValue ← getTotalValue ctx handler pool []
            match totalValue with
            | none => .ret none
            | some totalValue =>
                .ret (if totalValue.eq 0 then none else some (totalValue.div totalSupply))

def getUnderlyingTokenBalance (rewardVault : Option String) (wallet tokenAddress : String) :
    PricingProg BigNumber :=
  if !ctx.isActive handler then .ret 0
  else do
    let lpDecimals := ctx.decimals pool
    let supplyEntity ← readErc20Supply pool
    match supplyEntity with
    | none => .ret 0
    | some supply =>
        if supply = 0 then .ret 0
        else
          let totalSupply := toDecimal supply lpDecimals
          if totalSupply.eq 0 then .ret 0
          else
            let balanceEntity ← readTokenBalanceEntity (rewardVault.getD pool) wallet
            match balanceEntity with
            | none => .ret 0
            | some balance =>
                if balance = 0 then .ret 0
                else
                  let walletBalance := toDecimal balance lpDecimals
                  let reserves ← orThrow (ctx.view.getUnderlyingBalances pool)
                  let tokenDecimals := ctx.decimals tokenAddress
                  let reserve :=
                    if isToken0 handler tokenAddress then toDecimal reserves.1 tokenDecimals
                    else toDecimal reserves.2 tokenDecimals
                  .ret ((reserve.times walletBalance).div totalSupply)

end Kodiak

/-! ### Balancer -/

namespace Balancer

variable (ctx : PricingContext) (handler : LiquidityHandler)

/-- `bptAddressFromPoolId`: `0x` and the forty digits after it, in lower case. -/
def bptAddressFromPoolId (poolId : String) : String :=
  "0x" ++ lowerCase (String.ofList ((poolId.toList.drop 2).take 40))

def getTotalValue (excludedTokens : List String) : PricingProg (Option BigNumber) :=
  if !ctx.isActive handler then .ret none
  else
    match ctx.view.balancerPoolState handler.id with
    | none => .ret none
    | some state => do
        let total ← totalOf (fun token => priceLookup token none) excludedTokens
          (state.tokens.zipIdx.map (fun (token, i) => (token, do
            let balance ← element state.balances i
            .ret (toDecimal balance (ctx.decimals token))))) 0
        .ret (some total)

/-- The loop of `getPrice` over the other tokens: the first usable one gives the quote. -/
def firstQuote (state : BalancerPool) (info : WeightsAndDecimals) (lookupIndex : ℕ) :
    List (String × ℕ) → PricingProg (Option PriceLookupResult)
  | [] => .ret none
  | (token, i) :: rest =>
      if i = lookupIndex then firstQuote state info lookupIndex rest
      else do
        let secondary ← priceLookup token (some handler.id)
        if secondary.price.eq 0 then firstQuote state info lookupIndex rest
        else
          let lookupBalance ← element state.balances lookupIndex
          let secondaryBalance ← element state.balances i
          let lookupReserve := toDecimal lookupBalance
            (ctx.decimals (state.tokens.getD lookupIndex ""))
          let secondaryReserve := toDecimal secondaryBalance (ctx.decimals token)
          if lookupReserve.eq 0 || secondaryReserve.eq 0 then
            firstQuote state info lookupIndex rest
          else
            let lookupRaw ← element info.weights lookupIndex
            let secondaryRaw ← element info.weights i
            let lookupWeight := toDecimal lookupRaw info.decimals
            let secondaryWeight := toDecimal secondaryRaw info.decimals
            .ret (some
              { price := ((secondaryReserve.div secondaryWeight).div
                  (lookupReserve.div lookupWeight)).times secondary.price
                liquidity := (secondaryReserve.times secondary.price).div secondaryWeight })

/-- The quote of the pool's own token. -/
def getBptPrice (bpt : String) : PricingProg (Option PriceLookupResult) := do
  let totalValue ← getTotalValue ctx handler []
  match totalValue with
  | none => .ret none
  | some totalValue =>
      if totalValue.eq 0 then .ret none
      else
        let supplyEntity ← readErc20Supply bpt
        match supplyEntity with
        | none => .ret none
        | some totalSupply =>
            if totalSupply = 0 then .ret none
            else
              let supply := toDecimal totalSupply (ctx.decimals bpt)
              if supply.eq 0 then .ret none
              else .ret (some { price := totalValue.div supply, liquidity := totalValue })

def getPrice (tokenAddress : String) : PricingProg (Option PriceLookupResult) :=
  if !ctx.isActive handler then .ret none
  else
    match ctx.view.balancerPoolState handler.id with
    | none => .ret none
    | some state =>
        let bpt := bptAddressFromPoolId handler.id
        if tokenAddress == bpt then getBptPrice ctx handler bpt
        else do
          let info ← orThrow (ctx.view.getWeightsAndDecimals bpt)
          match state.tokens.findIdx? (fun token => token == tokenAddress) with
          | none => .ret none
          | some lookupIndex => firstQuote ctx handler state info lookupIndex state.tokens.zipIdx

def getUnitPrice : PricingProg (Option BigNumber) :=
  if !ctx.isActive handler then .ret none
  else do
    let totalValue ← getTotalValue ctx handler []
    match totalValue with
    | none => .ret none
    | some totalValue =>
        let bpt := bptAddressFromPoolId handler.id
        let supplyEntity ← readErc20Supply bpt
        match supplyEntity with
        | none => .ret none
        | some totalSupply =>
            let supply := toDecimal totalSupply (ctx.decimals bpt)
            .ret (if supply.eq 0 then none else some (totalValue.div supply))

def getUnderlyingTokenBalance (wallet tokenAddress : String) : PricingProg BigNumber :=
  if !ctx.isActive handler then .ret 0
  else
    match ctx.view.balancerPoolState handler.id with
    | none => .ret 0
    | some state => do
        let bpt := bptAddressFromPoolId handler.id
        let bptDecimals := ctx.decimals bpt
        let supplyEntity ← readErc20Supply bpt
        match supplyEntity with
        | none => .ret 0
        | some supply =>
            if supply = 0 then .ret 0
            else
              let balanceEntity ← readTokenBalanceEntity bpt wallet
              match balanceEntity with
              | none => .ret 0
              | some balance =>
                  if balance = 0 then .ret 0
                  else
                    match state.tokens.findIdx? (fun token => token == tokenAddress) with
                    | none => .ret 0
                    | some index =>
                        let reserveRaw ← element state.balances index
                        let reserve := toDecimal reserveRaw (ctx.decimals tokenAddress)
                        .ret ((reserve.times (toDecimal balance bptDecimals)).div
                          (toDecimal supply bptDecimals))

end Balancer

/-! ### The handlers without a pool of their own -/

/-- `CHAINLINK_PRIORITY`, `GOHM_PRIORITY` and `ERC4626_PRIORITY`. -/
def deterministicPriority : BigNumber := .finite (10 ^ 30)

def Stable.getPrice (ctx : PricingContext) (handler : LiquidityHandler) :
    PricingProg (Option PriceLookupResult) :=
  .ret (if !ctx.isActive handler then none else some { price := 1, liquidity := 0 })

def Stable.getTotalValue (ctx : PricingContext) (handler : LiquidityHandler) :
    PricingProg (Option BigNumber) :=
  .ret (if !ctx.isActive handler then none else some 1)

def Remap.getPrice (ctx : PricingContext) (handler : LiquidityHandler) (target : String) :
    PricingProg (Option PriceLookupResult) :=
  if !ctx.isActive handler then .ret none
  else do
    let result ← priceLookup target (some handler.id)
    .ret (if result.price.eq 0 then none else some result)

def Chainlink.getPrice (ctx : PricingContext) (handler : LiquidityHandler) (decimals : ℕ) :
    PricingProg (Option PriceLookupResult) :=
  if !ctx.isActive handler then .ret none
  else do
    let answer ← orThrow (ctx.view.readChainlinkLatestAnswer handler.id)
    .ret (if answer = 0 then none
      else some { price := toDecimal answer decimals, liquidity := deterministicPriority })

def Gohm.getPrice (ctx : PricingContext) (handler : LiquidityHandler) (ohmToken : String) :
    PricingProg (Option PriceLookupResult) :=
  if !ctx.isActive handler then .ret none
  else
    match ctx.view.ohmIndexState handler.id with
    | none => .ret none
    | some index =>
        if index = 0 then .ret none
        else do
          let ohmResult ← priceLookup ohmToken (some handler.id)
          .ret (if ohmResult.price.eq 0 then none
            else some
              { price := ohmResult.price.times (toDecimal index 9)
                liquidity := deterministicPriority })

def Erc4626.getPrice (ctx : PricingContext) (handler : LiquidityHandler) (underlying : String)
    (decimals underlyingDecimals : ℕ) : PricingProg (Option PriceLookupResult) :=
  if !ctx.isActive handler then .ret none
  else do
    let raw ← orThrow (ctx.view.readErc4626AssetsPerShare handler.id decimals)
    match raw with
    | none => .ret none
    | some raw =>
        let sharesRatio := toDecimal raw underlyingDecimals
        let underlyingResult ← priceLookup underlying (some handler.id)
        .ret (if underlyingResult.price.eq 0 then none
          else some
            { price := underlyingResult.price.times sharesRatio
              liquidity := deterministicPriority })

/-- The loop of the Curve handler over the coins, their decimals and balances. -/
def Curve.poolValueOf (handler : LiquidityHandler) :
    List (String × ℕ × ℤ) → BigNumber → PricingProg BigNumber
  | [], poolValue => .ret poolValue
  | (coin, decimals, balanceRaw) :: rest, poolValue =>
      if balanceRaw = 0 then Curve.poolValueOf handler rest poolValue
      else do
        let coinPrice ← priceLookup coin (some handler.id)
        let value := (toDecimal balanceRaw decimals).times coinPrice.price
        Curve.poolValueOf handler rest
          (if coinPrice.price.eq 0 then poolValue else poolValue.plus value)

def Curve.getPrice (ctx : PricingContext) (handler : LiquidityHandler) (lpToken : String)
    (coins : List String) (coinDecimals : List ℕ) : PricingProg (Option PriceLookupResult) :=
  if !ctx.isActive handler then .ret none
  else do
    let snapshot ← orThrow (ctx.view.snapshotCurvePool handler.id lpToken coins.length)
    if snapshot.totalSupply = 0 then .ret none
    else
      let poolValue ← Curve.poolValueOf handler
        (coins.zip (coinDecimals.zip snapshot.balances)) 0
      if poolValue.eq 0 then .ret none
      else
        let lpSupply := toDecimal snapshot.totalSupply 18
        if lpSupply.eq 0 then .ret none
        else .ret (some { price := poolValue.div lpSupply, liquidity := poolValue })

def FraxSwap.getPrice (ctx : PricingContext) (handler : LiquidityHandler)
    (token0 token1 : String) (decimals0 decimals1 : ℕ) :
    PricingProg (Option PriceLookupResult) :=
  if !ctx.isActive handler then .ret none
  else do
    let snapshot ← orThrow (ctx.view.snapshotFraxSwapPool handler.id)
    if snapshot.totalSupply = 0 then .ret none
    else
      let reserve0 := toDecimal snapshot.reserve0 decimals0
      let reserve1 := toDecimal snapshot.reserve1 decimals1
      let price0 ← priceLookup token0 (some handler.id)
      let price1 ← priceLookup token1 (some handler.id)
      if price0.price.eq 0 && price1.price.eq 0 then .ret none
      else
        let poolValue := (reserve0.times price0.price).plus (reserve1.times price1.price)
        if poolValue.eq 0 then .ret none
        else
          let lpSupply := toDecimal snapshot.totalSupply 18
          if lpSupply.eq 0 then .ret none
          else .ret (some { price := poolValue.div lpSupply, liquidity := poolValue })

/-! ### The methods of a handler -/

/-- `getPrice` of the handler that `createPriceHandler` builds. -/
def handlerGetPrice (ctx : PricingContext) (handler : LiquidityHandler) (tokenAddress : String) :
    PricingProg (Option PriceLookupResult) :=
  match handler.kind with
  | .stable => Stable.getPrice ctx handler
  | .remap target => Remap.getPrice ctx handler target
  | .chainlink decimals => Chainlink.getPrice ctx handler decimals
  | .gohm ohmToken => Gohm.getPrice ctx handler ohmToken
  | .erc4626 underlying decimals underlyingDecimals =>
      Erc4626.getPrice ctx handler underlying decimals underlyingDecimals
  | .curve lpToken coins coinDecimals => Curve.getPrice ctx handler lpToken coins coinDecimals
  | .fraxswap token0 token1 decimals0 decimals1 =>
      FraxSwap.getPrice ctx handler token0 token1 decimals0 decimals1
  | .univ2 => Univ2.getPrice ctx handler tokenAddress
  | .univ3 | .univ3Quoter _ => Univ3.getPrice ctx handler tokenAddress
  | .balancer _ => Balancer.getPrice ctx handler tokenAddress
  | .kodiak pool _ _ => Kodiak.getPrice ctx handler pool tokenAddress

def handlerGetTotalValue (ctx : PricingContext) (handler : LiquidityHandler)
    (excludedTokens : List String) : PricingProg (Option BigNumber) :=
  match handler.kind with
  | .stable => Stable.getTotalValue ctx handler
  | .univ2 => Univ2.getTotalValue ctx handler excludedTokens
  | .balancer _ => Balancer.getTotalValue ctx handler excludedTokens
  | .kodiak pool _ _ => Kodiak.getTotalValue ctx handler pool excludedTokens
  | .remap _ | .chainlink _ | .gohm _ | .erc4626 .. | .curve .. | .fraxswap .. | .univ3
  | .univ3Quoter _ => .ret none

def handlerGetUnitPrice (ctx : PricingContext) (handler : LiquidityHandler) :
    PricingProg (Option BigNumber) :=
  match handler.kind with
  | .stable => Stable.getTotalValue ctx handler
  | .univ2 => Univ2.getUnitPrice ctx handler
  | .balancer _ => Balancer.getUnitPrice ctx handler
  | .kodiak pool _ _ => Kodiak.getUnitPrice ctx handler pool
  | .remap _ | .chainlink _ | .gohm _ | .erc4626 .. | .curve .. | .fraxswap .. | .univ3
  | .univ3Quoter _ => .ret none

/-- `getUnderlyingTokenBalance`, which is not cached. -/
def getUnderlyingTokenBalance (ctx : PricingContext) (handler : LiquidityHandler)
    (wallet tokenAddress : String) : PricingProg BigNumber :=
  match handler.kind with
  | .univ2 => Univ2.getUnderlyingTokenBalance ctx handler wallet tokenAddress
  | .balancer _ => Balancer.getUnderlyingTokenBalance ctx handler wallet tokenAddress
  | .kodiak pool _ rewardVault =>
      Kodiak.getUnderlyingTokenBalance ctx handler pool rewardVault wallet tokenAddress
  | .stable | .remap _ | .chainlink _ | .gohm _ | .erc4626 .. | .curve .. | .fraxswap .. | .univ3
  | .univ3Quoter _ => .ret 0

end OlympusMetrics.Pricing
