import OlympusMetrics.Indexer.OwnedLiquidity

/-!
The token-balance records of a snapshot: what the protocol's wallets hold of the
stable and volatile tokens, at the tokens' prices.
-/

namespace OlympusMetrics.Pricing

open Lookup

/-- The balances that are read from the chain at the block of the snapshot; a read may throw. -/
structure ChainReads where
  readErc20BalanceOf : String → String → Except String ℤ
  getNativeBalance : String → Except String ℤ

/-- `readNativeBalance`, over what the node returns. -/
def readNativeBalance (getNativeBalance : String → Except String ℤ) (wallet : String)
    (decimals : ℕ) : PricingProg BigNumber := do
  let raw ← orThrow (getNativeBalance wallet)
  .ret (toDecimal raw decimals)

/-- Whether the loop goes through tokens of this category. -/
def isReported (definition : TokenDefinition) : Bool :=
  definition.category == "Stable" || definition.category == "Volatile"

/-- The tokens whose balances the loop reports at the block, if they have a price. -/
def reportsBalance (blockNumber : ℕ) (definition : TokenDefinition) : Bool :=
  isReported definition && isActive definition.startBlock blockNumber

section

variable (ctx : PricingContext) (reads : ChainReads) (timestamp : ℕ)

/-- The balance of a wallet: native, from the chain, or from the ledger. -/
def readWalletBalance (definition : TokenDefinition) (wallet : String) : PricingProg BigNumber :=
  let decimals := ctx.decimals definition.address
  if ctx.config.nativeToken = some definition.address then
    readNativeBalance reads.getNativeBalance wallet decimals
  else if definition.nonStandardBalance then
    readNonStandardBalance reads.readErc20BalanceOf definition.address wallet decimals
  else readTokenBalance definition.address wallet decimals

/-- The record of a wallet's balance. -/
def tokenBalanceRecord (tokenAddress : String) (rate : BigNumber) (wallet : String)
    (balance : BigNumber) : SerializedTokenRecord :=
  createTokenRecord ctx.config timestamp (getContractName ctx.config tokenAddress) tokenAddress
    (getContractName ctx.config wallet) wallet rate balance ctx.blockNumber

/-- The loop over the wallets of a token. -/
def pushBalanceRecords (definition : TokenDefinition) (rate : BigNumber) :
    List String → List SerializedTokenRecord → PricingProg (List SerializedTokenRecord)
  | [], records => .ret records
  | wallet :: rest, records => do
      let balance ← readWalletBalance ctx reads definition wallet
      if balance.eq 0 then pushBalanceRecords definition rate rest records
      else
        pushBalanceRecords definition rate rest
          (records ++ [tokenBalanceRecord ctx timestamp definition.address rate wallet balance])

/-- The loop over the tokens. -/
def pushTokenRecords :
    List TokenDefinition → List SerializedTokenRecord → PricingProg (List SerializedTokenRecord)
  | [], records => .ret records
  | definition :: rest, records =>
      if !reportsBalance ctx.blockNumber definition then pushTokenRecords rest records
      else do
        let result ← priceLookup definition.address none
        if result.price.eq 0 then pushTokenRecords rest records
        else do
          let wallets := getWalletAddressesForContract ctx.config definition.address
          let records ← pushBalanceRecords ctx reads timestamp definition result.price wallets records
          pushTokenRecords rest records

/-- `pushTokenBalanceRecords`. -/
def pushTokenBalanceRecords (records : List SerializedTokenRecord) :
    PricingProg (List SerializedTokenRecord) :=
  pushTokenRecords ctx reads timestamp ctx.config.tokens records

end

end OlympusMetrics.Pricing
