import OlympusMetrics.Indexer.BlvSupply
import OlympusMetrics.Indexer.PoolSplits
import OlympusMetrics.Indexer.SnapshotReads

/-!
The records that the two loops over the treasury's holdings push, each with the
token and the wallet whose balance it reports.
-/

namespace OlympusMetrics.Pricing

open Lookup BigNumber

/-- A record and the holding that it reports. -/
structure Contribution where
  token : String
  wallet : String
  record : SerializedTokenRecord

section

variable (ctx : PricingContext) (reads : ChainReads) (ledger : LedgerKey → Option ℤ)
  (timestamp : ℕ)

/-- The two loops of `processSnapshot` over the treasury's holdings. -/
def pushTreasuryRecords : PricingProg (List SerializedTokenRecord) := do
  let records ← pushTokenBalanceRecords ctx reads timestamp []
  pushOwnedLiquidityRecords ctx reads.readErc20BalanceOf timestamp records

/-- The raw balance of a wallet at the block: native, from the chain, or from the ledger. -/
def rawBalance (token wallet : String) : Except String ℤ :=
  if ctx.config.nativeToken = some token then reads.getNativeBalance wallet
  else if isNonStandard ctx.config token then reads.readErc20BalanceOf token wallet
  else .ok ((ledger (.tokenBalance token wallet)).getD 0)

/-- The wallet has a balance of the token other than zero. -/
def HasBalance (token wallet : String) : Prop :=
  ∃ raw, rawBalance ctx reads ledger token wallet = .ok raw ∧ raw ≠ 0

/-- What the balance of a wallet contributes. -/
def contributionOf (token : String) (record : String → BigNumber → SerializedTokenRecord)
    (wallet : String) : Option Contribution :=
  match rawBalance ctx reads ledger token wallet with
  | .error _ => none
  | .ok raw =>
      if raw = 0 then none
      else some ⟨token, wallet, record wallet (toDecimal raw (ctx.decimals token))⟩

/-- What the first loop makes of a token, over cached prices. -/
def balanceContributions (cached : PricingKey → Option PricingValue)
    (definition : TokenDefinition) : List Contribution :=
  let rate := priceIn cached definition.address none
  if !reportsBalance ctx.blockNumber definition || rate.eq 0 then []
  else
    (getWalletAddressesForContract ctx.config definition.address).filterMap
      (contributionOf ctx reads ledger definition.address
        (tokenBalanceRecord ctx timestamp definition.address rate))

/-- The unit rate and the multiplier of a handler over cached values. -/
def cachedRates (cached : PricingKey → Option PricingValue) (handler : LiquidityHandler) :
    Option (BigNumber × BigNumber) :=
  match (unitRateAndMultiplier ctx handler).fromCache ledger cached with
  | some (.ok rates) => rates
  | _ => none

/-- What the second loop makes of a handler. -/
def poolContributions (cached : PricingKey → Option PricingValue) (handler : LiquidityHandler) :
    List Contribution :=
  match getLpTokenForHandler handler, cachedRates ctx ledger cached handler with
  | some lpToken, some (unitRate, multiplier) =>
      if !ctx.isActive handler || lpToken == "" then []
      else
        ctx.config.protocolAddresses.filterMap
          (contributionOf ctx reads ledger lpToken
            (ownedLiquidityRecord ctx timestamp handler unitRate multiplier))
  | _, _ => []

/-- The records of both loops, in the order in which they are pushed. -/
def treasuryContributions (cached : PricingKey → Option PricingValue) : List Contribution :=
  ctx.config.tokens.flatMap (balanceContributions ctx reads ledger timestamp cached) ++
    ctx.config.ownedLiquidityHandlers.flatMap (poolContributions ctx reads ledger timestamp cached)

end

/-! ### The loops push these records -/

/-- What the loops rely on in a configuration. -/
structure PlainConfig (config : ChainConfig) : Prop where
  decimals : ∀ definition ∈ config.tokens, definition.decimals ≤ decimalPlaces
  flags : ∀ definition ∈ config.tokens,
    isNonStandard config definition.address = definition.nonStandardBalance
  pools : ∀ handler ∈ config.ownedLiquidityHandlers, ∀ lpToken,
    getLpTokenForHandler handler = some lpToken → lpToken ≠ "" ∧ config.nativeToken ≠ some lpToken

section

variable {ctx : PricingContext} {reads : ChainReads} {ledger : LedgerKey → Option ℤ}
  {timestamp : ℕ} {cached : PricingKey → Option PricingValue}

theorem PlainConfig.decimals_le (h : PlainConfig ctx.config) (token : String) :
    ctx.decimals token ≤ decimalPlaces := by
  unfold PricingContext.decimals getTokenDecimals
  cases hfind : ctx.config.tokens.find? (fun definition => definition.address == token) with
  | none =>
      show 18 ≤ decimalPlaces
      decide
  | some definition => exact h.decimals definition (List.mem_of_find?_eq_some hfind)

theorem toDecimal_eq_zero_iff {raw : ℤ} {decimals : ℕ} (h : decimals ≤ decimalPlaces) :
    toDecimal raw decimals = 0 ↔ raw = 0 := by
  have hten : (10 : ℚ) ^ decimals ≠ 0 := by positivity
  rw [toDecimal_eq_finite raw h, zero_def, finite.injEq, div_eq_zero_iff]
  simp [hten]

theorem fromCache_readTokenBalance {token wallet : String} {decimals : ℕ}
    (hdecimals : decimals ≤ decimalPlaces) {balance : BigNumber}
    (h : (readTokenBalance token wallet decimals).fromCache ledger cached = some (.ok balance)) :
    balance = toDecimal ((ledger (.tokenBalance token wallet)).getD 0) decimals := by
  have hzero : toDecimal 0 decimals = 0 := (toDecimal_eq_zero_iff hdecimals).mpr rfl
  unfold readTokenBalance readTokenBalanceEntity at h
  obtain ⟨entity, hentity, h⟩ := Prog.fromCache_bind_ok_iff.mp h
  obtain rfl : ledger (.tokenBalance token wallet) = entity := by simpa using hentity
  cases hrow : ledger (.tokenBalance token wallet) with
  | none =>
      rw [hrow, Prog.fromCache_ret, Option.some.injEq, Except.ok.injEq] at h
      rw [← h, Option.getD_none, hzero]
  | some balance' =>
      rw [hrow, Prog.fromCache_ret, Option.some.injEq, Except.ok.injEq] at h
      rw [← h, Option.getD_some]
      split
      · next hraw => rw [hraw, hzero]
      · rfl

theorem fromCache_readNonStandardBalance {token wallet : String} {decimals : ℕ}
    (hdecimals : decimals ≤ decimalPlaces) {balance : BigNumber}
    (h : (readNonStandardBalance reads.readErc20BalanceOf token wallet decimals).fromCache ledger
      cached = some (.ok balance)) :
    ∃ raw, reads.readErc20BalanceOf token wallet = .ok raw ∧ balance = toDecimal raw decimals := by
  have hzero : toDecimal 0 decimals = 0 := (toDecimal_eq_zero_iff hdecimals).mpr rfl
  unfold readNonStandardBalance at h
  obtain ⟨raw, hraw, h⟩ := Prog.fromCache_bind_ok_iff.mp h
  rw [Prog.fromCache_ret, Option.some.injEq, Except.ok.injEq] at h
  refine ⟨raw, ?_, ?_⟩
  · cases hread : reads.readErc20BalanceOf token wallet with
    | error message => simp [hread, orThrow] at hraw
    | ok read => simpa [hread, orThrow] using hraw
  · rw [← h]
    split
    · next h0 => rw [h0, hzero]
    · rfl

theorem fromCache_readWalletBalance (hplain : PlainConfig ctx.config)
    {definition : TokenDefinition} (hmem : definition ∈ ctx.config.tokens) {wallet : String}
    {balance : BigNumber}
    (h : (readWalletBalance ctx reads definition wallet).fromCache ledger cached =
      some (.ok balance)) :
    ∃ raw, rawBalance ctx reads ledger definition.address wallet = .ok raw ∧
      balance = toDecimal raw (ctx.decimals definition.address) := by
  have hdecimals := hplain.decimals_le definition.address
  unfold readWalletBalance at h
  unfold rawBalance
  dsimp only at h
  by_cases hnative : ctx.config.nativeToken = some definition.address
  · rw [if_pos hnative] at h ⊢
    unfold readNativeBalance at h
    obtain ⟨raw, hraw, h⟩ := Prog.fromCache_bind_ok_iff.mp h
    rw [Prog.fromCache_ret, Option.some.injEq, Except.ok.injEq] at h
    refine ⟨raw, ?_, h.symm⟩
    cases hread : reads.getNativeBalance wallet with
    | error message => simp [hread, orThrow] at hraw
    | ok read => simpa [hread, orThrow] using hraw
  · rw [if_neg hnative] at h ⊢
    rw [hplain.flags definition hmem]
    by_cases hstandard : definition.nonStandardBalance = true
    · rw [if_pos hstandard] at h ⊢
      exact fromCache_readNonStandardBalance hdecimals h
    · rw [if_neg hstandard] at h ⊢
      exact ⟨_, rfl, fromCache_readTokenBalance hdecimals h⟩

theorem fromCache_readLpBalance_raw (hplain : PlainConfig ctx.config) {lpToken wallet : String}
    (hnative : ctx.config.nativeToken ≠ some lpToken) {balance : BigNumber}
    (h : (readLpBalance ctx reads.readErc20BalanceOf lpToken wallet).fromCache ledger cached =
      some (.ok balance)) :
    ∃ raw, rawBalance ctx reads ledger lpToken wallet = .ok raw ∧
      balance = toDecimal raw (ctx.decimals lpToken) := by
  have hdecimals := hplain.decimals_le lpToken
  unfold readLpBalance at h
  unfold rawBalance isNonStandard
  dsimp only at h
  rw [if_neg hnative]
  by_cases hstandard :
      ((getTokenDefinition ctx.config lpToken).map (·.nonStandardBalance)).getD false = true
  · rw [if_pos hstandard] at h ⊢
    exact fromCache_readNonStandardBalance hdecimals h
  · rw [if_neg hstandard] at h ⊢
    exact ⟨_, rfl, fromCache_readTokenBalance hdecimals h⟩

/-- One wallet of either loop: its record is pushed exactly when its balance is not zero. -/
theorem contributionOf_of_balance (hplain : PlainConfig ctx.config) {token wallet : String}
    {record : String → BigNumber → SerializedTokenRecord} {balance : BigNumber}
    (h : ∃ raw, rawBalance ctx reads ledger token wallet = .ok raw ∧
      balance = toDecimal raw (ctx.decimals token)) :
    contributionOf ctx reads ledger token record wallet =
      if balance.eq 0 then none else some ⟨token, wallet, record wallet balance⟩ := by
  obtain ⟨raw, hraw, rfl⟩ := h
  have hzero := @toDecimal_eq_zero_iff raw _ (hplain.decimals_le token)
  simp only [contributionOf, hraw, eq_zero_iff, hzero]

theorem fromCache_pushBalanceRecords (hplain : PlainConfig ctx.config)
    {definition : TokenDefinition} (hmem : definition ∈ ctx.config.tokens) {rate : BigNumber}
    {wallets : List String} {records records' : List SerializedTokenRecord}
    (h : (pushBalanceRecords ctx reads timestamp definition rate wallets records).fromCache ledger
      cached = some (.ok records')) :
    records' = records ++ (wallets.filterMap (contributionOf ctx reads ledger definition.address
      (tokenBalanceRecord ctx timestamp definition.address rate))).map (·.record) := by
  induction wallets generalizing records with
  | nil =>
      rw [pushBalanceRecords, Prog.fromCache_ret, Option.some.injEq, Except.ok.injEq] at h
      simp [h]
  | cons wallet rest ih =>
      rw [pushBalanceRecords] at h
      obtain ⟨balance, hbalance, h⟩ := Prog.fromCache_bind_ok_iff.mp h
      rw [List.filterMap_cons, contributionOf_of_balance hplain
        (fromCache_readWalletBalance hplain hmem hbalance)]
      split at h
      · next hzero =>
          rw [if_pos hzero]
          exact ih h
      · next hzero =>
          rw [if_neg hzero, ih h]
          simp

theorem fromCache_pushWalletRecords_eq (hplain : PlainConfig ctx.config)
    {handler : LiquidityHandler} {lpToken : String}
    (hnative : ctx.config.nativeToken ≠ some lpToken) {unitRate multiplier : BigNumber}
    {wallets : List String} {records records' : List SerializedTokenRecord}
    (h : (pushWalletRecords ctx reads.readErc20BalanceOf timestamp handler lpToken unitRate
      multiplier wallets records).fromCache ledger cached = some (.ok records')) :
    records' = records ++ (wallets.filterMap (contributionOf ctx reads ledger lpToken
      (ownedLiquidityRecord ctx timestamp handler unitRate multiplier))).map (·.record) := by
  induction wallets generalizing records with
  | nil =>
      rw [pushWalletRecords, Prog.fromCache_ret, Option.some.injEq, Except.ok.injEq] at h
      simp [h]
  | cons wallet rest ih =>
      rw [pushWalletRecords] at h
      obtain ⟨balance, hbalance, h⟩ := Prog.fromCache_bind_ok_iff.mp h
      rw [List.filterMap_cons, contributionOf_of_balance hplain
        (fromCache_readLpBalance_raw hplain hnative hbalance)]
      split at h
      · next hzero =>
          rw [if_pos hzero]
          exact ih h
      · next hzero =>
          rw [if_neg hzero, ih h]
          simp

/-- A price that the loop is answered is the cached one. -/
theorem price_of_priceLookup {token : String} {result : PriceLookupResult}
    (h : (priceLookup token none).fromCache ledger cached = some (.ok result)) :
    result.price = priceIn cached token none := by
  obtain ⟨value, hvalue, h⟩ := Option.bind_eq_some_iff.mp h
  rw [priceIn, hvalue]
  cases value with
  | quote quote =>
      obtain rfl : quote = result := by simpa using h
      rfl
  | value value =>
      obtain rfl : zeroResult = result := by simpa using h
      rfl

theorem fromCache_pushTokenRecords (hplain : PlainConfig ctx.config)
    {tokens : List TokenDefinition} (htokens : tokens ⊆ ctx.config.tokens)
    {records records' : List SerializedTokenRecord}
    (h : (pushTokenRecords ctx reads timestamp tokens records).fromCache ledger cached =
      some (.ok records')) :
    records' = records ++
      (tokens.flatMap (balanceContributions ctx reads ledger timestamp cached)).map (·.record) := by
  induction tokens generalizing records with
  | nil =>
      rw [pushTokenRecords, Prog.fromCache_ret, Option.some.injEq, Except.ok.injEq] at h
      simp [h]
  | cons definition rest ih =>
      obtain ⟨hmem, hrest⟩ := List.cons_subset.mp htokens
      rw [pushTokenRecords] at h
      rw [List.flatMap_cons, List.map_append]
      split at h
      · next hskip =>
          rw [balanceContributions, if_pos (by rw [hskip, Bool.true_or])]
          exact ih hrest h
      · next hreports =>
          obtain ⟨result, hresult, h⟩ := Prog.fromCache_bind_ok_iff.mp h
          rw [price_of_priceLookup hresult] at h
          rw [Bool.not_eq_true] at hreports
          split at h
          · next hzero =>
              rw [balanceContributions, if_pos (by rw [hzero, Bool.or_true])]
              exact ih hrest h
          · next hzero =>
              rw [Bool.not_eq_true] at hzero
              obtain ⟨mid, hmid, h⟩ := Prog.fromCache_bind_ok_iff.mp h
              rw [balanceContributions, if_neg (by rw [hreports, hzero]; decide), ih hrest h,
                fromCache_pushBalanceRecords hplain hmem hmid, List.append_assoc]

theorem fromCache_pushHandlerRecords_eq (hplain : PlainConfig ctx.config)
    {handlers : List LiquidityHandler} (hhandlers : handlers ⊆ ctx.config.ownedLiquidityHandlers)
    {records records' : List SerializedTokenRecord}
    (h : (pushHandlerRecords ctx reads.readErc20BalanceOf timestamp handlers records).fromCache
      ledger cached = some (.ok records')) :
    records' = records ++
      (handlers.flatMap (poolContributions ctx reads ledger timestamp cached)).map (·.record) := by
  induction handlers generalizing records with
  | nil =>
      rw [pushHandlerRecords, Prog.fromCache_ret, Option.some.injEq, Except.ok.injEq] at h
      simp [h]
  | cons handler rest ih =>
      obtain ⟨hmem, hrest⟩ := List.cons_subset.mp hhandlers
      rw [pushHandlerRecords] at h
      rw [List.flatMap_cons, List.map_append]
      cases hlp : getLpTokenForHandler handler with
      | none =>
          have hnone : poolContributions ctx reads ledger timestamp cached handler = [] := by
            rw [poolContributions, hlp]
          rw [hnone]
          rw [hlp] at h
          split at h <;> exact ih hrest h
      | some lpToken =>
          obtain ⟨hne, hnative⟩ := hplain.pools handler hmem lpToken hlp
          rw [hlp] at h
          split at h
          · next hinactive =>
              have hnone : poolContributions ctx reads ledger timestamp cached handler = [] := by
                rw [poolContributions, hlp]
                split
                · rw [if_pos (by rw [hinactive, Bool.true_or])]
                · rfl
              rw [hnone]
              exact ih hrest h
          · next hactive =>
              rw [Bool.not_eq_true] at hactive
              dsimp only at h
              rw [if_neg hne] at h
              obtain ⟨rates, hrates, h⟩ := Prog.fromCache_bind_ok_iff.mp h
              have hcached : cachedRates ctx ledger cached handler = rates := by
                rw [cachedRates, hrates]
              cases rates with
              | none =>
                  have hnone : poolContributions ctx reads ledger timestamp cached handler =
                      [] := by
                    rw [poolContributions, hlp, hcached]
                  rw [hnone]
                  exact ih hrest h
              | some rates =>
                  obtain ⟨unitRate, multiplier⟩ := rates
                  obtain ⟨mid, hmid, h⟩ := Prog.fromCache_bind_ok_iff.mp h
                  have hsome : poolContributions ctx reads ledger timestamp cached handler =
                      ctx.config.protocolAddresses.filterMap
                        (contributionOf ctx reads ledger lpToken
                          (ownedLiquidityRecord ctx timestamp handler unitRate multiplier)) := by
                    rw [poolContributions, hlp, hcached]
                    exact if_neg (by simp [hactive, hne])
                  rw [hsome, ih hrest h, fromCache_pushWalletRecords_eq hplain hnative hmid,
                    List.append_assoc]

/-- Over what a run of the two loops leaves cached, its records are those of `treasuryContributions`,
in order. -/
theorem records_of_run (hplain : PlainConfig ctx.config) {fuel : ℕ}
    {records : List SerializedTokenRecord} {s s' : PricingSession}
    (h : (pushTreasuryRecords ctx reads timestamp).run ledger
      ((pricingService ctx ledger).look fuel []) s = some (.ok records, s')) :
    records =
      (treasuryContributions ctx reads ledger timestamp s'.cached).map (·.record) := by
  have hcache := fromCache_of_run_top (pricingService ctx ledger) h
  obtain ⟨mid, hmid, hrecords⟩ := Prog.fromCache_bind_ok_iff.mp hcache
  have htokens := fromCache_pushTokenRecords hplain (List.Subset.refl _) hmid
  have hpools := fromCache_pushHandlerRecords_eq hplain (List.Subset.refl _) hrecords
  rw [hpools, htokens, List.nil_append, treasuryContributions, List.map_append]
  rfl

end

end OlympusMetrics.Pricing
