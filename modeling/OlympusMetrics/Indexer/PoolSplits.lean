import OlympusMetrics.Indexer.LedgerRun
import OlympusMetrics.Indexer.PoolValues
import OlympusMetrics.Indexer.PricingOrder

/-!
The passes over a pool with and without excluded tokens, and the records of
owned liquidity that are valued by them.
-/

namespace OlympusMetrics.Pricing

open Lookup BigNumber

/-! ### The passes over a pool -/

/-- The tokens of a pool that are not excluded. -/
def otherTokens (ctx : PricingContext) (handler : LiquidityHandler) (excludedTokens : List String) :
    List String :=
  (tokensAskedBy ctx handler).filter (fun token => !excludedTokens.contains token)

/-- The value of a pool, its value without the excluded tokens, its value without the others, and
its unit price. -/
structure PoolValues where
  total : Option BigNumber
  kept : Option BigNumber
  excluded : Option BigNumber
  unitPrice : Option BigNumber
  deriving DecidableEq

def resolvePool (ctx : PricingContext) (handler : LiquidityHandler) (excludedTokens : List String) :
    PricingProg PoolValues := do
  let total ← getTotalValue handler []
  let kept ← getTotalValue handler excludedTokens
  let excluded ← getTotalValue handler (otherTokens ctx handler excludedTokens)
  let unitPrice ← getUnitPrice handler
  .ret { total, kept, excluded, unitPrice }

/-- The part of a pool that is kept makes up between nothing and all of a positive value, and the
unit price times a positive supply is the value, up to the rounding of one division. -/
structure PoolValues.Proportional (values : PoolValues) (supply : Option BigNumber) : Prop where
  share : ∀ total kept, values.total = some total → total.gt 0 = true → values.kept = some kept →
    (0 : BigNumber).lte (kept.div total) = true ∧ (kept.div total).lte 1 = true
  priced : ∀ total q, values.total = some total → total.gt 0 = true → supply = some (.finite q) →
    0 < q → values.unitPrice.isSome
  unit : ∀ total q unitPrice, values.total = some total → supply = some (.finite q) → 0 < q →
    values.unitPrice = some unitPrice → ∃ t u : ℚ, total = .finite t ∧ unitPrice = .finite u ∧
      |u * q - t| ≤ halfUnit decimalPlaces * q

section

variable {ctx : PricingContext} {ledger : LedgerKey → Option ℤ} {handler : LiquidityHandler}
  {s : PricingSession}

/-- What is kept and what is excluded add up, whatever the cache holds. -/
theorem poolValue_split (cached : PricingKey → Option PricingValue)
    (excludedTokens : List String) :
    poolValue ctx handler cached [] =
      Option.map₂ BigNumber.plus (poolValue ctx handler cached excludedTokens)
        (poolValue ctx handler cached (otherTokens ctx handler excludedTokens)) := by
  have hother : (poolLegs ctx handler).filter
        (fun leg => !(otherTokens ctx handler excludedTokens).contains leg.1) =
      (poolLegs ctx handler).filter (fun leg => !!excludedTokens.contains leg.1) := by
    apply List.filter_congr
    intro leg hleg
    have htoken : leg.1 ∈ tokensAskedBy ctx handler := (exists_of_mem_poolLegs hleg).1
    simp [otherTokens, htoken]
  have hperm := (List.filter_append_perm (fun leg => !excludedTokens.contains leg.1)
    (poolLegs ctx handler)).map (legValue handler cached)
  have hsum := hperm.sum_eq
  rw [List.map_append, List.sum_append] at hsum
  unfold poolValue
  rw [hother]
  split
  · simp [← hsum, add_def]
  · rfl

/-- What the passes over a pool return in one session. -/
theorem values_of_resolvePool (hs : (pricingService ctx ledger).Settled IsPriceKey s)
    (hpool : IsPool handler) {excludedTokens : List String} {values : PoolValues}
    (h : (resolvePool ctx handler excludedTokens).fromCache ledger s.cached = some (.ok values)) :
    values =
      { total := poolValue ctx handler s.cached []
        kept := poolValue ctx handler s.cached excludedTokens
        excluded := poolValue ctx handler s.cached (otherTokens ctx handler excludedTokens)
        unitPrice := poolUnitPrice ctx handler s.cached ledger } := by
  obtain ⟨total, htotal, h⟩ := Prog.fromCache_bind_ok_iff.mp h
  obtain ⟨kept, hkept, h⟩ := Prog.fromCache_bind_ok_iff.mp h
  obtain ⟨excluded, hexcluded, h⟩ := Prog.fromCache_bind_ok_iff.mp h
  obtain ⟨unitPrice, hunit, h⟩ := Prog.fromCache_bind_ok_iff.mp h
  rw [Prog.fromCache_ret, Option.some.injEq, Except.ok.injEq] at h
  rw [← h, value_of_getTotalValue hs hpool htotal, value_of_getTotalValue hs hpool hkept,
    value_of_getTotalValue hs hpool hexcluded, value_of_getUnitPrice hs hpool hunit]

/-- The share of a part of a pool in its whole value. -/
theorem NonnegPool.share (h : NonnegPool ctx handler s) {excludedTokens : List String}
    {total kept : BigNumber} (htotal : Pricing.poolValue ctx handler s.cached [] = some total)
    (hpos : total.gt 0 = true)
    (hkept : Pricing.poolValue ctx handler s.cached excludedTokens = some kept) :
    (kept.div total).Nonneg ∧ (kept.div total).lte 1 = true := by
  have hsplit := @poolValue_split ctx handler s.cached excludedTokens
  rw [htotal, hkept] at hsplit
  cases hother : Pricing.poolValue ctx handler s.cached
      (otherTokens ctx handler excludedTokens) with
  | none =>
      rw [hother] at hsplit
      exact nomatch hsplit
  | some other =>
      rw [hother] at hsplit
      obtain rfl : total = kept.plus other := Option.some.inj hsplit
      exact share_mem (h.poolValue hkept) (h.poolValue hother) hpos

/-- Undoing the division of a total by a supply. -/
theorem abs_div_mul_sub_le {t q : ℚ} (hq : 0 < q) :
    |roundHalfUp decimalPlaces (t / q) * q - t| ≤ halfUnit decimalPlaces * q := by
  have hround := @abs_roundHalfUp_sub_le decimalPlaces (t / q)
  have hfactor : roundHalfUp decimalPlaces (t / q) * q - t =
      (roundHalfUp decimalPlaces (t / q) - t / q) * q := by
    rw [sub_mul, div_mul_cancel₀ _ hq.ne']
  rw [hfactor, abs_mul, abs_of_pos hq]
  exact mul_le_mul_of_nonneg_right hround hq.le

theorem NonnegPool.proportional (h : NonnegPool ctx handler s) (excludedTokens : List String) :
    PoolValues.Proportional
      { total := Pricing.poolValue ctx handler s.cached []
        kept := Pricing.poolValue ctx handler s.cached excludedTokens
        excluded := Pricing.poolValue ctx handler s.cached (otherTokens ctx handler excludedTokens)
        unitPrice := poolUnitPrice ctx handler s.cached ledger }
      (poolSupply ctx handler ledger) where
  share := by
    intro total kept htotal hpos hkept
    obtain ⟨hnonneg, hle⟩ := h.share htotal hpos hkept
    exact ⟨hnonneg.zero_lte, hle⟩
  priced := by
    intro total q htotal hpos hsupply hq
    obtain ⟨t, ht, rfl⟩ := (h.poolValue htotal).exists_eq
    rw [zero_def, finite_gt_finite] at hpos
    have htotal' : Pricing.poolValue ctx handler s.cached [] = some (.finite t) := htotal
    simp [poolUnitPrice, htotal', hsupply, eq, zero_def, hq.ne', hpos.ne']
  unit := by
    intro total q unitPrice htotal hsupply hq hunit
    obtain ⟨t, ht, rfl⟩ := (h.poolValue htotal).exists_eq
    have hunit' : poolUnitPrice ctx handler s.cached ledger = some unitPrice := hunit
    have htotal' : Pricing.poolValue ctx handler s.cached [] = some (.finite t) := htotal
    simp only [poolUnitPrice, htotal', hsupply, Option.bind_some] at hunit'
    split at hunit'
    · cases hunit'
    · obtain rfl := Option.some.inj hunit'
      exact ⟨t, _, rfl, finite_div_finite hq.ne', abs_div_mul_sub_le hq⟩

end

/-! ### The records -/

/-- A record that values an LP balance of a wallet by a pool's share and unit price, all from one
session. -/
def IsOwnedRecord (ctx : PricingContext) (ledger : LedgerKey → Option ℤ) (timestamp : ℕ)
    (cached : PricingKey → Option PricingValue) (handler : LiquidityHandler)
    (record : SerializedTokenRecord) : Prop :=
  ∃ total included unitPrice wallet raw decimals,
    (getTotalValue handler []).fromCache ledger cached = some (.ok (some total)) ∧ total ≠ 0 ∧
    (getTotalValue handler [ctx.config.ohmToken]).fromCache ledger cached =
      some (.ok (some included)) ∧
    (getUnitPrice handler).fromCache ledger cached = some (.ok (some unitPrice)) ∧
    record = ownedLiquidityRecord ctx timestamp handler unitPrice (included.div total) wallet
      (toDecimal raw decimals)

section

variable {ctx : PricingContext} {ledger : LedgerKey → Option ℤ}
  {cached : PricingKey → Option PricingValue}
  {readErc20BalanceOf : String → String → Except String ℤ} {timestamp : ℕ}

theorem fromCache_readLpBalance {lpToken wallet : String} {balance : BigNumber}
    (h : (readLpBalance ctx readErc20BalanceOf lpToken wallet).fromCache ledger cached =
      some (.ok balance)) : balance = 0 ∨ ∃ raw decimals, balance = toDecimal raw decimals := by
  unfold readLpBalance at h
  dsimp only at h
  split at h
  · unfold readNonStandardBalance at h
    obtain ⟨raw, -, h⟩ := Prog.fromCache_bind_ok_iff.mp h
    rw [Prog.fromCache_ret, Option.some.injEq, Except.ok.injEq] at h
    split at h
    · exact Or.inl h.symm
    · exact Or.inr ⟨raw, _, h.symm⟩
  · unfold readTokenBalance at h
    obtain ⟨entity, -, h⟩ := Prog.fromCache_bind_ok_iff.mp h
    cases entity with
    | none =>
        rw [Prog.fromCache_ret, Option.some.injEq, Except.ok.injEq] at h
        exact Or.inl h.symm
    | some raw =>
        simp only [Prog.fromCache_ret, Option.some.injEq, Except.ok.injEq] at h
        split at h
        · exact Or.inl h.symm
        · exact Or.inr ⟨raw, _, h.symm⟩

/-- The loop over the wallets appends records of non-zero balances. -/
theorem fromCache_pushWalletRecords {handler : LiquidityHandler} {lpToken : String}
    {unitRate multiplier : BigNumber} {wallets : List String}
    {records records' : List SerializedTokenRecord}
    (h : (pushWalletRecords ctx readErc20BalanceOf timestamp handler lpToken unitRate multiplier
      wallets records).fromCache ledger cached = some (.ok records')) :
    ∃ pushed, records' = records ++ pushed ∧ ∀ record ∈ pushed, ∃ wallet raw decimals,
      record = ownedLiquidityRecord ctx timestamp handler unitRate multiplier wallet
        (toDecimal raw decimals) := by
  induction wallets generalizing records with
  | nil =>
      rw [pushWalletRecords, Prog.fromCache_ret, Option.some.injEq, Except.ok.injEq] at h
      exact ⟨[], by rw [h, List.append_nil], fun _ hmem => absurd hmem List.not_mem_nil⟩
  | cons wallet rest ih =>
      rw [pushWalletRecords] at h
      obtain ⟨balance, hbalance, h⟩ := Prog.fromCache_bind_ok_iff.mp h
      split at h
      · exact ih h
      · next hne =>
          obtain ⟨pushed, rfl, hpushed⟩ := ih h
          refine ⟨ownedLiquidityRecord ctx timestamp handler unitRate multiplier wallet balance ::
            pushed, by rw [List.append_assoc]; rfl, ?_⟩
          intro record hmem
          rcases List.mem_cons.mp hmem with rfl | hmem
          · rcases fromCache_readLpBalance hbalance with rfl | ⟨raw, decimals, rfl⟩
            · exact absurd rfl hne
            · exact ⟨wallet, raw, decimals, rfl⟩
          · exact hpushed record hmem

theorem fromCache_unitRateAndMultiplier {handler : LiquidityHandler}
    {unitRate multiplier : BigNumber}
    (h : (unitRateAndMultiplier ctx handler).fromCache ledger cached =
      some (.ok (some (unitRate, multiplier)))) :
    ∃ total included,
      (getTotalValue handler []).fromCache ledger cached = some (.ok (some total)) ∧ total ≠ 0 ∧
      (getTotalValue handler [ctx.config.ohmToken]).fromCache ledger cached =
        some (.ok (some included)) ∧
      (getUnitPrice handler).fromCache ledger cached = some (.ok (some unitRate)) ∧
      multiplier = included.div total := by
  unfold unitRateAndMultiplier at h
  obtain ⟨total, htotal, h⟩ := Prog.fromCache_bind_ok_iff.mp h
  cases total with
  | none => simp at h
  | some total =>
      dsimp only at h
      split at h
      · simp at h
      · next hzero =>
          obtain ⟨included, hincluded, h⟩ := Prog.fromCache_bind_ok_iff.mp h
          cases included with
          | none => simp at h
          | some included =>
              obtain ⟨unitPrice, hunit, h⟩ := Prog.fromCache_bind_ok_iff.mp h
              cases unitPrice with
              | none => simp at h
              | some unitPrice =>
                  simp only [Prog.fromCache_ret, Option.map_some, Option.some.injEq,
                    Except.ok.injEq, Prod.mk.injEq] at h
                  obtain ⟨rfl, rfl⟩ := h
                  rw [eq_zero_iff] at hzero
                  exact ⟨total, included, htotal, hzero, hincluded, hunit, rfl⟩

/-- The loop over the handlers appends records of active pools. -/
theorem fromCache_pushHandlerRecords {handlers : List LiquidityHandler}
    {records records' : List SerializedTokenRecord}
    (h : (pushHandlerRecords ctx readErc20BalanceOf timestamp handlers records).fromCache ledger
      cached = some (.ok records')) :
    ∃ pushed, records' = records ++ pushed ∧ ∀ record ∈ pushed, ∃ handler ∈ handlers,
      IsPool handler ∧ ctx.isActive handler = true ∧
        IsOwnedRecord ctx ledger timestamp cached handler record := by
  induction handlers generalizing records with
  | nil =>
      rw [pushHandlerRecords, Prog.fromCache_ret, Option.some.injEq, Except.ok.injEq] at h
      exact ⟨[], by rw [h, List.append_nil], fun _ hmem => absurd hmem List.not_mem_nil⟩
  | cons handler rest ih =>
      have hskip {records : List SerializedTokenRecord}
          (h : (pushHandlerRecords ctx readErc20BalanceOf timestamp rest records).fromCache ledger
            cached = some (.ok records')) :
          ∃ pushed, records' = records ++ pushed ∧ ∀ record ∈ pushed,
            ∃ other ∈ handler :: rest, IsPool other ∧ ctx.isActive other = true ∧
              IsOwnedRecord ctx ledger timestamp cached other record := by
        obtain ⟨pushed, rfl, hpushed⟩ := ih h
        refine ⟨pushed, rfl, fun record hmem => ?_⟩
        obtain ⟨other, hother, hrecord⟩ := hpushed record hmem
        exact ⟨other, List.mem_cons_of_mem _ hother, hrecord⟩
      rw [pushHandlerRecords] at h
      split at h
      · exact hskip h
      · next hactive =>
          split at h
          · exact hskip h
          · next lpToken hlp =>
              split at h
              · exact hskip h
              · obtain ⟨rates, hrates, h⟩ := Prog.fromCache_bind_ok_iff.mp h
                cases rates with
                | none => exact hskip h
                | some rates =>
                    obtain ⟨unitRate, multiplier⟩ := rates
                    obtain ⟨total, included, htotal, hne, hincluded, hunit, rfl⟩ :=
                      fromCache_unitRateAndMultiplier hrates
                    obtain ⟨mid, hmid, h⟩ := Prog.fromCache_bind_ok_iff.mp h
                    obtain ⟨first, rfl, hfirst⟩ := fromCache_pushWalletRecords hmid
                    obtain ⟨pushed, rfl, hpushed⟩ := hskip h
                    refine ⟨first ++ pushed, List.append_assoc .., ?_⟩
                    intro record hmem
                    rcases List.mem_append.mp hmem with hmem | hmem
                    · obtain ⟨wallet, raw, decimals, rfl⟩ := hfirst record hmem
                      exact ⟨handler, List.mem_cons_self, isPool_of_getLpTokenForHandler hlp,
                        by simpa using hactive, total, included, unitRate, wallet, raw, decimals,
                        htotal, hne, hincluded, hunit, rfl⟩
                    · exact hpushed record hmem

end

def isLiabilityToken (config : ChainConfig) (tokenAddress : String) : Bool :=
  ((getTokenDefinition config tokenAddress).map (·.isLiability)).getD false

/-- The supplies that a ledger stores are not negative. -/
def SuppliesNonneg (ledger : LedgerKey → Option ℤ) : Prop :=
  ∀ token supply, ledger (.erc20Supply token) = some supply → 0 ≤ supply

/-- The rows that a snapshot of a chain reads. -/
def storedRows (c : ChainId) (ledger : Ledger) : LedgerKey → Option ℤ
  | .tokenBalance token wallet =>
      (ledger.tokenBalance.get ⟨c, token, wallet⟩).map (·.balance)
  | .erc20Supply token => (ledger.erc20Supply.get ⟨c, token⟩).map (·.totalSupply)

/-- A record whose multiplier is a share, and whose value without OHM is, for a balance that is not
negative and a token that is no liability, between nothing and the value. -/
structure FairRecord (config : ChainConfig) (record : SerializedTokenRecord) : Prop where
  share : (0 : BigNumber).lte record.multiplier = true ∧ record.multiplier.lte 1 = true
  value : isLiabilityToken config record.tokenAddress = false → record.balance.Nonneg →
    (0 : BigNumber).lte record.valueExcludingOhm = true ∧
      record.valueExcludingOhm.lte record.value = true

theorem fairRecord_of_share {ctx : PricingContext} {handler : LiquidityHandler} {timestamp : ℕ}
    {unitRate x y : BigNumber} {wallet : String} {raw : ℤ} {decimals : ℕ}
    (hunit : unitRate.Nonneg) (hshare : (x.div y).Nonneg) (hle : (x.div y).lte 1 = true) :
    FairRecord ctx.config (ownedLiquidityRecord ctx timestamp handler unitRate (x.div y) wallet
      (toDecimal raw decimals)) where
  share := by
    show (0 : BigNumber).lte (x.div y).toString10 = true ∧ (x.div y).toString10.lte 1 = true
    rw [toString10_div]
    exact ⟨hshare.zero_lte, hle⟩
  value := by
    intro hliability hbalance
    have hnonneg : (toDecimal raw decimals).Nonneg := by
      have hwritten : (toDecimal raw decimals).toString10.Nonneg := hbalance
      rwa [toDecimal, toString10_div] at hwritten
    have htoken : ((getTokenDefinition ctx.config handler.id).map (·.isLiability)).getD false =
        false := hliability
    have hfair := times_share_lte (hnonneg.times hunit) hshare hle
    simpa [ownedLiquidityRecord, createTokenRecord, htoken] using hfair

section

variable {ctx : PricingContext} {ledger : LedgerKey → Option ℤ} {handler : LiquidityHandler}
  {s : PricingSession}

theorem NonnegPool.unitPrice (h : NonnegPool ctx handler s)
    (hledger : SuppliesNonneg ledger)
    {unitPrice : BigNumber}
    (hunit : poolUnitPrice ctx handler s.cached ledger = some unitPrice) : unitPrice.Nonneg := by
  obtain ⟨total, htotal, hunit⟩ := Option.bind_eq_some_iff.mp hunit
  obtain ⟨supply, hsupply, hunit⟩ := Option.bind_eq_some_iff.mp hunit
  split at hunit
  · exact nomatch hunit
  · next hzero =>
      obtain rfl := Option.some.inj hunit
      obtain ⟨raw, hraw, rfl⟩ := Option.map_eq_some_iff.mp hsupply
      refine (h.poolValue htotal).div (toDecimal_nonneg (hledger _ raw hraw) _) ?_
      intro heq
      rw [heq] at hzero
      exact hzero rfl

/-- Every owned-liquidity record of a pool with non-negative reserves and prices is fair. -/
theorem NonnegPool.fairRecord (h : NonnegPool ctx handler s)
    (hs : (pricingService ctx ledger).Settled IsPriceKey s) (hpool : IsPool handler)
    (hledger : SuppliesNonneg ledger)
    {timestamp : ℕ} {record : SerializedTokenRecord}
    (hrecord : IsOwnedRecord ctx ledger timestamp s.cached handler record) :
    FairRecord ctx.config record := by
  obtain ⟨total, included, unitPrice, wallet, raw, decimals, htotal, hne, hincluded, hunit, rfl⟩ :=
    hrecord
  have htotal' := (value_of_getTotalValue hs hpool htotal).symm
  have hincluded' := (value_of_getTotalValue hs hpool hincluded).symm
  have hunit' := (value_of_getUnitPrice hs hpool hunit).symm
  have hpos : total.gt 0 = true := by
    obtain ⟨t, ht, rfl⟩ := (h.poolValue htotal').exists_eq
    rw [zero_def, finite_gt_finite]
    refine lt_of_le_of_ne ht ?_
    rintro rfl
    exact hne zero_def.symm
  obtain ⟨hshare, hle⟩ := h.share htotal' hpos hincluded'
  exact fairRecord_of_share (h.unitPrice hledger hunit') hshare hle

/-- In one pricing cache, the value of a pool is its value without any excluded tokens and its value
without the others; with non-negative reserves and prices its parts and its unit price are in
proportion, and the records of owned liquidity are fair. -/
theorem ownedLiquidity_splits
    (hledger : SuppliesNonneg ledger)
    (hs : (pricingService ctx ledger).Reached s) (fuel : ℕ) :
    (∀ handler excludedTokens values s', IsPool handler →
      (resolvePool ctx handler excludedTokens).run ledger
        ((pricingService ctx ledger).look fuel []) s = some (.ok values, s') →
      values.total = Option.map₂ BigNumber.plus values.kept values.excluded ∧
        (NonnegPool ctx handler s' → values.Proportional (poolSupply ctx handler ledger))) ∧
    (∀ readErc20BalanceOf timestamp records records' s',
      (pushOwnedLiquidityRecords ctx readErc20BalanceOf timestamp records).run ledger
        ((pricingService ctx ledger).look fuel []) s = some (.ok records', s') →
      (∀ handler ∈ ctx.config.ownedLiquidityHandlers, IsPool handler →
        ctx.isActive handler = true → NonnegPool ctx handler s') →
      ∃ pushed, records' = records ++ pushed ∧ ∀ record ∈ pushed, FairRecord ctx.config record) := by
  constructor
  · intro handler excludedTokens values s' hpool hrun
    have hsettled : (pricingService ctx ledger).Settled IsPriceKey s' :=
      pricing_settled (hs.run hrun)
    have hvalues := values_of_resolvePool hsettled hpool
      (fromCache_of_run_top (pricingService ctx ledger) hrun)
    subst hvalues
    exact ⟨poolValue_split s'.cached excludedTokens,
      fun hnonneg => hnonneg.proportional excludedTokens⟩
  · intro readErc20BalanceOf timestamp records records' s' hrun hnonneg
    have hsettled : (pricingService ctx ledger).Settled IsPriceKey s' :=
      pricing_settled (hs.run hrun)
    obtain ⟨pushed, rfl, hpushed⟩ := fromCache_pushHandlerRecords
      (fromCache_of_run_top (pricingService ctx ledger) hrun)
    refine ⟨pushed, rfl, fun record hmem => ?_⟩
    obtain ⟨handler, hhandler, hpool, hactive, hrecord⟩ := hpushed record hmem
    exact (hnonneg handler hhandler hpool hactive).fairRecord hsettled hpool hledger hrecord

end

/-! ### A pool of two tokens -/

def ohmPairPool : LiquidityHandler where
  kind := .univ2
  id := "p1"
  tokens := ["a", "b"]

/-- A pool of the treasury's, a second pool that prices its first token, and a stable handler. -/
def ohmPairContext : PricingContext where
  config :=
    { triangleConfig with
      protocolAddresses := ["w"]
      liquidityHandlers :=
        [ohmPairPool, { kind := .univ2, id := "p3", tokens := ["a", "c"] },
         { kind := .stable, id := "s", tokens := ["b", "c"] }]
      ownedLiquidityHandlers := [ohmPairPool] }
  blockNumber := 1
  view := triangleView

/-- Fifty pool tokens, of which the wallet holds ten. -/
def pairRows : LedgerKey → Option ℤ
  | .tokenBalance _ _ => some (10 * 10 ^ 18)
  | .erc20Supply _ => some (50 * 10 ^ 18)

/-- What a run gives, and the prices of the pool's tokens that it leaves cached. -/
def pairRun {α : Type} (p : PricingProg α) : Option (Except String α × List (Option PricingValue)) :=
  (p.run pairRows ((pricingService ohmPairContext pairRows).look 5 []) .fresh).map (fun out =>
    (out.1, ["a", "b"].map (fun token => out.2.cached (.price token (some "p1")))))

def keptPrices : List (Option PricingValue) :=
  [some (.quote ⟨.finite 2, .finite 200⟩), some (.quote ⟨1, 0⟩)]

def pairValues : PoolValues :=
  ⟨some (.finite 400), some (.finite 200), some (.finite 200), some (.finite 8)⟩

/-- The record of the wallet's ten pool tokens. -/
def pairRecord : SerializedTokenRecord :=
  ownedLiquidityRecord ohmPairContext 0 ohmPairPool (.finite 8) (.finite (1 / 2)) "w" (.finite 10)

theorem nonnegPool_pair {α : Type} {p : PricingProg α} {result : Except String α}
    {s : PricingSession} (hrun : p.run pairRows ((pricingService ohmPairContext pairRows).look 5 [])
      .fresh = some (result, s)) (h : (pairRun p).map Prod.snd = some keptPrices) :
    NonnegPool ohmPairContext ohmPairPool s := by
  rw [pairRun, hrun] at h
  have hprices : ["a", "b"].map (fun token => s.cached (.price token (some "p1"))) =
      keptPrices := Option.some.inj h
  simp only [List.map_cons, List.map_nil, keptPrices, List.cons.injEq, and_true] at hprices
  constructor
  · intro reserve hreserve
    have hmem : reserve = 100 ∨ reserve = 200 := by
      simpa [poolReserves, ohmPairPool, ohmPairContext, triangleView] using hreserve
    omega
  · intro token htoken result hcached
    have hmem : token = "a" ∨ token = "b" := by
      simpa [tokensAskedBy, ohmPairPool] using htoken
    have hpool : pricedFrom ohmPairPool = some "p1" := rfl
    rw [hpool] at hcached
    rcases hmem with rfl | rfl
    · rw [hprices.1] at hcached
      obtain rfl := PricingValue.quote.inj (Option.some.inj hcached)
      decide
    · rw [hprices.2] at hcached
      obtain rfl := PricingValue.quote.inj (Option.some.inj hcached)
      decide

/-- The pool is worth four hundred, two hundred of them without its first token. -/
theorem ownedLiquidity_splits_pair :
    (∃ s', (resolvePool ohmPairContext ohmPairPool ["a"]).run pairRows
        ((pricingService ohmPairContext pairRows).look 5 []) .fresh = some (.ok pairValues, s') ∧
      pairValues.total = Option.map₂ BigNumber.plus pairValues.kept pairValues.excluded ∧
      pairValues.Proportional (poolSupply ohmPairContext ohmPairPool pairRows)) ∧
    FairRecord ohmPairContext.config pairRecord := by
  have hvalues : pairRun (resolvePool ohmPairContext ohmPairPool ["a"]) =
      some (.ok pairValues, keptPrices) := by decide +kernel
  have hrecords : pairRun (pushOwnedLiquidityRecords ohmPairContext (fun _ _ => .ok 0) 0 []) =
      some (.ok [pairRecord], keptPrices) := by decide +kernel
  have hledger : SuppliesNonneg pairRows := by
    intro token supply h
    obtain rfl := Option.some.inj h
    decide
  obtain ⟨⟨result, s'⟩, hrun, heq⟩ := Option.map_eq_some_iff.mp hvalues
  obtain rfl : result = .ok pairValues := congrArg Prod.fst heq
  obtain ⟨⟨result, s''⟩, hpush, heq'⟩ := Option.map_eq_some_iff.mp hrecords
  obtain rfl : result = .ok [pairRecord] := congrArg Prod.fst heq'
  obtain ⟨hpass, hpushed⟩ := @ownedLiquidity_splits ohmPairContext pairRows .fresh hledger .fresh 5
  constructor
  · obtain ⟨hsplit, hproportional⟩ := hpass ohmPairPool ["a"] pairValues s' trivial hrun
    refine ⟨s', hrun, hsplit, hproportional (nonnegPool_pair hrun ?_)⟩
    rw [hvalues]
    rfl
  · obtain ⟨pushed, heq, hfair⟩ := hpushed (fun _ _ => .ok 0) 0 [] [pairRecord] s'' hpush (by
      intro handler hhandler _ _
      obtain rfl : handler = ohmPairPool := by simpa [ohmPairContext] using hhandler
      refine nonnegPool_pair hpush ?_
      rw [hrecords]
      rfl)
    rw [List.nil_append] at heq
    exact hfair pairRecord (heq ▸ List.mem_singleton_self _)

end OlympusMetrics.Pricing
