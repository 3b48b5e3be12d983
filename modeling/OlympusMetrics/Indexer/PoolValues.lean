import OlympusMetrics.Indexer.OwnedLiquidity
import Mathlib.Data.List.GetD

/-!
The value of a pool splits into its excluded tokens and the others.

Both passes over a pool look its prices up in one cache. The lookups of total
values and unit prices are asked for by no other lookup, so they see the prices
that the cache keeps, also where the cycle guard cut a price off.
-/

namespace OlympusMetrics.Pricing

open Lookup BigNumber

/-! ### A pool's value over cached prices -/

section evaluation

variable {ctx : PricingContext} {handler : LiquidityHandler} {ledger : LedgerKey → Option ℤ}
  {cached : PricingKey → Option PricingValue}

theorem price_of_fromCache {token : String} {currentPool : Option String}
    {result : PriceLookupResult}
    (h : (priceLookup token currentPool).fromCache ledger cached = some (.ok result)) :
    result.price = priceIn cached token currentPool := by
  obtain ⟨value, hvalue, hresult⟩ := Option.bind_eq_some_iff.mp h
  rw [priceIn, hvalue]
  cases value with
  | quote quoted =>
      obtain rfl : quoted = result := by simpa using hresult
      rfl
  | value v =>
      obtain rfl : zeroResult = result := by simpa using hresult
      rfl

/-- The loop adds the values of the legs that are not excluded. -/
theorem fromCache_totalOf {currentPool : Option String} {excludedTokens : List String}
    {entries : List (String × PricingProg BigNumber)} {legs : List (String × BigNumber)}
    (hlegs : List.Forall₂ (fun entry leg => entry.1 = leg.1 ∧
      ∀ balance, entry.2.fromCache ledger cached = some (.ok balance) → balance = leg.2)
      entries legs) {start total : BigNumber}
    (h : (totalOf (fun token => priceLookup token currentPool) excludedTokens entries start).fromCache
      ledger cached = some (.ok total)) :
    total = start + ((legs.filter (fun leg => !excludedTokens.contains leg.1)).map
      (fun leg => leg.2.times (priceIn cached leg.1 currentPool))).sum := by
  induction hlegs generalizing start with
  | nil =>
      obtain rfl : start = total := by simpa [totalOf] using h
      simp
  | @cons entry leg entries legs hleg hrest ih =>
      obtain ⟨token, readBalance⟩ := entry
      obtain ⟨rfl, hbalance⟩ := hleg
      rw [totalOf] at h
      by_cases hexcluded : excludedTokens.contains leg.1
      · rw [if_pos hexcluded] at h
        rw [ih h, List.filter_cons, if_neg (by simpa using hexcluded)]
      · rw [if_neg hexcluded] at h
        obtain ⟨balance, hread, h⟩ := Prog.fromCache_bind_ok_iff.mp h
        obtain ⟨result, hresult, h⟩ := Prog.fromCache_bind_ok_iff.mp h
        have hvalue : balance.times result.price =
            leg.2.times (priceIn cached leg.1 currentPool) := by
          rw [hbalance balance hread, price_of_fromCache hresult]
        rw [ih h, List.filter_cons, if_pos (by simpa using hexcluded), List.map_cons,
          List.sum_cons, hvalue, ← add_def, add_assoc]

theorem fromCache_sortTokens {tokens : List String} {pair : String × String}
    (h : (sortTokens tokens).fromCache ledger cached = some (.ok pair)) :
    ∃ rest, sortedTokens tokens = pair.1 :: pair.2 :: rest := by
  unfold sortTokens at h
  split at h
  · next token0 token1 rest heq =>
      obtain rfl : (token0, token1) = pair := by simpa using h
      exact ⟨rest, heq⟩
  · simp at h

theorem fromCache_orThrow {α : Type} {result : Except String α} {x : α}
    (h : (orThrow result : PricingProg α).fromCache ledger cached = some (.ok x)) :
    result = .ok x := by
  cases result with
  | ok y =>
      obtain rfl : y = x := by simpa [orThrow] using h
      rfl
  | error message => simp [orThrow] at h

theorem fromCache_element {values : List ℤ} {index : ℕ} {x : ℤ}
    (h : (element values index).fromCache ledger cached = some (.ok x)) :
    values.getD index 0 = x := by
  unfold element at h
  split at h
  · next value heq =>
      obtain rfl : value = x := by simpa using h
      rw [List.getD_eq_getElem?_getD, heq]
      rfl
  · simp at h

/-! ### The three kinds of pools -/

theorem poolValue_of_totalOf {excludedTokens : List String}
    {entries : List (String × PricingProg BigNumber)} {total : BigNumber}
    (hstate : hasPoolState ctx handler = true)
    (hlegs : List.Forall₂ (fun entry leg => entry.1 = leg.1 ∧
      ∀ balance, entry.2.fromCache ledger cached = some (.ok balance) → balance = leg.2)
      entries (poolLegs ctx handler))
    (h : (totalOf (fun token => priceLookup token (pricedFrom handler)) excludedTokens entries 0).fromCache
      ledger cached = some (.ok total)) :
    some total = poolValue ctx handler cached excludedTokens := by
  rw [poolValue, if_pos hstate, fromCache_totalOf hlegs h, zero_add]
  rfl

theorem fromCache_univ2_getTotalValue (hkind : handler.kind = .univ2)
    {excludedTokens : List String} {value : Option BigNumber}
    (h : (Univ2.getTotalValue ctx handler excludedTokens).fromCache ledger cached =
      some (.ok value)) : value = poolValue ctx handler cached excludedTokens := by
  unfold Univ2.getTotalValue at h
  cases hactive : ctx.isActive handler with
  | false =>
      obtain rfl : none = value := by simpa [hactive] using h
      simp [poolValue, hasPoolState, hactive]
  | true =>
      cases hstate : ctx.view.univ2PoolState handler.id with
      | none =>
          obtain rfl : none = value := by simpa [hactive, hstate] using h
          simp [poolValue, hasPoolState, hkind, hstate]
      | some state =>
          simp only [hactive, hstate, Bool.not_true, Bool.false_eq_true, if_false] at h
          obtain ⟨pair, hpair, h⟩ := Prog.fromCache_bind_ok_iff.mp h
          obtain ⟨rest, hsorted⟩ := fromCache_sortTokens hpair
          obtain ⟨total, htotal, h⟩ := Prog.fromCache_bind_ok_iff.mp h
          obtain rfl : some total = value := by simpa using h
          have hpool : pricedFrom handler = some handler.id := by rw [pricedFrom, hkind]
          rw [← hpool] at htotal
          refine poolValue_of_totalOf ?_ ?_ htotal
          · simp [hasPoolState, hkind, hactive, hstate]
          · simp [poolLegs, poolReserves, hkind, hsorted, hstate, eq_comm]

theorem fromCache_kodiak_getTotalValue {pool quoter : String} {rewardVault : Option String}
    (hkind : handler.kind = .kodiak pool quoter rewardVault)
    {excludedTokens : List String} {value : Option BigNumber}
    (h : (Kodiak.getTotalValue ctx handler pool excludedTokens).fromCache ledger cached =
      some (.ok value)) : value = poolValue ctx handler cached excludedTokens := by
  unfold Kodiak.getTotalValue at h
  cases hactive : ctx.isActive handler with
  | false =>
      obtain rfl : none = value := by simpa [hactive] using h
      simp [poolValue, hasPoolState, hactive]
  | true =>
      simp only [hactive, Bool.not_true, Bool.false_eq_true, if_false] at h
      obtain ⟨pair, hpair, h⟩ := Prog.fromCache_bind_ok_iff.mp h
      obtain ⟨rest, hsorted⟩ := fromCache_sortTokens hpair
      obtain ⟨reserves, hreserves, h⟩ := Prog.fromCache_bind_ok_iff.mp h
      have hread := fromCache_orThrow hreserves
      obtain ⟨total, htotal, h⟩ := Prog.fromCache_bind_ok_iff.mp h
      obtain rfl : some total = value := by simpa using h
      have hpool : pricedFrom handler = some handler.id := by rw [pricedFrom, hkind]
      rw [← hpool] at htotal
      refine poolValue_of_totalOf ?_ ?_ htotal
      · simp [hasPoolState, hkind, hactive]
      · simp [poolLegs, poolReserves, hkind, hsorted, hread, eq_comm]

theorem fromCache_balancer_getTotalValue {vault : String} (hkind : handler.kind = .balancer vault)
    {excludedTokens : List String} {value : Option BigNumber}
    (h : (Balancer.getTotalValue ctx handler excludedTokens).fromCache ledger cached =
      some (.ok value)) : value = poolValue ctx handler cached excludedTokens := by
  unfold Balancer.getTotalValue at h
  cases hactive : ctx.isActive handler with
  | false =>
      obtain rfl : none = value := by simpa [hactive] using h
      simp [poolValue, hasPoolState, hactive]
  | true =>
      cases hstate : ctx.view.balancerPoolState handler.id with
      | none =>
          obtain rfl : none = value := by simpa [hactive, hstate] using h
          simp [poolValue, hasPoolState, hkind, hstate]
      | some state =>
          simp only [hactive, hstate, Bool.not_true, Bool.false_eq_true, if_false] at h
          obtain ⟨total, htotal, h⟩ := Prog.fromCache_bind_ok_iff.mp h
          obtain rfl : some total = value := by simpa using h
          have hpool : pricedFrom handler = none := by rw [pricedFrom, hkind]
          rw [← hpool] at htotal
          refine poolValue_of_totalOf ?_ ?_ htotal
          · simp [hasPoolState, hkind, hactive, hstate]
          · have htokens : tokensAskedBy ctx handler = state.tokens := by
              simp [tokensAskedBy, hkind, hstate]
            have hreserves : poolReserves ctx handler = state.balances := by
              simp [poolReserves, hkind, hstate]
            simp only [poolLegs, hkind, htokens, hreserves, List.forall₂_map_left_iff,
              List.forall₂_map_right_iff, List.forall₂_same, true_and]
            intro entry _ balance hbalance
            obtain ⟨raw, hraw, hbalance⟩ := Prog.fromCache_bind_ok_iff.mp hbalance
            obtain rfl : toDecimal raw (ctx.decimals entry.1) = balance := by simpa using hbalance
            rw [fromCache_element hraw]

/-- A total value is the value of the pool over the cached prices. -/
theorem fromCache_handlerGetTotalValue (hpool : IsPool handler) {excludedTokens : List String}
    {value : Option BigNumber}
    (h : (handlerGetTotalValue ctx handler excludedTokens).fromCache ledger cached =
      some (.ok value)) : value = poolValue ctx handler cached excludedTokens := by
  unfold handlerGetTotalValue at h
  unfold IsPool at hpool
  split at hpool
  · next hkind =>
      rw [hkind] at h
      exact fromCache_univ2_getTotalValue hkind h
  · next hkind =>
      rw [hkind] at h
      exact fromCache_balancer_getTotalValue hkind h
  · next hkind =>
      rw [hkind] at h
      exact fromCache_kodiak_getTotalValue hkind h
  · exact hpool.elim

theorem poolValue_of_inactive {excludedTokens : List String} (h : ctx.isActive handler = false) :
    poolValue ctx handler cached excludedTokens = none := by
  simp [poolValue, hasPoolState, h]

/-- What the handlers without a check of the total value divide. -/
theorem fromCache_total_div_supply (hkodiak : isKodiak handler = false) {value : Option BigNumber}
    (h : ((match poolValue ctx handler cached [] with
      | none => .ret none
      | some totalValue => do
          let supplyEntity ← readErc20Supply (poolToken handler)
          match supplyEntity with
          | none => .ret none
          | some totalSupply =>
              let supply := toDecimal totalSupply (ctx.decimals (poolToken handler))
              .ret (if supply.eq 0 then none else some (totalValue.div supply)) :
        PricingProg (Option BigNumber))).fromCache ledger cached = some (.ok value)) :
    value = poolUnitPrice ctx handler cached ledger := by
  unfold poolUnitPrice poolSupply
  cases hvalue : poolValue ctx handler cached [] with
  | none =>
      obtain rfl : none = value := by simpa [hvalue] using h
      rfl
  | some total =>
      simp only [hvalue] at h
      obtain ⟨supply, hsupply, h⟩ := Prog.fromCache_bind_ok_iff.mp h
      obtain rfl : ledger (.erc20Supply (poolToken handler)) = supply := by
        simpa [readErc20Supply] using hsupply
      rw [hkodiak]
      cases hread : ledger (.erc20Supply (poolToken handler)) with
      | none =>
          obtain rfl : none = value := by simpa [hread] using h
          rfl
      | some supply =>
          simp only [hread, Prog.fromCache_ret, Option.some.injEq, Except.ok.injEq] at h
          rw [← h]
          simp

theorem fromCache_univ2_getUnitPrice (hkind : handler.kind = .univ2) {value : Option BigNumber}
    (h : (Univ2.getUnitPrice ctx handler).fromCache ledger cached = some (.ok value)) :
    value = poolUnitPrice ctx handler cached ledger := by
  unfold Univ2.getUnitPrice at h
  cases hactive : ctx.isActive handler with
  | false =>
      obtain rfl : none = value := by simpa [hactive] using h
      simp [poolUnitPrice, poolValue_of_inactive hactive]
  | true =>
      simp only [hactive, Bool.not_true, Bool.false_eq_true, if_false] at h
      obtain ⟨total, htotal, h⟩ := Prog.fromCache_bind_ok_iff.mp h
      rw [fromCache_univ2_getTotalValue hkind htotal] at h
      have htoken : handler.id = poolToken handler := by rw [poolToken, hkind]
      rw [htoken] at h
      exact fromCache_total_div_supply (by rw [isKodiak, hkind]) h

theorem fromCache_balancer_getUnitPrice {vault : String} (hkind : handler.kind = .balancer vault)
    {value : Option BigNumber}
    (h : (Balancer.getUnitPrice ctx handler).fromCache ledger cached = some (.ok value)) :
    value = poolUnitPrice ctx handler cached ledger := by
  unfold Balancer.getUnitPrice at h
  cases hactive : ctx.isActive handler with
  | false =>
      obtain rfl : none = value := by simpa [hactive] using h
      simp [poolUnitPrice, poolValue_of_inactive hactive]
  | true =>
      simp only [hactive, Bool.not_true, Bool.false_eq_true, if_false] at h
      obtain ⟨total, htotal, h⟩ := Prog.fromCache_bind_ok_iff.mp h
      rw [fromCache_balancer_getTotalValue hkind htotal] at h
      have htoken : Balancer.bptAddressFromPoolId handler.id = poolToken handler := by
        rw [poolToken, hkind]
      rw [htoken] at h
      exact fromCache_total_div_supply (by rw [isKodiak, hkind]) h

theorem toDecimal_zero (decimals : ℕ) : toDecimal 0 decimals = 0 := by
  have hten : (10 : ℚ) ^ decimals ≠ 0 := pow_ne_zero _ (by norm_num)
  rw [toDecimal, ofInt, Int.cast_zero, finite_div_finite hten, zero_div, roundHalfUp_zero]
  rfl

theorem fromCache_kodiak_getUnitPrice {pool quoter : String} {rewardVault : Option String}
    (hkind : handler.kind = .kodiak pool quoter rewardVault) {value : Option BigNumber}
    (h : (Kodiak.getUnitPrice ctx handler pool).fromCache ledger cached = some (.ok value)) :
    value = poolUnitPrice ctx handler cached ledger := by
  unfold Kodiak.getUnitPrice at h
  have htoken : poolToken handler = pool := by rw [poolToken, hkind]
  have hkodiak : isKodiak handler = true := by rw [isKodiak, hkind]
  cases hactive : ctx.isActive handler with
  | false =>
      obtain rfl : none = value := by simpa [hactive] using h
      simp [poolUnitPrice, poolValue_of_inactive hactive]
  | true =>
      have hstate : hasPoolState ctx handler = true := by
        simp [hasPoolState, hactive, hkind]
      obtain ⟨total, hvalue⟩ : ∃ total, poolValue ctx handler cached [] = some total :=
        ⟨_, by rw [poolValue, if_pos hstate]⟩
      simp only [hactive, Bool.not_true, Bool.false_eq_true, if_false] at h
      obtain ⟨supply, hsupply, h⟩ := Prog.fromCache_bind_ok_iff.mp h
      obtain rfl : ledger (.erc20Supply pool) = supply := by
        simpa [readErc20Supply] using hsupply
      rw [poolUnitPrice, poolSupply, hvalue, htoken, hkodiak]
      cases hread : ledger (.erc20Supply pool) with
      | none =>
          obtain rfl : none = value := by simpa [hread] using h
          rfl
      | some supply =>
          simp only [hread] at h
          by_cases hzero : supply = 0
          · obtain rfl : none = value := by simpa [hzero] using h
            simp [hzero, toDecimal_zero, eq_zero_iff]
          · rw [if_neg hzero] at h
            by_cases hdecimal : (toDecimal supply (ctx.decimals pool)).eq 0
            · obtain rfl : none = value := by simpa [hdecimal] using h
              simp [hdecimal]
            · simp only [hdecimal, Bool.false_eq_true, if_false] at h
              obtain ⟨found, htotal, h⟩ := Prog.fromCache_bind_ok_iff.mp h
              rw [fromCache_kodiak_getTotalValue hkind htotal, hvalue] at h
              simp only [Prog.fromCache_ret, Option.some.injEq, Except.ok.injEq] at h
              rw [← h]
              simp [hdecimal]

/-- A unit price is the value of the pool over the cached prices by its token's supply. -/
theorem fromCache_handlerGetUnitPrice (hpool : IsPool handler) {value : Option BigNumber}
    (h : (handlerGetUnitPrice ctx handler).fromCache ledger cached = some (.ok value)) :
    value = poolUnitPrice ctx handler cached ledger := by
  unfold handlerGetUnitPrice at h
  unfold IsPool at hpool
  split at hpool
  · next hkind =>
      rw [hkind] at h
      exact fromCache_univ2_getUnitPrice hkind h
  · next hkind =>
      rw [hkind] at h
      exact fromCache_balancer_getUnitPrice hkind h
  · next hkind =>
      rw [hkind] at h
      exact fromCache_kodiak_getUnitPrice hkind h
  · exact hpool.elim

end evaluation

/-! ### One pricing cache -/

def IsPriceKey (key : PricingKey) : Prop := ∃ token currentPool, key = .price token currentPool

/-- Lookups ask for prices only. -/
theorem within_pricingLookup (ctx : PricingContext) (key : PricingKey) :
    (pricingLookup ctx key).Within (fun _ => True) IsPriceKey := by
  have hasked {handler : LiquidityHandler} {α : Type} {p : PricingProg α}
      (hp : p.Within (ReadBy handler) (AskedBy ctx handler)) :
      p.Within (fun _ => True) IsPriceKey := by
    refine hp.mono (fun _ _ => trivial) ?_
    rintro key ⟨token, -, rfl | rfl⟩
    · exact ⟨token, none, rfl⟩
    · exact ⟨token, some handler.id, rfl⟩
  cases key with
  | price token currentPool =>
      refine (within_price ctx token currentPool).mono (fun _ _ => trivial) ?_
      intro key hkey
      exact exists_of_mem_askedKeys hkey
  | totalValue handler excludedTokens =>
      exact (hasked (within_handlerGetTotalValue ctx handler excludedTokens)).bind
        (fun _ => trivial)
  | unitPrice handler =>
      exact (hasked (within_handlerGetUnitPrice ctx handler)).bind (fun _ => trivial)

abbrev PricingSession := Session LedgerKey PricingKey PricingValue

section session

variable {ctx : PricingContext} {ledger : LedgerKey → Option ℤ} {handler : LiquidityHandler}
  {s : PricingSession}

theorem pricing_settled (hs : (pricingService ctx ledger).Reached s) :
    (pricingService ctx ledger).Settled IsPriceKey s :=
  hs.settled (within_pricingLookup ctx)

theorem poolValue_sortedTokens (cached : PricingKey → Option PricingValue)
    (excludedTokens : List String) :
    poolValue ctx handler cached (sortedTokens excludedTokens) =
      poolValue ctx handler cached excludedTokens := by
  have hcontains (token : String) :
      (sortedTokens excludedTokens).contains token = excludedTokens.contains token := by
    rw [Bool.eq_iff_iff, List.contains_iff_mem, List.contains_iff_mem, mem_sortedTokens]
  simp only [poolValue, hcontains]

/-- A total value that a session holds is the value of the pool over the prices it holds. -/
theorem value_of_getTotalValue (hs : (pricingService ctx ledger).Settled IsPriceKey s)
    (hpool : IsPool handler) {excludedTokens : List String} {value : Option BigNumber}
    (h : (getTotalValue handler excludedTokens).fromCache ledger s.cached = some (.ok value)) :
    value = poolValue ctx handler s.cached excludedTokens := by
  obtain ⟨found, hfound, h⟩ := Option.bind_eq_some_iff.mp h
  have hkey : ¬IsPriceKey (.totalValue handler (sortedTokens excludedTokens)) := by
    rintro ⟨token, currentPool, heq⟩
    exact nomatch heq
  obtain ⟨result, hresult, hret⟩ := Prog.fromCache_bind_ok_iff.mp (hs _ found hkey hfound)
  obtain rfl : PricingValue.value result = found := by simpa using hret
  obtain rfl : result = value := by simpa using h
  rw [fromCache_handlerGetTotalValue hpool hresult, poolValue_sortedTokens]

theorem value_of_getUnitPrice (hs : (pricingService ctx ledger).Settled IsPriceKey s)
    (hpool : IsPool handler) {value : Option BigNumber}
    (h : (getUnitPrice handler).fromCache ledger s.cached = some (.ok value)) :
    value = poolUnitPrice ctx handler s.cached ledger := by
  obtain ⟨found, hfound, h⟩ := Option.bind_eq_some_iff.mp h
  have hkey : ¬IsPriceKey (.unitPrice handler) := by
    rintro ⟨token, currentPool, heq⟩
    exact nomatch heq
  obtain ⟨result, hresult, hret⟩ := Prog.fromCache_bind_ok_iff.mp (hs _ found hkey hfound)
  obtain rfl : PricingValue.value result = found := by simpa using hret
  obtain rfl : result = value := by simpa using h
  exact fromCache_handlerGetUnitPrice hpool hresult

/-! ### Non-negative pools -/

/-- A pool with non-negative reserves, whose tokens have non-negative prices in the session. -/
structure NonnegPool (ctx : PricingContext) (handler : LiquidityHandler) (s : PricingSession) :
    Prop where
  reserves : ∀ reserve ∈ poolReserves ctx handler, 0 ≤ reserve
  prices : ∀ token ∈ tokensAskedBy ctx handler, ∀ result,
    s.cached (.price token (pricedFrom handler)) = some (.quote result) → result.price.Nonneg

theorem toDecimal_nonneg {value : ℤ} (h : 0 ≤ value) (decimals : ℕ) :
    (toDecimal value decimals).Nonneg := by
  have hten : (0 : ℚ) < 10 ^ decimals := pow_pos (by norm_num) _
  rw [toDecimal, ofInt, finite_div_finite hten.ne', nonneg_finite]
  exact roundHalfUp_nonneg (div_nonneg (by exact_mod_cast h) hten.le)

theorem exists_of_mem_poolLegs {leg : String × BigNumber} (h : leg ∈ poolLegs ctx handler) :
    leg.1 ∈ tokensAskedBy ctx handler ∧ ∃ reserve decimals,
      (reserve = 0 ∨ reserve ∈ poolReserves ctx handler) ∧ leg.2 = toDecimal reserve decimals := by
  have hpair {token0 token1 : String} {rest : List String} {reserve0 reserve1 : ℤ}
      (hsorted : sortedTokens handler.tokens = token0 :: token1 :: rest)
      (hreserves : poolReserves ctx handler = [reserve0, reserve1])
      (hasked : tokensAskedBy ctx handler = handler.tokens)
      (hleg : leg = (token0, toDecimal reserve0 (ctx.decimals token0)) ∨
        leg = (token1, toDecimal reserve1 (ctx.decimals token1))) :
      leg.1 ∈ tokensAskedBy ctx handler ∧ ∃ reserve decimals,
        (reserve = 0 ∨ reserve ∈ poolReserves ctx handler) ∧
          leg.2 = toDecimal reserve decimals := by
    rw [hasked, hreserves, ← mem_sortedTokens, hsorted]
    rcases hleg with rfl | rfl
    · exact ⟨by simp, reserve0, _, by simp, rfl⟩
    · exact ⟨by simp, reserve1, _, by simp, rfl⟩
  unfold poolLegs at h
  split at h
  · next hkind =>
      split at h
      · next hsorted hreserves =>
          refine hpair hsorted hreserves (by rw [tokensAskedBy, hkind]) ?_
          simpa using h
      · simp at h
  · next hkind =>
      split at h
      · next hsorted hreserves =>
          refine hpair hsorted hreserves (by rw [tokensAskedBy, hkind]) ?_
          simpa using h
      · simp at h
  · obtain ⟨⟨token, i⟩, htoken, rfl⟩ := List.mem_map.mp h
    refine ⟨List.fst_mem_of_mem_zipIdx htoken, _, _, ?_, rfl⟩
    by_cases hi : i < (poolReserves ctx handler).length
    · right
      rw [List.getD_eq_getElem _ _ hi]
      exact List.getElem_mem hi
    · left
      rw [List.getD_eq_default _ _ (not_lt.mp hi)]
  · simp at h

theorem NonnegPool.legValue (h : NonnegPool ctx handler s) {leg : String × BigNumber}
    (hleg : leg ∈ poolLegs ctx handler) : (legValue handler s.cached leg).Nonneg := by
  obtain ⟨htoken, reserve, decimals, hreserve, hvalue⟩ := exists_of_mem_poolLegs hleg
  have hbalance : leg.2.Nonneg := by
    rw [hvalue]
    apply toDecimal_nonneg
    rcases hreserve with rfl | hreserve
    · exact le_refl 0
    · exact h.reserves reserve hreserve
  refine hbalance.times ?_
  unfold priceIn
  split
  · next result hcached => exact h.prices _ htoken result hcached
  · exact nonneg_zero

theorem NonnegPool.poolValue (h : NonnegPool ctx handler s) {excludedTokens : List String}
    {value : BigNumber} (hvalue : poolValue ctx handler s.cached excludedTokens = some value) :
    value.Nonneg := by
  unfold Pricing.poolValue at hvalue
  split at hvalue
  · obtain rfl := Option.some.inj hvalue
    apply Nonneg.sum
    intro x hx
    obtain ⟨leg, hleg, rfl⟩ := List.mem_map.mp hx
    exact h.legValue (List.mem_of_mem_filter hleg)
  · cases hvalue

end session

end OlympusMetrics.Pricing
