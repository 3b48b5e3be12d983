import OlympusMetrics.Indexer.PriceHandlers
import OlympusMetrics.Library.GivenAnswers
import OlympusMetrics.Library.HalfUp
import Mathlib.Tactic.NormNum

/-!
The quotes of concentrated-liquidity pools: for which pool states the Uniswap V3
and the Kodiak handler price both tokens.

The square-root price is squared and divided before the token decimals are
taken into account, and each division keeps twenty places.
-/

namespace OlympusMetrics.Pricing

open Lookup BigNumber

/-! ### The decimal adjustment -/

/-- What the two adjustments scale the price of `token1` by. -/
def decimalShift (decimals0 decimals1 : ℕ) : ℚ := 10 ^ ((decimals1 : ℤ) - decimals0)

theorem decimalShift_pos (decimals0 decimals1 : ℕ) : 0 < decimalShift decimals0 decimals1 :=
  zpow_pos (by norm_num) _

theorem decimalShift_inv (decimals0 decimals1 : ℕ) :
    (decimalShift decimals0 decimals1)⁻¹ = decimalShift decimals1 decimals0 := by
  simp only [decimalShift, ← zpow_neg, neg_sub]

variable {decimals0 decimals1 : ℕ}

/-- A power of ten with few places comes out of the division as it is. -/
theorem one_div_ten_pow {n : ℕ} (h : n ≤ decimalPlaces) :
    (1 : BigNumber).div (.finite (10 ^ n)) = .finite (10 ^ (-(n : ℤ))) := by
  have hten : (10 : ℚ) ^ n ≠ 0 := by positivity
  have hplaces : (1 / 10 ^ n : ℚ) * 10 ^ decimalPlaces = ((10 ^ (decimalPlaces - n) : ℤ) : ℚ) := by
    have hsum : decimalPlaces = n + (decimalPlaces - n) := by omega
    calc (1 / 10 ^ n : ℚ) * 10 ^ decimalPlaces
        = (1 / 10 ^ n : ℚ) * 10 ^ (n + (decimalPlaces - n)) := by rw [← hsum]
      _ = 10 ^ (decimalPlaces - n) := by rw [pow_add]; field_simp
      _ = ((10 ^ (decimalPlaces - n) : ℤ) : ℚ) := by push_cast; rfl
  rw [one_def, BigNumber.div, if_neg hten, roundHalfUp_eq_self hplaces, zpow_neg, zpow_natCast,
    one_div]

theorem decimalFactor_eq (lookupIsToken0 : Bool) (h0 : decimals0 ≤ 18) (h1 : decimals1 ≤ 18) :
    decimalFactor decimals0 decimals1 lookupIsToken0 =
      .finite (if lookupIsToken0 then (decimalShift decimals0 decimals1)⁻¹
        else decimalShift decimals0 decimals1) := by
  have hfactor (diff : ℤ) (hdiff : diff.natAbs ≤ 18) :
      (if diff < 0 then (1 : BigNumber).div (.finite (10 ^ diff.natAbs))
        else .finite (10 ^ diff.natAbs)) = .finite (10 ^ diff) := by
    split
    · have hneg : diff = -(diff.natAbs : ℤ) := by omega
      have hplaces : diff.natAbs ≤ decimalPlaces := by
        show diff.natAbs ≤ 20
        omega
      rw [one_div_ten_pow hplaces, ← hneg]
    · have hpos : diff = (diff.natAbs : ℤ) := by omega
      rw [← zpow_natCast, ← hpos]
  cases lookupIsToken0 with
  | true =>
      rw [if_pos rfl, decimalShift_inv]
      exact hfactor _ (by simp only [if_true]; omega)
  | false => exact hfactor _ (by simp only [Bool.false_eq_true, if_false]; omega)

/-- The largest raw price whose reciprocal and whose scaled reciprocal do not vanish. -/
def priceBound (decimals0 decimals1 : ℕ) : ℚ :=
  2 * 10 ^ 20 * min 1 (decimalShift decimals0 decimals1)

theorem le_priceBound_iff {r : ℚ} : r ≤ priceBound decimals0 decimals1 ↔
    r ≤ 2 * 10 ^ 20 ∧ r ≤ 2 * 10 ^ 20 * decimalShift decimals0 decimals1 := by
  rw [priceBound, mul_min_of_nonneg _ _ (by norm_num), mul_one, le_min_iff]

/-- The bound itself has no more places than a division keeps. -/
theorem priceBound_eq (decimals1 : ℕ) (h : decimals0 ≤ 18) :
    ∃ n : ℤ, (n : ℚ) / 10 ^ decimalPlaces = priceBound decimals0 decimals1 := by
  have hten : (10 : ℚ) ^ decimalPlaces ≠ 0 := by positivity
  rcases le_total decimals0 decimals1 with hle | hle
  · have hone : 1 ≤ decimalShift decimals0 decimals1 := by
      apply one_le_zpow₀
      · norm_num
      · omega
    refine ⟨2 * 10 ^ 40, ?_⟩
    rw [priceBound, min_eq_left hone]
    norm_num [decimalPlaces]
  · have hshift : decimalShift decimals0 decimals1 * 10 ^ (decimals0 - decimals1) = 1 := by
      rw [decimalShift, ← zpow_natCast, ← zpow_add₀ (by norm_num)]
      rw [show (decimals1 : ℤ) - decimals0 + (decimals0 - decimals1 : ℕ) = 0 by omega]
      rfl
    have hone : decimalShift decimals0 decimals1 ≤ 1 := by
      apply zpow_le_one_of_nonpos₀
      · norm_num
      · omega
    refine ⟨2 * 10 ^ (40 - (decimals0 - decimals1)), ?_⟩
    rw [priceBound, min_eq_right hone, div_eq_iff hten]
    have hsum : 40 = 40 - (decimals0 - decimals1) + (decimals0 - decimals1) := by omega
    calc ((2 * 10 ^ (40 - (decimals0 - decimals1)) : ℤ) : ℚ)
        = 2 * 10 ^ (40 - (decimals0 - decimals1)) *
            (decimalShift decimals0 decimals1 * 10 ^ (decimals0 - decimals1)) := by
          rw [hshift]; push_cast; ring
      _ = 2 * 10 ^ (40 - (decimals0 - decimals1) + (decimals0 - decimals1)) *
            decimalShift decimals0 decimals1 := by rw [pow_add]; ring
      _ = 2 * 10 ^ 20 * decimalShift decimals0 decimals1 * 10 ^ decimalPlaces := by
          rw [← hsum, decimalPlaces]; ring

/-- A division by the raw price vanishes when the raw price is too large. -/
theorem div_rounds_pos_iff {r f : ℚ} (hr : 0 < r) (hf : 0 < f) :
    0 < roundHalfUp decimalPlaces (f / r) ↔ r ≤ 2 * 10 ^ 20 * f := by
  rw [roundHalfUp_pos_iff (by positivity), le_div_iff₀ hr]
  have hunit : halfUnit decimalPlaces = 1 / (2 * 10 ^ 20) := by
    unfold halfUnit decimalPlaces
    norm_num
  rw [hunit, div_mul_eq_mul_div, one_mul, div_le_iff₀ (by norm_num), mul_comm f]

/-! ### The raw price -/

/-- The square of the square-root price, before rounding. -/
def exactPrice (sqrtPriceX96 : ℤ) : ℚ := (sqrtPriceX96 : ℚ) * sqrtPriceX96 / 2 ^ 192

theorem exactPrice_nonneg (sqrtPriceX96 : ℤ) : 0 ≤ exactPrice sqrtPriceX96 := by
  unfold exactPrice
  have hsquare := mul_self_nonneg (sqrtPriceX96 : ℚ)
  positivity

/-- The raw price as both handlers round it. -/
def rawPrice (sqrtPriceX96 : ℤ) : ℚ := roundHalfUp decimalPlaces (exactPrice sqrtPriceX96)

theorem rawPrice_le_priceBound_iff (sqrtPriceX96 : ℤ) (h : decimals0 ≤ 18) :
    rawPrice sqrtPriceX96 ≤ priceBound decimals0 decimals1 ↔
      exactPrice sqrtPriceX96 < priceBound decimals0 decimals1 + halfUnit decimalPlaces := by
  obtain ⟨n, hn⟩ := priceBound_eq decimals1 h
  rw [← hn]
  exact roundHalfUp_le_iff (exactPrice_nonneg sqrtPriceX96) n

theorem priceToken0InToken1_eq (sqrtPriceX96 : ℤ) :
    priceToken0InToken1 sqrtPriceX96 = .finite (rawPrice sqrtPriceX96) := by
  have hpow : (2 ^ 192 : ℚ) ≠ 0 := by positivity
  unfold priceToken0InToken1
  simp only [ofInt, finite_times_finite, BigNumber.div, if_neg hpow]
  rfl

variable {r : ℚ}

theorem univ3_adjustment_token0 (h0 : decimals0 ≤ 18) (h1 : decimals1 ≤ 18) :
    Univ3.applyDecimalAdjustment (.finite r) decimals0 decimals1 true =
      .finite (r * (decimalShift decimals0 decimals1)⁻¹) := by
  rw [Univ3.applyDecimalAdjustment, decimalFactor_eq true h0 h1]
  simp

theorem kodiak_adjustment_token0 (h0 : decimals0 ≤ 18) (h1 : decimals1 ≤ 18) :
    Kodiak.applyDecimalAdjustment (.finite r) decimals0 decimals1 true =
      .finite (r * (decimalShift decimals0 decimals1)⁻¹) := by
  rw [Kodiak.applyDecimalAdjustment, decimalFactor_eq true h0 h1]
  simp [mul_comm]

theorem univ3_adjustment_token1 (h0 : decimals0 ≤ 18) (h1 : decimals1 ≤ 18) (hr : r ≠ 0) :
    Univ3.applyDecimalAdjustment (.finite r) decimals0 decimals1 false =
      .finite (roundHalfUp decimalPlaces (decimalShift decimals0 decimals1 / r)) := by
  rw [Univ3.applyDecimalAdjustment, decimalFactor_eq false h0 h1]
  simp [BigNumber.div, hr]

theorem kodiak_adjustment_token1 (h0 : decimals0 ≤ 18) (h1 : decimals1 ≤ 18) (hr : r ≠ 0) :
    Kodiak.applyDecimalAdjustment (.finite r) decimals0 decimals1 false =
      .finite (decimalShift decimals0 decimals1 * roundHalfUp decimalPlaces (1 / r)) := by
  rw [Kodiak.applyDecimalAdjustment, decimalFactor_eq false h0 h1]
  simp [BigNumber.div, hr]

/-! ### The quotes -/

/-- A handler's quote of a token: a finite positive price. -/
def QuotesAt (answer : LedgerKey → Option ℤ) (value : PricingKey → PricingValue)
    (quote : PricingProg (Option PriceLookupResult)) (price : ℚ) : Prop :=
  0 < price ∧ ∃ liquidity, quote.given answer value = .ok (some ⟨.finite price, liquidity⟩)

section quotes

variable (ctx : PricingContext) (adjust : BigNumber → ℕ → ℕ → Bool → BigNumber)
  (answer : LedgerKey → Option ℤ) {value : PricingKey → PricingValue}
  {handler : LiquidityHandler} {state : Univ3PoolState} {token0 token1 : String}

/-- A priced pool state quotes a token with the price of the other one. -/
theorem concentratedPrice_given (token : String) {secondary : PriceLookupResult}
    (hstate : state.sqrtPriceX96 ≠ 0) (htokens : sortedTokens handler.tokens = [token0, token1])
    (hsecondary : value (.price (if token == token0 then token1 else token0) (some handler.id)) =
      .quote secondary) (hprice : secondary.price.eq 0 = false) :
    (concentratedPrice ctx handler adjust (some state) token).given answer value =
      .ok (some
        { price := (adjust (priceToken0InToken1 state.sqrtPriceX96) (ctx.decimals token0)
            (ctx.decimals token1) (token == token0)).times secondary.price
          liquidity := BigNumber.ofInt state.liquidity }) := by
  have hlookup : (priceLookup (if token == token0 then token1 else token0)
      (some handler.id)).given answer value = .ok secondary := by
    simp only [priceLookup, Prog.given_ask, hsecondary, Prog.given_ret]
  simp only [concentratedPrice, if_neg hstate, sortTokens, htokens, Prog.ret_bind]
  rw [Prog.given_bind_ok hlookup]
  simp [hprice]

end quotes

/-- A Uniswap V3 handler and a Kodiak handler over one pool state in the legal range. -/
structure SamePool (ctx : PricingContext) where
  univ3 : LiquidityHandler
  kodiak : LiquidityHandler
  pool : String
  state : Univ3PoolState
  token0 : String
  token1 : String
  univ3_active : ctx.isActive univ3 = true
  kodiak_active : ctx.isActive kodiak = true
  univ3_state : ctx.view.univ3PoolState univ3.id = some state
  kodiak_state : Kodiak.getUnderlyingState ctx pool = some state
  univ3_tokens : sortedTokens univ3.tokens = [token0, token1]
  kodiak_tokens : sortedTokens kodiak.tokens = [token0, token1]
  tokens_ne : token1 ≠ token0
  legal : 4295128739 ≤ state.sqrtPriceX96 ∧
    state.sqrtPriceX96 < 1461446703485210103287273052203988822378723970342
  decimals0_le : ctx.decimals token0 ≤ 18
  decimals1_le : ctx.decimals token1 ≤ 18

/-- Positive prices that both handlers look up for the other token of the pair. -/
structure SecondaryPrices {ctx : PricingContext} (p : SamePool ctx)
    (value : PricingKey → PricingValue) where
  price0 : ℚ
  price1 : ℚ
  pos0 : 0 < price0
  pos1 : 0 < price1
  answered0 : ∀ handler ∈ [p.univ3, p.kodiak], ∃ liquidity,
    value (.price p.token0 (some handler.id)) = .quote ⟨.finite price0, liquidity⟩
  answered1 : ∀ handler ∈ [p.univ3, p.kodiak], ∃ liquidity,
    value (.price p.token1 (some handler.id)) = .quote ⟨.finite price1, liquidity⟩

namespace SamePool

variable {ctx : PricingContext} (p : SamePool ctx)

/-- What the prices of `token1` are scaled by. -/
def shift : ℚ := decimalShift (ctx.decimals p.token0) (ctx.decimals p.token1)

def raw : ℚ := rawPrice p.state.sqrtPriceX96

theorem shift_pos : 0 < p.shift := decimalShift_pos _ _

theorem sqrtPriceX96_ne : p.state.sqrtPriceX96 ≠ 0 := by
  have hlegal := p.legal.1
  omega

theorem token1_beq : (p.token1 == p.token0) = false := beq_false_of_ne p.tokens_ne

variable {value : PricingKey → PricingValue} (s : SecondaryPrices p value)
  {answer : LedgerKey → Option ℤ}

section token

variable {handler : LiquidityHandler} {adjust : BigNumber → ℕ → ℕ → Bool → BigNumber} {q : ℚ}

/-- What the adjustment of the raw price gives, for one direction. -/
def adjusted (adjust : BigNumber → ℕ → ℕ → Bool → BigNumber) (lookupIsToken0 : Bool) : BigNumber :=
  adjust (.finite p.raw) (ctx.decimals p.token0) (ctx.decimals p.token1) lookupIsToken0

theorem quotesAt_token0 (hmem : handler ∈ [p.univ3, p.kodiak])
    (htokens : sortedTokens handler.tokens = [p.token0, p.token1]) :
    QuotesAt answer value (concentratedPrice ctx handler adjust (some p.state) p.token0) q ↔
      0 < q ∧ (p.adjusted adjust true).times (.finite s.price1) = .finite q := by
  obtain ⟨liquidity, hanswer⟩ := s.answered1 handler hmem
  have hprice : (BigNumber.finite s.price1).eq 0 = false := by
    simp [BigNumber.eq, zero_def, s.pos1.ne']
  have hgiven := concentratedPrice_given ctx adjust answer p.token0
    p.sqrtPriceX96_ne htokens (by rw [beq_self_eq_true, if_pos rfl]; exact hanswer) hprice
  rw [beq_self_eq_true, priceToken0InToken1_eq] at hgiven
  unfold QuotesAt
  rw [hgiven]
  simp [adjusted, raw]

theorem quotesAt_token1 (hmem : handler ∈ [p.univ3, p.kodiak])
    (htokens : sortedTokens handler.tokens = [p.token0, p.token1]) :
    QuotesAt answer value (concentratedPrice ctx handler adjust (some p.state) p.token1) q ↔
      0 < q ∧ (p.adjusted adjust false).times (.finite s.price0) = .finite q := by
  obtain ⟨liquidity, hanswer⟩ := s.answered0 handler hmem
  have hprice : (BigNumber.finite s.price0).eq 0 = false := by
    simp [BigNumber.eq, zero_def, s.pos0.ne']
  have hgiven := concentratedPrice_given ctx adjust answer p.token1
    p.sqrtPriceX96_ne htokens (by rw [p.token1_beq]; exact hanswer) hprice
  rw [p.token1_beq, priceToken0InToken1_eq] at hgiven
  unfold QuotesAt
  rw [hgiven]
  simp [adjusted, raw]

end token

theorem univ3_getPrice (token : String) : Univ3.getPrice ctx p.univ3 token =
    concentratedPrice ctx p.univ3 Univ3.applyDecimalAdjustment (some p.state) token := by
  simp [Univ3.getPrice, p.univ3_active, p.univ3_state]

theorem kodiak_getPrice (token : String) : Kodiak.getPrice ctx p.kodiak p.pool token =
    concentratedPrice ctx p.kodiak Kodiak.applyDecimalAdjustment (some p.state) token := by
  simp [Kodiak.getPrice, p.kodiak_active, p.kodiak_state]

variable {q : ℚ}

/-- The price that both handlers give `token0`. -/
theorem univ3_token0 : QuotesAt answer value (Univ3.getPrice ctx p.univ3 p.token0) q ↔
    0 < q ∧ p.raw * p.shift⁻¹ * s.price1 = q := by
  rw [univ3_getPrice, p.quotesAt_token0 s (by simp) p.univ3_tokens, adjusted,
    univ3_adjustment_token0 p.decimals0_le p.decimals1_le]
  simp [shift]

theorem kodiak_token0 : QuotesAt answer value (Kodiak.getPrice ctx p.kodiak p.pool p.token0) q ↔
    0 < q ∧ p.raw * p.shift⁻¹ * s.price1 = q := by
  rw [kodiak_getPrice, p.quotesAt_token0 s (by simp) p.kodiak_tokens, adjusted,
    kodiak_adjustment_token0 p.decimals0_le p.decimals1_le]
  simp [shift]

/-- The price that the Uniswap V3 handler gives `token1`: one division of the scale. -/
theorem univ3_token1 (hraw : p.raw ≠ 0) :
    QuotesAt answer value (Univ3.getPrice ctx p.univ3 p.token1) q ↔
      0 < q ∧ roundHalfUp decimalPlaces (p.shift / p.raw) * s.price0 = q := by
  rw [univ3_getPrice, p.quotesAt_token1 s (by simp) p.univ3_tokens, adjusted,
    univ3_adjustment_token1 p.decimals0_le p.decimals1_le hraw]
  simp [shift]

/-- The price that the Kodiak handler gives `token1`: a reciprocal that is scaled afterwards. -/
theorem kodiak_token1 (hraw : p.raw ≠ 0) :
    QuotesAt answer value (Kodiak.getPrice ctx p.kodiak p.pool p.token1) q ↔
      0 < q ∧ p.shift * roundHalfUp decimalPlaces (1 / p.raw) * s.price0 = q := by
  rw [kodiak_getPrice, p.quotesAt_token1 s (by simp) p.kodiak_tokens, adjusted,
    kodiak_adjustment_token1 p.decimals0_le p.decimals1_le hraw]
  simp [shift]

/-- Both handlers quote both tokens with finite positive prices, the two directions of each are
reciprocal, and the handlers agree, up to the rounding of the last division. -/
structure UsablePrices (answer : LedgerKey → Option ℤ)
    (univ3Price0 univ3Price1 kodiakPrice0 kodiakPrice1 : ℚ) : Prop where
  univ3_quotes0 : QuotesAt answer value (Univ3.getPrice ctx p.univ3 p.token0) univ3Price0
  univ3_quotes1 : QuotesAt answer value (Univ3.getPrice ctx p.univ3 p.token1) univ3Price1
  kodiak_quotes0 : QuotesAt answer value (Kodiak.getPrice ctx p.kodiak p.pool p.token0) kodiakPrice0
  kodiak_quotes1 : QuotesAt answer value (Kodiak.getPrice ctx p.kodiak p.pool p.token1) kodiakPrice1
  univ3_reciprocal :
    |univ3Price1 / s.price0 - s.price1 / univ3Price0| ≤ halfUnit decimalPlaces
  kodiak_reciprocal :
    |kodiakPrice1 / s.price0 - s.price1 / kodiakPrice0| ≤ p.shift * halfUnit decimalPlaces
  agree0 : univ3Price0 = kodiakPrice0
  agree1 : |univ3Price1 - kodiakPrice1| ≤ (1 + p.shift) * halfUnit decimalPlaces * s.price0

/-- The square of the square-root price survives its rounding, and so do the reciprocals. -/
def WithinPlaces : Prop :=
  halfUnit decimalPlaces ≤ exactPrice p.state.sqrtPriceX96 ∧
    exactPrice p.state.sqrtPriceX96 <
      priceBound (ctx.decimals p.token0) (ctx.decimals p.token1) + halfUnit decimalPlaces

theorem withinPlaces_iff : p.WithinPlaces ↔
    0 < p.raw ∧ 0 < roundHalfUp decimalPlaces (p.shift / p.raw) ∧
      0 < roundHalfUp decimalPlaces (1 / p.raw) := by
  unfold WithinPlaces
  rw [← roundHalfUp_pos_iff (exactPrice_nonneg _), ← rawPrice_le_priceBound_iff _ p.decimals0_le,
    le_priceBound_iff]
  show 0 < p.raw ∧ p.raw ≤ 2 * 10 ^ 20 ∧ p.raw ≤ 2 * 10 ^ 20 * p.shift ↔ _
  refine and_congr_right (fun hraw => ?_)
  rw [div_rounds_pos_iff hraw p.shift_pos, div_rounds_pos_iff hraw one_pos, mul_one, and_comm]

/-- Within the places the four quotes are usable. -/
theorem usablePrices_of_withinPlaces (answer : LedgerKey → Option ℤ) (h : p.WithinPlaces) :
    p.UsablePrices s answer (p.raw * p.shift⁻¹ * s.price1)
      (roundHalfUp decimalPlaces (p.shift / p.raw) * s.price0) (p.raw * p.shift⁻¹ * s.price1)
      (p.shift * roundHalfUp decimalPlaces (1 / p.raw) * s.price0) := by
  obtain ⟨hraw, hscaled, hplain⟩ := p.withinPlaces_iff.mp h
  have hshift := p.shift_pos
  have h0 := s.pos0
  have h1 := s.pos1
  have hinverse : s.price1 / (p.raw * p.shift⁻¹ * s.price1) = p.shift / p.raw := by
    field_simp
  have herror := @abs_roundHalfUp_sub_le decimalPlaces (p.shift / p.raw)
  have hplainError : |p.shift * roundHalfUp decimalPlaces (1 / p.raw) - p.shift / p.raw| ≤
      p.shift * halfUnit decimalPlaces := by
    rw [div_eq_mul_one_div p.shift, ← mul_sub, abs_mul, abs_of_pos hshift]
    exact mul_le_mul_of_nonneg_left (abs_roundHalfUp_sub_le _) hshift.le
  constructor
  case univ3_quotes0 => exact (p.univ3_token0 s).mpr ⟨by positivity, rfl⟩
  case univ3_quotes1 => exact (p.univ3_token1 s hraw.ne').mpr ⟨by positivity, rfl⟩
  case kodiak_quotes0 => exact (p.kodiak_token0 s).mpr ⟨by positivity, rfl⟩
  case kodiak_quotes1 => exact (p.kodiak_token1 s hraw.ne').mpr ⟨by positivity, rfl⟩
  case univ3_reciprocal => rwa [hinverse, mul_div_assoc, div_self h0.ne', mul_one]
  case kodiak_reciprocal => rwa [hinverse, mul_div_assoc, div_self h0.ne', mul_one]
  case agree0 => rfl
  case agree1 =>
    rw [← sub_mul, abs_mul, abs_of_pos h0]
    apply mul_le_mul_of_nonneg_right _ h0.le
    have htriangle := abs_sub_le (roundHalfUp decimalPlaces (p.shift / p.raw)) (p.shift / p.raw)
      (p.shift * roundHalfUp decimalPlaces (1 / p.raw))
    rw [abs_sub_comm (p.shift / p.raw)] at htriangle
    linarith

/-- Both handlers price both tokens of a pool exactly if the raw price keeps a place and does not
exceed what its reciprocals keep. -/
theorem usablePrices_iff (answer : LedgerKey → Option ℤ) :
    (∃ univ3Price0 univ3Price1 kodiakPrice0 kodiakPrice1,
      p.UsablePrices s answer univ3Price0 univ3Price1 kodiakPrice0 kodiakPrice1) ↔
        p.WithinPlaces := by
  constructor
  · rintro ⟨u0, u1, k0, k1, h⟩
    have hshift := p.shift_pos
    obtain ⟨hpos, hu0⟩ := (p.univ3_token0 s).mp h.univ3_quotes0
    rw [← hu0, mul_assoc] at hpos
    have hraw : 0 < p.raw := by
      apply pos_of_mul_pos_left hpos
      have h1 := s.pos1
      positivity
    obtain ⟨hu1, rfl⟩ := (p.univ3_token1 s hraw.ne').mp h.univ3_quotes1
    obtain ⟨hk1, rfl⟩ := (p.kodiak_token1 s hraw.ne').mp h.kodiak_quotes1
    refine p.withinPlaces_iff.mpr ⟨hraw, pos_of_mul_pos_left hu1 s.pos0.le, ?_⟩
    have hk := pos_of_mul_pos_left hk1 s.pos0.le
    exact pos_of_mul_pos_right hk hshift.le
  · intro h
    exact ⟨_, _, _, _, p.usablePrices_of_withinPlaces s answer h⟩

end SamePool

/-! ### A pool at a given square-root price -/

def v3Handler : LiquidityHandler where
  kind := .univ3
  id := "v3"
  tokens := ["b", "a"]

def islandHandler : LiquidityHandler where
  kind := .kodiak "island" "v3" none
  id := "island"
  tokens := ["a", "b"]

def pairConfig : ChainConfig where
  chainId := .berachain
  blockchain := "Berachain"
  startBlock := 0
  tokens := []
  names := []
  abbreviations := []
  protocolAddresses := []
  circulatingSupplyWallets := []
  treasuryBlacklist := []
  ohmToken := "a"
  liquidityHandlers := [v3Handler, islandHandler]
  ownedLiquidityHandlers := []

def pairState (sqrtPriceX96 : ℤ) : Univ3PoolState where
  sqrtPriceX96 := sqrtPriceX96
  liquidity := 1

/-- Two tokens of eighteen decimals, and one pool with an island over it. -/
def pairContext (sqrtPriceX96 : ℤ) : PricingContext where
  config := pairConfig
  blockNumber := 1
  view :=
    { univ2PoolState := fun _ => none
      univ3PoolState := fun _ => some (pairState sqrtPriceX96)
      balancerPoolState := fun _ => none
      kodiakPool := fun _ => some "v3"
      ohmIndexState := fun _ => none
      readChainlinkLatestAnswer := fun _ => .error "execution reverted"
      readErc4626AssetsPerShare := fun _ _ => .error "execution reverted"
      snapshotCurvePool := fun _ _ _ => .error "execution reverted"
      snapshotFraxSwapPool := fun _ => .error "execution reverted"
      getWeightsAndDecimals := fun _ => .error "execution reverted"
      getUnderlyingBalances := fun _ => .error "execution reverted" }

def pairPool (sqrtPriceX96 : ℤ) (legal : 4295128739 ≤ sqrtPriceX96 ∧
    sqrtPriceX96 < 1461446703485210103287273052203988822378723970342) :
    SamePool (pairContext sqrtPriceX96) where
  univ3 := v3Handler
  kodiak := islandHandler
  pool := "island"
  state := pairState sqrtPriceX96
  token0 := "a"
  token1 := "b"
  univ3_active := rfl
  kodiak_active := rfl
  univ3_state := rfl
  kodiak_state := rfl
  univ3_tokens := by decide
  kodiak_tokens := by decide
  tokens_ne := by decide
  legal := legal
  decimals0_le := show getTokenDecimals [] "a" ≤ 18 by decide
  decimals1_le := show getTokenDecimals [] "b" ≤ 18 by decide

/-- Both tokens are worth a dollar elsewhere. -/
def oneDollar (_ : PricingKey) : PricingValue := .quote { price := 1, liquidity := 0 }

def pairPrices {ctx : PricingContext} (p : SamePool ctx) : SecondaryPrices p oneDollar where
  price0 := 1
  price1 := 1
  pos0 := one_pos
  pos1 := one_pos
  answered0 := fun _ _ => ⟨0, rfl⟩
  answered1 := fun _ _ => ⟨0, rfl⟩

/-- The lowest square-root price leaves a raw price of zero: one direction is quoted at zero and the
other at infinity. -/
theorem usablePrices_fail_at_lowest :
    (Univ3.getPrice (pairContext 4295128739) v3Handler "a").given (fun _ => none) oneDollar =
        .ok (some { price := 0, liquidity := 1 }) ∧
      (Univ3.getPrice (pairContext 4295128739) v3Handler "b").given (fun _ => none) oneDollar =
        .ok (some { price := .infinity false, liquidity := 1 }) ∧
      (Kodiak.getPrice (pairContext 4295128739) islandHandler "island" "a").given (fun _ => none)
        oneDollar = .ok (some { price := 0, liquidity := 1 }) ∧
      (Kodiak.getPrice (pairContext 4295128739) islandHandler "island" "b").given (fun _ => none)
        oneDollar = .ok (some { price := .infinity false, liquidity := 1 }) ∧
      ¬ ∃ univ3Price0 univ3Price1 kodiakPrice0 kodiakPrice1,
        (pairPool 4295128739 (by decide)).UsablePrices (pairPrices _) (fun _ => none) univ3Price0
          univ3Price1 kodiakPrice0 kodiakPrice1 := by
  have hlow : (Univ3.getPrice (pairContext 4295128739) v3Handler "a").given (fun _ => none)
      oneDollar = .ok (some { price := 0, liquidity := 1 }) := by
    decide +kernel
  refine ⟨hlow, by decide +kernel, by decide +kernel, by decide +kernel, ?_⟩
  rintro ⟨u0, u1, k0, k1, h⟩
  obtain ⟨hpos, liquidity, hquote⟩ := h.univ3_quotes0
  have hzero : (0 : BigNumber) = .finite u0 := by
    have heq := hlow.symm.trans hquote
    simp only [Except.ok.injEq, Option.some.injEq, PriceLookupResult.mk.injEq] at heq
    exact heq.1
  rw [zero_def, BigNumber.finite.injEq] at hzero
  exact absurd hzero hpos.ne

/-- At a square-root price of one the quotes are usable. -/
theorem usablePrices_at_one :
    ∃ univ3Price0 univ3Price1 kodiakPrice0 kodiakPrice1,
      (pairPool (2 ^ 96) (by decide)).UsablePrices (pairPrices _) (fun _ => none) univ3Price0
        univ3Price1 kodiakPrice0 kodiakPrice1 := by
  have hwithin : (pairPool (2 ^ 96) (by decide)).WithinPlaces := by
    unfold SamePool.WithinPlaces
    decide +kernel
  exact (SamePool.usablePrices_iff _ _ _).mpr hwithin

end OlympusMetrics.Pricing
