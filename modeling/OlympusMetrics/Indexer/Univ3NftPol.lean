import OlympusMetrics.Indexer.BlvSupply
import OlympusMetrics.Indexer.PoolSplits
import OlympusMetrics.Library.Grouping

/-!
Owned liquidity in Uniswap V3 NFTs: the positions of the protocol's wallets,
grouped by wallet and pool.

Each group gives one record, valued at the prices of its two tokens, and supply
rows that take the OHM in it off the supply.
-/

namespace OlympusMetrics.Pricing

open BigNumber Grouping Lookup

/-- The tokens and amounts of one position or of several in one pool. -/
structure PoolAgg where
  token0 : String
  token1 : String
  amount0 : BigNumber
  amount1 : BigNumber
  deriving DecidableEq

/-- A further position is added to the amounts; the tokens are those of the first. -/
def PoolAgg.merge (agg other : PoolAgg) : PoolAgg :=
  { agg with
    amount0 := agg.amount0.plus other.amount0
    amount1 := agg.amount1.plus other.amount1 }

def isUniv3 (handler : LiquidityHandler) : Bool := handler.kind == .univ3

/-- The key of a pool in `univ3Pools`: its first two tokens in order. -/
def handlerPairKey (handler : LiquidityHandler) : List String :=
  sortedTokens (((handler.tokens.take 2).map lowerCase).filter (· ≠ ""))

section

variable (ctx : PricingContext)
  -- `univ3PositionAmounts` computes with floating-point numbers.
  (univ3PositionAmounts : ℕ → ℤ → ℤ → ℤ → ℤ × ℤ)
  (snapshotUniv3NftPositions : String → Except String (List Effects.NftPosition))
  (timestamp : ℕ)

/-- The lookup in `univ3Pools`, where the last handler of a pair is kept. -/
def univ3PoolOf (pairKey : List String) : Option String :=
  ((ctx.config.liquidityHandlers.filter isUniv3).reverse.find?
    (fun handler => handlerPairKey handler == pairKey)).map (·.id)

/-- The pool that a position counts for, and its amounts; none where the pool is not known or has
no price yet. -/
def matchPosition (position : Effects.NftPosition) : Option (String × PoolAgg) :=
  match univ3PoolOf ctx (sortedTokens [position.token0, position.token1]) with
  | none => none
  | some poolId =>
      match ctx.view.univ3PoolState poolId with
      | none => none
      | some state =>
          if state.sqrtPriceX96 = 0 then none
          else
            let amounts := univ3PositionAmounts position.liquidity state.sqrtPriceX96
              position.tickLower position.tickUpper
            some (poolId,
              { token0 := position.token0
                token1 := position.token1
                amount0 := toDecimal amounts.1 (ctx.decimals position.token0)
                amount1 := toDecimal amounts.2 (ctx.decimals position.token1) })

/-- The loop over a wallet's positions. -/
def aggregatePositions (positions : List Effects.NftPosition) : List (String × PoolAgg) :=
  groups PoolAgg.merge (positions.filterMap (matchPosition ctx univ3PositionAmounts))

def isOhmToken (token : String) : Bool := lowerCase token == lowerCase ctx.config.ohmToken

/-- The value of the OHM sides. -/
def ohmValueOf (agg : PoolAgg) (value0 value1 : BigNumber) : BigNumber :=
  let ohmValue := if isOhmToken ctx agg.token0 then (0 : BigNumber).plus value0 else 0
  if isOhmToken ctx agg.token1 then ohmValue.plus value1 else ohmValue

/-- The record of a wallet's positions in a pool. -/
def nftRecord (wallet poolId : String) (agg : PoolAgg) (rate0 rate1 : BigNumber) :
    SerializedTokenRecord :=
  let value0 := agg.amount0.times rate0
  let value1 := agg.amount1.times rate1
  let totalValue := value0.plus value1
  let nonOhmValue := totalValue.minus (ohmValueOf ctx agg value0 value1)
  createTokenRecord ctx.config timestamp (getContractName ctx.config poolId) poolId
    (getContractName ctx.config wallet) wallet totalValue 1 ctx.blockNumber
    (some (nonOhmValue.div totalValue)) (some "Protocol-Owned Liquidity")

/-- The supply row of one side of a wallet's positions in a pool. -/
def nftSupply (wallet poolId token : String) (amount : BigNumber) : List SerializedTokenSupply :=
  if isOhmToken ctx token && !amount.eq 0 then
    [createTokenSupply ctx.config timestamp (getContractName ctx.config ctx.config.ohmToken)
      ctx.config.ohmToken (some (getContractName ctx.config poolId)) (some poolId)
      (some (getContractName ctx.config wallet)) (some wallet) typeLiquidity amount
      ctx.blockNumber (-1)]
  else []

/-- What a snapshot has pushed so far. -/
structure PushedRows where
  records : List SerializedTokenRecord
  supplies : List SerializedTokenSupply
  deriving DecidableEq

/-- The loop over a wallet's aggregates. -/
def pushAggregates (wallet : String) :
    List (String × PoolAgg) → PushedRows → PricingProg PushedRows
  | [], pushed => .ret pushed
  | (poolId, agg) :: rest, pushed => do
      let result0 ← priceLookup agg.token0 none
      let result1 ← priceLookup agg.token1 none
      let rate0 := result0.price
      let rate1 := result1.price
      if ((agg.amount0.times rate0).plus (agg.amount1.times rate1)).lte 0 then
        pushAggregates wallet rest pushed
      else
        pushAggregates wallet rest
          { records := pushed.records ++ [nftRecord ctx timestamp wallet poolId agg rate0 rate1]
            supplies := pushed.supplies ++
              nftSupply ctx timestamp wallet poolId agg.token0 agg.amount0 ++
                nftSupply ctx timestamp wallet poolId agg.token1 agg.amount1 }

/-- The loop over the protocol's wallets. -/
def pushNftWallets : List String → PushedRows → PricingProg PushedRows
  | [], pushed => .ret pushed
  | wallet :: rest, pushed => do
      let positions ← orThrow (snapshotUniv3NftPositions wallet)
      if positions = [] then pushNftWallets rest pushed
      else do
        let pushed ← pushAggregates ctx timestamp wallet
          (aggregatePositions ctx univ3PositionAmounts positions) pushed
        pushNftWallets rest pushed

/-- `pushUniv3NftPol`. -/
def pushUniv3NftPol (pushed : PushedRows) : PricingProg PushedRows :=
  match ctx.config.univ3PositionManager with
  | none => .ret pushed
  | some manager =>
      if ctx.blockNumber < manager.startBlock then .ret pushed
      else if ctx.config.liquidityHandlers.filter isUniv3 = [] then .ret pushed
      else
        pushNftWallets ctx univ3PositionAmounts snapshotUniv3NftPositions timestamp
          ctx.config.protocolAddresses pushed

end

/-! ### What a wallet holds in a pool -/

section holdings

variable {ctx : PricingContext} {univ3PositionAmounts : ℕ → ℤ → ℤ → ℤ → ℤ × ℤ}

/-- The positions of a list that count for a pool. -/
def positionsIn (ctx : PricingContext) (univ3PositionAmounts : ℕ → ℤ → ℤ → ℤ → ℤ × ℤ)
    (positions : List Effects.NftPosition) (poolId : String) : List PoolAgg :=
  valuesOf poolId (positions.filterMap (matchPosition ctx univ3PositionAmounts))

/-- They together, if there are any. -/
def holdingIn (ctx : PricingContext) (univ3PositionAmounts : ℕ → ℤ → ℤ → ℤ → ℤ × ℤ)
    (positions : List Effects.NftPosition) (poolId : String) : Option PoolAgg :=
  merged PoolAgg.merge (positionsIn ctx univ3PositionAmounts positions poolId)

/-- The amounts of a holding are the sums over its positions. -/
theorem amounts_merged {values : List PoolAgg} {agg : PoolAgg}
    (h : merged PoolAgg.merge values = some agg) :
    agg.amount0 = (values.map (·.amount0)).sum ∧ agg.amount1 = (values.map (·.amount1)).sum := by
  cases values with
  | nil => cases h
  | cons first rest =>
      obtain rfl := Option.some.inj h
      induction rest generalizing first with
      | nil => simp
      | cons other rest ih =>
          obtain ⟨h0, h1⟩ := ih (first.merge other) rfl
          rw [List.foldl_cons, h0, h1]
          constructor
          · simp [PoolAgg.merge, ← add_def, add_assoc]
          · simp [PoolAgg.merge, ← add_def, add_assoc]

/-- An amount that its decimal text holds in full. -/
def IsWritten (x : BigNumber) : Prop := ∃ n : ℤ, x = .finite (n / 10 ^ decimalPlaces)

theorem isWritten_zero : IsWritten 0 := ⟨0, by simp [zero_def]⟩

theorem isWritten_toDecimal (n : ℤ) (decimals : ℕ) : IsWritten (toDecimal n decimals) := by
  have hten : (10 : ℚ) ^ decimals ≠ 0 := by positivity
  obtain ⟨m, hm⟩ := @exists_roundHalfUp_mul decimalPlaces ((n : ℚ) / 10 ^ decimals)
  refine ⟨m, ?_⟩
  simp only [toDecimal, ofInt, BigNumber.div, if_neg hten]
  rw [← hm, mul_div_assoc, div_self (by positivity), mul_one]

theorem IsWritten.plus {x y : BigNumber} (hx : IsWritten x) (hy : IsWritten y) :
    IsWritten (x + y) := by
  obtain ⟨n, rfl⟩ := hx
  obtain ⟨m, rfl⟩ := hy
  exact ⟨n + m, by rw [add_def, finite_plus_finite, ← add_div]; push_cast; rfl⟩

theorem IsWritten.sum {xs : List BigNumber} (h : ∀ x ∈ xs, IsWritten x) : IsWritten xs.sum := by
  induction xs with
  | nil => exact isWritten_zero
  | cons x xs ih =>
      rw [List.sum_cons]
      exact (h x List.mem_cons_self).plus (ih (fun y hy => h y (List.mem_cons_of_mem x hy)))

/-- Taking an amount off writes its negative. -/
theorem IsWritten.takenOff {x : BigNumber} (h : IsWritten x) :
    (x.times (.ofInt (-1))).toString10 = x.neg := by
  obtain ⟨n, rfl⟩ := h
  have hplaces : (-((n : ℚ) / 10 ^ decimalPlaces)) * 10 ^ decimalPlaces = ((-n : ℤ) : ℚ) := by
    have hten : (10 : ℚ) ^ decimalPlaces ≠ 0 := by positivity
    rw [neg_mul, div_mul_cancel₀ _ hten]
    push_cast
    rfl
  simp only [ofInt, finite_times_finite, Int.cast_neg, Int.cast_one, mul_neg, mul_one, toString10,
    BigNumber.neg]
  rw [roundHalfUp_eq_self hplaces]

theorem isWritten_holdingIn {positions : List Effects.NftPosition} {poolId : String} {agg : PoolAgg}
    (h : holdingIn ctx univ3PositionAmounts positions poolId = some agg) :
    IsWritten agg.amount0 ∧ IsWritten agg.amount1 := by
  obtain ⟨h0, h1⟩ := amounts_merged h
  have hposition : ∀ part ∈ positionsIn ctx univ3PositionAmounts positions poolId,
      IsWritten part.amount0 ∧ IsWritten part.amount1 := by
    intro part hpart
    obtain ⟨entry, hentry, rfl⟩ := List.mem_map.mp hpart
    obtain ⟨position, -, hmatch⟩ := List.mem_filterMap.mp (List.mem_filter.mp hentry).1
    unfold matchPosition at hmatch
    split at hmatch
    · cases hmatch
    · split at hmatch
      · cases hmatch
      · split at hmatch
        · cases hmatch
        · obtain rfl := Option.some.inj hmatch
          exact ⟨isWritten_toDecimal _ _, isWritten_toDecimal _ _⟩
  rw [h0, h1]
  constructor
  · refine IsWritten.sum (fun x hx => ?_)
    obtain ⟨part, hpart, rfl⟩ := List.mem_map.mp hx
    exact (hposition part hpart).1
  · refine IsWritten.sum (fun x hx => ?_)
    obtain ⟨part, hpart, rfl⟩ := List.mem_map.mp hx
    exact (hposition part hpart).2

end holdings

/-! ### The rows of what is held -/

section rows

variable {ctx : PricingContext} {univ3PositionAmounts : ℕ → ℤ → ℤ → ℤ → ℤ × ℤ}
  {snapshotUniv3NftPositions : String → Except String (List Effects.NftPosition)} {timestamp : ℕ}
  {ledger : LedgerKey → Option ℤ} {cached : PricingKey → Option PricingValue}

/-- What a holding is worth at given prices. -/
def PoolAgg.value (agg : PoolAgg) (price : String → BigNumber) : BigNumber :=
  (agg.amount0.times (price agg.token0)).plus (agg.amount1.times (price agg.token1))

/-- The record of a holding at given prices; one that is worth nothing has none. -/
def holdingRecord (ctx : PricingContext) (timestamp : ℕ) (price : String → BigNumber)
    (wallet poolId : String) (agg : PoolAgg) : Option SerializedTokenRecord :=
  if (agg.value price).lte 0 then none
  else some (nftRecord ctx timestamp wallet poolId agg (price agg.token0) (price agg.token1))

/-- The supply rows of a holding at given prices. -/
def holdingSupplies (ctx : PricingContext) (timestamp : ℕ) (price : String → BigNumber)
    (wallet poolId : String) (agg : PoolAgg) : List SerializedTokenSupply :=
  if (agg.value price).lte 0 then []
  else nftSupply ctx timestamp wallet poolId agg.token0 agg.amount0 ++
    nftSupply ctx timestamp wallet poolId agg.token1 agg.amount1

/-- The price that a cache holds for a token at top level. -/
def topPrice (cached : PricingKey → Option PricingValue) (token : String) : BigNumber :=
  priceIn cached token none

/-- Rows added to those pushed so far. -/
def PushedRows.add (pushed : PushedRows) (records : List SerializedTokenRecord)
    (supplies : List SerializedTokenSupply) : PushedRows where
  records := pushed.records ++ records
  supplies := pushed.supplies ++ supplies

@[simp] theorem PushedRows.add_nil (pushed : PushedRows) : pushed.add [] [] = pushed := by
  simp [add]

@[simp] theorem PushedRows.add_add (pushed : PushedRows)
    (records records' : List SerializedTokenRecord)
    (supplies supplies' : List SerializedTokenSupply) :
    (pushed.add records supplies).add records' supplies' =
      pushed.add (records ++ records') (supplies ++ supplies') := by
  simp [add]

theorem fromCache_pushAggregates {wallet : String} {entries : List (String × PoolAgg)}
    {pushed pushed' : PushedRows}
    (h : (pushAggregates ctx timestamp wallet entries pushed).fromCache ledger cached =
      some (.ok pushed')) :
    pushed' = pushed.add
      (entries.filterMap (fun entry =>
        holdingRecord ctx timestamp (topPrice cached) wallet entry.1 entry.2))
      (entries.flatMap (fun entry =>
        holdingSupplies ctx timestamp (topPrice cached) wallet entry.1 entry.2)) := by
  induction entries generalizing pushed with
  | nil =>
      rw [pushAggregates, Prog.fromCache_ret, Option.some.injEq, Except.ok.injEq] at h
      simp [h]
  | cons entry rest ih =>
      obtain ⟨poolId, agg⟩ := entry
      rw [pushAggregates] at h
      obtain ⟨result0, hresult0, h⟩ := Prog.fromCache_bind_ok_iff.mp h
      obtain ⟨result1, hresult1, h⟩ := Prog.fromCache_bind_ok_iff.mp h
      rw [price_of_fromCache hresult0, price_of_fromCache hresult1] at h
      rw [List.filterMap_cons, List.flatMap_cons, holdingRecord, holdingSupplies]
      dsimp only at h
      split at h
      case isTrue hworthless =>
        have hvalue : (agg.value (topPrice cached)).lte 0 = true := hworthless
        rw [if_pos hvalue, if_pos hvalue, List.nil_append]
        exact ih h
      case isFalse hworth =>
        have hvalue : ¬ (agg.value (topPrice cached)).lte 0 = true := hworth
        rw [if_neg hvalue, if_neg hvalue, ih h]
        simp [PushedRows.add, topPrice]

/-- The wallets and pools with a holding, in the order in which they are gone through. -/
def heldPairs (ctx : PricingContext) (univ3PositionAmounts : ℕ → ℤ → ℤ → ℤ → ℤ × ℤ)
    (positions : String → List Effects.NftPosition) (wallets : List String) :
    List (String × String) :=
  wallets.flatMap (fun wallet =>
    ((aggregatePositions ctx univ3PositionAmounts (positions wallet)).map (·.1)).map
      (fun poolId => (wallet, poolId)))

theorem fromCache_pushNftWallets {wallets : List String} {pushed pushed' : PushedRows}
    (h : (pushNftWallets ctx univ3PositionAmounts snapshotUniv3NftPositions timestamp wallets
      pushed).fromCache ledger cached = some (.ok pushed')) :
    ∃ positions : String → List Effects.NftPosition,
      (∀ wallet ∈ wallets, snapshotUniv3NftPositions wallet = .ok (positions wallet)) ∧
      pushed' = pushed.add
        ((heldPairs ctx univ3PositionAmounts positions wallets).filterMap (fun pair =>
          (holdingIn ctx univ3PositionAmounts (positions pair.1) pair.2).bind
            (holdingRecord ctx timestamp (topPrice cached) pair.1 pair.2)))
        ((heldPairs ctx univ3PositionAmounts positions wallets).flatMap (fun pair =>
          ((holdingIn ctx univ3PositionAmounts (positions pair.1) pair.2).map
            (holdingSupplies ctx timestamp (topPrice cached) pair.1 pair.2)).getD [])) := by
  let positions : String → List Effects.NftPosition := fun wallet =>
    (snapshotUniv3NftPositions wallet).toOption.getD []
  refine ⟨positions, ?_⟩
  induction wallets generalizing pushed with
  | nil =>
      rw [pushNftWallets, Prog.fromCache_ret, Option.some.injEq, Except.ok.injEq] at h
      refine ⟨fun _ hmem => absurd hmem List.not_mem_nil, ?_⟩
      simp [h, heldPairs]
  | cons wallet rest ih =>
      rw [pushNftWallets] at h
      obtain ⟨read, hread, h⟩ := Prog.fromCache_bind_ok_iff.mp h
      have hsnapshot : snapshotUniv3NftPositions wallet = .ok read := fromCache_orThrow hread
      have hpositions : positions wallet = read := by
        simp only [positions, hsnapshot]
        rfl
      have hmem (hrest : ∀ other ∈ rest, snapshotUniv3NftPositions other = .ok (positions other)) :
          ∀ other ∈ wallet :: rest, snapshotUniv3NftPositions other = .ok (positions other) := by
        intro other hother
        rcases List.mem_cons.mp hother with rfl | hother
        · rw [hpositions, hsnapshot]
        · exact hrest other hother
      have hpairs : heldPairs ctx univ3PositionAmounts positions (wallet :: rest) =
          ((aggregatePositions ctx univ3PositionAmounts (positions wallet)).map (·.1)).map
            (fun poolId => (wallet, poolId)) ++
              heldPairs ctx univ3PositionAmounts positions rest := rfl
      split at h
      case isTrue hempty =>
        obtain ⟨hrest, hpushed⟩ := ih h
        refine ⟨hmem hrest, ?_⟩
        have hnone : aggregatePositions ctx univ3PositionAmounts (positions wallet) = [] := by
          rw [hpositions, hempty]
          rfl
        rw [hpairs, hnone]
        exact hpushed
      case isFalse =>
        obtain ⟨mid, hmid, h⟩ := Prog.fromCache_bind_ok_iff.mp h
        obtain ⟨hrest, hpushed⟩ := ih h
        refine ⟨hmem hrest, ?_⟩
        rw [hpushed, fromCache_pushAggregates hmid, PushedRows.add_add, hpairs,
          List.filterMap_append, List.flatMap_append, List.filterMap_map, List.flatMap_map,
          ← hpositions]
        unfold aggregatePositions
        rw [filterMap_groups, flatMap_groups]
        rfl

/-! ### The OHM that is taken off -/

/-- The OHM in a holding. -/
def ohmAmount (ctx : PricingContext) (agg : PoolAgg) : BigNumber :=
  (if isOhmToken ctx agg.token0 then agg.amount0 else 0) +
    (if isOhmToken ctx agg.token1 then agg.amount1 else 0)

theorem sum_nftSupply {wallet poolId token : String} {amount : BigNumber} (h : IsWritten amount) :
    ((nftSupply ctx timestamp wallet poolId token amount).map (·.supplyBalance)).sum =
      (if isOhmToken ctx token then amount else 0).neg := by
  unfold nftSupply
  cases hohm : isOhmToken ctx token with
  | false => simp [BigNumber.neg, zero_def]
  | true =>
      cases hzero : amount.eq 0 with
      | false =>
          change (amount.times (.ofInt (-1))).toString10 + 0 = amount.neg
          rw [add_zero, h.takenOff]
      | true =>
          rw [(eq_zero_iff amount).mp hzero]
          simp [BigNumber.neg, zero_def]

theorem IsWritten.neg_add {x y : BigNumber} (hx : IsWritten x) (hy : IsWritten y) :
    x.neg + y.neg = (x + y).neg := by
  obtain ⟨n, rfl⟩ := hx
  obtain ⟨m, rfl⟩ := hy
  simp only [BigNumber.neg, add_def, finite_plus_finite]
  ring_nf

/-- The supply rows of a holding that is worth something take all of its OHM off. -/
theorem sum_holdingSupplies {price : String → BigNumber} {wallet poolId : String} {agg : PoolAgg}
    (h0 : IsWritten agg.amount0) (h1 : IsWritten agg.amount1) :
    ((holdingSupplies ctx timestamp price wallet poolId agg).map (·.supplyBalance)).sum =
      if (agg.value price).lte 0 then 0 else (ohmAmount ctx agg).neg := by
  have hside (token : String) {amount : BigNumber} (h : IsWritten amount) :
      IsWritten (if isOhmToken ctx token then amount else 0) := by
    split
    · exact h
    · exact isWritten_zero
  unfold holdingSupplies
  split
  case isTrue => rfl
  case isFalse =>
    rw [List.map_append, List.sum_append, sum_nftSupply h0, sum_nftSupply h1]
    exact (hside agg.token0 h0).neg_add (hside agg.token1 h1)

/-! ### The share of the record -/

/-- A holding and the prices of its tokens are not negative. -/
structure NonnegHolding (agg : PoolAgg) (price : String → BigNumber) : Prop where
  amount0 : agg.amount0.Nonneg
  amount1 : agg.amount1.Nonneg
  price0 : (price agg.token0).Nonneg
  price1 : (price agg.token1).Nonneg

/-- The value of the sides that are not OHM. -/
def nonOhmValueOf (ctx : PricingContext) (agg : PoolAgg) (value0 value1 : BigNumber) : BigNumber :=
  (if isOhmToken ctx agg.token0 then 0 else value0).plus
    (if isOhmToken ctx agg.token1 then 0 else value1)

/-- The value of a holding is its part in OHM and the rest. -/
theorem split_value {value0 value1 : BigNumber} (h0 : value0.Nonneg) (h1 : value1.Nonneg)
    (agg : PoolAgg) : (nonOhmValueOf ctx agg value0 value1).Nonneg ∧
      (ohmValueOf ctx agg value0 value1).Nonneg ∧
      value0.plus value1 = (nonOhmValueOf ctx agg value0 value1).plus
        (ohmValueOf ctx agg value0 value1) ∧
      (value0.plus value1).minus (ohmValueOf ctx agg value0 value1) =
        nonOhmValueOf ctx agg value0 value1 := by
  obtain ⟨p, hp, rfl⟩ := h0.exists_eq
  obtain ⟨q, hq, rfl⟩ := h1.exists_eq
  unfold ohmValueOf nonOhmValueOf
  cases isOhmToken ctx agg.token0 <;> cases isOhmToken ctx agg.token1
  all_goals
    simp only [Bool.false_eq_true, ↓reduceIte, zero_def, minus, BigNumber.neg, finite_plus_finite,
      nonneg_finite, BigNumber.finite.injEq]
    refine ⟨?_, ?_, ?_, ?_⟩ <;> linarith

/-- A holding that is worth something has a record of its value at one dollar each. -/
theorem eq_of_holdingRecord {price : String → BigNumber} {wallet poolId : String} {agg : PoolAgg}
    {record : SerializedTokenRecord}
    (hrecord : holdingRecord ctx timestamp price wallet poolId agg = some record) :
    ¬(agg.value price).lte 0 = true ∧ record = nftRecord ctx timestamp wallet poolId agg
      (price agg.token0) (price agg.token1) := by
  unfold holdingRecord at hrecord
  split at hrecord
  · cases hrecord
  · next hworth => exact ⟨hworth, (Option.some.inj hrecord).symm⟩

theorem NonnegHolding.value_pos {price : String → BigNumber} {agg : PoolAgg}
    (h : NonnegHolding agg price) (hworth : ¬(agg.value price).lte 0 = true) :
    ∃ total : ℚ, 0 < total ∧ agg.value price = .finite total := by
  have hnonneg : (agg.value price).Nonneg :=
    (h.amount0.times h.price0).plus (h.amount1.times h.price1)
  obtain ⟨total, -, htotal⟩ := hnonneg.exists_eq
  rw [htotal, zero_def, finite_lte_finite] at hworth
  exact ⟨total, lt_of_not_ge hworth, htotal⟩

theorem NonnegHolding.fairRecord {price : String → BigNumber} {wallet poolId : String}
    {agg : PoolAgg} (h : NonnegHolding agg price) {record : SerializedTokenRecord}
    (hrecord : holdingRecord ctx timestamp price wallet poolId agg = some record) :
    FairRecord ctx.config record := by
  obtain ⟨hworth, rfl⟩ := eq_of_holdingRecord hrecord
  obtain ⟨total, htotal, hvalue⟩ := h.value_pos hworth
  obtain ⟨hrest, hohm, hsplit, hminus⟩ :=
    split_value (h.amount0.times h.price0) (h.amount1.times h.price1) agg
  have hpos : (agg.value price).gt 0 = true := by
    rw [hvalue, zero_def, finite_gt_finite]
    exact htotal
  rw [PoolAgg.value, hsplit] at hpos
  obtain ⟨hshare, hle⟩ := share_mem hrest hohm hpos
  have hone : toDecimal 1 0 = 1 := by
    rw [toDecimal_eq_finite 1 (by decide)]
    simp [one_def]
  have hfair := @fairRecord_of_share ctx { kind := .univ3, id := poolId, tokens := [] }
    timestamp _ _ _ wallet 1 0 (hrest.plus hohm) hshare hle
  rw [hone, ← hsplit, ← hminus] at hfair
  exact hfair

/-- What a record says of a holding: its value, and the value of the sides that are not OHM, which it
holds as a rounded share of the whole. -/
structure SplitRecord (total rest : ℚ) (record : SerializedTokenRecord) : Prop where
  value : record.value = (BigNumber.finite total).toString10
  valueExcludingOhm : ∃ kept : ℚ, record.valueExcludingOhm = .finite kept ∧
    |kept - rest| ≤ (total + 1) * halfUnit decimalPlaces

theorem NonnegHolding.splitRecord {price : String → BigNumber} {wallet poolId : String}
    {agg : PoolAgg} (h : NonnegHolding agg price)
    (hliability : isLiabilityToken ctx.config poolId = false) {record : SerializedTokenRecord}
    (hrecord : holdingRecord ctx timestamp price wallet poolId agg = some record) :
    ∃ total rest : ℚ, agg.value price = .finite total ∧
      nonOhmValueOf ctx agg (agg.amount0.times (price agg.token0))
        (agg.amount1.times (price agg.token1)) = .finite rest ∧ SplitRecord total rest record := by
  obtain ⟨hworth, rfl⟩ := eq_of_holdingRecord hrecord
  obtain ⟨total, htotal, hvalue⟩ := h.value_pos hworth
  obtain ⟨hrest, -, -, hminus⟩ :=
    @split_value ctx _ _ (h.amount0.times h.price0) (h.amount1.times h.price1) agg
  obtain ⟨rest, -, hrest⟩ := hrest.exists_eq
  rw [hrest] at hminus
  have htoken : ((getTokenDefinition ctx.config poolId).map (·.isLiability)).getD false = false :=
    hliability
  have hbase : (1 : BigNumber).times (agg.value price) = .finite total := by
    rw [hvalue, one_def, finite_times_finite, one_mul]
  have hshare : ((agg.value price).minus (ohmValueOf ctx agg (agg.amount0.times (price agg.token0))
      (agg.amount1.times (price agg.token1)))).div (agg.value price) =
        .finite (roundHalfUp decimalPlaces (rest / total)) := by
    rw [← finite_div_finite htotal.ne', ← hminus, ← hvalue]
    rfl
  refine ⟨total, rest, hvalue, hrest, ?_, ?_⟩
  · change (if _ then _ else (1 : BigNumber).times (agg.value price)).toString10 = _
    rw [htoken, hbase]
    rfl
  · refine ⟨_, ?_, abs_rounded_share_sub_le htotal⟩
    change (if _ then _ else ((1 : BigNumber).times (agg.value price)).times
      (((agg.value price).minus _).div (agg.value price))).toString10 = _
    rw [htoken, hbase, hshare]
    rfl

end rows

/-! ### A snapshot -/

section

variable {ctx : PricingContext} {univ3PositionAmounts : ℕ → ℤ → ℤ → ℤ → ℤ × ℤ}
  {snapshotUniv3NftPositions : String → Except String (List Effects.NftPosition)} {timestamp : ℕ}
  {ledger : LedgerKey → Option ℤ}

/-- The wallets of the protocol, each with the pools in which it has positions, once each. -/
structure HoldsPositions (ctx : PricingContext)
    (univ3PositionAmounts : ℕ → ℤ → ℤ → ℤ → ℤ × ℤ)
    (positions : String → List Effects.NftPosition) (held : List (String × String)) : Prop where
  nodup : held.Nodup
  mem : ∀ wallet poolId, (wallet, poolId) ∈ held ↔ wallet ∈ ctx.config.protocolAddresses ∧
    positionsIn ctx univ3PositionAmounts (positions wallet) poolId ≠ []

/-- A side of a holding is OHM, and there is some of it. -/
def HasOhm (ctx : PricingContext) (agg : PoolAgg) : Prop :=
  (isOhmToken ctx agg.token0 = true ∧ agg.amount0 ≠ 0) ∨
    (isOhmToken ctx agg.token1 = true ∧ agg.amount1 ≠ 0)

/-- What is pushed for a holding: its amounts are those of its positions together, its rows take its
OHM off, and its record is fair. Only a holding that is worth something has rows, and supply rows only
if there is OHM in it. -/
structure AccountsFor (ctx : PricingContext) (timestamp : ℕ) (price : String → BigNumber)
    (wallet poolId : String) (parts : List PoolAgg) (agg : PoolAgg) : Prop where
  amount0 : agg.amount0 = (parts.map (·.amount0)).sum
  amount1 : agg.amount1 = (parts.map (·.amount1)).sum
  recorded : (holdingRecord ctx timestamp price wallet poolId agg).isSome ↔
    (agg.value price).lte 0 = false
  supplied : holdingSupplies ctx timestamp price wallet poolId agg ≠ [] ↔
    (agg.value price).lte 0 = false ∧ HasOhm ctx agg
  deducted : ((holdingSupplies ctx timestamp price wallet poolId agg).map (·.supplyBalance)).sum =
    if (agg.value price).lte 0 then 0 else (ohmAmount ctx agg).neg
  fair : NonnegHolding agg price → ∀ record,
    holdingRecord ctx timestamp price wallet poolId agg = some record →
      FairRecord ctx.config record
  split : NonnegHolding agg price → isLiabilityToken ctx.config poolId = false → ∀ record,
    holdingRecord ctx timestamp price wallet poolId agg = some record →
      ∃ total rest : ℚ, agg.value price = .finite total ∧
        nonOhmValueOf ctx agg (agg.amount0.times (price agg.token0))
          (agg.amount1.times (price agg.token1)) = .finite rest ∧ SplitRecord total rest record

theorem isSome_holdingRecord {price : String → BigNumber} {wallet poolId : String} {agg : PoolAgg} :
    (holdingRecord ctx timestamp price wallet poolId agg).isSome ↔
      (agg.value price).lte 0 = false := by
  unfold holdingRecord
  split
  · next hworthless => simp [hworthless]
  · next hworth => simpa using hworth

theorem nftSupply_eq_nil {wallet poolId token : String} {amount : BigNumber} :
    nftSupply ctx timestamp wallet poolId token amount = [] ↔
      ¬(isOhmToken ctx token = true ∧ amount ≠ 0) := by
  unfold nftSupply
  rw [ne_eq, ← eq_zero_iff amount]
  split
  · next h => simpa using h
  · next h => simpa using h

/-- Only a holding with OHM has supply rows. -/
theorem holdingSupplies_ne_nil {price : String → BigNumber} {wallet poolId : String} {agg : PoolAgg} :
    holdingSupplies ctx timestamp price wallet poolId agg ≠ [] ↔
      (agg.value price).lte 0 = false ∧ HasOhm ctx agg := by
  unfold holdingSupplies
  split
  · next hworthless => simp [hworthless]
  · next hworth =>
      rw [ne_eq, List.append_eq_nil_iff, nftSupply_eq_nil, nftSupply_eq_nil, HasOhm,
        ← not_or, not_not]
      simp [hworth]

theorem holdsPositions_heldPairs (hwallets : ctx.config.protocolAddresses.Nodup)
    (positions : String → List Effects.NftPosition) :
    HoldsPositions ctx univ3PositionAmounts positions
      (heldPairs ctx univ3PositionAmounts positions ctx.config.protocolAddresses) where
  nodup := nodup_flatMap_pairs hwallets (fun _ _ => nodup_keys_groups _ _)
  mem := by
    intro wallet poolId
    have hkeys : poolId ∈ (aggregatePositions ctx univ3PositionAmounts (positions wallet)).map (·.1) ↔
        positionsIn ctx univ3PositionAmounts (positions wallet) poolId ≠ [] := by
      unfold aggregatePositions positionsIn valuesOf
      rw [mem_keys_groups, ne_eq, List.map_eq_nil_iff, List.filter_eq_nil_iff]
      simp [List.mem_map]
    unfold heldPairs
    rw [List.mem_flatMap]
    constructor
    · rintro ⟨other, hother, hmem⟩
      obtain ⟨key, hkey, heq⟩ := List.mem_map.mp hmem
      obtain ⟨rfl, rfl⟩ := Prod.mk.inj heq
      exact ⟨hother, hkeys.mp hkey⟩
    · rintro ⟨hwallet, hpositions⟩
      exact ⟨wallet, hwallet, List.mem_map.mpr ⟨poolId, hkeys.mpr hpositions, rfl⟩⟩

/-- From its start block on, the NFT liquidity of a snapshot is pushed once for each wallet and pool:
all of the wallet's positions in the pool together, at one price for each token. -/
theorem nftRows_of_run {manager : GatedContract}
    (hmanager : ctx.config.univ3PositionManager = some manager)
    (hstart : manager.startBlock ≤ ctx.blockNumber)
    (hpools : ctx.config.liquidityHandlers.filter isUniv3 ≠ [])
    (hwallets : ctx.config.protocolAddresses.Nodup) {fuel : ℕ} {pushed pushed' : PushedRows}
    {s s' : PricingSession}
    (hrun : (pushUniv3NftPol ctx univ3PositionAmounts snapshotUniv3NftPositions timestamp pushed).run
      ledger ((pricingService ctx ledger).look fuel []) s = some (.ok pushed', s')) :
    ∃ positions held,
      (∀ wallet ∈ ctx.config.protocolAddresses,
        snapshotUniv3NftPositions wallet = .ok (positions wallet)) ∧
      HoldsPositions ctx univ3PositionAmounts positions held ∧
      pushed' = pushed.add
        (held.filterMap (fun pair =>
          (holdingIn ctx univ3PositionAmounts (positions pair.1) pair.2).bind
            (holdingRecord ctx timestamp (topPrice s'.cached) pair.1 pair.2)))
        (held.flatMap (fun pair =>
          ((holdingIn ctx univ3PositionAmounts (positions pair.1) pair.2).map
            (holdingSupplies ctx timestamp (topPrice s'.cached) pair.1 pair.2)).getD [])) ∧
      ∀ wallet poolId agg,
        holdingIn ctx univ3PositionAmounts (positions wallet) poolId = some agg →
          AccountsFor ctx timestamp (topPrice s'.cached) wallet poolId
            (positionsIn ctx univ3PositionAmounts (positions wallet) poolId) agg := by
  have hcache := fromCache_of_run_top (pricingService ctx ledger) hrun
  unfold pushUniv3NftPol at hcache
  simp only [hmanager, not_lt.mpr hstart, hpools, if_false] at hcache
  obtain ⟨positions, hpositions, hpushed⟩ := fromCache_pushNftWallets hcache
  refine ⟨positions, _, hpositions, holdsPositions_heldPairs hwallets positions, hpushed, ?_⟩
  intro wallet poolId agg hagg
  obtain ⟨h0, h1⟩ := amounts_merged hagg
  obtain ⟨hwritten0, hwritten1⟩ := isWritten_holdingIn hagg
  exact ⟨h0, h1, isSome_holdingRecord, holdingSupplies_ne_nil,
    sum_holdingSupplies hwritten0 hwritten1,
    fun hnonneg record hrecord => hnonneg.fairRecord hrecord,
    fun hnonneg hliability record hrecord => hnonneg.splitRecord hliability hrecord⟩

end

/-! ### Two wallets and two pools -/

def nftContext : PricingContext where
  config :=
    { triangleConfig with
      protocolAddresses := ["w", "x"]
      univ3PositionManager := some { address := "m", startBlock := 1 }
      liquidityHandlers :=
        [{ kind := .univ3, id := "u", tokens := ["a", "c"] },
         { kind := .univ3, id := "v", tokens := ["b", "c"] },
         { kind := .stable, id := "s", tokens := ["b", "c"] }] }
  blockNumber := 1
  view := { triangleView with univ3PoolState := fun _ => some ⟨2 ^ 96, 1⟩ }

/-- One wallet has two positions in the pool with OHM, the other has one in the pool without, and one
out of range in the first. -/
def nftPositions (wallet : String) : List Effects.NftPosition :=
  if wallet = "w" then [⟨"a", "c", 3000, -100, 100, 10⟩, ⟨"a", "c", 3000, -100, 100, 20⟩]
  else [⟨"b", "c", 500, -100, 100, 5⟩, ⟨"a", "c", 3000, 100, 200, 7⟩]

/-- All tokens are worth one, and the amounts in range are the liquidity and twice as much. -/
def nftAmounts (liquidity : ℕ) (_ tickLower _ : ℤ) : ℤ × ℤ :=
  if tickLower < 0 then (liquidity, 2 * liquidity) else (0, 0)

def nftRows : PushedRows where
  records :=
    [nftRecord nftContext 0 "w" "u" ⟨"a", "c", .finite 30, .finite 60⟩ 1 1,
     nftRecord nftContext 0 "x" "v" ⟨"b", "c", .finite 5, .finite 10⟩ 1 1]
  supplies := nftSupply nftContext 0 "w" "u" "a" (.finite 30)

theorem nftRows_of_run_twoWallets : ∃ s' : PricingSession, ∃ positions held,
    (∀ wallet ∈ ["w", "x"],
      (.ok (nftPositions wallet) : Except String _) = .ok (positions wallet)) ∧
    HoldsPositions nftContext nftAmounts positions held ∧
    nftRows = PushedRows.add ⟨[], []⟩
      (held.filterMap (fun pair =>
        (holdingIn nftContext nftAmounts (positions pair.1) pair.2).bind
          (holdingRecord nftContext 0 (topPrice s'.cached) pair.1 pair.2)))
      (held.flatMap (fun pair =>
        ((holdingIn nftContext nftAmounts (positions pair.1) pair.2).map
          (holdingSupplies nftContext 0 (topPrice s'.cached) pair.1 pair.2)).getD [])) ∧
    ∀ wallet poolId agg,
      holdingIn nftContext nftAmounts (positions wallet) poolId = some agg →
        AccountsFor nftContext 0 (topPrice s'.cached) wallet poolId
          (positionsIn nftContext nftAmounts (positions wallet) poolId) agg := by
  have hrows : ((pushUniv3NftPol nftContext nftAmounts (fun wallet => .ok (nftPositions wallet)) 0
      ⟨[], []⟩).run (fun _ => none) ((pricingService nftContext (fun _ => none)).look 5 [])
        .fresh).map (·.1) = some (.ok nftRows) := by
    decide +kernel
  obtain ⟨⟨result, s'⟩, hrun, rfl⟩ := Option.map_eq_some_iff.mp hrows
  exact ⟨s', @nftRows_of_run nftContext _ _ _ _ _ rfl (by decide) (by decide) (by decide) _ _ _ _ _
    hrun⟩

end OlympusMetrics.Pricing
