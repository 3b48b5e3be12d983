import OlympusMetrics.Indexer.Pricing

/-!
Prices and the order in which they are asked for.

A value that the cycle guard cut off is cached like any other, and lookups whose
arguments differ only in case share a place in the cache. As long as no lookup is
served such a value, every call returns what it returns in a fresh cache.
-/

namespace OlympusMetrics.Pricing

open Lookup

/-- A top-level `getPrice` call: the token and the current pool, in any case. -/
abbrev PriceCall := String × Option String

section

variable (ctx : PricingContext)

/-- The lookup of a call. Handlers see the token in lower case; the current pool is compared as it
is written. -/
def PriceCall.key (call : PriceCall) : PricingKey := .price (ctx.toLowerCase call.1) call.2

variable (ledger : LedgerKey → Option ℤ)

/-- Calls of `getPrice` awaited one after another inside one `withPricingCache`. -/
def getPrices (calls : List PriceCall) :
    Option (List (Except String PricingValue) × Session LedgerKey PricingKey PricingValue) :=
  (pricingService ctx ledger).callsBy (cacheKey ctx) (pricingFuel ctx)
    (calls.map (PriceCall.key ctx)) .fresh

/-- Every call of the sequence returns what it returns as the only call of a fresh cache. -/
def PricesAsAlone (calls : List PriceCall) : Prop :=
  ∃ results, (getPrices ctx ledger calls).map Prod.fst = some results ∧
    List.Forall₂ (fun call result => (getPrices ctx ledger [call]).map Prod.fst = some [result])
      calls results

/-- No lookup of the sequence is answered for a lookup with other arguments, or served a cached value
whose computation the cycle guard cut off at a lookup above it. -/
def ServesOwnValues (calls : List PriceCall) : Prop :=
  ∀ results s, getPrices ctx ledger calls = some (results, s) → s.stale = false

/-- Any sequence of calls comes to an end. -/
theorem getPrices_isSome (calls : List PriceCall) : (getPrices ctx ledger calls).isSome := by
  refine callsBy_isSome (pricingService ctx ledger) ?_ .fresh
  intro key hkey s
  obtain ⟨call, -, rfl⟩ := List.mem_map.mp hkey
  exact price_isSome ctx ledger (ctx.toLowerCase call.1) call.2 s

variable {ctx ledger}

theorem ServesOwnValues.exists_session {calls : List PriceCall}
    (h : ServesOwnValues ctx ledger calls) :
    ∃ results s, getPrices ctx ledger calls = some (results, s) ∧ s.stale = false := by
  obtain ⟨⟨results, s⟩, hprices⟩ := Option.isSome_iff_exists.mp (getPrices_isSome ctx ledger calls)
  exact ⟨results, s, hprices, h results s hprices⟩

theorem servesOwnValues_of_stale {calls : List PriceCall}
    (h : (getPrices ctx ledger calls).map (fun session => session.2.stale) = some false) :
    ServesOwnValues ctx ledger calls := by
  intro results s hprices
  rw [hprices] at h
  exact Option.some.inj h

theorem getPrices_single {call : PriceCall} {results : List (Except String PricingValue)}
    {s : Session LedgerKey PricingKey PricingValue}
    (h : getPrices ctx ledger [call] = some (results, s)) :
    ∃ result, results = [result] ∧
      (pricingService ctx ledger).lookBy (cacheKey ctx) (pricingFuel ctx) [] (call.key ctx) .fresh =
        some (result, s) := by
  change Service.callsBy _ _ _ [call.key ctx] _ = _ at h
  rw [Service.callsBy] at h
  split at h
  · cases h
  · next result s' hlook =>
      obtain ⟨rfl, rfl⟩ := Prod.mk.inj (Option.some.inj h)
      exact ⟨result, rfl, hlook⟩

/-- A call that is served its own values when it is made alone. -/
theorem ServesOwnValues.single {call : PriceCall} (h : ServesOwnValues ctx ledger [call]) :
    ∃ result s, getPrices ctx ledger [call] = some ([result], s) ∧
      (pricingService ctx ledger).lookBy (cacheKey ctx) (pricingFuel ctx) [] (call.key ctx) .fresh =
        some (result, s) ∧ s.stale = false := by
  obtain ⟨results, s, hprices, hstale⟩ := h.exists_session
  obtain ⟨result, rfl, hlook⟩ := getPrices_single hprices
  exact ⟨result, s, hprices, hlook, hstale⟩

end

/-- Prices do not depend on the order of the calls as long as no lookup, in the sequence or in one
of its calls made alone, is answered for other arguments or served a value that was cut off. -/
theorem pricesAsAlone_of_servesOwnValues (ctx : PricingContext) (ledger : LedgerKey → Option ℤ)
    (calls : List PriceCall) (hshared : ServesOwnValues ctx ledger calls)
    (halone : ∀ call ∈ calls, ServesOwnValues ctx ledger [call]) :
    PricesAsAlone ctx ledger calls := by
  obtain ⟨results, s, hprices, hstale⟩ := hshared.exists_session
  refine ⟨results, by rw [hprices]; rfl, ?_⟩
  obtain ⟨hcalls, -⟩ := calls_of_callsBy (pricingService ctx ledger) hprices hstale
  have heq := calls_eq_alone (pricingService ctx ledger) hcalls hstale
  rw [List.forall₂_map_left_iff] at heq
  refine ((List.forall₂_and_left calls results).mpr ⟨halone, heq⟩).imp ?_
  rintro call result ⟨hserves, hsame⟩
  obtain ⟨result', s', hsingle, hlook, hstale'⟩ := hserves.single
  have hlook := look_of_lookBy (pricingService ctx ledger) hlook hstale'
  rw [hsingle, ← hsame result' s' hlook hstale']
  rfl

/-! ### A triangle of pools -/

/-- A token of a small configuration. -/
def plainToken (address : String) : TokenDefinition where
  address := address
  category := "Volatile"
  isLiquid := true
  isBluechip := false
  decimals := 0

/-- Three pools in a triangle, and a stable handler for one of the tokens. -/
def triangleHandlers : List LiquidityHandler :=
  [{ kind := .univ2, id := "p1", tokens := ["a", "b"] },
   { kind := .univ2, id := "p2", tokens := ["b", "c"] },
   { kind := .univ2, id := "p3", tokens := ["a", "c"] },
   { kind := .stable, id := "s", tokens := ["c"] }]

def triangleConfig : ChainConfig where
  chainId := .ethereum
  blockchain := "Ethereum"
  startBlock := 0
  tokens := [plainToken "a", plainToken "b", plainToken "c"]
  names := []
  abbreviations := []
  protocolAddresses := []
  circulatingSupplyWallets := []
  treasuryBlacklist := []
  ohmToken := "a"
  liquidityHandlers := triangleHandlers
  ownedLiquidityHandlers := []

/-- Every Uniswap V2 pool holds a hundred of one token and two hundred of the other. -/
def triangleView : PoolView where
  univ2PoolState := fun _ => some { reserve0 := 100, reserve1 := 200 }
  univ3PoolState := fun _ => none
  balancerPoolState := fun _ => none
  kodiakPool := fun _ => none
  ohmIndexState := fun _ => none
  readChainlinkLatestAnswer := fun _ => .error "execution reverted"
  readErc4626AssetsPerShare := fun _ _ => .error "execution reverted"
  snapshotCurvePool := fun _ _ _ => .error "execution reverted"
  snapshotFraxSwapPool := fun _ => .error "execution reverted"
  getWeightsAndDecimals := fun _ => .error "execution reverted"
  getUnderlyingBalances := fun _ => .error "execution reverted"

def triangle : PricingContext where
  config := triangleConfig
  blockNumber := 1
  view := triangleView

/-- The nested quote of `b` that the first call leaves in the cache is the one asked for next, also
under another spelling of the token. -/
theorem pricesAsAlone_triangle :
    ServesOwnValues triangle (fun _ => none) [("a", none), ("b", some "p1"), ("B", some "p1")] ∧
      PricesAsAlone triangle (fun _ => none)
        [("a", none), ("b", some "p1"), ("B", some "p1")] := by
  have hshared : ServesOwnValues triangle (fun _ => none)
      [("a", none), ("b", some "p1"), ("B", some "p1")] :=
    servesOwnValues_of_stale (by decide +kernel)
  refine ⟨hshared, pricesAsAlone_of_servesOwnValues triangle (fun _ => none) _ hshared ?_⟩
  intro call hcall
  apply servesOwnValues_of_stale
  rcases List.mem_cons.mp hcall with rfl | hcall
  · decide +kernel
  · rcases List.mem_pair.mp hcall with rfl | rfl
    · decide +kernel
    · decide +kernel

/-- A current pool in other letters is another pool for the handlers, and the same for the cache. -/
example : ¬ ServesOwnValues triangle (fun _ => none) [("a", some "p3"), ("a", some "P3")] := by
  intro h
  obtain ⟨results, s, hprices, hstale⟩ := h.exists_session
  have hstale' : (getPrices triangle (fun _ => none) [("a", some "p3"), ("a", some "P3")]).map
      (fun session => session.2.stale) = some true := by
    decide +kernel
  rw [hprices] at hstale'
  exact absurd (hstale.symm.trans (Option.some.inj hstale')) (by decide)

/-- The price of `a` for its own pool is cut off to zero inside the first call, and served to the
second. -/
theorem triangle_cut_off_served :
    (getPrices triangle (fun _ => none) [("a", some "p3")]).map Prod.fst =
        some [.ok (.quote { price := .finite 4, liquidity := .finite 400 })] ∧
      (getPrices triangle (fun _ => none) [("a", none), ("a", some "p3")]).map Prod.fst =
        some [.ok (.quote { price := .finite 4, liquidity := .finite 400 }),
          .ok (.quote zeroResult)] ∧
      ¬ PricesAsAlone triangle (fun _ => none) [("a", none), ("a", some "p3")] := by
  have halone : (getPrices triangle (fun _ => none) [("a", some "p3")]).map Prod.fst =
      some [.ok (.quote { price := .finite 4, liquidity := .finite 400 })] := by
    decide +kernel
  have hshared : (getPrices triangle (fun _ => none) [("a", none), ("a", some "p3")]).map
      Prod.fst = some [.ok (.quote { price := .finite 4, liquidity := .finite 400 }),
        .ok (.quote zeroResult)] := by
    decide +kernel
  refine ⟨halone, hshared, ?_⟩
  rintro ⟨results, hresults, hsame⟩
  obtain rfl := Option.some.inj (hshared.symm.trans hresults)
  cases hsame with
  | cons _ hrest =>
      cases hrest with
      | cons hsecond _ =>
          rw [halone] at hsecond
          exact absurd hsecond (by decide)

end OlympusMetrics.Pricing
