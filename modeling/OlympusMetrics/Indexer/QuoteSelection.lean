import OlympusMetrics.Indexer.Pricing
import OlympusMetrics.Library.LastBest

/-!
Which quote the price resolver returns.

The sources compete by their liquidity. The deterministic ones report a fixed
one, which concentrated-liquidity pools can exceed.
-/

namespace OlympusMetrics

namespace BigNumber

theorem gt_asymm {x y : BigNumber} (h : x.gt y = true) : y.gt x = false := by
  cases x with
  | nan => exact nomatch h
  | infinity s =>
      cases y with
      | nan => rfl
      | infinity t => cases s <;> cases t <;> first | rfl | exact nomatch h
      | finite q => simpa [gt] using h
  | finite p =>
      cases y with
      | nan => rfl
      | infinity t => simpa [gt] using h
      | finite q =>
          simp only [gt, decide_eq_true_eq] at h
          simpa [gt] using h.le

theorem not_nan_of_gt {x y : BigNumber} (h : x.gt y = true) : x ≠ nan ∧ y ≠ nan := by
  constructor
  · rintro rfl
    exact nomatch h
  · rintro rfl
    cases x <;> exact nomatch h

theorem gt_cotrans {x y z : BigNumber} (h : x.gt z = true) (hy : y ≠ nan) (hxy : x.gt y = false) :
    y.gt z = true := by
  cases x with
  | nan => exact nomatch h
  | infinity s =>
      cases s with
      | true => cases z <;> simp [gt] at h
      | false =>
          cases y with
          | nan => exact absurd rfl hy
          | infinity t =>
              obtain rfl : t = false := by simpa [gt] using hxy
              exact h
          | finite q => simp [gt] at hxy
  | finite p =>
      cases y with
      | nan => exact absurd rfl hy
      | infinity t =>
          cases t with
          | true => exact nomatch hxy
          | false =>
              cases z with
              | nan => exact nomatch h
              | infinity u => simpa [gt] using h
              | finite r => rfl
      | finite q =>
          cases z with
          | nan => exact nomatch h
          | infinity u => exact h
          | finite r =>
              simp only [gt, decide_eq_true_eq, decide_eq_false_iff_not, not_lt] at h hxy ⊢
              exact h.trans_le hxy

end BigNumber

namespace Pricing

open Lookup LastBest

/-- A quote and the handler that returned it. -/
structure SourceQuote where
  handler : LiquidityHandler
  quote : PriceLookupResult
  deriving DecidableEq

namespace SourceQuote

/-- Chainlink feeds, the gOHM index and ERC4626 share rates. -/
def isDeterministic (source : SourceQuote) : Bool :=
  match source.handler.kind with
  | .chainlink _ | .gohm _ | .erc4626 .. => true
  | _ => false

def liquidity (source : SourceQuote) : BigNumber := source.quote.liquidity

/-- Whether a quote reports more liquidity than another. -/
def deeper (source other : SourceQuote) : Bool := source.liquidity.gt other.liquidity

/-- The liquidity is a number. -/
def Ranked (source : SourceQuote) : Prop := source.liquidity ≠ .nan

theorem ranks_deeper : Ranks deeper Ranked where
  comparable_left := fun h => (BigNumber.not_nan_of_gt h).1
  comparable_right := fun h => (BigNumber.not_nan_of_gt h).2
  asymm := fun h => BigNumber.gt_asymm h
  cotrans := fun h hy hxy => BigNumber.gt_cotrans h hy hxy

end SourceQuote

/-! ### The quotes of a token -/

section

variable (ctx : PricingContext) (tokenAddress : String) (currentPool : Option String)

/-- The quotes that the loop of `derivePrice` gets from the handlers, in their order. -/
def collectQuotes (currentPoolHandler : Option LiquidityHandler) :
    List LiquidityHandler → PricingProg (List SourceQuote)
  | [] => .ret []
  | handler :: rest =>
      if !ctx.isActive handler || !handler.matches tokenAddress || some handler.id == currentPool ||
          isOtherPoolSibling ctx handler currentPoolHandler then
        collectQuotes currentPoolHandler rest
      else do
        let result ← handlerGetPrice ctx handler tokenAddress
        let quotes ← collectQuotes currentPoolHandler rest
        .ret ((result.map (fun quote => ⟨handler, quote⟩)).toList ++ quotes)

/-- The quotes that `derivePrice` chooses from; there are none for a token that is not active. -/
def quotesOf : PricingProg (List SourceQuote) :=
  let token := getTokenDefinition ctx.config tokenAddress
  if (token.map (fun token => isActive token.startBlock ctx.blockNumber)).getD true then
    let currentPoolHandler := currentPool.bind (fun id =>
      ctx.config.liquidityHandlers.find? (fun handler => handler.id == id))
    collectQuotes ctx tokenAddress currentPool currentPoolHandler ctx.config.liquidityHandlers
  else .ret []

end

/-- The quote that stays. -/
def selectedQuote (quotes : List SourceQuote) : Option SourceQuote :=
  lastBest SourceQuote.deeper quotes

/-- What `derivePrice` returns for the quotes. -/
def selectedResult (quotes : List SourceQuote) : PriceLookupResult :=
  ((selectedQuote quotes).map (·.quote)).getD zeroResult

section

variable {ctx : PricingContext} {tokenAddress : String} {currentPool : Option String}

theorem preferredQuote_map (selected : Option SourceQuote) (source : SourceQuote) :
    preferredQuote (selected.map (·.quote)) (some source.quote) =
      (keep SourceQuote.deeper selected source).map (·.quote) := by
  cases selected with
  | none => rfl
  | some best =>
      simp only [Option.map_some, preferredQuote, keep, SourceQuote.deeper, SourceQuote.liquidity]
      by_cases hgt : best.quote.liquidity.gt source.quote.liquidity = true
      · simp [hgt]
      · simp [hgt]

theorem selectQuote_eq (currentPoolHandler : Option LiquidityHandler)
    (handlers : List LiquidityHandler) (selected : Option SourceQuote) :
    selectQuote ctx tokenAddress currentPool currentPoolHandler handlers (selected.map (·.quote)) =
      collectQuotes ctx tokenAddress currentPool currentPoolHandler handlers >>= fun quotes =>
        .ret (((quotes.foldl (keep SourceQuote.deeper) selected).map (·.quote)).getD zeroResult) := by
  induction handlers generalizing selected with
  | nil => rfl
  | cons handler rest ih =>
      rw [selectQuote, collectQuotes]
      split
      · exact ih selected
      · rw [Prog.bind_assoc]
        refine congrArg (handlerGetPrice ctx handler tokenAddress >>= ·) (funext fun result => ?_)
        rw [Prog.bind_assoc]
        cases result with
        | none => exact ih selected
        | some quote =>
            rw [preferredQuote_map selected ⟨handler, quote⟩]
            exact ih _

/-- `derivePrice` returns one of the quotes that it gets. -/
theorem derivePrice_eq : derivePrice ctx tokenAddress currentPool =
    quotesOf ctx tokenAddress currentPool >>= fun quotes => .ret (selectedResult quotes) := by
  unfold derivePrice quotesOf
  dsimp only
  split
  · exact selectQuote_eq _ _ none
  · rfl

/-! ### The liquidity of deterministic quotes -/

/-- A deterministic handler reports the fixed liquidity. -/
def ReportsPriority (handler : LiquidityHandler) (result : Option PriceLookupResult) : Prop :=
  ∀ quote, result = some quote → (SourceQuote.mk handler quote).isDeterministic = true →
    quote.liquidity = deterministicPriority

theorem ends_of_market {handler : LiquidityHandler} {p : PricingProg (Option PriceLookupResult)}
    (h : ∀ quote, (SourceQuote.mk handler quote).isDeterministic = false) :
    p.Ends (ReportsPriority handler) := by
  have hall (result : Option PriceLookupResult) : ReportsPriority handler result :=
    fun quote _ hdet => nomatch (h quote).symm.trans hdet
  induction p with
  | ret x => exact hall x
  | fail e => trivial
  | read q next ih => exact ih
  | ask key next ih => exact ih

theorem ends_chainlink (handler : LiquidityHandler) (decimals : ℕ) :
    (Chainlink.getPrice ctx handler decimals).Ends (ReportsPriority handler) := by
  unfold Chainlink.getPrice
  split
  · exact fun quote h => nomatch h
  · refine (Prog.ends_any _).bind (fun answer _ => ?_)
    show ReportsPriority handler _
    split
    · exact fun quote h => nomatch h
    · rintro quote h -
      obtain rfl := Option.some.inj h
      rfl

theorem ends_gohm (handler : LiquidityHandler) (ohmToken : String) :
    (Gohm.getPrice ctx handler ohmToken).Ends (ReportsPriority handler) := by
  unfold Gohm.getPrice
  split
  · exact fun quote h => nomatch h
  · split
    · exact fun quote h => nomatch h
    · split
      · exact fun quote h => nomatch h
      · refine (Prog.ends_any _).bind (fun ohmResult _ => ?_)
        show ReportsPriority handler _
        split
        · exact fun quote h => nomatch h
        · rintro quote h -
          obtain rfl := Option.some.inj h
          rfl

theorem ends_erc4626 (handler : LiquidityHandler) (underlying : String)
    (decimals underlyingDecimals : ℕ) :
    (Erc4626.getPrice ctx handler underlying decimals underlyingDecimals).Ends
      (ReportsPriority handler) := by
  unfold Erc4626.getPrice
  split
  · exact fun quote h => nomatch h
  · refine (Prog.ends_any _).bind (fun raw _ => ?_)
    cases raw with
    | none => exact fun quote h => nomatch h
    | some raw =>
        refine (Prog.ends_any _).bind (fun result _ => ?_)
        show ReportsPriority handler _
        split
        · exact fun quote h => nomatch h
        · rintro quote h -
          obtain rfl := Option.some.inj h
          rfl

theorem ends_handlerGetPrice (handler : LiquidityHandler) :
    (handlerGetPrice ctx handler tokenAddress).Ends (ReportsPriority handler) := by
  unfold handlerGetPrice
  cases hkind : handler.kind with
  | chainlink decimals => exact ends_chainlink handler decimals
  | gohm ohmToken => exact ends_gohm handler ohmToken
  | erc4626 underlying decimals underlyingDecimals =>
      exact ends_erc4626 handler underlying decimals underlyingDecimals
  | stable | remap target | curve lpToken coins coinDecimals
  | fraxswap token0 token1 decimals0 decimals1 | univ2 | univ3 | univ3Quoter quoter
  | balancer vault | kodiak pool quoter rewardVault =>
      exact ends_of_market (fun quote => by simp only [SourceQuote.isDeterministic, hkind])

/-- Every deterministic quote that `derivePrice` gets reports the fixed liquidity. -/
theorem ends_quotesOf : (quotesOf ctx tokenAddress currentPool).Ends (fun quotes =>
    ∀ source ∈ quotes, source.isDeterministic = true →
      source.liquidity = deterministicPriority) := by
  have hcollect (currentPoolHandler : Option LiquidityHandler) (handlers : List LiquidityHandler) :
      (collectQuotes ctx tokenAddress currentPool currentPoolHandler handlers).Ends (fun quotes =>
        ∀ source ∈ quotes, source.isDeterministic = true →
          source.liquidity = deterministicPriority) := by
    induction handlers with
    | nil => exact fun source h => nomatch h
    | cons handler rest ih =>
        rw [collectQuotes]
        split
        · exact ih
        · refine (ends_handlerGetPrice handler).bind (fun result hresult => ?_)
          refine ih.bind (fun quotes hquotes source hsource hdet => ?_)
          rcases List.mem_append.mp hsource with hsource | hsource
          · cases result with
            | none => exact nomatch hsource
            | some quote =>
                obtain rfl := List.mem_singleton.mp hsource
                exact hresult quote rfl hdet
          · exact hquotes source hsource hdet
  unfold quotesOf
  dsimp only
  split
  · exact hcollect _ _
  · exact fun source h => nomatch h

end

/-! ### Dominance -/

/-- The quotes of deterministic sources. -/
def deterministicQuotes (quotes : List SourceQuote) : List SourceQuote :=
  quotes.filter SourceQuote.isDeterministic

/-- The selected quote is that of the only deterministic source, with its liquidity and not only with
its price; where there is none, no quote reports more liquidity. -/
structure PricedRight (quotes : List SourceQuote) (selected : SourceQuote) : Prop where
  deterministic : ∀ source, deterministicQuotes quotes = [source] → selected = source
  market : deterministicQuotes quotes = [] → ∀ other ∈ quotes, other.deeper selected = false

/-- The liquidity of market quotes does not reach that of the only deterministic source: it is below
it for those listed later, and not above it for those listed earlier, unless a quote follows whose
liquidity is not a number. Where there is no such source, such a quote is not followed by shallower
ones only. -/
structure RanksRight (quotes : List SourceQuote) : Prop where
  later : ∀ before source after, quotes = before ++ source :: after →
    deterministicQuotes quotes = [source] → ∀ other ∈ after,
      deterministicPriority.gt other.liquidity = true
  earlier : ∀ before source after, quotes = before ++ source :: after →
    deterministicQuotes quotes = [source] → ∀ early other late, before = early ++ other :: late →
      other.liquidity.gt deterministicPriority = true → ∃ hidden ∈ late, hidden.liquidity = .nan
  market : deterministicQuotes quotes = [] → ∀ early hidden late, quotes = early ++ hidden :: late →
    hidden.liquidity = .nan → late ≠ [] → (∀ other ∈ late, other.liquidity ≠ .nan) →
      ∀ other ∈ early, ∃ kept ∈ late, other.deeper kept = false

theorem selectedQuote_eq_iff {before after : List SourceQuote} {source : SourceQuote}
    (hbefore : source ∉ before) (hafter : source ∉ after)
    (hliquidity : source.liquidity = deterministicPriority) :
    selectedQuote (before ++ source :: after) = some source ↔
      (∀ other ∈ after, deterministicPriority.gt other.liquidity = true) ∧
        ∀ early other late, before = early ++ other :: late →
          other.liquidity.gt deterministicPriority = true →
            ∃ hidden ∈ late, hidden.liquidity = .nan := by
  have h := lastBest_eq_iff SourceQuote.ranks_deeper hbefore hafter
  unfold selectedQuote
  simpa only [SourceQuote.deeper, SourceQuote.Ranked, hliquidity, not_not] using h

/-- The only deterministic quote occurs once. -/
theorem notMem_of_deterministicQuotes {before after : List SourceQuote} {source : SourceQuote}
    (h : deterministicQuotes (before ++ source :: after) = [source]) :
    source ∉ before ∧ source ∉ after := by
  have hdet : source.isDeterministic = true := by
    have hmem : source ∈ deterministicQuotes (before ++ source :: after) := by simp [h]
    exact (List.mem_filter.mp hmem).2
  rw [deterministicQuotes, List.filter_append, List.filter_cons_of_pos hdet] at h
  have hlength := congrArg List.length h
  rw [List.length_append, List.length_cons, List.length_singleton] at hlength
  have hnone {quotes : List SourceQuote} (hzero : (quotes.filter SourceQuote.isDeterministic).length = 0) :
      source ∉ quotes := by
    intro hmem
    have hfiltered := List.mem_filter.mpr ⟨hmem, hdet⟩
    rw [List.eq_nil_of_length_eq_zero hzero] at hfiltered
    exact absurd hfiltered List.not_mem_nil
  constructor
  · apply hnone
    omega
  · apply hnone
    omega

theorem exists_split_of_deterministicQuotes {quotes : List SourceQuote} {source : SourceQuote}
    (h : deterministicQuotes quotes = [source]) :
    ∃ before after, quotes = before ++ source :: after := by
  have hmem : source ∈ deterministicQuotes quotes := by simp [h]
  exact List.append_of_mem (List.mem_filter.mp hmem).1

theorem pricedRight_iff {quotes : List SourceQuote} (hquotes : quotes ≠ [])
    (hpriority : ∀ source ∈ quotes, source.isDeterministic = true →
      source.liquidity = deterministicPriority) :
    (∃ selected, selectedQuote quotes = some selected ∧ PricedRight quotes selected) ↔
      RanksRight quotes := by
  have hsome : selectedQuote quotes ≠ none := fun hnone => hquotes (lastBest_eq_none_iff.mp hnone)
  obtain ⟨selected, hselected⟩ := Option.ne_none_iff_exists'.mp hsome
  have hsource {before after : List SourceQuote} {source : SourceQuote}
      (heq : quotes = before ++ source :: after) (hdet : deterministicQuotes quotes = [source]) :
      selected = source ↔ (∀ other ∈ after, deterministicPriority.gt other.liquidity = true) ∧
        ∀ early other late, before = early ++ other :: late →
          other.liquidity.gt deterministicPriority = true →
            ∃ hidden ∈ late, hidden.liquidity = .nan := by
    have hmem : source ∈ deterministicQuotes quotes := by simp [hdet]
    obtain ⟨hstored, hdeterministic⟩ := List.mem_filter.mp hmem
    have hliquidity := hpriority source hstored hdeterministic
    rw [heq] at hdet hselected
    obtain ⟨hbefore, hafter⟩ := notMem_of_deterministicQuotes hdet
    rw [← selectedQuote_eq_iff hbefore hafter hliquidity, hselected, Option.some.injEq]
  have hmarket : (∀ other ∈ quotes, other.deeper selected = false) ↔
      ∀ early hidden late, quotes = early ++ hidden :: late → hidden.liquidity = .nan →
        late ≠ [] → (∀ other ∈ late, other.liquidity ≠ .nan) →
          ∀ other ∈ early, ∃ kept ∈ late, other.deeper kept = false := by
    have h := @unbeaten_iff _ _ _ SourceQuote.ranks_deeper quotes
    simp only [SourceQuote.Ranked, not_not] at h
    rw [← h]
    refine ⟨fun hall best hbest => ?_, fun hall => hall selected hselected⟩
    obtain rfl := Option.some.inj (hselected.symm.trans hbest)
    exact hall
  constructor
  · rintro ⟨selected', hselected', hright⟩
    obtain rfl := Option.some.inj (hselected.symm.trans hselected')
    refine ⟨fun before source after heq hdet => ?_, fun before source after heq hdet => ?_,
      fun hnone => hmarket.mp (hright.market hnone)⟩
    · exact ((hsource heq hdet).mp (hright.deterministic source hdet)).1
    · exact ((hsource heq hdet).mp (hright.deterministic source hdet)).2
  · intro hranks
    refine ⟨selected, hselected, fun source hdet => ?_, fun hnone => hmarket.mpr (hranks.market hnone)⟩
    obtain ⟨before, after, heq⟩ := exists_split_of_deterministicQuotes hdet
    exact (hsource heq hdet).mpr ⟨hranks.later _ _ _ heq hdet, hranks.earlier _ _ _ heq hdet⟩

/-- `derivePrice` returns one of the quotes that it gets, and that one should dominate exactly when no
market liquidity reaches the fixed one. -/
theorem derivePrice_dominance_iff (ctx : PricingContext) (tokenAddress : String)
    (currentPool : Option String) (answer : LedgerKey → Option ℤ)
    (look : PricingKey → Session LedgerKey PricingKey PricingValue →
      Option (Except String PricingValue × Session LedgerKey PricingKey PricingValue))
    (s s' : Session LedgerKey PricingKey PricingValue) (quotes : List SourceQuote)
    (h : (quotesOf ctx tokenAddress currentPool).run answer look s = some (.ok quotes, s'))
    (hquotes : quotes ≠ []) :
    ∃ selected, selectedQuote quotes = some selected ∧
      (derivePrice ctx tokenAddress currentPool).run answer look s =
        some (.ok selected.quote, s') ∧
      (PricedRight quotes selected ↔ RanksRight quotes) := by
  have hpriority := ends_quotesOf.run h
  have hsome : selectedQuote quotes ≠ none := fun hnone => hquotes (lastBest_eq_none_iff.mp hnone)
  obtain ⟨selected, hselected⟩ := Option.ne_none_iff_exists'.mp hsome
  refine ⟨selected, hselected, ?_, ?_⟩
  · rw [derivePrice_eq, Prog.run_bind_ok h, selectedResult, hselected]
    rfl
  · rw [← pricedRight_iff hquotes hpriority]
    refine ⟨fun hright => ⟨selected, hselected, hright⟩, ?_⟩
    rintro ⟨other, hother, hright⟩
    obtain rfl := Option.some.inj (hselected.symm.trans hother)
    exact hright

/-! ### A feed beside a concentrated pool -/

/-- A token with a Chainlink feed and a pool against a stable token. -/
def feedConfig : ChainConfig where
  chainId := .ethereum
  blockchain := "Ethereum"
  startBlock := 0
  tokens := []
  names := []
  abbreviations := []
  protocolAddresses := []
  circulatingSupplyWallets := []
  treasuryBlacklist := []
  ohmToken := "a"
  liquidityHandlers :=
    [{ kind := .chainlink 8, id := "feed", tokens := ["a"] },
     { kind := .univ3, id := "pool", tokens := ["a", "c"] },
     { kind := .stable, id := "s", tokens := ["c"] }]
  ownedLiquidityHandlers := []

/-- The feed answers two dollars, and the pool has a price of one and some liquidity. -/
def feedContext (liquidity : ℤ) : PricingContext where
  config := feedConfig
  blockNumber := 1
  view :=
    { univ2PoolState := fun _ => none
      univ3PoolState := fun _ => some { sqrtPriceX96 := 2 ^ 96, liquidity := liquidity }
      balancerPoolState := fun _ => none
      kodiakPool := fun _ => none
      ohmIndexState := fun _ => none
      readChainlinkLatestAnswer := fun _ => .ok 200000000
      readErc4626AssetsPerShare := fun _ _ => .error "execution reverted"
      snapshotCurvePool := fun _ _ _ => .error "execution reverted"
      snapshotFraxSwapPool := fun _ => .error "execution reverted"
      getWeightsAndDecimals := fun _ => .error "execution reverted"
      getUnderlyingBalances := fun _ => .error "execution reverted" }

/-- The lookups of the snapshot. -/
def feedLook (liquidity : ℤ) : PricingKey → Session LedgerKey PricingKey PricingValue →
    Option (Except String PricingValue × Session LedgerKey PricingKey PricingValue) :=
  (pricingService (feedContext liquidity) (fun _ => none)).look 3 []

/-- The quotes of `a`: that of the feed and that of the pool. -/
def feedQuotes (liquidity : ℤ) : List SourceQuote :=
  [⟨{ kind := .chainlink 8, id := "feed", tokens := ["a"] }, ⟨.finite 2, deterministicPriority⟩⟩,
   ⟨{ kind := .univ3, id := "pool", tokens := ["a", "c"] }, ⟨.finite 1, .ofInt liquidity⟩⟩]

/-- The quotes of a run, with the session left out. -/
def ranQuotes (liquidity : ℤ) : Option (List SourceQuote) :=
  match (quotesOf (feedContext liquidity) "a" none).run (fun _ => none) (feedLook liquidity) .fresh with
  | some (.ok quotes, _) => some quotes
  | _ => none

theorem exists_of_ranQuotes {liquidity : ℤ} {quotes : List SourceQuote}
    (h : ranQuotes liquidity = some quotes) : ∃ s', (quotesOf (feedContext liquidity) "a" none).run
      (fun _ => none) (feedLook liquidity) .fresh = some (.ok quotes, s') := by
  unfold ranQuotes at h
  split at h
  · next heq => exact ⟨_, Option.some.inj h ▸ heq⟩
  · exact nomatch h

/-- In a pool of an ordinary size the feed dominates. -/
theorem feed_dominates : ∃ selected, selectedQuote (feedQuotes (10 ^ 20)) = some selected ∧
    (PricedRight (feedQuotes (10 ^ 20)) selected ↔ RanksRight (feedQuotes (10 ^ 20))) := by
  obtain ⟨s', hrun⟩ := exists_of_ranQuotes
    (show ranQuotes (10 ^ 20) = some (feedQuotes (10 ^ 20)) by decide +kernel)
  obtain ⟨selected, hselected, -, hiff⟩ := derivePrice_dominance_iff (feedContext (10 ^ 20)) "a" none
    (fun _ => none) (feedLook (10 ^ 20)) .fresh s' (feedQuotes (10 ^ 20)) hrun (by simp [feedQuotes])
  exact ⟨selected, hselected, hiff⟩

/-- A pool of more liquidity than the fixed one hides the feed. -/
theorem deep_pool_hides_feed : ∃ s' selected,
    (quotesOf (feedContext (10 ^ 31)) "a" none).run (fun _ => none) (feedLook (10 ^ 31)) .fresh =
        some (.ok (feedQuotes (10 ^ 31)), s') ∧
      (derivePrice (feedContext (10 ^ 31)) "a" none).run (fun _ => none) (feedLook (10 ^ 31)) .fresh =
        some (.ok selected.quote, s') ∧
      selectedQuote (feedQuotes (10 ^ 31)) = some selected ∧ selected.quote.price = .finite 1 ∧
      ¬ PricedRight (feedQuotes (10 ^ 31)) selected := by
  obtain ⟨s', hrun⟩ := exists_of_ranQuotes
    (show ranQuotes (10 ^ 31) = some (feedQuotes (10 ^ 31)) by decide +kernel)
  have hselected : selectedQuote (feedQuotes (10 ^ 31)) = some
      ⟨{ kind := .univ3, id := "pool", tokens := ["a", "c"] }, ⟨.finite 1, .ofInt (10 ^ 31)⟩⟩ := by
    decide +kernel
  refine ⟨s', _, hrun, ?_, hselected, rfl, fun hright => ?_⟩
  · rw [derivePrice_eq, Prog.run_bind_ok hrun, selectedResult, hselected]
    rfl
  · have hsource := hright.deterministic
      ⟨{ kind := .chainlink 8, id := "feed", tokens := ["a"] }, ⟨.finite 2, deterministicPriority⟩⟩
      (by decide +kernel)
    exact absurd (congrArg (fun source => source.handler.id) hsource) (by decide)

end Pricing

end OlympusMetrics
