import OlympusMetrics.Indexer.TreasuryEntries
import OlympusMetrics.Library.LookupValues

/-!
Which holdings of the treasury the two loops report: each of them once, but for
those of the Convex wrappers, which no loop goes through.
-/

namespace OlympusMetrics.Pricing

open Lookup BigNumber

/-! ### Prices at a snapshot -/

section

variable (ctx : PricingContext) (ledger : LedgerKey → Option ℤ) (s : PricingSession)

/-- The lookup gives the value in the session. -/
def Returns (key : PricingKey) (value : PricingValue) : Prop :=
  ∃ fuel s', (pricingService ctx ledger).look fuel [] key s = some (.ok value, s')

/-- `getPrice` gives a price other than zero. -/
def HasPrice (token : String) : Prop :=
  ∃ result, Returns ctx ledger s (.price token none) (.quote result) ∧ result.price ≠ 0

/-- A handler has a total value and a unit price other than zero. -/
def HasUnitValue (handler : LiquidityHandler) : Prop :=
  ∃ totalValue unitPrice, Returns ctx ledger s (.totalValue handler []) (.value (some totalValue)) ∧
    totalValue ≠ 0 ∧ Returns ctx ledger s (.unitPrice handler) (.value (some unitPrice)) ∧
    unitPrice ≠ 0

/-- No owned-liquidity handler has the token as its LP token. -/
def NoLpToken (config : ChainConfig) (token : String) : Prop :=
  ∀ handler ∈ config.ownedLiquidityHandlers, getLpTokenForHandler handler ≠ some token

instance (config : ChainConfig) (token : String) : Decidable (NoLpToken config token) :=
  inferInstanceAs (Decidable (∀ handler ∈ config.ownedLiquidityHandlers, _))

/-- The token has a price other than zero: of its handler if it is an LP token, else its own. -/
def IsPriced (token : String) : Prop :=
  (∃ handler ∈ ctx.config.ownedLiquidityHandlers, getLpTokenForHandler handler = some token ∧
    HasUnitValue ctx ledger s handler) ∨
    (NoLpToken ctx.config token ∧ HasPrice ctx ledger s token)

end

/-- The contribution reports the holding. -/
def Contribution.IsOf (token wallet : String) (contribution : Contribution) : Bool :=
  contribution.token == token && contribution.wallet == wallet

section

variable (ctx : PricingContext) (reads : ChainReads) (ledger : LedgerKey → Option ℤ)

/-- Each holding of an active and priced token is reported once. -/
def ReportedOnce (s : PricingSession) (contributions : List Contribution) : Prop :=
  ∀ definition ∈ ctx.config.tokens, isActive definition.startBlock ctx.blockNumber = true →
    IsPriced ctx ledger s definition.address →
    ∀ wallet ∈ getWalletAddressesForContract ctx.config definition.address,
      HasBalance ctx reads ledger definition.address wallet →
      contributions.countP (Contribution.IsOf definition.address wallet) = 1

open Chains.Ethereum in
/-- The staked Curve LP tokens, whose category is neither `Stable` nor `Volatile`. -/
def convexWrappers : ChainId → List String
  | .ethereum => [convexRewardOhmEth, convexRewardOhmFraxbp, convexRewardFraxUsdc]
  | _ => []

/-- No wallet holds an active Convex wrapper that has a price. -/
def ConvexUnheld (c : ChainId) (s : PricingSession) : Prop :=
  ∀ definition ∈ ctx.config.tokens, definition.address ∈ convexWrappers c →
    isActive definition.startBlock ctx.blockNumber = true →
    HasPrice ctx ledger s definition.address →
    ∀ wallet ∈ getWalletAddressesForContract ctx.config definition.address,
      ¬HasBalance ctx reads ledger definition.address wallet

end

/-! ### Counting in nested loops -/

section count

variable {α β : Type} {p : β → Bool}

theorem countP_flatMap_eq_zero {l : List α} {f : α → List β}
    (h : ∀ x ∈ l, (f x).countP p = 0) : (l.flatMap f).countP p = 0 := by
  rw [List.countP_eq_zero]
  intro y hy
  obtain ⟨x, hx, hxy⟩ := List.mem_flatMap.mp hy
  exact List.countP_eq_zero.mp (h x hx) y hxy

/-- Only one element of a list without repetitions contributes. -/
theorem countP_flatMap_of_nodup {l : List α} {f : α → List β} {a : α} (hnodup : l.Nodup)
    (ha : a ∈ l) (h : ∀ x ∈ l, x ≠ a → (f x).countP p = 0) :
    (l.flatMap f).countP p = (f a).countP p := by
  induction l with
  | nil => cases ha
  | cons x l ih =>
      rw [List.nodup_cons] at hnodup
      rw [List.flatMap_cons, List.countP_append]
      rcases List.mem_cons.mp ha with rfl | ha
      · have hrest : (l.flatMap f).countP p = 0 :=
          countP_flatMap_eq_zero (fun y hy =>
            h y (List.mem_cons_of_mem _ hy) (fun heq => hnodup.1 (heq ▸ hy)))
        rw [hrest, add_zero]
      · have hx : (f x).countP p = 0 :=
          h x List.mem_cons_self (fun heq => hnodup.1 (heq ▸ ha))
        rw [hx, zero_add, ih hnodup.2 ha (fun y hy => h y (List.mem_cons_of_mem _ hy))]

end count

section

variable {ctx : PricingContext} {reads : ChainReads} {ledger : LedgerKey → Option ℤ}
  {timestamp : ℕ} {cached : PricingKey → Option PricingValue}

theorem holding_of_contributionOf {token wallet : String}
    {record : String → BigNumber → SerializedTokenRecord} {contribution : Contribution}
    (h : contributionOf ctx reads ledger token record wallet = some contribution) :
    contribution.token = token ∧ contribution.wallet = wallet := by
  unfold contributionOf at h
  split at h
  · cases h
  · split at h
    · cases h
    · obtain rfl := Option.some.inj h
      exact ⟨rfl, rfl⟩

theorem countP_contributions_of_ne {token token' wallet : String} (hne : token' ≠ token)
    (record : String → BigNumber → SerializedTokenRecord) (wallets : List String) :
    (wallets.filterMap (contributionOf ctx reads ledger token' record)).countP
      (Contribution.IsOf token wallet) = 0 := by
  rw [List.countP_eq_zero]
  intro contribution hmem hof
  obtain ⟨wallet', -, hcontribution⟩ := List.mem_filterMap.mp hmem
  obtain ⟨htoken, -⟩ := holding_of_contributionOf hcontribution
  simp only [Contribution.IsOf, Bool.and_eq_true, beq_iff_eq] at hof
  exact hne (htoken.symm.trans hof.1)

/-- A wallet with a balance contributes once. -/
theorem countP_contributions {token wallet : String}
    (record : String → BigNumber → SerializedTokenRecord) {wallets : List String}
    (hnodup : wallets.Nodup) (hwallet : wallet ∈ wallets)
    (hbalance : HasBalance ctx reads ledger token wallet) :
    (wallets.filterMap (contributionOf ctx reads ledger token record)).countP
      (Contribution.IsOf token wallet) = 1 := by
  obtain ⟨raw, hraw, hne⟩ := hbalance
  rw [List.filterMap_eq_flatMap_toList, countP_flatMap_of_nodup hnodup hwallet]
  · rw [contributionOf, hraw]
    simp [hne, Contribution.IsOf]
  · intro wallet' _ hother
    rw [List.countP_eq_zero]
    intro contribution hmem hof
    obtain ⟨-, hwallet'⟩ := holding_of_contributionOf (Option.mem_toList.mp hmem)
    simp only [Contribution.IsOf, Bool.and_eq_true, beq_iff_eq] at hof
    exact hother (hwallet'.symm.trans hof.2)

end

/-! ### The partition of the shipped tokens -/

/-- The tokens that remaps price other tokens by. -/
def remapTargets (config : ChainConfig) : List String :=
  config.liquidityHandlers.filterMap (fun handler =>
    match handler.kind with
    | .remap target => some target
    | _ => none)

/-- No handler lists the token, or only remaps to a token that no handler lists. -/
def Unpriced (config : ChainConfig) (token : String) : Prop :=
  Unlisted config token ∨
    ∃ target ∈ remapTargets config, Unlisted config target ∧ OnlyRemapped config target token

instance (config : ChainConfig) (token : String) : Decidable (Unpriced config token) :=
  inferInstanceAs (Decidable (_ ∨ ∃ target ∈ remapTargets config, _))

/-- What the loops rely on to report each token in one of them. -/
structure Partitioned (c : ChainId) (config : ChainConfig) : Prop where
  addresses : (config.tokens.map (·.address)).Nodup
  wallets : config.protocolAddresses.Nodup
  handlers : config.ownedLiquidityHandlers.Nodup
  lpTokens : ∀ handler ∈ config.ownedLiquidityHandlers,
    ∀ other ∈ config.ownedLiquidityHandlers, (getLpTokenForHandler handler).isSome →
      getLpTokenForHandler other = getLpTokenForHandler handler → other = handler
  reported : ∀ definition ∈ config.tokens, isReported definition = true →
    NoLpToken config definition.address
  rest : ∀ definition ∈ config.tokens, isReported definition = false →
    NoLpToken config definition.address → definition.address ∉ convexWrappers c →
    Unpriced config definition.address
  convex : ∀ definition ∈ config.tokens, definition.address ∈ convexWrappers c →
    isReported definition = false ∧ NoLpToken config definition.address

theorem plainConfig_shipped (c : ChainId) : PlainConfig (chainConfigs c) where
  decimals := by cases c <;> decide +kernel
  flags := by cases c <;> decide +kernel
  pools := by
    have hpools : ∀ handler ∈ (chainConfigs c).ownedLiquidityHandlers,
        ∀ lpToken ∈ getLpTokenForHandler handler,
          lpToken ≠ "" ∧ (chainConfigs c).nativeToken ≠ some lpToken := by
      cases c <;> decide +kernel
    exact hpools

theorem partitioned_shipped (c : ChainId) : Partitioned c (chainConfigs c) where
  addresses := by cases c <;> decide +kernel
  wallets := nodup_protocolAddresses c
  handlers := by cases c <;> decide +kernel
  lpTokens := by cases c <;> decide +kernel
  reported := by cases c <;> decide +kernel
  rest := by cases c <;> decide +kernel
  convex := by cases c <;> decide +kernel

/-! ### What the loops leave cached -/

section

variable {ctx : PricingContext} {reads : ChainReads} {ledger : LedgerKey → Option ℤ}
  {timestamp : ℕ} {cached : PricingKey → Option PricingValue} {s : PricingSession}

theorem Returns.eq_of_cached {key : PricingKey} {value found : PricingValue}
    (h : Returns ctx ledger s key value) (hfound : s.cached key = some found) : value = found := by
  obtain ⟨fuel, s', hlook⟩ := h
  have hvalue := cached_of_look (pricingService ctx ledger) List.not_mem_nil hlook
  have hkept := look_keeps (pricingService ctx ledger) hlook key found hfound
  exact Option.some.inj (hvalue.symm.trans hkept)

/-- The first loop asks for the price of every token that it reports. -/
theorem cached_of_pushTokenRecords {tokens : List TokenDefinition}
    {records records' : List SerializedTokenRecord}
    (h : (pushTokenRecords ctx reads timestamp tokens records).fromCache ledger cached =
      some (.ok records')) {definition : TokenDefinition} (hmem : definition ∈ tokens)
    (hreports : reportsBalance ctx.blockNumber definition = true) :
    ∃ value, cached (.price definition.address none) = some value := by
  induction tokens generalizing records with
  | nil => cases hmem
  | cons head rest ih =>
      rw [pushTokenRecords] at h
      split at h
      · next hskip =>
          rcases List.mem_cons.mp hmem with rfl | hmem
          · rw [hreports] at hskip
            cases hskip
          · exact ih h hmem
      · obtain ⟨result, hresult, h⟩ := Prog.fromCache_bind_ok_iff.mp h
        obtain ⟨value, hvalue, -⟩ := Option.bind_eq_some_iff.mp hresult
        rcases List.mem_cons.mp hmem with rfl | hmem
        · exact ⟨value, hvalue⟩
        · split at h
          · exact ih h hmem
          · obtain ⟨mid, -, h⟩ := Prog.fromCache_bind_ok_iff.mp h
            exact ih h hmem

/-- The second loop asks for the rates of every active handler with an LP token. -/
theorem rates_of_pushHandlerRecords (hplain : PlainConfig ctx.config)
    {handlers : List LiquidityHandler} (hhandlers : handlers ⊆ ctx.config.ownedLiquidityHandlers)
    {records records' : List SerializedTokenRecord}
    (h : (pushHandlerRecords ctx reads.readErc20BalanceOf timestamp handlers records).fromCache
      ledger cached = some (.ok records'))
    {handler : LiquidityHandler} (hmem : handler ∈ handlers)
    (hactive : ctx.isActive handler = true) {lpToken : String}
    (hlp : getLpTokenForHandler handler = some lpToken) :
    ∃ rates, (unitRateAndMultiplier ctx handler).fromCache ledger cached = some (.ok rates) := by
  induction handlers generalizing records with
  | nil => cases hmem
  | cons head rest ih =>
      obtain ⟨hhead, hrest⟩ := List.cons_subset.mp hhandlers
      rw [pushHandlerRecords] at h
      rcases List.mem_cons.mp hmem with rfl | hmem
      · rw [if_neg (by simp [hactive]), hlp] at h
        dsimp only at h
        rw [if_neg (hplain.pools _ hhead lpToken hlp).1] at h
        obtain ⟨rates, hrates, -⟩ := Prog.fromCache_bind_ok_iff.mp h
        exact ⟨rates, hrates⟩
      · split at h
        · exact ih hrest h hmem
        · split at h
          · exact ih hrest h hmem
          · split at h
            · exact ih hrest h hmem
            · obtain ⟨rates, -, h⟩ := Prog.fromCache_bind_ok_iff.mp h
              cases rates with
              | none => exact ih hrest h hmem
              | some rates =>
                  obtain ⟨mid, -, h⟩ := Prog.fromCache_bind_ok_iff.mp h
                  exact ih hrest h hmem

/-- A total value that a lookup returns is that of a pool whose state is there. -/
theorem hasPoolState_of_returns (hs : (pricingService ctx ledger).Reached s)
    {handler : LiquidityHandler} (hpool : IsPool handler) {totalValue : BigNumber}
    (h : Returns ctx ledger s (.totalValue handler []) (.value (some totalValue))) :
    hasPoolState ctx handler = true := by
  obtain ⟨fuel, s', hlook⟩ := h
  have hsettled : (pricingService ctx ledger).Settled IsPriceKey s' :=
    look_settled (within_pricingLookup ctx) (pricing_settled hs) hlook
  have hcached := cached_of_look (pricingService ctx ledger) List.not_mem_nil hlook
  have hvalue : (getTotalValue handler []).fromCache ledger s'.cached =
      some (.ok (some totalValue)) := by
    have hsorted : sortedTokens [] = [] := rfl
    rw [getTotalValue, Prog.fromCache_ask, hsorted, hcached]
    rfl
  have hpoolValue := value_of_getTotalValue hsettled hpool hvalue
  unfold poolValue at hpoolValue
  split at hpoolValue
  · assumption
  · cases hpoolValue

/-- An active handler whose total value and unit price are not zero has rates. -/
theorem cachedRates_of_returns (hs : (pricingService ctx ledger).Reached s)
    {handler : LiquidityHandler} (hpool : IsPool handler)
    (hvalue : HasUnitValue ctx ledger s handler)
    (hrates : ∃ rates, (unitRateAndMultiplier ctx handler).fromCache ledger s.cached =
      some (.ok rates)) :
    ∃ unitRate multiplier,
      cachedRates ctx ledger s.cached handler = some (unitRate, multiplier) := by
  obtain ⟨totalValue, unitPrice, htotal, hne, hunit, -⟩ := hvalue
  have hstate := hasPoolState_of_returns hs hpool htotal
  obtain ⟨rates, hrates⟩ := hrates
  have hcached : cachedRates ctx ledger s.cached handler = rates := by
    rw [cachedRates, hrates]
  rw [hcached]
  unfold unitRateAndMultiplier at hrates
  obtain ⟨total, htotal', hrates⟩ := Prog.fromCache_bind_ok_iff.mp hrates
  obtain ⟨found, hfound, htotal'⟩ := Option.bind_eq_some_iff.mp htotal'
  obtain rfl := htotal.eq_of_cached hfound
  obtain rfl : some totalValue = total := by simpa using htotal'
  dsimp only at hrates
  rw [if_neg (by rw [eq_zero_iff]; exact hne)] at hrates
  obtain ⟨included, hincluded, hrates⟩ := Prog.fromCache_bind_ok_iff.mp hrates
  obtain rfl := value_of_getTotalValue (pricing_settled hs) hpool hincluded
  rw [poolValue, if_pos hstate] at hrates
  dsimp only at hrates
  obtain ⟨unit, hunit', hrates⟩ := Prog.fromCache_bind_ok_iff.mp hrates
  obtain ⟨found, hfound, hunit'⟩ := Option.bind_eq_some_iff.mp hunit'
  obtain rfl := hunit.eq_of_cached hfound
  obtain rfl : some unitPrice = unit := by simpa using hunit'
  obtain rfl : _ = rates := by simpa using hrates
  exact ⟨_, _, rfl⟩

end

/-! ### Tokens without a price -/

section

variable {ctx : PricingContext} {ledger : LedgerKey → Option ℤ} {s : PricingSession}

/-- The prices of tokens that cannot be priced are zero. -/
def ZeroIfUnpriced (config : ChainConfig) (key : PricingKey) (value : PricingValue) : Prop :=
  ∀ token currentPool, key = .price token currentPool → Unpriced config token →
    value = .quote zeroResult

theorem gives_selectQuote_of_remapped {target token : String} {currentPool : Option String}
    (htarget : Unlisted ctx.config target) (currentPoolHandler : Option LiquidityHandler)
    {handlers : List LiquidityHandler}
    (hremap : ∀ handler ∈ handlers, handler.matches token = true → handler.kind = .remap target) :
    (selectQuote ctx token currentPool currentPoolHandler handlers none).Gives
      (ZeroIfUnpriced ctx.config) (fun result => result = zeroResult) := by
  induction handlers with
  | nil => exact rfl
  | cons handler rest ih =>
      have hrest := ih (fun handler hmem => hremap handler (List.mem_cons_of_mem _ hmem))
      rw [selectQuote]
      split
      · exact hrest
      · next hskip =>
          have hmatches : handler.matches token = true := by
            simp only [Bool.or_eq_true, not_or] at hskip
            simpa using hskip.1.1.2
          have hkind := hremap handler List.mem_cons_self hmatches
          have hquote : (handlerGetPrice ctx handler token).Gives (ZeroIfUnpriced ctx.config)
              (fun result => result = none) := by
            have hremaps : handlerGetPrice ctx handler token = Remap.getPrice ctx handler target := by
              rw [handlerGetPrice, hkind]
            rw [hremaps, Remap.getPrice]
            split
            · exact rfl
            · intro value hvalue
              obtain rfl := hvalue target (some handler.id) rfl (Or.inl htarget)
              exact rfl
          refine hquote.bind (fun result hresult => ?_)
          rw [hresult]
          exact hrest

theorem gives_derivePrice_of_unpriced {token : String} (h : Unpriced ctx.config token)
    (currentPool : Option String) :
    (derivePrice ctx token currentPool).Gives (ZeroIfUnpriced ctx.config)
      (fun result => result = zeroResult) := by
  rcases h with hunlisted | ⟨target, -, htarget, hremap⟩
  · rw [derivePrice_of_unlisted hunlisted]
    exact rfl
  · unfold derivePrice
    dsimp only
    split
    · exact gives_selectQuote_of_remapped htarget _ hremap
    · exact rfl

theorem gives_pricingLookup (key : PricingKey) :
    (pricingLookup ctx key).Gives (ZeroIfUnpriced ctx.config)
      (ZeroIfUnpriced ctx.config key) := by
  cases key with
  | price token currentPool =>
      by_cases hunpriced : Unpriced ctx.config token
      · refine (gives_derivePrice_of_unpriced hunpriced currentPool).bind (fun result hresult => ?_)
        intro _ _ _ _
        rw [hresult]
      · refine Prog.gives_of_forall (fun value token' currentPool' heq h => ?_) _
        obtain ⟨rfl, -⟩ := PricingKey.price.inj heq
        exact absurd h hunpriced
  | totalValue handler excludedTokens =>
      exact Prog.gives_of_forall (fun value _ _ heq => nomatch heq) _
  | unitPrice handler => exact Prog.gives_of_forall (fun value _ _ heq => nomatch heq) _

/-- In every session a token that cannot be priced has no price. -/
theorem not_hasPrice_of_unpriced (hs : (pricingService ctx ledger).Reached s) {token : String}
    (h : Unpriced ctx.config token) : ¬HasPrice ctx ledger s token := by
  have hfallback (key : PricingKey) :
      ZeroIfUnpriced ctx.config key ((pricingService ctx ledger).fallback key) := by
    rintro token currentPool rfl -
    rfl
  rintro ⟨result, ⟨fuel, s', hlook⟩, hne⟩
  have hgood : s.Good (ZeroIfUnpriced ctx.config) :=
    good_of_reached hfallback (fun key => gives_pricingLookup key) hs
  have hvalue := (look_gives hfallback (fun key => gives_pricingLookup key) hgood hlook).2 _ rfl
  obtain rfl := PricingValue.quote.inj (hvalue token none rfl h)
  exact hne rfl

end

/-! ### What each loop reports -/

section

variable {ctx : PricingContext} {reads : ChainReads} {ledger : LedgerKey → Option ℤ}
  {timestamp : ℕ} {cached : PricingKey → Option PricingValue} {c : ChainId} {wallet : String}

/-- The first loop reports a holding of a token with a price once. -/
theorem countP_balances (hpart : Partitioned c ctx.config) {definition : TokenDefinition}
    (hmem : definition ∈ ctx.config.tokens)
    (hreports : reportsBalance ctx.blockNumber definition = true)
    (hrate : priceIn cached definition.address none ≠ 0)
    (hwallet : wallet ∈ getWalletAddressesForContract ctx.config definition.address)
    (hbalance : HasBalance ctx reads ledger definition.address wallet) :
    (ctx.config.tokens.flatMap (balanceContributions ctx reads ledger timestamp cached)).countP
      (Contribution.IsOf definition.address wallet) = 1 := by
  rw [countP_flatMap_of_nodup hpart.addresses.of_map hmem]
  · have hzero : (priceIn cached definition.address none).eq 0 = false := by
      rw [← Bool.not_eq_true, eq_zero_iff]
      exact hrate
    rw [balanceContributions, if_neg (by rw [hreports, hzero]; decide)]
    exact countP_contributions _ (hpart.wallets.filter _) hwallet hbalance
  · intro other hother hne
    have haddress : other.address ≠ definition.address :=
      fun heq => hne (List.inj_on_of_nodup_map hpart.addresses hother hmem heq)
    unfold balanceContributions
    dsimp only
    split
    · rfl
    · exact countP_contributions_of_ne haddress _ _

/-- The first loop reports nothing of a token of another category. -/
theorem countP_balances_of_unreported (hpart : Partitioned c ctx.config)
    {definition : TokenDefinition} (hmem : definition ∈ ctx.config.tokens)
    (hreported : isReported definition = false) :
    (ctx.config.tokens.flatMap (balanceContributions ctx reads ledger timestamp cached)).countP
      (Contribution.IsOf definition.address wallet) = 0 := by
  refine countP_flatMap_eq_zero (fun other hother => ?_)
  by_cases heq : other.address = definition.address
  · obtain rfl := List.inj_on_of_nodup_map hpart.addresses hother hmem heq
    have hreports : reportsBalance ctx.blockNumber other = false := by
      rw [reportsBalance, hreported, Bool.false_and]
    rw [balanceContributions, if_pos (by rw [hreports]; rfl)]
    rfl
  · unfold balanceContributions
    dsimp only
    split
    · rfl
    · exact countP_contributions_of_ne heq _ _

/-- What the second loop makes of a handler with another LP token. -/
theorem countP_poolContributions_of_ne {handler : LiquidityHandler} {token : String}
    (h : getLpTokenForHandler handler ≠ some token) :
    (poolContributions ctx reads ledger timestamp cached handler).countP
      (Contribution.IsOf token wallet) = 0 := by
  unfold poolContributions
  split
  · next lpToken unitRate multiplier hlp _ =>
      split
      · rfl
      · exact countP_contributions_of_ne (fun heq => h (hlp.trans (congrArg some heq))) _ _
  · rfl

theorem countP_pools_of_noLpToken {token : String} (h : NoLpToken ctx.config token) :
    (ctx.config.ownedLiquidityHandlers.flatMap
      (poolContributions ctx reads ledger timestamp cached)).countP
        (Contribution.IsOf token wallet) = 0 :=
  countP_flatMap_eq_zero (fun handler hmem => countP_poolContributions_of_ne (h handler hmem))

/-- The second loop reports a holding of an LP token with rates once. -/
theorem countP_pools (hpart : Partitioned c ctx.config) (hplain : PlainConfig ctx.config)
    {handler : LiquidityHandler} (hmem : handler ∈ ctx.config.ownedLiquidityHandlers)
    (hactive : ctx.isActive handler = true) {lpToken : String}
    (hlp : getLpTokenForHandler handler = some lpToken) {unitRate multiplier : BigNumber}
    (hrates : cachedRates ctx ledger cached handler = some (unitRate, multiplier))
    (hwallet : wallet ∈ ctx.config.protocolAddresses)
    (hbalance : HasBalance ctx reads ledger lpToken wallet) :
    (ctx.config.ownedLiquidityHandlers.flatMap
      (poolContributions ctx reads ledger timestamp cached)).countP
        (Contribution.IsOf lpToken wallet) = 1 := by
  rw [countP_flatMap_of_nodup hpart.handlers hmem]
  · have hne := (hplain.pools handler hmem lpToken hlp).1
    have hentries : poolContributions ctx reads ledger timestamp cached handler =
        ctx.config.protocolAddresses.filterMap (contributionOf ctx reads ledger lpToken
          (ownedLiquidityRecord ctx timestamp handler unitRate multiplier)) := by
      rw [poolContributions, hlp, hrates]
      exact if_neg (by simp [hactive, hne])
    rw [hentries]
    exact countP_contributions _ hpart.wallets hwallet hbalance
  · intro other hother hne
    apply countP_poolContributions_of_ne
    intro heq
    exact hne (hpart.lpTokens handler hmem other hother (by rw [hlp]; rfl) (heq.trans hlp.symm))

/-- The records of a run of the two loops are the contributions of holdings, and each holding of
an active and priced token is reported once exactly when no wallet holds an active Convex wrapper
that has a price. -/
theorem treasury_reported_once_iff (hconfig : ctx.config = chainConfigs c) {fuel : ℕ}
    {records : List SerializedTokenRecord} {s : PricingSession}
    (hrun : (pushTreasuryRecords ctx reads timestamp).run ledger
      ((pricingService ctx ledger).look fuel []) .fresh = some (.ok records, s)) :
    records = (treasuryContributions ctx reads ledger timestamp s.cached).map (·.record) ∧
      (ReportedOnce ctx reads ledger s (treasuryContributions ctx reads ledger timestamp s.cached) ↔
        ConvexUnheld ctx reads ledger c s) := by
  have hplain : PlainConfig ctx.config := hconfig ▸ plainConfig_shipped c
  have hpart : Partitioned c ctx.config := hconfig ▸ partitioned_shipped c
  have hreached : (pricingService ctx ledger).Reached s := .run .fresh hrun
  have hcache := fromCache_of_run_top (pricingService ctx ledger) hrun
  obtain ⟨mid, hmid, hrecords⟩ := Prog.fromCache_bind_ok_iff.mp hcache
  refine ⟨records_of_run hplain hrun, ?_, ?_⟩
  · intro honce definition hmem hconvex hactive hprice wallet hwallet hbalance
    obtain ⟨hreported, hno⟩ := hpart.convex definition hmem hconvex
    have hone := honce definition hmem hactive (Or.inr ⟨hno, hprice⟩) wallet hwallet hbalance
    rw [treasuryContributions, List.countP_append,
      countP_balances_of_unreported hpart hmem hreported, countP_pools_of_noLpToken hno] at hone
    cases hone
  · intro hunheld definition hmem hactive hpriced wallet hwallet hbalance
    rw [treasuryContributions, List.countP_append]
    rcases hpriced with ⟨handler, hhandler, hlp, hvalue⟩ | ⟨hno, hprice⟩
    · have hreported : isReported definition = false := by
        cases hcategory : isReported definition with
        | false => rfl
        | true => exact absurd hlp (hpart.reported definition hmem hcategory handler hhandler)
      have hpool := isPool_of_getLpTokenForHandler hlp
      have hstate : hasPoolState ctx handler = true := by
        obtain ⟨totalValue, -, htotal, -⟩ := hvalue
        exact hasPoolState_of_returns hreached hpool htotal
      have hhandlerActive : ctx.isActive handler = true := by
        rw [hasPoolState, Bool.and_eq_true] at hstate
        exact hstate.1
      obtain ⟨unitRate, multiplier, hrates⟩ := cachedRates_of_returns hreached hpool hvalue
        (rates_of_pushHandlerRecords hplain (List.Subset.refl _) hrecords hhandler hhandlerActive
          hlp)
      rw [countP_balances_of_unreported hpart hmem hreported,
        countP_pools hpart hplain hhandler hhandlerActive hlp hrates
          (List.mem_of_mem_filter hwallet) hbalance]
    · cases hreported : isReported definition with
      | true =>
          have hreports : reportsBalance ctx.blockNumber definition = true := by
            rw [reportsBalance, hreported, hactive]
            rfl
          obtain ⟨found, hfound⟩ := cached_of_pushTokenRecords hmid hmem hreports
          obtain ⟨result, hresult, hne⟩ := hprice
          have hrate : priceIn s.cached definition.address none ≠ 0 := by
            rw [priceIn, hfound, ← hresult.eq_of_cached hfound]
            exact hne
          rw [countP_balances hpart hmem hreports hrate hwallet hbalance,
            countP_pools_of_noLpToken hno]
      | false =>
          by_cases hconvex : definition.address ∈ convexWrappers c
          · exact absurd hbalance
              (hunheld definition hmem hconvex hactive hprice wallet hwallet)
          · exact absurd hprice (not_hasPrice_of_unpriced hreached
              (hpart.rest definition hmem hreported hno hconvex))

end

/-! ### Runs on Ethereum and on Base -/

/-- Only the Curve pool FRAX-USDC holds anything. -/
def fraxUsdcView : PoolView :=
  { ohmDaiView with
    balancerPoolState := fun _ => none
    snapshotCurvePool := fun pool _ _ =>
      .ok (if pool = Chains.Ethereum.lpCurveFraxUsdcPool then
          { balances := [10 ^ 20, 10 ^ 8], totalSupply := 10 ^ 20 }
        else { balances := [], totalSupply := 0 }) }

def fraxUsdcContext : PricingContext where
  config := chainConfigs .ethereum
  blockNumber := 18000000
  view := fraxUsdcView

/-- A wallet of the treasury holds one DAI, and the given amount of staked FRAX-USDC. -/
def stakedRows (staked : ℤ) (key : LedgerKey) : Option ℤ :=
  if key = .tokenBalance Chains.Ethereum.convexRewardFraxUsdc Chains.Ethereum.daoWallet then
    some staked
  else if key = .tokenBalance Chains.Ethereum.erc20Dai Chains.Ethereum.daoWallet then
    some (10 ^ 18)
  else none

/-- No wallet holds anything that the ledger does not keep. -/
def nothingElse : ChainReads where
  readErc20BalanceOf := fun _ _ => .ok 0
  getNativeBalance := fun _ => .ok 0

/-- The records of a run, and the price of staked FRAX-USDC after it. -/
def stakedRun (staked : ℤ) :
    Option (Except String (List SerializedTokenRecord) × Option (Except String PricingValue)) :=
  let look := (pricingService fraxUsdcContext (stakedRows staked)).look 9 []
  ((pushTreasuryRecords fraxUsdcContext nothingElse 1693066895).run (stakedRows staked) look
    .fresh).map (fun out =>
      (out.1, (look (.price Chains.Ethereum.convexRewardFraxUsdc none) out.2).map Prod.fst))

/-- The record of the DAI. -/
def daiRecord : SerializedTokenRecord :=
  tokenBalanceRecord fraxUsdcContext 1693066895 Chains.Ethereum.erc20Dai 1
    Chains.Ethereum.daoWallet 1

theorem stakedRun_ten : stakedRun (10 ^ 19) =
    some (.ok [daiRecord], some (.ok (.quote ⟨.finite 2, .finite 200⟩))) := by
  decide +kernel

/-- Ten staked FRAX-USDC are worth twenty dollars, and no record is about them. -/
theorem stakedFraxUsdc_unreported :
    ∃ s, (pushTreasuryRecords fraxUsdcContext nothingElse 1693066895).run (stakedRows (10 ^ 19))
        ((pricingService fraxUsdcContext (stakedRows (10 ^ 19))).look 9 []) .fresh =
          some (.ok [daiRecord], s) ∧
      ¬ReportedOnce fraxUsdcContext nothingElse (stakedRows (10 ^ 19)) s
        (treasuryContributions fraxUsdcContext nothingElse (stakedRows (10 ^ 19)) 1693066895
          s.cached) := by
  obtain ⟨⟨result, s⟩, hrun, heq⟩ := Option.map_eq_some_iff.mp stakedRun_ten
  obtain ⟨hresult, hlook⟩ := Prod.mk.inj heq
  obtain rfl : result = .ok [daiRecord] := hresult
  refine ⟨s, hrun, fun honce => ?_⟩
  obtain ⟨⟨value, s'⟩, hlook, rfl⟩ := Option.map_eq_some_iff.mp hlook
  have hprice : HasPrice fraxUsdcContext (stakedRows (10 ^ 19)) s
      Chains.Ethereum.convexRewardFraxUsdc := ⟨_, ⟨9, s', hlook⟩, by decide⟩
  have hpart : Partitioned .ethereum fraxUsdcContext.config := partitioned_shipped .ethereum
  obtain ⟨definition, hmem, haddress, hactive⟩ : ∃ definition ∈ fraxUsdcContext.config.tokens,
      definition.address = Chains.Ethereum.convexRewardFraxUsdc ∧
        isActive definition.startBlock fraxUsdcContext.blockNumber = true := by
    decide +kernel
  obtain ⟨hreported, hno⟩ := hpart.convex definition hmem (haddress ▸ by decide)
  have hone := honce definition hmem hactive (Or.inr ⟨hno, haddress ▸ hprice⟩)
    Chains.Ethereum.daoWallet (haddress ▸ by decide +kernel)
    ⟨10 ^ 19, haddress ▸ by decide +kernel, by decide⟩
  rw [treasuryContributions, List.countP_append,
    countP_balances_of_unreported hpart hmem hreported, countP_pools_of_noLpToken hno] at hone
  cases hone

/-- An ether is worth two thousand dollars, and OHM has no price but in its pool with it. -/
def baseContext : PricingContext where
  config := chainConfigs .base
  blockNumber := 20000000
  view :=
    { ohmDaiView with
      univ2PoolState := fun id =>
        if id = Chains.Base.lpUniswapV2OhmWeth then
          some { reserve0 := 100 * 10 ^ 9, reserve1 := 10 ^ 18 }
        else none
      balancerPoolState := fun _ => none
      readChainlinkLatestAnswer := fun feed =>
        .ok (if feed = Chains.Base.chainlinkFeedEthUsd then 2000 * 10 ^ 8 else 10 ^ 8) }

/-- The wallet holds half of the pool, five USDC and some OHM. -/
def baseRows (key : LedgerKey) : Option ℤ :=
  if key = .erc20Supply Chains.Base.lpUniswapV2OhmWeth then some (10 * 10 ^ 18)
  else if key = .tokenBalance Chains.Base.lpUniswapV2OhmWeth Chains.Base.daoMultisig then
    some (5 * 10 ^ 18)
  else if key = .tokenBalance Chains.Base.erc20Usdc Chains.Base.daoMultisig then some (5 * 10 ^ 6)
  else if key = .tokenBalance Chains.Base.erc20Ohm Chains.Base.daoMultisig then some (7 * 10 ^ 9)
  else none

/-- Besides these the wallet holds an ether. -/
def oneEther : ChainReads where
  readErc20BalanceOf := fun _ _ => .ok 0
  getNativeBalance := fun _ => .ok (10 ^ 18)

/-- The tokens that a run on Base reports, with the values of the records. -/
def baseRun : Option (Except String (List (String × BigNumber))) :=
  ((pushTreasuryRecords baseContext oneEther 1726789347).run baseRows
    ((pricingService baseContext baseRows).look 9 []) .fresh).map (fun out =>
      out.1.map (List.map (fun record => (record.tokenAddress, record.value))))

theorem treasury_reported_once_iff_runs :
    (∃ s, (pushTreasuryRecords fraxUsdcContext nothingElse 1693066895).run (stakedRows 0)
        ((pricingService fraxUsdcContext (stakedRows 0)).look 9 []) .fresh =
          some (.ok [daiRecord], s) ∧
      ReportedOnce fraxUsdcContext nothingElse (stakedRows 0) s
        (treasuryContributions fraxUsdcContext nothingElse (stakedRows 0) 1693066895 s.cached)) ∧
    ∃ records s, (pushTreasuryRecords baseContext oneEther 1726789347).run baseRows
        ((pricingService baseContext baseRows).look 9 []) .fresh = some (.ok records, s) ∧
      records.map (fun record => (record.tokenAddress, record.value)) =
        [(Chains.Base.nativeEth, .finite 2000), (Chains.Base.erc20Usdc, .finite 5),
         (Chains.Base.lpUniswapV2OhmWeth, .finite 1000)] ∧
      records = (treasuryContributions baseContext oneEther baseRows 1726789347 s.cached).map
        (·.record) ∧
      ReportedOnce baseContext oneEther baseRows s
        (treasuryContributions baseContext oneEther baseRows 1726789347 s.cached) := by
  constructor
  · have hresult : stakedRun 0 =
        some (.ok [daiRecord], some (.ok (.quote ⟨.finite 2, .finite 200⟩))) := by
      decide +kernel
    obtain ⟨⟨result, s⟩, hrun, heq⟩ := Option.map_eq_some_iff.mp hresult
    obtain rfl : result = .ok [daiRecord] := congrArg Prod.fst heq
    have hconfig : fraxUsdcContext.config = chainConfigs .ethereum := rfl
    refine ⟨s, hrun, (treasury_reported_once_iff hconfig hrun).2.mpr ?_⟩
    have hnone : ∀ definition ∈ fraxUsdcContext.config.tokens,
        definition.address ∈ convexWrappers .ethereum →
        ∀ wallet ∈ getWalletAddressesForContract fraxUsdcContext.config definition.address,
          rawBalance fraxUsdcContext nothingElse (stakedRows 0) definition.address wallet =
            .ok 0 := by
      decide +kernel
    rintro definition hmem hconvex - - wallet hwallet ⟨raw, hraw, hne⟩
    rw [hnone definition hmem hconvex wallet hwallet] at hraw
    exact hne (Except.ok.inj hraw).symm
  · have hresult : baseRun = some (.ok [(Chains.Base.nativeEth, .finite 2000),
        (Chains.Base.erc20Usdc, .finite 5), (Chains.Base.lpUniswapV2OhmWeth, .finite 1000)]) := by
      decide +kernel
    obtain ⟨⟨result, s⟩, hrun, heq⟩ := Option.map_eq_some_iff.mp hresult
    cases result with
    | error message => cases heq
    | ok records =>
        have hconfig : baseContext.config = chainConfigs .base := rfl
        obtain ⟨hrecords, honce⟩ := treasury_reported_once_iff hconfig hrun
        refine ⟨records, s, hrun, Except.ok.inj heq, hrecords, honce.mpr ?_⟩
        intro definition _ hconvex
        cases hconvex

end OlympusMetrics.Pricing
