import OlympusMetrics.Chains.Index
import OlympusMetrics.Indexer.Pricing

/-!
The price of a Balancer pool's own token: from the price resolver, and as the
unit price of the pool's handler.
-/

namespace OlympusMetrics.Pricing

open Lookup

/-! ### The two routes -/

def remapsTo (target : String) (handler : LiquidityHandler) : Bool :=
  handler.kind == .remap target

/-- The pool token of a Balancer handler and the tokens that are remapped to it. -/
def shareTokens (config : ChainConfig) (handler : LiquidityHandler) : List String :=
  let bpt := Balancer.bptAddressFromPoolId handler.id
  bpt :: (config.liquidityHandlers.filter (remapsTo bpt)).flatMap LiquidityHandler.tokens

section

variable (ctx : PricingContext) (ledger : LedgerKey → Option ℤ)

/-- The result of a lookup that is the only call in a fresh cache. -/
def lookupAlone (key : PricingKey) : Option (Except String PricingValue) :=
  ((pricingService ctx ledger).look (pricingFuel ctx) [] key .fresh).map Prod.fst

/-- The pool has a positive total value and its token a positive stored supply. -/
def Funded (handler : LiquidityHandler) : Prop :=
  (∃ totalValue, lookupAlone ctx ledger (.totalValue handler []) =
      some (.ok (.value (some totalValue))) ∧ totalValue.gt 0 = true) ∧
    ∃ totalSupply, ledger (.erc20Supply (Balancer.bptAddressFromPoolId handler.id)) =
      some totalSupply ∧ 0 < totalSupply

/-- The resolver's price of a token is not zero and is the unit price of the handler. -/
def PricedAlike (handler : LiquidityHandler) (token : String) : Prop :=
  ∃ result unitPrice, lookupAlone ctx ledger (.price token none) = some (.ok (.quote result)) ∧
    lookupAlone ctx ledger (.unitPrice handler) = some (.ok (.value (some unitPrice))) ∧
    result.price ≠ 0 ∧ result.price = unitPrice

end

theorem not_pricedAlike_of_zero {ctx : PricingContext} {ledger : LedgerKey → Option ℤ}
    {handler : LiquidityHandler} {token : String}
    (h : lookupAlone ctx ledger (.price token none) = some (.ok (.quote zeroResult))) :
    ¬ PricedAlike ctx ledger handler token := by
  rintro ⟨result, unitPrice, hresult, -, hne, -⟩
  rw [h] at hresult
  obtain rfl : zeroResult = result := by simpa using hresult
  exact hne rfl

/-! ### Tokens that no handler lists -/

section

variable {ctx : PricingContext} {token : String}

/-- No handler lists the token. -/
def Unlisted (config : ChainConfig) (token : String) : Prop :=
  ∀ handler ∈ config.liquidityHandlers, handler.matches token = false

instance (config : ChainConfig) (token : String) : Decidable (Unlisted config token) :=
  inferInstanceAs (Decidable (∀ handler ∈ config.liquidityHandlers, _))

/-- Only remaps to a token that no handler lists, if any, list the token. -/
def OnlyRemapped (config : ChainConfig) (target token : String) : Prop :=
  ∀ handler ∈ config.liquidityHandlers, handler.matches token = true →
    handler.kind = .remap target

instance (config : ChainConfig) (target token : String) :
    Decidable (OnlyRemapped config target token) :=
  inferInstanceAs (Decidable (∀ handler ∈ config.liquidityHandlers, _ → _))

/-- The cached prices of the token are zero. -/
def CachedZero (token : String) (s : Session LedgerKey PricingKey PricingValue) : Prop :=
  ∀ currentPool entry, s.cache.lookup (.price token currentPool) = some entry →
    entry.value = .quote zeroResult

theorem cachedZero_fresh (token : String) : CachedZero token .fresh :=
  fun _ _ h => nomatch h

theorem CachedZero.cons {s s' : Session LedgerKey PricingKey PricingValue}
    (h : CachedZero token s) {key : PricingKey} {cutOff : Bool}
    (hcache : s'.cache = (key, ⟨.quote zeroResult, cutOff⟩) :: s.cache) : CachedZero token s' := by
  intro currentPool entry hentry
  rw [hcache, List.lookup_cons] at hentry
  split at hentry
  · rw [← Option.some.inj hentry]
  · exact h currentPool entry hentry

theorem selectQuote_of_unlisted (currentPool : Option String)
    (currentPoolHandler : Option LiquidityHandler) {handlers : List LiquidityHandler}
    (h : ∀ handler ∈ handlers, handler.matches token = false) :
    selectQuote ctx token currentPool currentPoolHandler handlers none = .ret zeroResult := by
  induction handlers with
  | nil => rfl
  | cons handler rest ih =>
      have hhead : handler.matches token = false := h handler List.mem_cons_self
      rw [selectQuote, hhead]
      simpa using ih (fun handler hmem => h handler (List.mem_cons_of_mem _ hmem))

theorem derivePrice_of_unlisted (h : Unlisted ctx.config token) (currentPool : Option String) :
    derivePrice ctx token currentPool = .ret zeroResult := by
  unfold derivePrice
  dsimp only
  split
  · exact selectQuote_of_unlisted currentPool _ h
  · rfl

variable {ledger : LedgerKey → Option ℤ}

/-- A lookup of the price of a token that no handler lists gives zero, also where the guard
answers. -/
theorem look_of_unlisted (h : Unlisted ctx.config token) (fuel : ℕ) (inFlight : List PricingKey)
    (currentPool : Option String) {s : Session LedgerKey PricingKey PricingValue}
    (hzero : CachedZero token s) :
    ∃ s', (pricingService ctx ledger).look (fuel + 1) inFlight (.price token currentPool) s =
      some (.ok (.quote zeroResult), s') ∧ CachedZero token s' := by
  rw [Service.look]
  split
  · exact ⟨_, rfl, hzero⟩
  · cases hcache : s.cache.lookup (.price token currentPool) with
    | some entry =>
        have hvalue : entry.value = .quote zeroResult := hzero currentPool entry hcache
        refine ⟨{ s with stale := s.stale || entry.cutOff }, ?_, hzero⟩
        simp only [hvalue]
    | none =>
        have hbody : (pricingService ctx ledger).body (.price token currentPool) =
            .ret (.quote zeroResult) := by
          show pricingLookup ctx (.price token currentPool) = .ret (.quote zeroResult)
          rw [pricingLookup, derivePrice_of_unlisted h]
          rfl
        rw [hbody]
        exact ⟨_, rfl, hzero.cons rfl⟩

/-! ### Tokens that are remapped to it -/

variable {target : String}

/-- A remap of a token that no handler lists has no quote. -/
theorem run_remap_of_unlisted (h : Unlisted ctx.config target) (fuel : ℕ)
    (inFlight : List PricingKey) (handler : LiquidityHandler)
    {s : Session LedgerKey PricingKey PricingValue} (hzero : CachedZero target s) :
    ∃ s', (Remap.getPrice ctx handler target).run ledger
      ((pricingService ctx ledger).look (fuel + 1) inFlight) s = some (.ok none, s') ∧
        CachedZero target s' := by
  unfold Remap.getPrice
  split
  · exact ⟨s, rfl, hzero⟩
  · obtain ⟨s', hlook, hzero'⟩ :=
      @look_of_unlisted ctx target ledger h fuel inFlight (some handler.id) s hzero
    refine ⟨s', ?_, hzero'⟩
    rw [priceLookup, Prog.ask_bind, Prog.run, hlook]
    rfl

theorem run_selectQuote_of_remapped (h : Unlisted ctx.config target) (fuel : ℕ)
    (inFlight : List PricingKey) (currentPool : Option String)
    (currentPoolHandler : Option LiquidityHandler) {handlers : List LiquidityHandler}
    (hremap : ∀ handler ∈ handlers, handler.matches token = true → handler.kind = .remap target)
    {s : Session LedgerKey PricingKey PricingValue} (hzero : CachedZero target s) :
    ∃ s', (selectQuote ctx token currentPool currentPoolHandler handlers none).run ledger
      ((pricingService ctx ledger).look (fuel + 1) inFlight) s = some (.ok zeroResult, s') ∧
        CachedZero target s' := by
  induction handlers generalizing s with
  | nil => exact ⟨s, rfl, hzero⟩
  | cons handler rest ih =>
      have hrest := fun handler hmem => hremap handler (List.mem_cons_of_mem _ hmem)
      rw [selectQuote]
      split
      · exact ih hrest hzero
      · next hskip =>
          have hmatches : handler.matches token = true := by
            simp only [Bool.or_eq_true, not_or] at hskip
            simpa using hskip.1.1.2
          have hkind : handler.kind = .remap target := hremap handler List.mem_cons_self hmatches
          obtain ⟨s', hrun, hzero'⟩ :=
            @run_remap_of_unlisted ctx ledger target h fuel inFlight handler s hzero
          rw [handlerGetPrice, hkind]
          rw [Prog.run_bind_ok hrun]
          exact ih hrest hzero'

/-- The price of a token that is only remapped to one that no handler lists is zero. -/
theorem lookupAlone_of_remapped (h : Unlisted ctx.config target)
    (hremap : OnlyRemapped ctx.config target token) :
    lookupAlone ctx ledger (.price token none) = some (.ok (.quote zeroResult)) := by
  have hderive : ∃ s', (derivePrice ctx token none).run ledger
      ((pricingService ctx ledger).look (pricingFuel ctx - 1) [.price token none]) .fresh =
        some (.ok zeroResult, s') := by
    unfold derivePrice
    dsimp only
    split
    · obtain ⟨s', hrun, -⟩ := run_selectQuote_of_remapped h
        (askedKeys ctx ctx.config.liquidityHandlers).length [.price token none] none
        (Option.bind none _) hremap (cachedZero_fresh target)
      exact ⟨s', hrun⟩
    · exact ⟨_, rfl⟩
  obtain ⟨s', hrun⟩ := hderive
  refine Service.look_fresh (pricingService ctx ledger) (s := s') ?_
  show (pricingLookup ctx (.price token none)).run ledger _ .fresh = _
  rw [pricingLookup]
  exact Prog.run_bind_ok hrun

end

/-! ### The shipped configurations -/

def isBalancer (handler : LiquidityHandler) : Bool :=
  match handler.kind with
  | .balancer _ => true
  | _ => false

/-- No shipped handler lists a pool token, and only its remaps list the tokens remapped to it. -/
theorem shipped_pool_tokens (chain : ChainId) :
    ∀ handler ∈ (chainConfigs chain).liquidityHandlers, isBalancer handler = true →
      Unlisted (chainConfigs chain) (Balancer.bptAddressFromPoolId handler.id) ∧
        ∀ token ∈ shareTokens (chainConfigs chain) handler,
          OnlyRemapped (chainConfigs chain) (Balancer.bptAddressFromPoolId handler.id) token := by
  cases chain <;> decide +kernel

/-- The resolver prices no share of a shipped Balancer pool. -/
theorem shares_never_priced_alike (chain : ChainId) (handler : LiquidityHandler)
    (hhandler : handler ∈ (chainConfigs chain).liquidityHandlers)
    (hbalancer : isBalancer handler = true) (token : String)
    (htoken : token ∈ shareTokens (chainConfigs chain) handler) (blockNumber : ℕ)
    (view : PoolView) (ledger : LedgerKey → Option ℤ) :
    ¬ PricedAlike { config := chainConfigs chain, blockNumber, view } ledger handler token := by
  obtain ⟨hunlisted, hremapped⟩ := shipped_pool_tokens chain handler hhandler hbalancer
  apply not_pricedAlike_of_zero
  exact @lookupAlone_of_remapped { config := chainConfigs chain, blockNumber, view } token ledger _
    hunlisted (hremapped token htoken)

/-- The OHM-DAI pool of Ethereum, with ten OHM and a hundred DAI, and no other pool. -/
def ohmDaiView : PoolView where
  univ2PoolState := fun _ => none
  univ3PoolState := fun _ => none
  balancerPoolState := fun id =>
    if id = Chains.Ethereum.lpBalancerPoolOhmDai then
      some
        { tokens := [Chains.Ethereum.erc20OhmV2, Chains.Ethereum.erc20Dai]
          balances := [10 ^ 10, 10 ^ 20] }
    else none
  kodiakPool := fun _ => none
  ohmIndexState := fun _ => none
  readChainlinkLatestAnswer := fun _ => .ok 0
  readErc4626AssetsPerShare := fun _ _ => .ok none
  snapshotCurvePool := fun _ _ _ => .ok { balances := [], totalSupply := 0 }
  snapshotFraxSwapPool := fun _ => .ok { reserve0 := 0, reserve1 := 0, totalSupply := 0 }
  getWeightsAndDecimals := fun _ =>
    .ok { weights := [5 * 10 ^ 17, 5 * 10 ^ 17], decimals := 18 }
  getUnderlyingBalances := fun _ => .error "execution reverted"

def ohmDaiContext : PricingContext where
  config := chainConfigs .ethereum
  blockNumber := 18000000
  view := ohmDaiView

/-- A hundred pool tokens, and as many of everything else. -/
def hundredEach (_ : LedgerKey) : Option ℤ := some (10 ^ 20)

def ohmDaiHandler : LiquidityHandler where
  kind := .balancer Chains.Ethereum.balancerVault
  id := Chains.Ethereum.lpBalancerPoolOhmDai
  tokens := [Chains.Ethereum.erc20OhmV2, Chains.Ethereum.erc20Dai]
  startBlock := some Chains.Ethereum.lpBalancerOhmDaiBlock

theorem shares_never_priced_alike_ohmDai :
    (ohmDaiHandler ∈ (chainConfigs .ethereum).liquidityHandlers) ∧
      ¬ PricedAlike ohmDaiContext hundredEach ohmDaiHandler Chains.Ethereum.auraVaultOhmDai := by
  have hhandler : ohmDaiHandler ∈ (chainConfigs .ethereum).liquidityHandlers := by
    decide +kernel
  refine ⟨hhandler, shares_never_priced_alike .ethereum ohmDaiHandler hhandler rfl
    Chains.Ethereum.auraVaultOhmDai ?_ 18000000 ohmDaiView hundredEach⟩
  decide +kernel

/-- The pool is worth two hundred dollars and its handler gives two dollars a share, but the resolver
gives nothing for the pool token and for its Aura vault. -/
theorem ohmDai_shares_unpriced :
    ohmDaiContext.isActive ohmDaiHandler = true ∧
      Funded ohmDaiContext hundredEach ohmDaiHandler ∧
      lookupAlone ohmDaiContext hundredEach (.unitPrice ohmDaiHandler) =
        some (.ok (.value (some (.finite 2)))) ∧
      ∀ token ∈ [Chains.Ethereum.bptOhmDai, Chains.Ethereum.auraVaultOhmDai],
        token ∈ shareTokens (chainConfigs .ethereum) ohmDaiHandler ∧
          lookupAlone ohmDaiContext hundredEach (.price token none) =
            some (.ok (.quote zeroResult)) ∧
          ¬ PricedAlike ohmDaiContext hundredEach ohmDaiHandler token := by
  have hvalue : lookupAlone ohmDaiContext hundredEach (.totalValue ohmDaiHandler []) =
      some (.ok (.value (some (.finite 200)))) := by decide +kernel
  have hunit : lookupAlone ohmDaiContext hundredEach (.unitPrice ohmDaiHandler) =
      some (.ok (.value (some (.finite 2)))) := by decide +kernel
  have hprices : ∀ token ∈ [Chains.Ethereum.bptOhmDai, Chains.Ethereum.auraVaultOhmDai],
      token ∈ shareTokens (chainConfigs .ethereum) ohmDaiHandler ∧
        lookupAlone ohmDaiContext hundredEach (.price token none) =
          some (.ok (.quote zeroResult)) := by decide +kernel
  refine ⟨by decide +kernel, ⟨⟨_, hvalue, by decide +kernel⟩, _, rfl, by decide⟩, hunit, ?_⟩
  intro token htoken
  obtain ⟨hshare, hprice⟩ := hprices token htoken
  exact ⟨hshare, hprice, not_pricedAlike_of_zero hprice⟩

end OlympusMetrics.Pricing
