import OlympusMetrics.Indexer.PriceHandlers
import OlympusMetrics.Library.KeyedLookup

/-!
The price resolver: how the quotes of the handlers are combined, and the cache
and cycle guard around the lookups of one snapshot.
-/

namespace OlympusMetrics.Pricing

open Lookup

/-- `underlyingPool`: the contract that a handler reads from. -/
def underlyingPool (ctx : PricingContext) (handler : LiquidityHandler) : String :=
  match handler.kind with
  | .kodiak pool _ _ => ctx.toLowerCase (if pool = "" then handler.id else pool)
  | _ => ctx.toLowerCase handler.id

def hasSameTokenSet (left right : LiquidityHandler) : Bool :=
  sortedTokens left.tokens == sortedTokens right.tokens

/-- Whether a handler is a sibling of the current pool's handler over another pool. -/
def isOtherPoolSibling (ctx : PricingContext) (handler : LiquidityHandler) :
    Option LiquidityHandler → Bool
  | none => false
  | some current =>
      hasSameTokenSet handler current && underlyingPool ctx handler != underlyingPool ctx current

/-- The quote kept after a handler's result: the later one unless the earlier is deeper. -/
def preferredQuote (selected result : Option PriceLookupResult) : Option PriceLookupResult :=
  match result, selected with
  | none, _ => selected
  | some result, none => some result
  | some result, some best => if best.liquidity.gt result.liquidity then some best else some result

/-- The loop of `derivePrice` over the handlers. -/
def selectQuote (ctx : PricingContext) (tokenAddress : String) (currentPool : Option String)
    (currentPoolHandler : Option LiquidityHandler) :
    List LiquidityHandler → Option PriceLookupResult → PricingProg PriceLookupResult
  | [], selected => .ret (selected.getD zeroResult)
  | handler :: rest, selected =>
      if !ctx.isActive handler || !handler.matches tokenAddress || some handler.id == currentPool ||
          isOtherPoolSibling ctx handler currentPoolHandler then
        selectQuote ctx tokenAddress currentPool currentPoolHandler rest selected
      else do
        let result ← handlerGetPrice ctx handler tokenAddress
        selectQuote ctx tokenAddress currentPool currentPoolHandler rest
          (preferredQuote selected result)

def derivePrice (ctx : PricingContext) (tokenAddress : String) (currentPool : Option String) :
    PricingProg PriceLookupResult :=
  let token := getTokenDefinition ctx.config tokenAddress
  if (token.map (fun token => isActive token.startBlock ctx.blockNumber)).getD true then
    let currentPoolHandler := currentPool.bind (fun id =>
      ctx.config.liquidityHandlers.find? (fun handler => handler.id == id))
    selectQuote ctx tokenAddress currentPool currentPoolHandler ctx.config.liquidityHandlers none
  else .ret zeroResult

/-- What `cachedPricingLookup` computes for a key. -/
def pricingLookup (ctx : PricingContext) : PricingKey → PricingProg PricingValue
  | .price token currentPool => do
      let result ← derivePrice ctx token currentPool
      .ret (.quote result)
  | .totalValue handler excludedTokens => do
      let result ← handlerGetTotalValue ctx handler excludedTokens
      .ret (.value result)
  | .unitPrice handler => do
      let result ← handlerGetUnitPrice ctx handler
      .ret (.value result)

/-- The fallbacks that break a cycle. -/
def cycleFallback : PricingKey → PricingValue
  | .price _ _ => .quote zeroResult
  | .totalValue _ _ => .value none
  | .unitPrice _ => .value none

/-- The cached lookups of a snapshot over the ledger rows stored for its block. -/
def pricingService (ctx : PricingContext) (ledger : LedgerKey → Option ℤ) :
    Service LedgerKey (Option ℤ) PricingKey PricingValue String where
  answer := ledger
  fallback := cycleFallback
  body := pricingLookup ctx

/-! ### Cache keys -/

/-- `handler.kind`. -/
def kindName : HandlerKind → String
  | .stable => "stable"
  | .remap _ => "remap"
  | .chainlink _ => "chainlink"
  | .gohm _ => "gohm"
  | .erc4626 .. => "erc4626"
  | .curve .. => "curve"
  | .fraxswap .. => "fraxswap"
  | .univ2 => "univ2"
  | .univ3 => "univ3"
  | .univ3Quoter _ => "univ3-quoter"
  | .balancer _ => "balancer"
  | .kodiak .. => "kodiak"

/-- The key under which `cachedPricingLookup` keeps a lookup, as the list of its parts. -/
inductive CacheKey
  | price (token : String) (currentPool : Option String)
  | totalValue (kind id : String) (excludedTokens : List String)
  | unitPrice (kind id : String)
  deriving DecidableEq

/-- The parts of a key in lower case, as `normalizeCacheValue` leaves them. -/
def cacheKey (ctx : PricingContext) : PricingKey → CacheKey
  | .price token currentPool =>
      .price (ctx.toLowerCase token) (currentPool.map ctx.toLowerCase)
  | .totalValue handler excludedTokens =>
      .totalValue (kindName handler.kind) (ctx.toLowerCase handler.id)
        (excludedTokens.map ctx.toLowerCase)
  | .unitPrice handler => .unitPrice (kindName handler.kind) (ctx.toLowerCase handler.id)

/-- `getTotalValue`, whose cache key has the excluded tokens in order. -/
def getTotalValue (handler : LiquidityHandler) (excludedTokens : List String) :
    PricingProg (Option BigNumber) :=
  .ask (.totalValue handler (sortedTokens excludedTokens)) (fun value =>
    match value with
    | .value result => .ret result
    | .quote _ => .ret none)

def getUnitPrice (handler : LiquidityHandler) : PricingProg (Option BigNumber) :=
  .ask (.unitPrice handler) (fun value =>
    match value with
    | .value result => .ret result
    | .quote _ => .ret none)

/-! ### What a lookup reads and asks for -/

/-- The token whose supply a pool's handler divides by. -/
def poolToken (handler : LiquidityHandler) : String :=
  match handler.kind with
  | .kodiak pool _ _ => pool
  | .balancer _ => Balancer.bptAddressFromPoolId handler.id
  | _ => handler.id

/-- The tokens whose prices a handler looks up. -/
def tokensAskedBy (ctx : PricingContext) (handler : LiquidityHandler) : List String :=
  match handler.kind with
  | .stable | .chainlink _ => []
  | .remap target => [target]
  | .gohm ohmToken => [ohmToken]
  | .erc4626 underlying _ _ => [underlying]
  | .curve _ coins _ => coins
  | .fraxswap token0 token1 _ _ => [token0, token1]
  | .univ2 | .univ3 | .univ3Quoter _ | .kodiak .. => handler.tokens
  | .balancer _ => ((ctx.view.balancerPoolState handler.id).map (·.tokens)).getD []

def ReadBy (handler : LiquidityHandler) (query : LedgerKey) : Prop :=
  query = .erc20Supply (poolToken handler)

def AskedBy (ctx : PricingContext) (handler : LiquidityHandler) (key : PricingKey) : Prop :=
  ∃ token ∈ tokensAskedBy ctx handler, key = .price token none ∨ key = .price token (some handler.id)

section within

variable {ctx : PricingContext} {handler : LiquidityHandler} {α β : Type}
  {queries : LedgerKey → Prop} {keys : PricingKey → Prop}

theorem within_priceLookup {token : String} {currentPool : Option String}
    (h : keys (.price token currentPool)) :
    (priceLookup token currentPool).Within queries keys := by
  refine ⟨h, fun value => ?_⟩
  cases value <;> exact trivial

theorem within_orThrow (result : Except String α) : (orThrow result).Within queries keys := by
  cases result <;> exact trivial

theorem within_element (values : List ℤ) (index : ℕ) :
    (element values index).Within queries keys := by
  unfold element
  split <;> exact trivial

theorem mem_sortedTokens {token : String} {tokens : List String} :
    token ∈ sortedTokens tokens ↔ token ∈ tokens :=
  (List.perm_insertionSort _ tokens).mem_iff

/-- What follows the sorting of a pair only sees tokens of the pair. -/
theorem within_sortTokens_bind {tokens : List String} {next : String × String → PricingProg β}
    (h : ∀ token0 ∈ tokens, ∀ token1 ∈ tokens, (next (token0, token1)).Within queries keys) :
    (sortTokens tokens >>= next).Within queries keys := by
  unfold sortTokens
  split
  · next token0 token1 rest heq =>
      refine h token0 ?_ token1 ?_
      · exact mem_sortedTokens.mp (heq ▸ List.mem_cons_self)
      · exact mem_sortedTokens.mp (heq ▸ List.mem_cons_of_mem _ List.mem_cons_self)
  · exact trivial

theorem within_totalOf {priceOf : String → PricingProg PriceLookupResult}
    {excludedTokens : List String} {balances : List (String × PricingProg BigNumber)}
    (hprice : ∀ entry ∈ balances, (priceOf entry.1).Within queries keys)
    (hbalance : ∀ entry ∈ balances, entry.2.Within queries keys) (total : BigNumber) :
    (totalOf priceOf excludedTokens balances total).Within queries keys := by
  induction balances generalizing total with
  | nil => exact trivial
  | cons entry rest ih =>
      have hrest := ih (fun entry h => hprice entry (List.mem_cons_of_mem _ h))
        (fun entry h => hbalance entry (List.mem_cons_of_mem _ h))
      rw [totalOf]
      split
      · exact hrest total
      · refine (hbalance entry List.mem_cons_self).bind (fun balance => ?_)
        exact (hprice entry List.mem_cons_self).bind (fun result => hrest _)

theorem within_univ2_getTotalValue (hkind : handler.kind = .univ2) (excludedTokens : List String) :
    (Univ2.getTotalValue ctx handler excludedTokens).Within queries (AskedBy ctx handler) := by
  unfold Univ2.getTotalValue
  split
  · exact trivial
  · split
    · exact trivial
    · refine within_sortTokens_bind (fun token0 h0 token1 h1 => ?_)
      refine (within_totalOf ?_ ?_ 0).bind (fun total => trivial)
      · intro entry hentry
        refine within_priceLookup ⟨entry.1, ?_, Or.inr rfl⟩
        rw [tokensAskedBy, hkind]
        rcases List.mem_pair.mp hentry with rfl | rfl
        · exact h0
        · exact h1
      · intro entry hentry
        rcases List.mem_pair.mp hentry with rfl | rfl <;> exact trivial

theorem within_univ2_getPrice (hkind : handler.kind = .univ2) (token : String) :
    (Univ2.getPrice ctx handler token).Within queries (AskedBy ctx handler) := by
  unfold Univ2.getPrice
  split
  · exact trivial
  · split
    · exact trivial
    · refine within_sortTokens_bind (fun token0 h0 token1 h1 => ?_)
      have hother : (if token == token0 then token1 else token0) ∈ handler.tokens := by
        split
        · exact h1
        · exact h0
      have hsecondary : (if token == token0 then token1 else token0) ∈
          tokensAskedBy ctx handler := by
        rw [tokensAskedBy, hkind]
        exact hother
      refine (within_priceLookup ⟨_, hsecondary, Or.inr rfl⟩).bind (fun secondary => ?_)
      split
      · exact trivial
      · dsimp only
        split <;> exact trivial

theorem within_univ2_getUnitPrice (hkind : handler.kind = .univ2) :
    (Univ2.getUnitPrice ctx handler).Within (ReadBy handler) (AskedBy ctx handler) := by
  unfold Univ2.getUnitPrice
  split
  · exact trivial
  · refine (within_univ2_getTotalValue hkind []).bind (fun totalValue => ?_)
    split
    · exact trivial
    · refine (Prog.within_get (by rw [ReadBy, poolToken, hkind])).bind (fun supply => ?_)
      split <;> exact trivial

/-- A concentrated-liquidity quote looks up the other token of the pair. -/
theorem within_concentratedPrice {adjust : BigNumber → ℕ → ℕ → Bool → BigNumber}
    {state : Option Univ3PoolState} (htokens : tokensAskedBy ctx handler = handler.tokens)
    (token : String) :
    (concentratedPrice ctx handler adjust state token).Within queries (AskedBy ctx handler) := by
  unfold concentratedPrice
  split
  · exact trivial
  · split
    · exact trivial
    · refine within_sortTokens_bind (fun token0 h0 token1 h1 => ?_)
      have hother : (if token == token0 then token1 else token0) ∈ handler.tokens := by
        split
        · exact h1
        · exact h0
      have hsecondary : (if token == token0 then token1 else token0) ∈
          tokensAskedBy ctx handler := by
        rw [htokens]
        exact hother
      refine (within_priceLookup ⟨_, hsecondary, Or.inr rfl⟩).bind (fun secondary => ?_)
      split <;> exact trivial

theorem within_kodiak_getTotalValue {pool quoter : String} {rewardVault : Option String}
    (hkind : handler.kind = .kodiak pool quoter rewardVault) (excludedTokens : List String) :
    (Kodiak.getTotalValue ctx handler pool excludedTokens).Within queries
      (AskedBy ctx handler) := by
  unfold Kodiak.getTotalValue
  split
  · exact trivial
  · refine within_sortTokens_bind (fun token0 h0 token1 h1 => ?_)
    refine (within_orThrow _).bind (fun reserves => ?_)
    refine (within_totalOf ?_ ?_ 0).bind (fun total => trivial)
    · intro entry hentry
      refine within_priceLookup ⟨entry.1, ?_, Or.inr rfl⟩
      rw [tokensAskedBy, hkind]
      rcases List.mem_pair.mp hentry with rfl | rfl
      · exact h0
      · exact h1
    · intro entry hentry
      rcases List.mem_pair.mp hentry with rfl | rfl <;> exact trivial

theorem within_kodiak_getUnitPrice {pool quoter : String} {rewardVault : Option String}
    (hkind : handler.kind = .kodiak pool quoter rewardVault) :
    (Kodiak.getUnitPrice ctx handler pool).Within (ReadBy handler) (AskedBy ctx handler) := by
  unfold Kodiak.getUnitPrice
  split
  · exact trivial
  · refine (Prog.within_get (by rw [ReadBy, poolToken, hkind])).bind (fun supply => ?_)
    split
    · exact trivial
    · split
      · exact trivial
      · dsimp only
        split
        · exact trivial
        · refine (within_kodiak_getTotalValue hkind []).bind (fun totalValue => ?_)
          split <;> exact trivial

theorem within_balancer_getTotalValue {vault : String} (hkind : handler.kind = .balancer vault)
    (excludedTokens : List String) :
    (Balancer.getTotalValue ctx handler excludedTokens).Within queries
      (AskedBy ctx handler) := by
  unfold Balancer.getTotalValue
  split
  · exact trivial
  · split
    · exact trivial
    · next state hstate =>
        refine (within_totalOf ?_ ?_ 0).bind (fun total => trivial)
        · intro entry hentry
          obtain ⟨⟨token, i⟩, htoken, rfl⟩ := List.mem_map.mp hentry
          refine within_priceLookup ⟨token, ?_, Or.inl rfl⟩
          rw [tokensAskedBy, hkind, hstate]
          exact List.fst_mem_of_mem_zipIdx htoken
        · intro entry hentry
          obtain ⟨⟨token, i⟩, htoken, rfl⟩ := List.mem_map.mp hentry
          exact (within_element _ _).bind (fun balance => trivial)

theorem within_balancer_getUnitPrice {vault : String} (hkind : handler.kind = .balancer vault) :
    (Balancer.getUnitPrice ctx handler).Within (ReadBy handler) (AskedBy ctx handler) := by
  unfold Balancer.getUnitPrice
  split
  · exact trivial
  · refine (within_balancer_getTotalValue hkind []).bind (fun totalValue => ?_)
    split
    · exact trivial
    · refine (Prog.within_get (by rw [ReadBy, poolToken, hkind])).bind (fun supply => ?_)
      split <;> exact trivial

theorem within_balancer_firstQuote {state : BalancerPool} {info : WeightsAndDecimals}
    {lookupIndex : ℕ} {entries : List (String × ℕ)}
    (h : ∀ entry ∈ entries, entry.1 ∈ tokensAskedBy ctx handler) :
    (Balancer.firstQuote ctx handler state info lookupIndex entries).Within queries
      (AskedBy ctx handler) := by
  induction entries with
  | nil => exact trivial
  | cons entry rest ih =>
      have hrest := ih (fun entry h' => h entry (List.mem_cons_of_mem _ h'))
      rw [Balancer.firstQuote]
      split
      · exact hrest
      · refine (within_priceLookup
          ⟨entry.1, h entry List.mem_cons_self, Or.inr rfl⟩).bind (fun secondary => ?_)
        split
        · exact hrest
        · refine (within_element _ _).bind (fun lookupBalance => ?_)
          refine (within_element _ _).bind (fun secondaryBalance => ?_)
          dsimp only
          split
          · exact hrest
          · refine (within_element _ _).bind (fun lookupRaw => ?_)
            exact (within_element _ _).bind (fun secondaryRaw => trivial)

theorem within_balancer_getPrice {vault : String} (hkind : handler.kind = .balancer vault)
    {token : String} (hsupply : token = poolToken handler →
      queries (.erc20Supply (poolToken handler))) :
    (Balancer.getPrice ctx handler token).Within queries (AskedBy ctx handler) := by
  have hpool : poolToken handler = Balancer.bptAddressFromPoolId handler.id := by
    rw [poolToken, hkind]
  rw [hpool] at hsupply
  unfold Balancer.getPrice
  split
  · exact trivial
  · split
    · exact trivial
    · next state hstate =>
        dsimp only
        split
        · next hbpt =>
          unfold Balancer.getBptPrice
          refine (within_balancer_getTotalValue hkind []).bind (fun totalValue => ?_)
          split
          · exact trivial
          · split
            · exact trivial
            · refine (Prog.within_get (hsupply (beq_iff_eq.mp hbpt))).bind (fun supply => ?_)
              split
              · exact trivial
              · split
                · exact trivial
                · dsimp only
                  split <;> exact trivial
        · refine (within_orThrow _).bind (fun info => ?_)
          split
          · exact trivial
          · refine within_balancer_firstQuote (fun entry hentry => ?_)
            rw [tokensAskedBy, hkind, hstate]
            exact List.fst_mem_of_mem_zipIdx hentry

theorem within_curve_poolValueOf {entries : List (String × ℕ × ℤ)}
    (h : ∀ entry ∈ entries, entry.1 ∈ tokensAskedBy ctx handler) (poolValue : BigNumber) :
    (Curve.poolValueOf handler entries poolValue).Within queries (AskedBy ctx handler) := by
  induction entries generalizing poolValue with
  | nil => exact trivial
  | cons entry rest ih =>
      obtain ⟨coin, decimals, balanceRaw⟩ := entry
      have hrest := ih (fun entry h' => h entry (List.mem_cons_of_mem _ h'))
      rw [Curve.poolValueOf]
      split
      · exact hrest poolValue
      · exact (within_priceLookup ⟨coin, h _ List.mem_cons_self, Or.inr rfl⟩).bind
          (fun coinPrice => hrest _)

theorem within_curve_getPrice {lpToken : String} {coins : List String} {coinDecimals : List ℕ}
    (hkind : handler.kind = .curve lpToken coins coinDecimals) :
    (Curve.getPrice ctx handler lpToken coins coinDecimals).Within queries
      (AskedBy ctx handler) := by
  unfold Curve.getPrice
  split
  · exact trivial
  · refine (within_orThrow _).bind (fun snapshot => ?_)
    split
    · exact trivial
    · refine (within_curve_poolValueOf (fun entry hentry => ?_) 0).bind (fun poolValue => ?_)
      · rw [tokensAskedBy, hkind]
        exact (List.of_mem_zip hentry).1
      · split
        · exact trivial
        · dsimp only
          split <;> exact trivial

theorem within_fraxswap_getPrice {token0 token1 : String} {decimals0 decimals1 : ℕ}
    (hkind : handler.kind = .fraxswap token0 token1 decimals0 decimals1) :
    (FraxSwap.getPrice ctx handler token0 token1 decimals0 decimals1).Within queries
      (AskedBy ctx handler) := by
  have htokens : tokensAskedBy ctx handler = [token0, token1] := by
    rw [tokensAskedBy, hkind]
  unfold FraxSwap.getPrice
  split
  · exact trivial
  · refine (within_orThrow _).bind (fun snapshot => ?_)
    split
    · exact trivial
    · refine (within_priceLookup ⟨token0, by simp [htokens], Or.inr rfl⟩).bind (fun price0 => ?_)
      refine (within_priceLookup ⟨token1, by simp [htokens], Or.inr rfl⟩).bind (fun price1 => ?_)
      split
      · exact trivial
      · dsimp only
        split
        · exact trivial
        · split <;> exact trivial

/-- A quote that is derived from the price of one token. -/
theorem within_priceLookup_bind {token : String} (htokens : tokensAskedBy ctx handler = [token])
    {next : PriceLookupResult → PricingProg β}
    (hnext : ∀ result, (next result).Within queries (AskedBy ctx handler)) :
    (priceLookup token (some handler.id) >>= next).Within queries (AskedBy ctx handler) :=
  (within_priceLookup ⟨token, by simp [htokens], Or.inr rfl⟩).bind hnext

/-- A price lookup reads the supply of a pool's token only for the price of that token. -/
theorem within_handlerGetPrice (ctx : PricingContext) (handler : LiquidityHandler)
    {token : String} (hsupply : ∀ vault, handler.kind = .balancer vault →
      token = poolToken handler → queries (.erc20Supply (poolToken handler))) :
    (handlerGetPrice ctx handler token).Within queries (AskedBy ctx handler) := by
  unfold handlerGetPrice
  split
  next => exact trivial
  next hkind =>
    unfold Remap.getPrice
    split
    · exact trivial
    · exact within_priceLookup_bind (by rw [tokensAskedBy, hkind]) (fun result => trivial)
  next hkind =>
    unfold Chainlink.getPrice
    split
    · exact trivial
    · exact (within_orThrow _).bind (fun answer => trivial)
  next hkind =>
    unfold Gohm.getPrice
    split
    · exact trivial
    · split
      · exact trivial
      · split
        · exact trivial
        · exact within_priceLookup_bind (by rw [tokensAskedBy, hkind]) (fun result => trivial)
  next hkind =>
    unfold Erc4626.getPrice
    split
    · exact trivial
    · refine (within_orThrow _).bind (fun raw => ?_)
      split
      · exact trivial
      · exact within_priceLookup_bind (by rw [tokensAskedBy, hkind]) (fun result => trivial)
  next hkind => exact within_curve_getPrice hkind
  next hkind => exact within_fraxswap_getPrice hkind
  next hkind => exact within_univ2_getPrice hkind token
  next hkind =>
    unfold Univ3.getPrice
    split
    · exact trivial
    · exact within_concentratedPrice (by rw [tokensAskedBy, hkind]) token
  next hkind =>
    unfold Univ3.getPrice
    split
    · exact trivial
    · exact within_concentratedPrice (by rw [tokensAskedBy, hkind]) token
  next hkind => exact within_balancer_getPrice hkind (hsupply _ hkind)
  next hkind =>
    unfold Kodiak.getPrice
    split
    · exact trivial
    · exact within_concentratedPrice (by rw [tokensAskedBy, hkind]) token

theorem within_handlerGetTotalValue (ctx : PricingContext) (handler : LiquidityHandler)
    (excludedTokens : List String) :
    (handlerGetTotalValue ctx handler excludedTokens).Within queries (AskedBy ctx handler) := by
  unfold handlerGetTotalValue
  split
  next => exact trivial
  next hkind => exact within_univ2_getTotalValue hkind excludedTokens
  next hkind => exact within_balancer_getTotalValue hkind excludedTokens
  next hkind => exact within_kodiak_getTotalValue hkind excludedTokens
  all_goals exact trivial

theorem within_handlerGetUnitPrice (ctx : PricingContext) (handler : LiquidityHandler) :
    (handlerGetUnitPrice ctx handler).Within (ReadBy handler) (AskedBy ctx handler) := by
  unfold handlerGetUnitPrice
  split
  next => exact trivial
  next hkind => exact within_univ2_getUnitPrice hkind
  next hkind => exact within_balancer_getUnitPrice hkind
  next hkind => exact within_kodiak_getUnitPrice hkind
  all_goals exact trivial

end within

/-- The reads of any lookup: the supplies of pool tokens. -/
def PricingRead (handlers : List LiquidityHandler) (query : LedgerKey) : Prop :=
  ∃ handler ∈ handlers, query = .erc20Supply (poolToken handler)

/-- The price lookups that handlers ask for. -/
def askedKeys (ctx : PricingContext) (handlers : List LiquidityHandler) : List PricingKey :=
  handlers.flatMap (fun handler => (tokensAskedBy ctx handler).flatMap (fun token =>
    [.price token none, .price token (some handler.id)]))

theorem mem_askedKeys {ctx : PricingContext} {handlers : List LiquidityHandler}
    {handler : LiquidityHandler} (h : handler ∈ handlers) {key : PricingKey}
    (hkey : AskedBy ctx handler key) : key ∈ askedKeys ctx handlers := by
  obtain ⟨token, htoken, hkey⟩ := hkey
  refine List.mem_flatMap.mpr ⟨handler, h, List.mem_flatMap.mpr ⟨token, htoken, ?_⟩⟩
  exact List.mem_pair.mpr hkey

theorem exists_of_mem_askedKeys {ctx : PricingContext} {handlers : List LiquidityHandler}
    {key : PricingKey} (h : key ∈ askedKeys ctx handlers) :
    ∃ token currentPool, key = .price token currentPool := by
  obtain ⟨handler, -, h⟩ := List.mem_flatMap.mp h
  obtain ⟨token, -, h⟩ := List.mem_flatMap.mp h
  rcases List.mem_pair.mp h with rfl | rfl
  · exact ⟨token, none, rfl⟩
  · exact ⟨token, some handler.id, rfl⟩

section

variable (ctx : PricingContext)

theorem within_of_handler {α : Type} {handlers : List LiquidityHandler} {handler : LiquidityHandler}
    (h : handler ∈ handlers) {p : PricingProg α}
    (hp : p.Within (ReadBy handler) (AskedBy ctx handler)) :
    p.Within (PricingRead handlers) (· ∈ askedKeys ctx handlers) :=
  hp.mono (fun _ hquery => ⟨handler, h, hquery⟩) (fun _ hkey => mem_askedKeys h hkey)

theorem within_selectQuote (token : String) (currentPool : Option String)
    (currentPoolHandler : Option LiquidityHandler) {handlers : List LiquidityHandler}
    (h : handlers ⊆ ctx.config.liquidityHandlers) (selected : Option PriceLookupResult) :
    (selectQuote ctx token currentPool currentPoolHandler handlers selected).Within
      (PricingRead ctx.config.liquidityHandlers)
      (· ∈ askedKeys ctx ctx.config.liquidityHandlers) := by
  induction handlers generalizing selected with
  | nil => exact trivial
  | cons handler rest ih =>
      have hrest := ih (List.cons_subset.mp h).2
      rw [selectQuote]
      split
      · exact hrest selected
      · refine (within_of_handler ctx (List.cons_subset.mp h).1
          (within_handlerGetPrice ctx handler (fun _ _ _ => rfl))).bind (fun result => hrest _)

theorem within_derivePrice (token : String) (currentPool : Option String) :
    (derivePrice ctx token currentPool).Within (PricingRead ctx.config.liquidityHandlers)
      (· ∈ askedKeys ctx ctx.config.liquidityHandlers) := by
  unfold derivePrice
  dsimp only
  split
  · exact within_selectQuote ctx token currentPool _ (List.Subset.refl _) none
  · exact trivial

theorem within_price (token : String) (currentPool : Option String) :
    (pricingLookup ctx (.price token currentPool)).Within
      (PricingRead ctx.config.liquidityHandlers)
      (· ∈ askedKeys ctx ctx.config.liquidityHandlers) :=
  (within_derivePrice ctx token currentPool).bind (fun _ => trivial)

/-- Enough fuel for any price lookup. -/
def pricingFuel : ℕ := (askedKeys ctx ctx.config.liquidityHandlers).length + 2

/-- Every price lookup returns or throws, from any cache. -/
theorem price_isSome (ledger : LedgerKey → Option ℤ) (token : String)
    (currentPool : Option String) (s : Session LedgerKey PricingKey PricingValue) :
    ((pricingService ctx ledger).lookBy (cacheKey ctx) (pricingFuel ctx) []
      (.price token currentPool) s).isSome := by
  refine lookBy_isSome (pricingService ctx ledger) ?_ (within_price ctx token currentPool) ?_ s
  · intro key hkey
    obtain ⟨token, currentPool, rfl⟩ := exists_of_mem_askedKeys hkey
    exact within_price ctx token currentPool
  · exact Nat.lt_succ_of_le (List.length_filter_le _ _)

end

end OlympusMetrics.Pricing
