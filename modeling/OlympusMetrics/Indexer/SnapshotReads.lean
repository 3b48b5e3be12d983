import OlympusMetrics.Indexer.GnosisAuctions
import OlympusMetrics.Indexer.LiquiditySupply
import OlympusMetrics.Indexer.PoolShares
import OlympusMetrics.Indexer.PoolValues
import OlympusMetrics.Indexer.TokenBalances

/-!
The ledger rows that a snapshot reads, producer by producer.
-/

namespace OlympusMetrics.Pricing

open Lookup

/-- The balances of a token in some wallets. -/
def balanceReads (token : String) (wallets : List String) : List LedgerKey :=
  wallets.map (LedgerKey.tokenBalance token)

section

variable (config : ChainConfig) (blockNumber : ℕ)

/-- Whether the balances of a configured token are read from the chain. -/
def isNonStandard (token : String) : Bool :=
  ((getTokenDefinition config token).map (·.nonStandardBalance)).getD false

/-- The rows that `pushTokenBalanceRecords` reads for a token. -/
def readsOfToken (definition : TokenDefinition) : List LedgerKey :=
  if !reportsBalance blockNumber definition || config.nativeToken == some definition.address ||
      definition.nonStandardBalance then []
  else balanceReads definition.address (getWalletAddressesForContract config definition.address)

def tokenBalanceReads : List LedgerKey :=
  config.tokens.flatMap (readsOfToken config blockNumber)

/-- The rows that `pushOwnedLiquidityRecords` reads for a handler, its unit price included. -/
def readsOfHandler (handler : LiquidityHandler) : List LedgerKey :=
  match getLpTokenForHandler handler with
  | none => []
  | some lpToken =>
      if !isActive handler.startBlock blockNumber || lpToken == "" then []
      else
        .erc20Supply (poolToken handler) ::
          if isNonStandard config lpToken then []
          else balanceReads lpToken config.protocolAddresses

def ownedLiquidityReads : List LedgerKey :=
  config.ownedLiquidityHandlers.flatMap (readsOfHandler config blockNumber)

/-- The row that `pushTotalSupply` reads. -/
def totalSupplyReads : List LedgerKey :=
  if beforeOhmStart config blockNumber then [] else [.erc20Supply config.ohmToken]

/-- The rows that `pushTreasuryOhm` reads of a token that stands for OHM. -/
def readsOfEquivalent (entry : TreasuryOhmEquivalent) : List LedgerKey :=
  if blockNumber < entry.startBlock then []
  else balanceReads entry.tokenAddress config.circulatingSupplyWallets

def treasuryOhmReads : List LedgerKey :=
  if beforeOhmStart config blockNumber then []
  else
    (if isNonStandard config config.ohmToken then []
      else balanceReads config.ohmToken config.circulatingSupplyWallets) ++
      config.treasuryOhmEquivalents.flatMap (readsOfEquivalent config blockNumber)

/-- The rows that `pushOwnedLiquiditySupply` reads for a handler. -/
def supplyReadsOfHandler (handler : LiquidityHandler) : List LedgerKey :=
  match getLpTokenForHandler handler with
  | none => []
  | some lpToken =>
      if !holdsOhm config blockNumber handler then []
      else
        .erc20Supply (poolToken handler) :: balanceReads lpToken config.circulatingSupplyWallets

def liquiditySupplyReads : List LedgerKey :=
  config.ownedLiquidityHandlers.flatMap (supplyReadsOfHandler config blockNumber)

/-- The rows that `pushArbitrumLendingSupply` reads for a market. -/
def readsOfMarket (market : String × ℕ) : List LedgerKey :=
  if blockNumber < market.2 then []
  else balanceReads market.1 (getWalletAddressesForContract config market.1)

/-- Only the snapshots of Arbitrum read lending markets. -/
def lendingReads : List LedgerKey :=
  if config.chainId = .arbitrum then lendingMarkets.flatMap (readsOfMarket config blockNumber)
  else []

/-- The row that `pushGnosisAuctionSupply` reads: the bond manager's OHM. -/
def bondReads : List LedgerKey :=
  match config.bondManager with
  | none => []
  | some bondManager =>
      if blockNumber < bondManager.startBlock then []
      else [.tokenBalance config.ohmToken bondManager.address]

/-- All rows that the producers of a snapshot read. -/
def snapshotReads : List LedgerKey :=
  tokenBalanceReads config blockNumber ++ ownedLiquidityReads config blockNumber ++
    totalSupplyReads config blockNumber ++ treasuryOhmReads config blockNumber ++
    liquiditySupplyReads config blockNumber ++ lendingReads config blockNumber ++
    bondReads config blockNumber

end

/-! ### The producers make no other reads -/

section within

variable {ctx : PricingContext} {queries : LedgerKey → Prop} {keys : PricingKey → Prop}
  {timestamp : ℕ}

theorem within_readTokenBalance {token wallet : String} {decimals : ℕ}
    (h : queries (.tokenBalance token wallet)) :
    (readTokenBalance token wallet decimals).Within queries keys := by
  refine (Prog.within_get h).bind (fun entity => ?_)
  cases entity <;> exact trivial

theorem within_readNonStandardBalance
    {readErc20BalanceOf : String → String → Except String ℤ} {token wallet : String}
    {decimals : ℕ} :
    (readNonStandardBalance readErc20BalanceOf token wallet decimals).Within queries keys :=
  (within_orThrow _).bind (fun _ => trivial)

theorem within_pushBalanceRecords {reads : ChainReads} {definition : TokenDefinition}
    {rate : BigNumber} {wallets : List String}
    (h : ∀ wallet ∈ wallets, (readWalletBalance ctx reads definition wallet).Within queries keys)
    (records : List SerializedTokenRecord) :
    (pushBalanceRecords ctx reads timestamp definition rate wallets records).Within queries
      keys := by
  induction wallets generalizing records with
  | nil => exact trivial
  | cons wallet rest ih =>
      have hrest := ih (fun wallet h' => h wallet (List.mem_cons_of_mem _ h'))
      rw [pushBalanceRecords]
      refine (h wallet List.mem_cons_self).bind (fun balance => ?_)
      split
      · exact hrest records
      · exact hrest _

theorem within_pushTokenRecords (reads : ChainReads) {tokens : List TokenDefinition}
    (hqueries : ∀ definition ∈ tokens,
      ∀ key ∈ readsOfToken ctx.config ctx.blockNumber definition, queries key)
    (hkeys : ∀ token, keys (.price token none)) (records : List SerializedTokenRecord) :
    (pushTokenRecords ctx reads timestamp tokens records).Within queries keys := by
  induction tokens generalizing records with
  | nil => exact trivial
  | cons definition rest ih =>
      have hrest := ih (fun definition h => hqueries definition (List.mem_cons_of_mem _ h))
      rw [pushTokenRecords]
      split
      · exact hrest records
      · next hreports =>
          refine (within_priceLookup (hkeys _)).bind (fun result => ?_)
          split
          · exact hrest records
          · refine (within_pushBalanceRecords (fun wallet hwallet => ?_) records).bind
              (fun records => hrest records)
            unfold readWalletBalance
            dsimp only
            split
            · exact (within_orThrow _).bind (fun raw => trivial)
            · next hnative =>
                split
                · exact within_readNonStandardBalance
                · next hstandard =>
                    apply within_readTokenBalance
                    apply hqueries definition List.mem_cons_self
                    rw [readsOfToken, if_neg (by simp_all)]
                    exact List.mem_map_of_mem hwallet

theorem within_pushWalletRecords
    {readErc20BalanceOf : String → String → Except String ℤ} {handler : LiquidityHandler}
    {lpToken : String} {unitRate multiplier : BigNumber} {wallets : List String}
    (h : isNonStandard ctx.config lpToken = false →
      ∀ wallet ∈ wallets, queries (.tokenBalance lpToken wallet))
    (records : List SerializedTokenRecord) :
    (pushWalletRecords ctx readErc20BalanceOf timestamp handler lpToken unitRate multiplier wallets
      records).Within queries keys := by
  induction wallets generalizing records with
  | nil => exact trivial
  | cons wallet rest ih =>
      have hrest := ih (fun hstandard wallet h' => h hstandard wallet (List.mem_cons_of_mem _ h'))
      have hbalance : (readLpBalance ctx readErc20BalanceOf lpToken wallet).Within queries
          keys := by
        unfold readLpBalance
        dsimp only
        split
        · exact within_readNonStandardBalance
        · next hstandard =>
            exact within_readTokenBalance
              (h (Bool.not_eq_true _ ▸ hstandard) wallet List.mem_cons_self)
      rw [pushWalletRecords]
      refine hbalance.bind (fun balance => ?_)
      split
      · exact hrest records
      · exact hrest _

theorem within_getTotalValue {handler : LiquidityHandler} {excludedTokens : List String}
    (h : keys (.totalValue handler (sortedTokens excludedTokens))) :
    (getTotalValue handler excludedTokens).Within queries keys := by
  refine ⟨h, fun value => ?_⟩
  cases value <;> exact trivial

theorem within_getUnitPrice {handler : LiquidityHandler} (h : keys (.unitPrice handler)) :
    (getUnitPrice handler).Within queries keys := by
  refine ⟨h, fun value => ?_⟩
  cases value <;> exact trivial

theorem within_unitRateAndMultiplier {handler : LiquidityHandler}
    (hvalue : ∀ excludedTokens, keys (.totalValue handler excludedTokens))
    (hunit : keys (.unitPrice handler)) :
    (unitRateAndMultiplier ctx handler).Within queries keys := by
  unfold unitRateAndMultiplier
  refine (within_getTotalValue (hvalue _)).bind (fun totalValue => ?_)
  split
  · exact trivial
  · split
    · exact trivial
    · refine (within_getTotalValue (hvalue _)).bind (fun includedValue => ?_)
      split
      · exact trivial
      · exact (within_getUnitPrice hunit).bind (fun unitRate => trivial)

/-- The lookups that the producers ask for: a unit price is one whose supply is among the reads. -/
def SnapshotKey (ctx : PricingContext) : PricingKey → Prop
  | .price _ _ | .totalValue _ _ => True
  | .unitPrice handler =>
      .erc20Supply (poolToken handler) ∈ ownedLiquidityReads ctx.config ctx.blockNumber

theorem within_pushHandlerRecords
    (readErc20BalanceOf : String → String → Except String ℤ) {handlers : List LiquidityHandler}
    (hqueries : ∀ handler ∈ handlers,
      ∀ key ∈ readsOfHandler ctx.config ctx.blockNumber handler, queries key)
    (hvalue : ∀ handler excludedTokens, keys (.totalValue handler excludedTokens))
    (hunit : ∀ handler ∈ handlers,
      .erc20Supply (poolToken handler) ∈ readsOfHandler ctx.config ctx.blockNumber handler →
        keys (.unitPrice handler))
    (records : List SerializedTokenRecord) :
    (pushHandlerRecords ctx readErc20BalanceOf timestamp handlers records).Within queries
      keys := by
  induction handlers generalizing records with
  | nil => exact trivial
  | cons handler rest ih =>
      have hrest := ih (fun handler h => hqueries handler (List.mem_cons_of_mem _ h))
        (fun handler h => hunit handler (List.mem_cons_of_mem _ h))
      rw [pushHandlerRecords]
      split
      · exact hrest records
      · next hactive =>
          split
          · exact hrest records
          · next lpToken hlp =>
              split
              · exact hrest records
              · next hne =>
                  have hreads : readsOfHandler ctx.config ctx.blockNumber handler =
                      .erc20Supply (poolToken handler) ::
                        if isNonStandard ctx.config lpToken then []
                        else balanceReads lpToken ctx.config.protocolAddresses := by
                    have hskip : (!isActive handler.startBlock ctx.blockNumber ||
                        lpToken == "") = false := by
                      simpa [hne, PricingContext.isActive] using hactive
                    rw [readsOfHandler, hlp]
                    simp only [hskip, Bool.false_eq_true, if_false]
                  have hsupply : .erc20Supply (poolToken handler) ∈
                      readsOfHandler ctx.config ctx.blockNumber handler := by
                    rw [hreads]
                    exact List.mem_cons_self
                  refine (within_unitRateAndMultiplier (hvalue handler)
                    (hunit handler List.mem_cons_self hsupply)).bind (fun rates => ?_)
                  split
                  · exact hrest records
                  · refine (within_pushWalletRecords ?_ records).bind (fun records => hrest records)
                    intro hstandard wallet hwallet
                    apply hqueries handler List.mem_cons_self
                    rw [hreads, hstandard]
                    exact List.mem_cons_of_mem _ (List.mem_map_of_mem hwallet)

theorem within_getUnderlyingTokenBalance {handler : LiquidityHandler} {wallet : String}
    (h : ∀ lpToken, getLpTokenForHandler handler = some lpToken →
      queries (.erc20Supply (poolToken handler)) ∧ queries (.tokenBalance lpToken wallet))
    (token : String) :
    (getUnderlyingTokenBalance ctx handler wallet token).Within queries keys := by
  unfold getUnderlyingTokenBalance
  split
  next hkind =>
    obtain ⟨hsupply, hbalance⟩ := h handler.id (by rw [getLpTokenForHandler, hkind])
    rw [poolToken, hkind] at hsupply
    unfold Univ2.getUnderlyingTokenBalance
    split
    · exact trivial
    · split
      · exact trivial
      · refine (Prog.within_get hsupply).bind (fun supply => ?_)
        split
        · exact trivial
        · dsimp only
          split
          · exact trivial
          · refine (Prog.within_get hbalance).bind (fun balance => ?_)
            split
            · exact trivial
            · split <;> exact trivial
  next vault hkind =>
    obtain ⟨hsupply, hbalance⟩ := h _ (by rw [getLpTokenForHandler, hkind])
    rw [poolToken, hkind] at hsupply
    unfold Balancer.getUnderlyingTokenBalance
    split
    · exact trivial
    · split
      · exact trivial
      · refine (Prog.within_get hsupply).bind (fun supply => ?_)
        split
        · exact trivial
        · split
          · exact trivial
          · refine (Prog.within_get hbalance).bind (fun balance => ?_)
            split
            · exact trivial
            · split
              · exact trivial
              · split
                · exact trivial
                · exact (within_element _ _).bind (fun reserve => trivial)
  next pool quoter rewardVault hkind =>
    obtain ⟨hsupply, hbalance⟩ := h _ (by rw [getLpTokenForHandler, hkind])
    rw [poolToken, hkind] at hsupply
    unfold Kodiak.getUnderlyingTokenBalance
    split
    · exact trivial
    · refine (Prog.within_get hsupply).bind (fun supply => ?_)
      split
      · exact trivial
      · split
        · exact trivial
        · dsimp only
          split
          · exact trivial
          · refine (Prog.within_get hbalance).bind (fun balance => ?_)
            split
            · exact trivial
            · split
              · exact trivial
              · exact (within_orThrow _).bind (fun reserves => trivial)
  all_goals exact trivial

theorem within_pushPoolSupplies {handler : LiquidityHandler} {multiplier : BigNumber}
    {wallets : List String}
    (h : ∀ wallet ∈ wallets, ∀ lpToken, getLpTokenForHandler handler = some lpToken →
      queries (.erc20Supply (poolToken handler)) ∧ queries (.tokenBalance lpToken wallet))
    (supplies : List SerializedTokenSupply) :
    (pushPoolSupplies ctx timestamp handler multiplier wallets supplies).Within queries keys := by
  induction wallets generalizing supplies with
  | nil => exact trivial
  | cons wallet rest ih =>
      have hrest := ih (fun wallet h' => h wallet (List.mem_cons_of_mem _ h'))
      rw [pushPoolSupplies]
      refine (within_getUnderlyingTokenBalance (h wallet List.mem_cons_self) _).bind
        (fun rawBalance => ?_)
      split
      · exact hrest supplies
      · dsimp only
        split
        · exact hrest supplies
        · exact hrest _

theorem within_pushLiquiditySupplies {multiplier : BigNumber} {handlers : List LiquidityHandler}
    (hqueries : ∀ handler ∈ handlers,
      ∀ key ∈ supplyReadsOfHandler ctx.config ctx.blockNumber handler, queries key)
    (supplies : List SerializedTokenSupply) :
    (pushLiquiditySupplies ctx timestamp multiplier handlers supplies).Within queries keys := by
  induction handlers generalizing supplies with
  | nil => exact trivial
  | cons handler rest ih =>
      have hrest := ih (fun handler h => hqueries handler (List.mem_cons_of_mem _ h))
      rw [pushLiquiditySupplies]
      split
      · exact hrest supplies
      · next hholds =>
          refine (within_pushPoolSupplies (fun wallet hwallet lpToken hlp => ?_) supplies).bind
            (fun supplies => hrest supplies)
          have hreads : supplyReadsOfHandler ctx.config ctx.blockNumber handler =
              .erc20Supply (poolToken handler) ::
                balanceReads lpToken ctx.config.circulatingSupplyWallets := by
            rw [supplyReadsOfHandler, hlp]
            exact if_neg hholds
          have hhandler := hqueries handler List.mem_cons_self
          rw [hreads] at hhandler
          exact ⟨hhandler _ List.mem_cons_self,
            hhandler _ (List.mem_cons_of_mem _ (List.mem_map_of_mem hwallet))⟩

theorem within_pushMarketSupplies {market : String} {wallets : List String}
    (h : ∀ wallet ∈ wallets, queries (.tokenBalance market wallet))
    (supplies : List SerializedTokenSupply) :
    (pushMarketSupplies ctx timestamp market wallets supplies).Within queries keys := by
  induction wallets generalizing supplies with
  | nil => exact trivial
  | cons wallet rest ih =>
      have hrest := ih (fun wallet h' => h wallet (List.mem_cons_of_mem _ h'))
      rw [pushMarketSupplies]
      refine (within_readTokenBalance (h wallet List.mem_cons_self)).bind (fun balance => ?_)
      split
      · exact hrest supplies
      · exact hrest _

theorem within_pushLendingSupplies {markets : List (String × ℕ)}
    (hqueries : ∀ market ∈ markets,
      ∀ key ∈ readsOfMarket ctx.config ctx.blockNumber market, queries key)
    (supplies : List SerializedTokenSupply) :
    (pushLendingSupplies ctx timestamp markets supplies).Within queries keys := by
  induction markets generalizing supplies with
  | nil => exact trivial
  | cons market rest ih =>
      obtain ⟨address, startBlock⟩ := market
      have hrest := ih (fun market h => hqueries market (List.mem_cons_of_mem _ h))
      rw [pushLendingSupplies]
      split
      · exact hrest supplies
      · next hstarted =>
          refine (within_pushMarketSupplies (fun wallet hwallet => ?_) supplies).bind
            (fun supplies => hrest supplies)
          apply hqueries (address, startBlock) List.mem_cons_self
          rw [readsOfMarket, if_neg hstarted]
          exact List.mem_map_of_mem hwallet

/-! ### The lookups of a shipped chain -/

/-- A price lookup of a shipped chain reads no ledger row. -/
theorem within_price_shipped {c : ChainId} (hconfig : ctx.config = chainConfigs c)
    (token : String) (currentPool : Option String) :
    (pricingLookup ctx (.price token currentPool)).Within queries IsPriceKey := by
  have hshares : ∀ handler ∈ ctx.config.liquidityHandlers, ∀ vault,
      handler.kind = .balancer vault → handler.matches (poolToken handler) = false := by
    intro handler hhandler vault hkind
    rw [hconfig] at hhandler
    have hunlisted := (shipped_pool_tokens c handler hhandler (by rw [isBalancer, hkind])).1
    rw [poolToken, hkind]
    exact hunlisted handler hhandler
  have hselect (currentPoolHandler : Option LiquidityHandler) {handlers : List LiquidityHandler}
      (hhandlers : handlers ⊆ ctx.config.liquidityHandlers)
      (selected : Option PriceLookupResult) :
      (selectQuote ctx token currentPool currentPoolHandler handlers selected).Within queries
        IsPriceKey := by
    induction handlers generalizing selected with
    | nil => exact trivial
    | cons handler rest ih =>
        obtain ⟨hmem, hrest⟩ := List.cons_subset.mp hhandlers
        rw [selectQuote]
        split
        · exact ih hrest selected
        · next hskip =>
            have hmatches : handler.matches token = true := by
              simp only [Bool.or_eq_true, not_or] at hskip
              simpa using hskip.1.1.2
            have hasked : (handlerGetPrice ctx handler token).Within queries
                (AskedBy ctx handler) := by
              refine within_handlerGetPrice ctx handler (fun vault hkind heq => ?_)
              rw [heq, hshares handler hmem vault hkind] at hmatches
              cases hmatches
            have hprice : (handlerGetPrice ctx handler token).Within queries IsPriceKey := by
              refine hasked.mono (fun _ h => h) ?_
              rintro key ⟨asked, -, rfl | rfl⟩
              · exact ⟨asked, none, rfl⟩
              · exact ⟨asked, some handler.id, rfl⟩
            exact hprice.bind (fun result => ih hrest _)
  have hderive : (derivePrice ctx token currentPool).Within queries IsPriceKey := by
    unfold derivePrice
    dsimp only
    split
    · exact hselect _ (List.Subset.refl _) none
    · exact trivial
  exact hderive.bind (fun _ => trivial)

/-- The lookups of a snapshot read only rows of `snapshotReads`. -/
theorem within_snapshotKey {c : ChainId} (hconfig : ctx.config = chainConfigs c)
    (key : PricingKey) (hkey : SnapshotKey ctx key) :
    (pricingLookup ctx key).Within (· ∈ snapshotReads ctx.config ctx.blockNumber)
      (SnapshotKey ctx) := by
  have hasked {handler : LiquidityHandler} {key : PricingKey} (h : AskedBy ctx handler key) :
      SnapshotKey ctx key := by
    obtain ⟨token, -, rfl | rfl⟩ := h <;> exact trivial
  cases key with
  | price token currentPool =>
      refine (within_price_shipped hconfig token currentPool).mono (fun _ h => h) ?_
      rintro key ⟨token, currentPool, rfl⟩
      exact trivial
  | totalValue handler excludedTokens =>
      refine ((within_handlerGetTotalValue ctx handler excludedTokens).mono (fun _ h => h)
        (fun _ h => hasked h)).bind (fun _ => trivial)
  | unitPrice handler =>
      refine ((within_handlerGetUnitPrice ctx handler).mono ?_ (fun _ h => hasked h)).bind
        (fun _ => trivial)
      rintro query rfl
      simp only [snapshotReads, List.mem_append]
      exact Or.inl (Or.inl (Or.inl (Or.inl (Or.inl (Or.inr hkey)))))

end within

/-! ### The producers of a snapshot -/

section producers

variable {ctx : PricingContext} {timestamp : ℕ}

theorem within_pushTokenBalanceRecords (reads : ChainReads)
    (records : List SerializedTokenRecord) :
    (pushTokenBalanceRecords ctx reads timestamp records).Within
      (· ∈ snapshotReads ctx.config ctx.blockNumber) (SnapshotKey ctx) := by
  refine within_pushTokenRecords reads (fun definition hmem key hkey => ?_) (fun _ => trivial)
    records
  have htoken : key ∈ tokenBalanceReads ctx.config ctx.blockNumber :=
    List.mem_flatMap.mpr ⟨definition, hmem, hkey⟩
  simp [snapshotReads, htoken]

theorem within_pushOwnedLiquidityRecords
    (readErc20BalanceOf : String → String → Except String ℤ)
    (records : List SerializedTokenRecord) :
    (pushOwnedLiquidityRecords ctx readErc20BalanceOf timestamp records).Within
      (· ∈ snapshotReads ctx.config ctx.blockNumber) (SnapshotKey ctx) := by
  refine within_pushHandlerRecords readErc20BalanceOf (fun handler hmem key hkey => ?_)
    (fun _ _ => trivial) (fun handler hmem hkey => ?_) records
  · have howned : key ∈ ownedLiquidityReads ctx.config ctx.blockNumber :=
      List.mem_flatMap.mpr ⟨handler, hmem, hkey⟩
    simp [snapshotReads, howned]
  · exact List.mem_flatMap.mpr ⟨handler, hmem, hkey⟩

theorem within_pushOwnedLiquiditySupply (indexState : Option OhmIndexState)
    (supplies : List SerializedTokenSupply) :
    (pushOwnedLiquiditySupply ctx timestamp indexState supplies).Within
      (· ∈ snapshotReads ctx.config ctx.blockNumber) (SnapshotKey ctx) := by
  unfold pushOwnedLiquiditySupply
  split
  · exact trivial
  · refine within_pushLiquiditySupplies (fun handler hmem key hkey => ?_) supplies
    have hsupply : key ∈ liquiditySupplyReads ctx.config ctx.blockNumber :=
      List.mem_flatMap.mpr ⟨handler, hmem, hkey⟩
    simp [snapshotReads, hsupply]

theorem within_pushArbitrumLendingSupply (hchain : ctx.config.chainId = .arbitrum)
    (activeAmos : List LenderAmo) (supplies : List SerializedTokenSupply) :
    (pushArbitrumLendingSupply ctx timestamp activeAmos supplies).Within
      (· ∈ snapshotReads ctx.config ctx.blockNumber) (SnapshotKey ctx) := by
  refine within_pushLendingSupplies (fun market hmem key hkey => ?_) _
  have hlending : key ∈ lendingReads ctx.config ctx.blockNumber := by
    rw [lendingReads, if_pos hchain]
    exact List.mem_flatMap.mpr ⟨market, hmem, hkey⟩
  simp [snapshotReads, hlending]

/-- On a shipped chain every ledger row that such a producer reads, itself or through the pricing
cache, is one of `snapshotReads`. -/
theorem mem_snapshotReads_of_run {c : ChainId} (hconfig : ctx.config = chainConfigs c)
    {ledger : LedgerKey → Option ℤ} {α : Type} {p : PricingProg α}
    (hp : p.Within (· ∈ snapshotReads ctx.config ctx.blockNumber) (SnapshotKey ctx)) {fuel : ℕ}
    {r : Except String α} {s' : PricingSession}
    (h : p.run ledger ((pricingService ctx ledger).lookBy (cacheKey ctx) fuel []) .fresh =
      some (r, s')) : ∀ key ∈ s'.reads, key ∈ snapshotReads ctx.config ctx.blockNumber := by
  refine run_readsOnly (fun key s r s' hkey hs hlook => ?_) hp ?_ h
  · exact lookBy_readsOnly (fun key hkey => within_snapshotKey hconfig key hkey) hkey hs hlook
  · intro key hkey
    cases hkey

theorem pushTotalSupply_congr {config : ChainConfig} {reads reads' : SupplyReads}
    {blockNumber : ℕ} (h : .erc20Supply config.ohmToken ∈ totalSupplyReads config blockNumber →
      reads.erc20Supply = reads'.erc20Supply) (indexState : Option OhmIndexState) :
    pushTotalSupply config reads indexState timestamp blockNumber =
      pushTotalSupply config reads' indexState timestamp blockNumber := by
  unfold pushTotalSupply
  cases hstart : beforeOhmStart config blockNumber with
  | true => rfl
  | false =>
      have hread : .erc20Supply config.ohmToken ∈ totalSupplyReads config blockNumber := by
        simp [totalSupplyReads, hstart]
      rw [h hread]

theorem pushTreasuryOhm_congr {config : ChainConfig} {reads reads' : SupplyReads}
    {blockNumber : ℕ} (hchain : reads.readErc20BalanceOf = reads'.readErc20BalanceOf)
    (h : ∀ token wallet, .tokenBalance token wallet ∈ treasuryOhmReads config blockNumber →
      reads.tokenBalance token wallet = reads'.tokenBalance token wallet)
    (indexState : Option OhmIndexState) :
    pushTreasuryOhm config reads indexState timestamp blockNumber =
      pushTreasuryOhm config reads' indexState timestamp blockNumber := by
  unfold pushTreasuryOhm
  cases hstart : beforeOhmStart config blockNumber with
  | true => rfl
  | false =>
      rw [treasuryOhmReads, hstart] at h
      have hohm (multiplier : BigNumber) :
          treasuryOhmRows config reads timestamp blockNumber multiplier =
            treasuryOhmRows config reads' timestamp blockNumber multiplier := by
        apply List.filterMap_congr
        intro wallet hwallet
        cases hstandard : isNonStandard config config.ohmToken with
        | true =>
            rw [isNonStandard] at hstandard
            simp only [hstandard, if_true, hchain]
        | false =>
            have hread := h config.ohmToken wallet (by
              simp only [hstandard, Bool.false_eq_true, if_false]
              exact List.mem_append_left _ (List.mem_map_of_mem hwallet))
            rw [isNonStandard] at hstandard
            simp only [hstandard, Bool.false_eq_true, if_false, hread]
      have hequivalents : ∀ entry ∈ config.treasuryOhmEquivalents,
          equivalentRows config reads indexState timestamp blockNumber entry =
            equivalentRows config reads' indexState timestamp blockNumber entry := by
        intro entry hentry
        unfold equivalentRows
        split
        · rfl
        · next hstarted =>
            split
            · rfl
            · apply List.filterMap_congr
              intro wallet hwallet
              rw [h entry.tokenAddress wallet]
              refine List.mem_append_right _ (List.mem_flatMap.mpr ⟨entry, hentry, ?_⟩)
              rw [readsOfEquivalent, if_neg hstarted]
              exact List.mem_map_of_mem hwallet
      have hflat : config.treasuryOhmEquivalents.flatMap
            (equivalentRows config reads indexState timestamp blockNumber) =
          config.treasuryOhmEquivalents.flatMap
            (equivalentRows config reads' indexState timestamp blockNumber) :=
        List.flatMap_congr hequivalents
      simp only [hohm, hflat]

theorem pushGnosisAuctionSupply_congr {config : ChainConfig} {balanceEntity balanceEntity' : Option ℤ}
    {blockNumber : ℕ} (h : bondReads config blockNumber ≠ [] → balanceEntity = balanceEntity')
    (state : BondManagerState) (auctions : List GnosisAuction)
    (supplies : List SerializedTokenSupply) :
    pushGnosisAuctionSupply config state auctions balanceEntity supplies timestamp blockNumber =
      pushGnosisAuctionSupply config state auctions balanceEntity' supplies timestamp
        blockNumber := by
  unfold pushGnosisAuctionSupply
  cases hmanager : config.bondManager with
  | none => rfl
  | some bondManager =>
      by_cases hstart : blockNumber < bondManager.startBlock
      · simp only [hstart, if_true]
      · rw [h (by simp [bondReads, hmanager, hstart])]

end producers

end OlympusMetrics.Pricing
