import OlympusMetrics.Indexer.LedgerRun

/-!
When the seeds and the Transfers together give the true balances.
-/

namespace OlympusMetrics

/-- The configured tokens other than the native one. -/
def configuredTokens (c : ChainId) : List String :=
  ((chainConfigs c).tokens.map (·.address)).filter (fun address => address ≠ nativeToken)

/-- Every configured token is stored with its true balance in every treasury wallet. -/
def BalancesExact (c : ChainId) (s : LedgerState) : Prop :=
  ∀ t ∈ configuredTokens c, ∀ w ∈ treasuryWalletsForChain c,
    s.ledger.balance c t w = s.holdings t w

/-- The seeds and the Transfers cover the holdings: a token that the backfill skips was not held
before the start block, and the holding of a token without a Transfer handler is what was seeded. -/
structure HoldingsCovered (c : ChainId) (before holdings : ChainHoldings) : Prop where
  skipped : ∀ t ∈ configuredTokens c, (transferHandlerOf c t).isSome → t ∉ seededTokens c →
    ∀ w ∈ treasuryWalletsForChain c, before t w = 0
  unregistered : ∀ t ∈ configuredTokens c, transferHandlerOf c t = none →
    ∀ w ∈ treasuryWalletsForChain c,
      holdings t w = if t ∈ seededTokens c then before t w else 0

theorem balance_eq_holding_iff {effects : BackfillEffects} {c : ChainId} {before : ChainHoldings}
    (hreads : effects.ReadsBefore c before) {es : List LedgerEvent} {s : LedgerState}
    (run : LedgerRun effects c before es s) (hdone : s.backfilled c = true) (t : String)
    {w : String} (hw : w ∈ treasuryWalletsForChain c) :
    s.ledger.balance c t w = s.holdings t w ↔
      ((transferHandlerOf c t).isSome → t ∉ seededTokens c → before t w = 0) ∧
      (transferHandlerOf c t = none →
        s.holdings t w = if t ∈ seededTokens c then before t w else 0) := by
  rw [balance_of_run hreads run t hw, seed_of_backfilled hdone]
  cases hhandler : transferHandlerOf c t with
  | none =>
      simp only [Option.isSome_none, Bool.false_eq_true, if_false, add_zero, false_implies,
        true_and, true_implies]
      rw [Nat.cast_inj]
      exact eq_comm
  | some handler =>
      by_cases hseeded : t ∈ seededTokens c
      · simp [hseeded]
      · simp only [Option.isSome_some, if_true, hseeded, if_false, not_false_eq_true,
          true_implies, reduceCtorEq, false_implies, and_true]
        omega

/-- In every run, at every state after the backfill, the stored balances are exact exactly when
the holdings are covered. -/
theorem balancesExact_iff_holdingsCovered {effects : BackfillEffects} {c : ChainId}
    {before : ChainHoldings} (hreads : effects.ReadsBefore c before) {es : List LedgerEvent}
    {s : LedgerState} (run : LedgerRun effects c before es s) (hdone : s.backfilled c = true) :
    BalancesExact c s ↔ HoldingsCovered c before s.holdings := by
  constructor
  · intro h
    constructor
    · intro t ht hsome hskip w hw
      exact ((balance_eq_holding_iff hreads run hdone t hw).mp (h t ht w hw)).1 hsome hskip
    · intro t ht hnone w hw
      exact ((balance_eq_holding_iff hreads run hdone t hw).mp (h t ht w hw)).2 hnone
  · intro h t ht w hw
    refine (balance_eq_holding_iff hreads run hdone t hw).mpr ⟨?_, ?_⟩
    · exact fun hsome hskip => h.skipped t ht hsome hskip w hw
    · exact fun hnone => h.unregistered t ht hnone w hw

/-! ### A bridged holding that is swept out -/

/-- The DAI that the Fantom wallet held at block 37319999. -/
def bridgedDai : ℕ := 80100 * 10 ^ 18

noncomputable def holdingsBeforeSweep : ChainHoldings :=
  fun token =>
    if token = Chains.Fantom.erc20Dai then
      Finsupp.single Chains.Fantom.crossChainFantom bridgedDai
    else 0

def sweepEffects : BackfillEffects where
  readErc20BalanceOf token wallet _ :=
    if token = Chains.Fantom.erc20Dai ∧ wallet = Chains.Fantom.crossChainFantom then bridgedDai
    else 0
  readBlockTimestamp _ := 1651363200

def daiSweep : TransferEvent where
  chainId := .fantom
  srcAddress := Chains.Fantom.erc20Dai
  info := ⟨45000000, 1661000000, 7⟩
  sender := Chains.Fantom.crossChainFantom
  recipient := zeroAddress
  value := bridgedDai

theorem sweepEffects_readsBefore : sweepEffects.ReadsBefore .fantom holdingsBeforeSweep := by
  intro token wallet
  by_cases ht : token = Chains.Fantom.erc20Dai
  · by_cases hw : wallet = Chains.Fantom.crossChainFantom
    · simp [sweepEffects, holdingsBeforeSweep, ht, hw]
    · simp [sweepEffects, holdingsBeforeSweep, ht, hw]
  · simp [sweepEffects, holdingsBeforeSweep, ht]

/-- The backfill at the start block, then the sweep. -/
theorem exists_sweepRun : ∃ s, LedgerRun sweepEffects .fantom holdingsBeforeSweep
    [.block 37320000, .transfer daiSweep] s ∧ s.backfilled .fantom = true ∧
      s.holdings Chains.Fantom.erc20Dai Chains.Fantom.crossChainFantom = 0 := by
  obtain ⟨ledger, hledger⟩ := onBackfillBlock_isOk sweepEffects
    (show backfillStartBlock .fantom ≤ 37320000 by decide) Ledger.empty
  have hmoves : Erc20.Moves zeroAddress daiSweep.transfer
      (holdingsBeforeSweep daiSweep.srcAddress) 0 := by
    have hsender : Chains.Fantom.crossChainFantom ≠ zeroAddress := by decide
    simp [Erc20.Moves, Erc20.Transfer.credit, Erc20.Transfer.debit, TransferEvent.transfer,
      daiSweep, holdingsBeforeSweep, hsender]
  have hblock : LedgerRun sweepEffects .fantom holdingsBeforeSweep [.block 37320000]
      ⟨ledger, holdingsBeforeSweep⟩ := LedgerRun.nil.block 37320000 ledger hledger
  refine ⟨_, hblock.transfer daiSweep 0 rfl hmoves, ?_, ?_⟩
  · rw [LedgerState.backfilled, backfillSentinel_onTransfer]
    exact isSome_backfillSentinel hledger
  · simp [daiSweep]

/-- The backfill skips DAI, whose start block is the chain's, so the sweep leaves the stored
balance negative while the wallet holds nothing. -/
theorem sweep_stored_negative : ∃ s, LedgerRun sweepEffects .fantom holdingsBeforeSweep
    [.block 37320000, .transfer daiSweep] s ∧ s.backfilled .fantom = true ∧
      Chains.Fantom.erc20Dai ∈ configuredTokens .fantom ∧
      Chains.Fantom.crossChainFantom ∈ treasuryWalletsForChain .fantom ∧
      s.holdings Chains.Fantom.erc20Dai Chains.Fantom.crossChainFantom = 0 ∧
      s.ledger.balance .fantom Chains.Fantom.erc20Dai Chains.Fantom.crossChainFantom =
        -(80100 * 10 ^ 18) := by
  obtain ⟨s, run, hdone, hholding⟩ := exists_sweepRun
  have hwallet : Chains.Fantom.crossChainFantom ∈ treasuryWalletsForChain .fantom := by decide
  refine ⟨s, run, hdone, by decide, hwallet, hholding, ?_⟩
  have hskipped : Chains.Fantom.erc20Dai ∉ seededTokens .fantom := by decide
  have hhandler : (transferHandlerOf .fantom Chains.Fantom.erc20Dai).isSome = true := by decide
  rw [balance_of_run sweepEffects_readsBefore run _ hwallet, seed_of_backfilled hdone,
    if_neg hskipped, if_pos hhandler, hholding]
  simp [holdingsBeforeSweep, bridgedDai]

theorem balancesExact_iff_sweepRun : ∃ s, LedgerRun sweepEffects .fantom holdingsBeforeSweep
    [.block 37320000, .transfer daiSweep] s ∧
      (BalancesExact .fantom s ↔ HoldingsCovered .fantom holdingsBeforeSweep s.holdings) := by
  obtain ⟨s, run, hdone, -⟩ := exists_sweepRun
  exact ⟨s, run, balancesExact_iff_holdingsCovered sweepEffects_readsBefore run hdone⟩

end OlympusMetrics
