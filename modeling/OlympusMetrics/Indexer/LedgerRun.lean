import OlympusMetrics.Indexer.BackfillTokenBalances
import OlympusMetrics.Library.Erc20

/-!
Runs of the ledger of one chain beside the true holdings of its tokens.
-/

namespace OlympusMetrics

def TransferEvent.transfer (event : TransferEvent) : Erc20.Transfer String :=
  ⟨event.sender, event.recipient, event.value⟩

/-! ### What one Transfer does to the ledger -/

/-- An update that is made for treasury wallets only. -/
theorem balance_ite_wallet (wallets : List String) (c c' : ChainId) (token wallet t w : String)
    (delta : ℤ) (info : EventMeta) (ledger : Ledger) :
    (if wallets.contains wallet then applyTransferToWalletBalance c token wallet delta info ledger
      else ledger).balance c' t w =
      ledger.balance c' t w +
        if c' = c ∧ t = token ∧ w ∈ wallets ∧ wallet = w then delta else 0 := by
  rw [apply_ite (fun l : Ledger => l.balance c' t w), balance_applyTransferToWalletBalance]
  simp only [List.contains_iff_mem]
  grind

theorem balance_handleTreasuryTransfer (event : TransferEvent) (ledger : Ledger) (c : ChainId)
    (t w : String) :
    (handleTreasuryTransfer event ledger).balance c t w = ledger.balance c t w +
      if c = event.chainId ∧ t = event.srcAddress ∧ w ∈ treasuryWalletsForChain event.chainId
      then event.transfer.change w else 0 := by
  rw [handleTreasuryTransfer, balance_ite_wallet, balance_ite_wallet, Erc20.Transfer.change,
    TransferEvent.transfer]
  grind

theorem balance_handleLpTransfer (event : TransferEvent) (ledger : Ledger) (c : ChainId)
    (t w : String) :
    (handleLpTransfer event ledger).balance c t w = ledger.balance c t w +
      if c = event.chainId ∧ t = event.srcAddress ∧ w ∈ treasuryWalletsForChain event.chainId
      then event.transfer.change w else 0 := by
  -- The zero address is no wallet, so a mint or burn has at most one treasury side.
  have hzero := zeroAddress_not_mem_treasuryWallets event.chainId
  rw [handleLpTransfer, Erc20.Transfer.change, TransferEvent.transfer]
  by_cases hs : event.sender = zeroAddress
  · by_cases hr : event.recipient = zeroAddress
    · simp only [if_pos hs, if_pos hr, balance_applyMintBurnToSupply]
      grind
    · simp only [if_pos hs, if_neg hr, balance_ite_wallet, balance_applyMintBurnToSupply]
      grind
  · by_cases hr : event.recipient = zeroAddress
    · simp only [if_neg hs, if_pos hr, balance_ite_wallet, balance_applyMintBurnToSupply]
      grind
    · simp only [if_neg hs, if_neg hr, balance_ite_wallet]
      grind

/-- The OHM handler keeps balances as the LP handler does. -/
theorem balance_handleOhmTransfer (event : TransferEvent) (ledger : Ledger) (c : ChainId)
    (t w : String) :
    (handleOhmTransfer event ledger).balance c t w =
      (handleLpTransfer event ledger).balance c t w := by
  rw [handleOhmTransfer, handleLpTransfer]
  by_cases hs : event.sender = zeroAddress
  · by_cases hr : event.recipient = zeroAddress
    · simp only [if_pos hs, if_pos hr, balance_applyDeployedOhmDelta,
        balance_applyMintBurnToSupply]
    · simp only [if_pos hs, if_neg hr, balance_ite_wallet, balance_applyDeployedOhmDelta]
  · by_cases hr : event.recipient = zeroAddress
    · simp only [if_neg hs, if_pos hr, balance_applyDeployedOhmDelta,
        balance_applyMintBurnToSupply]
    · simp only [if_neg hs, if_neg hr]

theorem balance_handle (handler : TransferHandler) (event : TransferEvent) (ledger : Ledger)
    (c : ChainId) (t w : String) :
    (handler.handle event ledger).balance c t w = ledger.balance c t w +
      if c = event.chainId ∧ t = event.srcAddress ∧ w ∈ treasuryWalletsForChain event.chainId
      then event.transfer.change w else 0 := by
  cases handler with
  | treasury => exact balance_handleTreasuryTransfer event ledger c t w
  | ohm =>
      have hohm := balance_handleOhmTransfer event ledger c t w
      exact hohm.trans (balance_handleLpTransfer event ledger c t w)
  | lp => exact balance_handleLpTransfer event ledger c t w

theorem treasuryWallets_ne_nil (c : ChainId) : treasuryWalletsForChain c ≠ [] := by
  cases c <;> decide

/-- A filter drops only Transfers that would change nothing. -/
theorem handle_of_where_eq_false {handler : TransferHandler} {event : TransferEvent}
    (h : handler.where event = false) (ledger : Ledger) : handler.handle event ledger = ledger := by
  have hne := treasuryWallets_ne_nil event.chainId
  cases handler with
  | treasury =>
      simp only [TransferHandler.where, buildTreasuryTransferWhere, Bool.or_eq_false_iff] at h
      simp only [TransferHandler.handle, handleTreasuryTransfer, h.1, h.2, Bool.false_eq_true,
        if_false]
  | ohm =>
      simp only [TransferHandler.where, buildLpTransferWhere, Bool.and_eq_false_iff,
        Bool.or_eq_false_iff, Bool.not_eq_false', List.isEmpty_iff, hne, false_or,
        beq_eq_false_iff_ne] at h
      obtain ⟨⟨⟨hsw, hrw⟩, hs⟩, hr⟩ := h
      simp only [TransferHandler.handle, handleOhmTransfer, if_neg hs, if_neg hr, hsw, hrw,
        Bool.false_eq_true, if_false]
  | lp =>
      simp only [TransferHandler.where, buildLpTransferWhere, Bool.and_eq_false_iff,
        Bool.or_eq_false_iff, Bool.not_eq_false', List.isEmpty_iff, hne, false_or,
        beq_eq_false_iff_ne] at h
      obtain ⟨⟨⟨hsw, hrw⟩, hs⟩, hr⟩ := h
      simp only [TransferHandler.handle, handleLpTransfer, if_neg hs, if_neg hr, hsw, hrw,
        Bool.false_eq_true, if_false]

theorem onTransfer_of_handler {event : TransferEvent} {handler : TransferHandler}
    (h : transferHandlerOf event.chainId event.srcAddress = some handler) (ledger : Ledger) :
    onTransfer event ledger = handler.handle event ledger := by
  rw [onTransfer, h]
  cases hwhere : handler.where event with
  | true => simp [hwhere]
  | false => simp [hwhere, handle_of_where_eq_false hwhere]

theorem onTransfer_of_unregistered {event : TransferEvent}
    (h : transferHandlerOf event.chainId event.srcAddress = none) (ledger : Ledger) :
    onTransfer event ledger = ledger := by
  rw [onTransfer, h]

/-- The stored balances follow the Transfers of the registered tokens. -/
theorem balance_onTransfer (event : TransferEvent) (ledger : Ledger) (c : ChainId)
    (t w : String) :
    (onTransfer event ledger).balance c t w = ledger.balance c t w +
      if c = event.chainId ∧ t = event.srcAddress ∧ w ∈ treasuryWalletsForChain event.chainId ∧
          (transferHandlerOf event.chainId event.srcAddress).isSome
      then event.transfer.change w else 0 := by
  cases hhandler : transferHandlerOf event.chainId event.srcAddress with
  | none => rw [onTransfer_of_unregistered hhandler]; simp
  | some handler => rw [onTransfer_of_handler hhandler, balance_handle]; simp

/-- The supply of a token after one Transfer of it, as the supply handlers compute it. -/
def supplyAfter (event : TransferEvent) (supply : ℤ) : ℤ :=
  let minted := if event.sender = zeroAddress then max 0 (supply + event.value) else supply
  if event.recipient = zeroAddress then max 0 (minted - event.value) else minted

/-- The stored supplies follow the mints and burns of the OHM and LP tokens. -/
theorem totalSupply_onTransfer (event : TransferEvent) (ledger : Ledger) (c : ChainId)
    (t : String) :
    (onTransfer event ledger).totalSupply c t =
      if c = event.chainId ∧ t = event.srcAddress ∧
          (transferHandlerOf event.chainId event.srcAddress = some .ohm ∨
            transferHandlerOf event.chainId event.srcAddress = some .lp)
      then supplyAfter event (ledger.totalSupply c t) else ledger.totalSupply c t := by
  have hwallet (wallet : String) (delta : ℤ) (l : Ledger) :
      (if (treasuryWalletsForChain event.chainId).contains wallet then
        applyTransferToWalletBalance event.chainId event.srcAddress wallet delta event.info l
        else l).totalSupply c t = l.totalSupply c t := by
    split <;> rfl
  have hlp : (handleLpTransfer event ledger).totalSupply c t =
      if c = event.chainId ∧ t = event.srcAddress then supplyAfter event (ledger.totalSupply c t)
      else ledger.totalSupply c t := by
    rw [handleLpTransfer, supplyAfter]
    by_cases hs : event.sender = zeroAddress
    · by_cases hr : event.recipient = zeroAddress
      · simp only [if_pos hs, if_pos hr, totalSupply_applyMintBurnToSupply]
        grind
      · simp only [if_pos hs, if_neg hr, hwallet, totalSupply_applyMintBurnToSupply]
    · by_cases hr : event.recipient = zeroAddress
      · simp only [if_neg hs, if_pos hr, hwallet, totalSupply_applyMintBurnToSupply]
        grind
      · simp only [if_neg hs, if_neg hr, hwallet, ite_self]
  have hohm : (handleOhmTransfer event ledger).totalSupply c t =
      (handleLpTransfer event ledger).totalSupply c t := by
    rw [handleOhmTransfer, handleLpTransfer]
    by_cases hs : event.sender = zeroAddress
    · by_cases hr : event.recipient = zeroAddress
      · simp only [if_pos hs, if_pos hr, totalSupply_applyDeployedOhmDelta,
          totalSupply_applyMintBurnToSupply]
      · simp only [if_pos hs, if_neg hr, hwallet, totalSupply_applyDeployedOhmDelta]
    · by_cases hr : event.recipient = zeroAddress
      · simp only [if_neg hs, if_pos hr, totalSupply_applyDeployedOhmDelta,
          totalSupply_applyMintBurnToSupply]
      · simp only [if_neg hs, if_neg hr]
  cases hhandler : transferHandlerOf event.chainId event.srcAddress with
  | none => rw [onTransfer_of_unregistered hhandler]; simp
  | some handler =>
      rw [onTransfer_of_handler hhandler]
      cases handler with
      | treasury =>
          have htreasury : (handleTreasuryTransfer event ledger).totalSupply c t =
              ledger.totalSupply c t := by
            rw [handleTreasuryTransfer, hwallet, hwallet]
          simpa [TransferHandler.handle] using htreasury
      | ohm => simpa [TransferHandler.handle] using hohm.trans hlp
      | lp => simpa [TransferHandler.handle] using hlp

theorem backfillSentinel_onTransfer (event : TransferEvent) (ledger : Ledger) :
    (onTransfer event ledger).backfillSentinel = ledger.backfillSentinel := by
  have hwallet (wallet : String) (delta : ℤ) (l : Ledger) :
      (if (treasuryWalletsForChain event.chainId).contains wallet then
        applyTransferToWalletBalance event.chainId event.srcAddress wallet delta event.info l
        else l).backfillSentinel = l.backfillSentinel := by
    split <;> rfl
  have hamo (amo : String) (delta : ℤ) (block : ℕ) (l : Ledger) :
      (applyDeployedOhmDelta event.chainId amo delta block l).backfillSentinel =
        l.backfillSentinel := by
    unfold applyDeployedOhmDelta
    split <;> rfl
  have hmint (delta : ℤ) (l : Ledger) :
      (applyMintBurnToSupply event.chainId event.srcAddress delta event.info l).backfillSentinel =
        l.backfillSentinel := rfl
  cases hhandler : transferHandlerOf event.chainId event.srcAddress with
  | none => rw [onTransfer_of_unregistered hhandler]
  | some handler =>
      rw [onTransfer_of_handler hhandler]
      cases handler with
      | treasury =>
          rw [TransferHandler.handle, handleTreasuryTransfer, hwallet, hwallet]
      | ohm =>
          rw [TransferHandler.handle, handleOhmTransfer]
          by_cases hs : event.sender = zeroAddress <;>
            by_cases hr : event.recipient = zeroAddress <;>
              simp only [hs, hr, if_true, if_false, hwallet, hamo, hmint]
      | lp =>
          rw [TransferHandler.handle, handleLpTransfer]
          by_cases hs : event.sender = zeroAddress <;>
            by_cases hr : event.recipient = zeroAddress <;>
              simp only [hs, hr, if_true, if_false, hwallet, hmint]

/-! ### Runs -/

/-- What the holders of each token have. -/
abbrev ChainHoldings := String → Erc20.Holdings String

inductive LedgerEvent
  | transfer (event : TransferEvent)
  | block (number : ℕ)

/-- The ledger of a chain and the holdings it is meant to follow. -/
structure LedgerState where
  ledger : Ledger
  holdings : ChainHoldings

/-- The `balanceOf` reads of the backfill return what was held before the start block. -/
def BackfillEffects.ReadsBefore (effects : BackfillEffects) (c : ChainId)
    (before : ChainHoldings) : Prop :=
  ∀ token wallet, effects.readErc20BalanceOf token wallet
    (backfillReadAtBlock (backfillStartBlock c)) = before token wallet

/-- The Transfers of a chain and the invocations of the backfill among them, from an empty ledger
and the holdings just before the start block. -/
inductive LedgerRun (effects : BackfillEffects) (c : ChainId) (before : ChainHoldings) :
    List LedgerEvent → LedgerState → Prop
  | nil : LedgerRun effects c before [] ⟨Ledger.empty, before⟩
  | transfer {es s} (event : TransferEvent) (after : Erc20.Holdings String) :
      LedgerRun effects c before es s → event.chainId = c →
      Erc20.Moves zeroAddress event.transfer (s.holdings event.srcAddress) after →
      LedgerRun effects c before (es ++ [.transfer event])
        ⟨onTransfer event s.ledger, Function.update s.holdings event.srcAddress after⟩
  | block {es s} (number : ℕ) (ledger : Ledger) :
      LedgerRun effects c before es s →
      onBackfillBlock effects c number s.ledger = .ok ledger →
      LedgerRun effects c before (es ++ [.block number]) ⟨ledger, s.holdings⟩

/-- The backfill has run. -/
def LedgerState.backfilled (s : LedgerState) (c : ChainId) : Bool :=
  (s.ledger.backfillSentinel.get c).isSome

/-- What the backfill has put into the ledger. -/
def LedgerState.seed (s : LedgerState) (c : ChainId) (before : ChainHoldings)
    (token wallet : String) : ℕ :=
  if s.backfilled c ∧ token ∈ seededTokens c then before token wallet else 0

theorem seed_of_backfilled {s : LedgerState} {c : ChainId} (h : s.backfilled c = true)
    (before : ChainHoldings) (token wallet : String) :
    s.seed c before token wallet = if token ∈ seededTokens c then before token wallet else 0 := by
  simp [LedgerState.seed, h]

theorem seed_of_not_backfilled {s : LedgerState} {c : ChainId} (h : s.backfilled c = false)
    (before : ChainHoldings) (token wallet : String) : s.seed c before token wallet = 0 := by
  simp [LedgerState.seed, h]

theorem seed_congr {s s' : LedgerState} {c : ChainId} (h : s.backfilled c = s'.backfilled c)
    (before : ChainHoldings) (token wallet : String) :
    s.seed c before token wallet = s'.seed c before token wallet := by
  cases hs : s'.backfilled c with
  | false => rw [seed_of_not_backfilled (h.trans hs), seed_of_not_backfilled hs]
  | true => rw [seed_of_backfilled (h.trans hs), seed_of_backfilled hs]

theorem holdings_transfer {event : TransferEvent} {holdings : ChainHoldings}
    {after : Erc20.Holdings String}
    (hmoves : Erc20.Moves zeroAddress event.transfer (holdings event.srcAddress) after)
    (t : String) {w : String} (hw : w ≠ zeroAddress) :
    ((Function.update holdings event.srcAddress after t w : ℕ) : ℤ) = holdings t w +
      if t = event.srcAddress then event.transfer.change w else 0 := by
  by_cases ht : t = event.srcAddress
  · rw [if_pos ht, ht, Function.update_self]
    exact hmoves.apply hw
  · rw [if_neg ht, Function.update_of_ne ht, add_zero]

/-- In every run a stored balance is the wallet's seed plus, for a registered token, the change of
its holding since the start. -/
theorem balance_of_run {effects : BackfillEffects} {c : ChainId} {before : ChainHoldings}
    (hreads : effects.ReadsBefore c before) {es : List LedgerEvent} {s : LedgerState}
    (run : LedgerRun effects c before es s) (t : String) {w : String}
    (hw : w ∈ treasuryWalletsForChain c) :
    s.ledger.balance c t w = s.seed c before t w +
      if (transferHandlerOf c t).isSome then (s.holdings t w : ℤ) - before t w else 0 := by
  have hzero : w ≠ zeroAddress :=
    fun h => zeroAddress_not_mem_treasuryWallets c (h ▸ hw)
  induction run with
  | nil =>
      rw [seed_of_not_backfilled rfl, balance_empty]
      simp
  | @transfer es s event after _ hchain hmoves ih =>
      subst hchain
      have hseed : LedgerState.seed ⟨onTransfer event s.ledger,
          Function.update s.holdings event.srcAddress after⟩ event.chainId before t w =
          s.seed event.chainId before t w := by
        apply seed_congr
        rw [LedgerState.backfilled, backfillSentinel_onTransfer, LedgerState.backfilled]
      rw [balance_onTransfer, ih, holdings_transfer hmoves t hzero, hseed]
      grind
  | @block es s number ledger _ hblock ih =>
      have hdone : LedgerState.backfilled ⟨ledger, s.holdings⟩ c = true :=
        isSome_backfillSentinel hblock
      rw [balance_onBackfillBlock hblock, ih, hreads, seed_of_backfilled hdone]
      cases hbefore : s.backfilled c with
      | false =>
          have hnone : (s.ledger.backfillSentinel.get c).isNone = true := by
            simpa [LedgerState.backfilled] using hbefore
          rw [seed_of_not_backfilled hbefore]
          by_cases hseeded : t ∈ seededTokens c
          · simp only [hnone, hw, hseeded, and_self, if_true]
            omega
          · simp [hseeded]
      | true =>
          have hsome : (s.ledger.backfillSentinel.get c).isNone = false := by
            rw [← Option.not_isSome]
            exact congrArg (!·) hbefore
          rw [seed_of_backfilled hbefore]
          simp [hsome]

end OlympusMetrics
