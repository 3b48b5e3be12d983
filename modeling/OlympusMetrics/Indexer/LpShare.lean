import OlympusMetrics.Indexer.LedgerRun
import Mathlib.Data.Rat.Cast.Order
import Mathlib.Tactic.Positivity
import Mathlib.Tactic.Linarith

/-!
The treasury's share of an LP token, whose balances and supply are kept apart.
-/

namespace OlympusMetrics

/-- What the treasury wallets of the chain are stored to hold of a token. -/
def treasuryBalance (c : ChainId) (token : String) (ledger : Ledger) : ℤ :=
  ((treasuryWalletsForChain c).map (fun wallet => ledger.balance c token wallet)).sum

/-- The stored share of a wallet; a stored supply of zero gives the share zero. -/
def lpShare (c : ChainId) (token wallet : String) (ledger : Ledger) : ℚ :=
  (ledger.balance c token wallet : ℚ) / ledger.totalSupply c token

/-- The treasury is stored to hold at most the supply, and each share lies between 0 and 1. -/
structure LpShareBounded (c : ChainId) (token : String) (ledger : Ledger) : Prop where
  treasury_le : treasuryBalance c token ledger ≤ ledger.totalSupply c token
  share_mem : ∀ wallet ∈ treasuryWalletsForChain c,
    0 ≤ lpShare c token wallet ledger ∧ lpShare c token wallet ledger ≤ 1

/-- All that the addresses other than the zero address hold. -/
noncomputable def circulating : Erc20.Holdings String →+ ℕ :=
  Erc20.heldBy (fun a => a ≠ zeroAddress)

/-- A Transfer keeps the stored supply at or above what is held. -/
theorem circulating_le_supplyAfter {event : TransferEvent} {b b' : Erc20.Holdings String}
    (hmoves : Erc20.Moves zeroAddress event.transfer b b') {supply : ℤ}
    (h : (circulating b : ℤ) ≤ supply) : (circulating b' : ℤ) ≤ supplyAfter event supply := by
  have hheld := hmoves.heldBy (fun a => a ≠ zeroAddress)
  simp only [TransferEvent.transfer, and_self] at hheld
  change circulating b' + _ = circulating b + _ at hheld
  rw [supplyAfter]
  by_cases hs : event.sender = zeroAddress
  · by_cases hr : event.recipient = zeroAddress
    · simp only [hs, hr, ne_eq, not_true_eq_false, if_false, if_true] at hheld ⊢
      omega
    · simp only [hs, hr, ne_eq, not_true_eq_false, not_false_eq_true, if_false, if_true]
        at hheld ⊢
      omega
  · by_cases hr : event.recipient = zeroAddress
    · simp only [hs, hr, ne_eq, not_true_eq_false, not_false_eq_true, if_false, if_true]
        at hheld ⊢
      omega
    · simp only [hs, hr, ne_eq, not_false_eq_true, if_false, if_true] at hheld ⊢
      omega

/-- When nothing was held before the start, the stored supply covers all that is held. -/
theorem circulating_le_totalSupply {effects : BackfillEffects} {c : ChainId}
    {before : ChainHoldings} {t : String} (ht : transferHandlerOf c t = some .lp)
    (hbefore : circulating (before t) = 0) {es : List LedgerEvent} {s : LedgerState}
    (run : LedgerRun effects c before es s) :
    (circulating (s.holdings t) : ℤ) ≤ s.ledger.totalSupply c t := by
  induction run with
  | nil =>
      rw [hbefore]
      exact le_refl _
  | @transfer es s event after _ hchain hmoves ih =>
      subst hchain
      rw [totalSupply_onTransfer]
      dsimp only
      by_cases heq : t = event.srcAddress
      · subst heq
        rw [Function.update_self, if_pos ⟨rfl, rfl, Or.inr ht⟩]
        exact circulating_le_supplyAfter hmoves ih
      · rw [Function.update_of_ne heq, if_neg (fun h => heq h.2.1)]
        exact ih
  | block number ledger _ hblock ih =>
      rw [totalSupply_onBackfillBlock hblock]
      exact ih

theorem lpShareBounded_of_run {effects : BackfillEffects} {c : ChainId} {before : ChainHoldings}
    (hreads : effects.ReadsBefore c before) {t : String} (ht : transferHandlerOf c t = some .lp)
    (hbefore : ∀ a, a ≠ zeroAddress → before t a = 0) {es : List LedgerEvent} {s : LedgerState}
    (run : LedgerRun effects c before es s) : LpShareBounded c t s.ledger := by
  have hzero : ∀ w ∈ treasuryWalletsForChain c, w ≠ zeroAddress :=
    fun w hw h => zeroAddress_not_mem_treasuryWallets c (h ▸ hw)
  have hbalance : ∀ w ∈ treasuryWalletsForChain c, s.ledger.balance c t w = s.holdings t w := by
    intro w hw
    rw [balance_of_run hreads run t hw, ht, LedgerState.seed, hbefore w (hzero w hw)]
    simp
  have hcirculating : circulating (before t) = 0 :=
    (Erc20.heldBy_eq_zero_iff _ _).mpr hbefore
  have hsupply := circulating_le_totalSupply ht hcirculating run
  have htreasury : treasuryBalance c t s.ledger ≤ s.ledger.totalSupply c t := by
    have hsum : treasuryBalance c t s.ledger =
        (((treasuryWalletsForChain c).map (s.holdings t)).sum : ℕ) := by
      rw [treasuryBalance, List.map_congr_left hbalance]
      simp [List.map_map, Function.comp_def]
    have hle := Erc20.sum_map_le_heldBy _ (s.holdings t) (nodup_protocolAddresses c) hzero
    rw [hsum]
    exact le_trans (Int.ofNat_le.mpr hle) hsupply
  refine ⟨htreasury, ?_⟩
  intro w hw
  have hnonneg : 0 ≤ s.ledger.balance c t w := by
    rw [hbalance w hw]
    exact Int.natCast_nonneg _
  have hle : s.ledger.balance c t w ≤ s.ledger.totalSupply c t := by
    refine le_trans ?_ htreasury
    rw [treasuryBalance]
    apply List.single_le_sum
    · intro x hx
      obtain ⟨w', hw', rfl⟩ := List.mem_map.mp hx
      rw [hbalance w' hw']
      exact Int.natCast_nonneg _
    · exact List.mem_map.mpr ⟨w, hw, rfl⟩
  have hsupplyNonneg : (0 : ℚ) ≤ s.ledger.totalSupply c t := by
    exact_mod_cast le_trans hnonneg hle
  constructor
  · exact div_nonneg (by exact_mod_cast hnonneg) hsupplyNonneg
  · exact div_le_one_of_le₀ (by exact_mod_cast hle) hsupplyNonneg

/-! ### Pre-minted tokens -/

/-- A Transfer of a token on its chain, at some position. -/
def transferOf (c : ChainId) (token sender recipient : String) (value logIndex : ℕ) :
    TransferEvent :=
  ⟨c, token, ⟨backfillStartBlock c, 0, logIndex⟩, sender, recipient, value⟩

/-- An address that is neither a treasury wallet nor the zero address. -/
def outsider : String := "0x000000000000000000000000000000000000dead"

theorem outsider_not_mem (c : ChainId) : outsider ∉ treasuryWalletsForChain c := by
  cases c <;> decide

/-- Pre-minted tokens that reach a treasury wallet from outside are not in the stored supply. -/
theorem not_bounded_of_outside_holding {effects : BackfillEffects} {c : ChainId}
    {before : ChainHoldings} {t : String} (ht : transferHandlerOf c t = some .lp) {a : String}
    (ha : a ≠ zeroAddress) (houtside : a ∉ treasuryWalletsForChain c) (hheld : before t a ≠ 0) :
    ∃ es s, LedgerRun effects c before es s ∧ ¬LpShareBounded c t s.ledger := by
  obtain ⟨w, hw⟩ := List.exists_mem_of_ne_nil _ (treasuryWallets_ne_nil c)
  have hwzero : w ≠ zeroAddress := fun h => zeroAddress_not_mem_treasuryWallets c (h ▸ hw)
  let event := transferOf c t a w (before t a) 0
  have hmoves : Erc20.Moves zeroAddress event.transfer (before event.srcAddress) _ :=
    Erc20.moves_all ha hwzero
  refine ⟨_, _, LedgerRun.nil.transfer event _ rfl hmoves, ?_⟩
  intro hbounded
  have hsupply : (onTransfer event Ledger.empty).totalSupply c t = 0 := by
    rw [totalSupply_onTransfer, supplyAfter, totalSupply_empty]
    simp [event, transferOf, ha, hwzero]
  have hbalance : ∀ w' ∈ treasuryWalletsForChain c,
      (onTransfer event Ledger.empty).balance c t w' = if w' = w then (before t a : ℤ) else 0 := by
    intro w' hw'
    have hne : a ≠ w' := fun h => houtside (h ▸ hw')
    rw [balance_onTransfer, balance_empty, Erc20.Transfer.change]
    simp [event, transferOf, TransferEvent.transfer, ht, hw', hne, eq_comm]
  have hpositive : 0 < treasuryBalance c t (onTransfer event Ledger.empty) := by
    rw [treasuryBalance, List.map_congr_left hbalance]
    have hle : (before t a : ℤ) ≤
        ((treasuryWalletsForChain c).map (fun w' => if w' = w then (before t a : ℤ) else 0)).sum := by
      apply List.single_le_sum
      · intro x hx
        obtain ⟨w', -, rfl⟩ := List.mem_map.mp hx
        split <;> omega
      · exact List.mem_map.mpr ⟨w, hw, if_pos rfl⟩
    omega
  have hle : treasuryBalance c t (onTransfer event Ledger.empty) ≤
      (onTransfer event Ledger.empty).totalSupply c t := hbounded.treasury_le
  omega

/-- Pre-minted tokens that leave a treasury wallet before they are seeded make its share
negative. -/
theorem not_bounded_of_treasury_holding {effects : BackfillEffects} {c : ChainId}
    {before : ChainHoldings} {t : String} (ht : transferHandlerOf c t = some .lp) {a : String}
    (ha : a ∈ treasuryWalletsForChain c) (hheld : before t a ≠ 0) :
    ∃ es s, LedgerRun effects c before es s ∧ ¬LpShareBounded c t s.ledger := by
  have hazero : a ≠ zeroAddress := fun h => zeroAddress_not_mem_treasuryWallets c (h ▸ ha)
  have hozero : outsider ≠ zeroAddress := by decide
  have hne : outsider ≠ a := fun h => outsider_not_mem c (h ▸ ha)
  let mint := transferOf c t zeroAddress outsider 1 0
  let minted := before t + Finsupp.single outsider 1
  let send := transferOf c t a outsider (minted a) 1
  have hmint : Erc20.Moves zeroAddress mint.transfer (before mint.srcAddress) minted :=
    Erc20.moves_mint (before t) hozero 1
  have hsend : Erc20.Moves zeroAddress send.transfer
      (Function.update before mint.srcAddress minted send.srcAddress)
      (minted.erase a + Finsupp.single outsider (minted a)) := by
    have hupdate : Function.update before mint.srcAddress minted send.srcAddress = minted :=
      Function.update_self _ _ _
    rw [hupdate]
    exact Erc20.moves_all hazero hozero
  refine ⟨_, _, (LedgerRun.nil.transfer mint _ rfl hmint).transfer send _ rfl hsend, ?_⟩
  intro hbounded
  have hminted : minted a = before t a := by
    simp [minted, hne]
  have hsupply : (onTransfer send (onTransfer mint Ledger.empty)).totalSupply c t = 1 := by
    rw [totalSupply_onTransfer, totalSupply_onTransfer, supplyAfter, supplyAfter,
      totalSupply_empty]
    simp [mint, send, transferOf, ht, hazero, hozero]
  have hbalance : (onTransfer send (onTransfer mint Ledger.empty)).balance c t a =
      -(before t a : ℤ) := by
    rw [balance_onTransfer, balance_onTransfer, balance_empty, Erc20.Transfer.change,
      Erc20.Transfer.change]
    simp [mint, send, transferOf, TransferEvent.transfer, ht, ha, hne, hazero.symm, hminted]
  have hshare : 0 ≤ lpShare c t a (onTransfer send (onTransfer mint Ledger.empty)) :=
    (hbounded.share_mem a ha).1
  rw [lpShare, hsupply, hbalance] at hshare
  have hpos : (0 : ℚ) < before t a := by exact_mod_cast Nat.pos_of_ne_zero hheld
  push_cast at hshare
  linarith

/-- Every reachable ledger bounds the shares of an LP token exactly when no tokens of it were
held before the chain's first indexed block. -/
theorem lpShareBounded_iff {effects : BackfillEffects} {c : ChainId} {before : ChainHoldings}
    (hreads : effects.ReadsBefore c before) {t : String} (ht : transferHandlerOf c t = some .lp) :
    (∀ es s, LedgerRun effects c before es s → LpShareBounded c t s.ledger) ↔
      ∀ a, a ≠ zeroAddress → before t a = 0 := by
  constructor
  · intro h a ha
    by_contra hheld
    by_cases hwallet : a ∈ treasuryWalletsForChain c
    · obtain ⟨es, s, run, hnot⟩ := not_bounded_of_treasury_holding ht hwallet hheld
      exact hnot (h es s run)
    · obtain ⟨es, s, run, hnot⟩ := not_bounded_of_outside_holding ht ha hwallet hheld
      exact hnot (h es s run)
  · intro hbefore es s run
    exact lpShareBounded_of_run hreads ht hbefore run

/-! ### A pool older than the index -/

open Chains.Arbitrum (crossChainArbitrum lpUniswapV2JonesWeth)

/-- Of 100 pool tokens minted before block 10950000 the treasury has 40. -/
noncomputable def jonesPoolBefore : ChainHoldings :=
  fun token =>
    if token = lpUniswapV2JonesWeth then
      Finsupp.single crossChainArbitrum (40 * 10 ^ 18) + Finsupp.single outsider (60 * 10 ^ 18)
    else 0

noncomputable def jonesPoolEffects : BackfillEffects where
  readErc20BalanceOf token wallet _ := jonesPoolBefore token wallet
  readBlockTimestamp _ := 1651363200

theorem jonesPoolEffects_readsBefore : jonesPoolEffects.ReadsBefore .arbitrum jonesPoolBefore :=
  fun _ _ => rfl

/-- The first mint after the start. -/
def jonesPoolMint : TransferEvent where
  chainId := .arbitrum
  srcAddress := lpUniswapV2JonesWeth
  info := ⟨10950010, 1651363300, 3⟩
  sender := zeroAddress
  recipient := outsider
  value := 10 ^ 18

theorem exists_jonesPoolRun : ∃ s, LedgerRun jonesPoolEffects .arbitrum jonesPoolBefore
    [.block 10950000, .transfer jonesPoolMint] s ∧
      treasuryBalance .arbitrum lpUniswapV2JonesWeth s.ledger = 40 * 10 ^ 18 ∧
      s.ledger.totalSupply .arbitrum lpUniswapV2JonesWeth = 10 ^ 18 := by
  obtain ⟨ledger, hledger⟩ := onBackfillBlock_isOk jonesPoolEffects
    (show backfillStartBlock .arbitrum ≤ 10950000 by decide) Ledger.empty
  have hblock : LedgerRun jonesPoolEffects .arbitrum jonesPoolBefore [.block 10950000]
      ⟨ledger, jonesPoolBefore⟩ := LedgerRun.nil.block 10950000 ledger hledger
  have hmoves : Erc20.Moves zeroAddress jonesPoolMint.transfer
      (jonesPoolBefore jonesPoolMint.srcAddress) _ :=
    Erc20.moves_mint _ (show outsider ≠ zeroAddress by decide) _
  have hwallets : treasuryWalletsForChain .arbitrum = [crossChainArbitrum] := rfl
  have hseeded : lpUniswapV2JonesWeth ∈ seededTokens .arbitrum := by decide
  have hhandler : transferHandlerOf .arbitrum lpUniswapV2JonesWeth = some .lp := by decide
  have hne : outsider ≠ crossChainArbitrum := by decide
  refine ⟨_, hblock.transfer jonesPoolMint _ rfl hmoves, ?_, ?_⟩
  · rw [treasuryBalance, hwallets, List.map_singleton, List.sum_singleton, balance_onTransfer,
      balance_onBackfillBlock hledger, balance_empty]
    have hread : jonesPoolBefore lpUniswapV2JonesWeth crossChainArbitrum = 40 * 10 ^ 18 := by
      simp [jonesPoolBefore, hne]
    have hchange : jonesPoolMint.transfer.change crossChainArbitrum = 0 := by decide
    rw [hchange]
    simp [hwallets, hseeded, Ledger.empty, jonesPoolEffects, hread]
  · rw [totalSupply_onTransfer, totalSupply_onBackfillBlock hledger, totalSupply_empty]
    have hsupply : supplyAfter jonesPoolMint 0 = 10 ^ 18 := by decide
    simp [jonesPoolMint, hhandler] at hsupply ⊢
    exact hsupply

/-- The seeded treasury balance is forty times the stored supply. -/
theorem jonesPool_share_forty : ∃ s, LedgerRun jonesPoolEffects .arbitrum jonesPoolBefore
    [.block 10950000, .transfer jonesPoolMint] s ∧
      treasuryBalance .arbitrum lpUniswapV2JonesWeth s.ledger =
        40 * s.ledger.totalSupply .arbitrum lpUniswapV2JonesWeth ∧
      0 < s.ledger.totalSupply .arbitrum lpUniswapV2JonesWeth := by
  obtain ⟨s, run, hbalance, hsupply⟩ := exists_jonesPoolRun
  refine ⟨s, run, ?_, ?_⟩
  · rw [hbalance, hsupply]
  · rw [hsupply]
    decide

theorem lpShareBounded_iff_jonesPool :
    (∀ es s, LedgerRun jonesPoolEffects .arbitrum jonesPoolBefore es s →
      LpShareBounded .arbitrum lpUniswapV2JonesWeth s.ledger) ↔
      ∀ a, a ≠ zeroAddress → jonesPoolBefore lpUniswapV2JonesWeth a = 0 :=
  lpShareBounded_iff jonesPoolEffects_readsBefore (by decide)

end OlympusMetrics
