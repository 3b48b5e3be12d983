import OlympusMetrics.Indexer.LpShare
import OlympusMetrics.Indexer.SnapshotReads

/-!
Which of the ledger rows that a snapshot reads the Transfer handlers maintain.
-/

namespace OlympusMetrics

open Pricing

/-- What a producer reads of a row, zero when no row is stored. -/
def Ledger.read (ledger : Ledger) (c : ChainId) : LedgerKey → ℤ
  | .tokenBalance token wallet => ledger.balance c token wallet
  | .erc20Supply token => ledger.totalSupply c token

/-- What the row is meant to be: the holding of a wallet, or all that is held of a token. -/
noncomputable def ChainHoldings.value (holdings : ChainHoldings) : LedgerKey → ℕ
  | .tokenBalance token wallet => holdings token wallet
  | .erc20Supply token => circulating (holdings token)

/-- No token is held before the start of the history. -/
noncomputable def nothingHeld : ChainHoldings := fun _ => 0

/-- Every row that a snapshot of the chain at the block reads has its true value. -/
def ReadsExact (c : ChainId) (blockNumber : ℕ) (s : LedgerState) : Prop :=
  ∀ key ∈ snapshotReads (chainConfigs c) blockNumber, s.ledger.read c key = s.holdings.value key

/-- The rows that the handlers of the registered contracts write. -/
def Maintained (c : ChainId) : LedgerKey → Prop
  | .tokenBalance token wallet =>
      (transferHandlerOf c token).isSome ∧ wallet ∈ treasuryWalletsForChain c
  | .erc20Supply token =>
      transferHandlerOf c token = some .ohm ∨ transferHandlerOf c token = some .lp

open Chains.Ethereum in
/-- The rows that are read and not maintained: the staked OHM of Ethereum, the bond manager's OHM,
and the supplies of the bridged gOHM. -/
inductive UnmaintainedRead : ChainId → ℕ → LedgerKey → Prop
  | sohmV3 {blockNumber : ℕ} {wallet : String} : erc20GohmTreasuryStartBlock ≤ blockNumber →
      wallet ∈ treasuryWalletsForChain .ethereum →
      UnmaintainedRead .ethereum blockNumber (.tokenBalance erc20SohmV3 wallet)
  | sohmV2 {blockNumber : ℕ} {wallet : String} : erc20SohmV2TreasuryStartBlock ≤ blockNumber →
      wallet ∈ treasuryWalletsForChain .ethereum →
      UnmaintainedRead .ethereum blockNumber (.tokenBalance erc20SohmV2 wallet)
  | bondManager {blockNumber : ℕ} : 16226955 ≤ blockNumber →
      UnmaintainedRead .ethereum blockNumber
        (.tokenBalance erc20OhmV2 "0xf577c77ee3578c7f216327f41b5d7221ead2b2a3")
  | polygonGohm {blockNumber : ℕ} : 23000000 ≤ blockNumber →
      UnmaintainedRead .polygon blockNumber (.erc20Supply Chains.Polygon.erc20Gohm)
  | fantomGohm {blockNumber : ℕ} : 37320000 ≤ blockNumber →
      UnmaintainedRead .fantom blockNumber (.erc20Supply (chainConfigs .fantom).ohmToken)

/-- The chain has nothing of what is read and not maintained. -/
def NothingUnmaintained (c : ChainId) (blockNumber : ℕ) (holdings : ChainHoldings) : Prop :=
  ∀ key, UnmaintainedRead c blockNumber key → holdings.value key = 0

/-! ### What the handlers maintain -/

section run

variable {effects : BackfillEffects} {c : ChainId} {es : List LedgerEvent} {s : LedgerState}

/-- The balance of an address that is no treasury wallet is never written. -/
theorem balance_of_outside {before : ChainHoldings} (run : LedgerRun effects c before es s)
    (token : String) {wallet : String} (hwallet : wallet ∉ treasuryWalletsForChain c) :
    s.ledger.balance c token wallet = 0 := by
  induction run with
  | nil => exact balance_empty ..
  | transfer event _ _ hchain _ ih =>
      subst hchain
      rw [balance_onTransfer, ih]
      simp [hwallet]
  | block _ _ _ hblock ih =>
      rw [balance_onBackfillBlock hblock, ih]
      simp [hwallet]

/-- A Transfer of what is held changes the exact supply to the exact supply. -/
theorem supplyAfter_circulating {event : TransferEvent} {b b' : Erc20.Holdings String}
    (hmoves : Erc20.Moves zeroAddress event.transfer b b') :
    supplyAfter event (circulating b) = circulating b' := by
  have hheld := hmoves.heldBy (fun a => a ≠ zeroAddress)
  simp only [TransferEvent.transfer, and_self] at hheld
  change circulating b' + _ = circulating b + _ at hheld
  rw [supplyAfter]
  by_cases hs : event.sender = zeroAddress
  · by_cases hr : event.recipient = zeroAddress
    · simp only [hs, hr, ne_eq, not_true_eq_false, if_false, if_true] at hheld ⊢
      omega
    · simp only [hs, hr, ne_eq, not_true_eq_false, not_false_eq_true, if_false, if_true]
        at hheld ⊢
      omega
  · by_cases hr : event.recipient = zeroAddress
    · simp only [hs, hr, ne_eq, not_true_eq_false, not_false_eq_true, if_false, if_true]
        at hheld ⊢
      omega
    · simp only [hs, hr, ne_eq, not_false_eq_true, if_false, if_true] at hheld ⊢
      omega

/-- From nothing held, the stored supply of a token is all that is held of it, or stays zero. -/
theorem totalSupply_of_run (run : LedgerRun effects c nothingHeld es s) (token : String) :
    s.ledger.totalSupply c token =
      if transferHandlerOf c token = some .ohm ∨ transferHandlerOf c token = some .lp
      then (circulating (s.holdings token) : ℤ) else 0 := by
  induction run with
  | nil =>
      simp [totalSupply_empty, nothingHeld]
  | @transfer es s event after _ hchain hmoves ih =>
      subst hchain
      rw [totalSupply_onTransfer]
      dsimp only
      by_cases htoken : token = event.srcAddress
      · subst htoken
        rw [Function.update_self]
        by_cases hhandler : transferHandlerOf event.chainId event.srcAddress = some .ohm ∨
            transferHandlerOf event.chainId event.srcAddress = some .lp
        · rw [if_pos hhandler] at ih ⊢
          rw [if_pos ⟨rfl, rfl, hhandler⟩, ih]
          exact supplyAfter_circulating hmoves
        · rw [if_neg hhandler] at ih ⊢
          rw [if_neg (fun h => hhandler h.2.2), ih]
      · rw [Function.update_of_ne htoken, if_neg (fun h => htoken h.2.1)]
        exact ih
  | block number ledger _ hblock ih =>
      rw [totalSupply_onBackfillBlock hblock]
      exact ih

theorem seed_nothingHeld (s : LedgerState) (c : ChainId) (token wallet : String) :
    s.seed c nothingHeld token wallet = 0 := by
  unfold LedgerState.seed nothingHeld
  split <;> rfl

/-- In every run from nothing held, a maintained row has its true value. -/
theorem read_of_maintained (hreads : effects.ReadsBefore c nothingHeld)
    (run : LedgerRun effects c nothingHeld es s) {key : LedgerKey} (h : Maintained c key) :
    s.ledger.read c key = s.holdings.value key := by
  cases key with
  | erc20Supply token => exact (totalSupply_of_run run token).trans (if_pos h)
  | tokenBalance token wallet =>
      refine (balance_of_run hreads run token h.2).trans ?_
      rw [seed_nothingHeld, if_pos h.1]
      simp [nothingHeld, ChainHoldings.value]

/-- In every run from nothing held, a row that is not maintained is never written. -/
theorem read_of_not_maintained (hreads : effects.ReadsBefore c nothingHeld)
    (run : LedgerRun effects c nothingHeld es s) {key : LedgerKey} (h : ¬Maintained c key) :
    s.ledger.read c key = 0 := by
  cases key with
  | erc20Supply token => exact (totalSupply_of_run run token).trans (if_neg h)
  | tokenBalance token wallet =>
      by_cases hwallet : wallet ∈ treasuryWalletsForChain c
      · refine (balance_of_run hreads run token hwallet).trans ?_
        rw [seed_nothingHeld, if_neg (fun htoken => h ⟨htoken, hwallet⟩)]
        simp
      · exact balance_of_outside run token hwallet

end run

/-! ### What the producers read -/

theorem circulatingSupplyWallets_subset (c : ChainId) :
    (chainConfigs c).circulatingSupplyWallets ⊆ treasuryWalletsForChain c := by
  cases c <;> decide +kernel

theorem getWalletAddressesForContract_subset (c : ChainId) (contractAddress : String) :
    getWalletAddressesForContract (chainConfigs c) contractAddress ⊆ treasuryWalletsForChain c :=
  fun _ h => List.mem_of_mem_filter h

/-- Balances of a token that has a Transfer handler are maintained in treasury wallets. -/
theorem maintained_of_mem_balanceReads {c : ChainId} {token : String} {wallets : List String}
    (htoken : (transferHandlerOf c token).isSome) (hwallets : wallets ⊆ treasuryWalletsForChain c)
    {key : LedgerKey} (hkey : key ∈ balanceReads token wallets) : Maintained c key := by
  obtain ⟨wallet, hwallet, rfl⟩ := List.mem_map.mp hkey
  exact ⟨htoken, hwallets hwallet⟩

theorem reported_tokens_registered (c : ChainId) :
    ∀ definition ∈ (chainConfigs c).tokens,
      isReported definition = true → (chainConfigs c).nativeToken ≠ some definition.address →
      definition.nonStandardBalance = false →
      (transferHandlerOf c definition.address).isSome = true := by
  cases c <;> decide +kernel

theorem maintained_of_mem_tokenBalanceReads {c : ChainId} {blockNumber : ℕ} {key : LedgerKey}
    (h : key ∈ tokenBalanceReads (chainConfigs c) blockNumber) : Maintained c key := by
  obtain ⟨definition, hmem, hkey⟩ := List.mem_flatMap.mp h
  rw [readsOfToken] at hkey
  split at hkey
  · cases hkey
  · next hread =>
      simp only [reportsBalance, Bool.or_eq_true, Bool.not_eq_true', not_or] at hread
      obtain ⟨⟨hreports, hnative⟩, hstandard⟩ := hread
      refine maintained_of_mem_balanceReads ?_ (getWalletAddressesForContract_subset c _) hkey
      have hreports : isReported definition = true ∧
          isActive definition.startBlock blockNumber = true := by
        simpa [reportsBalance] using hreports
      refine reported_tokens_registered c definition hmem hreports.1 ?_ ?_
      · simpa using hnative
      · simpa using hstandard

theorem owned_pools_registered (c : ChainId) :
    ∀ handler ∈ (chainConfigs c).ownedLiquidityHandlers, ∀ lpToken ∈ getLpTokenForHandler handler,
      transferHandlerOf c lpToken = some .lp ∧
        transferHandlerOf c (poolToken handler) = some .lp := by
  cases c <;> decide +kernel

theorem maintained_of_mem_ownedLiquidityReads {c : ChainId} {blockNumber : ℕ} {key : LedgerKey}
    (h : key ∈ ownedLiquidityReads (chainConfigs c) blockNumber) : Maintained c key := by
  obtain ⟨handler, hmem, hkey⟩ := List.mem_flatMap.mp h
  rw [readsOfHandler] at hkey
  split at hkey
  · cases hkey
  · next lpToken hlp =>
      obtain ⟨htoken, hpool⟩ := owned_pools_registered c handler hmem lpToken hlp
      split at hkey
      · cases hkey
      · rcases List.mem_cons.mp hkey with rfl | hkey
        · exact Or.inr hpool
        · split at hkey
          · cases hkey
          · refine maintained_of_mem_balanceReads ?_ (List.Subset.refl _) hkey
            rw [htoken]
            rfl

theorem maintained_of_mem_liquiditySupplyReads {c : ChainId} {blockNumber : ℕ} {key : LedgerKey}
    (h : key ∈ liquiditySupplyReads (chainConfigs c) blockNumber) : Maintained c key := by
  obtain ⟨handler, hmem, hkey⟩ := List.mem_flatMap.mp h
  rw [supplyReadsOfHandler] at hkey
  split at hkey
  · cases hkey
  · next lpToken hlp =>
      obtain ⟨htoken, hpool⟩ := owned_pools_registered c handler hmem lpToken hlp
      split at hkey
      · cases hkey
      · rcases List.mem_cons.mp hkey with rfl | hkey
        · exact Or.inr hpool
        · refine maintained_of_mem_balanceReads ?_ (circulatingSupplyWallets_subset c) hkey
          rw [htoken]
          rfl

theorem lending_markets_registered (c : ChainId) (hchain : (chainConfigs c).chainId = .arbitrum) :
    ∀ market ∈ lendingMarkets, (transferHandlerOf c market.1).isSome = true := by
  obtain rfl : c = .arbitrum := by cases c <;> first | rfl | cases hchain
  decide +kernel

theorem maintained_of_mem_lendingReads {c : ChainId} {blockNumber : ℕ} {key : LedgerKey}
    (h : key ∈ lendingReads (chainConfigs c) blockNumber) : Maintained c key := by
  rw [lendingReads] at h
  split at h
  · next hchain =>
      obtain ⟨market, hmem, hkey⟩ := List.mem_flatMap.mp h
      rw [readsOfMarket] at hkey
      split at hkey
      · cases hkey
      · exact maintained_of_mem_balanceReads (lending_markets_registered c hchain market hmem)
          (getWalletAddressesForContract_subset c _) hkey
  · cases h

open Chains.Ethereum in
/-- The tokens that stand for OHM are those of Ethereum, of which gOHM is registered. -/
theorem unmaintained_of_mem_readsOfEquivalent {c : ChainId} {blockNumber : ℕ}
    {entry : TreasuryOhmEquivalent} (hentry : entry ∈ (chainConfigs c).treasuryOhmEquivalents)
    {key : LedgerKey} (hkey : key ∈ readsOfEquivalent (chainConfigs c) blockNumber entry) :
    Maintained c key ∨ UnmaintainedRead c blockNumber key := by
  rw [readsOfEquivalent] at hkey
  split at hkey
  · cases hkey
  · next hstart =>
      cases c with
      | ethereum =>
          have hwallets := circulatingSupplyWallets_subset .ethereum
          rcases List.mem_cons.mp hentry with rfl | hentry
          · exact Or.inl (maintained_of_mem_balanceReads (by decide +kernel) hwallets hkey)
          · obtain ⟨wallet, hwallet, rfl⟩ := List.mem_map.mp hkey
            rcases List.mem_pair.mp hentry with rfl | rfl
            · exact Or.inr (.sohmV3 (not_lt.mp hstart) (hwallets hwallet))
            · exact Or.inr (.sohmV2 (not_lt.mp hstart) (hwallets hwallet))
      | arbitrum | polygon | fantom | base | berachain => cases hentry

theorem ohm_registered (c : ChainId) :
    isNonStandard (chainConfigs c) (chainConfigs c).ohmToken = false →
      (transferHandlerOf c (chainConfigs c).ohmToken).isSome = true := by
  cases c <;> decide +kernel

theorem unmaintained_of_mem_treasuryOhmReads {c : ChainId} {blockNumber : ℕ} {key : LedgerKey}
    (h : key ∈ treasuryOhmReads (chainConfigs c) blockNumber) :
    Maintained c key ∨ UnmaintainedRead c blockNumber key := by
  rw [treasuryOhmReads] at h
  split at h
  · cases h
  · rcases List.mem_append.mp h with h | h
    · split at h
      · cases h
      · next hstandard =>
          refine Or.inl (maintained_of_mem_balanceReads (ohm_registered c ?_)
            (circulatingSupplyWallets_subset c) h)
          simpa using hstandard
    · obtain ⟨entry, hentry, hkey⟩ := List.mem_flatMap.mp h
      exact unmaintained_of_mem_readsOfEquivalent hentry hkey

theorem unmaintained_of_mem_totalSupplyReads {c : ChainId} {blockNumber : ℕ} {key : LedgerKey}
    (h : key ∈ totalSupplyReads (chainConfigs c) blockNumber) :
    Maintained c key ∨ UnmaintainedRead c blockNumber key := by
  rw [totalSupplyReads] at h
  split at h
  · cases h
  · next hstart =>
      obtain rfl := List.mem_singleton.mp h
      cases c with
      | polygon =>
          exact Or.inr (.polygonGohm (not_lt.mp (fun hlt => hstart (decide_eq_true hlt))))
      | fantom =>
          exact Or.inr (.fantomGohm (not_lt.mp (fun hlt => hstart (decide_eq_true hlt))))
      | ethereum | arbitrum | base | berachain => exact Or.inl (Or.inl (by decide +kernel))

theorem unmaintained_of_mem_bondReads {c : ChainId} {blockNumber : ℕ} {key : LedgerKey}
    (h : key ∈ bondReads (chainConfigs c) blockNumber) : UnmaintainedRead c blockNumber key := by
  cases c with
  | ethereum =>
      simp only [bondReads] at h
      split at h
      · next hmanager => cases hmanager
      · next hmanager =>
          obtain rfl := Option.some.inj hmanager
          split at h
          · cases h
          · next hstart =>
              obtain rfl := List.mem_singleton.mp h
              exact .bondManager (not_lt.mp hstart)
  | arbitrum | polygon | fantom | base | berachain => cases h

/-- Every row that a snapshot reads is maintained or one of the few that are not. -/
theorem unmaintained_of_mem_snapshotReads {c : ChainId} {blockNumber : ℕ} {key : LedgerKey}
    (h : key ∈ snapshotReads (chainConfigs c) blockNumber) :
    Maintained c key ∨ UnmaintainedRead c blockNumber key := by
  simp only [snapshotReads, List.mem_append] at h
  rcases h with (((((h | h) | h) | h) | h) | h) | h
  · exact Or.inl (maintained_of_mem_tokenBalanceReads h)
  · exact Or.inl (maintained_of_mem_ownedLiquidityReads h)
  · exact unmaintained_of_mem_totalSupplyReads h
  · exact unmaintained_of_mem_treasuryOhmReads h
  · exact Or.inl (maintained_of_mem_liquiditySupplyReads h)
  · exact Or.inl (maintained_of_mem_lendingReads h)
  · exact Or.inr (unmaintained_of_mem_bondReads h)

open Chains.Ethereum in
theorem mem_treasuryOhmReads_of_equivalent {blockNumber : ℕ} {entry : TreasuryOhmEquivalent}
    (hentry : entry ∈ (chainConfigs .ethereum).treasuryOhmEquivalents)
    (hstart : entry.startBlock ≤ blockNumber) (hlater : erc20OhmV2Block ≤ entry.startBlock)
    {wallet : String} (hwallet : wallet ∈ treasuryWalletsForChain .ethereum) :
    .tokenBalance entry.tokenAddress wallet ∈
      treasuryOhmReads (chainConfigs .ethereum) blockNumber := by
  have hohm : beforeOhmStart (chainConfigs .ethereum) blockNumber = false :=
    decide_eq_false (not_lt.mpr (hlater.trans hstart))
  rw [treasuryOhmReads, hohm]
  refine List.mem_append_right _ (List.mem_flatMap.mpr ⟨entry, hentry, ?_⟩)
  rw [readsOfEquivalent, if_neg (not_lt.mpr hstart)]
  exact List.mem_map_of_mem hwallet

/-- The rows that are not maintained are read. -/
theorem UnmaintainedRead.mem {c : ChainId} {blockNumber : ℕ} {key : LedgerKey}
    (h : UnmaintainedRead c blockNumber key) : key ∈ snapshotReads (chainConfigs c) blockNumber := by
  simp only [snapshotReads, List.mem_append]
  cases h with
  | sohmV3 hstart hwallet =>
      refine Or.inl (Or.inl (Or.inl (Or.inr ?_)))
      exact mem_treasuryOhmReads_of_equivalent (List.mem_cons_of_mem _ List.mem_cons_self) hstart
        (by decide) hwallet
  | sohmV2 hstart hwallet =>
      refine Or.inl (Or.inl (Or.inl (Or.inr ?_)))
      exact mem_treasuryOhmReads_of_equivalent
        (List.mem_cons_of_mem _ (List.mem_cons_of_mem _ List.mem_cons_self)) hstart (by decide)
        hwallet
  | bondManager hstart =>
      refine Or.inr ?_
      show _ ∈ if blockNumber < 16226955 then [] else _
      rw [if_neg (not_lt.mpr hstart)]
      exact List.mem_cons_self
  | polygonGohm hstart =>
      refine Or.inl (Or.inl (Or.inl (Or.inl (Or.inr ?_))))
      have hohm : beforeOhmStart (chainConfigs .polygon) blockNumber = false :=
        decide_eq_false (not_lt.mpr hstart)
      rw [totalSupplyReads, hohm]
      exact List.mem_cons_self
  | fantomGohm hstart =>
      refine Or.inl (Or.inl (Or.inl (Or.inl (Or.inr ?_))))
      have hohm : beforeOhmStart (chainConfigs .fantom) blockNumber = false :=
        decide_eq_false (not_lt.mpr hstart)
      rw [totalSupplyReads, hohm]
      exact List.mem_cons_self

theorem UnmaintainedRead.not_maintained {c : ChainId} {blockNumber : ℕ} {key : LedgerKey}
    (h : UnmaintainedRead c blockNumber key) : ¬Maintained c key := by
  cases h with
  | sohmV3 => exact fun hkept => absurd hkept.1 (by decide +kernel)
  | sohmV2 => exact fun hkept => absurd hkept.1 (by decide +kernel)
  | bondManager => exact fun hkept => absurd hkept.2 (by decide +kernel)
  | polygonGohm => exact fun hkept => absurd hkept (by unfold Maintained; decide +kernel)
  | fantomGohm => exact fun hkept => absurd hkept (by unfold Maintained; decide +kernel)

/-- In every run from nothing held, what a snapshot reads of the ledger is exact exactly when the
chain has nothing of what is read and not maintained. -/
theorem readsExact_iff {effects : BackfillEffects} {c : ChainId}
    (hreads : effects.ReadsBefore c nothingHeld) {es : List LedgerEvent} {s : LedgerState}
    (run : LedgerRun effects c nothingHeld es s) (blockNumber : ℕ) :
    ReadsExact c blockNumber s ↔ NothingUnmaintained c blockNumber s.holdings := by
  constructor
  · intro hexact key hkey
    have hvalue : s.ledger.read c key = s.holdings.value key := hexact key hkey.mem
    rw [read_of_not_maintained hreads run hkey.not_maintained] at hvalue
    exact_mod_cast hvalue.symm
  · intro hnothing key hkey
    by_cases hkept : Maintained c key
    · exact read_of_maintained hreads run hkept
    · have hread : UnmaintainedRead c blockNumber key :=
        (unmaintained_of_mem_snapshotReads hkey).resolve_left hkept
      rw [read_of_not_maintained hreads run hkept, hnothing key hread]
      rfl

/-! ### Staked OHM in the treasury -/

open Chains.Ethereum (daoWallet erc20OhmV2 erc20SohmV3)

def emptyEffects : BackfillEffects where
  readErc20BalanceOf _ _ _ := 0
  readBlockTimestamp _ := 1619659200

theorem emptyEffects_readsBefore (c : ChainId) : emptyEffects.ReadsBefore c nothingHeld :=
  fun _ _ => rfl

/-- 500 OHM for the treasury. -/
def ohmMint : TransferEvent where
  chainId := .ethereum
  srcAddress := erc20OhmV2
  info := ⟨17110000, 1682000000, 4⟩
  sender := zeroAddress
  recipient := daoWallet
  value := 500 * 10 ^ 9

/-- 1000 staked OHM for the treasury. -/
def stakedMint : TransferEvent where
  chainId := .ethereum
  srcAddress := erc20SohmV3
  info := ⟨17120000, 1682120000, 9⟩
  sender := zeroAddress
  recipient := daoWallet
  value := 1000 * 10 ^ 9

/-- The backfill, which finds nothing, and the two mints. -/
theorem exists_stakedRun : ∃ s, LedgerRun emptyEffects .ethereum nothingHeld
    [.block 12000000, .transfer ohmMint, .transfer stakedMint] s ∧
      s.holdings erc20OhmV2 daoWallet = 500 * 10 ^ 9 ∧
      s.holdings erc20SohmV3 daoWallet = 1000 * 10 ^ 9 := by
  obtain ⟨ledger, hledger⟩ := onBackfillBlock_isOk emptyEffects
    (show backfillStartBlock .ethereum ≤ 12000000 by decide) Ledger.empty
  have hblock : LedgerRun emptyEffects .ethereum nothingHeld [.block 12000000]
      ⟨ledger, nothingHeld⟩ := LedgerRun.nil.block 12000000 ledger hledger
  have hwallet : daoWallet ≠ zeroAddress := by decide
  have hohm := hblock.transfer ohmMint _ rfl (Erc20.moves_mint _ hwallet _)
  have hstaked := hohm.transfer stakedMint _ rfl (Erc20.moves_mint _ hwallet _)
  have hne : erc20OhmV2 ≠ erc20SohmV3 := by decide
  refine ⟨_, hstaked, ?_, ?_⟩
  · simp [stakedMint, ohmMint, hne, nothingHeld]
  · simp [stakedMint, ohmMint, hne.symm, nothingHeld]

/-- Nothing is stored of the treasury's staked OHM, which the snapshot at block 18000000 reads. -/
theorem stakedOhm_read_zero : ∃ s, LedgerRun emptyEffects .ethereum nothingHeld
    [.block 12000000, .transfer ohmMint, .transfer stakedMint] s ∧
      .tokenBalance erc20SohmV3 daoWallet ∈ snapshotReads (chainConfigs .ethereum) 18000000 ∧
      s.ledger.read .ethereum (.tokenBalance erc20SohmV3 daoWallet) = 0 ∧
      s.holdings.value (.tokenBalance erc20SohmV3 daoWallet) = 1000 * 10 ^ 9 ∧
      ¬ReadsExact .ethereum 18000000 s := by
  obtain ⟨s, run, -, hholding⟩ := exists_stakedRun
  have hunkept : UnmaintainedRead .ethereum 18000000 (.tokenBalance erc20SohmV3 daoWallet) :=
    .sohmV3 (by decide) (by decide)
  have hread := read_of_not_maintained (emptyEffects_readsBefore .ethereum) run
    hunkept.not_maintained
  refine ⟨s, run, hunkept.mem, hread, hholding, fun hexact => ?_⟩
  have hvalue := hexact _ hunkept.mem
  rw [hread, ChainHoldings.value, hholding] at hvalue
  exact absurd hvalue (by decide)

theorem readsExact_iff_stakedRun : ∃ s, LedgerRun emptyEffects .ethereum nothingHeld
    [.block 12000000, .transfer ohmMint, .transfer stakedMint] s ∧
      s.holdings erc20OhmV2 daoWallet = 500 * 10 ^ 9 ∧
      (ReadsExact .ethereum 18000000 s ↔ NothingUnmaintained .ethereum 18000000 s.holdings) := by
  obtain ⟨s, run, hohm, -⟩ := exists_stakedRun
  exact ⟨s, run, hohm, readsExact_iff (emptyEffects_readsBefore .ethereum) run 18000000⟩

end OlympusMetrics
