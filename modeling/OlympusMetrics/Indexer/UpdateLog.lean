import OlympusMetrics.Indexer.LedgerRun
import OlympusMetrics.Library.EventLog

/-!
The update rows of the ERC20 ledger.

Every change of a balance or a supply also stores a row, with the change and what it
led to. An event that changes one balance twice stores both changes under one id.
-/

namespace OlympusMetrics

open EventLog

/-! ### Events without a Transfer -/

/-- Where and when an event was emitted. -/
structure ContractEvent where
  chainId : ChainId
  srcAddress : String
  info : EventMeta

/-- A change of the balance of a wallet, if it is one of the treasury. -/
def applyToTreasuryWallet (event : ContractEvent) (wallet : String) (delta : ℤ) (ledger : Ledger) :
    Ledger :=
  if (treasuryWalletsForChain event.chainId).contains wallet then
    applyTransferToWalletBalance event.chainId event.srcAddress wallet delta event.info ledger
  else ledger

/-- `handleWrapped9Deposit`. -/
def handleWrapped9Deposit (event : ContractEvent) (dst : String) (wad : ℕ) : Ledger → Ledger :=
  applyToTreasuryWallet event dst wad

/-- `handleWrapped9Withdrawal`. -/
def handleWrapped9Withdrawal (event : ContractEvent) (src : String) (wad : ℕ) : Ledger → Ledger :=
  applyToTreasuryWallet event src (-wad)

/-- `handleErc4626Deposit`. -/
def handleErc4626Deposit (event : ContractEvent) (owner : String) (shares : ℕ) : Ledger → Ledger :=
  applyToTreasuryWallet event owner shares

/-- `handleErc4626Withdraw`. -/
def handleErc4626Withdraw (event : ContractEvent) (owner : String) (shares : ℕ) : Ledger → Ledger :=
  applyToTreasuryWallet event owner (-shares)

/-- `handleStakingRewardsStaked`. -/
def handleStakingRewardsStaked (event : ContractEvent) (user : String) (amount : ℕ) :
    Ledger → Ledger :=
  applyToTreasuryWallet event user amount

/-- `handleStakingRewardsWithdrawn`. -/
def handleStakingRewardsWithdrawn (event : ContractEvent) (user : String) (amount : ℕ) :
    Ledger → Ledger :=
  applyToTreasuryWallet event user (-amount)

/-- The handlers of the events that change the balance of one wallet. -/
inductive WalletHandler
  | deposit | withdrawal | erc4626Deposit | erc4626Withdraw | staked | withdrawn
  deriving DecidableEq

/-- The contract definition that a handler is registered for. -/
def WalletHandler.contract : WalletHandler → ContractName
  | .deposit | .withdrawal => .wrapped9
  | .erc4626Deposit | .erc4626Withdraw => .erc4626Vault
  | .staked | .withdrawn => .stakingRewardsVault

def WalletHandler.handle (event : ContractEvent) (wallet : String) (amount : ℕ) :
    WalletHandler → Ledger → Ledger
  | .deposit => handleWrapped9Deposit event wallet amount
  | .withdrawal => handleWrapped9Withdrawal event wallet amount
  | .erc4626Deposit => handleErc4626Deposit event wallet amount
  | .erc4626Withdraw => handleErc4626Withdraw event wallet amount
  | .staked => handleStakingRewardsStaked event wallet amount
  | .withdrawn => handleStakingRewardsWithdrawn event wallet amount

/-- What a handler adds to the balance. -/
def WalletHandler.delta (amount : ℕ) : WalletHandler → ℤ
  | .deposit | .erc4626Deposit | .staked => amount
  | .withdrawal | .erc4626Withdraw | .withdrawn => -amount

theorem WalletHandler.handle_eq (handler : WalletHandler) (event : ContractEvent) (wallet : String)
    (amount : ℕ) : handler.handle event wallet amount =
      applyToTreasuryWallet event wallet (handler.delta amount) := by
  cases handler <;> rfl

/-- The events that the ledger is made of. -/
inductive TokenEvent
  | transfer (event : TransferEvent)
  | wallet (handler : WalletHandler) (event : ContractEvent) (holder : String) (amount : ℕ)
  | backfill (effects : BackfillEffects) (chainId : ChainId) (block : ℕ)

namespace TokenEvent

def apply (ledger : Ledger) : TokenEvent → Except String Ledger
  | .transfer event => .ok (onTransfer event ledger)
  | .wallet handler event holder amount =>
      .ok (if contractOf event.chainId event.srcAddress = some handler.contract then
        handler.handle event holder amount ledger else ledger)
  | .backfill effects chainId block => onBackfillBlock effects chainId block ledger

def chainId : TokenEvent → ChainId
  | .transfer event => event.chainId
  | .wallet _ event _ _ => event.chainId
  | .backfill _ chainId _ => chainId

def block : TokenEvent → ℕ
  | .transfer event => event.info.block
  | .wallet _ event _ _ => event.info.block
  | .backfill _ _ block => block

/-- The last part of the ids of its rows. -/
def origin : TokenEvent → UpdateOrigin
  | .transfer event => .event event.info.block event.info.logIndex
  | .wallet _ event _ _ => .event event.info.block event.info.logIndex
  | .backfill _ _ _ => .backfill

theorem block_of_origin {e : TokenEvent} {block logIndex : ℕ}
    (h : e.origin = .event block logIndex) : e.block = block := by
  cases e with
  | transfer event => exact (UpdateOrigin.event.inj h).1
  | wallet handler event holder amount => exact (UpdateOrigin.event.inj h).1
  | backfill effects chainId block => cases h

end TokenEvent

/-- The events that are handled one after the other. -/
inductive TokenRun (start : Ledger) : List TokenEvent → Ledger → Prop
  | nil : TokenRun start [] start
  | event {es ledger ledger'} (e : TokenEvent) : TokenRun start es ledger →
      e.apply ledger = .ok ledger' → TokenRun start (es ++ [e]) ledger'

/-- No two events of a chain have the same block and log index. -/
def OwnPositions (es : List TokenEvent) : Prop :=
  es.Pairwise (fun e e' => e.chainId = e'.chainId → e.origin = e'.origin → e.origin = .backfill)

/-! ### The journals -/

/-- The balances and their updates. -/
def balanceJournal : Journal TokenBalance TokenBalanceUpdate TokenBalanceId UpdateOrigin ℤ where
  key := TokenBalance.id
  id := TokenBalanceUpdate.id
  state := TokenBalance.balance
  value := TokenBalanceUpdate.balance
  block := TokenBalanceUpdate.block
  next := fun balance update => balance + update.delta
  start := 0

/-- The supplies and their updates: a supply stays at zero where it would become negative. -/
def supplyJournal : Journal Erc20Supply Erc20SupplyUpdate Erc20SupplyId UpdateOrigin ℤ where
  key := Erc20Supply.id
  id := Erc20SupplyUpdate.id
  state := Erc20Supply.totalSupply
  value := Erc20SupplyUpdate.totalSupply
  block := Erc20SupplyUpdate.block
  next := fun supply update => max 0 (supply + update.delta)
  start := 0

namespace Ledger

def balances (ledger : Ledger) : Tables balanceJournal :=
  ⟨ledger.tokenBalance, ledger.tokenBalanceUpdate⟩

def supplies (ledger : Ledger) : Tables supplyJournal :=
  ⟨ledger.erc20Supply, ledger.erc20SupplyUpdate⟩

end Ledger

/-- The row of a change of a balance. -/
def balanceUpdate (ledger : Ledger) (key : TokenBalanceId) (origin : UpdateOrigin) (delta : ℤ)
    (block timestamp : ℕ) : TokenBalanceUpdate where
  id := (key, origin)
  chainId := key.chainId
  tokenAddress := key.tokenAddress
  walletAddress := key.walletAddress
  delta := delta
  balance := ledger.balance key.chainId key.tokenAddress key.walletAddress + delta
  block := block
  timestamp := timestamp

/-- The row is one of the event. -/
structure TokenEvent.Owns (e : TokenEvent) (row : TokenBalanceUpdate) : Prop where
  chain : row.id.1.chainId = e.chainId
  origin : row.id.2 = e.origin
  block : row.block = e.block

/-! ### The rows of events of one wallet -/

/-- The rows that `applyToTreasuryWallet` writes. -/
def walletUpdates (event : ContractEvent) (wallet : String) (delta : ℤ) (ledger : Ledger) :
    List TokenBalanceUpdate :=
  if (treasuryWalletsForChain event.chainId).contains wallet then
    [balanceUpdate ledger ⟨event.chainId, event.srcAddress, wallet⟩
      (.event event.info.block event.info.logIndex) delta event.info.block event.info.timestamp]
  else []

theorem records_applyToTreasuryWallet (event : ContractEvent) (wallet : String) (delta : ℤ)
    (ledger : Ledger) :
    Records balanceJournal ledger.balances (walletUpdates event wallet delta ledger)
      (applyToTreasuryWallet event wallet delta ledger).balances := by
  rw [walletUpdates, applyToTreasuryWallet]
  split
  · exact .cons _ _ rfl rfl rfl .nil
  · exact .nil

theorem mem_walletUpdates {event : ContractEvent} {wallet : String} {delta : ℤ} {ledger : Ledger}
    {row : TokenBalanceUpdate} (h : row ∈ walletUpdates event wallet delta ledger) :
    row.id = (⟨event.chainId, event.srcAddress, wallet⟩,
      .event event.info.block event.info.logIndex) ∧ row.block = event.info.block := by
  rw [walletUpdates] at h
  split at h
  · obtain rfl := List.mem_singleton.mp h
    exact ⟨rfl, rfl⟩
  · cases h

/-! ### The rows of a Transfer -/

def TransferEvent.contractEvent (event : TransferEvent) : ContractEvent :=
  ⟨event.chainId, event.srcAddress, event.info⟩

theorem handleTreasuryTransfer_eq (event : TransferEvent) (ledger : Ledger) :
    handleTreasuryTransfer event ledger =
      applyToTreasuryWallet event.contractEvent event.recipient event.value
        (applyToTreasuryWallet event.contractEvent event.sender (-event.value) ledger) := rfl

theorem handleLpTransfer_eq (event : TransferEvent) (ledger : Ledger) :
    handleLpTransfer event ledger =
      let sent :=
        if event.sender = zeroAddress then
          applyMintBurnToSupply event.chainId event.srcAddress event.value event.info ledger
        else applyToTreasuryWallet event.contractEvent event.sender (-event.value) ledger
      if event.recipient = zeroAddress then
        applyMintBurnToSupply event.chainId event.srcAddress (-event.value) event.info sent
      else applyToTreasuryWallet event.contractEvent event.recipient event.value sent := rfl

theorem handleOhmTransfer_eq (event : TransferEvent) (ledger : Ledger) :
    handleOhmTransfer event ledger =
      let sent :=
        if event.sender = zeroAddress then
          applyDeployedOhmDelta event.chainId event.recipient event.value event.info.block
            (applyMintBurnToSupply event.chainId event.srcAddress event.value event.info ledger)
        else applyToTreasuryWallet event.contractEvent event.sender (-event.value) ledger
      if event.recipient = zeroAddress then
        applyDeployedOhmDelta event.chainId event.sender (-event.value) event.info.block
          (applyMintBurnToSupply event.chainId event.srcAddress (-event.value) event.info sent)
      else applyToTreasuryWallet event.contractEvent event.recipient event.value sent := rfl

theorem balances_applyToTreasuryWallet_congr {event : ContractEvent} {wallet : String} {delta : ℤ}
    {ledger ledger' : Ledger} (h : ledger.balances = ledger'.balances) :
    (applyToTreasuryWallet event wallet delta ledger).balances =
      (applyToTreasuryWallet event wallet delta ledger').balances := by
  have hstates : ledger.tokenBalance = ledger'.tokenBalance := congrArg Tables.states h
  have hlog : ledger.tokenBalanceUpdate = ledger'.tokenBalanceUpdate := congrArg Tables.log h
  rw [applyToTreasuryWallet, applyToTreasuryWallet]
  split
  · simp only [applyTransferToWalletBalance, Ledger.balances, Ledger.balance, hstates, hlog]
  · exact h

theorem balances_applyDeployedOhmDelta (chainId : ChainId) (amo : String) (delta : ℤ) (block : ℕ)
    (ledger : Ledger) :
    (applyDeployedOhmDelta chainId amo delta block ledger).balances = ledger.balances := by
  rw [applyDeployedOhmDelta]
  split <;> rfl

/-- Outside the treasury nothing is written, so mints and burns are Transfers like others. -/
theorem applyToTreasuryWallet_zeroAddress (event : ContractEvent) (delta : ℤ) (ledger : Ledger) :
    applyToTreasuryWallet event zeroAddress delta ledger = ledger := by
  have hzero := zeroAddress_not_mem_treasuryWallets event.chainId
  rw [applyToTreasuryWallet, if_neg]
  simpa using hzero

/-- The handlers write the same rows of balances. -/
theorem balances_handle (handler : TransferHandler) (event : TransferEvent) (ledger : Ledger) :
    (handler.handle event ledger).balances = (handleTreasuryTransfer event ledger).balances := by
  have hmint (delta : ℤ) (l : Ledger) :
      (applyMintBurnToSupply event.chainId event.srcAddress delta event.info l).balances =
        l.balances := rfl
  rw [handleTreasuryTransfer_eq]
  cases handler with
  | treasury => rfl
  | lp =>
      rw [TransferHandler.handle, handleLpTransfer_eq]
      dsimp only
      by_cases hs : event.sender = zeroAddress
      · by_cases hr : event.recipient = zeroAddress
        · simp only [hs, hr, if_true, hmint, applyToTreasuryWallet_zeroAddress]
        · simp only [hs, hr, if_true, if_false, applyToTreasuryWallet_zeroAddress]
          exact balances_applyToTreasuryWallet_congr (hmint _ _)
      · by_cases hr : event.recipient = zeroAddress
        · simp only [hs, hr, if_true, if_false, hmint, applyToTreasuryWallet_zeroAddress]
        · simp only [hs, hr, if_false]
  | ohm =>
      rw [TransferHandler.handle, handleOhmTransfer_eq]
      dsimp only
      by_cases hs : event.sender = zeroAddress
      · by_cases hr : event.recipient = zeroAddress
        · simp only [hs, hr, if_true, balances_applyDeployedOhmDelta, hmint,
            applyToTreasuryWallet_zeroAddress]
        · simp only [hs, hr, if_true, if_false, applyToTreasuryWallet_zeroAddress]
          exact balances_applyToTreasuryWallet_congr
            ((balances_applyDeployedOhmDelta _ _ _ _ _).trans (hmint _ _))
      · by_cases hr : event.recipient = zeroAddress
        · simp only [hs, hr, if_true, if_false, balances_applyDeployedOhmDelta, hmint,
            applyToTreasuryWallet_zeroAddress]
        · simp only [hs, hr, if_false]

/-- The rows that a Transfer of a registered token writes. -/
def transferUpdates (event : TransferEvent) (ledger : Ledger) : List TokenBalanceUpdate :=
  walletUpdates event.contractEvent event.sender (-event.value) ledger ++
    walletUpdates event.contractEvent event.recipient event.value
      (applyToTreasuryWallet event.contractEvent event.sender (-event.value) ledger)

theorem records_handle (handler : TransferHandler) (event : TransferEvent) (ledger : Ledger) :
    Records balanceJournal ledger.balances (transferUpdates event ledger)
      (handler.handle event ledger).balances := by
  rw [balances_handle, handleTreasuryTransfer_eq]
  exact (records_applyToTreasuryWallet _ _ _ _).append (records_applyToTreasuryWallet _ _ _ _)

theorem mem_transferUpdates {event : TransferEvent} {ledger : Ledger} {row : TokenBalanceUpdate}
    (h : row ∈ transferUpdates event ledger) : (TokenEvent.transfer event).Owns row := by
  rcases List.mem_append.mp h with h | h
  · obtain ⟨hid, hblock⟩ := mem_walletUpdates h
    exact ⟨by rw [hid]; rfl, by rw [hid]; rfl, hblock⟩
  · obtain ⟨hid, hblock⟩ := mem_walletUpdates h
    exact ⟨by rw [hid]; rfl, by rw [hid]; rfl, hblock⟩

/-- A Transfer of a treasury wallet to itself. -/
def TransferEvent.IsWithin (event : TransferEvent) (key : TokenBalanceId) : Prop :=
  (transferHandlerOf event.chainId event.srcAddress).isSome ∧
    key = ⟨event.chainId, event.srcAddress, event.sender⟩ ∧ event.recipient = event.sender ∧
    event.sender ∈ treasuryWalletsForChain event.chainId ∧ event.value ≠ 0

/-- A Transfer between two wallets writes rows with two ids. -/
theorem nodup_transferUpdates {event : TransferEvent} (ledger : Ledger)
    (h : event.recipient ≠ event.sender) :
    ((transferUpdates event ledger).map TokenBalanceUpdate.id).Nodup := by
  rw [transferUpdates, walletUpdates, walletUpdates]
  split
  · split
    · simp [balanceUpdate, h.symm]
    · simp
  · split
    · simp
    · simp

theorem chained_handle_iff (handler : TransferHandler) {event : TransferEvent} {ledger : Ledger}
    (hhandler : transferHandlerOf event.chainId event.srcAddress = some handler)
    (hpoints : Points balanceJournal ledger.balances)
    (hfresh : ∀ row ∈ transferUpdates event ledger, ∀ other ∈ ledger.tokenBalanceUpdate.rows,
      other.id ≠ row.id) (key : TokenBalanceId) :
    Chained balanceJournal 0 (rowsOf (handler.handle event ledger).tokenBalanceUpdate key) ↔
      Chained balanceJournal 0 (rowsOf ledger.tokenBalanceUpdate key) ∧ ¬event.IsWithin key := by
  have hrecords := records_handle handler event ledger
  by_cases hself : event.recipient = event.sender
  · by_cases hwallet : event.sender ∈ treasuryWalletsForChain event.chainId
    · have hcontains : (treasuryWalletsForChain event.contractEvent.chainId).contains event.sender =
          true := List.contains_iff_mem.mpr hwallet
      have hpair := hrecords
      have hrow := hfresh
      rw [transferUpdates, walletUpdates, walletUpdates, hself, if_pos hcontains, if_pos hcontains,
        List.singleton_append] at hpair hrow
      refine (hpair.chained_pair_iff hpoints rfl (hrow _ List.mem_cons_self) key).trans ?_
      refine and_congr_right (fun _ => ?_)
      have hnext (balance : ℤ) : balance + -(event.value : ℤ) + event.value =
          balance + event.value ↔ event.value = 0 := by omega
      constructor
      · rintro hchain ⟨-, rfl, -, -, hvalue⟩
        exact hvalue ((hnext _).mp (hchain rfl))
      · intro hnot hkey
        refine (hnext _).mpr ?_
        by_contra hvalue
        exact hnot ⟨by rw [hhandler]; rfl, hkey, hself, hwallet, hvalue⟩
    · have hcontains : (treasuryWalletsForChain event.contractEvent.chainId).contains event.sender =
          false := by simpa [TransferEvent.contractEvent] using hwallet
      have hnone : transferUpdates event ledger = [] := by
        rw [transferUpdates, walletUpdates, walletUpdates, hself, hcontains]
        rfl
      rw [hnone] at hrecords
      refine (hrecords.chained_iff hpoints List.nodup_nil (fun _ h => (by cases h)) key).trans ?_
      exact (and_iff_left (fun hwithin => hwallet hwithin.2.2.2.1)).symm
  · refine (hrecords.chained_iff hpoints (nodup_transferUpdates ledger hself) hfresh key).trans ?_
    exact (and_iff_left (fun hwithin => hself hwithin.2.2.1)).symm

/-! ### The rows of a backfill -/

/-- The ids of the rows of a token. -/
def backfillIds (chainId : ChainId) (token : String) (wallets : List String) :
    List (TokenBalanceId × UpdateOrigin) :=
  wallets.map (fun wallet => (⟨chainId, token, wallet⟩, .backfill))

/-- Rows of a backfill, and a sentinel that stays as it is. -/
structure SeedsRows (firedAt : ℕ) (ids : List (TokenBalanceId × UpdateOrigin))
    (before after : Ledger) (rows : List TokenBalanceUpdate) : Prop where
  records : Records balanceJournal before.balances rows after.balances
  ids : (rows.map TokenBalanceUpdate.id).Sublist ids
  block : ∀ row ∈ rows, row.block = firedAt
  supplies : after.supplies = before.supplies
  sentinel : after.backfillSentinel = before.backfillSentinel

theorem SeedsRows.append {firedAt : ℕ} {ids ids' : List (TokenBalanceId × UpdateOrigin)}
    {before middle after : Ledger} {rows rows' : List TokenBalanceUpdate}
    (h : SeedsRows firedAt ids before middle rows) (h' : SeedsRows firedAt ids' middle after rows') :
    SeedsRows firedAt (ids ++ ids') before after (rows ++ rows') where
  records := h.records.append h'.records
  ids := by
    rw [List.map_append]
    exact h.ids.append h'.ids
  block := by
    intro row hrow
    rcases List.mem_append.mp hrow with hrow | hrow
    · exact h.block row hrow
    · exact h'.block row hrow
  supplies := h'.supplies.trans h.supplies
  sentinel := h'.sentinel.trans h.sentinel

theorem SeedsRows.refl (firedAt : ℕ) (ids : List (TokenBalanceId × UpdateOrigin))
    (ledger : Ledger) : SeedsRows firedAt ids ledger ledger [] :=
  ⟨.nil, List.nil_sublist _, fun _ h => (by cases h), rfl, rfl⟩

section

variable (effects : BackfillEffects) (c : ChainId) (readAt firedAt : ℕ)

/-- The row that a backfill writes of a wallet. -/
def seedUpdates (token : String) (progress : BackfillProgress) (wallet : String) :
    List TokenBalanceUpdate :=
  let seed := effects.readErc20BalanceOf token wallet readAt
  if seed = 0 then []
  else [balanceUpdate progress.ledger ⟨c, token, wallet⟩ .backfill seed firedAt
    (effects.readBlockTimestamp firedAt)]

/-- The rows that it writes of a token. -/
def tokenUpdates (progress : BackfillProgress) (definition : TokenDefinition) :
    List TokenBalanceUpdate :=
  if definition.address = nativeToken then []
  else if isActive definition.startBlock readAt = false then []
  else
    loopRows (seedWallet effects c readAt firedAt definition.address)
      (seedUpdates effects c readAt firedAt definition.address) progress
      (chainConfigs c).protocolAddresses

theorem seedsRows_seedWallet (token wallet : String) (progress : BackfillProgress) :
    SeedsRows firedAt (backfillIds c token [wallet]) progress.ledger
      (seedWallet effects c readAt firedAt token progress wallet).ledger
      (seedUpdates effects c readAt firedAt token progress wallet) := by
  rw [seedUpdates]
  by_cases hseed : effects.readErc20BalanceOf token wallet readAt = 0
  · rw [seedWallet, if_pos hseed, if_pos hseed]
    exact SeedsRows.refl _ _ _
  · rw [seedWallet, if_neg hseed, if_neg hseed]
    exact ⟨.cons _ _ rfl rfl rfl .nil, List.Sublist.refl _,
      fun row hrow => by rw [List.mem_singleton.mp hrow]; rfl, rfl, rfl⟩

theorem seedsRows_foldl_seedWallet (token : String) (wallets : List String)
    (progress : BackfillProgress) :
    SeedsRows firedAt (backfillIds c token wallets) progress.ledger
      (wallets.foldl (seedWallet effects c readAt firedAt token) progress).ledger
      (loopRows (seedWallet effects c readAt firedAt token)
        (seedUpdates effects c readAt firedAt token) progress wallets) := by
  induction wallets generalizing progress with
  | nil => exact SeedsRows.refl _ _ _
  | cons wallet wallets ih =>
      have hrows := seedsRows_seedWallet effects c readAt firedAt token wallet progress
      exact hrows.append (ih (seedWallet effects c readAt firedAt token progress wallet))

theorem seedsRows_seedToken (progress : BackfillProgress) (definition : TokenDefinition) :
    SeedsRows firedAt
      (backfillIds c definition.address (chainConfigs c).protocolAddresses) progress.ledger
      (seedToken effects c readAt firedAt progress definition).ledger
      (tokenUpdates effects c readAt firedAt progress definition) := by
  rw [seedToken, tokenUpdates]
  split
  · exact SeedsRows.refl _ _ _
  · split
    · exact SeedsRows.refl _ _ _
    · exact seedsRows_foldl_seedWallet effects c readAt firedAt _ _ progress

theorem seedsRows_foldl_seedToken (tokens : List TokenDefinition) (progress : BackfillProgress) :
    SeedsRows firedAt
      (tokens.flatMap (fun definition =>
        backfillIds c definition.address (chainConfigs c).protocolAddresses)) progress.ledger
      (tokens.foldl (seedToken effects c readAt firedAt) progress).ledger
      (loopRows (seedToken effects c readAt firedAt) (tokenUpdates effects c readAt firedAt)
        progress tokens) := by
  induction tokens generalizing progress with
  | nil => exact SeedsRows.refl _ _ _
  | cons definition tokens ih =>
      have hrows := seedsRows_seedToken effects c readAt firedAt progress definition
      exact hrows.append (ih (seedToken effects c readAt firedAt progress definition))

end

/-- The ids of a backfill are distinct, as are the tokens and the wallets of a chain. -/
theorem nodup_backfillIds (c : ChainId) :
    ((chainConfigs c).tokens.flatMap (fun definition =>
      backfillIds c definition.address (chainConfigs c).protocolAddresses)).Nodup := by
  rw [List.nodup_flatMap]
  constructor
  · intro definition _
    refine (nodup_protocolAddresses c).map (fun wallet wallet' h => ?_)
    simpa using h
  · have htokens := List.pairwise_map.mp (nodup_tokenAddresses c)
    refine htokens.imp (fun {definition definition'} hne id hid hid' => ?_)
    obtain ⟨wallet, -, rfl⟩ := List.mem_map.mp hid
    obtain ⟨wallet', -, heq⟩ := List.mem_map.mp hid'
    simp only [Prod.mk.injEq, TokenBalanceId.mk.injEq] at heq
    exact hne heq.1.2.1.symm

/-- The rows that the block handler writes: none once a sentinel is stored. -/
def backfillUpdates (effects : BackfillEffects) (c : ChainId) (block : ℕ) (ledger : Ledger) :
    List TokenBalanceUpdate :=
  if (ledger.backfillSentinel.get c).isSome then []
  else
    let readAt := backfillReadAtBlock (backfillStartBlock c)
    loopRows (seedToken effects c readAt block) (tokenUpdates effects c readAt block)
      ⟨ledger, 0, 0⟩ (chainConfigs c).tokens

/-- A backfill writes new rows, unless its sentinel is stored. -/
theorem rows_onBackfillBlock {effects : BackfillEffects} {c : ChainId} {block : ℕ}
    {ledger ledger' : Ledger} (h : onBackfillBlock effects c block ledger = .ok ledger') :
    Records balanceJournal ledger.balances (backfillUpdates effects c block ledger)
        ledger'.balances ∧
      ((backfillUpdates effects c block ledger).map TokenBalanceUpdate.id).Nodup ∧
      (∀ row ∈ backfillUpdates effects c block ledger,
        (TokenEvent.backfill effects c block).Owns row) ∧
      (backfillUpdates effects c block ledger ≠ [] → ledger.backfillSentinel.get c = none) ∧
      ledger'.supplies = ledger.supplies := by
  rw [onBackfillBlock] at h
  cases hsentinel : ledger.backfillSentinel.get c with
  | some sentinel =>
      rw [hsentinel] at h
      obtain rfl := Except.ok.inj h
      have hnone : backfillUpdates effects c block ledger = [] := by
        rw [backfillUpdates, hsentinel]
        rfl
      rw [hnone]
      exact ⟨.nil, List.nodup_nil, fun _ h => (by cases h), fun h => absurd rfl h, rfl⟩
  | none =>
      rw [hsentinel, runBackfill, lookup_backfillChains] at h
      by_cases hblock : block < backfillStartBlock c
      · simp [hblock, Except.map] at h
      · simp only [if_neg hblock, Except.map, Except.ok.injEq] at h
        subst h
        have hrows := seedsRows_foldl_seedToken effects c
          (backfillReadAtBlock (backfillStartBlock c)) block (chainConfigs c).tokens ⟨ledger, 0, 0⟩
        have hupdates : backfillUpdates effects c block ledger =
            loopRows (seedToken effects c (backfillReadAtBlock (backfillStartBlock c)) block)
              (tokenUpdates effects c (backfillReadAtBlock (backfillStartBlock c)) block)
              ⟨ledger, 0, 0⟩ (chainConfigs c).tokens := by
          rw [backfillUpdates, hsentinel]
          rfl
        rw [hupdates]
        refine ⟨hrows.records, hrows.ids.nodup (nodup_backfillIds c), fun row hrow => ?_,
          fun _ => rfl, hrows.supplies⟩
        have hid := hrows.ids.subset (List.mem_map_of_mem hrow)
        obtain ⟨definition, -, hid⟩ := List.mem_flatMap.mp hid
        obtain ⟨wallet, -, hid⟩ := List.mem_map.mp hid
        exact ⟨by rw [← hid]; rfl, by rw [← hid]; rfl, hrows.block row hrow⟩

/-! ### One event -/

/-- Rows of a backfill are only stored once its sentinel is. -/
def SentinelGuards (ledger : Ledger) : Prop :=
  ∀ row ∈ ledger.tokenBalanceUpdate.rows, row.id.2 = .backfill →
    (ledger.backfillSentinel.get row.id.1.chainId).isSome

/-- No row of the event is stored, unless it is a backfill. -/
def TokenEvent.IsNew (e : TokenEvent) (ledger : Ledger) : Prop :=
  ∀ row ∈ ledger.tokenBalanceUpdate.rows, row.id.1.chainId = e.chainId → row.id.2 = e.origin →
    e.origin = .backfill

/-- A Transfer of a treasury wallet to itself. -/
def TokenEvent.IsWithin (key : TokenBalanceId) : TokenEvent → Prop
  | .transfer event => event.IsWithin key
  | .wallet .. => False
  | .backfill .. => False

theorem backfillSentinel_apply {e : TokenEvent} {ledger ledger' : Ledger}
    (h : e.apply ledger = .ok ledger') (c : ChainId) :
    (ledger.backfillSentinel.get c).isSome → (ledger'.backfillSentinel.get c).isSome := by
  intro hsome
  cases e with
  | transfer event =>
      obtain rfl := Except.ok.inj h
      rw [backfillSentinel_onTransfer]
      exact hsome
  | wallet handler event holder amount =>
      obtain rfl := Except.ok.inj h
      rw [handler.handle_eq, applyToTreasuryWallet]
      split
      · split
        · exact hsome
        · exact hsome
      · exact hsome
  | backfill effects chainId block =>
      by_cases hchain : c = chainId
      · rw [hchain]
        exact isSome_backfillSentinel h
      · change onBackfillBlock effects chainId block ledger = .ok ledger' at h
        rw [onBackfillBlock] at h
        cases hsentinel : ledger.backfillSentinel.get chainId with
        | some sentinel =>
            rw [hsentinel] at h
            obtain rfl := Except.ok.inj h
            exact hsome
        | none =>
            rw [hsentinel, runBackfill, lookup_backfillChains] at h
            by_cases hblock : block < backfillStartBlock chainId
            · simp [hblock, Except.map] at h
            · simp only [if_neg hblock, Except.map, Except.ok.injEq] at h
              subst h
              have hrows := seedsRows_foldl_seedToken effects chainId
                (backfillReadAtBlock (backfillStartBlock chainId)) block
                (chainConfigs chainId).tokens ⟨ledger, 0, 0⟩
              rw [EntityTable.get_set_of_ne _ hchain, hrows.sentinel]
              exact hsome

/-- The rows of balances that an event writes. -/
def TokenEvent.updates (ledger : Ledger) : TokenEvent → List TokenBalanceUpdate
  | .transfer event =>
      if (transferHandlerOf event.chainId event.srcAddress).isSome then transferUpdates event ledger
      else []
  | .wallet handler event holder amount =>
      if contractOf event.chainId event.srcAddress = some handler.contract then
        walletUpdates event holder (handler.delta amount) ledger
      else []
  | .backfill effects chainId block => backfillUpdates effects chainId block ledger

/-- What an event writes is rows of its own, and those of a backfill are the first ones of its chain. -/
theorem rows_apply {e : TokenEvent} {ledger ledger' : Ledger} (h : e.apply ledger = .ok ledger') :
    Records balanceJournal ledger.balances (e.updates ledger) ledger'.balances ∧
      (∀ row ∈ e.updates ledger, e.Owns row) ∧
      (e.origin = .backfill → e.updates ledger ≠ [] →
        ledger.backfillSentinel.get e.chainId = none) := by
  cases e with
  | transfer event =>
      obtain rfl := Except.ok.inj h
      rw [TokenEvent.updates]
      cases hhandler : transferHandlerOf event.chainId event.srcAddress with
      | none =>
          rw [onTransfer_of_unregistered hhandler]
          exact ⟨.nil, fun _ h => (by cases h), fun h => (by cases h)⟩
      | some handler =>
          rw [onTransfer_of_handler hhandler]
          exact ⟨records_handle handler event ledger, fun _ => mem_transferUpdates,
            fun h => (by cases h)⟩
  | wallet handler event holder amount =>
      obtain rfl := Except.ok.inj h
      rw [TokenEvent.updates]
      split
      · rw [handler.handle_eq]
        refine ⟨records_applyToTreasuryWallet event holder _ ledger, fun row hrow => ?_,
          fun h => (by cases h)⟩
        obtain ⟨hid, hblock⟩ := mem_walletUpdates hrow
        exact ⟨by rw [hid]; rfl, by rw [hid]; rfl, hblock⟩
      · exact ⟨.nil, fun _ h => (by cases h), fun h => (by cases h)⟩
  | backfill effects chainId block =>
      obtain ⟨hrecords, -, hown, hnone, -⟩ := rows_onBackfillBlock h
      exact ⟨hrecords, hown, fun _ => hnone⟩

/-- A new event writes rows with new ids. -/
theorem updates_fresh {e : TokenEvent} {ledger ledger' : Ledger} (h : e.apply ledger = .ok ledger')
    (hguards : SentinelGuards ledger) (hnew : e.IsNew ledger) :
    ∀ row ∈ e.updates ledger, ∀ other ∈ ledger.tokenBalanceUpdate.rows, other.id ≠ row.id := by
  intro row hrow other hother heq
  obtain ⟨-, hown, hnone⟩ := rows_apply h
  have hchain : other.id.1.chainId = e.chainId := heq ▸ (hown row hrow).chain
  have horigin : other.id.2 = e.origin := heq ▸ (hown row hrow).origin
  have hbackfill := hnew other hother hchain horigin
  -- While there is no sentinel, no row of the chain's backfill is stored.
  have hsome := hguards other hother (horigin.trans hbackfill)
  rw [hchain, hnone hbackfill (List.ne_nil_of_mem hrow)] at hsome
  cases hsome

/-- An event goes on with the chains of its rows, unless it is a Transfer of a wallet to itself. -/
theorem chained_apply_iff {e : TokenEvent} {ledger ledger' : Ledger}
    (h : e.apply ledger = .ok ledger') (hpoints : Points balanceJournal ledger.balances)
    (hguards : SentinelGuards ledger) (hnew : e.IsNew ledger) (key : TokenBalanceId) :
    Chained balanceJournal 0 (rowsOf ledger'.tokenBalanceUpdate key) ↔
      Chained balanceJournal 0 (rowsOf ledger.tokenBalanceUpdate key) ∧ ¬e.IsWithin key := by
  have hfresh := updates_fresh h hguards hnew
  cases e with
  | transfer event =>
      obtain rfl := Except.ok.inj h
      rw [TokenEvent.updates] at hfresh
      cases hhandler : transferHandlerOf event.chainId event.srcAddress with
      | none =>
          rw [onTransfer_of_unregistered hhandler]
          refine (and_iff_left (fun hwithin : event.IsWithin key => ?_)).symm
          rw [TransferEvent.IsWithin, hhandler] at hwithin
          cases hwithin.1
      | some handler =>
          rw [hhandler] at hfresh
          rw [onTransfer_of_handler hhandler]
          exact chained_handle_iff handler hhandler hpoints hfresh key
  | wallet handler event holder amount =>
      obtain rfl := Except.ok.inj h
      refine Iff.trans ?_ (and_iff_left not_false).symm
      rw [TokenEvent.updates] at hfresh
      split
      · next hcontract =>
          rw [if_pos hcontract] at hfresh
          rw [handler.handle_eq]
          have hrecords := records_applyToTreasuryWallet event holder (handler.delta amount) ledger
          refine hrecords.chained_iff hpoints ?_ hfresh key
          rw [walletUpdates]
          split <;> simp
      · rfl
  | backfill effects chainId block =>
      obtain ⟨hrecords, hnodup, -⟩ := rows_onBackfillBlock h
      exact (hrecords.chained_iff hpoints hnodup hfresh key).trans (and_iff_left not_false).symm

/-! ### Supplies -/

/-- The row of a mint or a burn. -/
def supplyUpdate (event : TransferEvent) (delta : ℤ) (ledger : Ledger) : Erc20SupplyUpdate where
  id := (⟨event.chainId, event.srcAddress⟩, .event event.info.block event.info.logIndex)
  chainId := event.chainId
  tokenAddress := event.srcAddress
  delta := delta
  totalSupply :=
    let nextRaw := ledger.totalSupply event.chainId event.srcAddress + delta
    if nextRaw < 0 then 0 else nextRaw
  block := event.info.block
  timestamp := event.info.timestamp

theorem records_applyMintBurnToSupply (event : TransferEvent) (delta : ℤ) (ledger : Ledger) :
    Records supplyJournal ledger.supplies [supplyUpdate event delta ledger]
      (applyMintBurnToSupply event.chainId event.srcAddress delta event.info ledger).supplies := by
  refine .cons _ (supplyUpdate event delta ledger) rfl rfl ?_ .nil
  change (if ledger.totalSupply event.chainId event.srcAddress + delta < 0 then 0
    else ledger.totalSupply event.chainId event.srcAddress + delta) =
      max 0 (ledger.totalSupply event.chainId event.srcAddress + delta)
  rw [max_def]
  grind

theorem supplies_applyToTreasuryWallet (event : ContractEvent) (wallet : String) (delta : ℤ)
    (ledger : Ledger) : (applyToTreasuryWallet event wallet delta ledger).supplies =
      ledger.supplies := by
  rw [applyToTreasuryWallet]
  split <;> rfl

theorem supplies_applyDeployedOhmDelta (chainId : ChainId) (amo : String) (delta : ℤ) (block : ℕ)
    (ledger : Ledger) :
    (applyDeployedOhmDelta chainId amo delta block ledger).supplies = ledger.supplies := by
  rw [applyDeployedOhmDelta]
  split <;> rfl

theorem supplies_applyMintBurnToSupply_congr {event : TransferEvent} {delta : ℤ}
    {ledger ledger' : Ledger} (h : ledger.supplies = ledger'.supplies) :
    (applyMintBurnToSupply event.chainId event.srcAddress delta event.info ledger).supplies =
      (applyMintBurnToSupply event.chainId event.srcAddress delta event.info ledger').supplies := by
  have hstates : ledger.erc20Supply = ledger'.erc20Supply := congrArg Tables.states h
  have hlog : ledger.erc20SupplyUpdate = ledger'.erc20SupplyUpdate := congrArg Tables.log h
  simp only [applyMintBurnToSupply, Ledger.supplies, Ledger.totalSupply, hstates, hlog]
  rfl

theorem supplies_handleOhmTransfer (event : TransferEvent) (ledger : Ledger) :
    (handleOhmTransfer event ledger).supplies = (handleLpTransfer event ledger).supplies := by
  rw [handleOhmTransfer_eq, handleLpTransfer_eq]
  dsimp only
  by_cases hs : event.sender = zeroAddress
  · by_cases hr : event.recipient = zeroAddress
    · simp only [if_pos hs, if_pos hr, supplies_applyDeployedOhmDelta]
      exact supplies_applyMintBurnToSupply_congr (supplies_applyDeployedOhmDelta _ _ _ _ _)
    · simp only [if_pos hs, if_neg hr, supplies_applyToTreasuryWallet,
        supplies_applyDeployedOhmDelta]
  · by_cases hr : event.recipient = zeroAddress
    · simp only [if_neg hs, if_pos hr, supplies_applyDeployedOhmDelta]
    · simp only [if_neg hs, if_neg hr]

/-- A Transfer from the zero address to itself. -/
def TransferEvent.IsVoid (event : TransferEvent) : Prop :=
  event.sender = zeroAddress ∧ event.recipient = zeroAddress

/-- The row of a supply is one of the event. -/
structure TokenEvent.OwnsSupply (e : TokenEvent) (row : Erc20SupplyUpdate) : Prop where
  chain : row.id.1.chainId = e.chainId
  origin : row.id.2 = e.origin
  block : row.block = e.block
  noBackfill : e.origin ≠ .backfill

theorem ownsSupply_supplyUpdate (event : TransferEvent) (delta : ℤ) (ledger : Ledger) :
    (TokenEvent.transfer event).OwnsSupply (supplyUpdate event delta ledger) :=
  ⟨rfl, rfl, rfl, fun h => (by cases h)⟩

/-- The LP handler writes a row for a mint and one for a burn. -/
theorem rows_handleLpTransfer (event : TransferEvent) (ledger : Ledger) :
    ∃ rows, Records supplyJournal ledger.supplies rows (handleLpTransfer event ledger).supplies ∧
      (∀ row ∈ rows, (TokenEvent.transfer event).OwnsSupply row) ∧
      (¬event.IsVoid → (rows.map Erc20SupplyUpdate.id).Nodup) := by
  rw [handleLpTransfer_eq]
  dsimp only
  by_cases hs : event.sender = zeroAddress
  · by_cases hr : event.recipient = zeroAddress
    · simp only [if_pos hs, if_pos hr]
      refine ⟨_, (records_applyMintBurnToSupply event _ ledger).append
        (records_applyMintBurnToSupply event _ _), fun row hrow => ?_, fun h => absurd ⟨hs, hr⟩ h⟩
      rcases List.mem_append.mp hrow with hrow | hrow
      · rw [List.mem_singleton.mp hrow]
        exact ownsSupply_supplyUpdate _ _ _
      · rw [List.mem_singleton.mp hrow]
        exact ownsSupply_supplyUpdate _ _ _
    · simp only [if_pos hs, if_neg hr, supplies_applyToTreasuryWallet]
      refine ⟨_, records_applyMintBurnToSupply event _ ledger, fun row hrow => ?_,
        fun _ => List.nodup_singleton _⟩
      rw [List.mem_singleton.mp hrow]
      exact ownsSupply_supplyUpdate _ _ _
  · by_cases hr : event.recipient = zeroAddress
    · simp only [if_neg hs, if_pos hr]
      have hrecords := records_applyMintBurnToSupply event (-event.value)
        (applyToTreasuryWallet event.contractEvent event.sender (-event.value) ledger)
      rw [supplies_applyToTreasuryWallet] at hrecords
      refine ⟨_, hrecords, fun row hrow => ?_, fun _ => List.nodup_singleton _⟩
      rw [List.mem_singleton.mp hrow]
      exact ownsSupply_supplyUpdate _ _ _
    · simp only [if_neg hs, if_neg hr, supplies_applyToTreasuryWallet]
      exact ⟨[], .nil, fun _ h => (by cases h), fun _ => List.nodup_nil⟩

theorem supplies_handleTreasuryTransfer (event : TransferEvent) (ledger : Ledger) :
    (handleTreasuryTransfer event ledger).supplies = ledger.supplies := by
  rw [handleTreasuryTransfer_eq, supplies_applyToTreasuryWallet, supplies_applyToTreasuryWallet]

/-- The event is a Transfer from the zero address to itself. -/
def TokenEvent.IsVoid : TokenEvent → Prop
  | .transfer event => event.IsVoid
  | .wallet .. => False
  | .backfill .. => False

theorem supplyRows_apply {e : TokenEvent} {ledger ledger' : Ledger}
    (h : e.apply ledger = .ok ledger') :
    ∃ rows, Records supplyJournal ledger.supplies rows ledger'.supplies ∧
      (∀ row ∈ rows, e.OwnsSupply row) ∧
      (¬e.IsVoid → (rows.map Erc20SupplyUpdate.id).Nodup) := by
  have hnone (hsame : ledger'.supplies = ledger.supplies) :
      ∃ rows, Records supplyJournal ledger.supplies rows ledger'.supplies ∧
        (∀ row ∈ rows, e.OwnsSupply row) ∧
        (¬e.IsVoid → (rows.map Erc20SupplyUpdate.id).Nodup) := by
    rw [hsame]
    exact ⟨[], .nil, fun _ h => (by cases h), fun _ => List.nodup_nil⟩
  cases e with
  | transfer event =>
      obtain rfl := Except.ok.inj h
      cases hhandler : transferHandlerOf event.chainId event.srcAddress with
      | none => exact hnone (by rw [onTransfer_of_unregistered hhandler])
      | some handler =>
          rw [onTransfer_of_handler hhandler] at hnone ⊢
          cases handler with
          | treasury => exact hnone (supplies_handleTreasuryTransfer event ledger)
          | ohm =>
              rw [TransferHandler.handle, supplies_handleOhmTransfer]
              exact rows_handleLpTransfer event ledger
          | lp => exact rows_handleLpTransfer event ledger
  | wallet handler event holder amount =>
      obtain rfl := Except.ok.inj h
      refine hnone ?_
      split
      · rw [handler.handle_eq, supplies_applyToTreasuryWallet]
      · rfl
  | backfill effects chainId block =>
      obtain ⟨-, -, -, -, hsame⟩ := rows_onBackfillBlock h
      exact hnone hsame

/-! ### Runs -/

/-- What holds of the rows after every run. -/
structure LogInvariant (es : List TokenEvent) (ledger : Ledger) : Prop where
  balances : Points balanceJournal ledger.balances
  supplies : Points supplyJournal ledger.supplies
  guards : SentinelGuards ledger
  owned : ∀ row ∈ ledger.tokenBalanceUpdate.rows, ∃ e ∈ es, e.Owns row
  ownedSupply : ∀ row ∈ ledger.erc20SupplyUpdate.rows, ∃ e ∈ es, e.OwnsSupply row

theorem LogInvariant.apply {es : List TokenEvent} {ledger ledger' : Ledger} {e : TokenEvent}
    (inv : LogInvariant es ledger) (h : e.apply ledger = .ok ledger') :
    LogInvariant (es ++ [e]) ledger' := by
  obtain ⟨hrecords, hown, -⟩ := rows_apply h
  obtain ⟨supplyRows, hsupplyRecords, hsupplyOwn, -⟩ := supplyRows_apply h
  refine ⟨hrecords.points inv.balances, hsupplyRecords.points inv.supplies, ?_, ?_, ?_⟩
  · intro row hrow horigin
    rcases hrecords.mem_log hrow with hrow | hrow
    · exact backfillSentinel_apply h _ (inv.guards row hrow horigin)
    · have hrowOwn := hown row hrow
      cases e with
      | transfer event => cases hrowOwn.origin.symm.trans horigin
      | wallet handler event holder amount => cases hrowOwn.origin.symm.trans horigin
      | backfill effects chainId block =>
          rw [hrowOwn.chain]
          exact isSome_backfillSentinel h
  · intro row hrow
    rcases hrecords.mem_log hrow with hrow | hrow
    · obtain ⟨e', he', hrowOwn⟩ := inv.owned row hrow
      exact ⟨e', List.mem_append_left _ he', hrowOwn⟩
    · exact ⟨e, by simp, hown row hrow⟩
  · intro row hrow
    rcases hsupplyRecords.mem_log hrow with hrow | hrow
    · obtain ⟨e', he', hrowOwn⟩ := inv.ownedSupply row hrow
      exact ⟨e', List.mem_append_left _ he', hrowOwn⟩
    · exact ⟨e, by simp, hsupplyOwn row hrow⟩

theorem logInvariant_of_run {es : List TokenEvent} {ledger : Ledger}
    (run : TokenRun Ledger.empty es ledger) : LogInvariant es ledger := by
  induction run with
  | nil =>
      exact ⟨points_empty, points_empty, fun _ h => (by cases h), fun _ h => (by cases h),
        fun _ h => (by cases h)⟩
  | event e _ h ih => exact ih.apply h

theorem isNew_of_ownPositions {es : List TokenEvent} {ledger : Ledger} {e : TokenEvent}
    (inv : LogInvariant es ledger) (hown : OwnPositions (es ++ [e])) : e.IsNew ledger := by
  intro row hrow hchain horigin
  obtain ⟨e', he', hrowOwn⟩ := inv.owned row hrow
  have hsame := (List.pairwise_append.mp hown).2.2 e' he' e (by simp)
    (hrowOwn.chain.symm.trans hchain) (hrowOwn.origin.symm.trans horigin)
  rw [← horigin, hrowOwn.origin]
  exact hsame

/-- In every run the updates of a balance follow from one another exactly if its wallet has made no
Transfer to itself. -/
theorem chained_of_run_iff {es : List TokenEvent} {ledger : Ledger}
    (run : TokenRun Ledger.empty es ledger) (hown : OwnPositions es) (key : TokenBalanceId) :
    Chained balanceJournal 0 (rowsOf ledger.tokenBalanceUpdate key) ↔
      ∀ e ∈ es, ¬e.IsWithin key := by
  induction run with
  | nil => exact ⟨fun _ _ h => (by cases h), fun _ => trivial⟩
  | @event es ledger ledger' e run h ih =>
      have inv := logInvariant_of_run run
      have hbefore := ih (List.pairwise_append.mp hown).1
      rw [chained_apply_iff h inv.balances inv.guards (isNew_of_ownPositions inv hown), hbefore]
      simp [or_imp, forall_and]

/-- The last update of a balance always tells the balance. The updates follow from one another exactly
if the wallet has made no Transfer to itself. -/
theorem balanceLog_telescopes_iff {es : List TokenEvent} {ledger : Ledger}
    (run : TokenRun Ledger.empty es ledger) (hown : OwnPositions es) (key : TokenBalanceId) :
    ledger.balance key.chainId key.tokenAddress key.walletAddress =
        after balanceJournal 0 (rowsOf ledger.tokenBalanceUpdate key) ∧
      (Chained balanceJournal 0 (rowsOf ledger.tokenBalanceUpdate key) ↔
        ∀ e ∈ es, ¬e.IsWithin key) := by
  exact ⟨(logInvariant_of_run run).balances key, chained_of_run_iff run hown key⟩

/-- The updates of a supply follow from one another, and the last one tells the supply, unless a token
is transferred from the zero address to itself. -/
theorem supplyLog_telescopes {es : List TokenEvent} {ledger : Ledger}
    (run : TokenRun Ledger.empty es ledger) (hown : OwnPositions es)
    (hvoid : ∀ e ∈ es, ¬e.IsVoid) (key : Erc20SupplyId) :
    Chained supplyJournal 0 (rowsOf ledger.erc20SupplyUpdate key) ∧
      ledger.totalSupply key.chainId key.tokenAddress =
        after supplyJournal 0 (rowsOf ledger.erc20SupplyUpdate key) := by
  refine ⟨?_, (logInvariant_of_run run).supplies key⟩
  induction run with
  | nil => trivial
  | @event es ledger ledger' e run h ih =>
      have inv := logInvariant_of_run run
      obtain ⟨rows, hrecords, hrows, hnodup⟩ := supplyRows_apply h
      refine (hrecords.chained_iff inv.supplies (hnodup (hvoid e (by simp)))
        (fun row hrow other hother heq => ?_) key).mpr
          (ih (List.pairwise_append.mp hown).1 (fun e' he' => hvoid e' (List.mem_append_left _ he')))
      change other.id = row.id at heq
      obtain ⟨e', he', hotherOwn⟩ := inv.ownedSupply other hother
      have hrowOwn := hrows row hrow
      have hsame := (List.pairwise_append.mp hown).2.2 e' he' e (by simp)
        (by rw [← hotherOwn.chain, heq, hrowOwn.chain])
        (by rw [← hotherOwn.origin, heq, hrowOwn.origin])
      exact hotherOwn.noBackfill hsame

/-- An update that is stored under the id of another one is of the same block. -/
theorem block_eq_of_id_eq {e e' : TokenEvent} {row row' : TokenBalanceUpdate} (h : e.Owns row)
    (h' : e'.Owns row') (hid : row.id = row'.id) (horigin : e.origin ≠ .backfill) :
    row.block = row'.block := by
  have hsame : e.origin = e'.origin := by rw [← h.origin, hid, h'.origin]
  cases hevent : e.origin with
  | event block logIndex =>
      rw [h.block, h'.block, TokenEvent.block_of_origin hevent,
        TokenEvent.block_of_origin (hsame ▸ hevent)]
  | backfill => exact absurd hevent horigin

theorem block_eq_of_supply_id_eq {e e' : TokenEvent} {row row' : Erc20SupplyUpdate}
    (h : e.OwnsSupply row) (h' : e'.OwnsSupply row') (hid : row.id = row'.id) :
    row.block = row'.block := by
  have hsame : e.origin = e'.origin := by rw [← h.origin, hid, h'.origin]
  cases hevent : e.origin with
  | event block logIndex =>
      rw [h.block, h'.block, TokenEvent.block_of_origin hevent,
        TokenEvent.block_of_origin (hsame ▸ hevent)]
  | backfill => exact absurd hevent h.noBackfill

/-- An event of another chain or of a later block changes no balance and no supply that the log tells
of a block. -/
theorem valueAt_apply {es : List TokenEvent} {ledger ledger' : Ledger} {e : TokenEvent}
    (inv : LogInvariant es ledger) (h : e.apply ledger = .ok ledger') {c : ChainId} {last : ℕ}
    (hlater : e.chainId = c → last < e.block) (token wallet : String) :
    valueAt balanceJournal ledger'.tokenBalanceUpdate ⟨c, token, wallet⟩ last =
        valueAt balanceJournal ledger.tokenBalanceUpdate ⟨c, token, wallet⟩ last ∧
      valueAt supplyJournal ledger'.erc20SupplyUpdate ⟨c, token⟩ last =
        valueAt supplyJournal ledger.erc20SupplyUpdate ⟨c, token⟩ last := by
  obtain ⟨hrecords, hown, hnone⟩ := rows_apply h
  obtain ⟨supplyRows, hsupplyRecords, hsupplyOwn, -⟩ := supplyRows_apply h
  constructor
  · have hblock : ∀ row ∈ e.updates ledger, row.id.1 = ⟨c, token, wallet⟩ →
        last < row.block := by
      intro row hrow hkey
      rw [(hown row hrow).block]
      exact hlater (by rw [← (hown row hrow).chain, hkey])
    refine hrecords.valueAt_eq hblock (fun row hrow other hother hid hkey => ?_)
    change other.id = row.id at hid
    have hrowOwn := hown row hrow
    by_cases hbackfill : e.origin = .backfill
    · -- A backfill that writes rows is the first one of its chain.
      have hsome := inv.guards other hother (by rw [hid, hrowOwn.origin, hbackfill])
      rw [hid, hrowOwn.chain, hnone hbackfill (List.ne_nil_of_mem hrow)] at hsome
      cases hsome
    · obtain ⟨e', -, hotherOwn⟩ := inv.owned other hother
      change last < other.block
      rw [← block_eq_of_id_eq hrowOwn hotherOwn hid.symm hbackfill]
      exact hblock row hrow hkey
  · have hblock : ∀ row ∈ supplyRows, row.id.1 = ⟨c, token⟩ → last < row.block := by
      intro row hrow hkey
      rw [(hsupplyOwn row hrow).block]
      exact hlater (by rw [← (hsupplyOwn row hrow).chain, hkey])
    refine hsupplyRecords.valueAt_eq hblock (fun row hrow other hother hid hkey => ?_)
    obtain ⟨e', -, hotherOwn⟩ := inv.ownedSupply other hother
    change last < other.block
    rw [block_eq_of_supply_id_eq hotherOwn (hsupplyOwn row hrow) hid]
    exact hblock row hrow hkey

/-- The log tells every balance and every supply of a chain at the end of every block: what is read from
the rows up to a block is what the ledger has held after the events up to this block, however many later
ones it has handled and whatever other chains have done meanwhile. -/
theorem ledger_of_log {es later : List TokenEvent} {ledger final : Ledger} {c : ChainId} {last : ℕ}
    (run : TokenRun Ledger.empty es ledger) (hes : ∀ e ∈ es, e.chainId = c → e.block ≤ last)
    (rest : TokenRun ledger later final) (hlater : ∀ e ∈ later, e.chainId = c → last < e.block)
    (token wallet : String) :
    valueAt balanceJournal final.tokenBalanceUpdate ⟨c, token, wallet⟩ last =
        ledger.balance c token wallet ∧
      valueAt supplyJournal final.erc20SupplyUpdate ⟨c, token⟩ last = ledger.totalSupply c token := by
  have hinv := logInvariant_of_run run
  -- After the later events the log still tells what it has told before them.
  have hrest : LogInvariant (es ++ later) final ∧
      valueAt balanceJournal final.tokenBalanceUpdate ⟨c, token, wallet⟩ last =
        valueAt balanceJournal ledger.tokenBalanceUpdate ⟨c, token, wallet⟩ last ∧
      valueAt supplyJournal final.erc20SupplyUpdate ⟨c, token⟩ last =
        valueAt supplyJournal ledger.erc20SupplyUpdate ⟨c, token⟩ last := by
    induction rest with
    | nil => exact ⟨by rwa [List.append_nil], rfl, rfl⟩
    | @event later ledger' final e _ h ih =>
        obtain ⟨inv, hbalance, hsupply⟩ := ih (fun e' he' => hlater e' (List.mem_append_left _ he'))
        obtain ⟨hbalance', hsupply'⟩ := valueAt_apply inv h (hlater e (by simp)) token wallet
        refine ⟨?_, hbalance'.trans hbalance, hsupply'.trans hsupply⟩
        rw [← List.append_assoc]
        exact inv.apply h
  obtain ⟨-, hbalance, hsupply⟩ := hrest
  constructor
  · rw [hbalance]
    refine hinv.balances.valueAt_eq (fun row hrow => ?_)
    obtain ⟨hlog, hkey⟩ := mem_rowsOf.mp hrow
    obtain ⟨e, he, hown⟩ := hinv.owned row hlog
    change row.id.1 = _ at hkey
    change row.block ≤ last
    rw [hown.block]
    exact hes e he (by rw [← hown.chain, hkey])
  · rw [hsupply]
    refine hinv.supplies.valueAt_eq (fun row hrow => ?_)
    obtain ⟨hlog, hkey⟩ := mem_rowsOf.mp hrow
    obtain ⟨e, he, hown⟩ := hinv.ownedSupply row hlog
    change row.id.1 = _ at hkey
    change row.block ≤ last
    rw [hown.block]
    exact hes e he (by rw [← hown.chain, hkey])

/-! ### Two chains -/

/-- No backfill is handled before the first block of its chain. -/
def TokenEvent.IsDue : TokenEvent → Prop
  | .transfer _ => True
  | .wallet .. => True
  | .backfill _ chainId block => backfillStartBlock chainId ≤ block

theorem exists_apply {e : TokenEvent} (h : e.IsDue) (ledger : Ledger) :
    ∃ ledger', e.apply ledger = .ok ledger' := by
  cases e with
  | transfer event => exact ⟨_, rfl⟩
  | wallet handler event holder amount => exact ⟨_, rfl⟩
  | backfill effects chainId block => exact onBackfillBlock_isOk effects h ledger

/-- Events that are due are all handled. -/
theorem exists_run (start : Ledger) {es : List TokenEvent} (h : ∀ e ∈ es, e.IsDue) :
    ∃ ledger, TokenRun start es ledger := by
  induction es using List.reverseRecOn with
  | nil => exact ⟨start, .nil⟩
  | append_singleton es e ih =>
      obtain ⟨ledger, run⟩ := ih (fun e' he' => h e' (List.mem_append_left _ he'))
      obtain ⟨ledger', happly⟩ := exists_apply (h e (by simp)) ledger
      exact ⟨ledger', .event e run happly⟩

/-- Wrapped ether of Arbitrum. -/
def arbitrumWeth : String := "0x82af49447d8a07e3bd95bd0d56f35241523fbab1"

/-- A treasury wallet of Arbitrum. -/
def arbitrumWallet : String := "0x012bbf0481b97170577745d2167ee14f63e2ad4c"

def outsideAddress : String := "0x1111111111111111111111111111111111111111"

/-- The wallet holds seven wei before the first block. -/
def seedEvent : TokenEvent :=
  .backfill
    { readErc20BalanceOf := fun token wallet _ =>
        if token = arbitrumWeth ∧ wallet = arbitrumWallet then 7 else 0
      readBlockTimestamp := fun _ => 1649000000 }
    .arbitrum 10950000

/-- It wraps five wei. -/
def wrapEvent : TokenEvent :=
  .wallet .deposit ⟨.arbitrum, arbitrumWeth, ⟨11000000, 1650000000, 3⟩⟩ arbitrumWallet 5

/-- It sends two of them to an address outside the treasury. -/
def sendEvent : TokenEvent :=
  .transfer
    { chainId := .arbitrum
      srcAddress := arbitrumWeth
      info := ⟨11000010, 1650000100, 7⟩
      sender := arbitrumWallet
      recipient := outsideAddress
      value := 2 }

/-- It sends three of them to itself. -/
def withinEvent : TokenEvent :=
  .transfer
    { chainId := .arbitrum
      srcAddress := arbitrumWeth
      info := ⟨11000020, 1650000200, 2⟩
      sender := arbitrumWallet
      recipient := arbitrumWallet
      value := 3 }

/-- Fifty units of OHM are minted on Ethereum, at the position of the wrapping. -/
def mintEvent : TokenEvent :=
  .transfer
    { chainId := .ethereum
      srcAddress := Chains.Ethereum.erc20OhmV2
      info := ⟨11000000, 1604000000, 3⟩
      sender := zeroAddress
      recipient := outsideAddress
      value := 50 }

/-- A hundred units of OHM are burnt. -/
def burnEvent : TokenEvent :=
  .transfer
    { chainId := .ethereum
      srcAddress := Chains.Ethereum.erc20OhmV2
      info := ⟨11000001, 1604000012, 0⟩
      sender := outsideAddress
      recipient := zeroAddress
      value := 100 }

def twoChains : List TokenEvent := [seedEvent, wrapEvent, mintEvent, sendEvent, burnEvent]

theorem isDue_twoChains : ∀ e ∈ twoChains ++ [withinEvent], e.IsDue := by
  simp [twoChains, seedEvent, wrapEvent, mintEvent, sendEvent, burnEvent, withinEvent,
    TokenEvent.IsDue, show backfillStartBlock .arbitrum = 10950000 from rfl]

theorem ownPositions_twoChains : OwnPositions (twoChains ++ [withinEvent]) := by
  unfold OwnPositions
  decide

theorem balanceLog_telescopes_twoChains :
    ∃ ledger, TokenRun Ledger.empty (twoChains ++ [withinEvent]) ledger ∧
      ∀ key : TokenBalanceId,
        ledger.balance key.chainId key.tokenAddress key.walletAddress =
            after balanceJournal 0 (rowsOf ledger.tokenBalanceUpdate key) ∧
          (Chained balanceJournal 0 (rowsOf ledger.tokenBalanceUpdate key) ↔
            ∀ e ∈ twoChains ++ [withinEvent], ¬e.IsWithin key) := by
  obtain ⟨ledger, hrun⟩ := exists_run Ledger.empty isDue_twoChains
  exact ⟨ledger, hrun, balanceLog_telescopes_iff hrun ownPositions_twoChains⟩

theorem supplyLog_telescopes_twoChains : ∃ ledger, TokenRun Ledger.empty twoChains ledger ∧
    ∀ key : Erc20SupplyId,
      Chained supplyJournal 0 (rowsOf ledger.erc20SupplyUpdate key) ∧
        ledger.totalSupply key.chainId key.tokenAddress =
          after supplyJournal 0 (rowsOf ledger.erc20SupplyUpdate key) := by
  obtain ⟨ledger, hrun⟩ := exists_run Ledger.empty
    (fun e he => isDue_twoChains e (List.mem_append_left _ he))
  have hown : OwnPositions twoChains := (List.pairwise_append.mp ownPositions_twoChains).1
  have hvoid : ∀ e ∈ twoChains, ¬e.IsVoid := by
    simp [twoChains, seedEvent, wrapEvent, mintEvent, sendEvent, burnEvent, TokenEvent.IsVoid,
      TransferEvent.IsVoid, arbitrumWallet, outsideAddress, zeroAddress]
  exact ⟨ledger, hrun, supplyLog_telescopes hrun hown hvoid⟩

/-- The burn takes more than has been minted, and the supply stays at zero. -/
example : (rowsOf (onTransfer
      { chainId := .ethereum, srcAddress := Chains.Ethereum.erc20OhmV2, info := ⟨11000001, 0, 0⟩
        sender := outsideAddress, recipient := zeroAddress, value := 100 }
      (onTransfer
        { chainId := .ethereum, srcAddress := Chains.Ethereum.erc20OhmV2, info := ⟨11000000, 0, 3⟩
          sender := zeroAddress, recipient := outsideAddress, value := 50 }
        Ledger.empty)).erc20SupplyUpdate ⟨.ethereum, Chains.Ethereum.erc20OhmV2⟩).map
      (fun row => (row.delta, row.totalSupply)) = [(50, 50), (-100, 0)] := by
  decide +kernel

/-- The ledger is read at a block between the wrapping and the sending, while the other chain goes on. -/
theorem ledger_of_log_twoChains : ∃ ledger final,
    TokenRun Ledger.empty [seedEvent, wrapEvent, mintEvent] ledger ∧
      TokenRun ledger [sendEvent, burnEvent] final ∧ ∀ token wallet,
        valueAt balanceJournal final.tokenBalanceUpdate ⟨.arbitrum, token, wallet⟩ 11000005 =
            ledger.balance .arbitrum token wallet ∧
          valueAt supplyJournal final.erc20SupplyUpdate ⟨.arbitrum, token⟩ 11000005 =
            ledger.totalSupply .arbitrum token := by
  have hdue : ∀ e ∈ [seedEvent, wrapEvent, mintEvent] ++ [sendEvent, burnEvent], e.IsDue :=
    fun e he => isDue_twoChains e (List.mem_append_left _ he)
  obtain ⟨ledger, hrun⟩ := exists_run Ledger.empty (fun e he => hdue e (List.mem_append_left _ he))
  obtain ⟨final, hrest⟩ := exists_run ledger (fun e he => hdue e (List.mem_append_right _ he))
  refine ⟨ledger, final, hrun, hrest, ledger_of_log hrun ?_ hrest ?_⟩
  · simp [seedEvent, wrapEvent, mintEvent, TokenEvent.chainId, TokenEvent.block]
  · simp [sendEvent, burnEvent, TokenEvent.chainId, TokenEvent.block]

end OlympusMetrics
