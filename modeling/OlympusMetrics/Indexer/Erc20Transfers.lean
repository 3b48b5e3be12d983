import OlympusMetrics.Indexer.Records
import OlympusMetrics.Indexer.Registrations
import OlympusMetrics.Library.EntityTable

/-!
The ERC20 ledger: wallet balances and token supplies maintained from events.

An id that the source joins with dashes is kept as the tuple of its parts, which
the dashes separate: neither an address nor a number contains one.
-/

namespace OlympusMetrics

def zeroAddress : String := "0x0000000000000000000000000000000000000000"

/-- `treasuryWalletsForChain`. -/
def treasuryWalletsForChain (chainId : ChainId) : List String :=
  (chainConfigs chainId).protocolAddresses

structure TokenBalanceId where
  chainId : ChainId
  tokenAddress : String
  walletAddress : String
  deriving DecidableEq

structure TokenBalance where
  chainId : ChainId
  tokenAddress : String
  walletAddress : String
  balance : ℤ
  updatedAtBlock : ℕ
  deriving DecidableEq

def TokenBalance.id (entity : TokenBalance) : TokenBalanceId :=
  ⟨entity.chainId, entity.tokenAddress, entity.walletAddress⟩

/-- The last part of an update's id: the event's position, or the word `backfill`. -/
inductive UpdateOrigin
  | event (block logIndex : ℕ)
  | backfill
  deriving DecidableEq

structure TokenBalanceUpdate where
  id : TokenBalanceId × UpdateOrigin
  chainId : ChainId
  tokenAddress : String
  walletAddress : String
  delta : ℤ
  balance : ℤ
  block : ℕ
  timestamp : ℕ
  deriving DecidableEq

structure Erc20SupplyId where
  chainId : ChainId
  tokenAddress : String
  deriving DecidableEq

structure Erc20Supply where
  chainId : ChainId
  tokenAddress : String
  totalSupply : ℤ
  updatedAtBlock : ℕ
  deriving DecidableEq

def Erc20Supply.id (entity : Erc20Supply) : Erc20SupplyId :=
  ⟨entity.chainId, entity.tokenAddress⟩

structure Erc20SupplyUpdate where
  id : Erc20SupplyId × UpdateOrigin
  chainId : ChainId
  tokenAddress : String
  delta : ℤ
  totalSupply : ℤ
  block : ℕ
  timestamp : ℕ
  deriving DecidableEq

structure LenderAmo where
  chainId : ChainId
  amoAddress : String
  active : Bool
  deployedOhm : ℤ
  updatedAtBlock : ℕ
  deriving DecidableEq

def LenderAmo.id (entity : LenderAmo) : ChainId × String := (entity.chainId, entity.amoAddress)

structure BackfillSentinel where
  chainId : ChainId
  seededAtBlock : ℕ
  firedAtBlock : ℕ
  seeded : ℕ
  skipped : ℕ
  deriving DecidableEq

/-- The entity tables of the ledger. -/
structure Ledger where
  tokenBalance : EntityTable TokenBalance.id
  tokenBalanceUpdate : EntityTable TokenBalanceUpdate.id
  erc20Supply : EntityTable Erc20Supply.id
  erc20SupplyUpdate : EntityTable Erc20SupplyUpdate.id
  lenderAmo : EntityTable LenderAmo.id
  backfillSentinel : EntityTable BackfillSentinel.chainId

def Ledger.empty : Ledger := ⟨∅, ∅, ∅, ∅, ∅, ∅⟩

/-- The balance read from the ledger, zero when no row is stored. -/
def Ledger.balance (ledger : Ledger) (chainId : ChainId) (token wallet : String) : ℤ :=
  ((ledger.tokenBalance.get ⟨chainId, token, wallet⟩).map (·.balance)).getD 0

/-- The supply read from the ledger, zero when no row is stored. -/
def Ledger.totalSupply (ledger : Ledger) (chainId : ChainId) (token : String) : ℤ :=
  ((ledger.erc20Supply.get ⟨chainId, token⟩).map (·.totalSupply)).getD 0

structure EventMeta where
  block : ℕ
  timestamp : ℕ
  logIndex : ℕ
  deriving DecidableEq

/-- `applyTransferToWalletBalance`. -/
def applyTransferToWalletBalance (chainId : ChainId) (token wallet : String) (delta : ℤ)
    (info : EventMeta) (ledger : Ledger) : Ledger :=
  let next := ledger.balance chainId token wallet + delta
  { ledger with
    tokenBalanceUpdate := ledger.tokenBalanceUpdate.set
      { id := (⟨chainId, token, wallet⟩, .event info.block info.logIndex)
        chainId := chainId
        tokenAddress := token
        walletAddress := wallet
        delta := delta
        balance := next
        block := info.block
        timestamp := info.timestamp }
    tokenBalance := ledger.tokenBalance.set
      { chainId := chainId
        tokenAddress := token
        walletAddress := wallet
        balance := next
        updatedAtBlock := info.block } }

/-- `applyDeployedOhmDelta`. -/
def applyDeployedOhmDelta (chainId : ChainId) (amo : String) (delta : ℤ) (block : ℕ)
    (ledger : Ledger) : Ledger :=
  match ledger.lenderAmo.get (chainId, amo) with
  | none => ledger
  | some existing =>
      let next := existing.deployedOhm + delta
      { ledger with
        lenderAmo := ledger.lenderAmo.set
          { existing with
            deployedOhm := if next < 0 then 0 else next
            updatedAtBlock := block } }

/-- `applyMintBurnToSupply`. -/
def applyMintBurnToSupply (chainId : ChainId) (token : String) (delta : ℤ) (info : EventMeta)
    (ledger : Ledger) : Ledger :=
  let nextRaw := ledger.totalSupply chainId token + delta
  let next := if nextRaw < 0 then 0 else nextRaw
  { ledger with
    erc20SupplyUpdate := ledger.erc20SupplyUpdate.set
      { id := (⟨chainId, token⟩, .event info.block info.logIndex)
        chainId := chainId
        tokenAddress := token
        delta := delta
        totalSupply := next
        block := info.block
        timestamp := info.timestamp }
    erc20Supply := ledger.erc20Supply.set
      { chainId := chainId
        tokenAddress := token
        totalSupply := next
        updatedAtBlock := info.block } }

/-- A `Transfer` event of the contract `srcAddress`. -/
structure TransferEvent where
  chainId : ChainId
  srcAddress : String
  info : EventMeta
  sender : String
  recipient : String
  value : ℕ
  deriving DecidableEq

/-- `buildTreasuryTransferWhere`: only Transfers of treasury wallets are delivered. -/
def buildTreasuryTransferWhere (event : TransferEvent) : Bool :=
  let wallets := treasuryWalletsForChain event.chainId
  wallets.contains event.sender || wallets.contains event.recipient

/-- `buildLpTransferWhere`: also mints and burns. -/
def buildLpTransferWhere (event : TransferEvent) : Bool :=
  let wallets := treasuryWalletsForChain event.chainId
  !wallets.isEmpty &&
    (wallets.contains event.sender || wallets.contains event.recipient ||
      event.sender == zeroAddress || event.recipient == zeroAddress)

/-- `handleTreasuryTransfer`. -/
def handleTreasuryTransfer (event : TransferEvent) (ledger : Ledger) : Ledger :=
  let wallets := treasuryWalletsForChain event.chainId
  let ledger :=
    if wallets.contains event.sender then
      applyTransferToWalletBalance event.chainId event.srcAddress event.sender (-event.value)
        event.info ledger
    else ledger
  if wallets.contains event.recipient then
    applyTransferToWalletBalance event.chainId event.srcAddress event.recipient event.value
      event.info ledger
  else ledger

/-- The `Transfer` handler of the OHM tokens. -/
def handleOhmTransfer (event : TransferEvent) (ledger : Ledger) : Ledger :=
  let wallets := treasuryWalletsForChain event.chainId
  let ledger :=
    if event.sender = zeroAddress then
      applyDeployedOhmDelta event.chainId event.recipient event.value event.info.block
        (applyMintBurnToSupply event.chainId event.srcAddress event.value event.info ledger)
    else if wallets.contains event.sender then
      applyTransferToWalletBalance event.chainId event.srcAddress event.sender (-event.value)
        event.info ledger
    else ledger
  if event.recipient = zeroAddress then
    applyDeployedOhmDelta event.chainId event.sender (-event.value) event.info.block
      (applyMintBurnToSupply event.chainId event.srcAddress (-event.value) event.info ledger)
  else if wallets.contains event.recipient then
    applyTransferToWalletBalance event.chainId event.srcAddress event.recipient event.value
      event.info ledger
  else ledger

/-- `handleLpTransfer`. -/
def handleLpTransfer (event : TransferEvent) (ledger : Ledger) : Ledger :=
  let wallets := treasuryWalletsForChain event.chainId
  let ledger :=
    if event.sender = zeroAddress then
      applyMintBurnToSupply event.chainId event.srcAddress event.value event.info ledger
    else if wallets.contains event.sender then
      applyTransferToWalletBalance event.chainId event.srcAddress event.sender (-event.value)
        event.info ledger
    else ledger
  if event.recipient = zeroAddress then
    applyMintBurnToSupply event.chainId event.srcAddress (-event.value) event.info ledger
  else if wallets.contains event.recipient then
    applyTransferToWalletBalance event.chainId event.srcAddress event.recipient event.value
      event.info ledger
  else ledger

/-- The filter that a Transfer handler is registered with. -/
def TransferHandler.where : TransferHandler → TransferEvent → Bool
  | .treasury => buildTreasuryTransferWhere
  | .ohm | .lp => buildLpTransferWhere

def TransferHandler.handle : TransferHandler → TransferEvent → Ledger → Ledger
  | .treasury => handleTreasuryTransfer
  | .ohm => handleOhmTransfer
  | .lp => handleLpTransfer

/-- What a `Transfer` does to the ledger: nothing unless its contract is registered and its filter
lets it through. -/
def onTransfer (event : TransferEvent) (ledger : Ledger) : Ledger :=
  match transferHandlerOf event.chainId event.srcAddress with
  | none => ledger
  | some handler => if handler.where event then handler.handle event ledger else ledger

/-! ### Single updates -/

@[simp] theorem balance_empty (chainId : ChainId) (token wallet : String) :
    Ledger.empty.balance chainId token wallet = 0 := rfl

@[simp] theorem totalSupply_empty (chainId : ChainId) (token : String) :
    Ledger.empty.totalSupply chainId token = 0 := rfl

theorem balance_applyTransferToWalletBalance (c c' : ChainId) (token wallet t w : String)
    (delta : ℤ) (info : EventMeta) (ledger : Ledger) :
    (applyTransferToWalletBalance c token wallet delta info ledger).balance c' t w =
      ledger.balance c' t w + if c' = c ∧ t = token ∧ w = wallet then delta else 0 := by
  unfold Ledger.balance applyTransferToWalletBalance
  rw [EntityTable.get_set]
  by_cases h : c' = c ∧ t = token ∧ w = wallet
  · obtain ⟨rfl, rfl, rfl⟩ := h
    simp [TokenBalance.id, Ledger.balance]
  · have hne : (⟨c', t, w⟩ : TokenBalanceId) ≠ ⟨c, token, wallet⟩ := by
      simpa [TokenBalanceId.mk.injEq] using h
    rw [if_neg (by simpa [TokenBalance.id] using hne), if_neg h, add_zero]

@[simp] theorem totalSupply_applyTransferToWalletBalance (c c' : ChainId)
    (token wallet t : String) (delta : ℤ) (info : EventMeta) (ledger : Ledger) :
    (applyTransferToWalletBalance c token wallet delta info ledger).totalSupply c' t =
      ledger.totalSupply c' t := rfl

theorem totalSupply_applyMintBurnToSupply (c c' : ChainId) (token t : String) (delta : ℤ)
    (info : EventMeta) (ledger : Ledger) :
    (applyMintBurnToSupply c token delta info ledger).totalSupply c' t =
      if c' = c ∧ t = token then max 0 (ledger.totalSupply c' t + delta)
      else ledger.totalSupply c' t := by
  unfold Ledger.totalSupply applyMintBurnToSupply
  rw [EntityTable.get_set]
  by_cases h : c' = c ∧ t = token
  · obtain ⟨rfl, rfl⟩ := h
    simp only [Erc20Supply.id, Ledger.totalSupply, and_self, if_true, Option.map_some,
      Option.getD_some]
    rw [max_def]
    grind
  · have hne : (⟨c', t⟩ : Erc20SupplyId) ≠ ⟨c, token⟩ := by
      simpa [Erc20SupplyId.mk.injEq] using h
    rw [if_neg (by simpa [Erc20Supply.id] using hne), if_neg h]

@[simp] theorem balance_applyMintBurnToSupply (c c' : ChainId) (token t w : String) (delta : ℤ)
    (info : EventMeta) (ledger : Ledger) :
    (applyMintBurnToSupply c token delta info ledger).balance c' t w =
      ledger.balance c' t w := rfl

@[simp] theorem balance_applyDeployedOhmDelta (c c' : ChainId) (amo t w : String) (delta : ℤ)
    (block : ℕ) (ledger : Ledger) :
    (applyDeployedOhmDelta c amo delta block ledger).balance c' t w = ledger.balance c' t w := by
  unfold applyDeployedOhmDelta
  split <;> rfl

@[simp] theorem totalSupply_applyDeployedOhmDelta (c c' : ChainId) (amo t : String) (delta : ℤ)
    (block : ℕ) (ledger : Ledger) :
    (applyDeployedOhmDelta c amo delta block ledger).totalSupply c' t =
      ledger.totalSupply c' t := by
  unfold applyDeployedOhmDelta
  split <;> rfl

end OlympusMetrics
