import OlympusMetrics.Chains.Index
import OlympusMetrics.Library.ClampedSums
import OlympusMetrics.Library.EntityTable

/-!
The stakes of the treasury's wallets in the Jones and the Treasure contracts.

Both contracts are shared with everyone who stakes there; only the events of the
treasury's wallets are handled. A stake is held at zero from below.
-/

namespace OlympusMetrics.Staking

open ClampedSums

structure JonesPositionId where
  chainId : ChainId
  poolId : ℕ
  walletAddress : String
  deriving DecidableEq

structure JonesStakingPosition where
  chainId : ChainId
  poolId : ℕ
  walletAddress : String
  amount : ℤ
  updatedAtBlock : ℕ
  deriving DecidableEq

/-- `jonesPositionId`. -/
def JonesStakingPosition.id (entity : JonesStakingPosition) : JonesPositionId :=
  ⟨entity.chainId, entity.poolId, entity.walletAddress⟩

structure TreasureDepositId where
  chainId : ChainId
  walletAddress : String
  depositId : ℕ
  deriving DecidableEq

structure TreasureDeposit where
  chainId : ChainId
  walletAddress : String
  depositId : ℕ
  amount : ℤ
  updatedAtBlock : ℕ
  deriving DecidableEq

/-- `treasureDepositId`. -/
def TreasureDeposit.id (entity : TreasureDeposit) : TreasureDepositId :=
  ⟨entity.chainId, entity.walletAddress, entity.depositId⟩

structure StakingStore where
  jonesStakingPosition : EntityTable JonesStakingPosition.id
  treasureDeposit : EntityTable TreasureDeposit.id

def StakingStore.empty : StakingStore := ⟨∅, ∅⟩

inductive StakingEvent
  | jonesDeposit (pid amount : ℕ)
  | jonesWithdraw (pid amount : ℕ)
  | jonesEmergencyWithdraw (pid amount : ℕ)
  | treasureDeposit (index amount : ℕ)
  | treasureWithdraw (index amount : ℕ)
  deriving DecidableEq

structure StakingLog where
  chainId : ChainId
  user : String
  block : ℕ
  event : StakingEvent
  deriving DecidableEq

/-! ### The handlers -/

/-- `applyJonesDelta`. -/
def applyJonesDelta (chainId : ChainId) (poolId : ℕ) (user : String) (delta : ℤ) (blockNumber : ℕ)
    (store : StakingStore) : StakingStore :=
  let existing := store.jonesStakingPosition.get ⟨chainId, poolId, user⟩
  let previous := (existing.map (·.amount)).getD 0
  let next := previous + delta
  { store with
    jonesStakingPosition := store.jonesStakingPosition.set
      { chainId := chainId
        poolId := poolId
        walletAddress := user
        amount := if next < 0 then 0 else next
        updatedAtBlock := blockNumber } }

/-- `applyTreasureDelta`. -/
def applyTreasureDelta (chainId : ChainId) (user : String) (depositId : ℕ) (delta : ℤ)
    (blockNumber : ℕ) (store : StakingStore) : StakingStore :=
  let existing := store.treasureDeposit.get ⟨chainId, user, depositId⟩
  let previous := (existing.map (·.amount)).getD 0
  let next := previous + delta
  { store with
    treasureDeposit := store.treasureDeposit.set
      { chainId := chainId
        walletAddress := user
        depositId := depositId
        amount := if next < 0 then 0 else next
        updatedAtBlock := blockNumber } }

/-- The handlers of the five events. -/
def handle (store : StakingStore) (log : StakingLog) : StakingStore :=
  match log.event with
  | .jonesDeposit pid amount => applyJonesDelta log.chainId pid log.user amount log.block store
  | .jonesWithdraw pid amount | .jonesEmergencyWithdraw pid amount =>
      applyJonesDelta log.chainId pid log.user (-amount) log.block store
  | .treasureDeposit index amount =>
      applyTreasureDelta log.chainId log.user index amount log.block store
  | .treasureWithdraw index amount =>
      applyTreasureDelta log.chainId log.user index (-amount) log.block store

/-- `treasuryWalletsForChain`. -/
def treasuryWalletsForChain (chainId : ChainId) : List String :=
  (chainConfigs chainId).protocolAddresses

/-- `buildStakingUserWhere`: the events of other users do not reach the handlers. -/
def StakingLog.isDelivered (log : StakingLog) : Bool :=
  (treasuryWalletsForChain log.chainId).contains log.user

/-- The store after the events of a run. -/
def process (logs : List StakingLog) : StakingStore :=
  (logs.filter StakingLog.isDelivered).foldl handle .empty

/-! ### The amounts that are read -/

def StakingStore.jonesAmount (store : StakingStore) (key : JonesPositionId) : ℤ :=
  ((store.jonesStakingPosition.get key).map (·.amount)).getD 0

def StakingStore.treasureAmount (store : StakingStore) (key : TreasureDepositId) : ℤ :=
  ((store.treasureDeposit.get key).map (·.amount)).getD 0

/-- What an event changes a Jones stake by, if it is about it. -/
def jonesDelta (key : JonesPositionId) (log : StakingLog) : Option ℤ :=
  match log.event with
  | .jonesDeposit pid amount => if ⟨log.chainId, pid, log.user⟩ = key then some amount else none
  | .jonesWithdraw pid amount | .jonesEmergencyWithdraw pid amount =>
      if ⟨log.chainId, pid, log.user⟩ = key then some (-amount) else none
  | .treasureDeposit .. | .treasureWithdraw .. => none

/-- What an event changes a Treasure stake by, if it is about it. -/
def treasureDelta (key : TreasureDepositId) (log : StakingLog) : Option ℤ :=
  match log.event with
  | .treasureDeposit index amount =>
      if ⟨log.chainId, log.user, index⟩ = key then some amount else none
  | .treasureWithdraw index amount =>
      if ⟨log.chainId, log.user, index⟩ = key then some (-amount) else none
  | .jonesDeposit .. | .jonesWithdraw .. | .jonesEmergencyWithdraw .. => none

/-- The changes of a Jones stake in a run. -/
def jonesDeltas (logs : List StakingLog) (key : JonesPositionId) : List ℤ :=
  (logs.filter StakingLog.isDelivered).filterMap (jonesDelta key)

/-- The changes of a Treasure stake in a run. -/
def treasureDeltas (logs : List StakingLog) (key : TreasureDepositId) : List ℤ :=
  (logs.filter StakingLog.isDelivered).filterMap (treasureDelta key)

/-! ### A step -/

/-- Storing an amount after a change. -/
theorem amount_set {V K : Type*} [DecidableEq K] {id : V → K} (table : EntityTable id)
    (amount : V → ℤ) {v : V} {delta : ℤ}
    (h : amount v = clampedAdd (((table.get (id v)).map amount).getD 0) delta) (key : K) :
    (((table.set v).get key).map amount).getD 0 =
      (if id v = key then some delta else none).elim (((table.get key).map amount).getD 0)
        (clampedAdd (((table.get key).map amount).getD 0)) := by
  by_cases heq : id v = key
  · subst heq
    rw [EntityTable.get_set_self, if_pos rfl]
    exact h
  · rw [EntityTable.get_set_of_ne _ (Ne.symm heq), if_neg heq]
    rfl

section

variable (store : StakingStore)

theorem jonesAmount_applyJonesDelta (chainId : ChainId) (poolId : ℕ) (user : String) (delta : ℤ)
    (blockNumber : ℕ) (key : JonesPositionId) :
    (applyJonesDelta chainId poolId user delta blockNumber store).jonesAmount key =
      (if ⟨chainId, poolId, user⟩ = key then some delta else none).elim (store.jonesAmount key)
        (clampedAdd (store.jonesAmount key)) :=
  amount_set store.jonesStakingPosition (·.amount) rfl key

theorem treasureAmount_applyTreasureDelta (chainId : ChainId) (user : String) (depositId : ℕ)
    (delta : ℤ) (blockNumber : ℕ) (key : TreasureDepositId) :
    (applyTreasureDelta chainId user depositId delta blockNumber store).treasureAmount key =
      (if ⟨chainId, user, depositId⟩ = key then some delta else none).elim
        (store.treasureAmount key) (clampedAdd (store.treasureAmount key)) :=
  amount_set store.treasureDeposit (·.amount) rfl key

theorem jonesAmount_handle (key : JonesPositionId) (log : StakingLog) :
    (handle store log).jonesAmount key =
      (jonesDelta key log).elim (store.jonesAmount key) (clampedAdd (store.jonesAmount key)) := by
  unfold handle jonesDelta
  cases log.event with
  | jonesDeposit pid amount | jonesWithdraw pid amount | jonesEmergencyWithdraw pid amount =>
      exact jonesAmount_applyJonesDelta store _ _ _ _ _ key
  | treasureDeposit index amount | treasureWithdraw index amount => rfl

theorem treasureAmount_handle (key : TreasureDepositId) (log : StakingLog) :
    (handle store log).treasureAmount key =
      (treasureDelta key log).elim (store.treasureAmount key)
        (clampedAdd (store.treasureAmount key)) := by
  unfold handle treasureDelta
  cases log.event with
  | jonesDeposit pid amount | jonesWithdraw pid amount | jonesEmergencyWithdraw pid amount => rfl
  | treasureDeposit index amount | treasureWithdraw index amount =>
      exact treasureAmount_applyTreasureDelta store _ _ _ _ _ key

end

/-! ### A run -/

theorem jonesAmount_process (logs : List StakingLog) (key : JonesPositionId) :
    (process logs).jonesAmount key = clampedSum 0 (jonesDeltas logs key) := by
  have hstep (store : StakingStore) (log : StakingLog) := jonesAmount_handle store key log
  exact @value_foldl ℤ _ _ _ _ handle (·.jonesAmount key) _ hstep .empty _

theorem treasureAmount_process (logs : List StakingLog) (key : TreasureDepositId) :
    (process logs).treasureAmount key = clampedSum 0 (treasureDeltas logs key) := by
  have hstep (store : StakingStore) (log : StakingLog) := treasureAmount_handle store key log
  exact @value_foldl ℤ _ _ _ _ handle (·.treasureAmount key) _ hstep .empty _

/-- An amount is what some changes add up to and the most that was ever missing, so it is their sum
where nothing was ever missing, and only there. -/
structure IsStake (deltas : List ℤ) (amount : ℤ) : Prop where
  excess : IsGreatest {x | ∃ first, first <+: deltas ∧ x = -first.sum} (amount - deltas.sum)
  exact_iff : amount = deltas.sum ↔ ∀ first, first <+: deltas → 0 ≤ first.sum

theorem isStake_clampedSum (deltas : List ℤ) : IsStake deltas (clampedSum 0 deltas) where
  excess := by
    rw [clampedSum_zero, add_sub_cancel_left]
    exact isGreatest_overdraft deltas
  exact_iff := by
    rw [clampedSum_zero, add_eq_left]
    exact overdraft_eq_zero_iff deltas

/-- After every run, each stored stake is what the wallet's events add up to, and where the events
take out more than was in, the most that they were ever over it. -/
theorem stakes_of_run (logs : List StakingLog) :
    (∀ key, IsStake (jonesDeltas logs key) ((process logs).jonesAmount key)) ∧
      ∀ key, IsStake (treasureDeltas logs key) ((process logs).treasureAmount key) := by
  constructor
  · intro key
    rw [jonesAmount_process]
    exact isStake_clampedSum _
  · intro key
    rw [treasureAmount_process]
    exact isStake_clampedSum _

end OlympusMetrics.Staking
