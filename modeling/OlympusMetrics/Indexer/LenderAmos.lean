import OlympusMetrics.Indexer.Erc20Transfers
import Mathlib.Algebra.BigOperators.Group.List.Basic
import Mathlib.Algebra.Order.Ring.Int
import Mathlib.Data.List.Induction
import Mathlib.Data.List.Infix

/-!
The OHM deployed by lending AMOs: kept by the lender's events and by the mints
and burns of OHM, which may arrive in any order.
-/

namespace OlympusMetrics

/-- What `AMOAdded` and `AMORemoved` store: the deployed OHM is preserved. -/
def setAmoActive (active : Bool) (chainId : ChainId) (amo : String) (block : ℕ) (ledger : Ledger) :
    Ledger :=
  let existing := ledger.lenderAmo.get (chainId, amo)
  { ledger with
    lenderAmo := ledger.lenderAmo.set
      { chainId := chainId
        amoAddress := amo
        active := active
        deployedOhm := (existing.map (·.deployedOhm)).getD 0
        updatedAtBlock := block } }

/-- The `AMOAdded` handler. -/
def handleAmoAdded : ChainId → String → ℕ → Ledger → Ledger := setAmoActive true

/-- The `AMORemoved` handler. -/
def handleAmoRemoved : ChainId → String → ℕ → Ledger → Ledger := setAmoActive false

/-- The events that reach the lending state. -/
inductive LenderEvent
  | amoAdded (chainId : ChainId) (amo : String) (block : ℕ)
  | amoRemoved (chainId : ChainId) (amo : String) (block : ℕ)
  | transfer (event : TransferEvent)

def Ledger.handleLender (ledger : Ledger) : LenderEvent → Ledger
  | .amoAdded chainId amo block => handleAmoAdded chainId amo block ledger
  | .amoRemoved chainId amo block => handleAmoRemoved chainId amo block ledger
  | .transfer event => onTransfer event ledger

/-- The ledger after a history of events. -/
def Ledger.after (history : List LenderEvent) : Ledger :=
  history.foldl Ledger.handleLender .empty

@[simp] theorem Ledger.after_concat (history : List LenderEvent) (event : LenderEvent) :
    Ledger.after (history ++ [event]) = (Ledger.after history).handleLender event := by
  simp [Ledger.after]

/-! ### What a history mints and burns -/

section amo

variable (chainId : ChainId) (amo : String)

/-- What an OHM Transfer mints to an AMO, less what it burns from it. -/
def TransferEvent.minted (event : TransferEvent) : ℤ :=
  if event.chainId = chainId then
    (if event.sender = zeroAddress ∧ event.recipient = amo then event.value else 0) -
      (if event.recipient = zeroAddress ∧ event.sender = amo then event.value else 0)
  else 0

/-- What an event mints to an AMO: only the contracts of OHM count. -/
def LenderEvent.minted : LenderEvent → ℤ
  | .amoAdded .. | .amoRemoved .. => 0
  | .transfer event =>
      if transferHandlerOf event.chainId event.srcAddress = some .ohm then
        event.minted chainId amo
      else 0

/-- The OHM minted to an AMO over a history, less the OHM burned from it. -/
def netMinted (history : List LenderEvent) : ℤ :=
  (history.map (LenderEvent.minted chainId amo)).sum

/-- No burn exceeds what was minted so far. -/
def BurnsCovered (history : List LenderEvent) : Prop :=
  ∀ earlier, earlier <+: history → 0 ≤ netMinted chainId amo earlier

/-- The lender names the AMO. -/
def LenderEvent.Registers : LenderEvent → Prop
  | .amoAdded c a _ | .amoRemoved c a _ => (chainId, amo) = (c, a)
  | .transfer _ => False

/-- The lender has named the AMO. -/
def Registered (history : List LenderEvent) : Prop :=
  ∃ event ∈ history, event.Registers chainId amo

/-- The deployed OHM stored for an AMO, if it is stored. -/
def Ledger.deployedOhm (ledger : Ledger) : Option ℤ :=
  (ledger.lenderAmo.get (chainId, amo)).map (·.deployedOhm)

@[simp] theorem netMinted_concat (history : List LenderEvent) (event : LenderEvent) :
    netMinted chainId amo (history ++ [event]) =
      netMinted chainId amo history + event.minted chainId amo := by
  simp [netMinted]

end amo

variable {chainId : ChainId} {amo : String}

/-! ### What one event does to a stored AMO -/

section step

variable (chainId amo) (ledger : Ledger)

theorem deployedOhm_setAmoActive (active : Bool) (c : ChainId) (a : String) (block : ℕ) :
    (setAmoActive active c a block ledger).deployedOhm chainId amo =
      if (chainId, amo) = (c, a) then some ((ledger.deployedOhm chainId amo).getD 0)
      else ledger.deployedOhm chainId amo := by
  unfold Ledger.deployedOhm setAmoActive
  rw [EntityTable.get_set]
  by_cases h : (chainId, amo) = (c, a)
  · rw [← h]
    simp [LenderAmo.id, h]
  · simp [LenderAmo.id, h]

theorem deployedOhm_applyDeployedOhmDelta (c : ChainId) (a : String) (delta : ℤ) (block : ℕ) :
    (applyDeployedOhmDelta c a delta block ledger).deployedOhm chainId amo =
      if (chainId, amo) = (c, a) then
        (ledger.deployedOhm chainId amo).map (fun stored => max 0 (stored + delta))
      else ledger.deployedOhm chainId amo := by
  unfold Ledger.deployedOhm applyDeployedOhmDelta
  split
  · next hnone =>
      split
      · next heq => simp [heq, hnone]
      · rfl
  · next existing hget =>
      have hid : (existing.chainId, existing.amoAddress) = (c, a) :=
        (EntityTable.get_eq_some_iff.mp hget).2
      rw [EntityTable.get_set]
      simp only [LenderAmo.id, hid]
      split
      · next heq =>
          have hmax (n : ℤ) : (if n < 0 then 0 else n) = max 0 n := by
            rw [max_def]
            split <;> split <;> omega
          simp [heq, hget, hmax]
      · rfl

/-- One side of an OHM Transfer: the zero address mints or burns, a treasury wallet changes its
balance. -/
theorem deployedOhm_side (wallets : List String) (c : ChainId) (token side other : String)
    (delta change : ℤ) (info : EventMeta) :
    (if side = zeroAddress then
        applyDeployedOhmDelta c other delta info.block
          (applyMintBurnToSupply c token delta info ledger)
      else if wallets.contains side then
        applyTransferToWalletBalance c token side change info ledger
      else ledger).deployedOhm chainId amo =
      if side = zeroAddress ∧ (chainId, amo) = (c, other) then
        (ledger.deployedOhm chainId amo).map (fun stored => max 0 (stored + delta))
      else ledger.deployedOhm chainId amo := by
  by_cases hside : side = zeroAddress
  · rw [if_pos hside, deployedOhm_applyDeployedOhmDelta]
    simp only [hside, true_and]
    rfl
  · simp only [hside, if_false, false_and]
    split <;> rfl

/-- A mint to an AMO or a burn from it reaches a stored AMO. -/
theorem deployedOhm_handleOhmTransfer (event : TransferEvent)
    (h : ∀ stored, ledger.deployedOhm chainId amo = some stored → 0 ≤ stored) :
    (handleOhmTransfer event ledger).deployedOhm chainId amo =
      (ledger.deployedOhm chainId amo).map
        (fun stored => max 0 (stored + event.minted chainId amo)) := by
  unfold handleOhmTransfer
  dsimp only
  rw [deployedOhm_side, deployedOhm_side]
  cases hstored : ledger.deployedOhm chainId amo with
  | none => simp
  | some stored =>
      have hnonneg := h stored hstored
      simp only [Option.map_some, Prod.mk.injEq, TransferEvent.minted]
      grind

theorem deployedOhm_handleTreasuryTransfer (event : TransferEvent) :
    (handleTreasuryTransfer event ledger).deployedOhm chainId amo =
      ledger.deployedOhm chainId amo := by
  unfold handleTreasuryTransfer
  dsimp only
  split <;> split <;> rfl

theorem deployedOhm_handleLpTransfer (event : TransferEvent) :
    (handleLpTransfer event ledger).deployedOhm chainId amo = ledger.deployedOhm chainId amo := by
  unfold handleLpTransfer
  dsimp only
  split <;> split <;> (try split) <;> (try split) <;> rfl

/-- The filter of the OHM handler lets every mint and burn through. -/
theorem minted_of_filtered {event : TransferEvent} (h : buildLpTransferWhere event = false) :
    event.minted chainId amo = 0 := by
  have hwallets : (treasuryWalletsForChain event.chainId).isEmpty = false := by
    cases event.chainId <;> decide
  simp only [buildLpTransferWhere, hwallets, Bool.not_false, Bool.true_and, Bool.or_eq_false_iff,
    beq_eq_false_iff_ne] at h
  simp [TransferEvent.minted, h.1.2, h.2]

/-- A delivered event leaves an AMO that is not stored alone, and changes the deployed OHM of a
stored one by what it mints, but not below zero. -/
theorem deployedOhm_onTransfer (event : TransferEvent)
    (h : ∀ stored, ledger.deployedOhm chainId amo = some stored → 0 ≤ stored) :
    (onTransfer event ledger).deployedOhm chainId amo =
      (ledger.deployedOhm chainId amo).map
        (fun stored => max 0 (stored + (LenderEvent.transfer event).minted chainId amo)) := by
  have hsame : ledger.deployedOhm chainId amo =
      (ledger.deployedOhm chainId amo).map (fun stored => max 0 (stored + 0)) := by
    cases hstored : ledger.deployedOhm chainId amo with
    | none => rfl
    | some stored => simp [h stored hstored]
  by_cases hohm : transferHandlerOf event.chainId event.srcAddress = some .ohm
  · have hminted : (LenderEvent.transfer event).minted chainId amo = event.minted chainId amo :=
      if_pos hohm
    rw [hminted]
    simp only [onTransfer, hohm]
    split
    · exact deployedOhm_handleOhmTransfer chainId amo ledger event h
    · next hfilter =>
        rw [minted_of_filtered chainId amo (Bool.eq_false_iff.mpr hfilter)]
        exact hsame
  · have hminted : (LenderEvent.transfer event).minted chainId amo = 0 := if_neg hohm
    rw [hminted, ← hsame]
    unfold onTransfer
    split
    · rfl
    · next handler hhandler =>
        split
        · cases handler with
          | treasury => exact deployedOhm_handleTreasuryTransfer chainId amo ledger event
          | ohm => exact absurd hhandler hohm
          | lp => exact deployedOhm_handleLpTransfer chainId amo ledger event
        · rfl

/-- An event of the lender stores the AMO that it names. -/
theorem deployedOhm_of_registers {event : LenderEvent} (h : event.Registers chainId amo) :
    (ledger.handleLender event).deployedOhm chainId amo =
      some ((ledger.deployedOhm chainId amo).getD 0) := by
  cases event with
  | amoAdded c a block => exact (deployedOhm_setAmoActive ..).trans (if_pos h)
  | amoRemoved c a block => exact (deployedOhm_setAmoActive ..).trans (if_pos h)
  | transfer event => exact absurd h id

/-- No other event stores an AMO. -/
theorem deployedOhm_of_not_registers {event : LenderEvent} (h : ¬ event.Registers chainId amo)
    (hnonneg : ∀ stored, ledger.deployedOhm chainId amo = some stored → 0 ≤ stored) :
    (ledger.handleLender event).deployedOhm chainId amo =
      (ledger.deployedOhm chainId amo).map
        (fun stored => max 0 (stored + event.minted chainId amo)) := by
  have hsame : ledger.deployedOhm chainId amo =
      (ledger.deployedOhm chainId amo).map (fun stored => max 0 (stored + 0)) := by
    cases hstored : ledger.deployedOhm chainId amo with
    | none => rfl
    | some stored => simp [hnonneg stored hstored]
  cases event with
  | amoAdded c a block =>
      exact ((deployedOhm_setAmoActive ..).trans (if_neg h)).trans hsame
  | amoRemoved c a block =>
      exact ((deployedOhm_setAmoActive ..).trans (if_neg h)).trans hsame
  | transfer event => exact deployedOhm_onTransfer chainId amo ledger event hnonneg

end step

/-! ### What the stored amount lacks -/

theorem registered_concat (history : List LenderEvent) (event : LenderEvent) :
    Registered chainId amo (history ++ [event]) ↔
      Registered chainId amo history ∨ event.Registers chainId amo := by
  simp [Registered, or_and_right, exists_or]

theorem Registered.of_prefix {earlier history : List LenderEvent}
    (h : Registered chainId amo earlier) (hbefore : earlier <+: history) :
    Registered chainId amo history := by
  obtain ⟨event, hmem, hregisters⟩ := h
  exact ⟨event, hbefore.subset hmem, hregisters⟩

/-- The stored amount lags behind the net minted one by the least that the net amount has been
since the AMO was registered. -/
structure LagsByLeast (chainId : ChainId) (amo : String) (history : List LenderEvent)
    (stored : ℤ) : Prop where
  nonneg : 0 ≤ stored
  attained : ∃ earlier, earlier <+: history ∧ Registered chainId amo earlier ∧
    netMinted chainId amo history - stored = netMinted chainId amo earlier
  least : ∀ earlier, earlier <+: history → Registered chainId amo earlier →
    netMinted chainId amo history - stored ≤ netMinted chainId amo earlier

/-- An AMO is stored once it is registered. -/
def TracksAmo (chainId : ChainId) (amo : String) (history : List LenderEvent) :
    Option ℤ → Prop
  | none => ¬ Registered chainId amo history
  | some stored => Registered chainId amo history ∧ LagsByLeast chainId amo history stored

theorem TracksAmo.nonneg {history : List LenderEvent} {stored : Option ℤ}
    (h : TracksAmo chainId amo history stored) : ∀ n, stored = some n → 0 ≤ n := by
  rintro n rfl
  exact h.2.nonneg

/-- A registered AMO's amount changes with the net amount, unless it would fall below zero. -/
theorem LagsByLeast.step {history : List LenderEvent} {stored : ℤ} (event : LenderEvent)
    (hregistered : Registered chainId amo history)
    (h : LagsByLeast chainId amo history stored) :
    LagsByLeast chainId amo (history ++ [event])
      (max 0 (stored + event.minted chainId amo)) := by
  have hleast := h.least
  have hwhole : Registered chainId amo (history ++ [event]) :=
    (registered_concat history event).mpr (Or.inl hregistered)
  refine ⟨le_max_left _ _, ?_, ?_⟩
  · rcases le_total 0 (stored + event.minted chainId amo) with hle | hle
    · obtain ⟨earlier, hbefore, hearlier, heq⟩ := h.attained
      refine ⟨earlier, hbefore.trans (List.prefix_append _ _), hearlier, ?_⟩
      rw [max_eq_right hle, netMinted_concat]
      omega
    · refine ⟨history ++ [event], List.prefix_refl _, hwhole, ?_⟩
      rw [max_eq_left hle, sub_zero]
  · intro earlier hbefore hearlier
    rw [netMinted_concat]
    rcases List.prefix_concat_iff.mp hbefore with rfl | hbefore
    · rw [netMinted_concat]
      omega
    · have hbound := hleast earlier hbefore hearlier
      omega

theorem tracksAmo_concat {history : List LenderEvent} (event : LenderEvent)
    (h : TracksAmo chainId amo history ((Ledger.after history).deployedOhm chainId amo)) :
    TracksAmo chainId amo (history ++ [event])
      ((Ledger.after (history ++ [event])).deployedOhm chainId amo) := by
  have hnonneg := h.nonneg
  rw [Ledger.after_concat]
  by_cases hregisters : event.Registers chainId amo
  · have hwhole : Registered chainId amo (history ++ [event]) :=
      (registered_concat history event).mpr (Or.inr hregisters)
    have hminted : event.minted chainId amo = 0 := by
      cases event with
      | transfer event => exact absurd hregisters id
      | amoAdded | amoRemoved => rfl
    rw [deployedOhm_of_registers _ _ _ hregisters]
    cases hstored : (Ledger.after history).deployedOhm chainId amo with
    | none =>
        rw [hstored] at h
        refine ⟨hwhole, le_refl 0, ⟨_, List.prefix_refl _, hwhole, sub_zero _⟩, ?_⟩
        -- The event is the first that names the AMO.
        intro earlier hbefore hearlier
        rcases List.prefix_concat_iff.mp hbefore with rfl | hbefore
        · exact (sub_zero _).le
        · exact absurd (hearlier.of_prefix hbefore) h
    | some stored =>
        rw [hstored] at h
        have hstep := h.2.step event h.1
        rw [hminted, add_zero, max_eq_right h.2.nonneg] at hstep
        exact ⟨hwhole, hstep⟩
  · rw [deployedOhm_of_not_registers _ _ _ hregisters hnonneg]
    cases hstored : (Ledger.after history).deployedOhm chainId amo with
    | none =>
        rw [hstored] at h
        exact fun hwhole => ((registered_concat history event).mp hwhole).elim h hregisters
    | some stored =>
        rw [hstored] at h
        exact ⟨(registered_concat history event).mpr (Or.inl h.1), h.2.step event h.1⟩

theorem tracksAmo_after (history : List LenderEvent) :
    TracksAmo chainId amo history ((Ledger.after history).deployedOhm chainId amo) := by
  induction history using List.reverseRecOn with
  | nil => exact fun ⟨_, hmem, _⟩ => absurd hmem List.not_mem_nil
  | append_singleton history event ih => exact tracksAmo_concat event ih

/-- The lender has added the AMO. -/
def Added (chainId : ChainId) (amo : String) (history : List LenderEvent) : Prop :=
  ∃ block, .amoAdded chainId amo block ∈ history

theorem Added.registered {history : List LenderEvent} (h : Added chainId amo history) :
    Registered chainId amo history := by
  obtain ⟨block, hmem⟩ := h
  exact ⟨_, hmem, rfl⟩

/-- The deployed OHM of an added AMO is what was minted to it less what was burned exactly if that
was zero at some time since the AMO was registered. -/
theorem deployedOhm_eq_netMinted_iff (chainId : ChainId) (amo : String)
    (history : List LenderEvent) (hburns : BurnsCovered chainId amo history)
    (hadded : Added chainId amo history) :
    (Ledger.after history).deployedOhm chainId amo = some (netMinted chainId amo history) ↔
      ∃ earlier, earlier <+: history ∧ Registered chainId amo earlier ∧
        netMinted chainId amo earlier = 0 := by
  have htracks := @tracksAmo_after chainId amo history
  cases hstored : (Ledger.after history).deployedOhm chainId amo with
  | none =>
      rw [hstored] at htracks
      exact absurd hadded.registered htracks
  | some stored =>
      rw [hstored] at htracks
      obtain ⟨-, hlags⟩ := htracks
      obtain ⟨earlier, hbefore, hearlier, heq⟩ := hlags.attained
      rw [Option.some.injEq]
      constructor
      · rintro rfl
        exact ⟨earlier, hbefore, hearlier, by omega⟩
      · rintro ⟨zero, hzeroPrefix, hzeroRegistered, hzero⟩
        have hle := hlags.least zero hzeroPrefix hzeroRegistered
        have hge := hburns earlier hbefore
        omega

instance (chainId : ChainId) (amo : String) (history : List LenderEvent) :
    Decidable (BurnsCovered chainId amo history) :=
  decidable_of_iff (∀ earlier ∈ history.inits, 0 ≤ netMinted chainId amo earlier)
    (by simp only [BurnsCovered, List.mem_inits])

/-! ### An AMO on Arbitrum -/

def arbitrumOhm : String := "0xf0cb2dc0db5e6c66b9a70ac27b06b878da017028"

def mintTo (amo : String) (value block : ℕ) : LenderEvent :=
  .transfer
    { chainId := .arbitrum
      srcAddress := arbitrumOhm
      info := { block := block, timestamp := 0, logIndex := 0 }
      sender := zeroAddress
      recipient := amo
      value := value }

def burnFrom (amo : String) (value block : ℕ) : LenderEvent :=
  .transfer
    { chainId := .arbitrum
      srcAddress := arbitrumOhm
      info := { block := block, timestamp := 0, logIndex := 0 }
      sender := amo
      recipient := zeroAddress
      value := value }

theorem deployedOhm_eq_netMinted_added_first :
    BurnsCovered .arbitrum "amo"
        [.amoAdded .arbitrum "amo" 1, mintTo "amo" 100 2, burnFrom "amo" 40 3] ∧
      ((Ledger.after [.amoAdded .arbitrum "amo" 1, mintTo "amo" 100 2,
        burnFrom "amo" 40 3]).deployedOhm .arbitrum "amo" = some 60) := by
  have hburns : BurnsCovered .arbitrum "amo"
      [.amoAdded .arbitrum "amo" 1, mintTo "amo" 100 2, burnFrom "amo" 40 3] := by
    decide +kernel
  have hadded : Added .arbitrum "amo"
      [.amoAdded .arbitrum "amo" 1, mintTo "amo" 100 2, burnFrom "amo" 40 3] :=
    ⟨1, List.mem_cons_self⟩
  refine ⟨hburns, ?_⟩
  have hnet := (deployedOhm_eq_netMinted_iff .arbitrum "amo" _ hburns hadded).mpr
    ⟨[.amoAdded .arbitrum "amo" 1], by simp, ⟨_, List.mem_cons_self, rfl⟩, rfl⟩
  rw [hnet]
  decide +kernel

/-- OHM minted to an AMO before it is added is never counted. -/
theorem minted_before_added_lost :
    BurnsCovered .arbitrum "amo" [mintTo "amo" 100 1, .amoAdded .arbitrum "amo" 2] ∧
      Added .arbitrum "amo" [mintTo "amo" 100 1, .amoAdded .arbitrum "amo" 2] ∧
      (Ledger.after [mintTo "amo" 100 1, .amoAdded .arbitrum "amo" 2]).deployedOhm .arbitrum
        "amo" = some 0 ∧
      netMinted .arbitrum "amo" [mintTo "amo" 100 1, .amoAdded .arbitrum "amo" 2] = 100 := by
  refine ⟨by decide +kernel, ⟨2, by simp⟩, by decide +kernel, by decide +kernel⟩

end OlympusMetrics
