import OlympusMetrics.Indexer.UpdateLog

/-!
The rows of balances that a run has written, and those that it has kept.

A row is lost if a later one is stored under its id. The two rows of a Transfer of a
wallet to itself have one id, and they only agree if nothing is transferred.
-/

namespace OlympusMetrics

open EventLog

/-- The events that are handled one after the other, with all rows that they write. -/
inductive LoggedRun (start : Ledger) : List TokenEvent → List TokenBalanceUpdate → Ledger → Prop
  | nil : LoggedRun start [] [] start
  | event {es writes ledger ledger'} (e : TokenEvent) : LoggedRun start es writes ledger →
      e.apply ledger = .ok ledger' →
      LoggedRun start (es ++ [e]) (writes ++ e.updates ledger) ledger'

theorem LoggedRun.tokenRun {start ledger : Ledger} {es : List TokenEvent}
    {writes : List TokenBalanceUpdate} (run : LoggedRun start es writes ledger) :
    TokenRun start es ledger := by
  induction run with
  | nil => exact .nil
  | event e _ h ih => exact .event e ih h

theorem TokenRun.loggedRun {start ledger : Ledger} {es : List TokenEvent}
    (run : TokenRun start es ledger) : ∃ writes, LoggedRun start es writes ledger := by
  induction run with
  | nil => exact ⟨[], .nil⟩
  | event e _ h ih =>
      obtain ⟨writes, hwrites⟩ := ih
      exact ⟨_, .event e hwrites h⟩

/-- No written row is lost, and the rows of every balance lead from zero to it. -/
structure LogTelescopes (writes : List TokenBalanceUpdate) (ledger : Ledger) : Prop where
  kept : ∀ row ∈ writes, row ∈ ledger.tokenBalanceUpdate.rows
  chained : ∀ key, Chained balanceJournal 0 (rowsOf ledger.tokenBalanceUpdate key)
  last : ∀ key : TokenBalanceId, ledger.balance key.chainId key.tokenAddress key.walletAddress =
    after balanceJournal 0 (rowsOf ledger.tokenBalanceUpdate key)

/-! ### The rows of one event -/

/-- The two rows of a Transfer of nothing are one. -/
theorem transferUpdates_of_zero {event : TransferEvent} {ledger : Ledger}
    (hself : event.recipient = event.sender) (hvalue : event.value = 0) :
    ∀ row ∈ transferUpdates event ledger, row = balanceUpdate ledger
      ⟨event.chainId, event.srcAddress, event.sender⟩
      (.event event.info.block event.info.logIndex) 0 event.info.block event.info.timestamp := by
  intro row hrow
  rw [transferUpdates, hself, hvalue] at hrow
  simp only [Nat.cast_zero, neg_zero, walletUpdates] at hrow
  by_cases hwallet : (treasuryWalletsForChain event.contractEvent.chainId).contains event.sender
  · rw [if_pos hwallet, if_pos hwallet] at hrow
    rcases List.mem_append.mp hrow with hrow | hrow
    · exact List.mem_singleton.mp hrow
    · rw [List.mem_singleton.mp hrow, applyToTreasuryWallet, if_pos hwallet]
      simp [balanceUpdate, TransferEvent.contractEvent, balance_applyTransferToWalletBalance]
  · rw [if_neg hwallet, if_neg hwallet] at hrow
    cases hrow

/-- Two rows of an event have one id only if they are one row, unless a wallet transfers to itself. -/
theorem eq_of_mem_updates {e : TokenEvent} {ledger ledger' : Ledger}
    (h : e.apply ledger = .ok ledger') (hwithin : ∀ key, ¬e.IsWithin key)
    {row other : TokenBalanceUpdate} (hrow : row ∈ e.updates ledger)
    (hother : other ∈ e.updates ledger) (hid : other.id = row.id) : other = row := by
  cases e with
  | transfer event =>
      rw [TokenEvent.updates] at hrow hother
      split at hrow
      · next hhandler =>
          rw [if_pos hhandler] at hother
          by_cases hself : event.recipient = event.sender
          · by_cases hvalue : event.value = 0
            · rw [transferUpdates_of_zero hself hvalue row hrow,
                transferUpdates_of_zero hself hvalue other hother]
            · -- A row is only written of a wallet of the treasury.
              have hwallet : event.sender ∉ treasuryWalletsForChain event.chainId :=
                fun hwallet => hwithin _ ⟨hhandler, rfl, hself, hwallet, hvalue⟩
              have hcontains : (treasuryWalletsForChain event.contractEvent.chainId).contains
                  event.sender = false := by simpa [TransferEvent.contractEvent] using hwallet
              rw [transferUpdates, walletUpdates, walletUpdates, hself, hcontains] at hrow
              cases hrow
          · exact List.inj_on_of_nodup_map (nodup_transferUpdates ledger hself) hother hrow hid
      · cases hrow
  | wallet handler event holder amount =>
      rw [TokenEvent.updates] at hrow hother
      split at hrow
      · next hcontract =>
          rw [if_pos hcontract] at hother
          rw [walletUpdates] at hrow hother
          split at hrow
          · next hwallet =>
              rw [if_pos hwallet] at hother
              rw [List.mem_singleton.mp hrow, List.mem_singleton.mp hother]
          · cases hrow
      · cases hrow
  | backfill effects chainId block =>
      obtain ⟨-, hnodup, -⟩ := rows_onBackfillBlock h
      exact List.inj_on_of_nodup_map hnodup hother hrow hid

/-- A new event keeps the stored rows and stores its own, unless a wallet transfers to itself. -/
theorem stays_apply {e : TokenEvent} {ledger ledger' : Ledger} (h : e.apply ledger = .ok ledger')
    (hguards : SentinelGuards ledger) (hnew : e.IsNew ledger) (hwithin : ∀ key, ¬e.IsWithin key)
    {row : TokenBalanceUpdate}
    (hrow : row ∈ ledger.tokenBalanceUpdate.rows ∨ row ∈ e.updates ledger) :
    row ∈ ledger'.tokenBalanceUpdate.rows := by
  refine (rows_apply h).1.stays (fun written hwritten other hother hid => ?_) hrow
  rcases hother with hother | hother
  · exact absurd hid (updates_fresh h hguards hnew written hwritten other hother)
  · exact eq_of_mem_updates h hwithin hwritten hother hid

/-! ### Runs -/

theorem kept_of_run {es : List TokenEvent} {writes : List TokenBalanceUpdate} {ledger : Ledger}
    (run : LoggedRun Ledger.empty es writes ledger) (hown : OwnPositions es)
    (hwithin : ∀ e ∈ es, ∀ key, ¬e.IsWithin key) :
    ∀ row ∈ writes, row ∈ ledger.tokenBalanceUpdate.rows := by
  induction run with
  | nil => exact fun _ h => (by cases h)
  | @event es writes ledger ledger' e run h ih =>
      have hbefore := ih (List.pairwise_append.mp hown).1
        (fun e' he' => hwithin e' (List.mem_append_left _ he'))
      have inv := logInvariant_of_run run.tokenRun
      intro row hrow
      refine stays_apply h inv.guards (isNew_of_ownPositions inv hown) (hwithin e (by simp)) ?_
      exact (List.mem_append.mp hrow).imp_left (hbefore row)

/-- The log of a run telescopes exactly if no wallet of the treasury has transferred to itself. -/
theorem logTelescopes_iff {es : List TokenEvent} {writes : List TokenBalanceUpdate} {ledger : Ledger}
    (run : LoggedRun Ledger.empty es writes ledger) (hown : OwnPositions es) :
    LogTelescopes writes ledger ↔ ∀ e ∈ es, ∀ key, ¬e.IsWithin key := by
  have hchained := chained_of_run_iff run.tokenRun hown
  constructor
  · intro h e he key
    exact (hchained key).mp (h.chained key) e he
  · intro hwithin
    refine ⟨kept_of_run run hown hwithin, fun key => ?_, fun key => ?_⟩
    · exact (hchained key).mpr (fun e he => hwithin e he key)
    · exact (logInvariant_of_run run.tokenRun).balances key

theorem logTelescopes_twoChains : ∃ writes ledger, LoggedRun Ledger.empty twoChains writes ledger ∧
    LogTelescopes writes ledger := by
  obtain ⟨ledger, run⟩ := exists_run Ledger.empty
    (fun e he => isDue_twoChains e (List.mem_append_left _ he))
  obtain ⟨writes, hrun⟩ := run.loggedRun
  have hown : OwnPositions twoChains := (List.pairwise_append.mp ownPositions_twoChains).1
  refine ⟨writes, ledger, hrun, (logTelescopes_iff hrun hown).mpr ?_⟩
  simp [twoChains, seedEvent, wrapEvent, mintEvent, sendEvent, burnEvent, TokenEvent.IsWithin,
    TransferEvent.IsWithin, arbitrumWallet, outsideAddress, zeroAddress]

/-- A wallet that has wrapped five wei sends three of them to itself: the row of the sending is lost,
and the row that takes its place adds three to five and says five. -/
theorem withinEvent_breaks_log : ∃ writes ledger,
    LoggedRun Ledger.empty [wrapEvent, withinEvent] writes ledger ∧
      OwnPositions [wrapEvent, withinEvent] ∧ ¬LogTelescopes writes ledger ∧
      writes.map (fun row => (row.delta, row.balance)) = [(5, 5), (-3, 2), (3, 5)] ∧
      ledger.tokenBalanceUpdate.rows.map (fun row => (row.delta, row.balance)) =
        [(5, 5), (3, 5)] := by
  have hwrap := LoggedRun.event wrapEvent (@LoggedRun.nil Ledger.empty) rfl
  have hrun := hwrap.event withinEvent rfl
  have hown : OwnPositions [wrapEvent, withinEvent] := by
    unfold OwnPositions
    decide
  refine ⟨_, _, hrun, hown, fun h => ?_, by decide +kernel, by decide +kernel⟩
  have hwithin : withinEvent.IsWithin ⟨.arbitrum, arbitrumWeth, arbitrumWallet⟩ :=
    ⟨by decide, rfl, rfl, by decide, by decide⟩
  have hchained := h.chained ⟨.arbitrum, arbitrumWeth, arbitrumWallet⟩
  exact (chained_of_run_iff hrun.tokenRun hown _).mp hchained withinEvent (by simp) hwithin

end OlympusMetrics
