import OlympusMetrics.Chains.Ethereum
import OlympusMetrics.Indexer.GnosisAuctions
import Mathlib.Algebra.BigOperators.Ring.List

/-!
The bond supply rows against the bond manager's balance: which auctions and
balances leave the rows of the vested auctions a share of what the vesting ones
do not claim.
-/

namespace OlympusMetrics

open BigNumber

/-! ### Auctions as the events leave them -/

/-- A finite amount that is not negative. -/
def IsAmount (x : BigNumber) : Prop := ∃ q : ℚ, 0 ≤ q ∧ x = .finite q

/-- The quantities of an auction are amounts, and a bid comes with the time of the close. -/
structure GnosisAuction.Valid (auction : GnosisAuction) : Prop where
  payout : IsAmount auction.payoutCapacity
  bid : ∀ bidQuantity, auction.bidQuantity = some bidQuantity → IsAmount bidQuantity
  closed : auction.bidQuantity.isSome → auction.auctionCloseTimestamp.isSome

/-- A raw quantity of OHM is stored as it is. -/
theorem toDecimal_bond (n : ℤ) : toDecimal n bondOhmDecimals = .finite (n / 10 ^ 9) := by
  have hten : (10 : ℚ) ^ bondOhmDecimals ≠ 0 := by positivity
  have hplaces : ((n : ℚ) / 10 ^ bondOhmDecimals) * 10 ^ decimalPlaces = ((n * 10 ^ 11 : ℤ) : ℚ) := by
    rw [div_mul_eq_mul_div, div_eq_iff hten]
    push_cast [bondOhmDecimals, decimalPlaces]
    ring
  simp only [toDecimal, ofInt, BigNumber.div, if_neg hten]
  rw [roundHalfUp_eq_self hplaces]
  rfl

theorem isAmount_toDecimal_bond (n : ℕ) : IsAmount (toDecimal n bondOhmDecimals).toString10 := by
  rw [toDecimal_bond, toString10]
  exact ⟨_, roundHalfUp_nonneg (by positivity), rfl⟩

theorem valid_apply {store : AuctionStore} {event : AuctionEvent}
    (h : ∀ auction ∈ store.gnosisAuction.rows, auction.Valid) :
    ∀ auction ∈ (store.apply event).gnosisAuction.rows, auction.Valid := by
  intro auction hmem
  cases event with
  | launched event =>
      rcases EntityTable.mem_rows_set.mp hmem with rfl | ⟨hmem, -⟩
      · refine ⟨isAmount_toDecimal_bond event.capacity, ?_, ?_⟩
        · intro bidQuantity hbid
          cases hbid
        · intro hbid
          cases hbid
      · exact h auction hmem
  | cleared event =>
      simp only [AuctionStore.apply, applyAuctionCleared] at hmem
      split at hmem
      · exact h auction hmem
      · next record hget =>
          rcases EntityTable.mem_rows_set.mp hmem with rfl | ⟨hmem, -⟩
          · refine ⟨(h record (EntityTable.get_eq_some_iff.mp hget).1).payout, ?_, fun _ => rfl⟩
            intro bidQuantity hbid
            rw [← Option.some.inj hbid]
            exact isAmount_toDecimal_bond event.soldBiddingTokens
          · exact h auction hmem

/-- Every auction that the events leave stored is valid. -/
theorem valid_applyAll (events : List AuctionEvent) :
    ∀ auction ∈ (AuctionStore.empty.applyAll events).gnosisAuction.rows, auction.Valid := by
  have hrun (store : AuctionStore) (h : ∀ auction ∈ store.gnosisAuction.rows, auction.Valid) :
      ∀ auction ∈ (store.applyAll events).gnosisAuction.rows, auction.Valid := by
    induction events generalizing store with
    | nil => exact h
    | cons event events ih => exact ih _ (valid_apply h)
  exact hrun _ (fun _ hmem => nomatch hmem)

/-! ### Phases -/

inductive BondPhase
  | bidding | vesting | vested
  deriving DecidableEq

def GnosisAuction.phase (timestamp : ℕ) (auction : GnosisAuction) : BondPhase :=
  if auction.bidQuantity.isNone then .bidding
  else if timestamp < auction.auctionCloseTimestamp.getD 0 + auction.termSeconds then .vesting
  else .vested

/-- The types of the rows that an auction adds in a phase. -/
def BondPhase.rowTypes : BondPhase → List String
  | .bidding => [typeBondsPreminted]
  | .vesting => [typeBondsVestingDeposits, typeBondsVestingTokens]
  | .vested => [typeBondsDeposits]

/-- The number behind a finite amount. -/
def amount : BigNumber → ℚ
  | .finite q => q
  | _ => 0

@[simp] theorem amount_finite (q : ℚ) : amount (.finite q) = q := rfl

theorem IsAmount.eq {x : BigNumber} (h : IsAmount x) : x = .finite (amount x) := by
  obtain ⟨q, -, rfl⟩ := h
  rfl

theorem IsAmount.nonneg {x : BigNumber} (h : IsAmount x) : 0 ≤ amount x := by
  obtain ⟨q, hq, rfl⟩ := h
  exact hq

def GnosisAuction.bidAmount (auction : GnosisAuction) : ℚ := amount (auction.bidQuantity.getD 0)

/-- The auctions of a phase. -/
def inPhase (timestamp : ℕ) (phase : BondPhase) (auctions : List GnosisAuction) :
    List GnosisAuction :=
  auctions.filter (fun auction => auction.phase timestamp = phase)

/-- The bids of the auctions of a phase. -/
def bidsIn (timestamp : ℕ) (phase : BondPhase) (auctions : List GnosisAuction) : ℚ :=
  ((inPhase timestamp phase auctions).map GnosisAuction.bidAmount).sum

section passes

variable {timestamp : ℕ} {auction : GnosisAuction}

/-- What a valid auction of each phase stores. -/
theorem GnosisAuction.Valid.phase_cases (h : auction.Valid) (timestamp : ℕ) :
    (auction.phase timestamp = .bidding ∧ auction.bidQuantity = none) ∨
    (∃ closeTimestamp, auction.phase timestamp = .vesting ∧
      auction.bidQuantity = some (.finite auction.bidAmount) ∧
      auction.auctionCloseTimestamp = some closeTimestamp ∧
      timestamp < closeTimestamp + auction.termSeconds) ∨
    (∃ closeTimestamp, auction.phase timestamp = .vested ∧
      auction.bidQuantity = some (.finite auction.bidAmount) ∧
      auction.auctionCloseTimestamp = some closeTimestamp ∧
      ¬ timestamp < closeTimestamp + auction.termSeconds) := by
  cases hbid : auction.bidQuantity with
  | none => simp [GnosisAuction.phase, hbid]
  | some bidQuantity =>
      obtain ⟨closeTimestamp, hclose⟩ := Option.isSome_iff_exists.mp (h.closed (by simp [hbid]))
      have hamount : bidQuantity = .finite auction.bidAmount := by
        simpa [GnosisAuction.bidAmount, hbid] using (h.bid bidQuantity hbid).eq
      rw [← hamount]
      by_cases hlt : timestamp < closeTimestamp + auction.termSeconds
      · simp [GnosisAuction.phase, hbid, hclose, hlt]
      · simpa [GnosisAuction.phase, hbid, hclose, hlt] using not_lt.mp hlt

theorem GnosisAuction.Valid.bidAmount_nonneg (h : auction.Valid) : 0 ≤ auction.bidAmount := by
  cases hbid : auction.bidQuantity with
  | none => simp [GnosisAuction.bidAmount, hbid, zero_def]
  | some bidQuantity => simpa [GnosisAuction.bidAmount, hbid] using (h.bid bidQuantity hbid).nonneg

theorem bidsIn_cons (phase : BondPhase) (auctions : List GnosisAuction) :
    bidsIn timestamp phase (auction :: auctions) =
      (if auction.phase timestamp = phase then auction.bidAmount else 0) +
        bidsIn timestamp phase auctions := by
  by_cases h : auction.phase timestamp = phase <;> simp [bidsIn, inPhase, h]

theorem bidsIn_nonneg {auctions : List GnosisAuction} (h : ∀ auction ∈ auctions, auction.Valid)
    (phase : BondPhase) : 0 ≤ bidsIn timestamp phase auctions := by
  apply List.sum_nonneg
  intro q hq
  obtain ⟨auction, hmem, rfl⟩ := List.mem_map.mp hq
  exact (h auction (List.mem_filter.mp hmem).1).bidAmount_nonneg

theorem add_eq (h : auction.Valid) (burnable unallocated : ℚ) :
    BurnTotals.add timestamp ⟨.finite burnable, .finite unallocated⟩ auction =
      ⟨.finite (burnable + if auction.phase timestamp = .vested then auction.bidAmount else 0),
        .finite (unallocated -
          if auction.phase timestamp = .vesting then auction.bidAmount else 0)⟩ := by
  rcases h.phase_cases timestamp with ⟨hphase, hbid⟩ | ⟨closeTimestamp, hphase, hbid, hclose, hlt⟩ |
    ⟨closeTimestamp, hphase, hbid, hclose, hlt⟩
  · simp [BurnTotals.add, hphase, hbid]
  · simp [BurnTotals.add, hphase, hbid, hclose, hlt, minus, neg, sub_eq_add_neg]
  · simp [BurnTotals.add, hphase, hbid, hclose, hlt]

/-- The first pass sums the bids of the vested auctions and takes those of the vesting ones off the
balance. -/
theorem burnTotals_eq {auctions : List GnosisAuction} (h : ∀ auction ∈ auctions, auction.Valid)
    (timestamp : ℕ) (balance : ℚ) : burnTotals timestamp (.finite balance) auctions =
      ⟨.finite (bidsIn timestamp .vested auctions),
        .finite (balance - bidsIn timestamp .vesting auctions)⟩ := by
  have hfold (burnable unallocated : ℚ) :
      auctions.foldl (BurnTotals.add timestamp) ⟨.finite burnable, .finite unallocated⟩ =
        ⟨.finite (burnable + bidsIn timestamp .vested auctions),
          .finite (unallocated - bidsIn timestamp .vesting auctions)⟩ := by
    induction auctions generalizing burnable unallocated with
    | nil => simp [bidsIn, inPhase]
    | cons auction auctions ih =>
        rw [List.foldl_cons, add_eq (h auction List.mem_cons_self),
          ih (fun auction hmem => h auction (List.mem_cons_of_mem _ hmem)), bidsIn_cons, bidsIn_cons,
          add_assoc, sub_sub]
  rw [burnTotals, zero_def, hfold, zero_add]

end passes

/-! ### The rows -/

/-- A snapshot for which the bond manager is configured, started and active. -/
structure BondInputs where
  config : ChainConfig
  bondManager : GatedContract
  state : BondManagerState
  auctions : List GnosisAuction
  balanceEntity : Option ℤ
  timestamp : ℕ
  blockNumber : ℕ
  configured : config.bondManager = some bondManager
  started : bondManager.startBlock ≤ blockNumber
  active : state.isActive = true
  valid : ∀ auction ∈ auctions, auction.Valid
  balance_nonneg : 0 ≤ balanceEntity.getD 0

namespace BondInputs

variable (i : BondInputs)

/-- The bond manager's OHM. -/
def balance : ℚ := (i.balanceEntity.getD 0 : ℤ) / 10 ^ 9

/-- The bids of the closed auctions that still vest. -/
def vesting : ℚ := bidsIn i.timestamp .vesting i.auctions

/-- The bids of the vested auctions. -/
def vested : ℚ := bidsIn i.timestamp .vested i.auctions

def rows : List SerializedTokenSupply :=
  pushGnosisAuctionSupply i.config i.state i.auctions i.balanceEntity [] i.timestamp i.blockNumber

def totals : BurnTotals :=
  burnTotals i.timestamp (toDecimal (i.balanceEntity.getD 0) bondOhmDecimals) i.auctions

/-- The rows that one auction contributes. -/
def rowsOf (auction : GnosisAuction) : List SerializedTokenSupply :=
  auctionRows i.config i.bondManager.address i.state.teller i.timestamp i.blockNumber i.totals auction

theorem rows_eq : i.rows = i.auctions.flatMap i.rowsOf := by
  have hstarted := not_lt.mpr i.started
  unfold rows pushGnosisAuctionSupply
  simp only [i.configured, if_neg hstarted, i.active]
  cases hauctions : i.auctions.isEmpty with
  | true => simp [List.isEmpty_iff.mp hauctions]
  | false => rfl

theorem totals_eq : i.totals = ⟨.finite i.vested, .finite (i.balance - i.vesting)⟩ := by
  rw [totals, toDecimal_bond, burnTotals_eq i.valid]
  rfl

theorem vested_nonneg : 0 ≤ i.vested := bidsIn_nonneg i.valid _

/-- The part of the balance that the vested auctions share. -/
def capped : ℚ := min i.vested (i.balance - i.vesting)

theorem totals_capped : i.totals.capped = .finite i.capped := by
  rw [totals_eq, BurnTotals.capped, capped]
  by_cases h : i.vested < i.balance - i.vesting
  · simp [gt, h, min_eq_left h.le]
  · simp [gt, h, min_eq_right (not_lt.mp h)]

/-- A vested auction's share before rounding. -/
def share (auction : GnosisAuction) : ℚ := auction.bidAmount * i.capped / i.vested

variable {i} {auction : GnosisAuction}

theorem rowsOf_bidding (h : auction.Valid) (hphase : auction.phase i.timestamp = .bidding) :
    i.rowsOf auction = [bondSupply i.config i.timestamp i.blockNumber auction i.state.teller
      typeBondsPreminted auction.payoutCapacity] := by
  rcases h.phase_cases i.timestamp with ⟨-, hbid⟩ | ⟨_, heq, -⟩ | ⟨_, heq, -⟩
  · simp [rowsOf, auctionRows, hbid]
  · simp [hphase] at heq
  · simp [hphase] at heq

theorem rowsOf_vesting (h : auction.Valid) (hphase : auction.phase i.timestamp = .vesting) :
    i.rowsOf auction =
      [bondSupply i.config i.timestamp i.blockNumber auction i.bondManager.address
        typeBondsVestingDeposits (.finite auction.bidAmount),
       bondSupply i.config i.timestamp i.blockNumber auction i.state.teller typeBondsVestingTokens
        auction.payoutCapacity] := by
  rcases h.phase_cases i.timestamp with ⟨heq, -⟩ | ⟨_, -, hbid, hclose, hlt⟩ | ⟨_, heq, -⟩
  · simp [hphase] at heq
  · simp [rowsOf, auctionRows, hbid, hclose, hlt]
  · simp [hphase] at heq

/-- A vested auction has a row unless its share vanishes. -/
theorem rowsOf_vested (h : auction.Valid) (hphase : auction.phase i.timestamp = .vested) :
    i.rowsOf auction =
      if roundHalfUp decimalPlaces (i.share auction) = 0 then []
      else [bondSupply i.config i.timestamp i.blockNumber auction i.bondManager.address
        typeBondsDeposits (.finite (roundHalfUp decimalPlaces (i.share auction)))] := by
  rcases h.phase_cases i.timestamp with ⟨heq, -⟩ | ⟨_, heq, -⟩ | ⟨_, -, hbid, hclose, hlt⟩
  · simp [hphase] at heq
  · simp [hphase] at heq
  · have hrows : i.rowsOf auction =
        if i.totals.totalBurnableOhm.eq 0 then []
        else if (((BigNumber.finite auction.bidAmount).times i.totals.capped).div
            i.totals.totalBurnableOhm).eq 0 then []
        else [bondSupply i.config i.timestamp i.blockNumber auction i.bondManager.address
          typeBondsDeposits (((BigNumber.finite auction.bidAmount).times i.totals.capped).div
            i.totals.totalBurnableOhm)] := by
      simp only [rowsOf, auctionRows, hbid, hclose, if_neg hlt]
    rw [hrows, totals_capped, totals_eq]
    by_cases hzero : i.vested = 0
    · simp [hzero, BigNumber.eq, zero_def, share]
    · by_cases hround : roundHalfUp decimalPlaces (i.share auction) = 0
      · rw [if_pos hround]
        simp only [share] at hround
        simp [hzero, BigNumber.eq, zero_def, BigNumber.div, hround]
      · rw [if_neg hround]
        simp only [share] at hround
        simp [hzero, BigNumber.eq, zero_def, BigNumber.div, hround, share]

theorem isAmount_toString10 {x : BigNumber} (h : IsAmount x) : IsAmount x.toString10 := by
  obtain ⟨q, hq, rfl⟩ := h
  exact ⟨_, roundHalfUp_nonneg hq, rfl⟩

/-- The bond deposits that some rows report. -/
def deposits (rows : List SerializedTokenSupply) : ℚ :=
  ((rows.filter (fun row => row.type = typeBondsDeposits)).map (fun row => amount row.balance)).sum

theorem deposits_append (rows rows' : List SerializedTokenSupply) :
    deposits (rows ++ rows') = deposits rows + deposits rows' := by
  simp [deposits]

/-- Only a vested auction reports bond deposits: its rounded share. -/
theorem deposits_rowsOf (h : auction.Valid) : deposits (i.rowsOf auction) =
    if auction.phase i.timestamp = .vested then roundHalfUp decimalPlaces (i.share auction)
    else 0 := by
  cases hphase : auction.phase i.timestamp with
  | bidding =>
      have hne : typeBondsPreminted ≠ typeBondsDeposits := by decide
      rw [rowsOf_bidding h hphase]
      simp [deposits, bondSupply, createTokenSupply, hne]
  | vesting =>
      have hdeposits : typeBondsVestingDeposits ≠ typeBondsDeposits := by decide
      have htokens : typeBondsVestingTokens ≠ typeBondsDeposits := by decide
      rw [rowsOf_vesting h hphase]
      simp [deposits, bondSupply, createTokenSupply, hdeposits, htokens]
  | vested =>
      rw [rowsOf_vested h hphase, if_pos rfl]
      split
      · next hround => simp [deposits, hround]
      · simp [deposits, bondSupply, createTokenSupply, toString10]

theorem deposits_rows (i : BondInputs) : deposits i.rows =
    ((inPhase i.timestamp .vested i.auctions).map
      (fun auction => roundHalfUp decimalPlaces (i.share auction))).sum := by
  have hsum (auctions : List GnosisAuction) (h : ∀ auction ∈ auctions, auction.Valid) :
      deposits (auctions.flatMap i.rowsOf) =
        ((inPhase i.timestamp .vested auctions).map
          (fun auction => roundHalfUp decimalPlaces (i.share auction))).sum := by
    induction auctions with
    | nil => rfl
    | cons auction auctions ih =>
        rw [List.flatMap_cons, deposits_append, deposits_rowsOf (h auction List.mem_cons_self),
          ih (fun auction hmem => h auction (List.mem_cons_of_mem _ hmem))]
        by_cases hphase : auction.phase i.timestamp = .vested <;> simp [inPhase, hphase]
  rw [rows_eq, hsum _ i.valid]

/-- Without rounding the shares are the capped balance. -/
theorem sum_share (h : i.vested ≠ 0) :
    ((inPhase i.timestamp .vested i.auctions).map i.share).sum = i.capped := by
  have hmul : (inPhase i.timestamp .vested i.auctions).map i.share =
      (inPhase i.timestamp .vested i.auctions).map
        (fun auction => auction.bidAmount * (i.capped / i.vested)) := by
    apply List.map_congr_left
    intro auction _
    exact mul_div_assoc _ _ _
  rw [hmul, List.sum_map_mul_right]
  show i.vested * (i.capped / i.vested) = i.capped
  rw [mul_comm, div_mul_cancel₀ _ h]

theorem share_nonneg (h : auction.Valid) (hle : i.vesting ≤ i.balance) : 0 ≤ i.share auction := by
  have hbid := h.bidAmount_nonneg
  have hvested := i.vested_nonneg
  have hcapped : 0 ≤ i.capped := le_min hvested (sub_nonneg.mpr hle)
  unfold share
  positivity

/-- A balance below the vesting bids leaves negative shares. -/
theorem share_of_lt (auction : GnosisAuction) (hlt : i.balance < i.vesting) :
    i.share auction = -(auction.bidAmount * (i.vesting - i.balance) / i.vested) := by
  have hvested := i.vested_nonneg
  have hcapped : i.capped = i.balance - i.vesting := min_eq_right (by linarith)
  rw [share, hcapped]
  ring

/-- No row is negative, each auction has the rows of its phase, and the vested rows share what the
vesting auctions leave of the balance, up to the rounding of one division for each of them. -/
structure ConservesOhm (i : BondInputs) : Prop where
  nonneg : ∀ row ∈ i.rows, IsAmount row.balance
  one_phase : ∀ auction ∈ i.auctions,
    (i.rowsOf auction).map (·.type) = (auction.phase i.timestamp).rowTypes ∨
      auction.phase i.timestamp = .vested ∧ i.rowsOf auction = []
  vested_sum : |deposits i.rows - min (max (i.balance - i.vesting) 0) i.vested| ≤
    (inPhase i.timestamp .vested i.auctions).length * halfUnit decimalPlaces

/-- The balance covers the vesting bids, or what it lacks vanishes in every share. -/
def CoversVesting (i : BondInputs) : Prop :=
  i.vesting ≤ i.balance ∨ ∀ auction ∈ inPhase i.timestamp .vested i.auctions,
    auction.bidAmount * (i.vesting - i.balance) / i.vested < halfUnit decimalPlaces

theorem one_phase (h : auction.Valid) :
    (i.rowsOf auction).map (·.type) = (auction.phase i.timestamp).rowTypes ∨
      auction.phase i.timestamp = .vested ∧ i.rowsOf auction = [] := by
  cases hphase : auction.phase i.timestamp with
  | bidding => exact Or.inl (by rw [rowsOf_bidding h hphase]; rfl)
  | vesting => exact Or.inl (by rw [rowsOf_vesting h hphase]; rfl)
  | vested =>
      rw [rowsOf_vested h hphase]
      split
      · exact Or.inr ⟨rfl, rfl⟩
      · exact Or.inl rfl

theorem vanishes_of_lt {i : BondInputs} (hlt : i.balance < i.vesting) (h : auction.Valid) :
    roundHalfUp decimalPlaces (i.share auction) = 0 ↔
      auction.bidAmount * (i.vesting - i.balance) / i.vested < halfUnit decimalPlaces := by
  have hbid := h.bidAmount_nonneg
  have hvested := i.vested_nonneg
  have hlack : 0 ≤ i.vesting - i.balance := by linarith
  rw [share_of_lt auction hlt, roundHalfUp_eq_zero_iff, abs_neg, abs_of_nonneg (by positivity)]

/-- Under the condition no share is negative. -/
theorem share_rounds_nonneg (hcovers : i.CoversVesting)
    (hmem : auction ∈ inPhase i.timestamp .vested i.auctions) :
    0 ≤ roundHalfUp decimalPlaces (i.share auction) := by
  have hvalid := i.valid auction (List.mem_filter.mp hmem).1
  rcases lt_or_ge i.balance i.vesting with hlt | hle
  · have hvanishes := (hcovers.resolve_left (not_le.mpr hlt)) auction hmem
    rw [(vanishes_of_lt hlt hvalid).mpr hvanishes]
  · exact roundHalfUp_nonneg (share_nonneg hvalid hle)

theorem nonneg_of_covers (hcovers : i.CoversVesting) : ∀ row ∈ i.rows, IsAmount row.balance := by
  intro row hrow
  rw [rows_eq, List.mem_flatMap] at hrow
  obtain ⟨auction, hmem, hrow⟩ := hrow
  have hvalid := i.valid auction hmem
  cases hphase : auction.phase i.timestamp with
  | bidding =>
      rw [rowsOf_bidding hvalid hphase, List.mem_singleton] at hrow
      subst hrow
      exact isAmount_toString10 hvalid.payout
  | vesting =>
      rw [rowsOf_vesting hvalid hphase] at hrow
      rcases List.mem_pair.mp hrow with rfl | rfl
      · exact isAmount_toString10 ⟨_, hvalid.bidAmount_nonneg, rfl⟩
      · exact isAmount_toString10 hvalid.payout
  | vested =>
      rw [rowsOf_vested hvalid hphase] at hrow
      split at hrow
      · simp at hrow
      · rw [List.mem_singleton] at hrow
        subst hrow
        have hnonneg := share_rounds_nonneg hcovers
          (List.mem_filter.mpr ⟨hmem, decide_eq_true hphase⟩)
        exact isAmount_toString10 ⟨_, hnonneg, rfl⟩

theorem vested_sum_of_covers (hcovers : i.CoversVesting) :
    |deposits i.rows - min (max (i.balance - i.vesting) 0) i.vested| ≤
      (inPhase i.timestamp .vested i.auctions).length * halfUnit decimalPlaces := by
  have hunit := halfUnit_pos decimalPlaces
  have hvested := i.vested_nonneg
  rw [deposits_rows]
  rcases lt_or_ge i.balance i.vesting with hlt | hle
  · have hzero : (inPhase i.timestamp .vested i.auctions).map
        (fun auction => roundHalfUp decimalPlaces (i.share auction)) =
          (inPhase i.timestamp .vested i.auctions).map (fun _ => 0) := by
      apply List.map_congr_left
      intro auction hmem
      have hvanishes := (hcovers.resolve_left (not_le.mpr hlt)) auction hmem
      exact (vanishes_of_lt hlt (i.valid auction (List.mem_filter.mp hmem).1)).mpr hvanishes
    rw [hzero, max_eq_right (by linarith), min_eq_left hvested]
    simp only [List.map_const', List.sum_replicate, nsmul_zero, sub_zero, abs_zero]
    positivity
  · have hcapped : min (max (i.balance - i.vesting) 0) i.vested = i.capped := by
      rw [max_eq_left (by linarith), min_comm, capped]
    rw [hcapped]
    by_cases hne : i.vested = 0
    · -- Without bids the shares and the cap are zero.
      have hshare : i.share = fun _ => 0 := by
        funext auction
        simp [share, hne]
      have hcapped : i.capped = 0 := by
        rw [capped, hne]
        exact min_eq_left (by linarith)
      rw [hshare, hcapped]
      simp only [roundHalfUp_zero, List.map_const', List.sum_replicate, nsmul_zero, sub_zero, abs_zero]
      positivity
    · rw [← sum_share hne]
      exact abs_sum_roundHalfUp_sub_le i.share _

/-- The bond supply rows conserve the bond manager's OHM exactly if its balance covers the vesting
bids, or what it lacks is rounded away. -/
theorem conservesOhm_iff (i : BondInputs) : i.ConservesOhm ↔ i.CoversVesting := by
  constructor
  · intro h
    rcases lt_or_ge i.balance i.vesting with hlt | hle
    · refine Or.inr (fun auction hmem => ?_)
      obtain ⟨hauction, hphase⟩ := List.mem_filter.mp hmem
      have hvalid := i.valid auction hauction
      have hbid := hvalid.bidAmount_nonneg
      have hvested := i.vested_nonneg
      have hlack : 0 ≤ i.vesting - i.balance := by linarith
      rw [← vanishes_of_lt hlt hvalid]
      -- Otherwise the auction has a row, and its balance is negative.
      by_contra hround
      have hrows := rowsOf_vested hvalid (of_decide_eq_true hphase)
      rw [if_neg hround] at hrows
      have hrow := h.nonneg _ (by
        rw [rows_eq]
        exact List.mem_flatMap.mpr ⟨auction, hauction, hrows ▸ List.mem_singleton_self _⟩)
      obtain ⟨q, hq, hbalance⟩ := hrow
      have hq : q = roundHalfUp decimalPlaces (i.share auction) := by
        simpa [bondSupply, createTokenSupply, toString10] using hbalance.symm
      have hneg : roundHalfUp decimalPlaces (i.share auction) ≤ 0 := by
        rw [share_of_lt auction hlt, roundHalfUp_neg, neg_nonpos]
        exact roundHalfUp_nonneg (by positivity)
      exact hround (le_antisymm hneg (by linarith))
    · exact Or.inl hle
  · intro h
    exact ⟨nonneg_of_covers h, fun auction hmem => one_phase (i.valid auction hmem),
      vested_sum_of_covers h⟩

/-! ### A bond manager that lacks OHM -/

/-- Two auctions close at the same time, one with a term of an hour and one with a term of a day. -/
def twoAuctions : List AuctionEvent :=
  [.launched ⟨.ethereum, 1000, 1, 5000000000, 3600⟩,
   .launched ⟨.ethereum, 1000, 2, 10000000000, 86400⟩,
   .cleared ⟨.ethereum, 2000, 1, 5000000000⟩,
   .cleared ⟨.ethereum, 2000, 2, 10000000000⟩]

/-- The bond manager of Ethereum. -/
def ethereumBondManager : GatedContract where
  address := "0xf577c77ee3578c7f216327f41b5d7221ead2b2a3"
  startBlock := 16226955

/-- Between the two expiries the bond manager holds some raw OHM. -/
def twoAuctionInputs (balance : ℕ) : BondInputs where
  config := Chains.ethereum
  bondManager := ethereumBondManager
  state := { isActive := true, teller := "teller" }
  auctions := (AuctionStore.empty.applyAll twoAuctions).gnosisAuction.rows
  balanceEntity := some balance
  timestamp := 10000
  blockNumber := 16226955
  configured := rfl
  started := le_refl _
  active := rfl
  valid := valid_applyAll twoAuctions
  balance_nonneg := Int.natCast_nonneg balance

/-- With one OHM the vested auction of five reports minus nine, next to ten that still vest. -/
theorem negative_bond_deposits :
    (twoAuctionInputs 1000000000).rows.map (fun row => (row.type, row.balance)) =
        [(typeBondsDeposits, .finite (-9)), (typeBondsVestingDeposits, .finite 10),
          (typeBondsVestingTokens, .finite 10)] ∧
      ¬ (twoAuctionInputs 1000000000).ConservesOhm := by
  have hrows : (twoAuctionInputs 1000000000).rows.map (fun row => (row.type, row.balance)) =
      [(typeBondsDeposits, .finite (-9)), (typeBondsVestingDeposits, .finite 10),
        (typeBondsVestingTokens, .finite 10)] := by
    decide +kernel
  refine ⟨hrows, fun h => ?_⟩
  have hmem : (typeBondsDeposits, BigNumber.finite (-9)) ∈
      (twoAuctionInputs 1000000000).rows.map (fun row => (row.type, row.balance)) := by
    rw [hrows]
    exact List.mem_cons_self
  obtain ⟨row, hrow, heq⟩ := List.mem_map.mp hmem
  obtain ⟨q, hq, hbalance⟩ := h.nonneg row hrow
  have hq' : q = -9 := by
    simpa [hbalance] using (Prod.mk.inj heq).2
  rw [hq'] at hq
  norm_num at hq

/-- With twelve OHM the vested auction reports the two that the vesting one leaves. -/
theorem conservesOhm_covered :
    (twoAuctionInputs 12000000000).rows.map (fun row => (row.type, row.balance)) =
        [(typeBondsDeposits, .finite 2), (typeBondsVestingDeposits, .finite 10),
          (typeBondsVestingTokens, .finite 10)] ∧
      (twoAuctionInputs 12000000000).ConservesOhm := by
  have hcovered : (twoAuctionInputs 12000000000).vesting ≤ (twoAuctionInputs 12000000000).balance := by
    decide +kernel
  exact ⟨by decide +kernel, (conservesOhm_iff _).mpr (Or.inl hcovered)⟩

end BondInputs

end OlympusMetrics
