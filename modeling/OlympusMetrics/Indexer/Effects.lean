import OlympusMetrics.Indexer.BalancerPools
import OlympusMetrics.Indexer.Global
import OlympusMetrics.Indexer.Records
import OlympusMetrics.Indexer.RpcClient

/-!
The cached effects: what the indexer reads from contracts and not from events.

An effect is a program over requests, and each of its requests is sent with
retries. Most effects are guarded: when a read fails they return something in
its place. An address that `getAddress` refuses fails the effect where it is
resolved outside of the guard.
-/

namespace OlympusMetrics.Effects

open RpcClient

/-! ### Requests -/

structure Epoch where
  length : ℕ
  number : ℕ
  endTime : ℕ
  distribute : ℕ

structure Reserves where
  reserve0 : ℕ
  reserve1 : ℕ

/-- The part of `positions` that is used. -/
structure NftPosition where
  token0 : String
  token1 : String
  fee : ℕ
  tickLower : ℤ
  tickUpper : ℤ
  liquidity : ℕ
  deriving DecidableEq

def NftPosition.lowerCase (position : NftPosition) : NftPosition :=
  { position with
    token0 := OlympusMetrics.lowerCase position.token0
    token1 := OlympusMetrics.lowerCase position.token1 }

/-- The view functions that the effects call, with their arguments. -/
inductive View
  | getPoolTokens (poolId : String)
  | keycode
  | principalReceivables
  | totalDebt
  | activeVaultCount
  | activeVaults (i : ℕ)
  | getPoolOhmShare
  | isActive
  | fixedExpiryTeller
  | convertToAssets (shares : ℕ)
  | circulatingSupply
  | ohmToDistributeNextEpoch
  | epoch
  | balances (i : ℕ)
  | totalSupply
  | getReserves
  | balanceOf (account : String)
  | tokenOfOwnerByIndex (owner : String) (index : ℕ)
  | positions (tokenId : ℕ)
  | pool
  | latestAnswer

/-- What a view function returns; a `bytes5` is the text of its hexadecimal digits. -/
@[reducible] def View.Result : View → Type
  | .getPoolTokens _ => BalancerPools.PoolTokens
  | .keycode | .activeVaults _ | .fixedExpiryTeller | .pool => String
  | .isActive => Bool
  | .epoch => Epoch
  | .getReserves => Reserves
  | .positions _ => NftPosition
  | .latestAnswer => ℤ
  | .principalReceivables | .totalDebt | .activeVaultCount | .getPoolOhmShare | .convertToAssets _
  | .circulatingSupply | .ohmToDistributeNextEpoch | .balances _ | .totalSupply | .balanceOf _
  | .tokenOfOwnerByIndex _ _ => ℕ

/-- A request to a node: a view function of a contract, or a block's timestamp. -/
inductive Request
  | readContract (address : String) (view : View) (blockNumber : Option ℕ)
  | getBlock (blockNumber : ℕ)

@[reducible] def Request.Reply : Request → Type
  | .readContract _ view _ => view.Result
  | .getBlock _ => ℕ

/-- The body of an effect. -/
abbrev Effect (α : Type) := Process Request Request.Reply RpcError α

def readContract (address : String) (view : View) (blockNumber : Option ℕ) : Effect view.Result :=
  Process.await (Request.readContract address view blockNumber)

/-- The lookup of the chain's configuration, with which every effect begins. -/
def onChain {α : Type} (chainId : ℕ) (body : Effect α) : Effect α :=
  if allChainIds.any (fun chain => chain.number == chainId) then body
  else .throw (.ofMessage ("Unsupported chain " ++ toString chainId))

/-- A read whose failure is no failure of the effect. -/
def readOr {α β : Type} (fallback : α) (read : Effect β) (output : β → α) : Effect α :=
  (read.bind (fun value => .ret (output value))).catching fallback

/-- Goes on with the checksummed form of an address, or fails with the error of `getAddress`. -/
def withAddress {α : Type} (getAddress : String → Except RpcError String) (address : String)
    (body : String → Effect α) : Effect α :=
  (Process.ofExcept (getAddress address)).bind body

section Definitions

variable (getAddress : String → Except RpcError String) (chainId : ℕ)

/-- A read of the contract at an address. -/
def readAddress (address : String) (view : View) (blockNumber : Option ℕ) : Effect view.Result :=
  withAddress getAddress address (fun contract => readContract contract view blockNumber)

/-! ### Effects that fail with their read -/

def seedBalancerPool (vault poolId : String) (atBlock : ℕ) : Effect BalancerPools.PoolTokens :=
  onChain chainId
    ((readAddress getAddress vault (.getPoolTokens poolId) (some atBlock)).bind (fun result =>
      .ret { tokens := result.tokens.map lowerCase, balances := result.balances }))

def resolveKodiakUnderlyingPool (kodiakLp : String) : Effect String :=
  onChain chainId ((readAddress getAddress kodiakLp .pool none).bind (fun underlying =>
    .ret (lowerCase underlying)))

def readBlockTimestamp (blockNumber : ℕ) : Effect ℕ :=
  onChain chainId (Process.await (Request.getBlock blockNumber))

/-! ### Guarded reads -/

/-- The output `""` is `none`. -/
def readCoolerPrincipalReceivables (clearinghouse : String) (atBlock : ℕ) : Effect (Option ℕ) :=
  onChain chainId
    (readOr none (readAddress getAddress clearinghouse .principalReceivables (some atBlock)) some)

def readMonoCoolerTotalDebt (monoCooler : String) (atBlock : ℕ) : Effect (Option ℕ) :=
  onChain chainId
    (readOr none (readAddress getAddress monoCooler .totalDebt (some atBlock)) some)

def readErc4626AssetsPerShare (vault : String) (shareDecimals atBlock : ℕ) : Effect (Option ℕ) :=
  onChain chainId
    (readOr none (readAddress getAddress vault (.convertToAssets (10 ^ shareDecimals)) (some atBlock)) some)

def readSOhmCirculatingSupply (sOhm : String) (atBlock : ℕ) : Effect (Option ℕ) :=
  onChain chainId
    (readOr none (readAddress getAddress sOhm .circulatingSupply (some atBlock)) some)

def readErc20BalanceOf (tokenAddress walletAddress : String) (atBlock : ℕ) : Effect ℕ :=
  onChain chainId
    (readOr 0 (withAddress getAddress tokenAddress (fun token =>
      withAddress getAddress walletAddress (fun wallet =>
        readContract token (.balanceOf wallet) (some atBlock)))) id)

def readChainlinkLatestAnswer (feedAddress : String) (atBlock : ℕ) : Effect ℤ :=
  onChain chainId (readOr 0 (readAddress getAddress feedAddress .latestAnswer (some atBlock)) id)

/-- The state of a bond manager: whether it is active, and the teller it names if it is. -/
structure BondManagerState where
  isActive : Bool
  teller : String
  deriving DecidableEq

def BondManagerState.inactive : BondManagerState := ⟨false, ""⟩

def readBondManagerState (bondManager : String) (atBlock : ℕ) : Effect BondManagerState :=
  onChain chainId (withAddress getAddress bondManager (fun bondManager =>
    ((readContract bondManager .isActive (some atBlock)).bind (fun isActive =>
      if !isActive then .ret .inactive
      else (readContract bondManager .fixedExpiryTeller (some atBlock)).bind (fun teller =>
        .ret ⟨true, lowerCase teller⟩))).catching .inactive))

/-! ### Effects of several reads -/

/-- The vaults of a registry with their OHM shares, in matching order. -/
structure BlvSnapshot where
  vaults : List String := []
  ohmShares : List ℕ := []
  deriving DecidableEq

def BlvSnapshot.push (snapshot : BlvSnapshot) (vault : String) (share : ℕ) : BlvSnapshot where
  vaults := snapshot.vaults ++ [vault]
  ohmShares := snapshot.ohmShares ++ [share]

/-- One round of the loop of `snapshotBlvRegistry`. -/
def snapshotVault (registry : String) (atBlock : ℕ) (snapshot : BlvSnapshot) (i : ℕ) :
    Effect BlvSnapshot :=
  ((readContract registry (.activeVaults i) (some atBlock)).bind (fun vault =>
    (readAddress getAddress vault .getPoolOhmShare (some atBlock)).bind (fun share =>
      .ret (snapshot.push (lowerCase vault) share)))).catching snapshot

def snapshotBlvRegistry (registry : String) (atBlock : ℕ) : Effect BlvSnapshot :=
  onChain chainId (withAddress getAddress registry (fun registry =>
    (readContract registry .activeVaultCount (some atBlock)).attempt.bind (fun
      | .error _ => .ret {}
      | .ok count =>
          Process.forEach (snapshotVault getAddress registry atBlock) (List.range count) {})))

/-- One term of the sum of `readNextOhmDistribution`. -/
def addDistribution (total : ℕ) (staking : String) (view : View) (distribute : view.Result → ℕ)
    (atBlock : ℕ) : Effect ℕ :=
  readOr total (readAddress getAddress staking view (some atBlock))
    (fun value => total + distribute value)

def readNextOhmDistribution (contracts : StakingContracts) (atBlock : ℕ) : Effect ℕ :=
  onChain chainId
    ((addDistribution getAddress 0 contracts.v1 .ohmToDistributeNextEpoch id atBlock).bind
      (fun total =>
        (if contracts.v2StartBlock < atBlock then
          addDistribution getAddress total contracts.v2 .epoch Epoch.distribute atBlock
        else .ret total).bind (fun total =>
          if contracts.v3StartBlock < atBlock then
            addDistribution getAddress total contracts.v3 .epoch Epoch.distribute atBlock
          else .ret total)))

structure CurvePoolSnapshot where
  balances : List ℕ
  totalSupply : ℕ
  deriving DecidableEq

def snapshotCurvePool (pool lpToken : String) (coinCount atBlock : ℕ) : Effect CurvePoolSnapshot :=
  onChain chainId (withAddress getAddress pool (fun pool =>
    withAddress getAddress lpToken (fun lp =>
      (Process.forEach (fun balances i =>
        (readOr 0 (readContract pool (.balances i) (some atBlock)) id).bind (fun balance =>
          .ret (balances ++ [balance]))) (List.range coinCount) []).bind (fun balances =>
        (readOr 0 (readContract lp .totalSupply (some atBlock)) id).bind (fun totalSupply =>
          .ret ⟨balances, totalSupply⟩)))))

structure FraxSwapSnapshot where
  reserve0 : ℕ
  reserve1 : ℕ
  totalSupply : ℕ
  deriving DecidableEq

def snapshotFraxSwapPool (pool : String) (atBlock : ℕ) : Effect FraxSwapSnapshot :=
  onChain chainId (withAddress getAddress pool (fun pool =>
    (readOr (⟨0, 0⟩ : Reserves) (readContract pool .getReserves (some atBlock)) id).bind
      (fun reserves =>
        (readOr 0 (readContract pool .totalSupply (some atBlock)) id).bind (fun totalSupply =>
          .ret ⟨reserves.reserve0, reserves.reserve1, totalSupply⟩))))

/-- One round of the loop of `snapshotUniv3NftPositions`: a position without liquidity is skipped
like one that cannot be read. -/
def snapshotPosition (positionManager wallet : String) (atBlock : ℕ)
    (positions : List NftPosition) (i : ℕ) : Effect (List NftPosition) :=
  (readContract positionManager (.tokenOfOwnerByIndex wallet i) (some atBlock)).attempt.bind (fun
    | .error _ => .ret positions
    | .ok tokenId =>
        ((readContract positionManager (.positions tokenId) (some atBlock)).bind (fun position =>
          if position.liquidity = 0 then .ret positions
          else .ret (positions ++ [position.lowerCase]))).catching positions)

/-- The most positions that are read of one wallet. -/
def positionLimit : ℕ := 50

def snapshotUniv3NftPositions (positionManager wallet : String) (atBlock : ℕ) :
    Effect (List NftPosition) :=
  onChain chainId (withAddress getAddress positionManager (fun positionManager =>
    withAddress getAddress wallet (fun wallet =>
      (readContract positionManager (.balanceOf wallet) (some atBlock)).attempt.bind (fun
        | .error _ => .ret []
        | .ok count =>
            if count = 0 then .ret []
            else Process.forEach (snapshotPosition positionManager wallet atBlock)
              (List.range (min count positionLimit)) []))))

end Definitions

/-! ### What an outage does to one effect -/

section

variable {α β γ : Type} {answer : (request : Request) → Except RpcError request.Reply}
  {getAddress : String → Except RpcError String} {R : α → β → Prop}

@[simp] theorem onChain_number (chain : ChainId) (body : Effect α) :
    onChain chain.number body = body := by
  have hsupported : allChainIds.any (fun c => c.number == chain.number) = true := by
    rw [List.any_eq_true]
    exact ⟨chain, mem_allChainIds chain, beq_self_eq_true _⟩
  unfold onChain
  rw [if_pos hsupported]

theorem strictTo_read (address : String) (view : View) (blockNumber : Option ℕ) :
    Process.StrictTo answer Eq (readContract address view blockNumber)
      (readContract address view blockNumber) :=
  Process.strictTo_await _

theorem withAddress_ok {address contract : String} (h : getAddress address = .ok contract)
    (body : String → Effect α) : withAddress getAddress address body = body contract := by
  rw [withAddress, h]
  rfl

theorem strictTo_withAddress {address : String} {p : String → Effect α} {q : String → Effect β}
    (h : ∀ contract, Process.StrictTo answer R (p contract) (q contract)) :
    Process.StrictTo answer R (withAddress getAddress address p)
      (withAddress getAddress address q) := by
  cases hcontract : getAddress address with
  | ok contract =>
      rw [withAddress_ok hcontract, withAddress_ok hcontract]
      exact h contract
  | error e =>
      rw [withAddress, hcontract]
      exact Process.strictTo_throw

theorem strictTo_readAddress (address : String) (view : View) (blockNumber : Option ℕ) :
    Process.StrictTo answer Eq (readAddress getAddress address view blockNumber)
      (readAddress getAddress address view blockNumber) :=
  strictTo_withAddress (fun contract => strictTo_read contract view blockNumber)

theorem degradesTo_read {fallback : α} {fallback' : β} {read : Effect γ}
    (hstrict : Process.StrictTo answer Eq read read) {output : γ → α} {output' : γ → β}
    (hskip : ∀ e, read.eval answer = .error e → R fallback fallback')
    (hfail : ∀ value, read.eval answer = .ok value → R fallback (output' value))
    (hread : ∀ value, read.eval answer = .ok value → R (output value) (output' value)) :
    Process.DegradesTo answer R (readOr fallback read output) (readOr fallback' read output') := by
  refine Process.degradesTo_catching (Process.strictTo_bind hstrict.of_eval ?_) ?_ ?_
  · rintro value _ ⟨rfl, hvalue⟩
    exact Process.strictTo_ret (hread value hvalue)
  · intro e he
    cases hvalue : read.eval answer with
    | error e' => exact hskip e' hvalue
    | ok value =>
        rw [Process.eval_bind, hvalue] at he
        cases he
  · intro full hfull
    obtain ⟨value, hvalue, hout⟩ := Process.eval_bind_eq_ok.mp hfull
    obtain rfl := Except.ok.inj hout
    exact hfail value hvalue

theorem degradesTo_readBondManagerState (chain : ChainId) {bondManager contract : String}
    (hcontract : getAddress bondManager = .ok contract) (atBlock : ℕ) :
    Process.DegradesTo answer (fun out full => out = .inactive ∨ out = full)
      (readBondManagerState getAddress chain.number bondManager atBlock)
      (readBondManagerState getAddress chain.number bondManager atBlock) := by
  unfold readBondManagerState
  rw [onChain_number, withAddress_ok hcontract]
  refine Process.degradesTo_catching ?_ (fun _ _ => Or.inl rfl) (fun _ _ => Or.inl rfl)
  refine Process.strictTo_bind (strictTo_read _ _ _) ?_
  rintro isActive _ rfl
  cases isActive with
  | false => exact Process.strictTo_ret (Or.inr rfl)
  | true =>
      refine Process.strictTo_bind (strictTo_read _ _ _) ?_
      rintro teller _ rfl
      exact Process.strictTo_ret (Or.inr rfl)

/-! ### Vaults and positions -/

/-- The pairs of a registry's snapshot. -/
def BlvSnapshot.rows (snapshot : BlvSnapshot) : List (String × ℕ) :=
  snapshot.vaults.zip snapshot.ohmShares

/-- Both lists of a snapshot have an entry for each vault. -/
def BlvSnapshot.Aligned (snapshot : BlvSnapshot) : Prop :=
  snapshot.vaults.length = snapshot.ohmShares.length

theorem BlvSnapshot.Aligned.push {snapshot : BlvSnapshot} (h : snapshot.Aligned) (vault : String)
    (share : ℕ) : (snapshot.push vault share).Aligned := by
  simpa [Aligned, BlvSnapshot.push] using h

theorem BlvSnapshot.rows_push {snapshot : BlvSnapshot} (h : snapshot.Aligned) (vault : String)
    (share : ℕ) : (snapshot.push vault share).rows = snapshot.rows ++ [(vault, share)] := by
  simpa [rows, BlvSnapshot.push] using
    @List.zip_append _ _ snapshot.vaults [vault] snapshot.ohmShares [share] h

/-- A snapshot lists some of the vaults of another, with the same shares and in the same order. -/
structure BlvSnapshot.PartOf (out full : BlvSnapshot) : Prop where
  aligned : out.Aligned
  aligned_full : full.Aligned
  rows : out.rows.Sublist full.rows

theorem BlvSnapshot.partOf_empty : BlvSnapshot.PartOf {} {} := ⟨rfl, rfl, List.Sublist.refl _⟩

theorem BlvSnapshot.PartOf.skip {out full : BlvSnapshot} (h : out.PartOf full) (vault : String)
    (share : ℕ) : out.PartOf (full.push vault share) where
  aligned := h.aligned
  aligned_full := h.aligned_full.push vault share
  rows := by
    rw [rows_push h.aligned_full]
    exact h.rows.trans (List.sublist_append_left full.rows _)

theorem BlvSnapshot.PartOf.push {out full : BlvSnapshot} (h : out.PartOf full) (vault : String)
    (share : ℕ) : (out.push vault share).PartOf (full.push vault share) where
  aligned := h.aligned.push vault share
  aligned_full := h.aligned_full.push vault share
  rows := by
    rw [rows_push h.aligned, rows_push h.aligned_full]
    exact h.rows.append (List.Sublist.refl _)

theorem degradesTo_snapshotVault (registry : String) (atBlock i : ℕ) {out full : BlvSnapshot}
    (h : out.PartOf full) :
    Process.DegradesTo answer BlvSnapshot.PartOf (snapshotVault getAddress registry atBlock out i)
      (snapshotVault getAddress registry atBlock full i) := by
  refine Process.degradesTo_catching ?_ (fun _ _ => h) ?_
  · refine Process.strictTo_bind (strictTo_read _ _ _) ?_
    rintro vault _ rfl
    refine Process.strictTo_bind (strictTo_readAddress _ _ _) ?_
    rintro share _ rfl
    exact Process.strictTo_ret (h.push (lowerCase vault) share)
  · intro full' hfull
    obtain ⟨vault, -, hvault⟩ := Process.eval_bind_eq_ok.mp hfull
    obtain ⟨share, -, hshare⟩ := Process.eval_bind_eq_ok.mp hvault
    obtain rfl := Except.ok.inj hshare
    exact h.skip (lowerCase vault) share

/-- An outage only takes vaults away, each with its share. -/
theorem degradesTo_snapshotBlvRegistry (chain : ChainId) {registry contract : String}
    (hcontract : getAddress registry = .ok contract) (atBlock : ℕ) :
    Process.DegradesTo answer BlvSnapshot.PartOf
      (snapshotBlvRegistry getAddress chain.number registry atBlock)
      (snapshotBlvRegistry getAddress chain.number registry atBlock) := by
  have hloop (count : ℕ) : Process.DegradesTo answer BlvSnapshot.PartOf
      (Process.forEach (snapshotVault getAddress contract atBlock) (List.range count) {})
      (Process.forEach (snapshotVault getAddress contract atBlock) (List.range count) {}) :=
    Process.degradesTo_forEach (fun _ _ i _ h => degradesTo_snapshotVault contract atBlock i h)
      BlvSnapshot.partOf_empty
  unfold snapshotBlvRegistry
  rw [onChain_number, withAddress_ok hcontract]
  refine Process.degradesTo_bind (Process.degradesTo_attempt (strictTo_read _ _ _)) ?_
  rintro out full (⟨e, rfl⟩ | rfl)
  · cases full with
    | error e' => exact Process.degradesTo_ret BlvSnapshot.partOf_empty
    | ok count =>
        refine (hloop count).giveUp (fun _ full h => ?_)
        exact ⟨rfl, h.aligned_full, List.nil_sublist _⟩
  · cases out with
    | error e' => exact Process.degradesTo_ret BlvSnapshot.partOf_empty
    | ok count => exact hloop count

theorem degradesTo_snapshotPosition (positionManager wallet : String) (atBlock i : ℕ)
    {out full : List NftPosition} (h : out.Sublist full) :
    Process.DegradesTo answer List.Sublist (snapshotPosition positionManager wallet atBlock out i)
      (snapshotPosition positionManager wallet atBlock full i) := by
  have hposition (tokenId : ℕ) : Process.DegradesTo answer
      (fun out' full' => out.Sublist full' ∧ out'.Sublist full')
      (((readContract positionManager (.positions tokenId) (some atBlock)).bind (fun position =>
        if position.liquidity = 0 then .ret out
        else .ret (out ++ [position.lowerCase]))).catching out)
      (((readContract positionManager (.positions tokenId) (some atBlock)).bind (fun position =>
        if position.liquidity = 0 then .ret full
        else .ret (full ++ [position.lowerCase]))).catching full) := by
    refine Process.degradesTo_catching ?_ (fun _ _ => ⟨h, h⟩) ?_
    · refine Process.strictTo_bind (strictTo_read _ _ _) ?_
      rintro position _ rfl
      by_cases hempty : position.liquidity = 0
      · rw [if_pos hempty, if_pos hempty]
        exact Process.strictTo_ret ⟨h, h⟩
      · rw [if_neg hempty, if_neg hempty]
        exact Process.strictTo_ret ⟨h.trans (List.sublist_append_left full _),
          h.append (List.Sublist.refl _)⟩
    · intro full' hfull
      obtain ⟨position, -, hposition⟩ := Process.eval_bind_eq_ok.mp hfull
      by_cases hempty : position.liquidity = 0
      · rw [if_pos hempty] at hposition
        obtain rfl := Except.ok.inj hposition
        exact ⟨h, h⟩
      · rw [if_neg hempty] at hposition
        obtain rfl := Except.ok.inj hposition
        exact ⟨h.trans (List.sublist_append_left full _), h.trans (List.sublist_append_left full _)⟩
  refine Process.degradesTo_bind (Process.degradesTo_attempt (strictTo_read _ _ _)) ?_
  rintro tokenId tokenId' (⟨e, rfl⟩ | rfl)
  · cases tokenId' with
    | error e' => exact Process.degradesTo_ret h
    | ok tokenId' => exact (hposition tokenId').giveUp (fun _ _ h' => h'.1)
  · cases tokenId with
    | error e' => exact Process.degradesTo_ret h
    | ok tokenId => exact (hposition tokenId).weaken (fun _ _ h' => h'.2)

/-- An outage only takes positions away. -/
theorem degradesTo_snapshotUniv3NftPositions (chain : ChainId)
    {positionManager wallet contract owner : String}
    (hcontract : getAddress positionManager = .ok contract) (howner : getAddress wallet = .ok owner)
    (atBlock : ℕ) :
    Process.DegradesTo answer List.Sublist
      (snapshotUniv3NftPositions getAddress chain.number positionManager wallet atBlock)
      (snapshotUniv3NftPositions getAddress chain.number positionManager wallet atBlock) := by
  have hloop (count : ℕ) : Process.DegradesTo answer List.Sublist
      (Process.forEach (snapshotPosition contract owner atBlock)
        (List.range (min count positionLimit)) [])
      (Process.forEach (snapshotPosition contract owner atBlock)
        (List.range (min count positionLimit)) []) :=
    Process.degradesTo_forEach
      (fun _ _ i _ h => degradesTo_snapshotPosition contract owner atBlock i h)
      (List.Sublist.refl [])
  unfold snapshotUniv3NftPositions
  rw [onChain_number, withAddress_ok hcontract, withAddress_ok howner]
  refine Process.degradesTo_bind (Process.degradesTo_attempt (strictTo_read _ _ _)) ?_
  rintro out full (⟨e, rfl⟩ | rfl)
  · cases full with
    | error e' => exact Process.degradesTo_ret (List.Sublist.refl [])
    | ok count =>
        by_cases hzero : count = 0
        · simp only [hzero, ↓reduceIte]
          exact Process.degradesTo_ret (List.Sublist.refl [])
        · simp only [hzero, ↓reduceIte]
          exact (hloop count).giveUp (fun _ full _ => List.nil_sublist full)
  · cases out with
    | error e' => exact Process.degradesTo_ret (List.Sublist.refl [])
    | ok count =>
        by_cases hzero : count = 0
        · simp only [hzero, ↓reduceIte]
          exact Process.degradesTo_ret (List.Sublist.refl [])
        · simp only [hzero, ↓reduceIte]
          exact hloop count

/-! ### Sums and pools -/

/-- What a staking contract adds to the next distribution, if it is asked. -/
def distributionTerm (getAddress : String → Except RpcError String)
    (answer : (request : Request) → Except RpcError request.Reply) (staking : String) (view : View)
    (distribute : view.Result → ℕ) (atBlock : ℕ) : List ℕ :=
  ((readAddress getAddress staking view (some atBlock)).eval answer).toOption.toList.map distribute

/-- The terms of the next distribution. -/
def distributionTerms (getAddress : String → Except RpcError String)
    (answer : (request : Request) → Except RpcError request.Reply) (contracts : StakingContracts)
    (atBlock : ℕ) : List ℕ :=
  distributionTerm getAddress answer contracts.v1 .ohmToDistributeNextEpoch id atBlock ++
    (if contracts.v2StartBlock < atBlock then
      distributionTerm getAddress answer contracts.v2 .epoch Epoch.distribute atBlock else []) ++
    (if contracts.v3StartBlock < atBlock then
      distributionTerm getAddress answer contracts.v3 .epoch Epoch.distribute atBlock else [])

/-- One sum is that of all terms, and the other that of some of them. -/
structure PartialSum (terms : List ℕ) (out full : ℕ) : Prop where
  full : full = terms.sum
  some : ∃ read : List ℕ, read.Sublist terms ∧ out = read.sum

theorem PartialSum.nil : PartialSum [] 0 0 := ⟨rfl, [], List.Sublist.refl _, rfl⟩

theorem PartialSum.skip {terms : List ℕ} {out full : ℕ} (h : PartialSum terms out full) (x : ℕ) :
    PartialSum (terms ++ [x]) out (full + x) := by
  obtain ⟨read, hread, hout⟩ := h.some
  refine ⟨by simp [h.full], read, hread.trans (List.sublist_append_left terms _), hout⟩

theorem PartialSum.add {terms : List ℕ} {out full : ℕ} (h : PartialSum terms out full) (x : ℕ) :
    PartialSum (terms ++ [x]) (out + x) (full + x) := by
  obtain ⟨read, hread, hout⟩ := h.some
  exact ⟨by simp [h.full], read ++ [x], hread.append (List.Sublist.refl _), by simp [hout]⟩

theorem degradesTo_addDistribution {terms : List ℕ} {out full : ℕ} (h : PartialSum terms out full)
    (staking : String) (view : View) (distribute : view.Result → ℕ) (atBlock : ℕ) :
    Process.DegradesTo answer
      (PartialSum (terms ++ distributionTerm getAddress answer staking view distribute atBlock))
      (addDistribution getAddress out staking view distribute atBlock)
      (addDistribution getAddress full staking view distribute atBlock) := by
  refine degradesTo_read (strictTo_readAddress staking view (some atBlock)) ?_ ?_ ?_
  · intro e he
    rw [distributionTerm, he]
    change PartialSum (terms ++ []) out full
    rwa [List.append_nil]
  · intro value hvalue
    rw [distributionTerm, hvalue]
    exact h.skip (distribute value)
  · intro value hvalue
    rw [distributionTerm, hvalue]
    exact h.add (distribute value)

/-- An outage only takes contracts out of the sum. -/
theorem degradesTo_readNextOhmDistribution (chain : ChainId) (contracts : StakingContracts)
    (atBlock : ℕ) :
    Process.DegradesTo answer
      (PartialSum (distributionTerms getAddress answer contracts atBlock))
      (readNextOhmDistribution getAddress chain.number contracts atBlock)
      (readNextOhmDistribution getAddress chain.number contracts atBlock) := by
  have hgated {terms : List ℕ} {out full : ℕ} (h : PartialSum terms out full) (startBlock : ℕ)
      (staking : String) :
      Process.DegradesTo answer
        (PartialSum (terms ++ if startBlock < atBlock then
          distributionTerm getAddress answer staking .epoch Epoch.distribute atBlock else []))
        (if startBlock < atBlock then
          addDistribution getAddress out staking .epoch Epoch.distribute atBlock else .ret out)
        (if startBlock < atBlock then
          addDistribution getAddress full staking .epoch Epoch.distribute atBlock
          else .ret full) := by
    by_cases hstarted : startBlock < atBlock
    · simp only [if_pos hstarted]
      exact degradesTo_addDistribution h staking _ _ atBlock
    · simp only [if_neg hstarted, List.append_nil]
      exact Process.degradesTo_ret h
  unfold readNextOhmDistribution
  rw [onChain_number]
  refine Process.degradesTo_bind
    (degradesTo_addDistribution PartialSum.nil contracts.v1 _ _ atBlock) ?_
  intro out full h
  refine Process.degradesTo_bind (hgated h contracts.v2StartBlock contracts.v2) ?_
  intro out' full' h'
  exact hgated h' contracts.v3StartBlock contracts.v3

/-- A number is the true one, or it was not read. -/
def ZeroOr (out full : ℕ) : Prop := out = 0 ∨ out = full

theorem degradesTo_number (contract : String) (view : View) (atBlock : ℕ)
    (output : view.Result → ℕ) :
    Process.DegradesTo answer ZeroOr
      (readOr 0 (readContract contract view (some atBlock)) output)
      (readOr 0 (readContract contract view (some atBlock)) output) :=
  degradesTo_read (strictTo_read _ _ _) (fun _ _ => Or.inl rfl) (fun _ _ => Or.inl rfl)
    (fun _ _ => Or.inr rfl)

/-- Each number of a Curve pool is the true one, or it was not read. -/
structure CurvePoolSnapshot.PartOf (out full : CurvePoolSnapshot) : Prop where
  balances : List.Forall₂ ZeroOr out.balances full.balances
  totalSupply : ZeroOr out.totalSupply full.totalSupply

theorem degradesTo_snapshotCurvePool (chain : ChainId) {pool lpToken contract lp : String}
    (hcontract : getAddress pool = .ok contract) (hlp : getAddress lpToken = .ok lp)
    (coinCount atBlock : ℕ) :
    Process.DegradesTo answer CurvePoolSnapshot.PartOf
      (snapshotCurvePool getAddress chain.number pool lpToken coinCount atBlock)
      (snapshotCurvePool getAddress chain.number pool lpToken coinCount atBlock) := by
  unfold snapshotCurvePool
  rw [onChain_number, withAddress_ok hcontract, withAddress_ok hlp]
  refine @Process.degradesTo_bind _ _ _ _ _ _ (List.Forall₂ ZeroOr) _ _ _ _ _ _ _
    (Process.degradesTo_forEach ?_ List.Forall₂.nil) ?_
  · intro out full i _ h
    refine Process.degradesTo_bind (degradesTo_number _ _ _ _) ?_
    intro balance balance' hbalance
    exact Process.degradesTo_ret (List.rel_append h (.cons hbalance .nil))
  · intro out full h
    refine Process.degradesTo_bind (degradesTo_number _ _ _ _) ?_
    intro totalSupply totalSupply' hsupply
    exact Process.degradesTo_ret ⟨h, hsupply⟩

/-- The reserves of a pair are the true ones or both missing, and so is the supply. -/
structure FraxSwapSnapshot.PartOf (out full : FraxSwapSnapshot) : Prop where
  reserves : (out.reserve0 = 0 ∧ out.reserve1 = 0) ∨
    (out.reserve0 = full.reserve0 ∧ out.reserve1 = full.reserve1)
  totalSupply : ZeroOr out.totalSupply full.totalSupply

theorem degradesTo_snapshotFraxSwapPool (chain : ChainId) {pool contract : String}
    (hcontract : getAddress pool = .ok contract) (atBlock : ℕ) :
    Process.DegradesTo answer FraxSwapSnapshot.PartOf
      (snapshotFraxSwapPool getAddress chain.number pool atBlock)
      (snapshotFraxSwapPool getAddress chain.number pool atBlock) := by
  have hreserves : Process.DegradesTo answer (fun out full => out = (⟨0, 0⟩ : Reserves) ∨ out = full)
      (readOr (⟨0, 0⟩ : Reserves) (readContract contract .getReserves (some atBlock)) id)
      (readOr (⟨0, 0⟩ : Reserves) (readContract contract .getReserves (some atBlock)) id) :=
    degradesTo_read (strictTo_read _ _ _) (fun _ _ => Or.inl rfl) (fun _ _ => Or.inl rfl)
      (fun _ _ => Or.inr rfl)
  unfold snapshotFraxSwapPool
  rw [onChain_number, withAddress_ok hcontract]
  refine Process.degradesTo_bind hreserves ?_
  intro out full h
  refine Process.degradesTo_bind (degradesTo_number _ _ _ _) ?_
  intro totalSupply totalSupply' hsupply
  refine Process.degradesTo_ret ⟨?_, hsupply⟩
  rcases h with rfl | rfl
  · exact Or.inl ⟨rfl, rfl⟩
  · exact Or.inr ⟨rfl, rfl⟩

/-! ### Every guarded effect -/

/-- A value is the true one, or a given one in its place. -/
def FallbackOr {α : Type} (fallback out full : α) : Prop := out = fallback ∨ out = full

/-- The effects that return something whatever their reads do, each with what its output keeps of
the output without failures. An address that is resolved outside of the guard is one that
`getAddress` accepts. -/
inductive Guarded (getAddress : String → Except RpcError String)
    (answer : (request : Request) → Except RpcError request.Reply) (chain : ChainId) (atBlock : ℕ) :
    {α : Type} → Effect α → (α → α → Prop) → Prop
  | readCoolerPrincipalReceivables (clearinghouse : String) :
      Guarded getAddress answer chain atBlock
        (readCoolerPrincipalReceivables getAddress chain.number clearinghouse atBlock)
        (FallbackOr none)
  | readMonoCoolerTotalDebt (monoCooler : String) :
      Guarded getAddress answer chain atBlock
        (readMonoCoolerTotalDebt getAddress chain.number monoCooler atBlock) (FallbackOr none)
  | readErc4626AssetsPerShare (vault : String) (shareDecimals : ℕ) :
      Guarded getAddress answer chain atBlock
        (readErc4626AssetsPerShare getAddress chain.number vault shareDecimals atBlock)
        (FallbackOr none)
  | readSOhmCirculatingSupply (sOhm : String) :
      Guarded getAddress answer chain atBlock
        (readSOhmCirculatingSupply getAddress chain.number sOhm atBlock) (FallbackOr none)
  | readErc20BalanceOf (tokenAddress walletAddress : String) :
      Guarded getAddress answer chain atBlock
        (readErc20BalanceOf getAddress chain.number tokenAddress walletAddress atBlock)
        (FallbackOr 0)
  | readChainlinkLatestAnswer (feedAddress : String) :
      Guarded getAddress answer chain atBlock
        (readChainlinkLatestAnswer getAddress chain.number feedAddress atBlock) (FallbackOr 0)
  | readBondManagerState {bondManager contract : String} :
      getAddress bondManager = .ok contract →
      Guarded getAddress answer chain atBlock
        (readBondManagerState getAddress chain.number bondManager atBlock) (FallbackOr .inactive)
  | snapshotBlvRegistry {registry contract : String} : getAddress registry = .ok contract →
      Guarded getAddress answer chain atBlock
        (snapshotBlvRegistry getAddress chain.number registry atBlock) BlvSnapshot.PartOf
  | readNextOhmDistribution (contracts : StakingContracts) :
      Guarded getAddress answer chain atBlock
        (readNextOhmDistribution getAddress chain.number contracts atBlock)
        (PartialSum (distributionTerms getAddress answer contracts atBlock))
  | snapshotCurvePool {pool lpToken contract lp : String} (coinCount : ℕ) :
      getAddress pool = .ok contract → getAddress lpToken = .ok lp →
      Guarded getAddress answer chain atBlock
        (snapshotCurvePool getAddress chain.number pool lpToken coinCount atBlock)
        CurvePoolSnapshot.PartOf
  | snapshotFraxSwapPool {pool contract : String} : getAddress pool = .ok contract →
      Guarded getAddress answer chain atBlock
        (snapshotFraxSwapPool getAddress chain.number pool atBlock) FraxSwapSnapshot.PartOf
  | snapshotUniv3NftPositions {positionManager wallet contract owner : String} :
      getAddress positionManager = .ok contract → getAddress wallet = .ok owner →
      Guarded getAddress answer chain atBlock
        (snapshotUniv3NftPositions getAddress chain.number positionManager wallet atBlock)
        List.Sublist

theorem degradesTo_readOr (chain : ChainId) (fallback : α) {read : Effect γ}
    (hstrict : Process.StrictTo answer Eq read read) (output : γ → α) :
    Process.DegradesTo answer (FallbackOr fallback)
      (onChain chain.number (readOr fallback read output))
      (onChain chain.number (readOr fallback read output)) := by
  rw [onChain_number]
  exact degradesTo_read hstrict (fun _ _ => Or.inl rfl) (fun _ _ => Or.inl rfl)
    (fun _ _ => Or.inr rfl)

theorem Guarded.degradesTo {chain : ChainId} {atBlock : ℕ} {p : Effect α} {R : α → α → Prop}
    (h : Guarded getAddress answer chain atBlock p R) : Process.DegradesTo answer R p p := by
  cases h with
  | readCoolerPrincipalReceivables =>
      exact degradesTo_readOr chain none (strictTo_readAddress _ _ _) some
  | readMonoCoolerTotalDebt => exact degradesTo_readOr chain none (strictTo_readAddress _ _ _) some
  | readErc4626AssetsPerShare =>
      exact degradesTo_readOr chain none (strictTo_readAddress _ _ _) some
  | readSOhmCirculatingSupply =>
      exact degradesTo_readOr chain none (strictTo_readAddress _ _ _) some
  | readErc20BalanceOf =>
      refine degradesTo_readOr chain 0 ?_ id
      exact strictTo_withAddress (fun token =>
        strictTo_withAddress (fun wallet => strictTo_read _ _ _))
  | readChainlinkLatestAnswer => exact degradesTo_readOr chain 0 (strictTo_readAddress _ _ _) id
  | readBondManagerState hcontract =>
      exact degradesTo_readBondManagerState chain hcontract atBlock
  | snapshotBlvRegistry hcontract => exact degradesTo_snapshotBlvRegistry chain hcontract atBlock
  | readNextOhmDistribution => exact degradesTo_readNextOhmDistribution chain _ atBlock
  | snapshotCurvePool coinCount hcontract hlp =>
      exact degradesTo_snapshotCurvePool chain hcontract hlp coinCount atBlock
  | snapshotFraxSwapPool hcontract => exact degradesTo_snapshotFraxSwapPool chain hcontract atBlock
  | snapshotUniv3NftPositions hcontract howner =>
      exact degradesTo_snapshotUniv3NftPositions chain hcontract howner atBlock

/-- An outage never makes a guarded effect fail and never makes up a value: after any failures of
any of its requests it returns part of what it returns when none fails. -/
theorem guarded_of_outage {chain : ChainId} {atBlock : ℕ} {p : Effect α} {R : α → α → Prop}
    (h : Guarded getAddress answer chain atBlock p R) {r : Except RpcError α}
    (hrun : Process.Runs (Unreliable answer) (withRetries p) () (some r) ()) :
    ∃ out full, r = .ok out ∧ p.eval answer = .ok full ∧ R out full :=
  runs_of_degradesTo h.degradesTo hrun

/-! ### Effects without a guard -/

/-- The effects that fail with their read. -/
inductive Unguarded (getAddress : String → Except RpcError String) (chain : ChainId) :
    {α : Type} → Effect α → Prop
  | seedBalancerPool (vault poolId : String) (atBlock : ℕ) :
      Unguarded getAddress chain (seedBalancerPool getAddress chain.number vault poolId atBlock)
  | resolveKodiakUnderlyingPool (kodiakLp : String) :
      Unguarded getAddress chain (resolveKodiakUnderlyingPool getAddress chain.number kodiakLp)
  | readBlockTimestamp (blockNumber : ℕ) :
      Unguarded getAddress chain (readBlockTimestamp chain.number blockNumber)

theorem Unguarded.strictTo {chain : ChainId} {p : Effect α} (h : Unguarded getAddress chain p) :
    Process.StrictTo answer Eq p p := by
  cases h with
  | seedBalancerPool vault poolId atBlock =>
      rw [Effects.seedBalancerPool, onChain_number]
      refine Process.strictTo_bind (strictTo_readAddress _ _ _) ?_
      rintro result _ rfl
      exact Process.strictTo_ret rfl
  | resolveKodiakUnderlyingPool kodiakLp =>
      rw [Effects.resolveKodiakUnderlyingPool, onChain_number]
      refine Process.strictTo_bind (strictTo_readAddress _ _ _) ?_
      rintro underlying _ rfl
      exact Process.strictTo_ret rfl
  | readBlockTimestamp blockNumber =>
      rw [Effects.readBlockTimestamp, onChain_number]
      exact Process.strictTo_await _

/-- An effect without a guard returns what it returns without failures, or fails. -/
theorem unguarded_of_outage {chain : ChainId} {p : Effect α} (h : Unguarded getAddress chain p)
    {out : α}
    (hrun : Process.Runs (Unreliable answer) (withRetries p) () (some (.ok out)) ()) :
    p.eval answer = .ok out := by
  obtain ⟨full, hfull, rfl⟩ := runs_of_strictTo h.strictTo hrun
  exact hfull

end

/-! ### A registry of two vaults -/

def firstVault : String := "0xafe729d57d2CC58978C2e01b4EC39C47FB7C4b23"

def secondVault : String := "0xD4e4B04a58f16d2c7c4E6D8A3A3B8D3C5b5c0A11"

/-- The checksummed forms of the registry and of its vaults. -/
def vaultAddress (address : String) : Except RpcError String :=
  if address = "0x375e06c694b5e50af8be8fb03495a612ea3e2275" then
    .ok "0x375E06C694B5E50aF8be8FB03495A612eA3e2275"
  else if address = firstVault ∨ address = secondVault then .ok address
  else .error (.ofMessage ("Address \"" ++ address ++ "\" is invalid."))

def twoVaults : (request : Request) → Except RpcError request.Reply
  | .readContract _ .activeVaultCount _ => .ok 2
  | .readContract _ (.activeVaults i) _ => .ok (if i = 0 then firstVault else secondVault)
  | .readContract _ .getPoolOhmShare _ => .ok 5
  | .readContract _ _ _ => .error .primitive
  | .getBlock _ => .error .primitive

/-- The first vault's share cannot be read. -/
theorem guarded_of_outage_twoVaults :
    ∃ out full,
      (.ok ⟨["0xd4e4b04a58f16d2c7c4e6d8a3a3b8d3c5b5c0a11"], [5]⟩ :
        Except RpcError BlvSnapshot) = .ok out ∧
      (snapshotBlvRegistry vaultAddress 1 "0x375e06c694b5e50af8be8fb03495a612ea3e2275"
        18000000).eval twoVaults = .ok full ∧ out.PartOf full := by
  have hregistry : vaultAddress "0x375e06c694b5e50af8be8fb03495a612ea3e2275" =
      .ok "0x375E06C694B5E50aF8be8FB03495A612eA3e2275" := rfl
  have hrun : Process.Runs (Unreliable twoVaults)
      (withRetries (snapshotBlvRegistry vaultAddress ChainId.ethereum.number
        "0x375e06c694b5e50af8be8fb03495a612ea3e2275" 18000000)) ()
      (some (.ok ⟨["0xd4e4b04a58f16d2c7c4e6d8a3a3b8d3c5b5c0a11"], [5]⟩)) () := by
    rw [snapshotBlvRegistry, onChain_number, withAddress_ok hregistry]
    refine .call (unreliable_sent (Request.readContract _ .activeVaultCount _)) ?_
    refine .call (unreliable_sent (Request.readContract _ (.activeVaults 0) _)) ?_
    refine .call
      (unreliable_lost (Request.readContract firstVault .getPoolOhmShare (some 18000000))
        .primitive) ?_
    refine .call (unreliable_sent (Request.readContract _ (.activeVaults 1) _)) ?_
    exact .call (unreliable_sent (Request.readContract secondVault .getPoolOhmShare _)) .ret
  exact guarded_of_outage (Guarded.snapshotBlvRegistry hregistry) hrun

end OlympusMetrics.Effects
