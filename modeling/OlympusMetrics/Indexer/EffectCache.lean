import OlympusMetrics.Indexer.Effects

/-!
Snapshots over the cached effects.

A snapshot awaits effects one after another and fails with the first that
fails. What an effect returns is kept in a cache for good, also when the
snapshot fails after it. Every snapshot and every outcome of the requests is
allowed, whatever the snapshots make of what they are given.
-/

namespace OlympusMetrics.Effects

open RpcClient

/-! ### Calls of effects -/

/-- The value of a hexadecimal digit. -/
def hexDigit (c : Char) : ℕ :=
  if c.isDigit then c.toNat - '0'.toNat
  else if 'a' ≤ c ∧ c ≤ 'f' then c.toNat - 'a'.toNat + 10
  else c.toNat - 'A'.toNat + 10

/-- The characters of the bytes before the first zero byte. -/
def decodeDigits : List Char → List Char
  | high :: low :: rest =>
      let byte := 16 * hexDigit high + hexDigit low
      if byte = 0 then [] else Char.ofNat byte :: decodeDigits rest
  | _ => []

def decodeKeycode (raw : String) : String := String.ofList (decodeDigits (raw.toList.drop 2))

/-- A module's keycode; the effect fails with its read. -/
def resolveBophadesKeycode (getAddress : String → Except RpcError String) (chainId : ℕ)
    (moduleAddress : String) : Effect String :=
  onChain chainId ((readAddress getAddress moduleAddress .keycode none).bind (fun raw =>
    .ret (decodeKeycode raw)))

/-- A cached effect with its input, but for the chain. -/
inductive EffectInput
  | seedBalancerPool (vault poolId : String) (atBlock : ℕ)
  | resolveBophadesKeycode (moduleAddress : String)
  | resolveKodiakUnderlyingPool (kodiakLp : String)
  | readBlockTimestamp (blockNumber : ℕ)
  | readCoolerPrincipalReceivables (clearinghouse : String) (atBlock : ℕ)
  | readMonoCoolerTotalDebt (monoCooler : String) (atBlock : ℕ)
  | snapshotBlvRegistry (registry : String) (atBlock : ℕ)
  | readBondManagerState (bondManager : String) (atBlock : ℕ)
  | readErc4626AssetsPerShare (vault : String) (shareDecimals atBlock : ℕ)
  | readSOhmCirculatingSupply (sOhm : String) (atBlock : ℕ)
  | readNextOhmDistribution (contracts : StakingContracts) (atBlock : ℕ)
  | snapshotCurvePool (pool lpToken : String) (coinCount atBlock : ℕ)
  | snapshotFraxSwapPool (pool : String) (atBlock : ℕ)
  | snapshotUniv3NftPositions (positionManager wallet : String) (atBlock : ℕ)
  | readErc20BalanceOf (tokenAddress walletAddress : String) (atBlock : ℕ)
  | readChainlinkLatestAnswer (feedAddress : String) (atBlock : ℕ)
  deriving DecidableEq

@[reducible] def EffectInput.Output : EffectInput → Type
  | .seedBalancerPool _ _ _ => BalancerPools.PoolTokens
  | .resolveBophadesKeycode _ | .resolveKodiakUnderlyingPool _ => String
  | .readBlockTimestamp _ | .readErc20BalanceOf _ _ _ | .readNextOhmDistribution _ _ => ℕ
  | .readCoolerPrincipalReceivables _ _ | .readMonoCoolerTotalDebt _ _
  | .readErc4626AssetsPerShare _ _ _ | .readSOhmCirculatingSupply _ _ => Option ℕ
  | .snapshotBlvRegistry _ _ => BlvSnapshot
  | .readBondManagerState _ _ => BondManagerState
  | .snapshotCurvePool _ _ _ _ => CurvePoolSnapshot
  | .snapshotFraxSwapPool _ _ => FraxSwapSnapshot
  | .snapshotUniv3NftPositions _ _ _ => List NftPosition
  | .readChainlinkLatestAnswer _ _ => ℤ

/-- The effects that catch no error of their requests. -/
def EffectInput.isUnguarded : EffectInput → Bool
  | .seedBalancerPool _ _ _ | .resolveBophadesKeycode _ | .resolveKodiakUnderlyingPool _
  | .readBlockTimestamp _ => true
  | _ => false

section

variable (getAddress : String → Except RpcError String) (chain : ChainId)

/-- The body of an effect for a chain of the indexer. -/
def EffectInput.body : (input : EffectInput) → Effect input.Output
  | .seedBalancerPool vault poolId atBlock =>
      Effects.seedBalancerPool getAddress chain.number vault poolId atBlock
  | .resolveBophadesKeycode moduleAddress =>
      Effects.resolveBophadesKeycode getAddress chain.number moduleAddress
  | .resolveKodiakUnderlyingPool kodiakLp =>
      Effects.resolveKodiakUnderlyingPool getAddress chain.number kodiakLp
  | .readBlockTimestamp blockNumber => Effects.readBlockTimestamp chain.number blockNumber
  | .readCoolerPrincipalReceivables clearinghouse atBlock =>
      Effects.readCoolerPrincipalReceivables getAddress chain.number clearinghouse atBlock
  | .readMonoCoolerTotalDebt monoCooler atBlock =>
      Effects.readMonoCoolerTotalDebt getAddress chain.number monoCooler atBlock
  | .snapshotBlvRegistry registry atBlock =>
      Effects.snapshotBlvRegistry getAddress chain.number registry atBlock
  | .readBondManagerState bondManager atBlock =>
      Effects.readBondManagerState getAddress chain.number bondManager atBlock
  | .readErc4626AssetsPerShare vault shareDecimals atBlock =>
      Effects.readErc4626AssetsPerShare getAddress chain.number vault shareDecimals atBlock
  | .readSOhmCirculatingSupply sOhm atBlock =>
      Effects.readSOhmCirculatingSupply getAddress chain.number sOhm atBlock
  | .readNextOhmDistribution contracts atBlock =>
      Effects.readNextOhmDistribution getAddress chain.number contracts atBlock
  | .snapshotCurvePool pool lpToken coinCount atBlock =>
      Effects.snapshotCurvePool getAddress chain.number pool lpToken coinCount atBlock
  | .snapshotFraxSwapPool pool atBlock =>
      Effects.snapshotFraxSwapPool getAddress chain.number pool atBlock
  | .snapshotUniv3NftPositions positionManager wallet atBlock =>
      Effects.snapshotUniv3NftPositions getAddress chain.number positionManager wallet atBlock
  | .readErc20BalanceOf tokenAddress walletAddress atBlock =>
      Effects.readErc20BalanceOf getAddress chain.number tokenAddress walletAddress atBlock
  | .readChainlinkLatestAnswer feedAddress atBlock =>
      Effects.readChainlinkLatestAnswer getAddress chain.number feedAddress atBlock

end

/-- A call of a cached effect. -/
structure EffectCall where
  chain : ChainId
  input : EffectInput
  deriving DecidableEq

@[reducible] def EffectCall.Output (call : EffectCall) : Type := call.input.Output

/-! ### Snapshots -/

/-- What a snapshot does: it awaits effects, and nothing catches what they throw. -/
inductive Snapshot
  | commit
  | fail (error : RpcError)
  | effect (call : EffectCall) (next : call.Output → Snapshot)

/-- The outputs that a snapshot was given, the first one first. -/
abbrev UsedValues := List ((call : EffectCall) × call.Output)

structure IndexerState where
  /-- The outputs that are kept for good. -/
  cache : (call : EffectCall) → Option call.Output
  /-- What each committed snapshot was given. -/
  committed : List UsedValues
  /-- What is left of the snapshot that runs, and what it was given so far. -/
  running : Option (Snapshot × UsedValues)

def IndexerState.initial : IndexerState where
  cache := fun _ => none
  committed := []
  running := none

/-- One step of the indexer, when the effects may end as `fetches` says. -/
inductive IndexerStep (fetches : (call : EffectCall) → Except RpcError call.Output → Prop) :
    IndexerState → IndexerState → Prop
  /-- A snapshot begins: any one, for any block and any indexed state. -/
  | start {state : IndexerState} (snapshot : Snapshot) : state.running = none →
      IndexerStep fetches state { state with running := some (snapshot, []) }
  | cached {state : IndexerState} {call : EffectCall} {next : call.Output → Snapshot}
      {used : UsedValues} {out : call.Output} :
      state.running = some (.effect call next, used) → state.cache call = some out →
      IndexerStep fetches state { state with running := some (next out, used ++ [⟨call, out⟩]) }
  | fetched {state : IndexerState} {call : EffectCall} {next : call.Output → Snapshot}
      {used : UsedValues} {out : call.Output} :
      state.running = some (.effect call next, used) → state.cache call = none →
      fetches call (.ok out) →
      IndexerStep fetches state
        { state with
          cache := Function.update state.cache call (some out)
          running := some (next out, used ++ [⟨call, out⟩]) }
  /-- An effect fails, and the snapshot with it: nothing is committed. -/
  | failed {state : IndexerState} {call : EffectCall} {next : call.Output → Snapshot}
      {used : UsedValues} {error : RpcError} :
      state.running = some (.effect call next, used) → state.cache call = none →
      fetches call (.error error) →
      IndexerStep fetches state { state with running := none }
  | threw {state : IndexerState} {error : RpcError} {used : UsedValues} :
      state.running = some (.fail error, used) →
      IndexerStep fetches state { state with running := none }
  | committed {state : IndexerState} {used : UsedValues} :
      state.running = some (.commit, used) →
      IndexerStep fetches state
        { state with committed := state.committed ++ [used], running := none }

/-- What any run of snapshots can reach. -/
def IndexerReaches (fetches : (call : EffectCall) → Except RpcError call.Output → Prop) :
    IndexerState → IndexerState → Prop :=
  Relation.ReflTransGen (IndexerStep fetches)

section

variable (getAddress : String → Except RpcError String)
  (answer : ChainId → (request : Request) → Except RpcError request.Reply)

/-- An effect on a network on which any request may fail at any attempt. -/
def Fetches (call : EffectCall) (r : Except RpcError call.Output) : Prop :=
  Process.Runs (Unreliable (answer call.chain))
    (withRetries (call.input.body getAddress call.chain)) () (some r) ()

/-- An effect of which every request gets its value or its revert in the end, within its
attempts. -/
def FetchesThrough (call : EffectCall) (r : Except RpcError call.Output) : Prop :=
  ∃ failures, Process.Runs (Flaky (answer call.chain))
    (withRetries (call.input.body getAddress call.chain)) 0 (some r) failures

/-- No request that is made inside of a `try` fails through all attempts. -/
def FetchesGuarded (call : EffectCall) (r : Except RpcError call.Output) : Prop :=
  if call.input.isUnguarded then Fetches getAddress answer call r
  else FetchesThrough getAddress answer call r

/-- An output is the one without transport errors. -/
def IsTrue (call : EffectCall) (out : call.Output) : Prop :=
  (call.input.body getAddress call.chain).eval (answer call.chain) = .ok out

/-- Every value that a committed snapshot used, and every value that is remembered, is what the
effect returns when no transport error occurs. -/
structure IndexerState.HoldsTruth (state : IndexerState) : Prop where
  committed : ∀ used ∈ state.committed, ∀ entry ∈ used, IsTrue getAddress answer entry.1 entry.2
  cache : ∀ call out, state.cache call = some out → IsTrue getAddress answer call out

end

/-! ### What a run holds -/

section

variable {getAddress : String → Except RpcError String}
  {answer : ChainId → (request : Request) → Except RpcError request.Reply}

theorem strictTo_resolveBophadesKeycode
    {answer : (request : Request) → Except RpcError request.Reply} (chain : ChainId)
    (moduleAddress : String) :
    Process.StrictTo answer Eq (resolveBophadesKeycode getAddress chain.number moduleAddress)
      (resolveBophadesKeycode getAddress chain.number moduleAddress) := by
  rw [resolveBophadesKeycode, onChain_number]
  refine Process.strictTo_bind (strictTo_readAddress _ _ _) ?_
  rintro raw _ rfl
  exact Process.strictTo_ret rfl

/-- An effect without a guard returns what it returns without transport errors, or fails. -/
theorem isTrue_of_fetches {call : EffectCall} (hunguarded : call.input.isUnguarded = true)
    {out : call.Output} (h : Fetches getAddress answer call (.ok out)) :
    IsTrue getAddress answer call out := by
  obtain ⟨chain, input⟩ := call
  cases input with
  | seedBalancerPool vault poolId atBlock =>
      exact unguarded_of_outage (Unguarded.seedBalancerPool vault poolId atBlock) h
  | resolveBophadesKeycode moduleAddress =>
      obtain ⟨full, hfull, rfl⟩ :=
        runs_of_strictTo (strictTo_resolveBophadesKeycode chain moduleAddress) h
      exact hfull
  | resolveKodiakUnderlyingPool kodiakLp =>
      exact unguarded_of_outage (Unguarded.resolveKodiakUnderlyingPool kodiakLp) h
  | readBlockTimestamp blockNumber =>
      exact unguarded_of_outage (@Unguarded.readBlockTimestamp getAddress chain blockNumber) h
  | _ => cases hunguarded

/-- What an effect returns is true, if no request inside of a `try` fails through all attempts. -/
theorem isTrue_of_fetchesGuarded
    (hreverts : ∀ chain request error, answer chain request = .error error →
      isRetryableRpcError error = false) {call : EffectCall} {out : call.Output}
    (h : FetchesGuarded getAddress answer call (.ok out)) : IsTrue getAddress answer call out := by
  unfold FetchesGuarded at h
  split at h
  case isTrue hunguarded => exact isTrue_of_fetches hunguarded h
  case isFalse =>
    obtain ⟨failures, hrun⟩ := h
    exact (withRetries_flaky _ (hreverts call.chain) hrun).symm

/-- What an effect does when its requests get through is among what it may do. -/
theorem fetches_of_fetchesGuarded {call : EffectCall} {r : Except RpcError call.Output}
    (h : FetchesGuarded getAddress answer call r) : Fetches getAddress answer call r := by
  unfold FetchesGuarded at h
  split at h
  case isTrue => exact h
  case isFalse =>
    obtain ⟨failures, hrun⟩ := h
    refine hrun.forget (fun _ => ()) (fun op failures r failures' hexec => ?_)
    cases op with
    | sleep ms => exact hexec.1
    | send request =>
        intro x hx
        rcases hexec with ⟨hr, -⟩ | ⟨error, hr, -⟩
        · exact hr.symm.trans hx
        · cases hr.symm.trans hx

/-- The values that the running snapshot was given are true too. -/
structure IndexerState.UsesTruth (getAddress : String → Except RpcError String)
    (answer : ChainId → (request : Request) → Except RpcError request.Reply)
    (state : IndexerState) : Prop extends state.HoldsTruth getAddress answer where
  running : ∀ snapshot used, state.running = some (snapshot, used) → ∀ entry ∈ used,
    IsTrue getAddress answer entry.1 entry.2

theorem IndexerState.usesTruth_initial : IndexerState.initial.UsesTruth getAddress answer where
  committed := fun used hused => absurd hused List.not_mem_nil
  cache := fun call out h => by cases h
  running := fun snapshot used h => by cases h

/-- Every step keeps to the truth, if what it fetches is true. -/
theorem IndexerState.UsesTruth.step {state state' : IndexerState}
    {fetches : (call : EffectCall) → Except RpcError call.Output → Prop}
    (hfetches : ∀ call out, fetches call (.ok out) → IsTrue getAddress answer call out)
    (h : state.UsesTruth getAddress answer) (hstep : IndexerStep fetches state state') :
    state'.UsesTruth getAddress answer := by
  have happend {used : UsedValues} {call : EffectCall} {out : call.Output}
      (hused : ∀ entry ∈ used, IsTrue getAddress answer entry.1 entry.2)
      (hout : IsTrue getAddress answer call out) :
      ∀ entry ∈ used ++ [⟨call, out⟩], IsTrue getAddress answer entry.1 entry.2 := by
    intro entry hentry
    rcases List.mem_append.mp hentry with hentry | hentry
    · exact hused entry hentry
    · obtain rfl := List.mem_singleton.mp hentry
      exact hout
  cases hstep with
  | start snapshot hrunning =>
      refine ⟨⟨h.committed, h.cache⟩, fun snapshot' used hused => ?_⟩
      obtain ⟨-, rfl⟩ := Prod.mk.inj (Option.some.inj hused)
      exact fun entry hentry => absurd hentry List.not_mem_nil
  | cached hrunning hcached =>
      refine ⟨⟨h.committed, h.cache⟩, fun snapshot' used hused => ?_⟩
      obtain ⟨-, rfl⟩ := Prod.mk.inj (Option.some.inj hused)
      exact happend (h.running _ _ hrunning) (h.cache _ _ hcached)
  | @fetched call next used out hrunning hcached hfetched =>
      have hout := hfetches call out hfetched
      refine ⟨⟨h.committed, fun call' out' hcall' => ?_⟩, fun snapshot' used hused => ?_⟩
      · dsimp only at hcall'
        by_cases hcall : call' = call
        · subst hcall
          rw [Function.update_self] at hcall'
          obtain rfl := Option.some.inj hcall'
          exact hout
        · rw [Function.update_of_ne hcall] at hcall'
          exact h.cache call' out' hcall'
      · obtain ⟨-, rfl⟩ := Prod.mk.inj (Option.some.inj hused)
        exact happend (h.running _ _ hrunning) hout
  | failed => exact ⟨⟨h.committed, h.cache⟩, fun snapshot used hused => by cases hused⟩
  | threw => exact ⟨⟨h.committed, h.cache⟩, fun snapshot used hused => by cases hused⟩
  | committed hrunning =>
      refine ⟨⟨fun used hused => ?_, h.cache⟩, fun snapshot used hused => by cases hused⟩
      rcases List.mem_append.mp hused with hused | hused
      · exact h.committed used hused
      · obtain rfl := List.mem_singleton.mp hused
        exact h.running _ _ hrunning

/-- An outage becomes no data in a run in which no request inside of a `try` fails through all its
attempts: each committed snapshot used, and the cache remembers, what the effects return when no
transport error occurs. -/
theorem holdsTruth_of_run
    (hreverts : ∀ chain request error, answer chain request = .error error →
      isRetryableRpcError error = false) {state : IndexerState}
    (hrun : IndexerReaches (FetchesGuarded getAddress answer) .initial state) :
    state.HoldsTruth getAddress answer := by
  have huses : state.UsesTruth getAddress answer := by
    induction hrun with
    | refl => exact IndexerState.usesTruth_initial
    | tail _ hstep ih =>
        exact ih.step (fun call out hout => isTrue_of_fetchesGuarded hreverts hout) hstep
  exact huses.toHoldsTruth

end

/-! ### A registry of two vaults -/

section

variable {answer : (request : Request) → Except RpcError request.Reply} {α : Type}
  {request : Request} {next : Except RpcError request.Reply → Effect α}
  {out : Option (Except RpcError α)}

theorem unreliable_slept (ms : ℕ) : Unreliable answer (.sleep ms) () (.ok ()) () := rfl

/-- A request that fails six times in a row is lost. -/
theorem runs_lost (h : Process.Runs (Unreliable answer) (withRetries (next (.error lostBlock))) ()
    out ()) : Process.Runs (Unreliable answer) (withRetries (.call request next)) () out () := by
  refine .call (unreliable_lost request lostBlock) (.call (unreliable_slept _) ?_)
  refine .call (unreliable_lost request lostBlock) (.call (unreliable_slept _) ?_)
  refine .call (unreliable_lost request lostBlock) (.call (unreliable_slept _) ?_)
  refine .call (unreliable_lost request lostBlock) (.call (unreliable_slept _) ?_)
  refine .call (unreliable_lost request lostBlock) (.call (unreliable_slept _) ?_)
  exact .call (unreliable_lost request lostBlock) h

end

/-- The vaults of the registry at a block. -/
def vaultCall : EffectCall :=
  ⟨.ethereum, .snapshotBlvRegistry "0x375e06c694b5e50af8be8fb03495a612ea3e2275" 18000000⟩

def timestampCall : EffectCall := ⟨.ethereum, .readBlockTimestamp 18000000⟩

/-- A snapshot that reads the vaults. -/
def vaultSnapshot : Snapshot := .effect vaultCall (fun _ => .commit)

/-- A snapshot that reads the block's timestamp after the vaults. -/
def timestampSnapshot : Snapshot :=
  .effect vaultCall (fun _ => .effect timestampCall (fun _ => .commit))

/-- The state after a snapshot is committed with some vaults. -/
def vaultsCommitted (vaults : BlvSnapshot) : IndexerState where
  cache := Function.update (fun _ => none) vaultCall (some vaults)
  committed := [[⟨vaultCall, vaults⟩]]
  running := none

def bothVaults : BlvSnapshot :=
  ⟨["0xafe729d57d2cc58978c2e01b4ec39c47fb7c4b23", "0xd4e4b04a58f16d2c7c4e6d8a3a3b8d3c5b5c0a11"],
    [5, 5]⟩

def secondVaultOnly : BlvSnapshot := ⟨["0xd4e4b04a58f16d2c7c4e6d8a3a3b8d3c5b5c0a11"], [5]⟩

theorem eval_vaultCall :
    (vaultCall.input.body vaultAddress vaultCall.chain).eval twoVaults = .ok bothVaults := rfl

theorem registry_ok : vaultAddress "0x375e06c694b5e50af8be8fb03495a612ea3e2275" =
    .ok "0x375E06C694B5E50aF8be8FB03495A612eA3e2275" := rfl

theorem body_vaultCall : vaultCall.input.body vaultAddress vaultCall.chain =
    snapshotBlvRegistry vaultAddress ChainId.ethereum.number
      "0x375e06c694b5e50af8be8fb03495a612ea3e2275" 18000000 := rfl

theorem revert_of_twoVaults (_ : ChainId) (request : Request) (error : RpcError)
    (h : twoVaults request = .error error) : isRetryableRpcError error = false := by
  cases request with
  | getBlock blockNumber =>
      cases h
      rfl
  | readContract address view blockNumber => cases view <;> cases h <;> rfl

/-- The share of the first vault fails once and is read again. -/
theorem fetchesThrough_bothVaults :
    FetchesThrough vaultAddress (fun _ => twoVaults) vaultCall (.ok bothVaults) := by
  unfold FetchesThrough
  rw [body_vaultCall, snapshotBlvRegistry, onChain_number, withAddress_ok registry_ok]
  refine ⟨0, .call (Or.inl ⟨rfl, rfl⟩) (.call (Or.inl ⟨rfl, rfl⟩) ?_)⟩
  refine .call (Or.inr ⟨lostBlock, rfl, by decide, rfl, by decide⟩) (.call ⟨rfl, rfl⟩ ?_)
  exact .call (Or.inl ⟨rfl, rfl⟩) (.call (Or.inl ⟨rfl, rfl⟩) (.call (Or.inl ⟨rfl, rfl⟩) .ret))

/-- The block's timestamp cannot be read, and the first snapshot fails; the second one is given the
vaults that are remembered. -/
theorem holdsTruth_bothVaults :
    (vaultsCommitted bothVaults).HoldsTruth vaultAddress (fun _ => twoVaults) := by
  have hfailed : Fetches vaultAddress (fun _ => twoVaults) timestampCall (.error .primitive) :=
    .call (unreliable_lost (Request.getBlock 18000000) .primitive) .throw
  have hcached : Function.update IndexerState.initial.cache vaultCall (some bothVaults) vaultCall =
      some bothVaults := Function.update_self _ _ _
  have hrun : IndexerReaches (FetchesGuarded vaultAddress (fun _ => twoVaults)) .initial
      (vaultsCommitted bothVaults) := by
    refine .head (.start timestampSnapshot rfl) ?_
    refine .head (.fetched rfl rfl fetchesThrough_bothVaults) ?_
    refine .head (.failed rfl rfl hfailed) ?_
    refine .head (.start vaultSnapshot rfl) ?_
    refine .head (.cached rfl hcached) ?_
    exact .single (.committed rfl)
  exact holdsTruth_of_run revert_of_twoVaults hrun

/-- The share of the first vault is lost. -/
theorem fetches_secondVaultOnly :
    Fetches vaultAddress (fun _ => twoVaults) vaultCall (.ok secondVaultOnly) := by
  unfold Fetches
  rw [body_vaultCall, snapshotBlvRegistry, onChain_number, withAddress_ok registry_ok]
  refine .call (unreliable_sent (Request.readContract _ .activeVaultCount _)) ?_
  refine .call (unreliable_sent (Request.readContract _ (.activeVaults 0) _)) ?_
  refine runs_lost ?_
  refine .call (unreliable_sent (Request.readContract _ (.activeVaults 1) _)) ?_
  exact .call (unreliable_sent (Request.readContract secondVault .getPoolOhmShare _)) .ret

/-- A snapshot commits without the first vault, and the cache keeps it so. -/
theorem not_holdsTruth_of_outage :
    ¬ ∀ (answer : ChainId → (request : Request) → Except RpcError request.Reply)
      (state : IndexerState),
      (∀ chain request error, answer chain request = .error error →
        isRetryableRpcError error = false) →
      IndexerReaches (Fetches vaultAddress answer) .initial state →
      state.HoldsTruth vaultAddress answer := by
  intro h
  have hrun : IndexerReaches (Fetches vaultAddress (fun _ => twoVaults)) .initial
      (vaultsCommitted secondVaultOnly) := by
    refine .head (.start vaultSnapshot rfl) ?_
    refine .head (.fetched rfl rfl fetches_secondVaultOnly) ?_
    exact .single (.committed rfl)
  have htruth := h (fun _ => twoVaults) _ revert_of_twoVaults hrun
  have heval := htruth.committed _ List.mem_cons_self _ List.mem_cons_self
  have hsame : bothVaults = secondVaultOnly :=
    Except.ok.inj (eval_vaultCall.symm.trans heval)
  exact absurd hsame (by decide)

end OlympusMetrics.Effects
