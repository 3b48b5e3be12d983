import OlympusMetrics.Chains.Index
import OlympusMetrics.Library.EntityTable
import Mathlib.Data.List.TakeWhile
import Mathlib.Algebra.BigOperators.Group.List.Basic
import Mathlib.Tactic.Linarith
import Mathlib.Tactic.Ring

/-!
The Balancer pool ledger: seeded from the vault at its first event and then
maintained from the vault's events.
-/

namespace OlympusMetrics.BalancerPools

/-- The vault events that move tokens of one pool. The three arrays of a balance change run in
parallel. -/
inductive VaultEvent
  | poolBalanceChanged (tokens : List String) (deltas protocolFeeAmounts : List ℤ)
  | swap (tokenIn tokenOut : String) (amountIn amountOut : ℤ)
  deriving DecidableEq

structure VaultLog where
  poolId : String
  block : ℕ
  timestamp : ℕ
  logIndex : ℕ
  event : VaultEvent
  deriving DecidableEq

structure BalancerPoolState where
  id : String
  chainId : ChainId
  poolId : String
  tokens : List String
  balances : List ℤ
  updatedAtBlock : ℕ
  deriving DecidableEq

structure BalancerPoolUpdate where
  id : String
  chainId : ChainId
  poolId : String
  tokens : List String
  balances : List ℤ
  block : ℕ
  timestamp : ℕ
  deriving DecidableEq

structure BalancerStore where
  balancerPoolState : EntityTable BalancerPoolState.id
  balancerPoolUpdate : EntityTable BalancerPoolUpdate.id

def BalancerStore.empty : BalancerStore := ⟨∅, ∅⟩

/-- `poolIdsForChain`. -/
def poolIdsForChain (chainId : ChainId) : List String :=
  ((chainConfigs chainId).liquidityHandlers.filter (fun handler =>
    match handler.kind with | .balancer _ => true | _ => false)).map (·.id)

def balancerPoolStateId (chainId : ChainId) (poolId : String) : String :=
  toString chainId.number ++ "-" ++ poolId

/-- `setBalancerPoolBoth`: the running state and the immutable row of the event. -/
def setBalancerPoolBoth (state : BalancerPoolState) (block timestamp logIndex : ℕ)
    (store : BalancerStore) : BalancerStore where
  balancerPoolState := store.balancerPoolState.set state
  balancerPoolUpdate := store.balancerPoolUpdate.set
    { id := balancerPoolStateId state.chainId state.poolId ++ "-" ++ toString block ++ "-" ++
        toString logIndex
      chainId := state.chainId
      poolId := state.poolId
      tokens := state.tokens
      balances := state.balances
      block := block
      timestamp := timestamp }

/-- The result of `getPoolTokens` for a pool at a block, as `seedBalancerPool` returns it. -/
structure PoolTokens where
  tokens : List String
  balances : List ℤ
  deriving DecidableEq

/-- `indexOfToken`, `none` for a negative index. -/
def indexOfToken (tokens : List String) (target : String) : Option ℕ :=
  tokens.findIdx? (fun value => value == target)

/-- One step of the loop of the balance change: a token the state does not list is skipped. -/
def applyDelta (tokens : List String) (balances : List ℤ) (token : String) (delta : ℤ) : List ℤ :=
  match indexOfToken tokens token with
  | none => balances
  | some idx => balances.modify idx (· + delta)

/-- The balances after an event, from those of the stored state. -/
def VaultEvent.applyTo (tokens : List String) (balances : List ℤ) : VaultEvent → List ℤ
  | .poolBalanceChanged eventTokens deltas fees =>
      (eventTokens.zip (deltas.zip fees)).foldl (fun balances change =>
        applyDelta tokens balances change.1 (change.2.1 - change.2.2)) balances
  | .swap tokenIn tokenOut amountIn amountOut =>
      match indexOfToken tokens tokenIn, indexOfToken tokens tokenOut with
      | some _, some _ =>
          applyDelta tokens (applyDelta tokens balances tokenIn amountIn) tokenOut (-amountOut)
      | _, _ => balances

/-- Whether the handler of an event writes: a swap of a token that is not listed returns early. -/
def VaultEvent.writes (tokens : List String) : VaultEvent → Bool
  | .poolBalanceChanged .. => true
  | .swap tokenIn tokenOut _ _ =>
      (indexOfToken tokens tokenIn).isSome && (indexOfToken tokens tokenOut).isSome

section Handlers

variable (chainId : ChainId) (seedBalancerPool : String → ℕ → PoolTokens)

/-- The handlers of `PoolBalanceChanged` and `Swap`. An unknown pool is seeded at the event's
block by `ensurePoolState`, and the event itself is then not applied. -/
def handle (store : BalancerStore) (log : VaultLog) : BalancerStore :=
  let id := balancerPoolStateId chainId log.poolId
  match store.balancerPoolState.get id with
  | none =>
      let seed := seedBalancerPool log.poolId log.block
      setBalancerPoolBoth
        { id := id
          chainId := chainId
          poolId := log.poolId
          tokens := seed.tokens
          balances := seed.balances
          updatedAtBlock := log.block } log.block log.timestamp log.logIndex store
  | some state =>
      if log.event.writes state.tokens then
        setBalancerPoolBoth
          { state with
            balances := log.event.applyTo state.tokens state.balances
            updatedAtBlock := log.block } log.block log.timestamp log.logIndex store
      else store

/-- The vault's logs that reach the handlers are those of the configured pools. -/
def process (store : BalancerStore) (logs : List VaultLog) : BalancerStore :=
  (logs.filter (fun log => (poolIdsForChain chainId).contains log.poolId)).foldl
    (handle chainId seedBalancerPool) store

end Handlers

/-- The handler of `TokensRegistered`: an unknown pool starts with zero balances. -/
def handleTokensRegistered (chainId : ChainId) (poolId : String) (tokens : List String)
    (block timestamp logIndex : ℕ) (store : BalancerStore) : BalancerStore :=
  let id := balancerPoolStateId chainId poolId
  match store.balancerPoolState.get id with
  | some _ => store
  | none =>
      setBalancerPoolBoth
        { id := id
          chainId := chainId
          poolId := poolId
          tokens := tokens
          balances := tokens.map (fun _ => 0)
          updatedAtBlock := block } block timestamp logIndex store

/-! ### The vault -/

/-- What an event adds to the vault's balance of a token. -/
def VaultEvent.effect (token : String) : VaultEvent → ℤ
  | .poolBalanceChanged tokens deltas fees =>
      ((tokens.zip (deltas.zip fees)).map (fun change =>
        if change.1 = token then change.2.1 - change.2.2 else 0)).sum
  | .swap tokenIn tokenOut amountIn amountOut =>
      (if tokenIn = token then amountIn else 0) - (if tokenOut = token then amountOut else 0)

/-- The tokens an event names. -/
def VaultEvent.tokens : VaultEvent → List String
  | .poolBalanceChanged tokens _ _ => tokens
  | .swap tokenIn tokenOut _ _ => [tokenIn, tokenOut]

/-- The vault's history: the token list and the balances each pool starts from, and the logs in
block order, each naming tokens of its own pool. -/
structure VaultHistory where
  poolTokens : String → List String
  poolTokens_nodup : ∀ poolId, (poolTokens poolId).Nodup
  initial : String → String → ℤ
  logs : List VaultLog
  sorted : logs.Pairwise (fun a b => a.block ≤ b.block)
  namesPoolTokens : ∀ log ∈ logs, ∀ token ∈ log.event.tokens, token ∈ poolTokens log.poolId

namespace VaultHistory

variable (history : VaultHistory)

/-- The logs of one pool. -/
def poolLogs (poolId : String) : List VaultLog :=
  history.logs.filter (fun log => log.poolId = poolId)

/-- The summed effect of logs on a token. -/
def net (logs : List VaultLog) (token : String) : ℤ :=
  (logs.map (fun log => log.event.effect token)).sum

/-- The vault's balance of a pool's token at the end of a block. -/
def balanceAt (poolId token : String) (block : ℕ) : ℤ :=
  history.initial poolId token +
    net ((history.poolLogs poolId).filter (fun log => log.block ≤ block)) token

/-- `getPoolTokens` at a block returns the balances at the end of the block. -/
def getPoolTokens (poolId : String) (block : ℕ) : PoolTokens where
  tokens := history.poolTokens poolId
  balances := (history.poolTokens poolId).map (fun token => history.balanceAt poolId token block)

/-- The store at the end of a block. -/
def storeAt (chainId : ChainId) (block : ℕ) : BalancerStore :=
  process chainId history.getPoolTokens BalancerStore.empty
    (history.logs.filter (fun log => log.block ≤ block))

end VaultHistory

/-- The balance stored for a token of a pool. -/
def storedBalance (chainId : ChainId) (store : BalancerStore) (poolId token : String) : Option ℤ :=
  (store.balancerPoolState.get (balancerPoolStateId chainId poolId)).bind (fun state =>
    (indexOfToken state.tokens token).bind (fun idx => state.balances[idx]?))

/-! ### One event -/

theorem balancerPoolStateId_injective {chainId : ChainId} {poolId poolId' : String}
    (h : balancerPoolStateId chainId poolId = balancerPoolStateId chainId poolId') :
    poolId = poolId' :=
  (String.append_right_inj _).mp h

theorem applyDelta_map {tokens : List String} (hnodup : tokens.Nodup) (f : String → ℤ)
    (token : String) (delta : ℤ) :
    applyDelta tokens (tokens.map f) token delta =
      tokens.map (fun t => f t + if token = t then delta else 0) := by
  rw [applyDelta]
  cases hidx : indexOfToken tokens token with
  | none =>
      have hnot : ∀ t ∈ tokens, token ≠ t := by
        intro t ht heq
        have hne := List.findIdx?_eq_none_iff.mp hidx t ht
        simp [heq] at hne
      apply List.map_congr_left
      intro t ht
      rw [if_neg (hnot t ht), add_zero]
  | some idx =>
      obtain ⟨hlt, hat, -⟩ := List.findIdx?_eq_some_iff_getElem.mp hidx
      have htoken : tokens[idx] = token := by simpa using hat
      apply List.ext_getElem
      · simp
      · intro i hi hi'
        have hi : i < tokens.length := by simpa using hi'
        rw [List.getElem_modify, List.getElem_map, List.getElem_map]
        by_cases heq : idx = i
        · subst heq
          simp [htoken]
        · have hne : token ≠ tokens[i] := by
            intro h
            rw [← htoken] at h
            exact heq ((hnodup.getElem_inj_iff).mp h)
          rw [if_neg heq, if_neg hne, add_zero]

theorem isSome_indexOfToken {tokens : List String} {token : String} (h : token ∈ tokens) :
    ∃ idx, indexOfToken tokens token = some idx := by
  rw [← Option.isSome_iff_exists]
  simpa [indexOfToken] using h

/-- Applied to the stored balances, an event adds its effect on each token. -/
theorem VaultEvent.applyTo_map {tokens : List String} (hnodup : tokens.Nodup) {event : VaultEvent}
    (hnames : ∀ token ∈ event.tokens, token ∈ tokens) (f : String → ℤ) :
    event.applyTo tokens (tokens.map f) = tokens.map (fun t => f t + event.effect t) := by
  cases event with
  | poolBalanceChanged eventTokens deltas fees =>
      simp only [VaultEvent.applyTo, VaultEvent.effect]
      generalize eventTokens.zip (deltas.zip fees) = changes
      induction changes generalizing f with
      | nil => simp
      | cons change changes ih =>
          rw [List.foldl_cons, applyDelta_map hnodup, ih]
          apply List.map_congr_left
          intro t _
          rw [List.map_cons, List.sum_cons, add_assoc]
  | swap tokenIn tokenOut amountIn amountOut =>
      obtain ⟨idxIn, hin⟩ := isSome_indexOfToken (hnames tokenIn (by simp [VaultEvent.tokens]))
      obtain ⟨idxOut, hout⟩ := isSome_indexOfToken (hnames tokenOut (by simp [VaultEvent.tokens]))
      simp only [VaultEvent.applyTo, hin, hout, VaultEvent.effect]
      rw [applyDelta_map hnodup, applyDelta_map hnodup]
      apply List.map_congr_left
      intro t _
      split <;> split <;> ring

theorem VaultEvent.writes_of_names {tokens : List String} {event : VaultEvent}
    (hnames : ∀ token ∈ event.tokens, token ∈ tokens) : event.writes tokens = true := by
  cases event with
  | poolBalanceChanged => rfl
  | swap tokenIn tokenOut amountIn amountOut =>
      obtain ⟨idxIn, hin⟩ := isSome_indexOfToken (hnames tokenIn (by simp [VaultEvent.tokens]))
      obtain ⟨idxOut, hout⟩ := isSome_indexOfToken (hnames tokenOut (by simp [VaultEvent.tokens]))
      simp [VaultEvent.writes, hin, hout]

/-! ### Runs of the ledger -/

section Run

variable {chainId : ChainId} (seedBalancerPool : String → ℕ → PoolTokens)

/-- The stored state of a pool lists its tokens with the given balances. -/
def Holds (chainId : ChainId) (store : BalancerStore) (poolId : String) (tokens : List String)
    (f : String → ℤ) : Prop :=
  ∃ state, store.balancerPoolState.get (balancerPoolStateId chainId poolId) = some state ∧
    state.tokens = tokens ∧ state.balances = tokens.map f

theorem storedBalance_of_holds {store : BalancerStore} {poolId : String} {tokens : List String}
    {f : String → ℤ} (h : Holds chainId store poolId tokens f) {token : String}
    (htoken : token ∈ tokens) : storedBalance chainId store poolId token = some (f token) := by
  obtain ⟨state, hget, rfl, hbalances⟩ := h
  obtain ⟨idx, hidx⟩ := isSome_indexOfToken htoken
  obtain ⟨hlt, hat, -⟩ := List.findIdx?_eq_some_iff_getElem.mp hidx
  have heq : state.tokens[idx] = token := by simpa using hat
  simp [storedBalance, hget, hidx, hbalances, hlt, heq]

/-- An event of another pool leaves the state of a pool as it is. -/
theorem get_handle_of_ne (store : BalancerStore) {log : VaultLog} {poolId : String}
    (hne : log.poolId ≠ poolId) :
    (handle chainId seedBalancerPool store log).balancerPoolState.get
        (balancerPoolStateId chainId poolId) =
      store.balancerPoolState.get (balancerPoolStateId chainId poolId) := by
  have hid : balancerPoolStateId chainId poolId ≠ balancerPoolStateId chainId log.poolId :=
    fun h => hne (balancerPoolStateId_injective h).symm
  rw [handle]
  cases hget : store.balancerPoolState.get (balancerPoolStateId chainId log.poolId) with
  | none => exact EntityTable.get_set_of_ne _ hid
  | some state =>
      have hstate : state.id = balancerPoolStateId chainId log.poolId :=
        (EntityTable.get_eq_some_iff.mp hget).2
      simp only
      split
      · exact EntityTable.get_set_of_ne _ (by rw [hstate]; exact hid)
      · rfl

/-- The first event of a pool stores what the seed read returns. -/
theorem holds_handle_seed {store : BalancerStore} {log : VaultLog} {tokens : List String}
    {f : String → ℤ}
    (hget : store.balancerPoolState.get (balancerPoolStateId chainId log.poolId) = none)
    (hseed : seedBalancerPool log.poolId log.block = ⟨tokens, tokens.map f⟩) :
    Holds chainId (handle chainId seedBalancerPool store log) log.poolId tokens f := by
  rw [handle, hget]
  exact ⟨_, EntityTable.get_set_self _ _, by rw [hseed], by rw [hseed]⟩

/-- Every later event adds its effect. -/
theorem holds_handle {store : BalancerStore} {poolId : String} {tokens : List String}
    {f : String → ℤ} (hnodup : tokens.Nodup) (h : Holds chainId store poolId tokens f)
    {log : VaultLog} (hnames : log.poolId = poolId → ∀ token ∈ log.event.tokens, token ∈ tokens) :
    Holds chainId (handle chainId seedBalancerPool store log) poolId tokens
      (fun t => f t + if log.poolId = poolId then log.event.effect t else 0) := by
  obtain ⟨state, hget, rfl, hbalances⟩ := h
  by_cases hpool : log.poolId = poolId
  · subst hpool
    have hstate : state.id = balancerPoolStateId chainId log.poolId :=
      (EntityTable.get_eq_some_iff.mp hget).2
    rw [handle, hget]
    simp only [VaultEvent.writes_of_names (hnames rfl), if_true]
    let next : BalancerPoolState :=
      { state with
        balances := log.event.applyTo state.tokens state.balances
        updatedAtBlock := log.block }
    refine ⟨next, ?_, rfl, ?_⟩
    · rw [← hstate]
      exact EntityTable.get_set_self _ next
    · change log.event.applyTo state.tokens state.balances = _
      rw [hbalances]
      exact VaultEvent.applyTo_map hnodup (hnames rfl) f
  · refine ⟨state, (get_handle_of_ne seedBalancerPool store hpool).trans hget, rfl, ?_⟩
    simp [hbalances, hpool]

/-- Over a run, the events of the pool add up. -/
theorem holds_foldl {poolId : String} {tokens : List String} (hnodup : tokens.Nodup)
    {logs : List VaultLog}
    (hnames : ∀ log ∈ logs, log.poolId = poolId → ∀ token ∈ log.event.tokens, token ∈ tokens)
    {store : BalancerStore} {f : String → ℤ} (h : Holds chainId store poolId tokens f) :
    Holds chainId (logs.foldl (handle chainId seedBalancerPool) store) poolId tokens
      (fun t => f t + VaultHistory.net (logs.filter (fun log => log.poolId = poolId)) t) := by
  induction logs generalizing store f with
  | nil => simpa [VaultHistory.net] using h
  | cons log logs ih =>
      have hstep := ih (fun l hl => hnames l (List.mem_cons_of_mem _ hl))
        (holds_handle seedBalancerPool hnodup h
          (hnames log List.mem_cons_self))
      rw [List.foldl_cons]
      convert hstep using 2 with t
      by_cases hpool : log.poolId = poolId
      · simp [VaultHistory.net, hpool, add_assoc]
      · simp [hpool]

theorem get_foldl_of_ne {poolId : String} {logs : List VaultLog}
    (hne : ∀ log ∈ logs, log.poolId ≠ poolId) (store : BalancerStore) :
    (logs.foldl (handle chainId seedBalancerPool) store).balancerPoolState.get
        (balancerPoolStateId chainId poolId) =
      store.balancerPoolState.get (balancerPoolStateId chainId poolId) := by
  induction logs generalizing store with
  | nil => rfl
  | cons log logs ih =>
      rw [List.foldl_cons, ih (fun l hl => hne l (List.mem_cons_of_mem _ hl)),
        get_handle_of_ne _ _ (hne log List.mem_cons_self)]

end Run

/-! ### The ledger against the vault -/

namespace VaultHistory

variable {history : VaultHistory}

/-- From its first event on, the ledger of a pool is the vault's balance plus the effect of the
pool's later events of the seed block, which the seed already contains. -/
theorem holds_storeAt {chainId : ChainId} {poolId : String}
    (hconfigured : poolId ∈ poolIdsForChain chainId) {first : VaultLog} {rest : List VaultLog}
    (hlogs : history.poolLogs poolId = first :: rest) {block : ℕ} (hblock : first.block ≤ block) :
    Holds chainId (history.storeAt chainId block) poolId (history.poolTokens poolId) (fun t =>
      history.balanceAt poolId t block +
        net (rest.filter (fun log => log.block = first.block)) t) := by
  obtain ⟨before, after, hsplit, hbefore, hfirst, hafter⟩ := List.filter_eq_cons_iff.mp hlogs
  have hfirstPool : first.poolId = poolId := by simpa using hfirst
  subst hfirstPool
  let upTo : List VaultLog → List VaultLog := fun logs =>
    (logs.filter (fun log => log.block ≤ block)).filter
      (fun log => (poolIdsForChain chainId).contains log.poolId)
  have hrun : history.storeAt chainId block =
      (upTo after).foldl (handle chainId history.getPoolTokens)
        (handle chainId history.getPoolTokens
          ((upTo before).foldl (handle chainId history.getPoolTokens) BalancerStore.empty) first) := by
    have hupTo : upTo history.logs = upTo before ++ first :: upTo after := by
      simp [upTo, hsplit, hblock, hconfigured]
    change (upTo history.logs).foldl _ _ = _
    rw [hupTo, List.foldl_append, List.foldl_cons]
  have hother : ∀ log ∈ upTo before, log.poolId ≠ first.poolId := by
    intro log hlog
    have hmem := List.mem_of_mem_filter (List.mem_of_mem_filter hlog)
    simpa using hbefore log hmem
  have hunseeded : ((upTo before).foldl (handle chainId history.getPoolTokens)
      BalancerStore.empty).balancerPoolState.get (balancerPoolStateId chainId first.poolId) = none :=
    get_foldl_of_ne _ hother _
  have hseeded : Holds chainId _ first.poolId (history.poolTokens first.poolId)
      (fun t => history.balanceAt first.poolId t first.block) :=
    holds_handle_seed history.getPoolTokens hunseeded rfl
  have hrest : (upTo after).filter (fun log => log.poolId = first.poolId) =
      rest.filter (fun log => log.block ≤ block) := by
    rw [← hafter]
    simp only [upTo, List.filter_filter]
    apply List.filter_congr
    intro log _
    grind
  have hnames : ∀ log ∈ upTo after, log.poolId = first.poolId →
      ∀ token ∈ log.event.tokens, token ∈ history.poolTokens first.poolId := by
    intro log hlog hpool
    have hmem : log ∈ history.logs := by
      rw [hsplit]
      exact List.mem_append_right _
        (List.mem_cons_of_mem _ (List.mem_of_mem_filter (List.mem_of_mem_filter hlog)))
    rw [← hpool]
    exact history.namesPoolTokens log hmem
  have hfold := holds_foldl history.getPoolTokens (history.poolTokens_nodup first.poolId) hnames
    hseeded
  rw [hrun]
  convert hfold using 2 with t
  rw [hrest]
  have hsorted : ∀ log ∈ rest, first.block ≤ log.block := by
    intro log hlog
    have hpair := history.sorted
    rw [hsplit, List.pairwise_append] at hpair
    rw [← hafter] at hlog
    exact (List.pairwise_cons.mp hpair.2.1).1 log (List.mem_of_mem_filter hlog)
  have hseedBlock : rest.filter (fun log => log.block ≤ first.block) =
      rest.filter (fun log => log.block = first.block) := by
    apply List.filter_congr
    intro log hlog
    have hle := hsorted log hlog
    grind
  have hcons (b : ℕ) (hb : first.block ≤ b) :
      (history.poolLogs first.poolId).filter (fun log => log.block ≤ b) =
        first :: rest.filter (fun log => log.block ≤ b) := by
    rw [hlogs, List.filter_cons, if_pos (by simpa using hb)]
  rw [balanceAt, balanceAt, hcons block hblock, hcons first.block le_rfl, hseedBlock]
  simp only [net, List.map_cons, List.sum_cons]
  ring

/-- From its first event on, the ledger of a configured pool equals the vault's balances at the
end of every block exactly when the pool's later events of the seed block cancel out. -/
theorem storedBalance_eq_balanceAt_iff {chainId : ChainId} {poolId : String}
    (hconfigured : poolId ∈ poolIdsForChain chainId) {first : VaultLog} {rest : List VaultLog}
    (hlogs : history.poolLogs poolId = first :: rest) :
    (∀ block, first.block ≤ block → ∀ token ∈ history.poolTokens poolId,
      storedBalance chainId (history.storeAt chainId block) poolId token =
        some (history.balanceAt poolId token block)) ↔
      ∀ token ∈ history.poolTokens poolId,
        net (rest.filter (fun log => log.block = first.block)) token = 0 := by
  constructor
  · intro hexact token htoken
    have hstored := storedBalance_of_holds (holds_storeAt hconfigured hlogs le_rfl) htoken
    rw [hexact first.block le_rfl token htoken] at hstored
    have heq := Option.some.inj hstored
    linarith
  · intro hcancel block hblock token htoken
    rw [storedBalance_of_holds (holds_storeAt hconfigured hlogs hblock) htoken,
      hcancel token htoken, add_zero]

def firstSwap : VaultLog where
  poolId := Chains.Arbitrum.lpBalancerPoolWethOhm
  block := 90000000
  timestamp := 1684000000
  logIndex := 3
  event := .swap Chains.Arbitrum.erc20Weth Chains.Arbitrum.erc20Ohm 10 4

def secondSwap : VaultLog :=
  { firstSwap with
    logIndex := 9
    event := .swap Chains.Arbitrum.erc20Weth Chains.Arbitrum.erc20Ohm 20 8 }

/-- The Arbitrum wETH-OHM pool with two swaps in the block that seeds it. -/
def twoSwaps : VaultHistory where
  poolTokens _ := [Chains.Arbitrum.erc20Weth, Chains.Arbitrum.erc20Ohm]
  poolTokens_nodup _ := by decide
  initial _ _ := 100
  logs := [firstSwap, secondSwap]
  sorted := by decide
  namesPoolTokens := by decide

/-- The second swap is in the seed and is applied again. -/
theorem twoSwaps_counted_twice :
    Chains.Arbitrum.lpBalancerPoolWethOhm ∈ poolIdsForChain .arbitrum ∧
      twoSwaps.balanceAt Chains.Arbitrum.lpBalancerPoolWethOhm Chains.Arbitrum.erc20Weth 90000000 =
        130 ∧
      storedBalance .arbitrum (twoSwaps.storeAt .arbitrum 90000000)
        Chains.Arbitrum.lpBalancerPoolWethOhm Chains.Arbitrum.erc20Weth = some 150 := by
  decide

theorem storedBalance_twoSwaps_iff :
    (∀ block, firstSwap.block ≤ block →
      ∀ token ∈ twoSwaps.poolTokens Chains.Arbitrum.lpBalancerPoolWethOhm,
        storedBalance .arbitrum (twoSwaps.storeAt .arbitrum block)
          Chains.Arbitrum.lpBalancerPoolWethOhm token =
          some (twoSwaps.balanceAt Chains.Arbitrum.lpBalancerPoolWethOhm token block)) ↔
      ∀ token ∈ twoSwaps.poolTokens Chains.Arbitrum.lpBalancerPoolWethOhm,
        net ([secondSwap].filter (fun log => log.block = firstSwap.block)) token = 0 := by
  have hconfigured : Chains.Arbitrum.lpBalancerPoolWethOhm ∈ poolIdsForChain .arbitrum := by decide
  have hlogs : twoSwaps.poolLogs Chains.Arbitrum.lpBalancerPoolWethOhm =
      [firstSwap, secondSwap] := by decide
  exact storedBalance_eq_balanceAt_iff hconfigured hlogs

end VaultHistory

end OlympusMetrics.BalancerPools
