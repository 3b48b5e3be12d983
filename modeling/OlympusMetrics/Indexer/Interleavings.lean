import OlympusMetrics.Indexer.DailyRollup
import OlympusMetrics.Indexer.OhmSupplyRows

/-!
The rollup under the orders in which the chains' events can be processed.

What a snapshot writes depends on the other chains through the OHM index alone,
and that is the one of the last rebase that was processed before it.
-/

namespace OlympusMetrics

/-! ### Events -/

/-- A snapshot of a chain: what it reads of its own chain, and the rows of the other producers,
which may depend on the stored index. -/
structure SnapshotInput where
  chain : ChainId
  block : ℕ
  timestamp : ℕ
  records : Option OhmIndexState → List SerializedTokenRecord
  supplyReads : SupplyReads
  earlierSupplies : Option OhmIndexState → List SerializedTokenSupply
  laterSupplies : Option OhmIndexState → List SerializedTokenSupply
  reads : Option OhmIndexState → CanonicalReads

namespace SnapshotInput

variable (s : SnapshotInput) (indexState : Option OhmIndexState)

/-- The supply rows of the snapshot. -/
def supplies : List SerializedTokenSupply :=
  s.earlierSupplies indexState ++
    pushTotalSupply (chainConfigs s.chain) s.supplyReads indexState s.timestamp s.block ++
    pushTreasuryOhm (chainConfigs s.chain) s.supplyReads indexState s.timestamp s.block ++
    s.laterSupplies indexState

/-- The snapshot while an index is stored. -/
def snapshot (getWhere : List ChainMetricValues) : Snapshot where
  chain := s.chain
  block := s.block
  timestamp := s.timestamp
  records := s.records indexState
  supplies := s.supplies indexState
  reads := s.reads indexState
  getWhere := getWhere

end SnapshotInput

/-- An event of a chain. The rebases of sOHM are Ethereum's. -/
inductive ChainEvent
  | snapshot (s : SnapshotInput)
  | logRebase (srcAddress : String) (index epoch : ℤ) (block timestamp : ℕ)

namespace ChainEvent

def chain : ChainEvent → ChainId
  | .snapshot s => s.chain
  | .logRebase .. => .ethereum

def isRebase : ChainEvent → Bool
  | .snapshot _ => false
  | .logRebase .. => true

/-- The canonical index that is stored after an event. -/
def indexAfter (indexState : Option OhmIndexState) : ChainEvent → Option OhmIndexState
  | .snapshot _ => indexState
  | .logRebase srcAddress index epoch block timestamp =>
      if some srcAddress = canonicalSOhm then
        some { id := ohmIndexStateId .ethereum srcAddress
               chainId := .ethereum
               sOhmAddress := srcAddress
               index := index
               epoch := epoch
               updatedAtBlock := block
               updatedAtTimestamp := timestamp }
      else indexState

end ChainEvent

/-- The events in the order in which they are processed, and the store after them. -/
inductive CrossRun (compound : BigNumber → BigNumber) :
    List ChainEvent → List RollupEvent → RollupStore → Prop
  | nil : CrossRun compound [] [] RollupStore.empty
  | snapshot {order es store} (s : SnapshotInput) (getWhere : List ChainMetricValues) :
      CrossRun compound order es store →
      (s.snapshot (storedIndex store) getWhere).ReadsFrom store →
      CrossRun compound (order ++ [.snapshot s])
        (es ++ [.snapshot (s.snapshot (storedIndex store) getWhere)])
        ((s.snapshot (storedIndex store) getWhere).apply compound store)
  | logRebase {order es store} (srcAddress index epoch block timestamp) :
      CrossRun compound order es store →
      CrossRun compound (order ++ [.logRebase srcAddress index epoch block timestamp])
        (es ++ [.logRebase .ethereum srcAddress index epoch block timestamp])
        (applyLogRebase .ethereum srcAddress index epoch block timestamp store)

theorem CrossRun.rollupRun {compound : BigNumber → BigNumber} {order : List ChainEvent}
    {es : List RollupEvent} {store : RollupStore} (run : CrossRun compound order es store) :
    RollupRun compound es store := by
  induction run with
  | nil => exact .nil
  | snapshot s getWhere _ hreads ih => exact .snapshot _ ih hreads
  | logRebase srcAddress index epoch block timestamp _ ih => exact .logRebase _ _ _ _ _ _ ih

/-- An order in which every chain's events are in their own order. -/
def Interleaves (histories : ChainId → List ChainEvent) (order : List ChainEvent) : Prop :=
  ∀ chain, order.filter (fun e => e.chain = chain) = histories chain

/-! ### What the events come after -/

/-- The rebases among some events. -/
def rebasesOf (order : List ChainEvent) : List ChainEvent := order.filter (·.isRebase)

/-- The events with the number of rebases that each comes after. -/
def afterRebases (count : ℕ) : List ChainEvent → List (ChainEvent × ℕ)
  | [] => []
  | e :: order => (e, count) :: afterRebases (count + if e.isRebase then 1 else 0) order

/-- The events of a chain with the number of rebases that each comes after. -/
def viewsOf (order : List ChainEvent) (chain : ChainId) : List (ChainEvent × ℕ) :=
  (afterRebases 0 order).filter (fun view => view.1.chain = chain)

/-- Every event of every chain comes after as many rebases in both orders. -/
def SeeAlike (order order' : List ChainEvent) : Prop :=
  ∀ chain, (viewsOf order chain).map Prod.snd = (viewsOf order' chain).map Prod.snd

@[simp] theorem length_rebasesOf_append (order : List ChainEvent) (e : ChainEvent) :
    (rebasesOf (order ++ [e])).length =
      (rebasesOf order).length + if e.isRebase then 1 else 0 := by
  cases h : e.isRebase <;> simp [rebasesOf, h]

theorem afterRebases_append (count : ℕ) (order : List ChainEvent) (e : ChainEvent) :
    afterRebases count (order ++ [e]) =
      afterRebases count order ++ [(e, count + (rebasesOf order).length)] := by
  induction order generalizing count with
  | nil => simp [afterRebases, rebasesOf]
  | cons e' order ih =>
      simp only [List.cons_append, afterRebases, ih, rebasesOf, List.filter_cons]
      cases h : e'.isRebase with
      | false => simp
      | true =>
          simp only [if_true, List.length_cons, Nat.add_assoc, Nat.add_comm 1]

theorem viewsOf_append (order : List ChainEvent) (e : ChainEvent) (chain : ChainId) :
    viewsOf (order ++ [e]) chain = viewsOf order chain ++
      if e.chain = chain then [(e, (rebasesOf order).length)] else [] := by
  rw [viewsOf, afterRebases_append, List.filter_append, viewsOf]
  congr 1
  by_cases h : e.chain = chain <;> simp [h]

theorem map_fst_afterRebases (count : ℕ) (order : List ChainEvent) :
    (afterRebases count order).map Prod.fst = order := by
  induction order generalizing count with
  | nil => rfl
  | cons e order ih => simp [afterRebases, ih]

theorem map_fst_viewsOf (order : List ChainEvent) (chain : ChainId) :
    (viewsOf order chain).map Prod.fst = order.filter (fun e => e.chain = chain) := by
  conv_rhs => rw [← map_fst_afterRebases 0 order, List.filter_map]
  rfl

/-- Orders of the same histories that see alike have the same views. -/
theorem SeeAlike.viewsOf_eq {histories : ChainId → List ChainEvent} {order order' : List ChainEvent}
    (hsee : SeeAlike order order') (h : Interleaves histories order)
    (h' : Interleaves histories order') (chain : ChainId) :
    viewsOf order chain = viewsOf order' chain := by
  have hfst : (viewsOf order chain).map Prod.fst = (viewsOf order' chain).map Prod.fst := by
    rw [map_fst_viewsOf, map_fst_viewsOf, h chain, h' chain]
  have hzip (views : List (ChainEvent × ℕ)) :
      (views.map Prod.fst).zip (views.map Prod.snd) = views := by
    induction views with
    | nil => rfl
    | cons view views ih => simp [ih]
  rw [← hzip (viewsOf order chain), ← hzip (viewsOf order' chain), hfst, hsee chain]

/-- The rebases are those of Ethereum's history. -/
theorem Interleaves.rebasesOf_eq {histories : ChainId → List ChainEvent} {order : List ChainEvent}
    (h : Interleaves histories order) : rebasesOf order = rebasesOf (histories .ethereum) := by
  rw [← h .ethereum, rebasesOf, rebasesOf, List.filter_filter]
  apply List.filter_congr
  intro e _
  cases e <;> simp [ChainEvent.isRebase, ChainEvent.chain]

theorem mem_viewsOf {order : List ChainEvent} {chain : ChainId} {view : ChainEvent × ℕ} :
    view ∈ viewsOf order chain ↔ view ∈ afterRebases 0 order ∧ view.1.chain = chain := by
  simp [viewsOf]

theorem snd_le_of_mem {order : List ChainEvent} {view : ChainEvent × ℕ}
    (h : view ∈ afterRebases 0 order) : view.2 ≤ (rebasesOf order).length := by
  induction order using List.reverseRecOn with
  | nil => simp [afterRebases] at h
  | append_singleton order e ih =>
      rw [length_rebasesOf_append]
      rw [afterRebases_append, List.mem_append, List.mem_singleton] at h
      rcases h with h | rfl
      · exact (ih h).trans (Nat.le_add_right _ _)
      · simp

/-! ### The index -/

/-- The canonical index after the first of some rebases. -/
def indexAt (rebases : List ChainEvent) (count : ℕ) : Option OhmIndexState :=
  (rebases.take count).foldl ChainEvent.indexAfter none

def HandlerKind.isGohm : HandlerKind → Bool
  | .gohm _ => true
  | _ => false

theorem HandlerKind.isGohm_iff {kind : HandlerKind} :
    kind.isGohm = true ↔ ∃ ohmToken, kind = .gohm ohmToken := by
  cases kind <;> simp [isGohm]

/-- The gOHM handler of Ethereum is that of the canonical sOHM. -/
theorem gohm_ethereum : (∀ handler ∈ (chainConfigs .ethereum).liquidityHandlers,
      handler.kind.isGohm = true → some handler.id = canonicalSOhm) ∧
    ∃ handler ∈ (chainConfigs .ethereum).liquidityHandlers, handler.kind.isGohm = true := by
  decide

/-- A rebase stores the index if it is one of the canonical sOHM. -/
theorem storedIndex_applyLogRebase (srcAddress : String) (index epoch : ℤ) (block timestamp : ℕ)
    (store : RollupStore) :
    storedIndex (applyLogRebase .ethereum srcAddress index epoch block timestamp store) =
      ChainEvent.indexAfter (storedIndex store)
        (.logRebase srcAddress index epoch block timestamp) := by
  obtain ⟨hid, handler, hmem, hgohm⟩ := gohm_ethereum
  simp only [applyLogRebase, ChainEvent.indexAfter]
  split
  · next hnone =>
      have hsrc : some srcAddress ≠ canonicalSOhm := by
        intro heq
        have hsame : handler.id = srcAddress :=
          Option.some.inj ((hid handler hmem hgohm).trans heq.symm)
        obtain ⟨ohmToken, hkind⟩ := HandlerKind.isGohm_iff.mp hgohm
        exact List.find?_eq_none.mp hnone handler hmem (by simp [hkind, hsame])
      rw [if_neg hsrc]
  · next found hfound =>
      have hboth := List.find?_some hfound
      rw [Bool.and_eq_true, beq_iff_eq] at hboth
      have hkind : found.kind.isGohm = true := hboth.1
      have hsrc : some srcAddress = canonicalSOhm :=
        hboth.2 ▸ hid found (List.mem_of_find?_eq_some hfound) hkind
      rw [if_pos hsrc, storedIndex, ← hsrc]
      exact EntityTable.get_set_self store.ohmIndexState
        ⟨ohmIndexStateId .ethereum srcAddress, .ethereum, srcAddress, index, epoch, block, timestamp⟩

theorem indexAt_step {rebases : List ChainEvent} {order : List ChainEvent} {e : ChainEvent}
    (h : rebasesOf (order ++ [e]) <+: rebases) :
    indexAt rebases (rebasesOf (order ++ [e])).length =
      e.indexAfter (indexAt rebases (rebasesOf order).length) := by
  obtain ⟨rest, rfl⟩ := h
  simp only [indexAt, List.take_left']
  cases e with
  | snapshot s => simp [rebasesOf, ChainEvent.isRebase, ChainEvent.indexAfter]
  | logRebase srcAddress index epoch block timestamp =>
      simp [rebasesOf, ChainEvent.isRebase, List.foldl_append]

end OlympusMetrics
