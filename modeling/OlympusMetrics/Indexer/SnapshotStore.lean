import OlympusMetrics.Indexer.DailyRollup
import OlympusMetrics.Library.BatchedRows
import OlympusMetrics.Library.SlashPath

/-!
The rows that snapshots store beside the rollup.

A snapshot stores its token records and its token supplies and then updates the
rollup, in one handler. The ids of its rows start with its date, chain and block,
so no other snapshot ever replaces one of them.
-/

namespace OlympusMetrics

/-- The tables that a snapshot writes. -/
structure IndexerStore where
  rollup : RollupStore
  tokenRecord : EntityTable SerializedTokenRecord.id
  tokenSupply : EntityTable SerializedTokenSupply.id

def IndexerStore.empty : IndexerStore := ⟨RollupStore.empty, ∅, ∅⟩

/-- `processSnapshot`, once the rows are made. -/
def processSnapshot (compound : BigNumber → BigNumber) (s : Snapshot) (store : IndexerStore) :
    IndexerStore where
  tokenRecord := store.tokenRecord.setAll s.records
  tokenSupply := store.tokenSupply.setAll s.supplies
  rollup := s.apply compound store.rollup

/-! ### The rows of a snapshot -/

/-- What all rows say of the snapshot that made them. -/
structure RowOrigin where
  id : String
  chainId : ChainId
  blockchain : String
  block : ℕ
  timestamp : ℕ
  date : String

def SerializedTokenRecord.origin (row : SerializedTokenRecord) : RowOrigin :=
  ⟨row.id, row.chainId, row.blockchain, row.block, row.timestamp, row.date⟩

def SerializedTokenSupply.origin (row : SerializedTokenSupply) : RowOrigin :=
  ⟨row.id, row.chainId, row.blockchain, row.block, row.timestamp, row.date⟩

/-- The row is one of the snapshot. -/
structure RowOrigin.IsOf (origin : RowOrigin) (s : Snapshot) : Prop where
  id : ∃ rest, origin.id = snapshotPrefix (chainConfigs s.chain) s.timestamp s.block ++ rest
  chainId : origin.chainId = s.chain
  blockchain : origin.blockchain = (chainConfigs s.chain).blockchain
  block : origin.block = s.block
  timestamp : origin.timestamp = s.timestamp
  date : origin.date = isoDate s.timestamp

/-- Every row of the snapshot is its own. -/
structure Snapshot.OwnsRows (s : Snapshot) : Prop where
  records : ∀ row ∈ s.records, row.origin.IsOf s
  supplies : ∀ row ∈ s.supplies, row.origin.IsOf s

/-- `createTokenRecord` makes rows of the snapshot. -/
theorem createTokenRecord_isOf (s : Snapshot)
    (tokenName tokenAddress sourceName sourceAddress : String) (rate balance : BigNumber)
    (nonOhmMultiplier : Option BigNumber) (category : Option String) :
    (createTokenRecord (chainConfigs s.chain) s.timestamp tokenName tokenAddress sourceName
      sourceAddress rate balance s.block nonOhmMultiplier category).origin.IsOf s where
  id := ⟨_, rfl⟩
  chainId := chainConfigs_chainId s.chain
  blockchain := rfl
  block := rfl
  timestamp := rfl
  date := rfl

theorem slashFree_padded (width n : ℕ) : SlashPath.SlashFree (Calendar.padded width n) := by
  intro h
  exact absurd (Calendar.isDigit_of_mem_padded h) (by decide)

theorem slashFree_isoDate (timestamp : ℕ) : SlashPath.SlashFree (isoDate timestamp) := by
  have hdash : SlashPath.SlashFree "-" := by decide
  rw [isoDate, Calendar.CivilDate.iso]
  split
  · exact (((slashFree_padded _ _).append hdash).append (slashFree_padded _ _)).append hdash
      |>.append (slashFree_padded _ _)
  · have hplus : SlashPath.SlashFree "+" := by decide
    exact ((hplus.append (slashFree_padded _ _)).append hdash).append (slashFree_padded _ _)

/-- The id of a row tells the chain and the block of its snapshot. -/
theorem RowOrigin.IsOf.eq_of_id_eq {origin origin' : RowOrigin} {s s' : Snapshot}
    (h : origin.IsOf s) (h' : origin'.IsOf s') (hid : origin.id = origin'.id) :
    (origin.chainId, origin.block) = (origin'.chainId, origin'.block) := by
  obtain ⟨rest, hrest⟩ := h.id
  obtain ⟨rest', hrest'⟩ := h'.id
  have hjoin (s : Snapshot) (rest : String) :
      snapshotPrefix (chainConfigs s.chain) s.timestamp s.block ++ rest =
        SlashPath.join (isoDate s.timestamp)
          (SlashPath.join (toString s.chain.number) (SlashPath.join (toString s.block) rest)) := by
    simp [snapshotPrefix, SlashPath.join, String.append_assoc, chainConfigs_chainId]
  rw [hrest, hrest', hjoin, hjoin] at hid
  obtain ⟨-, hid⟩ := SlashPath.join_inj_first (slashFree_isoDate _) (slashFree_isoDate _) hid
  obtain ⟨hnumber, hid⟩ := SlashPath.join_inj_first (SlashPath.slashFree_toString _)
    (SlashPath.slashFree_toString _) hid
  obtain ⟨hblock, -⟩ := SlashPath.join_inj_first (SlashPath.slashFree_toString _)
    (SlashPath.slashFree_toString _) hid
  rw [h.chainId, h'.chainId, h.block, h'.block, SlashPath.toString_injective hblock,
    ChainId.number_injective (SlashPath.toString_injective hnumber)]

/-! ### Runs -/

/-- The block handler of a chain runs at ascending blocks, whose timestamps do not fall. -/
def Snapshot.FollowsIn (s : Snapshot) (es : List RollupEvent) : Prop :=
  ∀ s', RollupEvent.snapshot s' ∈ es → s'.chain = s.chain →
    s'.block < s.block ∧ s'.timestamp ≤ s.timestamp

/-- The events and the store after them. -/
inductive IndexerRun (compound : BigNumber → BigNumber) : List RollupEvent → IndexerStore → Prop
  | nil : IndexerRun compound [] IndexerStore.empty
  | snapshot {es store} (s : Snapshot) : IndexerRun compound es store → s.OwnsRows →
      s.ReadsFrom store.rollup → s.FollowsIn es →
      IndexerRun compound (es ++ [.snapshot s]) (processSnapshot compound s store)
  | logRebase {es store} (chainId srcAddress index epoch block timestamp) :
      IndexerRun compound es store →
      IndexerRun compound (es ++ [.logRebase chainId srcAddress index epoch block timestamp])
        { store with
          rollup := applyLogRebase chainId srcAddress index epoch block timestamp store.rollup }

section

variable {compound : BigNumber → BigNumber} {es : List RollupEvent} {store : IndexerStore}

theorem IndexerRun.rollupRun (run : IndexerRun compound es store) :
    RollupRun compound es store.rollup := by
  induction run with
  | nil => exact .nil
  | snapshot s _ _ hreads _ ih => exact .snapshot s ih hreads
  | logRebase chainId srcAddress index epoch block timestamp _ ih => exact .logRebase _ _ _ _ _ _ ih

theorem IndexerRun.ownsRows (run : IndexerRun compound es store) {s : Snapshot}
    (h : RollupEvent.snapshot s ∈ es) : s.OwnsRows := by
  induction run with
  | nil => cases h
  | snapshot s' _ howns _ _ ih =>
      rcases List.mem_append.mp h with h | h
      · exact ih h
      · obtain rfl := RollupEvent.snapshot.inj (List.mem_singleton.mp h)
        exact howns
  | logRebase chainId srcAddress index epoch block timestamp _ ih =>
      rcases List.mem_append.mp h with h | h
      · exact ih h
      · cases List.mem_singleton.mp h

/-- The date of a snapshot with rows is that of its timestamp. -/
theorem Snapshot.OwnsRows.date_eq {s : Snapshot} (h : s.OwnsRows) {date : String}
    (hdate : s.date = some date) : date = isoDate s.timestamp := by
  rw [Snapshot.date, snapshotDate, Option.filter_eq_some_iff] at hdate
  obtain ⟨hdate, -⟩ := hdate
  cases hrecords : s.records with
  | cons row rows =>
      rw [hrecords] at hdate
      obtain rfl := Option.some.inj hdate
      exact (h.records row (by simp [hrecords])).date
  | nil =>
      rw [hrecords] at hdate
      cases hsupplies : s.supplies with
      | nil =>
          rw [hsupplies] at hdate
          cases hdate
      | cons row rows =>
          rw [hsupplies] at hdate
          obtain rfl := Option.some.inj hdate
          exact (h.supplies row (by simp [hsupplies])).date

/-- Every stored row is one of a snapshot. -/
structure RowsOfSnapshots (es : List RollupEvent) (store : IndexerStore) : Prop where
  records : ∀ row ∈ store.tokenRecord.rows, ∃ s, RollupEvent.snapshot s ∈ es ∧ row ∈ s.records
  supplies : ∀ row ∈ store.tokenSupply.rows, ∃ s, RollupEvent.snapshot s ∈ es ∧ row ∈ s.supplies

theorem IndexerRun.rowsOfSnapshots (run : IndexerRun compound es store) :
    RowsOfSnapshots es store := by
  induction run with
  | nil => exact ⟨fun _ h => (by cases h), fun _ h => (by cases h)⟩
  | snapshot s _ _ _ _ ih =>
      constructor
      · intro row hrow
        rcases EntityTable.mem_rows_setAll_of_id hrow with hrow | hrow
        · exact ⟨s, by simp, hrow⟩
        · obtain ⟨s', hs', hmem⟩ := ih.records row hrow
          exact ⟨s', List.mem_append_left _ hs', hmem⟩
      · intro row hrow
        rcases EntityTable.mem_rows_setAll_of_id hrow with hrow | hrow
        · exact ⟨s, by simp, hrow⟩
        · obtain ⟨s', hs', hmem⟩ := ih.supplies row hrow
          exact ⟨s', List.mem_append_left _ hs', hmem⟩
  | logRebase chainId srcAddress index epoch block timestamp _ ih =>
      constructor
      · intro row hrow
        obtain ⟨s, hs, hmem⟩ := ih.records row hrow
        exact ⟨s, List.mem_append_left _ hs, hmem⟩
      · intro row hrow
        obtain ⟨s, hs, hmem⟩ := ih.supplies row hrow
        exact ⟨s, List.mem_append_left _ hs, hmem⟩

/-- The stored records of a chain and block. -/
def recordsAt (store : IndexerStore) (chain : ChainId) (block : ℕ) : List SerializedTokenRecord :=
  store.tokenRecord.rows.filter (fun row => (row.chainId, row.block) = (chain, block))

/-- The stored supplies of a chain and block. -/
def suppliesAt (store : IndexerStore) (chain : ChainId) (block : ℕ) : List SerializedTokenSupply :=
  store.tokenSupply.rows.filter (fun row => (row.chainId, row.block) = (chain, block))

/-- What a snapshot leaves of its own records: of rows with one id the last. -/
def Snapshot.storedRecords (s : Snapshot) : List SerializedTokenRecord :=
  ((∅ : EntityTable SerializedTokenRecord.id).setAll s.records).rows

/-- What a snapshot leaves of its own supplies. -/
def Snapshot.storedSupplies (s : Snapshot) : List SerializedTokenSupply :=
  ((∅ : EntityTable SerializedTokenSupply.id).setAll s.supplies).rows

/-- The rows of every snapshot are stored, and no others for its chain and block. -/
theorem IndexerRun.rowsAt (run : IndexerRun compound es store) {s : Snapshot}
    (h : RollupEvent.snapshot s ∈ es) :
    recordsAt store s.chain s.block = s.storedRecords ∧
      suppliesAt store s.chain s.block = s.storedSupplies := by
  induction run with
  | nil => cases h
  | logRebase chainId srcAddress index epoch block timestamp _ ih =>
      rcases List.mem_append.mp h with h | h
      · exact ih h
      · cases List.mem_singleton.mp h
  | @snapshot es store s' run howns _ hfollows ih =>
      have hrows := run.rowsOfSnapshots
      have hrecords : ∀ row ∈ store.tokenRecord.rows, ∃ u, RollupEvent.snapshot u ∈ es ∧
          row.origin.IsOf u := by
        intro row hrow
        obtain ⟨u, hu, hmem⟩ := hrows.records row hrow
        exact ⟨u, hu, (run.ownsRows hu).records row hmem⟩
      have hsupplies : ∀ row ∈ store.tokenSupply.rows, ∃ u, RollupEvent.snapshot u ∈ es ∧
          row.origin.IsOf u := by
        intro row hrow
        obtain ⟨u, hu, hmem⟩ := hrows.supplies row hrow
        exact ⟨u, hu, (run.ownsRows hu).supplies row hmem⟩
      rcases List.mem_append.mp h with h | h
      · -- The new rows are of another block of this chain, or of another chain.
        have hother {origin : RowOrigin} (horigin : origin.IsOf s') :
            (origin.chainId, origin.block) ≠ (s.chain, s.block) := by
          intro heq
          rw [horigin.chainId, horigin.block, Prod.mk.injEq] at heq
          have := (hfollows s h heq.1.symm).1
          omega
        obtain ⟨ihrecords, ihsupplies⟩ := ih h
        refine ⟨?_, ?_⟩
        · rw [← ihrecords]
          refine EntityTable.filter_setAll_of_ne ?_ (fun row hrow => hother (howns.records row hrow))
          intro row hrow row' hrow' hid
          obtain ⟨u, -, hu⟩ := hrecords row hrow
          exact hu.eq_of_id_eq (howns.records row' hrow') hid
        · rw [← ihsupplies]
          refine EntityTable.filter_setAll_of_ne ?_
            (fun row hrow => hother (howns.supplies row hrow))
          intro row hrow row' hrow' hid
          obtain ⟨u, -, hu⟩ := hsupplies row hrow
          exact hu.eq_of_id_eq (howns.supplies row' hrow') hid
      · obtain rfl := RollupEvent.snapshot.inj (List.mem_singleton.mp h)
        have hown {origin : RowOrigin} (horigin : origin.IsOf s) :
            (origin.chainId, origin.block) = (s.chain, s.block) := by
          rw [horigin.chainId, horigin.block]
        have hearlier {origin : RowOrigin} {u : Snapshot} (hu : RollupEvent.snapshot u ∈ es)
            (horigin : origin.IsOf u) : (origin.chainId, origin.block) ≠ (s.chain, s.block) := by
          intro heq
          rw [horigin.chainId, horigin.block, Prod.mk.injEq] at heq
          have := (hfollows u hu heq.1).1
          omega
        refine ⟨?_, ?_⟩
        · refine EntityTable.filter_setAll_of_first
            (fun row hrow => hown (howns.records row hrow)) (fun row hrow => ?_)
          obtain ⟨u, hu, horigin⟩ := hrecords row hrow
          exact hearlier hu horigin
        · refine EntityTable.filter_setAll_of_first
            (fun row hrow => hown (howns.supplies row hrow)) (fun row hrow => ?_)
          obtain ⟨u, hu, horigin⟩ := hsupplies row hrow
          exact hearlier hu horigin

end

/-! ### A day with a snapshot of every chain -/

/-- A snapshot of 14 November 2023, with the stablecoins of a wallet. -/
def daySnapshot (chain : ChainId) (store : RollupStore) : Snapshot where
  chain := chain
  block := 18570000
  timestamp := 1700000000
  records := [createTokenRecord (chainConfigs chain) 1700000000 "USDC"
    "0xa0b86991c6218b36c1d19d4a2e9eb0ce3606eb48" "Treasury"
    "0x9a315bdf513367c0377fb36545857d12e85813ef" (.finite 1) (.finite 50) 18570000]
  supplies := []
  reads := ⟨.finite 12, none, none⟩
  getWhere := (chainRowsOf store "2023-11-14").filter (fun row => row.chainId ≠ chain)

/-- The snapshots of some chains, the last one first, and the store after them. -/
def dayRun : List ChainId → List RollupEvent × IndexerStore
  | [] => ([], IndexerStore.empty)
  | chain :: chains =>
      let (es, store) := dayRun chains
      let s := daySnapshot chain store.rollup
      (es ++ [.snapshot s], processSnapshot id s store)

theorem daySnapshot_date (chain : ChainId) (store : RollupStore) :
    (daySnapshot chain store).date = some "2023-11-14" := by
  have hdate : isoDate 1700000000 = "2023-11-14" := by decide
  change some (isoDate 1700000000) = _
  rw [hdate]

theorem daySnapshot_ownsRows (chain : ChainId) (store : RollupStore) :
    (daySnapshot chain store).OwnsRows where
  records := by
    intro row hrow
    obtain rfl := List.mem_singleton.mp hrow
    exact createTokenRecord_isOf (daySnapshot chain store) _ _ _ _ _ _ _ _
  supplies := fun _ h => (by cases h)

theorem daySnapshot_readsFrom (chain : ChainId) (store : RollupStore) :
    (daySnapshot chain store).ReadsFrom store := by
  intro date hdate
  obtain rfl := Option.some.inj ((daySnapshot_date chain store).symm.trans hdate)
  constructor
  · rw [daySnapshot, List.filter_filter]
    simp
  · simp [daySnapshot, List.filter_filter]

theorem mem_dayRun {chains : List ChainId} {s : Snapshot}
    (h : RollupEvent.snapshot s ∈ (dayRun chains).1) :
    s.chain ∈ chains ∧ ∃ store, s = daySnapshot s.chain store := by
  induction chains with
  | nil => cases h
  | cons chain chains ih =>
      rcases List.mem_append.mp h with h | h
      · exact ⟨List.mem_cons_of_mem _ (ih h).1, (ih h).2⟩
      · obtain rfl := RollupEvent.snapshot.inj (List.mem_singleton.mp h)
        exact ⟨List.mem_cons_self, _, rfl⟩

theorem indexerRun_dayRun {chains : List ChainId} (h : chains.Nodup) :
    IndexerRun id (dayRun chains).1 (dayRun chains).2 := by
  induction chains with
  | nil => exact .nil
  | cons chain chains ih =>
      rw [List.nodup_cons] at h
      refine .snapshot _ (ih h.2) (daySnapshot_ownsRows _ _) (daySnapshot_readsFrom _ _) ?_
      intro s hs hchain
      have hmem := (mem_dayRun hs).1
      rw [hchain] at hmem
      exact absurd hmem h.1

end OlympusMetrics
