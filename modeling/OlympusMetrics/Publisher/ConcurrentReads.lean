import OlympusMetrics.Api.Pipeline
import OlympusMetrics.Publisher.PageCursors

/-!
The reads of a publish run while the indexer commits snapshots.

A run reads the metrics, the assets and the supplies side by side, each in pages,
and the indexer commits between any two pages. The API keeps the records of the
block that a metric names, and these are all there unless the snapshot of that
block commits behind a read of the records and before the metrics are read.
-/

namespace OlympusMetrics.Publisher

/-! ### A publish run beside the indexer -/

/-- The indexer, and the three reads of a publish run. -/
structure FetchState where
  events : List RollupEvent
  store : IndexerStore
  metrics : PageCursor RawDailyMetric
  treasuryAssets : PageCursor SerializedTokenRecord
  ohmSupply : PageCursor SerializedTokenSupply

/-- A page of date rows, each with its relations. -/
def metricsPage (store : RollupStore) (range : DateRange) (limit offset : ℕ) :
    List RawDailyMetric :=
  (pageRows (·.date) store.globalMetricSnapshot range limit offset).map (rawDailyMetric store)

section

variable (compound : BigNumber → BigNumber) (range : DateRange) (pageSize : ℕ)

/-- What can be reached from the bounds of a run on, in any order of pages and of handlers, when
only some snapshots may commit. -/
inductive FetchRun (mayCommit : FetchState → Snapshot → Prop) : FetchState → Prop
  | start {es store} : IndexerRun compound es store →
      FetchRun mayCommit ⟨es, store, .start, .start, .start⟩
  | snapshot {state} (s : Snapshot) : FetchRun mayCommit state → s.OwnsRows →
      s.ReadsFrom state.store.rollup → s.FollowsIn state.events → mayCommit state s →
      FetchRun mayCommit
        { state with
          events := state.events ++ [.snapshot s]
          store := processSnapshot compound s state.store }
  | logRebase {state} (chainId srcAddress index epoch block timestamp) :
      FetchRun mayCommit state →
      FetchRun mayCommit
        { state with
          events := state.events ++ [.logRebase chainId srcAddress index epoch block timestamp]
          store :=
            { state.store with
              rollup := applyLogRebase chainId srcAddress index epoch block timestamp
                state.store.rollup } }
  | metrics {state} : FetchRun mayCommit state → state.metrics.done = false →
      FetchRun mayCommit
        { state with
          metrics := state.metrics.receive pageSize
            (metricsPage state.store.rollup range pageSize state.metrics.offset) }
  | treasuryAssets {state} : FetchRun mayCommit state → state.treasuryAssets.done = false →
      FetchRun mayCommit
        { state with
          treasuryAssets := state.treasuryAssets.receive pageSize
            (pageRows (·.date) state.store.tokenRecord range pageSize
              state.treasuryAssets.offset) }
  | ohmSupply {state} : FetchRun mayCommit state → state.ohmSupply.done = false →
      FetchRun mayCommit
        { state with
          ohmSupply := state.ohmSupply.receive pageSize
            (pageRows (·.date) state.store.tokenSupply range pageSize state.ohmSupply.offset) }

/-- A snapshot commits after the last page of the metrics, or before the reads of assets and of
supplies come to the places of its rows. -/
def FetchState.CommitsInTime (state : FetchState) (s : Snapshot) : Prop :=
  state.metrics.done = true ∨
    (∀ row ∈ s.storedRecords, range.start ≤ row.date → row.date ≤ range.stop →
        state.treasuryAssets.IsAhead (·.date) (processSnapshot compound s state.store).tokenRecord
          range row) ∧
      ∀ row ∈ s.storedSupplies, range.start ≤ row.date → row.date ≤ range.stop →
        state.ohmSupply.IsAhead (·.date) (processSnapshot compound s state.store).tokenSupply
          range row

end

/-- Each read has received its last page. -/
structure FetchState.Finished (state : FetchState) : Prop where
  metrics : state.metrics.done = true
  treasuryAssets : state.treasuryAssets.done = true
  ohmSupply : state.ohmSupply.done = true

section

variable {N : Type} [Zero N] [Add N] (toNumber : BigNumber → N)

/-- What the three fetches return. -/
def FetchState.fetched (state : FetchState) :
    Except String ((kind : ArtifactKind) → List (Api.MetricRow N kind)) := do
  let metrics ← state.metrics.rows.mapM (normalizeDailyMetric toNumber)
  let treasuryAssets ← state.treasuryAssets.rows.mapM (normalizeTreasuryAsset toNumber)
  let ohmSupply ← state.ohmSupply.rows.mapM (normalizeOhmSupply toNumber)
  return fun kind =>
    match kind with
    | .metrics => metrics
    | .treasuryAssets => treasuryAssets
    | .ohmSupply => ohmSupply

/-- A row is in one of the shards that are written. -/
def IsPublished (artifacts : List (PendingArtifact (Api.MetricRow N))) (kind : ArtifactKind)
    (row : Api.MetricRow N kind) : Prop :=
  ∃ artifact ∈ artifacts, ∃ rows, artifact.value = .shard kind rows ∧ row ∈ rows

/-- The shards have every row that is stored for a block that a published metric names. -/
structure ShardsAgree (store : IndexerStore)
    (artifacts : List (PendingArtifact (Api.MetricRow N))) : Prop where
  records : ∀ metric : Api.DailyMetric N, IsPublished artifacts .metrics metric →
    ∀ row ∈ store.tokenRecord.rows, row.date = metric.date → metric.blocks row.chainId ≠ 0 →
      toNumber (.ofInt row.block) = metric.blocks row.chainId →
      IsPublished artifacts .treasuryAssets (treasuryAssetOf toNumber row.chainId row)
  supplies : ∀ metric : Api.DailyMetric N, IsPublished artifacts .metrics metric →
    ∀ row ∈ store.tokenSupply.rows, row.date = metric.date → metric.blocks row.chainId ≠ 0 →
      toNumber (.ofInt row.block) = metric.blocks row.chainId →
      IsPublished artifacts .ohmSupply (ohmSupplyOf toNumber row.chainId row)

end

/-! ### Stored rows -/

section

variable {compound : BigNumber → BigNumber} {es es' : List RollupEvent}
  {store store' : IndexerStore} {V : Type} {id : V → String} {origin : V → RowOrigin}
  {table table' : EntityTable id} {stored : Snapshot → List V}

theorem mem_rows_of_stored (h : Api.HoldsSnapshotRows es origin table stored) {s : Snapshot}
    (hs : .snapshot s ∈ es) {row : V} (hrow : row ∈ stored s) : row ∈ table.rows := by
  rw [← h.rowsAt s hs] at hrow
  exact (List.mem_filter.mp hrow).1

/-- A table keeps the rows of the snapshots that it has seen. -/
theorem rows_subset_of_events (h : Api.HoldsSnapshotRows es origin table stored)
    (h' : Api.HoldsSnapshotRows es' origin table' stored) (hes : es ⊆ es') :
    table.rows ⊆ table'.rows := by
  intro row hrow
  obtain ⟨s, hs, hisOf⟩ := h.own row hrow
  have hstored : row ∈ stored s := by
    rw [← h.rowsAt s hs]
    exact List.mem_filter.mpr ⟨hrow, decide_eq_true (by rw [hisOf.chainId, hisOf.block])⟩
  exact mem_rows_of_stored h' (hes hs) hstored

end

/-! ### What the reads have -/

section

variable {compound : BigNumber → BigNumber} {range : DateRange} {pageSize : ℕ}
  {mayCommit : FetchState → Snapshot → Prop} {state : FetchState} {seen seen' : List RollupEvent}

theorem FetchRun.indexerRun (h : FetchRun compound range pageSize mayCommit state) :
    IndexerRun compound state.events state.store := by
  induction h with
  | start run => exact run
  | snapshot s _ howns hreads hfollows _ ih => exact .snapshot s ih howns hreads hfollows
  | logRebase _ _ _ _ _ _ _ ih => exact .logRebase _ _ _ _ _ _ ih
  | metrics _ _ ih => exact ih
  | treasuryAssets _ _ ih => exact ih
  | ohmSupply _ _ ih => exact ih

/-- A date row of the range with its relations, as they are after some of the events seen. -/
structure IsRead (compound : BigNumber → BigNumber) (range : DateRange) (seen : List RollupEvent)
    (raw : RawDailyMetric) : Prop where
  inRange : range.start ≤ raw.snapshot.date ∧ raw.snapshot.date ≤ range.stop
  run : ∃ es store, es ⊆ seen ∧ IndexerRun compound es store ∧ raw.ReadsFrom store.rollup

theorem IsRead.mono {raw : RawDailyMetric} (h : IsRead compound range seen raw)
    (hseen : seen ⊆ seen') : IsRead compound range seen' raw := by
  obtain ⟨es, store, hes, hread⟩ := h.run
  exact ⟨h.inRange, es, store, List.Subset.trans hes hseen, hread⟩

theorem isRead_of_mem_metricsPage {es : List RollupEvent} {store : IndexerStore}
    (run : IndexerRun compound es store) {limit offset : ℕ} {raw : RawDailyMetric}
    (h : raw ∈ metricsPage store.rollup range limit offset) : IsRead compound range es raw := by
  obtain ⟨snapshot, hsnapshot, rfl⟩ := List.mem_map.mp h
  obtain ⟨hrow, hbounds⟩ := mem_rowsOfRange.mp (mem_pageRows_iff.mp hsnapshot).1
  exact ⟨hbounds, es, store, List.Subset.refl _, run, rawDailyMetric_readsFrom hrow⟩

/-- The reads have rows that the indexer has stored. -/
structure FetchState.ReadsStored (compound : BigNumber → BigNumber) (range : DateRange)
    (state : FetchState) : Prop where
  metrics : ∀ raw ∈ state.metrics.rows, IsRead compound range state.events raw
  treasuryAssets : state.treasuryAssets.rows ⊆ state.store.tokenRecord.rows
  ohmSupply : state.ohmSupply.rows ⊆ state.store.tokenSupply.rows

theorem FetchRun.readsStored (h : FetchRun compound range pageSize mayCommit state) :
    state.ReadsStored compound range := by
  induction h with
  | start run => exact ⟨fun raw hraw => (by cases hraw), List.nil_subset _, List.nil_subset _⟩
  | @snapshot state s run howns hreads hfollows _ ih =>
      have hindexer := run.indexerRun
      have hnext := hindexer.snapshot s howns hreads hfollows
      have hevents : state.events ⊆ state.events ++ [.snapshot s] := List.subset_append_left _ _
      exact
        { metrics := fun raw hraw => (ih.metrics raw hraw).mono hevents
          treasuryAssets := List.Subset.trans ih.treasuryAssets (rows_subset_of_events
            (Api.holdsRecords hindexer) (Api.holdsRecords hnext) hevents)
          ohmSupply := List.Subset.trans ih.ohmSupply (rows_subset_of_events
            (Api.holdsSupplies hindexer) (Api.holdsSupplies hnext) hevents) }
  | logRebase chainId srcAddress index epoch block timestamp _ ih =>
      exact
        { metrics := fun raw hraw => (ih.metrics raw hraw).mono (List.subset_append_left _ _)
          treasuryAssets := ih.treasuryAssets
          ohmSupply := ih.ohmSupply }
  | metrics run _ ih =>
      refine ⟨fun raw hraw => ?_, ih.treasuryAssets, ih.ohmSupply⟩
      rw [PageCursor.rows_receive, List.mem_append] at hraw
      rcases hraw with hraw | hraw
      · exact ih.metrics raw hraw
      · exact isRead_of_mem_metricsPage run.indexerRun hraw
  | treasuryAssets _ _ ih =>
      refine ⟨ih.metrics, ?_, ih.ohmSupply⟩
      rw [PageCursor.rows_receive]
      refine List.append_subset.mpr ⟨ih.treasuryAssets, fun row hrow => ?_⟩
      exact (mem_rowsOfRange.mp (mem_pageRows_iff.mp hrow).1).1
  | ohmSupply _ _ ih =>
      refine ⟨ih.metrics, ih.treasuryAssets, ?_⟩
      rw [PageCursor.rows_receive]
      refine List.append_subset.mpr ⟨ih.ohmSupply, fun row hrow => ?_⟩
      exact (mem_rowsOfRange.mp (mem_pageRows_iff.mp hrow).1).1

section

variable {N : Type} [Zero N] [Add N] (toNumber : BigNumber → N)

/-- The metric of a date row that is read. -/
def readMetric (raw : RawDailyMetric) : Api.DailyMetric N := dailyMetricOf toNumber raw.keyed raw

/-- The rows of the three reads, as they are published. -/
def FetchState.readRows (state : FetchState) : (kind : ArtifactKind) → List (Api.MetricRow N kind)
  | .metrics => state.metrics.rows.map (readMetric toNumber)
  | .treasuryAssets =>
      state.treasuryAssets.rows.map (fun row => treasuryAssetOf toNumber row.chainId row)
  | .ohmSupply => state.ohmSupply.rows.map (fun row => ohmSupplyOf toNumber row.chainId row)

/-- No fetched row is refused. -/
theorem FetchRun.fetched_eq (h : FetchRun compound range pageSize mayCommit state) :
    state.fetched toNumber = .ok (state.readRows toNumber) := by
  have hreads := h.readsStored
  have run := h.indexerRun
  have hmetrics : state.metrics.rows.mapM (normalizeDailyMetric toNumber) =
      .ok (state.metrics.rows.map (readMetric toNumber)) := by
    refine mapM_eq_ok (fun raw hraw => ?_)
    obtain ⟨es, store, -, hrun, hfrom⟩ := (hreads.metrics raw hraw).run
    exact normalizeDailyMetric_eq toNumber hrun.rollupRun hfrom
  have hassets : state.treasuryAssets.rows.mapM (normalizeTreasuryAsset toNumber) =
      .ok (state.treasuryAssets.rows.map
        (fun row => treasuryAssetOf toNumber row.chainId row)) := by
    refine mapM_eq_ok (fun row hrow => ?_)
    obtain ⟨s, -, hisOf⟩ := (Api.holdsRecords run).own row (hreads.treasuryAssets hrow)
    rw [normalizeTreasuryAsset, show row.blockchain = row.origin.blockchain from rfl,
      chainNamed_of_isOf hisOf]
    rfl
  have hsupply : state.ohmSupply.rows.mapM (normalizeOhmSupply toNumber) =
      .ok (state.ohmSupply.rows.map (fun row => ohmSupplyOf toNumber row.chainId row)) := by
    refine mapM_eq_ok (fun row hrow => ?_)
    obtain ⟨s, -, hisOf⟩ := (Api.holdsSupplies run).own row (hreads.ohmSupply hrow)
    rw [normalizeOhmSupply, show row.blockchain = row.origin.blockchain from rfl,
      chainNamed_of_isOf hisOf]
    rfl
  rw [FetchState.fetched, hmetrics, hassets, hsupply]
  refine congrArg Except.ok (funext fun kind => ?_)
  cases kind <;> rfl

end

/-! ### The rows that the reads cover -/

/-- A read covers the rows of a range that some snapshots have left. -/
def CoversSnapshots {V : Type} {id : V → String} (date : V → String) (stored : Snapshot → List V)
    (range : DateRange) (seen : List RollupEvent) (table : EntityTable id)
    (cursor : PageCursor V) : Prop :=
  ∀ s, .snapshot s ∈ seen → ∀ row ∈ stored s, range.start ≤ date row → date row ≤ range.stop →
    cursor.Covers date table range row

section

variable {V : Type} {id : V → String} {date : V → String} {origin : V → RowOrigin}
  {stored : Snapshot → List V} {es es' : List RollupEvent} {table table' : EntityTable id}
  {cursor : PageCursor V}

theorem CoversSnapshots.receive (h : CoversSnapshots date stored range seen table cursor)
    (holds : Api.HoldsSnapshotRows es origin table stored) (hseen : seen ⊆ es) :
    CoversSnapshots date stored range seen table
      (cursor.receive pageSize (pageRows date table range pageSize cursor.offset)) := by
  intro s hs row hrow hstart hstop
  have hmem := mem_rows_of_stored holds (hseen hs) hrow
  exact (h s hs row hrow hstart hstop).receive (mem_rowsOfRange.mpr ⟨hmem, hstart, hstop⟩)

theorem CoversSnapshots.grow (h : CoversSnapshots date stored range seen table cursor)
    (hsub : table.rows ⊆ table'.rows) : CoversSnapshots date stored range seen table' cursor :=
  fun s hs row hrow hstart hstop => (h s hs row hrow hstart hstop).grow hsub

theorem CoversSnapshots.snapshot (h : CoversSnapshots date stored range seen table cursor)
    {s : Snapshot} (hahead : ∀ row ∈ stored s, range.start ≤ date row → date row ≤ range.stop →
      cursor.IsAhead date table range row) :
    CoversSnapshots date stored range (seen ++ [.snapshot s]) table cursor := by
  intro s' hs' row hrow hstart hstop
  rcases List.mem_append.mp hs' with hs' | hs'
  · exact h s' hs' row hrow hstart hstop
  · obtain rfl := RollupEvent.snapshot.inj (List.mem_singleton.mp hs')
    exact Or.inr (hahead row hrow hstart hstop)

theorem CoversSnapshots.logRebase (h : CoversSnapshots date stored range seen table cursor)
    (chainId srcAddress index epoch block timestamp) :
    CoversSnapshots date stored range
      (seen ++ [.logRebase chainId srcAddress index epoch block timestamp]) table cursor := by
  intro s hs row hrow hstart hstop
  rcases List.mem_append.mp hs with hs | hs
  · exact h s hs row hrow hstart hstop
  · cases List.mem_singleton.mp hs

end

/-- The date rows are of the events seen, all events until the last of their pages, and the other
two reads cover the rows of these. -/
structure FetchState.HasSeen (compound : BigNumber → BigNumber) (range : DateRange)
    (seen : List RollupEvent) (state : FetchState) : Prop where
  subset : seen ⊆ state.events
  all : state.metrics.done = false → seen = state.events
  metrics : ∀ raw ∈ state.metrics.rows, IsRead compound range seen raw
  records : CoversSnapshots (·.date) Snapshot.storedRecords range seen state.store.tokenRecord
    state.treasuryAssets
  supplies : CoversSnapshots (·.date) Snapshot.storedSupplies range seen state.store.tokenSupply
    state.ohmSupply

/-- A snapshot that commits in time is covered when the metrics can still name its block. -/
theorem FetchState.HasSeen.snapshot {s : Snapshot} (h : state.HasSeen compound range seen)
    (run : IndexerRun compound state.events state.store)
    (next : IndexerRun compound (state.events ++ [.snapshot s])
      (processSnapshot compound s state.store))
    (hcommits : state.CommitsInTime compound range s) :
    ∃ seen', FetchState.HasSeen compound range seen'
      { state with
        events := state.events ++ [.snapshot s]
        store := processSnapshot compound s state.store } := by
  have hevents : state.events ⊆ state.events ++ [.snapshot s] := List.subset_append_left _ _
  have hrecords := h.records.grow (rows_subset_of_events (Api.holdsRecords run)
    (Api.holdsRecords next) hevents)
  have hsupplies := h.supplies.grow (rows_subset_of_events (Api.holdsSupplies run)
    (Api.holdsSupplies next) hevents)
  cases hdone : state.metrics.done with
  | true =>
      exact ⟨seen,
        { subset := List.Subset.trans h.subset hevents
          all := fun hopen => by cases hopen.symm.trans hdone
          metrics := h.metrics
          records := hrecords
          supplies := hsupplies }⟩
  | false =>
      have hall := h.all hdone
      obtain ⟨hrecordsAhead, hsuppliesAhead⟩ :=
        hcommits.resolve_left (fun hclosed => by cases hclosed.symm.trans hdone)
      exact ⟨seen ++ [.snapshot s],
        { subset := by
            rw [hall]
            exact List.Subset.refl _
          all := fun _ => by rw [hall]
          metrics := fun raw hraw => (h.metrics raw hraw).mono (List.subset_append_left _ _)
          records := hrecords.snapshot hrecordsAhead
          supplies := hsupplies.snapshot hsuppliesAhead }⟩

theorem FetchState.HasSeen.logRebase (h : state.HasSeen compound range seen)
    (chainId srcAddress index epoch block timestamp) :
    ∃ seen', FetchState.HasSeen compound range seen'
      { state with
        events := state.events ++ [.logRebase chainId srcAddress index epoch block timestamp]
        store :=
          { state.store with
            rollup := applyLogRebase chainId srcAddress index epoch block timestamp
              state.store.rollup } } := by
  have hevents : state.events ⊆
      state.events ++ [.logRebase chainId srcAddress index epoch block timestamp] :=
    List.subset_append_left _ _
  cases hdone : state.metrics.done with
  | true =>
      exact ⟨seen,
        { subset := List.Subset.trans h.subset hevents
          all := fun hopen => by cases hopen.symm.trans hdone
          metrics := h.metrics
          records := h.records
          supplies := h.supplies }⟩
  | false =>
      have hall := h.all hdone
      exact ⟨seen ++ [.logRebase chainId srcAddress index epoch block timestamp],
        { subset := by
            rw [hall]
            exact List.Subset.refl _
          all := fun _ => by rw [hall]
          metrics := fun raw hraw => (h.metrics raw hraw).mono (List.subset_append_left _ _)
          records := h.records.logRebase _ _ _ _ _ _
          supplies := h.supplies.logRebase _ _ _ _ _ _ }⟩

theorem FetchRun.hasSeen
    (h : FetchRun compound range pageSize (FetchState.CommitsInTime compound range) state) :
    ∃ seen, state.HasSeen compound range seen := by
  induction h with
  | @start es store run =>
      exact ⟨es,
        { subset := List.Subset.refl _
          all := fun _ => rfl
          metrics := fun raw hraw => by cases hraw
          records := fun s hs row hrow hstart hstop => Or.inr ⟨rfl, Nat.zero_le _⟩
          supplies := fun s hs row hrow hstart hstop => Or.inr ⟨rfl, Nat.zero_le _⟩ }⟩
  | snapshot s run howns hreads hfollows hcommits ih =>
      obtain ⟨seen, hseen⟩ := ih
      exact hseen.snapshot run.indexerRun
        (run.indexerRun.snapshot s howns hreads hfollows) hcommits
  | logRebase chainId srcAddress index epoch block timestamp _ ih =>
      obtain ⟨seen, hseen⟩ := ih
      exact hseen.logRebase chainId srcAddress index epoch block timestamp
  | metrics run hopen ih =>
      obtain ⟨seen, hseen⟩ := ih
      have hall := hseen.all hopen
      refine ⟨seen, hseen.subset, fun _ => hall, fun raw hraw => ?_, hseen.records, hseen.supplies⟩
      rw [PageCursor.rows_receive, List.mem_append] at hraw
      rcases hraw with hraw | hraw
      · exact hseen.metrics raw hraw
      · rw [hall]
        exact isRead_of_mem_metricsPage run.indexerRun hraw
  | treasuryAssets run _ ih =>
      obtain ⟨seen, hseen⟩ := ih
      exact ⟨seen, hseen.subset, hseen.all, hseen.metrics,
        hseen.records.receive (Api.holdsRecords run.indexerRun) hseen.subset, hseen.supplies⟩
  | ohmSupply run _ ih =>
      obtain ⟨seen, hseen⟩ := ih
      exact ⟨seen, hseen.subset, hseen.all, hseen.metrics, hseen.records,
        hseen.supplies.receive (Api.holdsSupplies run.indexerRun) hseen.subset⟩

/-! ### Shards that agree -/

section

variable {N : Type} [Zero N] [Add N] {toNumber : BigNumber → N}

omit [Zero N] [Add N] in
theorem isPublished_shardArtifacts_iff {deploymentId : DeploymentId} {months : List String}
    {rows : (kind : ArtifactKind) → List (Api.MetricRow N kind)} {kind : ArtifactKind}
    {row : Api.MetricRow N kind} :
    IsPublished (shardArtifacts deploymentId months rows) kind row ↔
      row ∈ rows kind ∧ ∃ month ∈ months, startsWith (Dated.date row) month = true := by
  constructor
  · rintro ⟨artifact, hmem, shard, hvalue, hrow⟩
    obtain ⟨month, hmonth, hmem⟩ := List.mem_flatMap.mp hmem
    obtain ⟨kind', -, rfl⟩ := List.mem_map.mp hmem
    cases hvalue
    obtain ⟨hrow, hstarts⟩ := List.mem_filter.mp hrow
    exact ⟨hrow, month, hmonth, hstarts⟩
  · rintro ⟨hrow, month, hmonth, hstarts⟩
    have hkind : kind ∈ ArtifactKind.all := by cases kind <;> decide
    exact ⟨_, List.mem_flatMap.mpr ⟨month, hmonth, List.mem_map_of_mem hkind⟩, _, rfl,
      List.mem_filter.mpr ⟨hrow, hstarts⟩⟩

/-- A covered read that is done has the rows of the block that a metric names. -/
theorem mem_rows_of_named {V : Type} {id : V → String} {date : V → String}
    {origin : V → RowOrigin} {stored : Snapshot → List V} {table : EntityTable id}
    {cursor : PageCursor V}
    (hblocks : Api.ReadsBlocks toNumber state.events) (hseen : seen ⊆ state.events)
    (holds : Api.HoldsSnapshotRows state.events origin table stored)
    (hcovers : CoversSnapshots date stored range seen table cursor) (hdone : cursor.done = true)
    {raw : RawDailyMetric} (hraw : IsRead compound range seen raw) {row : V}
    (hrow : row ∈ table.rows) (hdate : date row = raw.snapshot.date)
    (hne : (readMetric toNumber raw).blocks (origin row).chainId ≠ 0)
    (hblock : toNumber (.ofInt (origin row).block) =
      (readMetric toNumber raw).blocks (origin row).chainId) : row ∈ cursor.rows := by
  obtain ⟨es, store, hes, hrun, hfrom⟩ := hraw.run
  have hday := describesDay_dailyMetricOf toNumber hrun.rollupRun hfrom
  have hlatest := hday.blocks (origin row).chainId
  rw [show (dailyMetricOf toNumber raw.keyed raw) = readMetric toNumber raw from rfl] at hlatest
  rw [hlatest] at hne hblock
  cases hs : latestSnapshot es (origin row).chainId raw.snapshot.id with
  | none =>
      rw [ofLatest, hs] at hne
      exact absurd rfl hne
  | some s =>
      rw [ofLatest, hs] at hblock
      obtain ⟨hmem, hchain, -⟩ := Api.mem_of_latestSnapshot hs
      have hsees := hes hmem
      obtain ⟨u, hu, hisOf⟩ := holds.own row hrow
      have hsame : u.block = s.block :=
        hblocks.injective u s hu (hseen hsees) (by rw [← hisOf.block]; exact hblock)
      have hstored : row ∈ stored s := by
        rw [← holds.rowsAt s (hseen hsees)]
        exact List.mem_filter.mpr
          ⟨hrow, decide_eq_true (by rw [hchain, hisOf.block, hsame])⟩
      have hcovered := hcovers s hsees row hstored (hdate ▸ hraw.inRange.1) (hdate ▸ hraw.inRange.2)
      exact hcovered.mem hdone

/-- The shards of a publish run agree if every snapshot commits after the last page of the metrics,
or before the reads of assets and of supplies come to the places of its rows. -/
theorem shardsAgree_of_commitsInTime
    (h : FetchRun compound range pageSize (FetchState.CommitsInTime compound range) state)
    (hfinished : state.Finished) (hblocks : Api.ReadsBlocks toNumber state.events) :
    ∃ rows, state.fetched toNumber = .ok rows ∧ ∀ deploymentId months,
      ShardsAgree toNumber state.store (shardArtifacts deploymentId months rows) := by
  obtain ⟨seen, hseen⟩ := h.hasSeen
  have run := h.indexerRun
  refine ⟨_, h.fetched_eq toNumber, fun deploymentId months => ⟨?_, ?_⟩⟩
  · intro metric hmetric row hrow hdate hne hblock
    obtain ⟨hmetric, month, hmonth, hstarts⟩ := isPublished_shardArtifacts_iff.mp hmetric
    obtain ⟨raw, hraw, rfl⟩ := List.mem_map.mp hmetric
    have hmem := mem_rows_of_named hblocks hseen.subset (Api.holdsRecords run) hseen.records
      hfinished.treasuryAssets (hseen.metrics raw hraw) hrow hdate hne hblock
    refine isPublished_shardArtifacts_iff.mpr ⟨List.mem_map_of_mem hmem, month, hmonth, ?_⟩
    exact (congrArg (startsWith · month) hdate).trans hstarts
  · intro metric hmetric row hrow hdate hne hblock
    obtain ⟨hmetric, month, hmonth, hstarts⟩ := isPublished_shardArtifacts_iff.mp hmetric
    obtain ⟨raw, hraw, rfl⟩ := List.mem_map.mp hmetric
    have hmem := mem_rows_of_named hblocks hseen.subset (Api.holdsSupplies run) hseen.supplies
      hfinished.ohmSupply (hseen.metrics raw hraw) hrow hdate hne hblock
    refine isPublished_shardArtifacts_iff.mpr ⟨List.mem_map_of_mem hmem, month, hmonth, ?_⟩
    exact (congrArg (startsWith · month) hdate).trans hstarts

end

end

/-! ### Snapshots between the pages -/

/-- A snapshot of Ethereum, with the stablecoins of a wallet and the supply of OHM. -/
def dollarSnapshot (block timestamp : ℕ) (store : IndexerStore) : Snapshot :=
  Snapshot.reading
    { chain := .ethereum
      block := block
      timestamp := timestamp
      records := [createTokenRecord (chainConfigs .ethereum) timestamp "USDC"
        "0xa0b86991c6218b36c1d19d4a2e9eb0ce3606eb48" "Treasury"
        "0x9a315bdf513367c0377fb36545857d12e85813ef" (.finite 1) (.finite 50) block]
      supplies := [createTokenSupply (chainConfigs .ethereum) timestamp "OHM"
        (chainConfigs .ethereum).ohmToken none none none none typeTotalSupply (.finite 100) block]
      reads := ⟨.finite 12, none, none⟩
      getWhere := [] } store.rollup

section

variable (block timestamp : ℕ) (store : IndexerStore)

theorem ownsRows_dollarSnapshot : (dollarSnapshot block timestamp store).OwnsRows where
  records := by
    intro row hrow
    obtain rfl := List.mem_singleton.mp hrow
    exact createTokenRecord_isOf (dollarSnapshot block timestamp store) _ _ _ _ _ _ _ _
  supplies := by
    intro row hrow
    obtain rfl := List.mem_singleton.mp hrow
    exact ⟨⟨_, rfl⟩, rfl, rfl, rfl, rfl, rfl⟩

theorem readsFrom_dollarSnapshot :
    (dollarSnapshot block timestamp store).ReadsFrom store.rollup :=
  Snapshot.readsFrom_reading _ _

end

/-- The first snapshot, of 14 November 2023. -/
def firstDollars : Snapshot := dollarSnapshot 18570000 1700000000 .empty

def firstStore : IndexerStore := processSnapshot id firstDollars .empty

theorem firstRun : IndexerRun id [.snapshot firstDollars] firstStore :=
  .snapshot firstDollars .nil (ownsRows_dollarSnapshot _ _ _) (readsFrom_dollarSnapshot _ _ _)
    (fun s hs => by cases hs)

/-- A second snapshot of the day. -/
def laterDollars : Snapshot := dollarSnapshot 18570300 1700003600 firstStore

/-- The snapshot of the next day. -/
def nextDollars : Snapshot := dollarSnapshot 18577200 1700086400 firstStore

def november : DateRange := ⟨"2023-11-01", "2023-11-30", 30⟩

theorem follows_first {s : Snapshot} (h : 18570000 < s.block ∧ 1700000000 ≤ s.timestamp) :
    s.FollowsIn [.snapshot firstDollars] := by
  intro s' hs' _
  obtain rfl := RollupEvent.snapshot.inj (List.mem_singleton.mp hs')
  exact h

/-- The record of the next day comes after the page that the read of assets has. -/
theorem nextDollars_inTime :
    FetchState.CommitsInTime id november
      ⟨[.snapshot firstDollars], firstStore, .start,
        PageCursor.start.receive 1 (pageRows (·.date) firstStore.tokenRecord november 1 0),
        .start⟩ nextDollars := by
  refine Or.inr ⟨fun row hrow _ _ => ?_, fun row _ _ _ => ⟨rfl, Nat.zero_le _⟩⟩
  have hrow : row ∈ nextDollars.records := by
    rcases EntityTable.mem_rows_setAll_of_id hrow with hrow | hrow
    · exact hrow
    · cases hrow
  obtain rfl := List.mem_singleton.mp hrow
  exact ⟨by decide +kernel, by decide +kernel⟩

theorem readsBlocks_id {es : List RollupEvent}
    (h : ∀ s, RollupEvent.snapshot s ∈ es → 0 < s.block) : Api.ReadsBlocks id es where
  ne_zero := by
    intro s hs hzero
    have hpos := h s hs
    have hcast : ((s.block : ℤ) : ℚ) = 0 := BigNumber.finite.inj hzero
    norm_cast at hcast
    omega
  injective := by
    intro s s' _ _ heq
    have hcast : ((s.block : ℤ) : ℚ) = ((s'.block : ℤ) : ℚ) := BigNumber.finite.inj heq
    exact_mod_cast hcast

/-- The next day is committed between the first two pages of the assets. -/
theorem shardsAgree_nextDollars : ∃ state : FetchState,
    state.events = [.snapshot firstDollars, .snapshot nextDollars] ∧
      ∃ rows, state.fetched id = .ok rows ∧ ∀ deploymentId months,
        ShardsAgree id state.store (shardArtifacts deploymentId months rows) := by
  have hstart : FetchRun id november 1 (FetchState.CommitsInTime id november) _ := .start firstRun
  have hasset := hstart.treasuryAssets rfl
  have hnext := hasset.snapshot nextDollars (ownsRows_dollarSnapshot _ _ _)
    (readsFrom_dollarSnapshot _ _ _) (follows_first (by decide)) nextDollars_inTime
  have hmetrics := ((hnext.metrics rfl).metrics (by decide +kernel)).metrics (by decide +kernel)
  have hassets := (hmetrics.treasuryAssets (by decide +kernel)).treasuryAssets (by decide +kernel)
  have hsupplies :=
    ((hassets.ohmSupply rfl).ohmSupply (by decide +kernel)).ohmSupply (by decide +kernel)
  have hblocks := shardsAgree_of_commitsInTime hsupplies
    ⟨by decide +kernel, by decide +kernel, by decide +kernel⟩
    (readsBlocks_id (fun s hs => by
      rcases List.mem_cons.mp hs with hs | hs
      · obtain rfl := RollupEvent.snapshot.inj hs
        decide
      · obtain rfl := RollupEvent.snapshot.inj (List.mem_singleton.mp hs)
        decide))
  exact ⟨_, rfl, hblocks⟩

/-- The store after the second snapshot of the day. -/
def laterStore : IndexerStore := processSnapshot id laterDollars firstStore

theorem laterRun : IndexerRun id [.snapshot firstDollars, .snapshot laterDollars] laterStore :=
  .snapshot laterDollars firstRun (ownsRows_dollarSnapshot _ _ _) (readsFrom_dollarSnapshot _ _ _)
    (follows_first (by decide))

/-- The date row that the second snapshot writes. -/
def laterRow : GlobalMetricSnapshot := laterDollars.dateRow id "2023-11-14" firstStore.rollup

theorem laterDollars_date : laterDollars.date = some "2023-11-14" := by decide

theorem laterRow_mem : laterRow ∈ laterStore.rollup.globalMetricSnapshot.rows := by
  rw [laterStore, processSnapshot, Snapshot.apply_of_date laterDollars_date]
  exact EntityTable.mem_rows_set.mpr (Or.inl rfl)

/-- The metric of the day names the block of the second snapshot. -/
theorem blocks_laterRow : (readMetric id (rawDailyMetric laterStore.rollup laterRow)).blocks
    .ethereum = .ofInt 18570300 := by
  have hday := describesDay_dailyMetricOf id laterRun.rollupRun
    (rawDailyMetric_readsFrom laterRow_mem)
  have hlatest : latestSnapshot [.snapshot firstDollars, .snapshot laterDollars] .ethereum
      "2023-11-14" = some laterDollars := by
    have h := latestSnapshot_append_snapshot [.snapshot firstDollars] laterDollars .ethereum
      "2023-11-14"
    rw [if_pos ⟨rfl, laterDollars_date⟩] at h
    exact h
  have hblocks := hday.blocks .ethereum
  rw [show (rawDailyMetric laterStore.rollup laterRow).snapshot.id = "2023-11-14" from rfl,
    ofLatest, hlatest] at hblocks
  exact hblocks

theorem laterRow_mem_page (limit : ℕ)
    (h : (pageRows (·.date) laterStore.rollup.globalMetricSnapshot november limit 0).length <
      limit) :
    rawDailyMetric laterStore.rollup laterRow ∈ metricsPage laterStore.rollup november limit 0 := by
  have hrow : laterRow ∈ rowsOfRange (·.date) laterStore.rollup.globalMetricSnapshot
      november.start november.stop :=
    mem_rowsOfRange.mpr ⟨laterRow_mem, (by decide +kernel : "2023-11-01" ≤ "2023-11-14"),
      (by decide +kernel : "2023-11-14" ≤ "2023-11-30")⟩
  exact List.mem_map_of_mem
    (mem_pageRows_iff.mpr ⟨hrow, Nat.zero_le _, placeOf_lt_of_short hrow h⟩)

/-- The record of the second snapshot. -/
def laterRecord : SerializedTokenRecord :=
  createTokenRecord (chainConfigs .ethereum) 1700003600 "USDC"
    "0xa0b86991c6218b36c1d19d4a2e9eb0ce3606eb48" "Treasury"
    "0x9a315bdf513367c0377fb36545857d12e85813ef" (.finite 1) (.finite 50) 18570300

theorem laterRecord_mem : laterRecord ∈ laterStore.tokenRecord.rows :=
  EntityTable.mem_rows_set.mpr (Or.inl rfl)

/-- The assets of a read that ended before the second snapshot are not those of its block. -/
theorem laterRecord_not_read {limit offset : ℕ} :
    treasuryAssetOf id laterRecord.chainId laterRecord ∉
      (pageRows (·.date) firstStore.tokenRecord november limit offset).map
        (fun row => treasuryAssetOf id row.chainId row) := by
  intro hmem
  obtain ⟨row, hrow, heq⟩ := List.mem_map.mp hmem
  obtain ⟨s, hs, hown⟩ := firstRun.rowsOfSnapshots.records row
    (mem_rowsOfRange.mp (mem_pageRows_iff.mp hrow).1).1
  obtain rfl := RollupEvent.snapshot.inj (List.mem_singleton.mp hs)
  obtain rfl := List.mem_singleton.mp hown
  have hblock := congrArg Api.TreasuryAsset.block heq
  exact absurd hblock (by decide)

/-- The assets and the supplies are read, the second snapshot of the day commits, and the metrics
are read. -/
theorem not_shardsAgree_of_lateCommit :
    ¬ ∀ (range : DateRange) (pageSize : ℕ) (state : FetchState),
      FetchRun id range pageSize (fun _ _ => True) state → state.Finished →
      Api.ReadsBlocks id state.events →
      ∃ rows, state.fetched id = .ok rows ∧ ∀ deploymentId months,
        ShardsAgree id state.store (shardArtifacts deploymentId months rows) := by
  intro h
  have hstart : FetchRun id november 1000 (fun _ _ => True) _ := .start firstRun
  have hrecords := (hstart.treasuryAssets rfl).ohmSupply rfl
  have hrun := (hrecords.snapshot laterDollars (ownsRows_dollarSnapshot _ _ _)
    (readsFrom_dollarSnapshot _ _ _) (follows_first (by decide)) trivial).metrics rfl
  have hshort : (pageRows (·.date) laterStore.rollup.globalMetricSnapshot november 1000 0).length <
      1000 := by decide +kernel
  obtain ⟨rows, hrows, hagree⟩ := h november 1000 _ hrun
    ⟨by decide +kernel, by decide +kernel, by decide +kernel⟩
    (readsBlocks_id (fun s hs => by
      rcases List.mem_cons.mp hs with hs | hs
      · obtain rfl := RollupEvent.snapshot.inj hs
        decide
      · obtain rfl := RollupEvent.snapshot.inj (List.mem_singleton.mp hs)
        decide))
  rw [hrun.fetched_eq] at hrows
  obtain rfl := Except.ok.inj hrows
  have hread : readMetric id (rawDailyMetric laterStore.rollup laterRow) ∈
      (PageCursor.start.receive 1000
        (metricsPage laterStore.rollup november 1000 0)).rows.map (readMetric id) := by
    rw [PageCursor.rows_receive]
    exact List.mem_map_of_mem (List.mem_append_right _ (laterRow_mem_page 1000 hshort))
  have hmonth : "2023-11" ∈ ["2023-11"] := List.mem_singleton_self _
  have hpublished := (hagree ⟨"deployment-1", by decide, by decide⟩ ["2023-11"]).records
    (readMetric id (rawDailyMetric laterStore.rollup laterRow))
    (isPublished_shardArtifacts_iff.mpr ⟨hread, "2023-11", hmonth, by decide⟩)
    laterRecord laterRecord_mem rfl
    (by rw [show laterRecord.chainId = .ethereum from rfl, blocks_laterRow]; decide)
    (by rw [show laterRecord.chainId = .ethereum from rfl, blocks_laterRow]; rfl)
  have hasset : treasuryAssetOf id laterRecord.chainId laterRecord ∈
      (PageCursor.start.receive 1000
        (pageRows (·.date) firstStore.tokenRecord november 1000 0)).rows.map
          (fun row => treasuryAssetOf id row.chainId row) :=
    (isPublished_shardArtifacts_iff.mp hpublished).1
  rw [PageCursor.rows_receive] at hasset
  exact laterRecord_not_read hasset

end OlympusMetrics.Publisher
