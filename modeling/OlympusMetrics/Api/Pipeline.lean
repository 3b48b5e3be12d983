import OlympusMetrics.Api.LosslessRuns
import OlympusMetrics.Api.SameRecords
import OlympusMetrics.Publisher.HasuraSource

/-!
From the indexer to the API: what is served of a day is what the indexer has
computed for it.

A run of the publisher over the indexer's tables publishes the metrics of the date
rows and the records of the snapshots. The API selects of a day's records those of
the blocks that its metric names, and these are the blocks of the latest snapshots.
-/

namespace OlympusMetrics.Api

open Process Publisher SortedRows

/-! ### Dates -/

theorem civilFromDays_add_cycles (days : ℕ) :
    Calendar.civilFromDays (days + 730485) =
      { Calendar.civilFromDays days with year := (Calendar.civilFromDays days).year + 2000 } := by
  have hera : (days + 730485 + 719468) / 146097 = (days + 719468) / 146097 + 5 := by omega
  have hday : (days + 730485 + 719468) % 146097 = (days + 719468) % 146097 := by omega
  have hyear (year : ℕ) : year + ((days + 719468) / 146097 + 5) * 400 =
      year + (days + 719468) / 146097 * 400 + 2000 := by omega
  simp only [Calendar.civilFromDays, hera, hday, hyear]
  split_ifs <;> simp [Nat.add_right_comm]

/-- A timestamp's date is that of its day. -/
theorem isoDate_eq_dateText (timestamp : ℕ) :
    isoDate timestamp = dateText (timestamp / 86400 + 730485) := by
  have hday : ofDayNumber (timestamp / 86400 + 730485) =
      Calendar.civilFromDays (timestamp / 86400) := by
    unfold ofDayNumber
    rw [civilFromDays_add_cycles]
    generalize Calendar.civilFromDays (timestamp / 86400) = date
    exact Calendar.CivilDate.mk.injEq .. |>.mpr ⟨Nat.add_sub_cancel _ _, rfl, rfl⟩
  rw [isoDate, dateText, hday]

/-- Up to the year 9999 the texts of timestamps are dates. -/
theorem isDate_isoDate {timestamp : ℕ} (h : timestamp < 253402300800) :
    IsDate (isoDate timestamp) := by
  rw [isoDate_eq_dateText]
  exact isDate_dateText ⟨by omega, by rw [lastDayNumber]; omega⟩

/-- No snapshot is later than the year 9999. -/
def BeforeYear10000 (es : List RollupEvent) : Prop :=
  ∀ s, RollupEvent.snapshot s ∈ es → s.timestamp < 253402300800

section

variable {compound : BigNumber → BigNumber} {es : List RollupEvent} {store : IndexerStore}

/-- A date row is of the date of a snapshot. -/
theorem exists_snapshot_of_dateRow (run : IndexerRun compound es store) {row : GlobalMetricSnapshot}
    (h : row ∈ store.rollup.globalMetricSnapshot.rows) :
    row.date = row.id ∧ ∃ s, RollupEvent.snapshot s ∈ es ∧ s.date = some row.id := by
  obtain ⟨before, s, ⟨later, hes, hdate, -⟩, heq⟩ :=
    dateRow_of_run run.rollupRun (EntityTable.get_eq_some_iff.mpr ⟨h, rfl⟩)
  exact ⟨by rw [heq]; rfl, s, by rw [hes]; simp, hdate⟩

theorem exists_latestSnapshot {s : Snapshot} {date : String} (h : RollupEvent.snapshot s ∈ es)
    (hdate : s.date = some date) : ∃ s', latestSnapshot es s.chain date = some s' := by
  have hmem : s ∈ snapshotsOf es s.chain date :=
    List.mem_filterMap.mpr ⟨_, h, if_pos ⟨rfl, hdate⟩⟩
  cases hlast : latestSnapshot es s.chain date with
  | none =>
      rw [List.getLast?_eq_none_iff.mp hlast] at hmem
      cases hmem
  | some s' => exact ⟨s', rfl⟩

theorem mem_of_latestSnapshot {s : Snapshot} {chain : ChainId} {date : String}
    (h : latestSnapshot es chain date = some s) :
    RollupEvent.snapshot s ∈ es ∧ s.chain = chain ∧ s.date = some date := by
  have hlast := List.mem_of_getLast? h
  refine ⟨?_, mem_snapshotsOf hlast⟩
  obtain ⟨e, he, heq⟩ := List.mem_filterMap.mp hlast
  cases e with
  | snapshot u =>
      simp only [Option.ite_none_right_eq_some, Option.some.injEq] at heq
      exact heq.2 ▸ he
  | logRebase => simp at heq

end

/-! ### The records of a day -/

variable {N : Type}

/-- The numbers tell the blocks of the snapshots apart, and none of them is read as zero. -/
structure ReadsBlocks [Zero N] (toNumber : BigNumber → N) (es : List RollupEvent) : Prop where
  ne_zero : ∀ s, RollupEvent.snapshot s ∈ es → toNumber (.ofInt s.block) ≠ 0
  injective : ∀ s s', RollupEvent.snapshot s ∈ es → RollupEvent.snapshot s' ∈ es →
    toNumber (.ofInt s.block) = toNumber (.ofInt s'.block) → s.block = s'.block

/-- A table of rows that snapshots have made, with what each of them has left there. -/
structure HoldsSnapshotRows {V : Type} {id : V → String} (es : List RollupEvent) (origin : V → RowOrigin)
    (table : EntityTable id) (stored : Snapshot → List V) : Prop where
  own : ∀ row ∈ table.rows, ∃ s, RollupEvent.snapshot s ∈ es ∧ (origin row).IsOf s
  isOf : ∀ s, RollupEvent.snapshot s ∈ es → ∀ row ∈ stored s, (origin row).IsOf s
  rowsAt : ∀ s, RollupEvent.snapshot s ∈ es → table.rows.filter (fun row =>
    ((origin row).chainId, (origin row).block) = (s.chain, s.block)) = stored s

section

variable {compound : BigNumber → BigNumber} {es : List RollupEvent} {store : IndexerStore}

theorem holdsRecords (run : IndexerRun compound es store) :
    HoldsSnapshotRows es SerializedTokenRecord.origin store.tokenRecord Snapshot.storedRecords where
  own := by
    intro row hrow
    obtain ⟨s, hs, hmem⟩ := run.rowsOfSnapshots.records row hrow
    exact ⟨s, hs, (run.ownsRows hs).records row hmem⟩
  isOf := by
    intro s hs row hrow
    rcases EntityTable.mem_rows_setAll_of_id hrow with hrow | hrow
    · exact (run.ownsRows hs).records row hrow
    · cases hrow
  rowsAt := fun s hs => (run.rowsAt hs).1

theorem holdsSupplies (run : IndexerRun compound es store) :
    HoldsSnapshotRows es SerializedTokenSupply.origin store.tokenSupply Snapshot.storedSupplies where
  own := by
    intro row hrow
    obtain ⟨s, hs, hmem⟩ := run.rowsOfSnapshots.supplies row hrow
    exact ⟨s, hs, (run.ownsRows hs).supplies row hmem⟩
  isOf := by
    intro s hs row hrow
    rcases EntityTable.mem_rows_setAll_of_id hrow with hrow | hrow
    · exact (run.ownsRows hs).supplies row hrow
    · cases hrow
  rowsAt := fun s hs => (run.rowsAt hs).2

end

section

variable [Zero N] [DecidableEq N] {toNumber : BigNumber → N} {es : List RollupEvent} {V A : Type}
  {id : V → String} {origin : V → RowOrigin} {table : EntityTable id}
  {stored : Snapshot → List V} {start stop : String}

/-- The rows of a range that are of the date, the chain and the block of a snapshot are those that it
has left. -/
theorem HoldsSnapshotRows.selected_perm (holds : HoldsSnapshotRows es origin table stored)
    (hblocks : ReadsBlocks toNumber es) {s : Snapshot} (hs : RollupEvent.snapshot s ∈ es)
    (hstart : start ≤ isoDate s.timestamp) (hstop : isoDate s.timestamp ≤ stop) :
    ((rowsOfRange (fun row => (origin row).date) table start stop).filter (fun row =>
      (origin row).date = isoDate s.timestamp ∧ (origin row).chainId = s.chain ∧
        toNumber (.ofInt (origin row).block) = toNumber (.ofInt s.block))).Perm (stored s) := by
  have hrows := holds.rowsAt s hs
  have hnodup : table.rows.Nodup := table.nodup_ids.of_map
  refine (List.perm_ext_iff_of_nodup (nodup_rowsOfRange.filter _)
    (hrows ▸ hnodup.filter _)).mpr (fun row => ?_)
  rw [List.mem_filter, decide_eq_true_iff, mem_rowsOfRange]
  constructor
  · rintro ⟨⟨hrow, -, -⟩, -, hchain, hblock⟩
    obtain ⟨u, hu, hisOf⟩ := holds.own row hrow
    rw [hisOf.block] at hblock
    have hsame := hblocks.injective u s hu hs hblock
    rw [← hrows]
    refine List.mem_filter.mpr ⟨hrow, decide_eq_true ?_⟩
    rw [hchain, hisOf.block, hsame]
  · intro hrow
    have hisOf := holds.isOf s hs row hrow
    rw [← hrows] at hrow
    refine ⟨⟨(List.mem_filter.mp hrow).1, ?_, ?_⟩, hisOf.date, hisOf.chainId, by rw [hisOf.block]⟩
    · rw [hisOf.date]
      exact hstart
    · rw [hisOf.date]
      exact hstop

theorem chainOfName_chainName (chain : ChainId) : chainOfName (chainName chain) = some chain :=
  chainOfName_eq_some_iff.mpr rfl

/-- What of the records of a chain is attached to the metric of a date: those that the chain's latest
snapshot of the date has left. -/
theorem HoldsSnapshotRows.attached_perm (holds : HoldsSnapshotRows es origin table stored)
    (hblocks : ReadsBlocks toNumber es)
    (howns : ∀ s, RollupEvent.snapshot s ∈ es → s.OwnsRows) {date : String}
    (hstart : start ≤ date) (hstop : date ≤ stop) {metric : DailyMetric N}
    (hmetric : ∀ chain, metric.blocks chain =
      ofLatest (fun row => toNumber (.ofInt row.block)) es date chain)
    (build : ChainId → V → A) {dateOf : A → String} {blockOf : A → N} {blockchainOf : A → String}
    (hdateOf : ∀ chain row, dateOf (build chain row) = (origin row).date)
    (hblockOf : ∀ chain row, blockOf (build chain row) = toNumber (.ofInt (origin row).block))
    (hblockchainOf : ∀ chain row, blockchainOf (build chain row) = chainName chain)
    (chain : ChainId) :
    (((((rowsOfRange (fun row => (origin row).date) table start stop).map
      (fun row => build (origin row).chainId row)).filter (fun a => dateOf a == date)).filter
        (fun a => isSelectedMetricBlock metric (blockOf a) (blockchainOf a))).filter
          (fun a => chainOfName (blockchainOf a) == some chain)).Perm
      ((latestSnapshot es chain date).elim [] (fun s => (stored s).map (build chain))) := by
  have hselect : ∀ row, (dateOf (build (origin row).chainId row) == date &&
      (isSelectedMetricBlock metric (blockOf (build (origin row).chainId row))
        (blockchainOf (build (origin row).chainId row)) &&
          (chainOfName (blockchainOf (build (origin row).chainId row)) == some chain))) =
      decide ((origin row).date = date ∧ (origin row).chainId = chain ∧
        metric.blocks chain ≠ 0 ∧ toNumber (.ofInt (origin row).block) = metric.blocks chain) := by
    intro row
    rw [hdateOf, hblockOf, hblockchainOf, isSelectedMetricBlock, chainOfName_chainName,
      Bool.eq_iff_iff]
    simp only [Bool.and_eq_true, beq_iff_eq, Option.some.injEq, decide_eq_true_eq]
    constructor
    · rintro ⟨hdate, ⟨hne, hblock⟩, rfl⟩
      exact ⟨hdate, rfl, hne, hblock⟩
    · rintro ⟨hdate, rfl, hne, hblock⟩
      exact ⟨hdate, ⟨hne, hblock⟩, rfl⟩
  rw [List.filter_filter, List.filter_filter, List.filter_map]
  have hfilter : (rowsOfRange (fun row => (origin row).date) table start stop).filter
      ((fun a => ((chainOfName (blockchainOf a) == some chain) &&
        isSelectedMetricBlock metric (blockOf a) (blockchainOf a)) && (dateOf a == date)) ∘
          (fun row => build (origin row).chainId row)) =
      (rowsOfRange (fun row => (origin row).date) table start stop).filter (fun row =>
        (origin row).date = date ∧ (origin row).chainId = chain ∧ metric.blocks chain ≠ 0 ∧
          toNumber (.ofInt (origin row).block) = metric.blocks chain) := by
    apply List.filter_congr
    intro row _
    rw [← hselect row, Function.comp_apply, Bool.and_comm, Bool.and_comm (_ == some chain)]
  simp only [Bool.and_assoc] at hfilter ⊢
  rw [hfilter]
  cases hlatest : latestSnapshot es chain date with
  | none =>
      have hzero : metric.blocks chain = 0 := by
        rw [hmetric, ofLatest, hlatest]
        rfl
      have hnone : (rowsOfRange (fun row => (origin row).date) table start stop).filter (fun row =>
          (origin row).date = date ∧ (origin row).chainId = chain ∧ metric.blocks chain ≠ 0 ∧
            toNumber (.ofInt (origin row).block) = metric.blocks chain) = [] :=
        List.filter_eq_nil_iff.mpr (fun row _ h => (of_decide_eq_true h).2.2.1 hzero)
      rw [hnone]
      exact List.Perm.refl _
  | some s =>
      obtain ⟨hs, hchain, hdate⟩ := mem_of_latestSnapshot hlatest
      have hiso := (howns s hs).date_eq hdate
      have hblock : metric.blocks chain = toNumber (.ofInt s.block) := by
        rw [hmetric, ofLatest, hlatest]
        rfl
      have hperm := holds.selected_perm hblocks hs (hiso ▸ hstart) (hiso ▸ hstop)
      have hsame : (rowsOfRange (fun row => (origin row).date) table start stop).filter (fun row =>
          (origin row).date = date ∧ (origin row).chainId = chain ∧ metric.blocks chain ≠ 0 ∧
            toNumber (.ofInt (origin row).block) = metric.blocks chain) =
          (rowsOfRange (fun row => (origin row).date) table start stop).filter (fun row =>
            (origin row).date = isoDate s.timestamp ∧ (origin row).chainId = s.chain ∧
              toNumber (.ofInt (origin row).block) = toNumber (.ofInt s.block)) := by
        apply List.filter_congr
        intro row _
        have hne := hblocks.ne_zero s hs
        rw [hblock, ← hiso, hchain]
        simp only [ne_eq, hne, not_false_eq_true, true_and]
      rw [hsame, Option.elim_some]
      have hbuild : (stored s).map (build chain) =
          (stored s).map (fun row => build (origin row).chainId row) := by
        apply List.map_congr_left
        intro row hrow
        rw [(holds.isOf s hs row hrow).chainId, hchain]
      rw [hbuild]
      exact hperm.map _

end

/-! ### The rows that are published -/

section

variable [Zero N] [Add N] {toNumber : BigNumber → N} {compound : BigNumber → BigNumber}
  {es : List RollupEvent} {store : IndexerStore}

/-- The rows that the source has for a range are sorted rows of this range. -/
theorem sourceRows_of_run (run : IndexerRun compound es store) (hyear : BeforeYear10000 es)
    (range : DateRange) : SourceRows range (Publisher.storedRows toNumber store range) where
  sorted := by
    intro kind
    cases kind with
    | metrics =>
        refine ⟨fun row hrow => ?_, List.pairwise_map.mpr sortedDates_rowsOfRange⟩
        obtain ⟨snapshot, hsnapshot, rfl⟩ := List.mem_map.mp hrow
        obtain ⟨hid, s, hs, hdate⟩ := exists_snapshot_of_dateRow run (mem_rowsOfRange.mp hsnapshot).1
        change IsDate snapshot.date
        rw [hid, (run.ownsRows hs).date_eq hdate]
        exact isDate_isoDate (hyear s hs)
    | treasuryAssets =>
        refine ⟨fun row hrow => ?_, List.pairwise_map.mpr sortedDates_rowsOfRange⟩
        obtain ⟨record, hrecord, rfl⟩ := List.mem_map.mp hrow
        obtain ⟨s, hs, hisOf⟩ := (holdsRecords run).own record (mem_rowsOfRange.mp hrecord).1
        change IsDate record.origin.date
        rw [hisOf.date]
        exact isDate_isoDate (hyear s hs)
    | ohmSupply =>
        refine ⟨fun row hrow => ?_, List.pairwise_map.mpr sortedDates_rowsOfRange⟩
        obtain ⟨supply, hsupply, rfl⟩ := List.mem_map.mp hrow
        obtain ⟨s, hs, hisOf⟩ := (holdsSupplies run).own supply (mem_rowsOfRange.mp hsupply).1
        change IsDate supply.origin.date
        rw [hisOf.date]
        exact isDate_isoDate (hyear s hs)
  inRange := by
    intro kind row hrow
    cases kind with
    | metrics =>
        obtain ⟨snapshot, hsnapshot, rfl⟩ := List.mem_map.mp hrow
        obtain ⟨-, hstart, hstop⟩ := mem_rowsOfRange.mp hsnapshot
        exact Bool.and_eq_true_iff.mpr ⟨decide_eq_true hstart, decide_eq_true hstop⟩
    | treasuryAssets =>
        obtain ⟨record, hrecord, rfl⟩ := List.mem_map.mp hrow
        obtain ⟨-, hstart, hstop⟩ := mem_rowsOfRange.mp hrecord
        exact Bool.and_eq_true_iff.mpr ⟨decide_eq_true hstart, decide_eq_true hstop⟩
    | ohmSupply =>
        obtain ⟨supply, hsupply, rfl⟩ := List.mem_map.mp hrow
        obtain ⟨-, hstart, hstop⟩ := mem_rowsOfRange.mp hsupply
        exact Bool.and_eq_true_iff.mpr ⟨decide_eq_true hstart, decide_eq_true hstop⟩
  metricDates := by
    have hdates : (Publisher.storedRows toNumber store range .metrics).map Dated.date =
        (rowsOfRange (·.date) store.rollup.globalMetricSnapshot range.start range.stop).map
          (·.id) := by
      change ((rowsOfRange (·.date) store.rollup.globalMetricSnapshot range.start range.stop).map
        (storedMetric toNumber store.rollup)).map (fun metric => metric.date) = _
      rw [List.map_map]
      apply List.map_congr_left
      intro snapshot hsnapshot
      exact (exists_snapshot_of_dateRow run (mem_rowsOfRange.mp hsnapshot).1).1
    rw [hdates]
    refine (List.nodup_map_iff_inj_on nodup_rowsOfRange).mpr (fun row hrow row' hrow' hid => ?_)
    exact EntityTable.eq_of_mem_of_id_eq (mem_rowsOfRange.mp hrow).1 (mem_rowsOfRange.mp hrow').1 hid

/-- The metric that the source has for a date of its range. -/
theorem sourceMetric_of_run (toNumber : BigNumber → N) (run : IndexerRun compound es store)
    {range : DateRange} {date : String} (hstart : range.start ≤ date) (hstop : date ≤ range.stop) :
    (∀ snapshot, store.rollup.globalMetricSnapshot.get date = some snapshot →
      sourceMetric (Publisher.storedRows toNumber store range .metrics) date =
        some (storedMetric toNumber store.rollup snapshot)) ∧
      (store.rollup.globalMetricSnapshot.get date = none →
        sourceMetric (Publisher.storedRows toNumber store range .metrics) date = none) := by
  have hid {snapshot : GlobalMetricSnapshot}
      (h : snapshot ∈ store.rollup.globalMetricSnapshot.rows) : snapshot.date = snapshot.id :=
    (exists_snapshot_of_dateRow run h).1
  have hfind (metrics : List (DailyMetric N)) :
      (metrics.find? (fun metric => metric.date == date)).map normalizeMetricCompleteness =
        sourceMetric metrics date := rfl
  let rows := rowsOfRange (·.date) store.rollup.globalMetricSnapshot range.start range.stop
  have hmetrics : sourceMetric (Publisher.storedRows toNumber store range .metrics) date =
      (rows.find? (fun snapshot => snapshot.date == date)).map
        (fun snapshot => normalizeMetricCompleteness (storedMetric toNumber store.rollup snapshot)) := by
    change ((rows.map (storedMetric toNumber store.rollup)).find?
      (fun metric => metric.date == date)).map normalizeMetricCompleteness = _
    rw [List.find?_map, Option.map_map]
    rfl
  rw [hmetrics]
  constructor
  · intro snapshot hsnapshot
    obtain ⟨hrow, rfl⟩ := EntityTable.get_eq_some_iff.mp hsnapshot
    have hin : snapshot ∈ rows :=
      mem_rowsOfRange.mpr ⟨hrow, by rw [hid hrow]; exact hstart, by rw [hid hrow]; exact hstop⟩
    cases hfound : rows.find? (fun other => other.date == snapshot.id) with
    | none =>
        have hnone := List.find?_eq_none.mp hfound snapshot hin
        rw [hid hrow] at hnone
        exact absurd (beq_self_eq_true _) hnone
    | some other =>
        have hother := (mem_rowsOfRange.mp (List.mem_of_find?_eq_some hfound)).1
        have hsame : other.date = snapshot.id :=
          beq_iff_eq.mp (List.find?_some (p := fun other : GlobalMetricSnapshot =>
            other.date == snapshot.id) hfound)
        rw [hid hother] at hsame
        obtain rfl := EntityTable.eq_of_mem_of_id_eq hother hrow hsame
        rfl
  · intro hnone
    rw [Option.map_eq_none_iff, List.find?_eq_none]
    intro snapshot hsnapshot hdate
    have hrow := (mem_rowsOfRange.mp hsnapshot).1
    have hget := EntityTable.get_eq_some_iff.mpr ⟨hrow, rfl⟩
    rw [← hid hrow, beq_iff_eq.mp hdate, hnone] at hget
    cases hget

variable [DecidableEq N]

/-- What is served of a date: what the events have left of it, with the records of each chain's latest
snapshot, or the empty metric if no snapshot has rows of the date. -/
structure ServesDay (compound : BigNumber → BigNumber) (toNumber : BigNumber → N)
    (es : List RollupEvent) (includeRecords : Bool) (generatedAt : ℕ) (date : String)
    (metric : DailyMetric N) : Prop where
  described : ∀ chain s, latestSnapshot es chain date = some s →
    DescribesDay compound toNumber es date metric
  empty : (∀ chain, latestSnapshot es chain date = none) →
    metric = buildEmptyDailyMetric date includeRecords generatedAt
  records : includeRecords = true → ∃ records, metric.records = some records ∧ ∀ chain,
    (records.treasuryMarketValueRecords chain).Perm
      ((latestSnapshot es chain date).elim [] (fun s =>
        s.storedRecords.map (treasuryAssetOf toNumber chain))) ∧
    (records.ohmTotalSupplyRecords chain).Perm
      ((latestSnapshot es chain date).elim [] (fun s =>
        s.storedSupplies.map (ohmSupplyOf toNumber chain)))

/-- A date within the range of a source is served as the events have left it. -/
theorem servesDay_sourceDay (run : IndexerRun compound es store) (hblocks : ReadsBlocks toNumber es)
    {range : DateRange} {date : String} (hstart : range.start ≤ date) (hstop : date ≤ range.stop)
    (includeRecords : Bool) (generatedAt : ℕ) :
    ServesDay compound toNumber es includeRecords generatedAt date
      (sourceDay (Publisher.storedRows toNumber store range) includeRecords generatedAt date) := by
  have hmetric := sourceMetric_of_run toNumber run hstart hstop
  unfold sourceDay
  cases hget : store.rollup.globalMetricSnapshot.get date with
  | none =>
      have hnone (chain : ChainId) : latestSnapshot es chain date = none := by
        cases hlatest : latestSnapshot es chain date with
        | none => rfl
        | some s =>
            obtain ⟨row, hrow⟩ := (rollupInvariant_of_run run.rollupRun).written date chain s hlatest
            rw [hrow] at hget
            cases hget
      rw [hmetric.2 hget]
      refine ⟨fun chain s hs => ?_, fun _ => rfl, fun hinclude => ?_⟩
      · rw [hnone chain] at hs
        cases hs
      · subst hinclude
        refine ⟨_, rfl, fun chain => ?_⟩
        rw [hnone chain]
        exact ⟨List.Perm.refl _, List.Perm.refl _⟩
  | some snapshot =>
      obtain ⟨hrow, rfl⟩ := EntityTable.get_eq_some_iff.mp hget
      have hdescribes : DescribesDay compound toNumber es snapshot.id
          (storedMetric toNumber store.rollup snapshot) :=
        describesDay_dailyMetricOf toNumber run.rollupRun (rawDailyMetric_readsFrom hrow)
      obtain ⟨hid, s, hs, hdate⟩ := exists_snapshot_of_dateRow run hrow
      rw [hmetric.1 snapshot hget]
      cases includeRecords with
      | false =>
          refine ⟨fun _ _ _ => hdescribes, fun hnone => ?_, fun hinclude => (by cases hinclude)⟩
          obtain ⟨s', hs'⟩ := exists_latestSnapshot hs hdate
          rw [hnone] at hs'
          cases hs'
      | true =>
          refine ⟨fun _ _ _ => ?_, fun hnone => ?_, fun _ => ⟨_, rfl, fun chain => ⟨?_, ?_⟩⟩⟩
          · obtain ⟨row, hvalues, hshows⟩ := hdescribes.values
            exact { hdescribes with values := ⟨row, hvalues, { hshows with }⟩ }
          · obtain ⟨s', hs'⟩ := exists_latestSnapshot hs hdate
            rw [hnone] at hs'
            cases hs'
          · exact (holdsRecords run).attached_perm hblocks (fun _ h => run.ownsRows h) hstart hstop
              hdescribes.blocks (treasuryAssetOf toNumber) (fun _ _ => rfl) (fun _ _ => rfl)
              (fun _ _ => rfl) chain
          · exact (holdsSupplies run).attached_perm hblocks (fun _ h => run.ownsRows h) hstart hstop
              hdescribes.blocks (ohmSupplyOf toNumber) (fun _ _ => rfl) (fun _ _ => rfl)
              (fun _ _ => rfl) chain

/-- Every published day of a run over the indexer's tables is served as the events have left it. -/
theorem servesDays_of_published {json : Serialization (MetricRow N)}
    {input : PublishInput (MetricRow N)} {objects t : Objects (MetricRow N)} {runId : String}
    {result : PublishResult} (run : IndexerRun compound es store) (hyear : BeforeYear10000 es)
    (hblocks : ReadsBlocks toNumber es) (hsource : input.source = hasuraSource toNumber store)
    (hrun : Runs (Performs json) (publishMetricsArtifacts json runId input) objects
      (some (.ok result)) t) (hpublished : result.skipped = false)
    (hbegins : RunBeginsInTime input (existingManifest input objects)) :
    ∃ range manifest, result.range = some range ∧ storedManifest t = some manifest ∧
      ∀ sub, SubRange range manifest sub → ∀ includeRecords generatedAt,
        ∃ served : String → DailyMetric N,
          (readDailyMetrics manifest sub includeRecords generatedAt).eval (answers json t) =
            .ok ((between (dayOf sub.start) (dayOf sub.stop)).map
              (fun day => served (dateText day))) ∧
          ∀ day ∈ between (dayOf sub.start) (dayOf sub.stop),
            ServesDay compound toNumber es includeRecords generatedAt (dateText day)
              (served (dateText day)) := by
  rcases (runs_publish hrun).2 result rfl with
    ⟨hskipped, -⟩ | ⟨-, plan, manifest, hnext, hclean, hrange⟩
  · rw [hskipped] at hpublished
    cases hpublished
  · have hpublishes := plan.publishes_of_next hnext
    have hstored : storedManifest t = some manifest :=
      hclean.storedManifest_eq.trans (storedManifest_eq plan.lookup_stored_manifest)
    have hintime := hbegins plan
    rw [show earliestPublished plan = manifest.earliestDate from hpublishes.earliest_eq.symm,
      show latestPublished plan = manifest.latestDate from hpublishes.latest_eq.symm] at hintime
    have hrows : plan.rows = Publisher.storedRows toNumber store plan.range := by
      have hfetch := plan.rows_eq
      rw [hsource, fetchAllRows_of_run toNumber run] at hfetch
      exact (Except.ok.inj hfetch).symm
    have hlossless := lossless_of_publishes hpublishes hclean
      (hrows ▸ sourceRows_of_run run hyear plan.range) hintime
    refine ⟨plan.range, manifest, hrange, hstored, fun sub hsub includeRecords generatedAt => ?_⟩
    refine ⟨sourceDay plan.rows includeRecords generatedAt,
      (hlossless sub hsub).daily includeRecords generatedAt, fun day hday => ?_⟩
    have hcalendar := hsub.covers.inCalendar hday
    have hin := hsub.covers.isInRange_dateText hday
    obtain ⟨hge, hle⟩ := Bool.and_eq_true_iff.mp hin
    rw [hrows]
    exact servesDay_sourceDay run hblocks (hsub.start_le.trans (of_decide_eq_true hge))
      ((of_decide_eq_true hle).trans hsub.le_stop) includeRecords generatedAt

end

/-! ### A published day -/

/-- Numbers that are exact decimals. -/
def exactRows : Serialization (MetricRow BigNumber) where
  sha256 := fun value =>
    match value with
    | .lock lock => lock.runId
    | _ => ""
  byteLength := fun _ => 0

/-- A run on the day after the snapshots of all chains. -/
def dayInput : PublishInput (MetricRow BigNumber) where
  publicStartDate := some "2023-11-14"
  deploymentId := "d1"
  source := hasuraSource id (dayRun chainNames).2
  now := 1700006400000

/-- The first run over an empty store. -/
def dayPublication : Option (Except PublishError PublishResult) × Objects (MetricRow BigNumber) :=
  playRun exactRows "first" dayInput (List.replicate 13 .done) ∅

theorem readsBlocks_dayRun (chains : List ChainId) :
    ReadsBlocks (id : BigNumber → BigNumber) (dayRun chains).1 where
  ne_zero := by
    intro s hs
    obtain ⟨-, store, heq⟩ := mem_dayRun hs
    rw [heq]
    exact (by decide : BigNumber.ofInt 18570000 ≠ 0)
  injective := by
    intro s s' hs hs' _
    obtain ⟨-, store, heq⟩ := mem_dayRun hs
    obtain ⟨-, store', heq'⟩ := mem_dayRun hs'
    rw [heq, heq']
    rfl

theorem beforeYear10000_dayRun (chains : List ChainId) : BeforeYear10000 (dayRun chains).1 := by
  intro s hs
  obtain ⟨-, store, heq⟩ := mem_dayRun hs
  rw [heq]
  exact (by decide : 1700000000 < 253402300800)

theorem servesDays_dayRun : ∃ (result : PublishResult) (range : DateRange) (manifest : Manifest),
    result.range = some range ∧ storedManifest dayPublication.2 = some manifest ∧
      ∀ sub, SubRange range manifest sub → ∀ includeRecords generatedAt,
        ∃ served : String → DailyMetric BigNumber,
          (readDailyMetrics manifest sub includeRecords generatedAt).eval
              (answers exactRows dayPublication.2) =
            .ok ((between (dayOf sub.start) (dayOf sub.stop)).map
              (fun day => served (dateText day))) ∧
          ∀ day ∈ between (dayOf sub.start) (dayOf sub.stop),
            ServesDay id id (dayRun chainNames).1 includeRecords generatedAt (dateText day)
              (served (dateText day)) := by
  obtain ⟨result, hout, hskipped⟩ := exists_of_completes
    (show completes dayPublication.1 = true by decide +kernel)
  have hrun : Runs (Performs exactRows) (publishMetricsArtifacts exactRows "first" dayInput) ∅
      dayPublication.1 dayPublication.2 := runs_playRun "first" _
  rw [hout] at hrun
  refine ⟨result, servesDays_of_published (indexerRun_dayRun nodup_chainNames)
    (beforeYear10000_dayRun _) (readsBlocks_dayRun _) rfl hrun hskipped (fun plan => Or.inr ?_)⟩
  have hstart : plan.range.start = "2023-11-14" := by
    obtain ⟨-, -, hcases⟩ := resolvePublishRange_eq_ok rfl rfl plan.range_eq
    rcases hcases with ⟨hpublic, -⟩ | ⟨old, _, _, hold, -⟩
    · exact hpublic
    · cases (show (none : Option Manifest) = some old from hold)
  have hearliest : earliestPublished plan = "2023-11-14" := by
    show maxDate "2023-11-14" (minDate plan.range.start plan.range.start) = "2023-11-14"
    rw [hstart]
    decide
  rw [hearliest, hstart]
  decide

end OlympusMetrics.Api
