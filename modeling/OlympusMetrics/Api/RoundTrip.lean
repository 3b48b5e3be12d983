import OlympusMetrics.Api.Reading
import OlympusMetrics.Publisher.Completeness

/-!
What the API reads back of the rows that a run has published.

The run writes the rows of each month into a shard of their own, and the reader
takes the shards of the months of its range. Both read the years below 100 as
those of the twentieth century.
-/

namespace OlympusMetrics.Api

open Process Publisher SortedRows Calendar

variable {N : Type}

/-! ### Shards of sorted rows -/

/-- Rows of a source, sorted by their dates. -/
structure SortedDates {kind : ArtifactKind} (rows : List (MetricRow N kind)) : Prop where
  isDate : ∀ row ∈ rows, IsDate (Dated.date row)
  sorted : rows.Pairwise (fun row row' => Dated.date row ≤ Dated.date row')

/-- The rows of the shard of a month. -/
def shardRows {kind : ArtifactKind} (rows : List (MetricRow N kind)) (month : ℕ) :
    List (MetricRow N kind) :=
  rows.filter (fun row => startsWith (Dated.date row) (monthKey month))

section

variable {json : Serialization (MetricRow N)} {objects : Objects (MetricRow N)}
  {manifest : Manifest} {kind : ArtifactKind} {rows : List (MetricRow N kind)} {range : DateRange}
  {first last : ℕ}

theorem SortedDates.sortedMonths (h : SortedDates rows) :
    Sorted (fun row => monthOf (rowDay row)) rows := by
  refine h.sorted.imp_of_mem (fun {row row'} hrow hrow' hle => ?_)
  have hdate := h.isDate row hrow
  exact monthOf_mono hdate.inCalendar.ge ((hdate.le_iff (h.isDate row' hrow')).mp hle)

theorem SortedDates.shardRows_eq (h : SortedDates rows) {month : ℕ} (hmonth : month < 120000) :
    shardRows rows month = rows.filter (fun row => monthOf (rowDay row) == month) := by
  refine List.filter_congr (fun row hrow => Bool.eq_iff_iff.mpr ?_)
  have hdate := h.isDate row hrow
  have hstarts := startsWith_monthKey hdate.inCalendar hmonth
  rw [hdate.dateText_dayOf] at hstarts
  rw [hstarts, beq_iff_eq]
  rfl

/-- The shards of the months of a range hold its rows in their order. -/
theorem SortedDates.flatMap_shardRows (h : SortedDates rows) (hrange : Covers range first last)
    (hfirst : utcMonth (ofDayNumber first) ≤ monthOf first) :
    (between (utcMonth (ofDayNumber first)) (utcMonth (ofDayNumber last))).flatMap
        (fun month => (shardRows rows month).filter (fun row => isInRange (Dated.date row) range)) =
      rows.filter (fun row => isInRange (Dated.date row) range) := by
  have hlast := utcMonth_lt hrange.inCalendar_last
  have hmonths : ∀ month ∈ between (utcMonth (ofDayNumber first)) (utcMonth (ofDayNumber last)),
      (shardRows rows month).filter (fun row => isInRange (Dated.date row) range) =
        (rows.filter (fun row => isInRange (Dated.date row) range)).filter
          (fun row => monthOf (rowDay row) == month) := by
    intro month hmonth
    rw [h.shardRows_eq ((mem_between.mp hmonth).2.trans_lt hlast), List.filter_comm]
  rw [List.flatMap_congr hmonths, ← filter_between (h.sortedMonths.filter _), List.filter_filter]
  refine List.filter_congr (fun row hrow => ?_)
  have hdate := h.isDate row hrow
  rw [hrange.isInRange hdate]
  refine Bool.eq_iff_iff.mpr ?_
  simp only [Bool.and_eq_true, decide_eq_true_eq, and_iff_right_iff_imp]
  rintro ⟨hge, hle⟩
  have hutc : monthOf last ≤ utcMonth (ofDayNumber last) := monthIndex_le_utcMonth _
  have hlow := monthOf_mono hrange.inCalendar_first.ge hge
  have hhigh := monthOf_mono hdate.inCalendar.ge hle
  exact ⟨hfirst.trans hlow, hhigh.trans hutc⟩

theorem eval_readMonths_of_shards (months : List ℕ)
    (hmonths : ∀ month ∈ months,
      objects.lookup (artifactKeyForMonth manifest kind (monthKey month)) =
        some (.shard kind (shardRows rows month))) (acc : List (MetricRow N kind)) :
    (Process.forEach (readMonth manifest range kind) (months.map monthKey) acc).eval
        (answers json objects) =
      .ok (acc ++ months.flatMap (fun month =>
        (shardRows rows month).filter (fun row => isInRange (Dated.date row) range))) := by
  induction months generalizing acc with
  | nil => simp [Process.forEach]
  | cons month months ih =>
      have hmonth := hmonths month List.mem_cons_self
      have hrest := fun m hm => hmonths m (List.mem_cons_of_mem month hm)
      refine (Process.eval_bind (readMonth manifest range kind acc (monthKey month))
        (Process.forEach (readMonth manifest range kind) (months.map monthKey))).trans ?_
      rw [eval_readMonth_of_shard hmonth, Process.except_ok_bind, ih hrest, List.flatMap_cons,
        List.append_assoc]

/-- A range reads back the rows of its dates where its months are stored. -/
theorem eval_readArtifactRows_of_shards (h : SortedDates rows) (hrange : Covers range first last)
    (hfirst : utcMonth (ofDayNumber first) ≤ monthOf first)
    (hmonths : ∀ month ∈ between (utcMonth (ofDayNumber first)) (utcMonth (ofDayNumber last)),
      objects.lookup (artifactKeyForMonth manifest kind (monthKey month)) =
        some (.shard kind (shardRows rows month))) :
    (readArtifactRows manifest range kind).eval (answers json objects) =
      .ok (rows.filter (fun row => isInRange (Dated.date row) range)) := by
  unfold readArtifactRows
  rw [Process.eval_bind, Process.eval_ofExcept, hrange.monthKeysForRange, orError_ok,
    Process.except_ok_bind, eval_readMonths_of_shards _ hmonths [], List.nil_append]
  exact congrArg Except.ok (h.flatMap_shardRows hrange hfirst)

/-! ### Daily metrics -/

/-- A date of a range is in it. -/
theorem Covers.isInRange_dateText (h : Covers range first last) {day : ℕ}
    (hday : day ∈ between first last) : Api.isInRange (dateText day) range = true := by
  have hcalendar := h.inCalendar hday
  obtain ⟨hge, hle⟩ := mem_between.mp hday
  rw [h.isInRange (isDate_dateText hcalendar), dayOf_dateText hcalendar]
  simp [hge, hle]

/-- The rows of a date of a range among the rows of the range. -/
theorem Covers.filter_date (h : Covers range first last) {day : ℕ} (hday : day ∈ between first last)
    (rows : List (MetricRow N kind)) :
    (rows.filter (fun row => Api.isInRange (Dated.date row) range)).filter
        (fun row => Dated.date row == dateText day) =
      rows.filter (fun row => Dated.date row == dateText day) := by
  rw [List.filter_filter]
  refine List.filter_congr (fun row _ => Bool.eq_iff_iff.mpr ?_)
  simp only [Bool.and_eq_true, beq_iff_eq, and_iff_left_iff_imp]
  intro hdate
  rw [hdate]
  exact h.isInRange_dateText hday

/-- The metric that the source has for a date. -/
def sourceMetric (metrics : List (DailyMetric N)) (date : String) : Option (DailyMetric N) :=
  (metrics.find? (fun metric => metric.date == date)).map normalizeMetricCompleteness

theorem getLast?_filter_of_nodup {metrics : List (DailyMetric N)}
    (h : (metrics.map (·.date)).Nodup) (date : String) :
    (metrics.filter (fun metric => metric.date == date)).getLast? =
      metrics.find? (fun metric => metric.date == date) := by
  induction metrics with
  | nil => rfl
  | cons metric metrics ih =>
      simp only [List.map_cons, List.nodup_cons] at h
      by_cases hdate : metric.date = date
      · have hnone : metrics.filter (fun metric => metric.date == date) = [] := by
          refine List.filter_eq_nil_iff.mpr (fun other hother heq => h.1 ?_)
          rw [hdate, ← beq_iff_eq.mp heq]
          exact List.mem_map_of_mem hother
        simp [hdate, hnone]
      · simp [hdate, ih h.2]

theorem metricsByDate_eq_sourceMetric {metrics : List (DailyMetric N)}
    (h : (metrics.map (·.date)).Nodup) (date : String) :
    metricsByDate metrics date = sourceMetric metrics date :=
  congrArg (Option.map normalizeMetricCompleteness) (getLast?_filter_of_nodup h date)

section

variable [Zero N] [DecidableEq N] [Add N]

/-- The metric that is sent for a date of the source. -/
def sourceDay (rows : (kind : ArtifactKind) → List (MetricRow N kind)) (includeRecords : Bool)
    (generatedAt : ℕ) (date : String) : DailyMetric N :=
  sentMetric includeRecords generatedAt date (sourceMetric (rows .metrics) date)
    ((rows .treasuryAssets).filter (fun asset : TreasuryAsset N => asset.date == date))
    ((rows .ohmSupply).filter (fun supply : OhmSupply N => supply.date == date))

theorem eval_readDailyMetrics_of_rows {rows : (kind : ArtifactKind) → List (MetricRow N kind)}
    (hrange : Covers range first last) (hdates : ((rows .metrics).map Dated.date).Nodup)
    (hread : ∀ kind, (readArtifactRows manifest range kind).eval (answers json objects) =
      .ok ((rows kind).filter (fun row => isInRange (Dated.date row) range)))
    (includeRecords : Bool) (generatedAt : ℕ) :
    (readDailyMetrics manifest range includeRecords generatedAt).eval (answers json objects) =
      .ok ((between first last).map
        (fun day => sourceDay rows includeRecords generatedAt (dateText day))) := by
  have hreadIf (kind : ArtifactKind) : (if includeRecords then readArtifactRows manifest range kind
      else .ret [] : PublisherProcess (MetricRow N) _).eval (answers json objects) =
        .ok (if includeRecords then (rows kind).filter
          (fun row => isInRange (Dated.date row) range) else []) := by
    cases includeRecords with
    | true => exact hread kind
    | false => rfl
  rw [readDailyMetrics_eq, Process.eval_bind, hread, Process.except_ok_bind, Process.eval_bind,
    hreadIf, Process.except_ok_bind, Process.eval_bind, hreadIf, Process.except_ok_bind,
    Process.eval_bind, Process.eval_ofExcept, hrange.dateKeysForRange, orError_ok,
    Process.except_ok_bind, Process.eval_ret, List.map_map]
  refine congrArg Except.ok (List.map_congr_left (fun day hday => ?_))
  have hmetric : metricsByDate (@List.filter (MetricRow N .metrics)
      (fun row => isInRange (Dated.date row) range) (rows .metrics)) (dateText day) =
        sourceMetric (rows .metrics) (dateText day) := by
    rw [← metricsByDate_eq_sourceMetric hdates]
    exact congrArg (fun metrics => metrics.getLast?.map normalizeMetricCompleteness)
      (hrange.filter_date hday (rows .metrics))
  have hassets := hrange.filter_date hday (rows .treasuryAssets)
  have hsupply := hrange.filter_date hday (rows .ohmSupply)
  rw [Function.comp_apply]
  unfold sourceDay
  generalize dateText day = date at *
  cases includeRecords with
  | false =>
      exact (congrArg (fun metric => sentMetric false generatedAt date metric _ _) hmetric).trans
        (sentMetric_false _ _)
  | true =>
      exact congr (congr (congrArg (sentMetric true generatedAt date) hmetric) hassets) hsupply

/-! ### A published range -/

/-- The rows that a source has for a range. -/
structure SourceRows (range : DateRange) (rows : (kind : ArtifactKind) → List (MetricRow N kind)) :
    Prop where
  sorted : ∀ kind, SortedDates (rows kind)
  inRange : ∀ kind, ∀ row ∈ rows kind, isInRange (Dated.date row) range = true
  metricDates : ((rows .metrics).map Dated.date).Nodup

/-- A range within another one and within the bounds of a manifest. -/
structure SubRange (range : DateRange) (manifest : Manifest) (sub : DateRange) : Prop where
  covers : Covers sub (dayOf sub.start) (dayOf sub.stop)
  start_le : range.start ≤ sub.start
  le_stop : sub.stop ≤ range.stop
  earliest_le : manifest.earliestDate ≤ sub.start
  le_latest : sub.stop ≤ manifest.latestDate

/-- What is read for a range is what the source has for it. -/
structure ReadsBack (json : Serialization (MetricRow N)) (objects : Objects (MetricRow N))
    (manifest : Manifest) (rows : (kind : ArtifactKind) → List (MetricRow N kind))
    (sub : DateRange) : Prop where
  stored : ∀ kind, (readArtifactRows manifest sub kind).eval (answers json objects) =
    .ok ((rows kind).filter (fun row => isInRange (Dated.date row) sub))
  daily : ∀ includeRecords generatedAt,
    (readDailyMetrics manifest sub includeRecords generatedAt).eval (answers json objects) =
      .ok ((between (dayOf sub.start) (dayOf sub.stop)).map
        (fun day => sourceDay rows includeRecords generatedAt (dateText day)))

/-- Every range within the published bounds is read back. -/
def Lossless (json : Serialization (MetricRow N)) (objects : Objects (MetricRow N))
    (manifest : Manifest) (rows : (kind : ArtifactKind) → List (MetricRow N kind))
    (range : DateRange) : Prop :=
  ∀ sub, SubRange range manifest sub → ReadsBack json objects manifest rows sub

/-- The month that `monthKeysForRange` begins with. -/
def firstMonth (date : String) : ℕ := utcMonth (ofDayNumber (dayOf date))

/-- The months that are written for a range and those that are listed begin no later than the first
date that is both in the range and published, if there is one. -/
def BeginsInTime (range : DateRange) (earliestDate latestDate : String) : Prop :=
  minDate range.stop latestDate < maxDate range.start earliestDate ∨
    (firstMonth range.start ≤ monthOf (dayOf (maxDate range.start earliestDate)) ∧
      firstMonth earliestDate ≤ monthOf (dayOf (maxDate range.start earliestDate)))

omit [Zero N] [DecidableEq N] [Add N] in
/-- The shard of a listed month of the deployment is the one that is read. -/
theorem artifactKeyForMonth_of_mem {deploymentId : DeploymentId} {month : String}
    (hid : manifest.indexerDeploymentId = some deploymentId.text)
    (h : dataKey deploymentId kind month ∈ manifest.artifacts) :
    artifactKeyForMonth manifest kind month = dataKey deploymentId kind month := by
  have hkey : deploymentsPrefix ++ deploymentId.text ++ "/" ++ deploymentPath kind month =
      dataKey deploymentId kind month := by
    refine String.toList_injective ?_
    simp [deploymentPath, dataKey, shardPrefix, deploymentPrefix]
  unfold artifactKeyForMonth
  rw [hid]
  dsimp only
  rw [hkey, if_pos h]

variable {input : PublishInput (MetricRow N)} {existing : Option Manifest}
  {plan : Plan input existing} {objects' : Objects (MetricRow N)}

omit [Zero N] [DecidableEq N] [Add N] in
/-- A month that the run has written and listed is read as the run wrote it. -/
theorem lookup_published (h : Plan.Publishes json plan manifest)
    (hclean : CleanedFrom plan.deploymentId (plan.stored manifest objects) objects') {month : ℕ}
    (hwritten : month ∈ plan.monthNumbers)
    (hlisted : month ∈ Plan.publishedMonths manifest.earliestDate manifest.latestDate)
    (kind : ArtifactKind) :
    objects'.lookup (artifactKeyForMonth manifest kind (monthKey month)) =
      some (.shard kind (shardRows (plan.rows kind) month)) := by
  have hmonth := plan.lt_of_mem_monthNumbers hwritten
  have hmem := plan.shard_mem_pending kind hwritten
  have hkeep : Plan.keepsEntry plan.deploymentId manifest.earliestDate manifest.latestDate
      (dataKey plan.deploymentId kind (monthKey month)) = true := by
    rw [Plan.keepsEntry_dataKey hmonth, List.contains_iff_mem]
    exact List.mem_map_of_mem hlisted
  have hkey := artifactKeyForMonth_of_mem h.deploymentId_eq
    (h.mem hkeep (Or.inl (List.mem_map_of_mem hmem)))
  rw [hkey, hclean.lookup_eq ⟨Plan.notStale_of_keepsEntry hkeep, dataKey_ne_lockKey _ _ _,
    dataKey_ne_manifestKey _ _ _⟩]
  exact plan.lookup_stored hmem

omit [Zero N] [DecidableEq N] [Add N] in
theorem SubRange.months_mem (h : Plan.Publishes json plan manifest) {sub : DateRange}
    (hsub : SubRange plan.range manifest sub)
    (hbegins : BeginsInTime plan.range manifest.earliestDate manifest.latestDate) :
    firstMonth sub.start ≤ monthOf (dayOf sub.start) ∧
      ∀ month ∈ between (firstMonth sub.start) (firstMonth sub.stop),
        month ∈ plan.monthNumbers ∧
          month ∈ Plan.publishedMonths manifest.earliestDate manifest.latestDate := by
  obtain ⟨hstartDate, hstopDate⟩ := plan.isDate_range
  have hfirst := hsub.covers.start_isDate
  have hlast := hsub.covers.stop_isDate
  have hshared : maxDate plan.range.start manifest.earliestDate ≤ sub.start := by
    rw [maxDate_eq_max]
    exact max_le hsub.start_le hsub.earliest_le
  have hle : sub.start ≤ sub.stop := (hfirst.le_iff hlast).mpr hsub.covers.le
  have hends : sub.stop ≤ minDate plan.range.stop manifest.latestDate := by
    rw [minDate_eq_min]
    exact le_min hsub.le_stop hsub.le_latest
  have hsharedDate := isDate_maxDate hstartDate h.isDate_earliest
  obtain ⟨hwritten, hlisted⟩ := hbegins.resolve_left
    (fun hlt => absurd (hshared.trans (hle.trans hends)) (not_le.mpr hlt))
  have hmono := monthOf_mono hsharedDate.inCalendar.ge ((hsharedDate.le_iff hfirst).mp hshared)
  -- a date that comes after the beginning of the written months lies in the year 100 or later
  have hlate : 47482 ≤ dayOf sub.start := by
    rcases Nat.lt_or_ge (dayOf plan.range.start) 47482 with hearly | hge
    · have hutc := utcMonth_of_lt hearly hstartDate.inCalendar.ge
      rw [← monthOf_ge_iff hfirst.inCalendar.ge]
      exact (show 1200 ≤ 22800 by omega).trans (hutc.trans (hwritten.trans hmono))
    · exact hge.trans ((hstartDate.le_iff hfirst).mp hsub.start_le)
  have hlateStop : 47482 ≤ dayOf sub.stop := hlate.trans hsub.covers.le
  have hutcFirst : firstMonth sub.start = monthOf (dayOf sub.start) := utcMonth_of_le hlate
  have hutcLast : firstMonth sub.stop = monthOf (dayOf sub.stop) := utcMonth_of_le hlateStop
  refine ⟨hutcFirst.le, fun month hmonth => ?_⟩
  rw [hutcFirst, hutcLast] at hmonth
  obtain ⟨hge, hle⟩ := mem_between.mp hmonth
  have hreach {date : String} (hdate : IsDate date) (hstop : sub.stop ≤ date) :
      month ≤ utcMonth (ofDayNumber (dayOf date)) :=
    (hle.trans (monthOf_mono hlast.inCalendar.ge ((hlast.le_iff hdate).mp hstop))).trans
      (monthIndex_le_utcMonth _)
  have hlow := hmono.trans hge
  exact ⟨mem_between.mpr ⟨hwritten.trans hlow, hreach hstopDate hsub.le_stop⟩,
    mem_between.mpr ⟨hlisted.trans hlow, hreach h.isDate_latest hsub.le_latest⟩⟩

/-- A publication is read back where the written and the listed months begin in time. -/
theorem lossless_of_publishes (h : Plan.Publishes json plan manifest)
    (hclean : CleanedFrom plan.deploymentId (plan.stored manifest objects) objects')
    (hsource : SourceRows plan.range plan.rows)
    (hbegins : BeginsInTime plan.range manifest.earliestDate manifest.latestDate) :
    Lossless json objects' manifest plan.rows plan.range := by
  intro sub hsub
  obtain ⟨hfirst, hmonths⟩ := hsub.months_mem h hbegins
  have hread (kind : ArtifactKind) : (readArtifactRows manifest sub kind).eval
      (answers json objects') =
        .ok ((plan.rows kind).filter (fun row => isInRange (Dated.date row) sub)) :=
    eval_readArtifactRows_of_shards (hsource.sorted kind) hsub.covers hfirst
      (fun month hmonth => lookup_published h hclean (hmonths month hmonth).1
        (hmonths month hmonth).2 kind)
  exact ⟨hread, eval_readDailyMetrics_of_rows hsub.covers hsource.metricDates hread⟩

end

end

end OlympusMetrics.Api
