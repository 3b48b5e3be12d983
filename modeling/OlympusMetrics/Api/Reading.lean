import OlympusMetrics.Api.Server
import OlympusMetrics.Library.SortedRows
import OlympusMetrics.Publisher.DateArithmetic

/-!
What the range requests read from a publication that does not change.

The rows of a range are those of its days, day after day. `Date.UTC` takes the
years below 100 for those of the twentieth century, so that a range that starts
in one of them is only read from that later month on.
-/

namespace OlympusMetrics.Api

open Publisher SortedRows Calendar

variable {N : Type}

/-- What the store answers as long as nothing changes it. -/
def answers (json : Serialization (MetricRow N)) (objects : Objects (MetricRow N))
    (op : StoreOp (MetricRow N)) : Except PublishError op.Answer :=
  (memoryStore json objects op).1

/-- The day of a row. -/
def rowDay {kind : ArtifactKind} (row : MetricRow N kind) : ℕ := dayOf (Dated.date row)

/-- Rows of one month in the order of their dates. -/
structure MonthRows {kind : ArtifactKind} (month : ℕ) (rows : List (MetricRow N kind)) : Prop where
  isDate : ∀ row ∈ rows, IsDate (Dated.date row)
  monthOf_eq : ∀ row ∈ rows, monthOf (rowDay row) = month
  sorted : Sorted rowDay rows

/-- Where a reader looks for the shard of a month there are rows of this month, or there is
nothing. -/
structure Publication (objects : Objects (MetricRow N)) (manifest : Manifest) : Prop where
  shard : ∀ kind, ∀ month < 120000, ∀ value,
    objects.lookup (artifactKeyForMonth manifest kind (monthKey month)) = some value →
      ∃ rows : List (MetricRow N kind), value = .shard kind rows ∧ MonthRows month rows

/-- The rows that a reader finds for a month. -/
def storedRows (objects : Objects (MetricRow N)) (manifest : Manifest) (kind : ArtifactKind)
    (month : ℕ) : List (MetricRow N kind) :=
  match objects.lookup (artifactKeyForMonth manifest kind (monthKey month)) with
  | some (.shard stored rows) => if h : stored = kind then h ▸ rows else []
  | _ => []

/-- The rows that a reader finds for a day. -/
def dayRows (objects : Objects (MetricRow N)) (manifest : Manifest) (kind : ArtifactKind)
    (day : ℕ) : List (MetricRow N kind) :=
  (storedRows objects manifest kind (monthOf day)).filter (fun row => rowDay row == day)

/-- The months of a range that starts on `first` reach back to the month of `day`. -/
def readsDay (first day : ℕ) : Bool := decide (utcMonth (ofDayNumber first) ≤ monthOf day)

/-- The rows of a day that a range from `first` on shows. -/
def shownRows (objects : Objects (MetricRow N)) (manifest : Manifest) (first day : ℕ)
    (kind : ArtifactKind) : List (MetricRow N kind) :=
  if readsDay first day then dayRows objects manifest kind day else []

/-- A range of the days from `first` to `last`. -/
structure Covers (range : DateRange) (first last : ℕ) : Prop where
  start_isDate : IsDate range.start
  stop_isDate : IsDate range.stop
  dayOf_start : dayOf range.start = first
  dayOf_stop : dayOf range.stop = last
  le : first ≤ last
  days_eq : range.days = last + 1 - first

/-! ### Shards -/

@[simp] theorem orError_ok {α : Type} (x : α) : orError (.ok x : Except String α) = .ok x := rfl

section

variable {json : Serialization (MetricRow N)} {objects : Objects (MetricRow N)}
  {manifest : Manifest} {kind : ArtifactKind} {month : ℕ}

theorem storedRows_eq {rows : List (MetricRow N kind)}
    (h : objects.lookup (artifactKeyForMonth manifest kind (monthKey month)) =
      some (.shard kind rows)) : storedRows objects manifest kind month = rows := by
  unfold storedRows
  rw [h]
  simp

theorem storedRows_eq_nil
    (h : objects.lookup (artifactKeyForMonth manifest kind (monthKey month)) = none) :
    storedRows objects manifest kind month = [] := by
  unfold storedRows
  rw [h]

theorem Publication.monthRows (h : Publication objects manifest) (kind : ArtifactKind)
    (hmonth : month < 120000) : MonthRows month (storedRows objects manifest kind month) := by
  cases hlookup : objects.lookup (artifactKeyForMonth manifest kind (monthKey month)) with
  | none =>
      rw [storedRows_eq_nil hlookup]
      exact ⟨by simp, by simp, List.Pairwise.nil⟩
  | some value =>
      obtain ⟨rows, rfl, hrows⟩ := h.shard kind month hmonth value hlookup
      rw [storedRows_eq hlookup]
      exact hrows

theorem eval_getJson (key : String) :
    (getJson key : PublisherProcess (MetricRow N) _).eval (answers json objects) =
      match objects.lookup key with
      | none => .error (.artifactNotFound key)
      | some value => .ok value := by
  refine (Process.eval_ofExcept (answers json objects (.getJson key))).trans ?_
  cases hlookup : objects.lookup key with
  | none =>
      simp only [answers, memoryStore, hlookup]
      rfl
  | some value =>
      simp only [answers, memoryStore, hlookup]
      rfl

theorem eval_orNotFound {α : Type} {answer : (op : StoreOp (MetricRow N)) → Except PublishError op.Answer}
    (p : PublisherProcess (MetricRow N) α) :
    (orNotFound p).eval answer = match p.eval answer with
      | .ok value => .ok (some value)
      | .error (.artifactNotFound _) => .ok none
      | .error error => .error error := by
  have hbind : (p.bind (fun value => .ret (some value))).eval answer =
      p.eval answer >>= fun value => .ok (some value) :=
    Process.eval_bind p (fun value => .ret (some value))
  unfold orNotFound
  rw [Process.eval_tryCatch, hbind]
  rcases p.eval answer with (error | value)
  · cases error <;> rfl
  · rfl

theorem eval_readMonth_of_shard {monthRows : List (MetricRow N kind)}
    (h : objects.lookup (artifactKeyForMonth manifest kind (monthKey month)) =
      some (.shard kind monthRows)) (range : DateRange) (rows : List (MetricRow N kind)) :
    (readMonth manifest range kind rows (monthKey month)).eval (answers json objects) =
      .ok (rows ++ monthRows.filter (fun row => isInRange (Dated.date row) range)) := by
  have hrows : rowsOf kind (.shard kind monthRows) = .ret monthRows := by
    simp [rowsOf]
  unfold readMonth
  rw [Process.eval_bind, eval_orNotFound, Process.eval_bind, eval_getJson, h]
  simp only [Process.except_ok_bind, hrows, Process.eval_ret]

theorem eval_readMonth (h : Publication objects manifest) (hmonth : month < 120000)
    (range : DateRange) (rows : List (MetricRow N kind)) :
    (readMonth manifest range kind rows (monthKey month)).eval (answers json objects) =
      .ok (rows ++ (storedRows objects manifest kind month).filter
        (fun row => isInRange (Dated.date row) range)) := by
  cases hlookup : objects.lookup (artifactKeyForMonth manifest kind (monthKey month)) with
  | none =>
      unfold readMonth
      rw [Process.eval_bind, eval_orNotFound, Process.eval_bind, eval_getJson, hlookup,
        storedRows_eq_nil hlookup]
      exact congrArg Except.ok (List.append_nil rows).symm
  | some value =>
      obtain ⟨monthRows, rfl, -⟩ := h.shard kind month hmonth value hlookup
      rw [eval_readMonth_of_shard hlookup, storedRows_eq hlookup]

/-! ### Ranges -/

variable {range : DateRange} {first last : ℕ}

/-- A range of two dates that are in order and not too far apart is accepted. -/
theorem resolveDateRange_eq {start latestDate : String} {stop : Option String}
    {maxRangeDays : Option ℕ} {enforceMaxRange : Bool} (hstart : IsDate start)
    (hstop : IsDate (stop.getD latestDate)) (hle : dayOf start ≤ dayOf (stop.getD latestDate))
    (hmax : ∀ maxDays, maxRangeDays = some maxDays →
      dayOf (stop.getD latestDate) + 1 ≤ dayOf start + maxDays) :
    resolveDateRange start stop latestDate maxRangeDays enforceMaxRange =
      .ok ⟨start, stop.getD latestDate, dayOf (stop.getD latestDate) - dayOf start + 1⟩ := by
  have hstartDay := (ofDayNumber_spec hstart.inCalendar.ge).2
  have hstopDay := (ofDayNumber_spec hstop.inCalendar.ge).2
  unfold resolveDateRange
  dsimp only
  rw [hstart.parseDate_eq, hstop.parseDate_eq, Process.except_ok_bind, Process.except_ok_bind,
    hstartDay, hstopDay, if_neg (Nat.not_lt.mpr hle)]
  cases maxRangeDays with
  | none => rfl
  | some maxDays =>
      have := hmax maxDays rfl
      have hfits : decide (maxDays < dayOf (stop.getD latestDate) - dayOf start + 1) = false :=
        decide_eq_false (by omega)
      simp only [hfits, Bool.and_false]
      rfl

theorem covers_of_dates {start stop : String} (hstart : IsDate start) (hstop : IsDate stop)
    (hle : dayOf start ≤ dayOf stop) :
    Covers ⟨start, stop, dayOf stop - dayOf start + 1⟩ (dayOf start) (dayOf stop) :=
  ⟨hstart, hstop, rfl, rfl, hle, by dsimp only; omega⟩

theorem Covers.inCalendar_first (h : Covers range first last) : InCalendar first :=
  h.dayOf_start ▸ h.start_isDate.inCalendar

theorem Covers.inCalendar_last (h : Covers range first last) : InCalendar last :=
  h.dayOf_stop ▸ h.stop_isDate.inCalendar

theorem Covers.inCalendar (h : Covers range first last) {day : ℕ} (hday : day ∈ between first last) :
    InCalendar day := by
  obtain ⟨hge, hle⟩ := mem_between.mp hday
  exact ⟨h.inCalendar_first.ge.trans hge, hle.trans h.inCalendar_last.le⟩

theorem Covers.isInRange (h : Covers range first last) {date : String} (hdate : IsDate date) :
    isInRange date range = (decide (first ≤ dayOf date) && decide (dayOf date ≤ last)) := by
  unfold Api.isInRange
  simp only [h.start_isDate.le_iff hdate, hdate.le_iff h.stop_isDate, h.dayOf_start, h.dayOf_stop]

/-- The months that are read for a range. -/
theorem Covers.monthKeysForRange (h : Covers range first last) :
    monthKeysForRange range.start range.stop =
      .ok ((between (utcMonth (ofDayNumber first)) (utcMonth (ofDayNumber last))).map monthKey) := by
  rw [monthKeysForRange_eq h.start_isDate h.stop_isDate, h.dayOf_start, h.dayOf_stop]

theorem eval_readMonths (h : Publication objects manifest) (months : List ℕ)
    (hmonths : ∀ month ∈ months, month < 120000) (rows : List (MetricRow N kind)) :
    (Process.forEach (readMonth manifest range kind) (months.map monthKey) rows).eval
        (answers json objects) =
      .ok (rows ++ (months.flatMap (storedRows objects manifest kind)).filter
        (fun row => isInRange (Dated.date row) range)) := by
  induction months generalizing rows with
  | nil => simp [Process.forEach]
  | cons month months ih =>
      have hmonth := hmonths month List.mem_cons_self
      have hrest := fun m hm => hmonths m (List.mem_cons_of_mem month hm)
      refine (Process.eval_bind (readMonth manifest range kind rows (monthKey month))
        (Process.forEach (readMonth manifest range kind) (months.map monthKey))).trans ?_
      rw [eval_readMonth h hmonth, Process.except_ok_bind, ih hrest, List.flatMap_cons,
        List.filter_append, List.append_assoc]

/-- The months of a publication make up a sorted list of rows. -/
theorem Publication.sorted_months (h : Publication objects manifest) (kind : ArtifactKind)
    {first last : ℕ} (hlast : last < 120000) :
    Sorted rowDay ((between first last).flatMap (storedRows objects manifest kind)) := by
  have hmonth : ∀ month ∈ between first last, month < 120000 := fun month hmem =>
    (mem_between.mp hmem).2.trans_lt hlast
  refine List.pairwise_flatMap.mpr ⟨fun month hmem => (h.monthRows kind (hmonth month hmem)).sorted, ?_⟩
  have hlt : (between first last).Pairwise (· < ·) := List.pairwise_lt_range'
  refine hlt.imp_of_mem (fun {month month'} hmem hmem' hlt => ?_)
  intro row hrow row' hrow'
  have hrows := h.monthRows kind (hmonth month hmem)
  have hrows' := h.monthRows kind (hmonth month' hmem')
  by_contra hgt
  have hmono : monthOf (rowDay row') ≤ monthOf (rowDay row) :=
    monthOf_mono (hrows'.isDate row' hrow').inCalendar.ge (Nat.le_of_lt (Nat.not_le.mp hgt))
  rw [hrows.monthOf_eq row hrow, hrows'.monthOf_eq row' hrow'] at hmono
  omega

theorem Publication.isDate_months (h : Publication objects manifest) (kind : ArtifactKind)
    {first last : ℕ} (hlast : last < 120000) {row : MetricRow N kind}
    (hrow : row ∈ (between first last).flatMap (storedRows objects manifest kind)) :
    IsDate (Dated.date row) := by
  obtain ⟨month, hmonth, hrow⟩ := List.mem_flatMap.mp hrow
  exact (h.monthRows kind ((mem_between.mp hmonth).2.trans_lt hlast)).isDate row hrow

/-- The rows of one day among those of some months. -/
theorem Publication.filter_months (h : Publication objects manifest) (kind : ArtifactKind)
    {first last day : ℕ} (hlast : last < 120000) :
    ((between first last).flatMap (storedRows objects manifest kind)).filter
        (fun row => rowDay row == day) =
      if monthOf day ∈ between first last then dayRows objects manifest kind day else [] := by
  have hmonth : ∀ month ∈ between first last, month < 120000 := fun month hmem =>
    (mem_between.mp hmem).2.trans_lt hlast
  have hsplit : ((between first last).flatMap (storedRows objects manifest kind)).filter
      (fun row => rowDay row == day) =
      (((between first last).flatMap (storedRows objects manifest kind)).filter
        (fun row => monthOf (rowDay row) == monthOf day)).filter (fun row => rowDay row == day) := by
    rw [List.filter_filter]
    refine List.filter_congr (fun row _ => Bool.eq_iff_iff.mpr ?_)
    simp only [Bool.and_eq_true, beq_iff_eq]
    exact ⟨fun heq => ⟨heq, congrArg monthOf heq⟩, And.left⟩
  have hkey : ∀ month ∈ between first last, ∀ row ∈ storedRows objects manifest kind month,
      monthOf (rowDay row) = month := fun month hmem =>
    (h.monthRows kind (hmonth month hmem)).monthOf_eq
  rw [hsplit]
  split
  · next hmem =>
      rw [filter_flatMap_bucket (nodup_between first last) hkey hmem]
      rfl
  · next hmem =>
      refine List.filter_eq_nil_iff.mpr (fun row hrow _ => hmem ?_)
      obtain ⟨hrow, heq⟩ := List.mem_filter.mp hrow
      obtain ⟨month, hmonth, hrow⟩ := List.mem_flatMap.mp hrow
      rw [← beq_iff_eq.mp heq, hkey month hmonth row hrow]
      exact hmonth

/-- The rows of a day of a range among those of the months that are read for it. -/
theorem Publication.filter_shown (h : Publication objects manifest) (hrange : Covers range first last)
    (kind : ArtifactKind) {day : ℕ} (hday : day ∈ between first last) :
    ((between (utcMonth (ofDayNumber first)) (utcMonth (ofDayNumber last))).flatMap
        (storedRows objects manifest kind)).filter (fun row => rowDay row == day) =
      shownRows objects manifest first day kind := by
  have hlast := utcMonth_lt hrange.inCalendar_last
  have hmono := monthOf_mono (hrange.inCalendar hday).ge (mem_between.mp hday).2
  have hutc : monthOf last ≤ utcMonth (ofDayNumber last) := monthIndex_le_utcMonth _
  rw [h.filter_months kind hlast]
  unfold shownRows readsDay
  by_cases hread : utcMonth (ofDayNumber first) ≤ monthOf day
  · rw [if_pos (mem_between.mpr ⟨hread, hmono.trans hutc⟩), if_pos (decide_eq_true hread)]
  · rw [if_neg (fun hmem => hread (mem_between.mp hmem).1), decide_eq_false hread]
    rfl

/-- A range is read as its days, one after another. -/
theorem eval_readArtifactRows (h : Publication objects manifest) (hrange : Covers range first last)
    (kind : ArtifactKind) :
    (readArtifactRows manifest range kind).eval (answers json objects) =
      .ok ((between first last).flatMap
        (fun day => shownRows objects manifest first day kind)) := by
  have hlast := utcMonth_lt hrange.inCalendar_last
  unfold readArtifactRows
  rw [Process.eval_bind, Process.eval_ofExcept, hrange.monthKeysForRange, orError_ok,
    Process.except_ok_bind,
    eval_readMonths h _ (fun month hmem => (mem_between.mp hmem).2.trans_lt hlast) [],
    List.nil_append]
  refine congrArg Except.ok ?_
  have hcongr : ∀ row ∈ (between (utcMonth (ofDayNumber first)) (utcMonth (ofDayNumber last))).flatMap
      (storedRows objects manifest kind), Api.isInRange (Dated.date row) range =
        (decide (first ≤ rowDay row) && decide (rowDay row ≤ last)) :=
    fun row hrow => hrange.isInRange (h.isDate_months kind hlast hrow)
  rw [List.filter_congr hcongr, filter_between (h.sorted_months kind hlast) first last]
  exact List.flatMap_congr (fun day hday => h.filter_shown hrange kind hday)

/-! ### The data of a request -/

theorem shown_of_mem (h : Publication objects manifest) {day : ℕ} (hday : InCalendar day)
    {row : MetricRow N kind} (hrow : row ∈ shownRows objects manifest first day kind) :
    Dated.date row = dateText day := by
  unfold shownRows at hrow
  split at hrow
  · obtain ⟨hrow, hkey⟩ := List.mem_filter.mp hrow
    have hdate := (h.monthRows kind (monthOf_lt hday)).isDate row hrow
    rw [← hdate.dateText_dayOf]
    exact congrArg dateText (beq_iff_eq.mp hkey)
  · exact absurd hrow List.not_mem_nil

/-- The rows of one date among those that a range shows. -/
theorem filter_date_shown (h : Publication objects manifest) (hrange : Covers range first last)
    (kind : ArtifactKind) {day : ℕ} (hday : day ∈ between first last) :
    ((between first last).flatMap (fun day => shownRows objects manifest first day kind)).filter
        (fun row => Dated.date row == dateText day) = shownRows objects manifest first day kind := by
  have hkey : ∀ n ∈ between first last, ∀ row ∈ shownRows objects manifest first n kind,
      rowDay row = n := by
    intro n hn row hrow
    unfold rowDay
    rw [shown_of_mem h (hrange.inCalendar hn) hrow, dayOf_dateText (hrange.inCalendar hn)]
  refine Eq.trans (List.filter_congr (fun row hrow => ?_))
    (filter_flatMap_bucket (nodup_between first last) hkey hday)
  obtain ⟨n, hn, hrow⟩ := List.mem_flatMap.mp hrow
  rw [hkey n hn row hrow, shown_of_mem h (hrange.inCalendar hn) hrow]
  refine Bool.eq_iff_iff.mpr ?_
  rw [beq_iff_eq, beq_iff_eq]
  refine ⟨fun heq => ?_, fun heq => congrArg dateText heq⟩
  rw [← dayOf_dateText (hrange.inCalendar hn), heq, dayOf_dateText (hrange.inCalendar hday)]

/-- The metric of a day with these rows. -/
def publishedMetric (metrics : List (DailyMetric N)) : Option (DailyMetric N) :=
  metrics.getLast?.map normalizeMetricCompleteness

theorem metricsByDate_shown (h : Publication objects manifest) (hrange : Covers range first last)
    {day : ℕ} (hday : day ∈ between first last) :
    metricsByDate ((between first last).flatMap
        (fun day => shownRows objects manifest first day .metrics)) (dateText day) =
      publishedMetric (shownRows objects manifest first day .metrics) := by
  unfold metricsByDate
  exact congrArg publishedMetric (filter_date_shown h hrange .metrics hday)

section

variable [Zero N] [DecidableEq N]

/-- The records that belong to the blocks of a metric. -/
def recordsOf {kind : ArtifactKind} (block : MetricRow N kind → N)
    (blockchain : MetricRow N kind → String) (metric : Option (DailyMetric N))
    (records : List (MetricRow N kind)) : List (MetricRow N kind) :=
  match metric with
  | none => []
  | some metric => records.filter
      (fun record => isSelectedMetricBlock metric (block record) (blockchain record))

theorem selectRecords_flatMap {kind : ArtifactKind} {metrics : List (DailyMetric N)}
    {metricOn : ℕ → Option (DailyMetric N)} {days : List ℕ} {rows : ℕ → List (MetricRow N kind)}
    (hmetric : ∀ day ∈ days, metricsByDate metrics (dateText day) = metricOn day)
    (hdate : ∀ day ∈ days, ∀ row ∈ rows day, Dated.date row = dateText day)
    (block : MetricRow N kind → N) (blockchain : MetricRow N kind → String) :
    selectRecords metrics block blockchain (days.flatMap rows) =
      days.flatMap (fun day => recordsOf block blockchain (metricOn day) (rows day)) := by
  unfold selectRecords
  rw [List.filter_flatMap]
  refine List.flatMap_congr (fun day hday => ?_)
  have hcongr : ∀ record ∈ rows day, (match metricsByDate metrics (Dated.date record) with
      | none => false
      | some metric => isSelectedMetricBlock metric (block record) (blockchain record)) =
        match metricOn day with
        | none => false
        | some metric => isSelectedMetricBlock metric (block record) (blockchain record) := by
    intro record hrecord
    rw [hdate day hday record hrecord, hmetric day hday]
  refine (List.filter_congr hcongr).trans ?_
  cases metricOn day with
  | none => simp [recordsOf]
  | some metric => rfl

/-- The records that are sent for a day with these rows. -/
def dayRecords {kind : ArtifactKind} (block : MetricRow N kind → N)
    (blockchain : MetricRow N kind → String)
    (rows : (kind : ArtifactKind) → List (MetricRow N kind)) : List (MetricRow N kind) :=
  recordsOf block blockchain (publishedMetric (rows .metrics)) (rows kind)

theorem selectRecords_shown (h : Publication objects manifest) (hrange : Covers range first last)
    {kind : ArtifactKind} (block : MetricRow N kind → N) (blockchain : MetricRow N kind → String) :
    selectRecords ((between first last).flatMap
        (fun day => shownRows objects manifest first day .metrics)) block blockchain
        ((between first last).flatMap (fun day => shownRows objects manifest first day kind)) =
      (between first last).flatMap (fun day =>
        dayRecords block blockchain (shownRows objects manifest first day)) :=
  selectRecords_flatMap (fun _ hday => metricsByDate_shown h hrange hday)
    (fun _ hday _ hrow => shown_of_mem h (hrange.inCalendar hday) hrow) block blockchain

variable [Add N]

/-- The metric that is sent for a date. -/
def sentMetric (includeRecords : Bool) (generatedAt : ℕ) (date : String)
    (metric : Option (DailyMetric N)) (treasuryAssets : List (TreasuryAsset N))
    (ohmSupply : List (OhmSupply N)) : DailyMetric N :=
  match metric with
  | none => buildEmptyDailyMetric date includeRecords generatedAt
  | some metric =>
      if includeRecords then attachMetricRecords metric treasuryAssets ohmSupply else metric

/-- What a range endpoint sends for a date with these rows. -/
def dayData (generatedAt : ℕ) (date : String)
    (rows : (kind : ArtifactKind) → List (MetricRow N kind)) :
    (endpoint : V2Endpoint) → List (MetricRow N endpoint.kind)
  | .metricsDaily includeRecords =>
      [sentMetric includeRecords generatedAt date (publishedMetric (rows .metrics))
        (rows .treasuryAssets) (rows .ohmSupply)]
  | .treasuryAssetsDaily => dayRecords TreasuryAsset.block TreasuryAsset.blockchain rows
  | .ohmSupplyDaily => dayRecords OhmSupply.block OhmSupply.blockchain rows

omit [Zero N] [DecidableEq N] [Add N] in
theorem Covers.dateKeysForRange (h : Covers range first last) :
    dateKeysForRange range = .ok ((between first last).map dateText) := by
  have hparse : parseDate range.start = .ok (ofDayNumber first) := by
    rw [h.start_isDate.parseDate_eq, h.dayOf_start]
  have hfirst := (ofDayNumber_spec h.inCalendar_first.ge).2
  unfold Api.dateKeysForRange
  simp only [hparse, hfirst]
  rw [h.days_eq, between, List.range'_eq_map_range, List.map_map]
  refine congrArg Except.ok (List.map_congr_left (fun index _ => ?_))
  rw [Function.comp_apply, dateText]

omit [Zero N] [DecidableEq N] [Add N] in
theorem eval_readIf (h : Publication objects manifest) (hrange : Covers range first last)
    (kind : ArtifactKind) (wanted : Bool) :
    (if wanted then readArtifactRows manifest range kind
        else .ret [] : PublisherProcess (MetricRow N) _).eval (answers json objects) =
      .ok (if wanted then (between first last).flatMap
        (fun day => shownRows objects manifest first day kind) else []) := by
  cases wanted with
  | true => exact eval_readArtifactRows h hrange kind
  | false => rfl

/-- The metric of a date from the rows of its range. -/
theorem readDailyMetrics_eq (includeRecords : Bool) (generatedAt : ℕ) :
    (readDailyMetrics manifest range includeRecords generatedAt :
      PublisherProcess (MetricRow N) _) =
      (readArtifactRows manifest range .metrics >>= fun metricRows =>
      (if includeRecords then readArtifactRows manifest range .treasuryAssets else .ret []) >>=
        fun treasuryAssets =>
      (if includeRecords then readArtifactRows manifest range .ohmSupply else .ret []) >>=
        fun ohmSupply =>
      .ofExcept (orError (dateKeysForRange range)) >>= fun dates =>
      .ret (dates.map (fun date =>
        sentMetric includeRecords generatedAt date (metricsByDate metricRows date)
          (treasuryAssets.filter (fun asset : TreasuryAsset N => asset.date == date))
          (ohmSupply.filter (fun supply : OhmSupply N => supply.date == date))))) := by
  cases includeRecords with
  | true => rfl
  | false => rfl

theorem sentMetric_false {generatedAt : ℕ} {date : String} {metric : Option (DailyMetric N)}
    {treasuryAssets : List (TreasuryAsset N)} {ohmSupply : List (OhmSupply N)}
    (treasuryAssets' : List (TreasuryAsset N)) (ohmSupply' : List (OhmSupply N)) :
    sentMetric false generatedAt date metric treasuryAssets ohmSupply =
      sentMetric false generatedAt date metric treasuryAssets' ohmSupply' := by
  cases metric with
  | none => rfl
  | some metric => rfl

theorem eval_readDailyMetrics (h : Publication objects manifest) (hrange : Covers range first last)
    (includeRecords : Bool) (generatedAt : ℕ) :
    (readDailyMetrics manifest range includeRecords generatedAt).eval (answers json objects) =
      .ok ((between first last).map (fun day => sentMetric includeRecords generatedAt (dateText day)
        (publishedMetric (shownRows objects manifest first day .metrics))
        (shownRows objects manifest first day .treasuryAssets)
        (shownRows objects manifest first day .ohmSupply))) := by
  rw [readDailyMetrics_eq, Process.eval_bind, eval_readArtifactRows h hrange,
    Process.except_ok_bind, Process.eval_bind, eval_readIf h hrange, Process.except_ok_bind,
    Process.eval_bind, eval_readIf h hrange, Process.except_ok_bind, Process.eval_bind,
    Process.eval_ofExcept, hrange.dateKeysForRange, orError_ok, Process.except_ok_bind,
    Process.eval_ret, List.map_map]
  refine congrArg Except.ok (List.map_congr_left (fun day hday => ?_))
  have hmetric := metricsByDate_shown h hrange hday
  have hassets := filter_date_shown h hrange .treasuryAssets hday
  have hsupply := filter_date_shown h hrange .ohmSupply hday
  rw [Function.comp_apply]
  cases includeRecords with
  | false =>
      exact (congrArg (fun metric => sentMetric false generatedAt (dateText day) metric _ _)
        hmetric).trans (sentMetric_false _ _)
  | true =>
      exact congr (congr (congrArg (sentMetric true generatedAt (dateText day)) hmetric) hassets)
        hsupply

omit [Add N] in
theorem eval_readSelectedDailyRecords (h : Publication objects manifest)
    (hrange : Covers range first last) (turns : List Bool) {kind : ArtifactKind}
    (block : MetricRow N kind → N) (blockchain : MetricRow N kind → String) :
    (readSelectedDailyRecords turns manifest range kind block blockchain).eval
        (answers json objects) =
      .ok ((between first last).flatMap (fun day =>
        dayRecords block blockchain (shownRows objects manifest first day))) := by
  unfold readSelectedDailyRecords
  rw [Process.eval_bind, Process.eval_both (eval_readArtifactRows h hrange .metrics)
    (eval_readArtifactRows h hrange kind) turns, Process.except_ok_bind]
  exact congrArg Except.ok (selectRecords_shown h hrange block blockchain)

/-- A range request sends the data of its days. -/
theorem eval_readV2Data (h : Publication objects manifest) (hrange : Covers range first last)
    (turns : List Bool) (generatedAt : ℕ) (endpoint : V2Endpoint) :
    (readV2Data turns manifest range generatedAt endpoint).eval (answers json objects) =
      .ok ((between first last).flatMap (fun day =>
        dayData generatedAt (dateText day) (shownRows objects manifest first day) endpoint)) := by
  cases endpoint with
  | metricsDaily includeRecords =>
      refine (eval_readDailyMetrics h hrange includeRecords generatedAt).trans ?_
      exact congrArg Except.ok List.map_eq_flatMap
  | treasuryAssetsDaily => exact eval_readSelectedDailyRecords h hrange turns _ _
  | ohmSupplyDaily => exact eval_readSelectedDailyRecords h hrange turns _ _

/-! ### Requests -/

/-- The server finds the manifest of a publication. -/
structure Serves (json : Serialization (MetricRow N)) (objects : Objects (MetricRow N))
    (config : MetricsApiConfig) (manifest : Manifest) : Prop where
  found : (getManifest config : PublisherProcess (MetricRow N) Manifest).eval
    (answers json objects) = .ok manifest
  publication : Publication objects manifest

/-- The data that a range request sends. -/
def requestData (objects : Objects (MetricRow N)) (manifest : Manifest) (generatedAt : ℕ)
    (endpoint : V2Endpoint) (first last : ℕ) : List (MetricRow N endpoint.kind) :=
  (between first last).flatMap (fun day =>
    dayData generatedAt (dateText day) (shownRows objects manifest first day) endpoint)

omit [Zero N] [DecidableEq N] [Add N] in
theorem eval_withPublishedManifest {Data : Type} {config : MetricsApiConfig}
    (h : Serves json objects config manifest)
    (answer : Manifest → PublisherProcess (MetricRow N) (ApiResponse Data)) :
    (withPublishedManifest config answer).eval (answers json objects) =
      (answer manifest).eval (answers json objects) := by
  unfold withPublishedManifest
  rw [Process.eval_bind, Process.eval_attempt, h.found, Process.except_ok_bind]

theorem eval_handleV2Request {config : MetricsApiConfig} (h : Serves json objects config manifest)
    {request : V2Request} (hrange : resolveV2Range request config manifest = .ok range)
    (hcovers : Covers range first last) (turns : List Bool) :
    (handleV2Request turns config request).eval (answers json objects) =
      .ok (okResponse config manifest (some range)
        (requestData objects manifest (config.generatedAt.getD manifest.generatedAt)
          request.endpoint first last)) := by
  unfold handleV2Request answerV2Request
  rw [eval_withPublishedManifest h, Process.eval_tryCatch, Process.eval_bind, Process.eval_ofExcept,
    hrange, orError_ok, Process.except_ok_bind, Process.eval_bind,
    eval_readV2Data h.publication hcovers, Process.except_ok_bind, Process.eval_ret]
  rfl

end

end

end OlympusMetrics.Api
