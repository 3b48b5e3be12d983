import OlympusMetrics.Api.LegacyClient
import Mathlib.Order.Interval.Finset.Nat

/-!
The ranges of the paginated legacy operations and the metrics that are sent for them.

A range is a set of days. The days that an operation asks for are cut to those
that are published, and the metrics are one for each day that is left.
-/

namespace OlympusMetrics.Api

open Publisher SortedRows Client

/-! ### Days -/

/-- The days from one date to another. -/
def daysBetween (start stop : String) : Finset ℕ := Finset.Icc (dayOf start) (dayOf stop)

theorem mem_daysBetween {start stop : String} {day : ℕ} :
    day ∈ daysBetween start stop ↔ dayOf start ≤ day ∧ day ≤ dayOf stop :=
  Finset.mem_Icc

theorem card_daysBetween (start stop : String) :
    (daysBetween start stop).card = dayOf stop + 1 - dayOf start :=
  Nat.card_Icc _ _

/-- The days that an operation asks for. -/
def requestedDays (vars : LegacyVariables) (manifest : Manifest) : Finset ℕ :=
  daysBetween (legacyStart vars manifest) (legacyEnd vars manifest)

/-- The days that a manifest publishes. -/
def publishedDays (manifest : Manifest) : Finset ℕ :=
  daysBetween manifest.earliestDate manifest.latestDate

/-- An end is not a date, the ends are not in order, or there are too many days. -/
def IsRefused (maxDays : ℕ) (start stop : String) : Prop :=
  ¬ IsDate start ∨ ¬ IsDate stop ∨ dayOf stop < dayOf start ∨
    maxDays < (daysBetween start stop).card

theorem not_isRefused_iff {maxDays : ℕ} {start stop : String} :
    ¬ IsRefused maxDays start stop ↔ Fits (some maxDays) start stop := by
  constructor
  · intro h
    simp only [IsRefused, not_or, not_not, not_lt, card_daysBetween] at h
    obtain ⟨hstart, hstop, hle, hcard⟩ := h
    refine ⟨hstart, hstop, hle, fun cap hcap => ?_⟩
    obtain rfl := Option.some.inj hcap
    omega
  · rintro h (hstart | hstop | hlt | hcard)
    · exact hstart h.start_isDate
    · exact hstop h.stop_isDate
    · exact absurd h.le (Nat.not_le.mpr hlt)
    · have hcap := h.cap maxDays rfl
      rw [card_daysBetween] at hcard
      omega

/-- Only a range that fits is resolved. -/
theorem fits_of_resolve {maxDays : ℕ} {start stop latestDate : String} {range : DateRange}
    (h : resolveDateRange start (some stop) latestDate (some maxDays) true = .ok range) :
    Fits (some maxDays) start stop := by
  have hcovers := covers_of_resolve h
  obtain ⟨hstart, hstop, hle⟩ := resolveDateRange_eq_ok h
  have hfits : range.days ≤ maxDays := by
    unfold resolveDateRange at h
    obtain ⟨startDate, -, h⟩ := exists_of_bind_eq_ok h
    obtain ⟨stopDate, -, h⟩ := exists_of_bind_eq_ok h
    split at h
    · exact nomatch h
    · dsimp only at h
      split at h
      · exact nomatch h
      · next hcap =>
          rw [← Except.ok.inj h]
          simpa using hcap
  rw [Option.getD_some] at hstop
  subst hstart hstop
  refine ⟨hcovers.start_isDate, hcovers.stop_isDate, hle, fun cap hcap => ?_⟩
  obtain rfl := Option.some.inj hcap
  have hdays := hcovers.days_eq
  omega

/-! ### The published part of a range -/

/-- The part of a range that is published. -/
def cutRange (vars : LegacyVariables) (manifest : Manifest) : DateRange :=
  let start := if legacyStart vars manifest < manifest.earliestDate then manifest.earliestDate
    else legacyStart vars manifest
  let stop := if manifest.latestDate < legacyEnd vars manifest then manifest.latestDate
    else legacyEnd vars manifest
  { start := start, stop := stop, days := dayOf stop - dayOf start + 1 }

/-- A range has exactly these days. -/
structure HasDays (range : DateRange) (days : Finset ℕ) : Prop where
  start_isDate : IsDate range.start
  stop_isDate : IsDate range.stop
  days_eq : daysBetween range.start range.stop = days
  card_eq : range.days = days.card

section

variable {maxDays : ℕ} {vars : LegacyVariables} {manifest : Manifest}

/-- What a paginated operation resolves a range that fits to. -/
theorem resolvePaginated_eq (table : LegacyTable) (hbounds : PublishedBounds manifest)
    (hfits : Fits (some maxDays) (legacyStart vars manifest) (legacyEnd vars manifest)) :
    resolveLegacyRange (getLegacyOperationPath (LegacyOperation.data .paginated table).name) vars
        manifest (some maxDays) =
      if legacyEnd vars manifest < manifest.earliestDate ∨
          manifest.latestDate < legacyStart vars manifest then .ok none
      else .ok (some (cutRange vars manifest)) := by
  unfold resolveLegacyRange
  simp only [startsWith_path .paginated table, hfits.resolve, Process.except_ok_bind]
  by_cases houtside : legacyEnd vars manifest < manifest.earliestDate ∨
      manifest.latestDate < legacyStart vars manifest
  · rw [if_pos houtside, if_pos houtside]
    rfl
  · obtain ⟨hearliest, hlatest⟩ := not_or.mp houtside
    simp only [houtside, (hfits.cut hbounds hearliest hlatest).resolve]
    rfl

theorem resolvePaginated_error (table : LegacyTable)
    (hrefused : IsRefused maxDays (legacyStart vars manifest) (legacyEnd vars manifest)) :
    ∃ message, resolveLegacyRange
      (getLegacyOperationPath (LegacyOperation.data .paginated table).name) vars manifest
        (some maxDays) = .error message := by
  unfold resolveLegacyRange
  simp only [startsWith_path .paginated table]
  cases hresolve : resolveDateRange (legacyStart vars manifest) (some (legacyEnd vars manifest))
      manifest.latestDate (some maxDays) true with
  | error message => exact ⟨message, rfl⟩
  | ok range => exact absurd hrefused (not_isRefused_iff.mpr (fits_of_resolve hresolve))

/-- A range that ends before the other starts has no day with it in common. -/
theorem disjoint_iff (hbounds : PublishedBounds manifest)
    (hfits : Fits (some maxDays) (legacyStart vars manifest) (legacyEnd vars manifest)) :
    Disjoint (requestedDays vars manifest) (publishedDays manifest) ↔
      legacyEnd vars manifest < manifest.earliestDate ∨
        manifest.latestDate < legacyStart vars manifest := by
  have hle := hfits.le
  have hpublished := hbounds.le
  rw [hfits.stop_isDate.lt_iff hbounds.earliest_isDate,
    hbounds.latest_isDate.lt_iff hfits.start_isDate, Finset.disjoint_left]
  simp only [requestedDays, publishedDays, mem_daysBetween]
  constructor
  · intro h
    by_contra hmeets
    have := @h (max (dayOf (legacyStart vars manifest)) (dayOf manifest.earliestDate))
    omega
  · intro h day hday
    omega

theorem hasDays_cutRange (hbounds : PublishedBounds manifest)
    (hfits : Fits (some maxDays) (legacyStart vars manifest) (legacyEnd vars manifest))
    (hmeets : ¬ Disjoint (requestedDays vars manifest) (publishedDays manifest)) :
    HasDays (cutRange vars manifest) (requestedDays vars manifest ∩ publishedDays manifest) := by
  rw [disjoint_iff hbounds hfits, not_or] at hmeets
  have hcut := hfits.cut hbounds hmeets.1 hmeets.2
  have hdays : daysBetween (cutRange vars manifest).start (cutRange vars manifest).stop =
      requestedDays vars manifest ∩ publishedDays manifest := by
    ext day
    simp only [requestedDays, publishedDays, Finset.mem_inter, mem_daysBetween, cutRange,
      hfits.start_isDate.lt_iff hbounds.earliest_isDate,
      hbounds.latest_isDate.lt_iff hfits.stop_isDate]
    split <;> split <;> omega
  refine ⟨hcut.start_isDate, hcut.stop_isDate, hdays, ?_⟩
  have hle : dayOf (cutRange vars manifest).start ≤ dayOf (cutRange vars manifest).stop := hcut.le
  have hcount : (cutRange vars manifest).days =
    dayOf (cutRange vars manifest).stop - dayOf (cutRange vars manifest).start + 1 := rfl
  rw [← hdays, card_daysBetween]
  omega

end

/-! ### Metrics -/

section

variable {N : Type} [Zero N] [DecidableEq N] [Add N]

/-- The rows of a range; none where they can not be read. -/
def readableRows (answer : StoreAnswer N) (manifest : Manifest) (range : DateRange)
    (kind : ArtifactKind) : List (MetricRow N kind) :=
  match rangeRead answer manifest range kind with
  | .ok rows => rows
  | .error _ => []

/-- The metric that is sent for a date of a range. -/
def rangeMetric (answer : StoreAnswer N) (manifest : Manifest) (range : DateRange)
    (includeRecords : Bool) (generatedAt : ℕ) (date : String) : DailyMetric N :=
  sentMetric includeRecords generatedAt date
    (metricsByDate (readableRows answer manifest range .metrics) date)
    ((readableRows answer manifest range .treasuryAssets).filter
      (fun asset : TreasuryAsset N => asset.date == date))
    ((readableRows answer manifest range .ohmSupply).filter
      (fun supply : OhmSupply N => supply.date == date))

/-- The metrics of some days, or of those that are complete, later days first. -/
structure SendsDays (row : String → DailyMetric N) (days : Finset ℕ) (onlyComplete : Bool)
    (sent : List (DailyMetric N)) : Prop where
  date_row : ∀ date, (row date).date = date
  mem_iff : ∀ metric, metric ∈ sent ↔ ∃ date, IsDate date ∧ dayOf date ∈ days ∧
    row date = metric ∧ (onlyComplete = true → metric.crossChainComplete = true)
  descending : sent.Pairwise (fun a b => b.date < a.date)

variable {answer : StoreAnswer N} {manifest : Manifest} {range : DateRange} {dates : List String}

omit [Zero N] [DecidableEq N] [Add N] in
theorem readableRows_eq {kind : ArtifactKind} {rows : List (MetricRow N kind)}
    (h : rangeRead answer manifest range kind = .ok rows) :
    readableRows answer manifest range kind = rows := by
  unfold readableRows
  rw [h]

/-- The metrics of a range, when they can be read. -/
theorem eq_of_eval_readDailyMetrics (hdates : dateKeysForRange range = .ok dates)
    {includeRecords : Bool} {generatedAt : ℕ} {daily : List (DailyMetric N)}
    (h : (readDailyMetrics manifest range includeRecords generatedAt).eval answer = .ok daily) :
    daily = dates.map (rangeMetric answer manifest range includeRecords generatedAt) := by
  rw [eval_readDailyMetrics_eq hdates] at h
  obtain ⟨metrics, hmetrics, h⟩ := exists_of_bind_eq_ok h
  obtain ⟨treasuryAssets, hassets, h⟩ := exists_of_bind_eq_ok h
  obtain ⟨ohmSupply, hsupply, h⟩ := exists_of_bind_eq_ok h
  rw [← Except.ok.inj h]
  refine List.map_congr_left (fun date _ => ?_)
  unfold rangeMetric
  rw [readableRows_eq hmetrics]
  cases includeRecords with
  | false => exact sentMetric_false _ _
  | true => rw [readableRows_eq hassets, readableRows_eq hsupply]

theorem descending_of_nodup {α : Type} {date : α → String} {rows : List α}
    (h : (rows.map date).Nodup) :
    (legacyRowsDescending date rows).Pairwise (fun a b => date b < date a) := by
  have hnodup : ((legacyRowsDescending date rows).map date).Nodup :=
    ((perm_legacyRowsDescending date rows).map date).nodup_iff.mpr h
  have hne : (legacyRowsDescending date rows).Pairwise (fun a b => date a ≠ date b) :=
    List.pairwise_map.mp hnodup
  refine ((pairwise_legacyRowsDescending date rows).and hne).imp (fun {a b} hab => ?_)
  exact lt_of_le_of_ne hab.1 hab.2.symm

/-- The dates of a range are those of its days. -/
theorem mem_dates {first last : ℕ} (hcovers : Covers range first last) {date : String} :
    date ∈ (between first last).map dateText ↔
      IsDate date ∧ dayOf date ∈ daysBetween range.start range.stop := by
  rw [List.mem_map, mem_daysBetween, hcovers.dayOf_start, hcovers.dayOf_stop]
  constructor
  · rintro ⟨day, hday, rfl⟩
    have hcalendar := hcovers.inCalendar hday
    rw [dayOf_dateText hcalendar]
    exact ⟨isDate_dateText hcalendar, mem_between.mp hday⟩
  · rintro ⟨hdate, hday⟩
    exact ⟨dayOf date, mem_between.mpr hday, hdate.dateText_dayOf⟩

theorem nodup_dates {first last : ℕ} (hcovers : Covers range first last) :
    ((between first last).map dateText).Nodup := by
  refine (nodup_between first last).map_on (fun day hday day' hday' heq => ?_)
  rw [← dayOf_dateText (hcovers.inCalendar hday), heq, dayOf_dateText (hcovers.inCalendar hday')]

omit [Zero N] [DecidableEq N] [Add N] in
theorem sendsDays_descending {first last : ℕ} (hcovers : Covers range first last)
    {row : String → DailyMetric N} (hrow : ∀ date, (row date).date = date)
    (onlyComplete : Bool) :
    SendsDays row (daysBetween range.start range.stop) onlyComplete
      (legacyRowsDescending DailyMetric.date
        (if onlyComplete then (((between first last).map dateText).map row).filter
            (·.crossChainComplete)
          else ((between first last).map dateText).map row)) where
  date_row := hrow
  mem_iff := by
    intro metric
    rw [(perm_legacyRowsDescending DailyMetric.date _).mem_iff]
    cases onlyComplete with
    | false =>
        simp only [Bool.false_eq_true, if_false, List.mem_map (f := row), mem_dates hcovers]
        constructor
        · rintro ⟨date, ⟨hdate, hday⟩, hmetric⟩
          exact ⟨date, hdate, hday, hmetric, fun h => nomatch h⟩
        · rintro ⟨date, hdate, hday, hmetric, -⟩
          exact ⟨date, ⟨hdate, hday⟩, hmetric⟩
    | true =>
        simp only [if_true, List.mem_filter, List.mem_map (f := row), mem_dates hcovers]
        constructor
        · rintro ⟨⟨date, ⟨hdate, hday⟩, hmetric⟩, hcomplete⟩
          exact ⟨date, hdate, hday, hmetric, fun _ => hcomplete⟩
        · rintro ⟨date, hdate, hday, hmetric, hcomplete⟩
          exact ⟨⟨date, ⟨hdate, hday⟩, hmetric⟩, hcomplete trivial⟩
  descending := by
    have hall : ((((between first last).map dateText).map row).map DailyMetric.date).Nodup := by
      rw [List.map_map, (funext hrow : DailyMetric.date ∘ row = id), List.map_id]
      exact nodup_dates hcovers
    apply descending_of_nodup
    cases onlyComplete with
    | false => exact hall
    | true => exact hall.sublist (List.filter_sublist.map _)

/-! ### Operations -/

/-- The metrics that an operation answers with; no rows are no metrics. -/
def LegacyData.metricRows : LegacyData N → Option (List (DailyMetric N))
  | .empty => some []
  | .metrics sent => some sent
  | _ => none

/-- A range is refused, empty, or the part of the published days that is asked for. -/
structure ResolvesExactly (maxDays : ℕ) (vars : LegacyVariables) (manifest : Manifest)
    (resolved : Except String (Option DateRange)) : Prop where
  error_iff : (∃ message, resolved = .error message) ↔
    IsRefused maxDays (legacyStart vars manifest) (legacyEnd vars manifest)
  none_iff : ¬ IsRefused maxDays (legacyStart vars manifest) (legacyEnd vars manifest) →
    (resolved = .ok none ↔ Disjoint (requestedDays vars manifest) (publishedDays manifest))
  some_of_meets : ¬ IsRefused maxDays (legacyStart vars manifest) (legacyEnd vars manifest) →
    ¬ Disjoint (requestedDays vars manifest) (publishedDays manifest) →
      ∃ range, resolved = .ok (some range) ∧
        HasDays range (requestedDays vars manifest ∩ publishedDays manifest)

omit [Zero N] [DecidableEq N] [Add N] in
theorem resolvesExactly {maxDays : ℕ} {vars : LegacyVariables} (hbounds : PublishedBounds manifest)
    (table : LegacyTable) : ResolvesExactly maxDays vars manifest
      (resolveLegacyRange (getLegacyOperationPath (LegacyOperation.data .paginated table).name)
        vars manifest (some maxDays)) where
  error_iff := by
    refine ⟨?_, resolvePaginated_error table⟩
    rintro ⟨message, hmessage⟩
    by_contra haccepted
    rw [resolvePaginated_eq table hbounds (not_isRefused_iff.mp haccepted)] at hmessage
    split at hmessage
    · exact nomatch hmessage
    · exact nomatch hmessage
  none_iff := by
    intro haccepted
    have hfits := not_isRefused_iff.mp haccepted
    rw [resolvePaginated_eq table hbounds hfits, disjoint_iff hbounds hfits]
    split
    · next houtside => exact iff_of_true rfl houtside
    · next hinside => exact iff_of_false (fun h => nomatch h) hinside
  some_of_meets := by
    intro haccepted hmeets
    have hfits := not_isRefused_iff.mp haccepted
    refine ⟨cutRange vars manifest, ?_, hasDays_cutRange hbounds hfits hmeets⟩
    rw [resolvePaginated_eq table hbounds hfits]
    exact if_neg ((disjoint_iff hbounds hfits).not.mp hmeets)

theorem HasDays.covers {days : Finset ℕ} (h : HasDays range days) (hdays : days.Nonempty) :
    Covers range (dayOf range.start) (dayOf range.stop) := by
  obtain ⟨day, hday⟩ := hdays
  rw [← h.days_eq, mem_daysBetween] at hday
  have hcount := h.card_eq
  rw [← h.days_eq, card_daysBetween] at hcount
  exact ⟨h.start_isDate, h.stop_isDate, rfl, rfl, hday.1.trans hday.2, hcount⟩

variable [Div N]

theorem readLegacyRange_metrics (turns : List Bool) (vars : LegacyVariables) (generatedAt : ℕ) :
    (readLegacyRange turns "/operations/paginated/metrics" vars manifest range generatedAt).eval
        answer =
      (readDailyMetrics manifest range (legacyFlag vars "includeRecords") generatedAt).eval answer
        >>= fun metrics => .ok (.metrics (legacyRowsDescending DailyMetric.date
          (if legacyFlag vars "crossChainDataComplete" then metrics.filter (·.crossChainComplete)
            else metrics))) := by
  have hrecords : endsWith "/operations/paginated/metrics" "/tokenRecords" = false := by decide
  have hsupplies : endsWith "/operations/paginated/metrics" "/tokenSupplies" = false := by decide
  have hprotocol : endsWith "/operations/paginated/metrics" "/protocolMetrics" = false := by decide
  have hpaginated : startsWith "/operations/paginated/metrics" "/operations/paginated/" = true := by
    decide
  unfold readLegacyRange
  simp only [hrecords, hsupplies, legacyMetrics, hprotocol, hpaginated]
  refine (Process.eval_bind _ _).trans ?_
  simp

/-- What the operation on metrics sends, once its range is resolved. -/
structure OperatesExactly (answer : StoreAnswer N) (config : MetricsApiConfig)
    (manifest : Manifest) (maxDays : ℕ) (vars : LegacyVariables)
    (result : Except PublishError (LegacyData N)) : Prop where
  sends : ∀ data, result = .ok data → ∃ sent, data.metricRows = some sent ∧
    SendsDays (rangeMetric answer manifest (cutRange vars manifest)
        (legacyFlag vars "includeRecords") (config.generatedAt.getD manifest.generatedAt))
      (requestedDays vars manifest ∩ publishedDays manifest)
      (legacyFlag vars "crossChainDataComplete") sent
  ends : ¬ IsRefused maxDays (legacyStart vars manifest) (legacyEnd vars manifest) →
    (¬ Disjoint (requestedDays vars manifest) (publishedDays manifest) →
      ∀ kind ∈ (V2Endpoint.metricsDaily (legacyFlag vars "includeRecords")).kinds,
        ∃ rows, rangeRead answer manifest (cutRange vars manifest) kind = .ok rows) →
    ∃ data, result = .ok data

theorem operatesExactly {config : MetricsApiConfig} {maxDays : ℕ} {vars : LegacyVariables}
    (hmax : config.maxRangeDays = some maxDays) (hbounds : PublishedBounds manifest)
    (turns : List Bool) : OperatesExactly answer config manifest maxDays vars
      ((readLegacyOperation turns "/operations/paginated/metrics" vars config manifest).eval
        answer) := by
  have hexact : ResolvesExactly maxDays vars manifest
      (resolveLegacyRange "/operations/paginated/metrics" vars manifest (some maxDays)) :=
    resolvesExactly hbounds .metrics
  have heval : (readLegacyOperation turns "/operations/paginated/metrics" vars config
      manifest).eval answer = (orError (resolveLegacyRange "/operations/paginated/metrics" vars
        manifest (some maxDays)) >>= fun resolved => resolved.elim (.ok .empty) (fun range =>
          (readLegacyRange turns "/operations/paginated/metrics" vars manifest range
            (config.generatedAt.getD manifest.generatedAt)).eval answer)) := by
    unfold readLegacyOperation
    rw [Process.eval_bind, Process.eval_ofExcept, hmax]
    congr 1
    funext resolved
    cases resolved <;> rfl
  by_cases hrefused : IsRefused maxDays (legacyStart vars manifest) (legacyEnd vars manifest)
  · obtain ⟨message, hmessage⟩ := hexact.error_iff.mpr hrefused
    rw [heval, hmessage]
    exact ⟨fun data h => (by cases h), fun haccepted => absurd hrefused haccepted⟩
  · by_cases hdisjoint : Disjoint (requestedDays vars manifest) (publishedDays manifest)
    · rw [heval, (hexact.none_iff hrefused).mpr hdisjoint]
      refine ⟨fun data h => ?_, fun _ _ => ⟨.empty, rfl⟩⟩
      obtain rfl : LegacyData.empty = data := Except.ok.inj h
      refine ⟨[], rfl, fun date => date_sentMetric, fun metric => ?_, List.Pairwise.nil⟩
      simp [Finset.disjoint_iff_inter_eq_empty.mp hdisjoint]
    · have hfits := not_isRefused_iff.mp hrefused
      have hdays := hasDays_cutRange hbounds hfits hdisjoint
      have hcovers := hdays.covers (Finset.not_disjoint_iff_nonempty_inter.mp hdisjoint)
      have hresolve := resolvePaginated_eq .metrics hbounds hfits
      rw [if_neg ((disjoint_iff hbounds hfits).not.mp hdisjoint)] at hresolve
      have hpath : getLegacyOperationPath (LegacyOperation.data .paginated .metrics).name =
        "/operations/paginated/metrics" := by decide
      rw [hpath] at hresolve
      rw [heval, hresolve, orError_ok, Process.except_ok_bind]
      simp only [Option.elim_some, readLegacyRange_metrics]
      constructor
      · intro data h
        obtain ⟨daily, hdaily, h⟩ := exists_of_bind_eq_ok h
        obtain rfl := eq_of_eval_readDailyMetrics hcovers.dateKeysForRange hdaily
        rw [← Except.ok.inj h, ← hdays.days_eq]
        exact ⟨_, rfl, sendsDays_descending hcovers (fun date => date_sentMetric) _⟩
      · intro _ hreads
        obtain ⟨daily, hdaily⟩ := (readsKinds_dailyMetrics hcovers.dateKeysForRange
          (legacyFlag vars "includeRecords")
          (config.generatedAt.getD manifest.generatedAt)).ok turns answer (hreads hdisjoint)
        rw [hdaily]
        exact ⟨_, rfl⟩

/-- The paginated operations resolve exactly the published part of a range that is asked for, and
that on metrics sends one row for each of its days. -/
theorem paginated_ranges_exact (config : MetricsApiConfig) (manifest : Manifest)
    (hbounds : PublishedBounds manifest) (maxDays : ℕ) (hmax : config.maxRangeDays = some maxDays)
    (vars : LegacyVariables) :
    (∀ table, ResolvesExactly maxDays vars manifest
      (resolveLegacyRange (getLegacyOperationPath (LegacyOperation.data .paginated table).name)
        vars manifest config.maxRangeDays)) ∧
    ∀ (answer : StoreAnswer N) (turns : List Bool),
      OperatesExactly answer config manifest maxDays vars
        ((readLegacyOperation turns "/operations/paginated/metrics" vars config manifest).eval
          answer) := by
  constructor
  · intro table
    rw [hmax]
    exact resolvesExactly hbounds table
  · intro answer turns
    exact operatesExactly hmax hbounds turns

end

theorem paginated_ranges_exact_leapDay :
    (∀ table, ResolvesExactly 2 [("startDate", .string "2024-02-28")] (bareManifest "2024-02-29")
      (resolveLegacyRange (getLegacyOperationPath (LegacyOperation.data .paginated table).name)
        [("startDate", .string "2024-02-28")] (bareManifest "2024-02-29") (some 2))) ∧
    ∀ (answer : StoreAnswer ℤ) (turns : List Bool),
      OperatesExactly answer { maxRangeDays := some 2 } (bareManifest "2024-02-29") 2
        [("startDate", .string "2024-02-28")]
        ((readLegacyOperation turns "/operations/paginated/metrics"
          [("startDate", .string "2024-02-28")] { maxRangeDays := some 2 }
            (bareManifest "2024-02-29")).eval answer) :=
  paginated_ranges_exact { maxRangeDays := some 2 } (bareManifest "2024-02-29")
    publishedBounds_leapDay 2 rfl [("startDate", .string "2024-02-28")]

/-- A start of white space is no date, but the range starts at the first published date. -/
theorem blank_start_defaulted :
    PublishedBounds (bareManifest "2024-02-29") ∧ ¬ IsDate " " ∧
      resolveLegacyRange "/operations/paginated/metrics" [("startDate", .string " ")]
        (bareManifest "2024-02-29") (some 1) =
          .ok (some { start := "2024-02-29", stop := "2024-02-29", days := 1 }) := by
  refine ⟨publishedBounds_leapDay, ?_, by decide +kernel⟩
  rintro ⟨date, hdate⟩
  exact nomatch hdate

end OlympusMetrics.Api
