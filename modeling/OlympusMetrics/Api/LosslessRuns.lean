import OlympusMetrics.Api.Isolation
import OlympusMetrics.Api.PublishedDays

/-!
A run publishes what it has fetched, and the API serves it back.
-/

namespace OlympusMetrics.Api

open Process Publisher

variable {N : Type} [Zero N] [DecidableEq N] [Add N]

/-- The source answers every range with sorted rows of this range. -/
def AnswersSorted (input : PublishInput (MetricRow N)) : Prop :=
  ∀ range rows, fetchAllRows input.source range = .ok rows → SourceRows range rows

/-- The months that a run writes and publishes begin in time for its range. -/
def RunBeginsInTime (input : PublishInput (MetricRow N)) (existing : Option Manifest) : Prop :=
  ∀ plan : Plan input existing,
    BeginsInTime plan.range (earliestPublished plan) (latestPublished plan)

/-- The store serves the rows of a range back. -/
def ServesBack (json : Serialization (MetricRow N)) (source : MetricsSource (MetricRow N))
    (range : DateRange) (objects : Objects (MetricRow N)) : Prop :=
  ∃ manifest rows, storedManifest objects = some manifest ∧
    fetchAllRows source range = .ok rows ∧ Lossless json objects manifest rows range

/-- What a run has published is served back, over any store that it began with. -/
theorem servesBack_of_beginsInTime {json : Serialization (MetricRow N)}
    {input : PublishInput (MetricRow N)} {objects t : Objects (MetricRow N)} {runId : String}
    {result : PublishResult}
    (hrun : Runs (Performs json) (publishMetricsArtifacts json runId input) objects
      (some (.ok result)) t) (hpublished : result.skipped = false)
    (hsource : AnswersSorted input)
    (hbegins : RunBeginsInTime input (existingManifest input objects)) :
    ∃ range, result.range = some range ∧ ServesBack json input.source range t := by
  rcases (runs_publish hrun).2 result rfl with
    ⟨hskipped, -⟩ | ⟨-, plan, manifest, hnext, hclean, hrange⟩
  · rw [hskipped] at hpublished
    exact nomatch hpublished
  · have hpublishes := plan.publishes_of_next hnext
    have hstored : storedManifest t = some manifest :=
      hclean.storedManifest_eq.trans (storedManifest_eq plan.lookup_stored_manifest)
    have hintime := hbegins plan
    rw [show earliestPublished plan = manifest.earliestDate from hpublishes.earliest_eq.symm,
      show latestPublished plan = manifest.latestDate from hpublishes.latest_eq.symm] at hintime
    exact ⟨plan.range, hrange, manifest, plan.rows, hstored, plan.rows_eq,
      lossless_of_publishes hpublishes hclean (hsource plan.range plan.rows plan.rows_eq) hintime⟩

/-! ### Publications of given rows -/

/-- A source of given rows. -/
def rowSource (rows : (kind : ArtifactKind) → List (MetricRow ℕ kind)) (earliestDate : String) :
    MetricsSource (MetricRow ℕ) where
  fetchLatestIndexingProgress := .ok []
  fetchBounds := fun _ => .ok { earliestDate := earliestDate, latestDate := "1999-12-31" }
  fetchRows := fun kind range =>
    .ok ((rows kind).filter (fun row => isInRange (Dated.date row) range))

/-- A run on the first of January 2000 that publishes the dates from a first one on. -/
def rowInput (rows : (kind : ArtifactKind) → List (MetricRow ℕ kind)) (earliestDate : String) :
    PublishInput (MetricRow ℕ) where
  publicStartDate := some earliestDate
  deploymentId := "d1"
  source := rowSource rows earliestDate
  now := 946684800000

theorem fetched_eq_filter {rows fetched : (kind : ArtifactKind) → List (MetricRow ℕ kind)}
    {earliestDate : String} {range : DateRange}
    (h : fetchAllRows (rowSource rows earliestDate) range = .ok fetched) (kind : ArtifactKind) :
    fetched kind = (rows kind).filter (fun row => isInRange (Dated.date row) range) := by
  rw [← Except.ok.inj h]
  cases kind <;> rfl

theorem answersSorted_rowInput {rows : (kind : ArtifactKind) → List (MetricRow ℕ kind)}
    (hsorted : ∀ kind, SortedDates (rows kind)) (hdates : ((rows .metrics).map Dated.date).Nodup)
    (earliestDate : String) : AnswersSorted (rowInput rows earliestDate) := by
  intro range fetched hfetched
  have heq := fetched_eq_filter hfetched
  refine ⟨fun kind => ?_, fun kind row hrow => ?_, ?_⟩
  · rw [heq]
    refine ⟨fun row hrow => (hsorted kind).isDate row (List.mem_filter.mp hrow).1, ?_⟩
    exact (hsorted kind).sorted.filter _
  · rw [heq] at hrow
    exact (List.mem_filter.mp hrow).2
  · rw [heq]
    exact hdates.sublist (List.filter_sublist.map _)

/-- A first run begins with the public start date. -/
theorem start_of_rowInput {rows : (kind : ArtifactKind) → List (MetricRow ℕ kind)}
    {earliestDate : String} (plan : Plan (rowInput rows earliestDate) none) :
    plan.range.start = earliestDate := by
  obtain ⟨-, -, hcases⟩ := resolvePublishRange_eq_ok rfl rfl plan.range_eq
  rcases hcases with ⟨hpublic, -⟩ | ⟨old, _, _, hold, -⟩
  · exact hpublic
  · cases hold

/-- A first run begins in time if the months of the year that it begins in are counted from it. -/
theorem runBeginsInTime_rowInput {rows : (kind : ArtifactKind) → List (MetricRow ℕ kind)}
    {earliestDate : String} (hfirst : firstMonth earliestDate ≤ monthOf (dayOf earliestDate)) :
    RunBeginsInTime (rowInput rows earliestDate) none := by
  intro plan
  have hearliest : earliestPublished plan = earliestDate := by
    show maxDate earliestDate (minDate plan.range.start plan.range.start) = earliestDate
    rw [start_of_rowInput plan, maxDate_eq_max, minDate_eq_min, min_self, max_self]
  refine Or.inr ?_
  rw [hearliest, start_of_rowInput plan, maxDate_eq_max, max_self]
  exact ⟨hfirst, hfirst⟩

/-- The first run over an empty store. -/
def rowRun (rows : (kind : ArtifactKind) → List (MetricRow ℕ kind)) (earliestDate : String) :
    Option (Except PublishError PublishResult) × Objects (MetricRow ℕ) :=
  playRun plainRows "first" (rowInput rows earliestDate) (List.replicate 20 .done) ∅

theorem runs_rowRun (rows : (kind : ArtifactKind) → List (MetricRow ℕ kind))
    (earliestDate : String) :
    Runs (Performs plainRows) (publishMetricsArtifacts plainRows "first"
      (rowInput rows earliestDate)) ∅ (rowRun rows earliestDate).1 (rowRun rows earliestDate).2 :=
  runs_playRun "first" _

/-- The last three months of a year, with two days in one of them and with records of two chains. -/
def quarterRows : (kind : ArtifactKind) → List (MetricRow ℕ kind)
  | .metrics => ["1999-10-30", "1999-11-15", "1999-11-16", "1999-12-31"].map (fun date =>
      { januaryMetric with date := date })
  | .treasuryAssets =>
      [{ januaryAsset 70 .ethereum 1 with date := "1999-10-30" },
        { januaryAsset 70 .ethereum 2 with date := "1999-11-16" },
        { januaryAsset 90 .arbitrum 3 with date := "1999-11-16" },
        { januaryAsset 69 .ethereum 4 with date := "1999-12-31" }]
  | .ohmSupply => []

theorem sortedDates_quarterRows (kind : ArtifactKind) : SortedDates (quarterRows kind) := by
  have hisDate : ∀ date ∈ ["1999-10-30", "1999-11-15", "1999-11-16", "1999-12-31"], IsDate date := by
    simp only [List.forall_mem_cons, List.not_mem_nil, false_imp_iff, implies_true, and_true]
    exact ⟨⟨⟨1999, 10, 30⟩, by rfl⟩, ⟨⟨1999, 11, 15⟩, by rfl⟩, ⟨⟨1999, 11, 16⟩, by rfl⟩,
      ⟨⟨1999, 12, 31⟩, by rfl⟩⟩
  have hdates : ∀ row ∈ quarterRows kind,
      Dated.date row ∈ ["1999-10-30", "1999-11-15", "1999-11-16", "1999-12-31"] := by
    cases kind <;> decide +kernel
  refine ⟨fun row hrow => hisDate _ (hdates row hrow), ?_⟩
  cases kind <;> decide +kernel

/-- The dates and values of the rows that are read for a range. -/
def servedRows (objects : Objects (MetricRow ℕ)) (range : DateRange) :
    Option (List String × List ℕ) :=
  match storedManifest objects with
  | none => none
  | some manifest =>
      match (readArtifactRows manifest range .metrics).eval (answers plainRows objects),
        (readArtifactRows manifest range .treasuryAssets).eval (answers plainRows objects) with
      | .ok metrics, .ok assets =>
          some (metrics.map Dated.date, assets.map (fun asset : TreasuryAsset ℕ => asset.value))
      | _, _ => none

theorem servesBack_quarter : ∃ (result : PublishResult) (range : DateRange),
    result.range = some range ∧
      servedRows (rowRun quarterRows "1999-10-30").2 ⟨"1999-11-01", "1999-12-31", 61⟩ =
        some (["1999-11-15", "1999-11-16", "1999-12-31"], [2, 3, 4]) ∧
      ServesBack plainRows (rowSource quarterRows "1999-10-30") range
        (rowRun quarterRows "1999-10-30").2 := by
  have hcheck : completes (rowRun quarterRows "1999-10-30").1 = true ∧
      servedRows (rowRun quarterRows "1999-10-30").2 ⟨"1999-11-01", "1999-12-31", 61⟩ =
        some (["1999-11-15", "1999-11-16", "1999-12-31"], [2, 3, 4]) := by
    decide +kernel
  obtain ⟨result, hout, hskipped⟩ := exists_of_completes hcheck.1
  have hrun := runs_rowRun quarterRows "1999-10-30"
  rw [hout] at hrun
  obtain ⟨range, hrange, hserves⟩ := servesBack_of_beginsInTime hrun hskipped
    (answersSorted_rowInput sortedDates_quarterRows (by decide) "1999-10-30")
    (runBeginsInTime_rowInput (by decide))
  exact ⟨result, range, hrange, hcheck.2, hserves⟩

/-! ### A publication from the year 99 on -/

/-- The metric of one date, and no records. -/
def earlyRows : (kind : ArtifactKind) → List (MetricRow ℕ kind)
  | .metrics => [buildEmptyDailyMetric "0099-12-31" false 0]
  | .treasuryAssets | .ohmSupply => []

theorem isDate_0099 : IsDate "0099-12-31" := ⟨⟨99, 12, 31⟩, by rfl⟩

theorem sortedDates_earlyRows (kind : ArtifactKind) : SortedDates (earlyRows kind) := by
  cases kind with
  | metrics =>
      refine ⟨fun metric hmem => ?_, List.pairwise_singleton _ _⟩
      rw [List.mem_singleton.mp hmem]
      exact isDate_0099
  | treasuryAssets => exact ⟨fun _ hmem => absurd hmem List.not_mem_nil, List.Pairwise.nil⟩
  | ohmSupply => exact ⟨fun _ hmem => absurd hmem List.not_mem_nil, List.Pairwise.nil⟩

def earlyRun : Option (Except PublishError PublishResult) × Objects (MetricRow ℕ) :=
  rowRun earlyRows "0099-12-31"

/-- The range of a run that has published. -/
def publishedRange (out : Option (Except PublishError PublishResult)) : Option (String × String) :=
  match out with
  | some (.ok result) => result.range.map (fun range => (range.start, range.stop))
  | _ => none

/-- The metric of the first date of the range is in no shard. -/
theorem early_metric_not_served : ∃ objects input runId result t,
    Runs (Performs plainRows) (publishMetricsArtifacts plainRows runId input) objects
      (some (.ok result)) t ∧ result.skipped = false ∧ AnswersSorted input ∧
      ∀ range, result.range = some range → ¬ ServesBack plainRows input.source range t := by
  have hcheck : completes earlyRun.1 = true ∧
      publishedRange earlyRun.1 = some ("0099-12-31", "1999-12-31") ∧
      (storedManifest earlyRun.2).map
        (fun manifest => (manifest.earliestDate, manifest.latestDate)) =
          some ("0099-12-31", "1999-12-31") ∧
      servedRows earlyRun.2 ⟨"0099-12-31", "0099-12-31", 1⟩ = some ([], []) := by
    decide +kernel
  obtain ⟨hcompletes, hrange, hbounds, hserved⟩ := hcheck
  obtain ⟨result, hout, hskipped⟩ := exists_of_completes hcompletes
  have hrun : Runs (Performs plainRows) (publishMetricsArtifacts plainRows "first"
    (rowInput earlyRows "0099-12-31")) ∅ earlyRun.1 earlyRun.2 := runs_rowRun earlyRows _
  rw [hout] at hrun hrange
  refine ⟨∅, rowInput earlyRows "0099-12-31", "first", result, _, hrun, hskipped,
    answersSorted_rowInput sortedDates_earlyRows (by decide) _, ?_⟩
  rintro range hresult ⟨manifest, rows, hmanifest, hrows, hlossless⟩
  simp only [publishedRange, hresult, Option.map_some] at hrange
  obtain ⟨hstart, hstop⟩ := Prod.mk.inj (Option.some.inj hrange)
  rw [hmanifest] at hbounds
  obtain ⟨hearliest, hlatest⟩ := Prod.mk.inj (Option.some.inj hbounds)
  have hstored := (hlossless ⟨"0099-12-31", "0099-12-31", 1⟩
    ⟨covers_of_dates isDate_0099 isDate_0099 (le_refl _), hstart.le, by rw [hstop]; decide,
      hearliest.le, by rw [hlatest]; decide⟩).stored
  simp only [servedRows, hmanifest, hstored .metrics, hstored .treasuryAssets, Option.some.injEq,
    Prod.mk.injEq, List.map_eq_nil_iff] at hserved
  have hmetric : (buildEmptyDailyMetric "0099-12-31" false 0 : DailyMetric ℕ) ∈ rows .metrics := by
    rw [fetched_eq_filter hrows]
    refine List.mem_filter.mpr ⟨List.mem_singleton_self _, ?_⟩
    have hin : isInRange "0099-12-31" range = true := by
      unfold isInRange
      rw [hstart, hstop]
      decide
    exact hin
  have hshown : (buildEmptyDailyMetric "0099-12-31" false 0 : DailyMetric ℕ) ∈
      @List.filter (MetricRow ℕ .metrics) (fun row => isInRange (Dated.date row)
        ⟨"0099-12-31", "0099-12-31", 1⟩) (rows .metrics) :=
    List.mem_filter.mpr ⟨hmetric, by decide⟩
  rw [hserved.1] at hshown
  exact absurd hshown List.not_mem_nil

end OlympusMetrics.Api
