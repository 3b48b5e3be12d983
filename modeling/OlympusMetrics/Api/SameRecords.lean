import OlympusMetrics.Api.Pagination
import OlympusMetrics.Api.RangeReads

/-!
The records of the range endpoints, of the metrics endpoint and of the legacy
operations are the same.

The metrics endpoint groups the rows of a date by chain, and the others filter
all rows of the range; both keep the rows at the blocks of the metric that comes
last for a date.
-/

namespace OlympusMetrics.Api

open Publisher SortedRows

variable {N : Type}

/-- At the keys of the shards there are rows with dates, or there is nothing. -/
def ShardContents (objects : Objects (MetricRow N)) (manifest : Manifest) : Prop :=
  ∀ kind, ∀ month < 120000, ∀ value,
    objects.lookup (artifactKeyForMonth manifest kind (monthKey month)) = some value →
      ∃ rows : List (MetricRow N kind), value = .shard kind rows ∧
        ∀ row ∈ rows, IsDate (Dated.date row)

/-- Whether a row is of a date and a chain. -/
def isOn {kind : ArtifactKind} (blockchain : MetricRow N kind → String) (date : String)
    (chain : ChainId) (row : MetricRow N kind) : Bool :=
  Dated.date row == date && blockchain row == chainName chain

/-- The records of the metrics are those that are listed for their dates and chains. -/
structure SameRecords (metrics : List (DailyMetric N)) (assets : List (TreasuryAsset N))
    (supplies : List (OhmSupply N)) : Prop where
  attached : ∀ metric ∈ metrics, ∃ records, metric.records = some records ∧ ∀ chain,
    records.treasuryMarketValueRecords chain =
        assets.filter (@isOn N .treasuryAssets TreasuryAsset.blockchain metric.date chain) ∧
      records.treasuryLiquidBackingRecords chain =
        (records.treasuryMarketValueRecords chain).filter (·.isLiquid) ∧
      records.ohmTotalSupplyRecords chain =
        supplies.filter (@isOn N .ohmSupply OhmSupply.blockchain metric.date chain) ∧
      records.ohmCirculatingSupplyRecords chain = records.ohmTotalSupplyRecords chain ∧
      records.ohmFloatingSupplyRecords chain = records.ohmTotalSupplyRecords chain ∧
      records.ohmBackedSupplyRecords chain = records.ohmTotalSupplyRecords chain
  assets_on : ∀ asset ∈ assets, ∃ metric ∈ metrics, ∃ chain,
    @isOn N .treasuryAssets TreasuryAsset.blockchain metric.date chain asset = true
  supplies_on : ∀ supply ∈ supplies, ∃ metric ∈ metrics, ∃ chain,
    @isOn N .ohmSupply OhmSupply.blockchain metric.date chain supply = true

/-! ### Chains and dates -/

theorem chainOfName_eq_some_iff {name : String} {chain : ChainId} :
    chainOfName name = some chain ↔ name = chainName chain := by
  constructor
  · intro h
    exact (beq_iff_eq.mp (List.find?_some (p := fun chain => chainName chain == name) h)).symm
  · rintro rfl
    cases chain <;> decide

theorem date_of_metricsByDate {metrics : List (DailyMetric N)} {date : String}
    {metric : DailyMetric N} (h : metricsByDate metrics date = some metric) :
    metric.date = date := by
  unfold metricsByDate at h
  obtain ⟨stored, hstored, rfl⟩ := Option.map_eq_some_iff.mp h
  exact beq_iff_eq.mp (List.mem_filter.mp (List.mem_of_getLast? hstored)).2

section

variable [Zero N] [DecidableEq N]

/-- The selected rows of a date and a chain. -/
theorem filter_selectRecords {kind : ArtifactKind} {metrics : List (DailyMetric N)}
    (block : MetricRow N kind → N) (blockchain : MetricRow N kind → String)
    (records : List (MetricRow N kind)) (date : String) (chain : ChainId) :
    (selectRecords metrics block blockchain records).filter (isOn blockchain date chain) =
      match metricsByDate metrics date with
      | none => []
      | some metric =>
          ((records.filter (fun record => Dated.date record == date)).filter (fun record =>
            isSelectedMetricBlock metric (block record) (blockchain record))).filter
              (fun record => chainOfName (blockchain record) == some chain) := by
  have hchain (record : MetricRow N kind) :
      (blockchain record == chainName chain) = (chainOfName (blockchain record) == some chain) := by
    refine Bool.eq_iff_iff.mpr ?_
    rw [beq_iff_eq, beq_iff_eq, chainOfName_eq_some_iff]
  unfold selectRecords isOn
  rw [List.filter_filter]
  cases hmetric : metricsByDate metrics date with
  | none =>
      refine List.filter_eq_nil_iff.mpr (fun record _ hrecord => ?_)
      simp only [Bool.and_eq_true, beq_iff_eq] at hrecord
      obtain ⟨⟨hdate, -⟩, hselected⟩ := hrecord
      rw [hdate, hmetric] at hselected
      exact nomatch hselected
  | some metric =>
      simp only [List.filter_filter]
      refine List.filter_congr (fun record _ => ?_)
      rw [hchain]
      cases hdate : Dated.date record == date with
      | false => simp
      | true =>
          rw [beq_iff_eq.mp hdate, hmetric]
          simp

/-- A selected row is of a date and a chain. -/
theorem mem_selectRecords {kind : ArtifactKind} {metrics : List (DailyMetric N)}
    {block : MetricRow N kind → N} {blockchain : MetricRow N kind → String}
    {records : List (MetricRow N kind)} {record : MetricRow N kind}
    (h : record ∈ selectRecords metrics block blockchain records) :
    record ∈ records ∧ ∃ chain, isOn blockchain (Dated.date record) chain record = true := by
  obtain ⟨hmem, hselected⟩ := List.mem_filter.mp h
  refine ⟨hmem, ?_⟩
  cases hmetric : metricsByDate metrics (Dated.date record) with
  | none =>
      rw [hmetric] at hselected
      exact nomatch hselected
  | some metric =>
      rw [hmetric] at hselected
      unfold isSelectedMetricBlock at hselected
      cases hchain : chainOfName (blockchain record) with
      | none =>
          rw [hchain] at hselected
          exact nomatch hselected
      | some chain =>
          refine ⟨chain, ?_⟩
          unfold isOn
          rw [chainOfName_eq_some_iff.mp hchain]
          simp

variable [Add N]

/-! ### Attached records -/

theorem date_sentMetric {includeRecords : Bool} {generatedAt : ℕ} {date : String}
    {metrics : List (DailyMetric N)} {treasuryAssets : List (TreasuryAsset N)}
    {ohmSupply : List (OhmSupply N)} :
    (sentMetric includeRecords generatedAt date (metricsByDate metrics date) treasuryAssets
      ohmSupply).date = date := by
  cases hmetric : metricsByDate metrics date with
  | none => rfl
  | some metric =>
      rw [← date_of_metricsByDate hmetric]
      cases includeRecords <;> rfl

/-- The metric of a date carries the rows that the endpoints of the records select. -/
theorem records_sentMetric (rows : (kind : ArtifactKind) → List (MetricRow N kind))
    (generatedAt : ℕ) (date : String) :
    ∃ records, (sentMetric true generatedAt date (metricsByDate (rows .metrics) date)
        ((rows .treasuryAssets).filter (fun asset : TreasuryAsset N => asset.date == date))
        ((rows .ohmSupply).filter (fun supply : OhmSupply N => supply.date == date))).records =
          some records ∧ ∀ chain,
      records.treasuryMarketValueRecords chain = (sentTreasuryAssets rows).filter
          (@isOn N .treasuryAssets TreasuryAsset.blockchain date chain) ∧
        records.treasuryLiquidBackingRecords chain =
          (records.treasuryMarketValueRecords chain).filter (·.isLiquid) ∧
        records.ohmTotalSupplyRecords chain = (sentOhmSupply rows).filter
          (@isOn N .ohmSupply OhmSupply.blockchain date chain) ∧
        records.ohmCirculatingSupplyRecords chain = records.ohmTotalSupplyRecords chain ∧
        records.ohmFloatingSupplyRecords chain = records.ohmTotalSupplyRecords chain ∧
        records.ohmBackedSupplyRecords chain = records.ohmTotalSupplyRecords chain := by
  have hassets := @filter_selectRecords N _ _ .treasuryAssets (rows .metrics) TreasuryAsset.block
    TreasuryAsset.blockchain (rows .treasuryAssets) date
  have hsupplies := @filter_selectRecords N _ _ .ohmSupply (rows .metrics) OhmSupply.block
    OhmSupply.blockchain (rows .ohmSupply) date
  cases hmetric : metricsByDate (rows .metrics) date with
  | none =>
      rw [hmetric] at hassets hsupplies
      refine ⟨_, rfl, fun chain => ⟨(hassets chain).symm, rfl, (hsupplies chain).symm, rfl, rfl, rfl⟩⟩
  | some metric =>
      rw [hmetric] at hassets hsupplies
      refine ⟨_, rfl, fun chain => ⟨(hassets chain).symm, ?_, (hsupplies chain).symm, rfl, rfl, rfl⟩⟩
      exact List.filter_comm _ _ _

/-- What is sent for the rows of a range of dates. -/
theorem sameRecords_sent {rows : (kind : ArtifactKind) → List (MetricRow N kind)}
    {dates : List String} (hdates : ∀ kind, ∀ row ∈ rows kind, Dated.date row ∈ dates)
    (generatedAt : ℕ) :
    SameRecords (sentMetrics rows dates true generatedAt) (sentTreasuryAssets rows)
      (sentOhmSupply rows) := by
  have hmetric (date : String) (hdate : date ∈ dates) :
      ∃ metric ∈ sentMetrics rows dates true generatedAt, metric.date = date :=
    ⟨_, List.mem_map_of_mem hdate, date_sentMetric⟩
  refine ⟨?_, ?_, ?_⟩
  · intro metric hmem
    obtain ⟨date, -, hsent⟩ := List.mem_map.mp hmem
    have hdate : metric.date = date := hsent ▸ date_sentMetric
    rw [hdate, ← hsent]
    exact records_sentMetric rows generatedAt date
  · intro asset hasset
    obtain ⟨hmem, chain, hon⟩ := mem_selectRecords hasset
    obtain ⟨metric, hmetric, hdate⟩ := hmetric _ (hdates .treasuryAssets asset hmem)
    exact ⟨metric, hmetric, chain, hdate ▸ hon⟩
  · intro supply hsupply
    obtain ⟨hmem, chain, hon⟩ := mem_selectRecords hsupply
    obtain ⟨metric, hmetric, hdate⟩ := hmetric _ (hdates .ohmSupply supply hmem)
    exact ⟨metric, hmetric, chain, hdate ▸ hon⟩

end

/-! ### Contents of shards -/

section

variable {json : Serialization (MetricRow N)} {objects : Objects (MetricRow N)}
  {manifest : Manifest} {range : DateRange} {first last : ℕ}

theorem Publication.shardContents (h : Publication objects manifest) :
    ShardContents objects manifest := by
  intro kind month hmonth value hvalue
  obtain ⟨rows, rfl, hrows⟩ := h.shard kind month hmonth value hvalue
  exact ⟨rows, rfl, hrows.isDate⟩

theorem ShardContents.shardRead (h : ShardContents objects manifest) (kind : ArtifactKind)
    {month : ℕ} (hmonth : month < 120000) :
    ∃ rows, shardRead (answers json objects) manifest kind (monthKey month) = .ok rows ∧
      ∀ row ∈ rows, IsDate (Dated.date row) := by
  unfold Api.shardRead
  cases hlookup : objects.lookup (artifactKeyForMonth manifest kind (monthKey month)) with
  | none =>
      refine ⟨[], ?_, by simp⟩
      simp only [answers, memoryStore, hlookup]
      rfl
  | some value =>
      obtain ⟨rows, rfl, hrows⟩ := h kind month hmonth value hlookup
      refine ⟨rows, ?_, hrows⟩
      simp only [answers, memoryStore, hlookup]
      simp [rowsOfStored]

/-- The rows of a range are of its dates. -/
theorem ShardContents.rangeRead (h : ShardContents objects manifest)
    (hrange : Covers range first last) (kind : ArtifactKind) :
    ∃ rows, rangeRead (answers json objects) manifest range kind = .ok rows ∧
      ∀ row ∈ rows, Dated.date row ∈ (between first last).map dateText := by
  have hmonth (month : ℕ) (hmem : month ∈ between (utcMonth (ofDayNumber first))
      (utcMonth (ofDayNumber last))) : month < 120000 :=
    (mem_between.mp hmem).2.trans_lt (utcMonth_lt hrange.inCalendar_last)
  have hkeys := hrange.monthKeysForRange
  generalize between (utcMonth (ofDayNumber first)) (utcMonth (ofDayNumber last)) = months
    at hmonth hkeys
  have hread (month : ℕ) : ∃ rows : List (MetricRow N kind), month ∈ months →
      Api.shardRead (answers json objects) manifest kind (monthKey month) = .ok rows ∧
        ∀ row ∈ rows, IsDate (Dated.date row) := by
    by_cases hmem : month ∈ months
    · obtain ⟨rows, hrows⟩ := @ShardContents.shardRead _ json _ _ h kind month (hmonth month hmem)
      exact ⟨rows, fun _ => hrows⟩
    · exact ⟨[], fun hmem' => absurd hmem' hmem⟩
  choose rows hrows using hread
  refine ⟨(months.map rows).flatten.filter (fun row => isInRange (Dated.date row) range), ?_, ?_⟩
  · unfold Api.rangeRead
    rw [hkeys, orError_ok, Process.except_ok_bind,
      Client.mapM_map_eq_ok (fun month hmem => (hrows month hmem).1)]
    rfl
  · intro row hrow
    obtain ⟨hrow, hin⟩ := List.mem_filter.mp hrow
    obtain ⟨part, hpart, hrow⟩ := List.mem_flatten.mp hrow
    obtain ⟨month, hmem, rfl⟩ := List.mem_map.mp hpart
    have hdate := (hrows month hmem).2 row hrow
    rw [hrange.isInRange hdate] at hin
    simp only [Bool.and_eq_true, decide_eq_true_eq] at hin
    exact List.mem_map.mpr ⟨_, mem_between.mpr hin, hdate.dateText_dayOf⟩

end

/-! ### Responses -/

section

variable [Zero N] [DecidableEq N] [Add N] [Div N]

/-- A request is answered with a body, however its reads take turns. -/
def Sends (answer : StoreAnswer N) (config : MetricsApiConfig) (request : HttpRequest)
    (body : ResponseBody N) : Prop :=
  ∀ turns, (handleMetricsApiRequest turns config request).eval answer =
    .ok (some { status := 200, body := body })

/-- The parameters of a range. -/
def rangeParams (start : QueryValue) (stop : Option QueryValue) : List (String × QueryValue) :=
  ("start", start) :: stop.toList.map (fun stop => ("end", stop))

@[simp] theorem lookup_start_rangeParams (start : QueryValue) (stop : Option QueryValue) :
    (rangeParams start stop).lookup "start" = some start := by
  simp [rangeParams]

@[simp] theorem lookup_end_rangeParams (start : QueryValue) (stop : Option QueryValue) :
    (rangeParams start stop).lookup "end" = stop := by
  cases stop with
  | none => rfl
  | some stop => simp [rangeParams, List.lookup_cons]

theorem keys_rangeParams (start : QueryValue) (stop : Option QueryValue) :
    (rangeParams start stop).map Prod.fst = ["start"] ∨
      (rangeParams start stop).map Prod.fst = ["start", "end"] := by
  cases stop with
  | none => exact Or.inl rfl
  | some stop => exact Or.inr rfl

/-- What a response tells about its range. -/
def rangeMetadata (config : MetricsApiConfig) (manifest : Manifest) (range : DateRange) : ApiMeta where
  generatedAt := config.generatedAt.getD manifest.generatedAt
  earliestDate := manifest.earliestDate
  latestDate := manifest.latestDate
  range := some { range := range, maxDays := config.maxRangeDays }

variable {answer : StoreAnswer N} {config : MetricsApiConfig} {manifest : Manifest}
  {range : DateRange} {rows : (kind : ArtifactKind) → List (MetricRow N kind)} {dates : List String}
  {start : QueryValue} {stop : Option QueryValue}

theorem sends_daily {pathname : String} {searchParams : List (String × QueryValue)}
    (endpoint : V2Endpoint)
    (hvalid : validateQueryParams { pathname := pathname, searchParams := searchParams } = none)
    (hpath : ∀ turns, handlePath turns config
      { pathname := pathname, searchParams := searchParams } =
        (handleDailyRequest turns config { pathname := pathname, searchParams := searchParams }
          endpoint : PublisherProcess (MetricRow N) _))
    (hstart : searchParams.lookup "start" = some start)
    (hstop : searchParams.lookup "end" = stop)
    (hmanifest : FindsManifest answer config manifest)
    (hrange : resolveDateRange start.text (stop.map (·.text)) manifest.latestDate
      config.maxRangeDays true = .ok range)
    (h : Reads answer manifest range rows) (hdates : dateKeysForRange range = .ok dates) :
    Sends answer config (getRequest pathname searchParams)
      (.daily endpoint
        (sentRows rows dates (config.generatedAt.getD manifest.generatedAt) endpoint)
        (rangeMetadata config manifest range)) := by
  intro turns
  refine eval_getRequest hvalid ?_
  rw [hpath]
  unfold handleDailyRequest Url.dailyRequest Url.get
  have hresolve (request : V2Request) (hrequestStart : request.start = some start.text)
      (hrequestStop : request.stop = stop.map (·.text)) :
      resolveV2Range request config manifest = .ok range := by
    unfold resolveV2Range
    rw [hrequestStart, hrequestStop]
    exact hrange
  rw [hstart, hstop, Process.eval_bind,
    eval_handleV2Request_of_reads hmanifest (hresolve _ rfl rfl) h hdates]
  rfl

theorem sends_metricsDaily (hmanifest : FindsManifest answer config manifest)
    (hrange : resolveDateRange start.text (stop.map (·.text)) manifest.latestDate
      config.maxRangeDays true = .ok range)
    (h : Reads answer manifest range rows) (hdates : dateKeysForRange range = .ok dates)
    {includeRecords : QueryValue} (hinclude : includeRecords.text = "true") :
    Sends answer config
      (getRequest "/v2/metrics/daily" (("includeRecords", includeRecords) :: rangeParams start stop))
      (.daily (.metricsDaily true)
        (sentMetrics rows dates true (config.generatedAt.getD manifest.generatedAt))
        (rangeMetadata config manifest range)) := by
  have hsupported : supportedQueryParamsForPath "/v2/metrics/daily" =
      some ["start", "end", "includeRecords"] := by decide
  refine sends_daily (.metricsDaily true) ?_ (fun turns => ?_) ?_ ?_ hmanifest hrange h hdates
  · rcases keys_rangeParams start stop with hkeys | hkeys
    · exact validateQueryParams_eq_none hsupported (by simp [hkeys]) (by simp [hkeys])
    · exact validateQueryParams_eq_none hsupported (by simp [hkeys]) (by simp [hkeys])
  · simp [handlePath, Url.get, hinclude]
  · simp [List.lookup_cons]
  · simp [List.lookup_cons]

theorem validateQueryParams_rangeParams {pathname : String}
    (hsupported : supportedQueryParamsForPath pathname = some ["start", "end"])
    (start : QueryValue) (stop : Option QueryValue) :
    validateQueryParams { pathname := pathname, searchParams := rangeParams start stop } = none := by
  rcases keys_rangeParams start stop with hkeys | hkeys
  · exact validateQueryParams_eq_none hsupported (by simp [hkeys]) (by simp [hkeys])
  · exact validateQueryParams_eq_none hsupported (by simp [hkeys]) (by simp [hkeys])

theorem sends_treasuryAssetsDaily (hmanifest : FindsManifest answer config manifest)
    (hrange : resolveDateRange start.text (stop.map (·.text)) manifest.latestDate
      config.maxRangeDays true = .ok range)
    (h : Reads answer manifest range rows) (hdates : dateKeysForRange range = .ok dates) :
    Sends answer config (getRequest "/v2/treasury-assets/daily" (rangeParams start stop))
      (.daily .treasuryAssetsDaily (sentTreasuryAssets rows)
        (rangeMetadata config manifest range)) :=
  sends_daily .treasuryAssetsDaily (validateQueryParams_rangeParams (by decide) start stop)
    (fun turns => by simp [handlePath]) (lookup_start_rangeParams start stop)
    (lookup_end_rangeParams start stop) hmanifest hrange h hdates

theorem sends_ohmSupplyDaily (hmanifest : FindsManifest answer config manifest)
    (hrange : resolveDateRange start.text (stop.map (·.text)) manifest.latestDate
      config.maxRangeDays true = .ok range)
    (h : Reads answer manifest range rows) (hdates : dateKeysForRange range = .ok dates) :
    Sends answer config (getRequest "/v2/ohm-supply/daily" (rangeParams start stop))
      (.daily .ohmSupplyDaily (sentOhmSupply rows) (rangeMetadata config manifest range)) :=
  sends_daily .ohmSupplyDaily (validateQueryParams_rangeParams (by decide) start stop)
    (fun turns => by simp [handlePath]) (lookup_start_rangeParams start stop)
    (lookup_end_rangeParams start stop) hmanifest hrange h hdates

/-- The parameters of a legacy operation. -/
def legacyParams (wgVariables : Option QueryValue) : List (String × QueryValue) :=
  wgVariables.toList.map (fun value => ("wg_variables", value))

theorem validateQueryParams_legacyParams {pathname : String}
    (hsupported : supportedQueryParamsForPath pathname = some ["wg_variables"])
    (wgVariables : Option QueryValue) :
    validateQueryParams { pathname := pathname, searchParams := legacyParams wgVariables } = none := by
  refine validateQueryParams_eq_none hsupported ?_ ?_
  · cases wgVariables <;> simp [legacyParams]
  · cases wgVariables <;> simp [legacyParams]

theorem get_legacyParams (pathname : String) (wgVariables : Option QueryValue) :
    ({ pathname := pathname, searchParams := legacyParams wgVariables } : Url).get
      "wg_variables" = wgVariables := by
  cases wgVariables with
  | none => rfl
  | some value => simp [Url.get, legacyParams]

theorem supportedQueryParamsForPath_legacy {pathname : String}
    (hpath : pathname ∈ legacyOperationPaths) :
    supportedQueryParamsForPath pathname = some ["wg_variables"] := by
  have hsupported : ∀ path ∈ legacyOperationPaths,
      supportedQueryParamsForPath path = some ["wg_variables"] := by decide
  exact hsupported pathname hpath

theorem sends_legacy {pathname : String} (hpath : pathname ∈ legacyOperationPaths)
    (hhealth : pathname ≠ "/operations/health") {wgVariables : Option QueryValue}
    {vars : LegacyVariables} (hvars : parseLegacyVariables wgVariables = .ok vars)
    (hmanifest : FindsManifest answer config manifest) {data : LegacyData N}
    (hread : ∀ turns, (readLegacyOperation turns pathname vars config manifest).eval answer =
      .ok data) :
    Sends answer config (getRequest pathname (legacyParams wgVariables)) (.legacy data) := by
  intro turns
  refine eval_getRequest (validateQueryParams_legacyParams
    (supportedQueryParamsForPath_legacy hpath) wgVariables) ?_
  rw [handlePath_legacy hpath hhealth,
    eval_handleLegacyRequest ((get_legacyParams pathname wgVariables).symm ▸ hvars) hmanifest]
  exact eval_answerLegacyRequest (hread turns)

/-! ### The same range -/

/-- A range within the bounds is what an operation asks for with its two dates. -/
theorem resolveLegacyRange_eq {pathname : String}
    (hpaginated : startsWith pathname "/operations/latest/" = false ∧
      startsWith pathname "/operations/earliest/" = false)
    {vars : LegacyVariables}
    (hrange : resolveDateRange range.start (some range.stop) manifest.latestDate
      config.maxRangeDays true = .ok range)
    (hstart : legacyStart vars manifest = range.start) (hstop : legacyEnd vars manifest = range.stop)
    (hearliest : manifest.earliestDate ≤ range.start) (hlatest : range.stop ≤ manifest.latestDate) :
    resolveLegacyRange pathname vars manifest config.maxRangeDays = .ok (some range) := by
  have hcovers := covers_of_resolve hrange
  have hle : range.start ≤ range.stop :=
    (hcovers.start_isDate.le_iff hcovers.stop_isDate).mpr hcovers.le
  have hinside : ¬ (range.stop < manifest.earliestDate ∨ manifest.latestDate < range.start) := by
    rintro (h | h)
    · exact absurd (hearliest.trans hle) (not_le.mpr h)
    · exact absurd (hle.trans hlatest) (not_le.mpr h)
  unfold resolveLegacyRange
  simp only [hpaginated.1, hpaginated.2, hstart, hstop, hrange, Process.except_ok_bind, hinside,
    not_lt.mpr hearliest, not_lt.mpr hlatest, if_false]
  rfl

theorem perm_legacyRowsDescending {α : Type} (date : α → String) (rows : List α) :
    (legacyRowsDescending date rows).Perm rows :=
  List.perm_insertionSort _ rows

theorem pairwise_legacyRowsDescending {α : Type} (date : α → String) (rows : List α) :
    (legacyRowsDescending date rows).Pairwise (fun a b => date b ≤ date a) := by
  have : Std.Total (fun a b : α => date b ≤ date a) := ⟨fun a b => le_total (date b) (date a)⟩
  have : IsTrans α (fun a b => date b ≤ date a) := ⟨fun _ _ _ hab hbc => hbc.trans hab⟩
  exact List.pairwise_insertionSort _ rows

/-- The endpoints of the records, that of the metrics and the legacy operations send the same
records for a range. -/
def SendSameRecords (answer : StoreAnswer N) (config : MetricsApiConfig) (manifest : Manifest)
    (start : QueryValue) (stop : Option QueryValue) (includeRecords : QueryValue)
    (range : DateRange) : Prop :=
  ∃ metrics assets supplies metadata,
    Sends answer config
        (getRequest "/v2/metrics/daily" (("includeRecords", includeRecords) :: rangeParams start stop))
        (.daily (.metricsDaily true) metrics metadata) ∧
      Sends answer config (getRequest "/v2/treasury-assets/daily" (rangeParams start stop))
        (.daily .treasuryAssetsDaily assets metadata) ∧
      Sends answer config (getRequest "/v2/ohm-supply/daily" (rangeParams start stop))
        (.daily .ohmSupplyDaily supplies metadata) ∧
      dateKeysForRange range = .ok (List.map DailyMetric.date metrics) ∧
      SameRecords metrics assets supplies ∧
      (manifest.earliestDate ≤ range.start → range.stop ≤ manifest.latestDate →
        ∀ wgVariables vars, parseLegacyVariables wgVariables = .ok vars →
          legacyStart vars manifest = range.start → legacyEnd vars manifest = range.stop →
            ∃ tokenRecords tokenSupplies,
              Sends answer config
                  (getRequest "/operations/paginated/tokenRecords" (legacyParams wgVariables))
                  (.legacy (.tokenRecords tokenRecords)) ∧
                Sends answer config
                  (getRequest "/operations/paginated/tokenSupplies" (legacyParams wgVariables))
                  (.legacy (.tokenSupplies tokenSupplies)) ∧
                tokenRecords.Perm assets ∧ tokenRecords.Pairwise (fun a b => b.date ≤ a.date) ∧
                tokenSupplies.Perm supplies ∧ tokenSupplies.Pairwise (fun a b => b.date ≤ a.date))

/-- Every endpoint sends the same records, whatever rows the shards hold. -/
theorem endpoints_sendSameRecords (json : Serialization (MetricRow N))
    (objects : Objects (MetricRow N)) (config : MetricsApiConfig) (manifest : Manifest)
    (start : QueryValue) (stop : Option QueryValue) (includeRecords : QueryValue)
    (range : DateRange) (hmanifest : FindsManifest (answers json objects) config manifest)
    (hcontents : ShardContents objects manifest) (hinclude : includeRecords.text = "true")
    (hrange : resolveDateRange start.text (stop.map (·.text)) manifest.latestDate
      config.maxRangeDays true = .ok range) :
    SendSameRecords (answers json objects) config manifest start stop includeRecords range := by
  have hcovers := covers_of_resolve hrange
  have hdates := hcovers.dateKeysForRange
  choose rows hreads hrows using
    @ShardContents.rangeRead N json objects manifest range _ _ hcontents hcovers
  have hreads : Reads (answers json objects) manifest range rows := hreads
  obtain ⟨hstart, hstop, -⟩ := resolveDateRange_eq_ok hrange
  have hlegacyRange : resolveDateRange range.start (some range.stop) manifest.latestDate
      config.maxRangeDays true = .ok range := by
    rw [hstart, hstop]
    exact hrange
  refine ⟨_, _, _, _, sends_metricsDaily hmanifest hrange hreads hdates hinclude,
    sends_treasuryAssetsDaily hmanifest hrange hreads hdates,
    sends_ohmSupplyDaily hmanifest hrange hreads hdates, ?_, sameRecords_sent hrows _, ?_⟩
  · rw [hdates]
    refine congrArg Except.ok ?_
    unfold sentMetrics
    rw [List.map_map]
    exact (List.map_id'' (fun date => date_sentMetric) _).symm
  · intro hearliest hlatest wgVariables vars hvars hlegacyStart hlegacyEnd
    have hread (pathname : String) (hpaginated :
        startsWith pathname "/operations/latest/" = false ∧
          startsWith pathname "/operations/earliest/" = false) (turns : List Bool) :=
      eval_readLegacyOperation_of_reads (resolveLegacyRange_eq hpaginated
        hlegacyRange hlegacyStart hlegacyEnd hearliest hlatest) hreads hdates turns
    refine ⟨_, _, sends_legacy (by decide) (by decide) hvars hmanifest
      (hread "/operations/paginated/tokenRecords" (by decide)),
      sends_legacy (by decide) (by decide) hvars hmanifest
      (hread "/operations/paginated/tokenSupplies" (by decide)),
      perm_legacyRowsDescending _ _, pairwise_legacyRowsDescending _ _,
      perm_legacyRowsDescending _ _, pairwise_legacyRowsDescending _ _⟩

end

/-- A date as the value of a parameter. -/
def dateValue (date : String) : QueryValue where
  text := date
  json := .error "Unexpected non-whitespace character after JSON at position 4"
  decodedJson := .error "Unexpected non-whitespace character after JSON at position 4"

/-! ### A store of two months -/

/-- A kind, a month and the rows of its shard. -/
abbrev MonthShard (N : Type) := (kind : ArtifactKind) × String × List (MetricRow N kind)

/-- A store with a manifest and some shards of no deployment. -/
def shardStore (manifest : Manifest) : List (MonthShard N) → Objects (MetricRow N)
  | [] => (∅ : Objects (MetricRow N)).insert manifestKey (.manifest manifest)
  | ⟨kind, month, rows⟩ :: shards =>
      (shardStore manifest shards).insert (stableKey kind month) (.shard kind rows)

theorem lookup_shardStore_manifest (manifest : Manifest) (shards : List (MonthShard N)) :
    (shardStore manifest shards).lookup manifestKey = some (.manifest manifest) := by
  induction shards with
  | nil => exact AList.lookup_insert _
  | cons shard shards ih =>
      rw [shardStore, AList.lookup_insert_ne (Client.stableKey_ne_manifestKey _ _).symm]
      exact ih

theorem mem_of_lookup_shardStore {manifest : Manifest} {shards : List (MonthShard N)}
    {kind : ArtifactKind} {month : String} {value : Artifact (MetricRow N)}
    (h : (shardStore manifest shards).lookup (stableKey kind month) = some value) :
    ∃ rows, (⟨kind, month, rows⟩ : MonthShard N) ∈ shards ∧ value = .shard kind rows := by
  induction shards with
  | nil =>
      rw [shardStore, AList.lookup_insert_ne (Client.stableKey_ne_manifestKey _ _)] at h
      cases h
  | cons shard shards ih =>
      obtain ⟨kind', month', rows⟩ := shard
      rw [shardStore] at h
      by_cases hkey : stableKey kind month = stableKey kind' month'
      · obtain ⟨rfl, rfl⟩ := Client.stableKey_inj hkey
        rw [AList.lookup_insert] at h
        exact ⟨rows, List.mem_cons_self, (Option.some.inj h).symm⟩
      · rw [AList.lookup_insert_ne hkey] at h
        obtain ⟨rows', hmem, hvalue⟩ := ih h
        exact ⟨rows', List.mem_cons_of_mem _ hmem, hvalue⟩

theorem shardContents_shardStore {manifest : Manifest} (hempty : manifest.artifacts = ∅)
    (hdeployment : manifest.indexerDeploymentId = none) {shards : List (MonthShard N)}
    (hdates : ∀ shard ∈ shards, ∀ row ∈ shard.2.2, IsDate (Dated.date row)) :
    ShardContents (shardStore manifest shards) manifest := by
  intro kind month _ value hvalue
  have hkey : artifactKeyForMonth manifest kind (monthKey month) =
      stableKey kind (monthKey month) := by
    simp only [artifactKeyForMonth, hempty, hdeployment]
    rfl
  rw [hkey] at hvalue
  obtain ⟨rows, hmem, rfl⟩ := mem_of_lookup_shardStore hvalue
  exact ⟨rows, rfl, hdates _ hmem⟩

/-- The bounds of the two days. -/
def leapManifest : Manifest :=
  { Client.bareManifest "2024-03-01" with earliestDate := "2024-02-29" }

/-- A metric of Ethereum and Arbitrum, computed at these blocks. -/
def twoChainMetric (date : String) (ethereumBlock arbitrumBlock : ℤ) : DailyMetric ℤ :=
  { buildEmptyDailyMetric date false 0 with
    blocks := fun chain =>
      if chain = .ethereum then ethereumBlock else if chain = .arbitrum then arbitrumBlock else 0
    chainsIndexed := [1, 42161] }

def assetRow (id date : String) (chain : ChainId) (block : ℤ) (isLiquid : Bool) :
    TreasuryAsset ℤ where
  id := id
  balance := 1
  block := block
  blockchain := chainName chain
  category := "Stable"
  date := date
  isBluechip := false
  isLiquid := isLiquid
  multiplier := 1
  rate := 1
  source := "Treasury"
  sourceAddress := ""
  timestamp := 0
  token := "DAI"
  tokenAddress := ""
  value := 1
  valueExcludingOhm := 1

def supplyRow (id date : String) (chain : ChainId) (block : ℤ) : OhmSupply ℤ where
  id := id
  balance := 1
  block := block
  blockchain := chainName chain
  date := date
  pool := none
  poolAddress := none
  source := "Treasury"
  sourceAddress := ""
  supplyBalance := -1
  timestamp := 0
  token := "OHM"
  tokenAddress := ""
  type := "Treasury"

/-- The leap day has two metrics, of which the later counts, and rows of both and of neither; the next
day has a metric for one of its chains. -/
def leapShards : List (MonthShard ℤ) :=
  [⟨.metrics, "2024-02", [twoChainMetric "2024-02-29" 90 900, twoChainMetric "2024-02-29" 100 900]⟩,
    ⟨.metrics, "2024-03", [twoChainMetric "2024-03-01" 200 0]⟩,
    ⟨.treasuryAssets, "2024-02",
      [assetRow "a" "2024-02-29" .ethereum 100 true, assetRow "b" "2024-02-29" .arbitrum 900 true,
        assetRow "c" "2024-02-29" .ethereum 90 true, assetRow "d" "2024-02-29" .ethereum 100 false,
        assetRow "e" "2024-02-28" .ethereum 100 true]⟩,
    ⟨.treasuryAssets, "2024-03",
      [assetRow "f" "2024-03-01" .arbitrum 901 true, assetRow "g" "2024-03-01" .ethereum 200 true]⟩,
    ⟨.ohmSupply, "2024-02",
      [supplyRow "h" "2024-02-29" .arbitrum 900, supplyRow "i" "2024-02-29" .arbitrum 899,
        supplyRow "j" "2024-02-29" .ethereum 100]⟩,
    ⟨.ohmSupply, "2024-03", [supplyRow "k" "2024-03-01" .ethereum 200]⟩]

def leapStore : Objects (MetricRow ℤ) := shardStore leapManifest leapShards

def leapSerialization : Serialization (MetricRow ℤ) where
  sha256 := fun _ => ""
  byteLength := fun _ => 0

theorem findsManifest_leapStore : FindsManifest (answers leapSerialization leapStore)
    { maxRangeDays := some 2 } leapManifest := by
  show (getManifest _ : PublisherProcess (MetricRow ℤ) Manifest).eval _ = _
  unfold getManifest
  rw [Process.eval_bind, eval_getJson, leapStore, lookup_shardStore_manifest]
  rfl

theorem isDate_leapShards (shard : MonthShard ℤ) (hshard : shard ∈ leapShards)
    (row : MetricRow ℤ shard.1) (hrow : row ∈ shard.2.2) : IsDate (Dated.date row) := by
  have hdates : ∀ shard ∈ leapShards, ∀ row ∈ shard.2.2,
      Dated.date row ∈ ["2024-02-28", "2024-02-29", "2024-03-01"] := by
    decide +kernel
  have hdate := hdates shard hshard row hrow
  simp only [List.mem_cons, List.not_mem_nil, or_false] at hdate
  rcases hdate with h | h | h <;> rw [h]
  · exact ⟨⟨2024, 2, 28⟩, by rfl⟩
  · exact ⟨⟨2024, 2, 29⟩, by rfl⟩
  · exact ⟨⟨2024, 3, 1⟩, by rfl⟩

/-- The ids of the rows that are sent for the two days. -/
def sentIds (pathname : String) (searchParams : List (String × QueryValue)) : List String :=
  match (handleMetricsApiRequest [] { maxRangeDays := some 2 }
    (getRequest pathname searchParams)).eval (answers leapSerialization leapStore) with
  | .ok (some { status := _, body := .daily .treasuryAssetsDaily rows _ }) =>
      List.map (fun row : TreasuryAsset ℤ => row.id) rows
  | .ok (some { status := _, body := .daily .ohmSupplyDaily rows _ }) =>
      List.map (fun row : OhmSupply ℤ => row.id) rows
  | .ok (some { status := _, body := .legacy (.tokenRecords rows) }) => rows.map (·.id)
  | _ => []

example :
    sentIds "/v2/treasury-assets/daily" (rangeParams (dateValue "2024-02-29") none) =
        ["a", "b", "d", "g"] ∧
      sentIds "/v2/ohm-supply/daily" (rangeParams (dateValue "2024-02-29") none) =
        ["h", "j", "k"] ∧
      sentIds "/operations/paginated/tokenRecords" [] = ["g", "a", "b", "d"] := by
  decide +kernel

theorem leap_days_sendSameRecords :
    SendSameRecords (answers leapSerialization leapStore) { maxRangeDays := some 2 } leapManifest
      (dateValue "2024-02-29") none
      { text := "true", json := .ok (.bool true), decodedJson := .ok (.bool true) }
      { start := "2024-02-29", stop := "2024-03-01", days := 2 } :=
  endpoints_sendSameRecords leapSerialization leapStore _ leapManifest _ _ _ _
    findsManifest_leapStore (shardContents_shardStore rfl rfl isDate_leapShards) rfl
    (by decide +kernel)

end OlympusMetrics.Api
