import OlympusMetrics.Api.Client
import OlympusMetrics.Api.Reading

/-!
The client's pagination against the server's answer to one request.

The pages of a range show the same days as one request for it, unless `Date.UTC`
hides days from the request that a later page shows.
-/

namespace OlympusMetrics.Api.Client

open Publisher SortedRows

/-! ### The days of the chunks -/

theorem chunksFrom_flatMap (maxDays stop cursor : ℕ) :
    (chunksFrom maxDays stop cursor).flatMap (fun chunk => between chunk.1 chunk.2) =
      between cursor stop := by
  fun_induction chunksFrom maxDays stop cursor with
  | case1 cursor hle chunkEnd ih =>
      rw [List.flatMap_cons, ih, between_append (by omega) (by omega)]
  | case2 cursor hgt => exact (between_eq_nil (Nat.not_le.mp hgt)).symm

/-- The chunks begin on every `maxDays`-th day. -/
theorem mem_chunksFrom {maxDays stop cursor : ℕ} (hmax : 1 ≤ maxDays) {chunk : ℕ × ℕ}
    (h : chunk ∈ chunksFrom maxDays stop cursor) :
    ∃ k, chunk.1 = cursor + k * maxDays ∧ chunk.1 ≤ stop ∧
      chunk.2 = min stop (chunk.1 + (maxDays - 1)) := by
  fun_induction chunksFrom maxDays stop cursor with
  | case1 cursor hle chunkEnd ih =>
      rcases List.mem_cons.mp h with rfl | hrest
      · exact ⟨0, by simp, hle, rfl⟩
      · obtain ⟨k, hfirst, hstop, hend⟩ := ih hrest
        refine ⟨k + 1, ?_, hstop, hend⟩
        have hnext : chunkEnd + 1 = cursor + maxDays := by
          have : 0 ≤ k * maxDays := Nat.zero_le _
          omega
        rw [hfirst, hnext, Nat.succ_mul]
        omega
  | case2 cursor hgt => exact absurd h List.not_mem_nil

/-- The next chunk begins on the day after a chunk. -/
theorem isChain_chunksFrom (maxDays stop cursor : ℕ) :
    (chunksFrom maxDays stop cursor).IsChain (fun chunk next => next.1 = chunk.2 + 1) := by
  fun_induction chunksFrom maxDays stop cursor with
  | case1 cursor hle chunkEnd ih =>
      refine List.isChain_cons.mpr ⟨fun next hnext => ?_, ih⟩
      unfold chunksFrom at hnext
      split at hnext
      · obtain rfl := Option.some.inj hnext
        rfl
      · exact nomatch hnext
  | case2 cursor hgt => exact .nil

theorem pairwise_chunksFrom {maxDays : ℕ} (hmax : 1 ≤ maxDays) (stop cursor : ℕ) :
    (chunksFrom maxDays stop cursor).Pairwise (fun chunk later => chunk.2 < later.1) := by
  fun_induction chunksFrom maxDays stop cursor with
  | case1 cursor hle chunkEnd ih =>
      refine List.pairwise_cons.mpr ⟨fun later hlater => ?_, ih⟩
      obtain ⟨k, hfirst, -⟩ := mem_chunksFrom hmax hlater
      rw [hfirst]
      exact Nat.lt_of_lt_of_le (Nat.lt_succ_self chunkEnd) (Nat.le_add_right _ _)
  | case2 cursor hgt => exact .nil

/-- The day on which the chunk of a day begins. -/
def chunkStart (first maxDays day : ℕ) : ℕ := first + (day - first) / maxDays * maxDays

theorem chunkStart_eq {first maxDays stop day : ℕ} (hmax : 1 ≤ maxDays) {chunk : ℕ × ℕ}
    (h : chunk ∈ chunksFrom maxDays stop first) (hday : day ∈ between chunk.1 chunk.2) :
    chunkStart first maxDays day = chunk.1 := by
  obtain ⟨k, hfirst, -, hlast⟩ := mem_chunksFrom hmax h
  obtain ⟨hge, hle⟩ := mem_between.mp hday
  obtain ⟨r, rfl⟩ : ∃ r, day = first + k * maxDays + r := ⟨day - (first + k * maxDays), by omega⟩
  have hr : r < maxDays := by omega
  have hsub : first + k * maxDays + r - first = r + maxDays * k := by
    rw [Nat.mul_comm maxDays k]
    omega
  unfold chunkStart
  rw [hsub, Nat.add_mul_div_left _ _ (by omega), Nat.div_eq_of_lt hr, Nat.zero_add, hfirst]

/-! ### The months that `Date.UTC` skips -/

/-- Every chunk of a range that begins in a year from 100 on begins in a month that a request for
the whole range reads. -/
def StartsRead (first last maxDays : ℕ) : Prop :=
  ∀ k, first + k * maxDays ≤ last → 100 ≤ (ofDayNumber (first + k * maxDays)).year →
    utcMonth (ofDayNumber first) ≤ monthOf (first + k * maxDays)

theorem readsDay_of_le {first day : ℕ} (hfirst : 47482 ≤ first) (hle : first ≤ day) :
    readsDay first day = true := by
  refine decide_eq_true ?_
  rw [utcMonth_of_le hfirst]
  exact monthOf_mono (by omega) hle

/-- A page shows a day that a request for the whole range does not show only if it begins in a month
that the request does not read. -/
theorem readsDay_eq_of_startsRead {first last maxDays k day : ℕ} (hge : 10957 ≤ first)
    (h : StartsRead first last maxDays) (hstart : first + k * maxDays ≤ day) (hday : day ≤ last)
    (hend : day < first + k * maxDays + maxDays) :
    readsDay first day = readsDay (first + k * maxDays) day := by
  by_cases hfirst : 47482 ≤ first
  · rw [readsDay_of_le hfirst (by omega), readsDay_of_le (by omega) hstart]
  rcases Nat.eq_zero_or_pos k with rfl | hk
  · rw [Nat.zero_mul, Nat.add_zero]
  by_cases hchunk : 47482 ≤ first + k * maxDays
  · rw [readsDay_of_le hchunk hstart]
    have hyear := (year_lt_iff (show 10957 ≤ first + k * maxDays by omega)).not.mpr
      (Nat.not_lt.mpr hchunk)
    exact decide_eq_true ((h k (by omega) (Nat.not_lt.mp hyear)).trans (monthOf_mono (by omega) hstart))
  · -- chunks of a range that begin in the first century end within the second one
    have hmax : maxDays ≤ k * maxDays := Nat.le_mul_of_pos_left maxDays hk
    have hmono := monthOf_mono (show 10957 ≤ day by omega) (show day ≤ 84007 by omega)
    have hlast : monthOf 84007 ≤ 2400 := by decide
    have hutc := utcMonth_of_lt (Nat.not_le.mp hfirst) hge
    have hutc' := utcMonth_of_lt (Nat.not_le.mp hchunk) (show 10957 ≤ first + k * maxDays by omega)
    unfold readsDay
    rw [decide_eq_false (by omega), decide_eq_false (by omega)]

/-! ### Requests against a publication -/

variable {N : Type}

/-- The data that the client gets from a response of the server. -/
def fetchData {Data : Type} (json : Serialization (MetricRow N)) (objects : Objects (MetricRow N))
    (response : PublisherProcess (MetricRow N) (ApiResponse Data)) : Except String Data :=
  match response.eval (answers json objects) with
  | .ok response => responseData response
  | .error _ => .error "fetch failed"

/-- `getCachedBounds`; without a cap the end of a chunk is no valid time. -/
def getCachedBounds (json : Serialization (MetricRow N)) (objects : Objects (MetricRow N))
    (config : MetricsApiConfig) : Except String (String × ℕ) := do
  let bounds ← fetchData json objects (handleBoundsRequest config)
  match bounds.maxRangeDays with
  | some maxRangeDays => .ok (bounds.latestDate, maxRangeDays)
  | none => .error "Invalid time value"

theorem getCachedBounds_eq {json : Serialization (MetricRow N)} {objects : Objects (MetricRow N)}
    {config : MetricsApiConfig} {manifest : Manifest} (h : Serves json objects config manifest)
    {maxRangeDays : ℕ} (hmax : config.maxRangeDays = some maxRangeDays) :
    getCachedBounds json objects config = .ok (manifest.latestDate, maxRangeDays) := by
  unfold getCachedBounds fetchData handleBoundsRequest
  rw [eval_withPublishedManifest h, Process.eval_ret]
  simp only [okResponse, responseData, Process.except_ok_bind, hmax]

variable [Zero N] [Add N] [DecidableEq N]

/-- A range method of the client with pagination; `turns` is how the server reads for each page. -/
def autoPaginated (turns : V2Request → List Bool) (json : Serialization (MetricRow N))
    (objects : Objects (MetricRow N)) (config : MetricsApiConfig) (input : DailyRangeInput) :
    Except String (List (MetricRow N input.endpoint.kind)) :=
  fetchAutoPaginated (getCachedBounds json objects config)
    (fun request => fetchData json objects (handleV2Request (turns request) config request)) input

/-- The same range asked for at once, from a server without a cap. -/
def singleRequest (turns : List Bool) (json : Serialization (MetricRow N))
    (objects : Objects (MetricRow N)) (config : MetricsApiConfig) (input : DailyRangeInput) :
    Except String (List (MetricRow N input.endpoint.kind)) :=
  fetchData json objects (handleV2Request turns { config with maxRangeDays := none }
    { endpoint := input.endpoint, start := some input.start, stop := input.stop })

section

variable {json : Serialization (MetricRow N)} {objects : Objects (MetricRow N)}
  {config : MetricsApiConfig} {manifest : Manifest}

omit [Zero N] [Add N] [DecidableEq N] in
theorem resolveV2Range_eq (endpoint : V2Endpoint) (start : String) (stop : Option String) :
    resolveV2Range ⟨endpoint, some start, stop⟩ config manifest =
      resolveDateRange start stop manifest.latestDate config.maxRangeDays true := rfl

theorem fetchData_request (h : Serves json objects config manifest) {endpoint : V2Endpoint}
    {start : String} {stop : Option String} (hstart : IsDate start)
    (hstop : IsDate (stop.getD manifest.latestDate))
    (hle : dayOf start ≤ dayOf (stop.getD manifest.latestDate))
    (hmax : ∀ maxDays, config.maxRangeDays = some maxDays →
      dayOf (stop.getD manifest.latestDate) + 1 ≤ dayOf start + maxDays) (turns : List Bool) :
    fetchData json objects (handleV2Request turns config ⟨endpoint, some start, stop⟩) =
      .ok (requestData objects manifest (config.generatedAt.getD manifest.generatedAt) endpoint
        (dayOf start) (dayOf (stop.getD manifest.latestDate))) := by
  have hresolve := @resolveV2Range_eq config manifest endpoint start stop
  rw [resolveDateRange_eq hstart hstop hle hmax] at hresolve
  unfold fetchData
  rw [eval_handleV2Request h hresolve (covers_of_dates hstart hstop hle) turns]
  rfl

/-- One request sends every day of the range. -/
theorem singleRequest_eq (h : Serves json objects config manifest) {input : DailyRangeInput}
    (hstart : IsDate input.start) (hstop : IsDate (input.stop.getD manifest.latestDate))
    (hle : dayOf input.start ≤ dayOf (input.stop.getD manifest.latestDate)) (turns : List Bool) :
    singleRequest turns json objects config input =
      .ok (requestData objects manifest (config.generatedAt.getD manifest.generatedAt) input.endpoint
        (dayOf input.start) (dayOf (input.stop.getD manifest.latestDate))) := by
  have huncapped : Serves json objects { config with maxRangeDays := none } manifest :=
    ⟨h.found, h.publication⟩
  exact fetchData_request huncapped hstart hstop hle
    (fun maxDays hnone => by simp at hnone) turns

theorem splitRange_eq {start stop : String} (hstart : IsDate start) (hstop : IsDate stop)
    (hle : dayOf start ≤ dayOf stop) {maxDays : ℕ} (hmax : 1 ≤ maxDays) :
    splitRange start stop maxDays = .ok ((chunksFrom maxDays (dayOf stop) (dayOf start)).map
      (fun chunk => { start := dateText chunk.1, stop := dateText chunk.2 })) := by
  have hstartDay := (ofDayNumber_spec hstart.inCalendar.ge).2
  have hstopDay := (ofDayNumber_spec hstop.inCalendar.ge).2
  unfold splitRange parseDate
  rw [if_neg (Nat.not_lt.mpr hmax), hstart.parseDate_eq, hstop.parseDate_eq,
    Process.except_ok_bind, Process.except_ok_bind, hstartDay, hstopDay,
    if_neg (Nat.not_lt.mpr hle)]
  rfl

theorem inCalendar_chunk {first last maxDays : ℕ} (hfirst : InCalendar first)
    (hlast : InCalendar last) (hmax : 1 ≤ maxDays) {chunk : ℕ × ℕ}
    (h : chunk ∈ chunksFrom maxDays last first) :
    InCalendar chunk.1 ∧ InCalendar chunk.2 ∧ chunk.1 ≤ chunk.2 ∧ chunk.2 + 1 ≤ chunk.1 + maxDays := by
  obtain ⟨k, hstart, hle, hstop⟩ := mem_chunksFrom hmax h
  have hge := hfirst.ge
  have hlastLe := hlast.le
  have hchunk : first ≤ chunk.1 := hstart ▸ Nat.le_add_right _ _
  have hstopLe : chunk.2 ≤ last := hstop ▸ Nat.min_le_left _ _
  have hcap : chunk.2 ≤ chunk.1 + (maxDays - 1) := hstop ▸ Nat.min_le_right _ _
  have horder : chunk.1 ≤ chunk.2 := hstop ▸ Nat.le_min.mpr ⟨hle, Nat.le_add_right _ _⟩
  exact ⟨⟨hge.trans hchunk, hle.trans hlastLe⟩, ⟨hge.trans (hchunk.trans horder), hstopLe.trans hlastLe⟩,
    horder, by omega⟩

theorem fetchData_days (h : Serves json objects config manifest) {first last : ℕ}
    (hfirst : InCalendar first) (hlast : InCalendar last) (hle : first ≤ last)
    (hmax : ∀ maxDays, config.maxRangeDays = some maxDays → last + 1 ≤ first + maxDays)
    (endpoint : V2Endpoint) (turns : List Bool) :
    fetchData json objects (handleV2Request turns config
        ⟨endpoint, some (dateText first), some (dateText last)⟩) =
      .ok (requestData objects manifest (config.generatedAt.getD manifest.generatedAt) endpoint
        first last) := by
  have hstop : (some (dateText last)).getD manifest.latestDate = dateText last := Option.getD_some
  have hrequest := @fetchData_request N _ _ _ json objects config manifest h endpoint
    (dateText first) (some (dateText last)) (isDate_dateText hfirst)
  rw [hstop, dayOf_dateText hfirst, dayOf_dateText hlast] at hrequest
  exact hrequest (isDate_dateText hlast) hle hmax turns

theorem mapM_map_eq_ok {α β γ ε : Type} {f : β → Except ε γ} {k : α → β} {g : α → γ}
    {xs : List α} (h : ∀ x ∈ xs, f (k x) = .ok (g x)) :
    (xs.map k).mapM f = .ok (xs.map g) := by
  induction xs with
  | nil => rfl
  | cons x xs ih =>
      rw [List.map_cons, List.mapM_cons, h x List.mem_cons_self, Process.except_ok_bind,
        ih (fun y hy => h y (List.mem_cons_of_mem x hy))]
      rfl

/-- The pages together: every day of the range, read from the start of its chunk on. -/
theorem autoPaginated_eq (h : Serves json objects config manifest) {maxDays : ℕ}
    (hconfig : config.maxRangeDays = some maxDays) (hmax : 1 ≤ maxDays) {input : DailyRangeInput}
    (hstart : IsDate input.start) (hstop : IsDate (input.stop.getD manifest.latestDate))
    (hle : dayOf input.start ≤ dayOf (input.stop.getD manifest.latestDate))
    (turns : V2Request → List Bool) :
    autoPaginated turns json objects config input =
      .ok ((between (dayOf input.start) (dayOf (input.stop.getD manifest.latestDate))).flatMap
        (fun day => dayData (config.generatedAt.getD manifest.generatedAt) (dateText day)
          (shownRows objects manifest (chunkStart (dayOf input.start) maxDays day) day)
          input.endpoint)) := by
  have hpages : ((chunksFrom maxDays (dayOf (input.stop.getD manifest.latestDate))
      (dayOf input.start)).map (fun chunk : ℕ × ℕ =>
        ({ start := dateText chunk.1, stop := dateText chunk.2 } : Chunk))).mapM
      (fun chunk => fetchData json objects (handleV2Request
        (turns ⟨input.endpoint, some chunk.start, some chunk.stop⟩) config
        ⟨input.endpoint, some chunk.start, some chunk.stop⟩)) =
      .ok ((chunksFrom maxDays (dayOf (input.stop.getD manifest.latestDate))
        (dayOf input.start)).map (fun chunk => requestData objects manifest
          (config.generatedAt.getD manifest.generatedAt) input.endpoint chunk.1 chunk.2)) := by
    refine mapM_map_eq_ok (fun chunk hchunk => ?_)
    obtain ⟨hfirst, hlast, hle, hcap⟩ :=
      inCalendar_chunk hstart.inCalendar hstop.inCalendar hmax hchunk
    have hfits : ∀ cap, config.maxRangeDays = some cap → chunk.2 + 1 ≤ chunk.1 + cap := by
      intro cap hcapped
      obtain rfl := Option.some.inj (hconfig.symm.trans hcapped)
      exact hcap
    dsimp only
    rw [fetchData_days h hfirst hlast hle hfits]
  unfold autoPaginated fetchAutoPaginated
  rw [getCachedBounds_eq h hconfig, Process.except_ok_bind]
  dsimp only
  rw [splitRange_eq hstart hstop hle hmax, Process.except_ok_bind, hpages, Process.except_ok_bind,
    ← List.flatMap_def, ← chunksFrom_flatMap maxDays, List.flatMap_assoc]
  refine congrArg Except.ok (List.flatMap_congr (fun chunk hchunk => ?_))
  refine List.flatMap_congr (fun day hday => ?_)
  rw [chunkStart_eq hmax hchunk hday]

end

/-! ### A publication of one metric -/

theorem deploymentPath_inj {kind kind' : ArtifactKind} {month month' : String}
    (h : deploymentPath kind month = deploymentPath kind' month') : kind = kind' ∧ month = month' := by
  have hsplit (k : ArtifactKind) (m : String) :
      deploymentPath k m = SlashPath.join k.path ("daily/" ++ m ++ ".json") := by
    refine String.toList_injective ?_
    simp [deploymentPath, SlashPath.join]
  rw [hsplit, hsplit] at h
  have hfree : ∀ k : ArtifactKind, SlashPath.SlashFree k.path := by
    intro k
    cases k <;> decide
  obtain ⟨hpath, hrest⟩ := SlashPath.join_inj_first (hfree kind) (hfree kind') h
  refine ⟨?_, ?_⟩
  · cases kind <;> cases kind' <;> first | rfl | exact absurd hpath (by decide)
  · have hlist := congrArg String.toList hrest
    simp only [String.toList_append, List.append_cancel_left_eq, List.append_cancel_right_eq] at hlist
    exact String.toList_injective hlist

theorem stableKey_inj {kind kind' : ArtifactKind} {month month' : String}
    (h : stableKey kind month = stableKey kind' month') : kind = kind' ∧ month = month' := by
  refine deploymentPath_inj (String.toList_injective ?_)
  have hlist := congrArg String.toList h
  simpa only [stableKey, String.toList_append, List.append_cancel_left_eq] using hlist

theorem stableKey_ne_manifestKey (kind : ArtifactKind) (month : String) :
    stableKey kind month ≠ manifestKey := by
  intro h
  have htake := congrArg (fun key => key.toList.take 5) h
  cases kind <;> simp [stableKey, deploymentPath, ArtifactKind.path, manifestKey] at htake

/-- A manifest that lists nothing. -/
def bareManifest (latestDate : String) : Manifest where
  schemaVersion := schemaVersion
  generatedAt := 0
  indexerDeploymentId := none
  indexingProgress := none
  earliestDate := latestDate
  latestDate := latestDate
  artifacts := ∅

@[simp] theorem artifactKeyForMonth_bareManifest (latestDate : String) (kind : ArtifactKind)
    (month : String) :
    artifactKeyForMonth (bareManifest latestDate) kind month = stableKey kind month := by
  simp only [artifactKeyForMonth, bareManifest]
  rfl

/-- A metric of which one chain is indexed. -/
def indexedMetric (N : Type) [Zero N] [Add N] (day : ℕ) : MetricRow N .metrics :=
  { (buildEmptyDailyMetric (dateText day) false 0 : DailyMetric N) with chainsIndexed := [1] }

omit [DecidableEq N] in
theorem date_indexedMetric (day : ℕ) :
    Dated.date (indexedMetric N day) = dateText day := by
  change DailyMetric.date (indexedMetric N day) = dateText day
  simp only [indexedMetric, buildEmptyDailyMetric, buildDailyMetric]

omit [DecidableEq N] in
theorem rowDay_indexedMetric {day : ℕ} (hday : InCalendar day) :
    rowDay (indexedMetric N day) = day := by
  unfold rowDay
  rw [date_indexedMetric, dayOf_dateText hday]

variable (N) in
/-- A store with one metric. -/
def singleMetricStore (latestDate : String) (day : ℕ) : Objects (MetricRow N) :=
  ((∅ : Objects (MetricRow N)).insert manifestKey (.manifest (bareManifest latestDate))).insert
    (stableKey .metrics (monthKey (monthOf day))) (.shard .metrics [indexedMetric N day])

section

variable {latestDate : String} {day : ℕ}

omit [DecidableEq N] in
theorem lookup_singleMetricStore (hday : InCalendar day) (kind : ArtifactKind) {month : ℕ}
    (hmonth : month < 120000) :
    (singleMetricStore N latestDate day).lookup (stableKey kind (monthKey month)) =
      if kind = .metrics ∧ month = monthOf day then some (.shard .metrics [indexedMetric N day])
      else none := by
  unfold singleMetricStore
  split
  · next h =>
      rw [h.1, h.2]
      exact AList.lookup_insert _
  · next h =>
      rw [AList.lookup_insert_ne (fun heq => h ?_), AList.lookup_insert_ne
        (stableKey_ne_manifestKey kind _)]
      · rfl
      · obtain ⟨hkind, hkey⟩ := stableKey_inj heq
        exact ⟨hkind, monthKey_inj hmonth (monthOf_lt hday) hkey⟩

omit [DecidableEq N] in
theorem monthRows_indexedMetric (hday : InCalendar day) :
    MonthRows (monthOf day) [indexedMetric N day] where
  isDate := by
    intro row hrow
    rw [List.mem_singleton.mp hrow, date_indexedMetric]
    exact isDate_dateText hday
  monthOf_eq := by
    intro row hrow
    rw [List.mem_singleton.mp hrow, rowDay_indexedMetric hday]
  sorted := List.pairwise_singleton _ _

omit [DecidableEq N] in
theorem serves_singleMetricStore (json : Serialization (MetricRow N)) (hday : InCalendar day)
    {config : MetricsApiConfig} (hconfig : config.manifest = none) :
    Serves json (singleMetricStore N latestDate day) config (bareManifest latestDate) where
  found := by
    have hlookup : (singleMetricStore N latestDate day).lookup manifestKey =
        some (.manifest (bareManifest latestDate)) := by
      unfold singleMetricStore
      rw [AList.lookup_insert_ne (stableKey_ne_manifestKey _ _).symm]
      exact AList.lookup_insert _
    unfold getManifest
    rw [hconfig]
    dsimp only
    rw [Process.eval_bind, eval_getJson, hlookup]
    rfl
  publication := by
    refine ⟨fun kind month hmonth value hvalue => ?_⟩
    rw [artifactKeyForMonth_bareManifest, lookup_singleMetricStore hday kind hmonth] at hvalue
    split at hvalue
    · next h =>
        obtain ⟨rfl, rfl⟩ := h
        exact ⟨_, (Option.some.inj hvalue).symm, monthRows_indexedMetric hday⟩
    · exact nomatch hvalue

omit [DecidableEq N] in
theorem dayRows_singleMetricStore (hday : InCalendar day) :
    dayRows (singleMetricStore N latestDate day) (bareManifest latestDate) .metrics day =
      [indexedMetric N day] := by
  have hlookup := @lookup_singleMetricStore N _ _ latestDate day hday .metrics _ (monthOf_lt hday)
  rw [if_pos (And.intro rfl rfl), ← artifactKeyForMonth_bareManifest latestDate] at hlookup
  unfold dayRows
  rw [storedRows_eq hlookup]
  refine List.filter_eq_self.mpr (fun row hrow => ?_)
  rw [List.mem_singleton.mp hrow, rowDay_indexedMetric hday, beq_self_eq_true]

/-- The metric is sent only if its day is shown. -/
theorem chainsIndexed_singleMetricStore (hday : InCalendar day) (start generatedAt : ℕ) :
    (sentMetric false generatedAt (dateText day)
      (publishedMetric (shownRows (singleMetricStore N latestDate day) (bareManifest latestDate)
        start day .metrics))
      (shownRows (singleMetricStore N latestDate day) (bareManifest latestDate) start day
        .treasuryAssets)
      (shownRows (singleMetricStore N latestDate day) (bareManifest latestDate) start day
        .ohmSupply)).chainsIndexed = if readsDay start day then [1] else [] := by
  refine (congrArg DailyMetric.chainsIndexed (sentMetric_false [] [])).trans ?_
  unfold shownRows
  split
  · rw [dayRows_singleMetricStore hday]
    rfl
  · rfl

end

/-! ### Transparency -/

/-- The chunks follow each other, do not overlap and have the days of the range, and a server with
the cap accepts each of them. -/
structure SplitsRange (start stop : String) (maxDays : ℕ) (chunks : List Chunk) : Prop where
  contiguous : chunks.IsChain (fun chunk next => dayOf next.start = dayOf chunk.stop + 1)
  disjoint : chunks.Pairwise (fun chunk later => dayOf chunk.stop < dayOf later.start)
  cover : chunks.flatMap (fun chunk => between (dayOf chunk.start) (dayOf chunk.stop)) =
    between (dayOf start) (dayOf stop)
  accepted : ∀ chunk ∈ chunks, ∀ endpoint config manifest, config.maxRangeDays = some maxDays →
    ∃ range, resolveV2Range ⟨endpoint, some chunk.start, some chunk.stop⟩ config manifest = .ok range

/-- Against every publication with a latest date, the pages of a range have the data of one
request. -/
def Transparent (N : Type) [Zero N] [Add N] [DecidableEq N] (start : String) (stop : Option String)
    (latestDate : String) (maxDays : ℕ) : Prop :=
  ∀ (json : Serialization (MetricRow N)) (objects : Objects (MetricRow N))
    (config : MetricsApiConfig) (manifest : Manifest), Serves json objects config manifest →
    config.maxRangeDays = some maxDays → manifest.latestDate = latestDate →
    ∀ (endpoint : V2Endpoint) (turns : V2Request → List Bool) (turn : List Bool), ∃ data,
      singleRequest turn json objects config ⟨endpoint, start, stop⟩ = .ok data ∧
        autoPaginated turns json objects config ⟨endpoint, start, stop⟩ = .ok data

theorem splitsRange_chunksFrom {start stop : String} (hstart : IsDate start) (hstop : IsDate stop)
    {maxDays : ℕ} (hmax : 1 ≤ maxDays) :
    SplitsRange start stop maxDays ((chunksFrom maxDays (dayOf stop) (dayOf start)).map
      (fun chunk => { start := dateText chunk.1, stop := dateText chunk.2 })) := by
  have hdays : ∀ chunk ∈ chunksFrom maxDays (dayOf stop) (dayOf start),
      InCalendar chunk.1 ∧ InCalendar chunk.2 ∧ chunk.1 ≤ chunk.2 ∧ chunk.2 + 1 ≤ chunk.1 + maxDays :=
    fun chunk hchunk => inCalendar_chunk hstart.inCalendar hstop.inCalendar hmax hchunk
  refine ⟨?_, ?_, ?_, ?_⟩
  · refine (List.isChain_map _).mpr ((isChain_chunksFrom _ _ _).imp_of_mem_imp ?_)
    intro chunk next hchunk hnext heq
    dsimp only
    rw [dayOf_dateText (hdays chunk hchunk).2.1, dayOf_dateText (hdays next hnext).1, heq]
  · refine List.pairwise_map.mpr ((pairwise_chunksFrom hmax _ _).imp_of_mem ?_)
    intro chunk later hchunk hlater hlt
    dsimp only
    rw [dayOf_dateText (hdays chunk hchunk).2.1, dayOf_dateText (hdays later hlater).1]
    exact hlt
  · rw [List.flatMap_map, ← chunksFrom_flatMap maxDays]
    refine List.flatMap_congr (fun chunk hchunk => ?_)
    dsimp only
    rw [dayOf_dateText (hdays chunk hchunk).1, dayOf_dateText (hdays chunk hchunk).2.1]
  · intro chunk hmem endpoint config manifest hconfig
    obtain ⟨days, hchunk, rfl⟩ := List.mem_map.mp hmem
    obtain ⟨hfirst, hlast, hle, hcap⟩ := hdays days hchunk
    have hgetD : (some (dateText days.2)).getD manifest.latestDate = dateText days.2 :=
      Option.getD_some
    have hresolve := @resolveDateRange_eq (dateText days.1) manifest.latestDate
      (some (dateText days.2)) config.maxRangeDays true (isDate_dateText hfirst)
    rw [hgetD, dayOf_dateText hfirst, dayOf_dateText hlast] at hresolve
    have hfits : ∀ cap, config.maxRangeDays = some cap → days.2 + 1 ≤ days.1 + cap := by
      intro cap hcapped
      obtain rfl := Option.some.inj (hconfig.symm.trans hcapped)
      exact hcap
    dsimp only
    rw [resolveV2Range_eq]
    exact ⟨_, hresolve (isDate_dateText hlast) hle hfits⟩

section

variable {start latestDate : String} {stop : Option String} {maxDays : ℕ}

theorem transparent_of_startsRead (hstart : IsDate start) (hstop : IsDate (stop.getD latestDate))
    (hle : dayOf start ≤ dayOf (stop.getD latestDate)) (hmax : 1 ≤ maxDays)
    (h : StartsRead (dayOf start) (dayOf (stop.getD latestDate)) maxDays) :
    Transparent N start stop latestDate maxDays := by
  rintro json objects config manifest hserves hconfig rfl endpoint turns turn
  have hinput : IsDate (DailyRangeInput.start ⟨endpoint, start, stop⟩) := hstart
  refine ⟨_, singleRequest_eq hserves hinput hstop hle turn,
    (autoPaginated_eq hserves hconfig hmax hinput hstop hle turns).trans ?_⟩
  refine congrArg Except.ok (List.flatMap_congr (fun day hday => ?_))
  dsimp only at hday ⊢
  obtain ⟨hge, hlast⟩ := mem_between.mp hday
  have hsame : readsDay (dayOf start) day = readsDay (chunkStart (dayOf start) maxDays day) day := by
    have hdiv := Nat.div_add_mod' (day - dayOf start) maxDays
    have hmod := Nat.mod_lt (day - dayOf start) hmax
    unfold chunkStart
    exact readsDay_eq_of_startsRead hstart.inCalendar.ge h (by omega) hlast (by omega)
  have hrows : shownRows objects manifest (chunkStart (dayOf start) maxDays day) day =
      shownRows objects manifest (dayOf start) day := by
    funext kind
    unfold shownRows
    rw [hsame]
  rw [hrows]

/-- The metrics that are sent for some days determine the metric of each of them. -/
theorem sentMetric_eq_of_flatMap {days : List ℕ} {generatedAt : ℕ}
    {rows rows' : ℕ → (kind : ArtifactKind) → List (MetricRow N kind)}
    (h : days.flatMap (fun day =>
        dayData generatedAt (dateText day) (rows day) (.metricsDaily false)) =
      days.flatMap (fun day =>
        dayData generatedAt (dateText day) (rows' day) (.metricsDaily false)))
    {day : ℕ} (hday : day ∈ days) :
    sentMetric false generatedAt (dateText day) (publishedMetric (rows day .metrics))
        (rows day .treasuryAssets) (rows day .ohmSupply) =
      sentMetric false generatedAt (dateText day) (publishedMetric (rows' day .metrics))
        (rows' day .treasuryAssets) (rows' day .ohmSupply) := by
  have hmap : days.map (fun day => sentMetric false generatedAt (dateText day)
      (publishedMetric (rows day .metrics)) (rows day .treasuryAssets) (rows day .ohmSupply)) =
      days.map (fun day => sentMetric false generatedAt (dateText day)
        (publishedMetric (rows' day .metrics)) (rows' day .treasuryAssets) (rows' day .ohmSupply)) :=
    List.map_eq_flatMap.trans (h.trans List.map_eq_flatMap.symm)
  exact List.map_inj_left.mp hmap day hday

theorem chunkStart_of_start {first k : ℕ} (hmax : 1 ≤ maxDays) :
    chunkStart first maxDays (first + k * maxDays) = first + k * maxDays := by
  unfold chunkStart
  rw [Nat.add_sub_cancel_left, Nat.mul_div_cancel k hmax]

/-- A publication of one metric, on the first day of a chunk, tells the pages from one request that
does not read its month. -/
theorem readsDay_of_same_data (json : Serialization (MetricRow N)) (hstart : IsDate start)
    (hstop : IsDate (stop.getD latestDate)) (hle : dayOf start ≤ dayOf (stop.getD latestDate))
    (hmax : 1 ≤ maxDays) {k day : ℕ} (hk : day = dayOf start + k * maxDays)
    (hday : day ≤ dayOf (stop.getD latestDate)) (hyear : 47482 ≤ day)
    (h : singleRequest [] json (singleMetricStore N latestDate day)
        { maxRangeDays := some maxDays } ⟨.metricsDaily false, start, stop⟩ =
      autoPaginated (fun _ => []) json (singleMetricStore N latestDate day)
        { maxRangeDays := some maxDays } ⟨.metricsDaily false, start, stop⟩) :
    readsDay (dayOf start) day = true := by
  have hcalendar : InCalendar day := ⟨by omega, hday.trans hstop.inCalendar.le⟩
  have hserves := @serves_singleMetricStore N _ _ latestDate day json hcalendar
    { maxRangeDays := some maxDays } rfl
  have hinput : IsDate (DailyRangeInput.start ⟨.metricsDaily false, start, stop⟩) := hstart
  have hsingle := singleRequest_eq hserves hinput hstop hle []
  have hpages := autoPaginated_eq hserves rfl hmax hinput hstop hle (fun _ => [])
  have hdata := Except.ok.inj (hsingle.symm.trans (h.trans hpages))
  have hmem : day ∈ between (dayOf start) (dayOf (stop.getD latestDate)) :=
    mem_between.mpr ⟨hk ▸ Nat.le_add_right _ _, hday⟩
  have hsame := sentMetric_eq_of_flatMap hdata hmem
  have hchains := (chainsIndexed_singleMetricStore hcalendar (dayOf start) _).symm.trans
    ((congrArg DailyMetric.chainsIndexed hsame).trans
      (chainsIndexed_singleMetricStore hcalendar (chunkStart (dayOf start) maxDays day) _))
  have hchunk : chunkStart (dayOf start) maxDays day = day := by
    rw [hk, chunkStart_of_start hmax]
  rw [hchunk, readsDay_of_le hyear (le_refl _), if_pos rfl] at hchains
  by_contra hread
  rw [Bool.not_eq_true] at hread
  rw [hread] at hchains
  exact nomatch hchains

theorem startsRead_of_transparent (hstart : IsDate start) (hstop : IsDate (stop.getD latestDate))
    (hle : dayOf start ≤ dayOf (stop.getD latestDate)) (hmax : 1 ≤ maxDays)
    (h : Transparent N start stop latestDate maxDays) :
    StartsRead (dayOf start) (dayOf (stop.getD latestDate)) maxDays := by
  intro k hk hyear
  have hge : 10957 ≤ dayOf start + k * maxDays := hstart.inCalendar.ge.trans (Nat.le_add_right _ _)
  have hyear' := Nat.not_lt.mp ((year_lt_iff hge).not.mp (Nat.not_lt.mpr hyear))
  have hserves := @serves_singleMetricStore N _ _ latestDate (dayOf start + k * maxDays)
    { sha256 := fun _ => "", byteLength := fun _ => 0 } ⟨hge, hk.trans hstop.inCalendar.le⟩
    { maxRangeDays := some maxDays } rfl
  obtain ⟨data, hsingle, hpages⟩ := h _ _ _ _ hserves rfl rfl (.metricsDaily false) (fun _ => []) []
  exact of_decide_eq_true (readsDay_of_same_data _ hstart hstop hle hmax rfl hk hyear'
    (hsingle.trans hpages.symm))

theorem startsRead_of_year {first last : ℕ} (h : 47482 ≤ first) :
    StartsRead first last maxDays := by
  intro k _ _
  rw [utcMonth_of_le h]
  exact monthOf_mono (by omega) (Nat.le_add_right _ _)

/-- The chunks always split the range, and the pages have the data of one request against every
publication exactly when every chunk from the year 100 on begins in a month that the request
reads. -/
theorem autoPaginate_transparent_iff (hstart : IsDate start)
    (hstop : IsDate (stop.getD latestDate)) (hle : dayOf start ≤ dayOf (stop.getD latestDate))
    (hmax : 1 ≤ maxDays) :
    ((∃ chunks, splitRange start (stop.getD latestDate) maxDays = .ok chunks ∧
        SplitsRange start (stop.getD latestDate) maxDays chunks) ∧
      Transparent N start stop latestDate maxDays) ↔
      StartsRead (dayOf start) (dayOf (stop.getD latestDate)) maxDays := by
  constructor
  · rintro ⟨-, htransparent⟩
    exact startsRead_of_transparent hstart hstop hle hmax htransparent
  · intro hread
    exact ⟨⟨_, splitRange_eq hstart hstop hle hmax, splitsRange_chunksFrom hstart hstop hmax⟩,
      transparent_of_startsRead hstart hstop hle hmax hread⟩

end

theorem autoPaginate_leap_day :
    (∃ chunks, splitRange "2024-02-28" "2024-03-02" 2 = .ok chunks ∧
        SplitsRange "2024-02-28" "2024-03-02" 2 chunks) ∧
      Transparent ℤ "2024-02-28" (some "2024-03-02") "2024-03-05" 2 :=
  (@autoPaginate_transparent_iff ℤ _ _ _ "2024-02-28" "2024-03-05" (some "2024-03-02") 2
    ⟨⟨2024, 2, 28⟩, by rfl⟩ ⟨⟨2024, 3, 2⟩, by rfl⟩ (by decide) (by decide)).mpr
      (startsRead_of_year (by decide))

/-- The month of the last day of the year 99 is read as that of 1999, so that one request for the
turn of the year does not find the metric of the next day. -/
theorem autoPaginate_year_100 :
    Serves { sha256 := fun _ => "", byteLength := fun _ => 0 }
        (singleMetricStore ℤ "0100-01-01" (dayOf "0100-01-01")) { maxRangeDays := some 1 }
        (bareManifest "0100-01-01") ∧
      singleRequest [] { sha256 := fun _ => "", byteLength := fun _ => 0 }
          (singleMetricStore ℤ "0100-01-01" (dayOf "0100-01-01")) { maxRangeDays := some 1 }
          ⟨.metricsDaily false, "0099-12-31", some "0100-01-01"⟩ ≠
        autoPaginated (fun _ => []) { sha256 := fun _ => "", byteLength := fun _ => 0 }
          (singleMetricStore ℤ "0100-01-01" (dayOf "0100-01-01")) { maxRangeDays := some 1 }
          ⟨.metricsDaily false, "0099-12-31", some "0100-01-01"⟩ := by
  have hstart : IsDate "0099-12-31" := ⟨⟨99, 12, 31⟩, by rfl⟩
  have hstop : IsDate "0100-01-01" := ⟨⟨100, 1, 1⟩, by rfl⟩
  refine ⟨serves_singleMetricStore _ hstop.inCalendar rfl, fun h => ?_⟩
  have hread := @readsDay_of_same_data ℤ _ _ _ "0099-12-31" "0100-01-01" (some "0100-01-01") 1 _
    hstart hstop (by decide) (by decide) 1 _ (by decide) (by decide) (by decide) h
  exact absurd hread (by decide)

end OlympusMetrics.Api.Client
