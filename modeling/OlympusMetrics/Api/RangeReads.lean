import OlympusMetrics.Api.Reading
import OlympusMetrics.Api.Requests
import OlympusMetrics.Publisher.Completeness

/-!
What a range request reads and sends, whatever the store answers.

A range is read shard by shard. The first shard that can not be read ends the
request; a shard that is not found has no rows.
-/

namespace OlympusMetrics.Api

open Publisher SortedRows

variable {N : Type}

/-- What the store answers to every operation. -/
abbrev StoreAnswer (N : Type) := (op : StoreOp (MetricRow N)) → Except PublishError op.Answer

/-- The rows of a stored object; one that is not found has none. -/
def rowsOfStored (kind : ArtifactKind) (stored : Except PublishError (Artifact (MetricRow N))) :
    Except PublishError (List (MetricRow N kind)) :=
  match stored with
  | .ok (.shard stored rows) => if h : stored = kind then .ok (h ▸ rows) else .error (.error "not rows")
  | .ok _ => .error (.error "not rows")
  | .error (.artifactNotFound _) => .ok []
  | .error error => .error error

/-- The rows of the shard of a month. -/
def shardRead (answer : StoreAnswer N) (manifest : Manifest) (kind : ArtifactKind)
    (month : String) : Except PublishError (List (MetricRow N kind)) :=
  rowsOfStored kind (answer (.getJson (artifactKeyForMonth manifest kind month)))

/-- The rows of a range, when all of its shards can be read. -/
def rangeRead (answer : StoreAnswer N) (manifest : Manifest) (range : DateRange)
    (kind : ArtifactKind) : Except PublishError (List (MetricRow N kind)) := do
  let months ← orError (monthKeysForRange range.start range.stop)
  let parts ← months.mapM (shardRead answer manifest kind)
  .ok (parts.flatten.filter (fun row => isInRange (Dated.date row) range))

/-! ### Reading -/

section

variable {answer : StoreAnswer N} {manifest : Manifest} {range : DateRange} {kind : ArtifactKind}

theorem eval_readMonth_of_getJson {month : String}
    {stored : Except PublishError (Artifact (MetricRow N))}
    (h : (getJson (artifactKeyForMonth manifest kind month) :
      PublisherProcess (MetricRow N) _).eval answer = stored) (rows : List (MetricRow N kind)) :
    (readMonth manifest range kind rows month).eval answer =
      rowsOfStored kind stored >>= fun monthRows =>
        .ok (rows ++ monthRows.filter (fun row => isInRange (Dated.date row) range)) := by
  unfold readMonth
  rw [Process.eval_bind, eval_orNotFound, Process.eval_bind, h]
  rcases stored with error | value
  · cases error with
    | artifactNotFound key => exact congrArg Except.ok (List.append_nil rows).symm
    | metricsNotDataReady => rfl
    | error message => rfl
  · cases value with
    | shard stored monthRows =>
        by_cases hkind : stored = kind
        · subst hkind
          simp [rowsOf, rowsOfStored]
        · simp [rowsOf, rowsOfStored, hkind]
    | manifest manifest => rfl
    | lock lock => rfl
    | schema key => rfl

theorem eval_readMonth_eq (rows : List (MetricRow N kind)) (month : String) :
    (readMonth manifest range kind rows month).eval answer =
      shardRead answer manifest kind month >>= fun monthRows =>
        .ok (rows ++ monthRows.filter (fun row => isInRange (Dated.date row) range)) :=
  eval_readMonth_of_getJson (Process.eval_await _) rows

theorem eval_readMonths_eq (rows : List (MetricRow N kind)) (months : List String) :
    (Process.forEach (readMonth manifest range kind) months rows).eval answer =
      months.mapM (shardRead answer manifest kind) >>= fun parts =>
        .ok (rows ++ parts.flatten.filter (fun row => isInRange (Dated.date row) range)) := by
  induction months generalizing rows with
  | nil => simp [Process.forEach, pure, Except.pure]
  | cons month months ih =>
      refine (Process.eval_bind (readMonth manifest range kind rows month)
        (Process.forEach (readMonth manifest range kind) months)).trans ?_
      rw [eval_readMonth_eq, List.mapM_cons]
      cases shardRead answer manifest kind month with
      | error error => rfl
      | ok monthRows =>
          rw [Process.except_ok_bind, Process.except_ok_bind, Process.except_ok_bind, ih]
          cases months.mapM (shardRead answer manifest kind) with
          | error error => rfl
          | ok parts =>
              show Except.ok _ = Except.ok _
              rw [List.flatten_cons, List.filter_append, List.append_assoc]

/-- The months of a range are read one after another. -/
theorem eval_readArtifactRows_eq :
    (readArtifactRows manifest range kind).eval answer = rangeRead answer manifest range kind := by
  unfold readArtifactRows rangeRead
  rw [Process.eval_bind, Process.eval_ofExcept]
  cases orError (monthKeysForRange range.start range.stop) with
  | error error => rfl
  | ok months =>
      rw [Process.except_ok_bind, Process.except_ok_bind, eval_readMonths_eq]
      rfl

end

/-- The range that a request resolves to. -/
theorem covers_of_resolve {start latestDate : String} {stop : Option String}
    {maxRangeDays : Option ℕ} {enforceMaxRange : Bool} {range : DateRange}
    (h : resolveDateRange start stop latestDate maxRangeDays enforceMaxRange = .ok range) :
    Covers range (dayOf range.start) (dayOf range.stop) := by
  obtain ⟨hstart, hstop, hle⟩ := resolveDateRange_eq_ok h
  unfold resolveDateRange at h
  obtain ⟨startDate, hparseStart, h⟩ := exists_of_bind_eq_ok h
  obtain ⟨stopDate, hparseStop, h⟩ := exists_of_bind_eq_ok h
  have hdays : range.days = dayNumber stopDate - dayNumber startDate + 1 := by
    split at h
    · exact nomatch h
    · dsimp only at h
      split at h
      · split at h
        · exact nomatch h
        · rw [← Except.ok.inj h]
      · rw [← Except.ok.inj h]
  have hfirst : dayOf range.start = dayNumber startDate := by rw [hstart, dayOf_eq hparseStart]
  have hlast : dayOf range.stop = dayNumber stopDate := by rw [hstop, dayOf_eq hparseStop]
  refine ⟨hstart ▸ ⟨startDate, hparseStart⟩, hstop ▸ ⟨stopDate, hparseStop⟩, rfl, rfl, hle, ?_⟩
  omega

/-! ### Sending -/

/-- The rows of a range can be read. -/
def Reads (answer : StoreAnswer N) (manifest : Manifest) (range : DateRange)
    (rows : (kind : ArtifactKind) → List (MetricRow N kind)) : Prop :=
  ∀ kind, rangeRead answer manifest range kind = .ok (rows kind)

section

variable [Zero N] [DecidableEq N] [Add N] [Div N] {answer : StoreAnswer N} {manifest : Manifest}
  {range : DateRange} {rows : (kind : ArtifactKind) → List (MetricRow N kind)} {dates : List String}

/-- The metrics that are sent for some dates. -/
def sentMetrics (rows : (kind : ArtifactKind) → List (MetricRow N kind)) (dates : List String)
    (includeRecords : Bool) (generatedAt : ℕ) : List (DailyMetric N) :=
  dates.map (fun date =>
    sentMetric includeRecords generatedAt date (metricsByDate (rows .metrics) date)
      ((rows .treasuryAssets).filter (fun asset : TreasuryAsset N => asset.date == date))
      ((rows .ohmSupply).filter (fun supply : OhmSupply N => supply.date == date)))

/-- The records of a kind that are sent. -/
def sentTreasuryAssets (rows : (kind : ArtifactKind) → List (MetricRow N kind)) : List (TreasuryAsset N) :=
  @selectRecords _ _ _ .treasuryAssets (rows .metrics) TreasuryAsset.block TreasuryAsset.blockchain
    (rows .treasuryAssets)

def sentOhmSupply (rows : (kind : ArtifactKind) → List (MetricRow N kind)) : List (OhmSupply N) :=
  @selectRecords _ _ _ .ohmSupply (rows .metrics) OhmSupply.block OhmSupply.blockchain
    (rows .ohmSupply)

/-- What a range endpoint sends for these rows. -/
def sentRows (rows : (kind : ArtifactKind) → List (MetricRow N kind)) (dates : List String)
    (generatedAt : ℕ) : (endpoint : V2Endpoint) → List (MetricRow N endpoint.kind)
  | .metricsDaily includeRecords => sentMetrics rows dates includeRecords generatedAt
  | .treasuryAssetsDaily => sentTreasuryAssets rows
  | .ohmSupplyDaily => sentOhmSupply rows

omit [Add N] [Div N] in
theorem eval_readSelected_of_reads (h : Reads answer manifest range rows) (turns : List Bool)
    (kind : ArtifactKind) (block : MetricRow N kind → N) (blockchain : MetricRow N kind → String) :
    (readSelectedDailyRecords turns manifest range kind block blockchain).eval answer =
      .ok (selectRecords (rows .metrics) block blockchain (rows kind)) := by
  unfold readSelectedDailyRecords
  rw [Process.eval_bind, Process.eval_both (eval_readArtifactRows_eq.trans (h .metrics))
    (eval_readArtifactRows_eq.trans (h kind)) turns]
  rfl

omit [Div N] in
theorem eval_readDailyMetrics_of_reads (h : Reads answer manifest range rows)
    (hdates : dateKeysForRange range = .ok dates) (includeRecords : Bool) (generatedAt : ℕ) :
    (readDailyMetrics manifest range includeRecords generatedAt).eval answer =
      .ok (sentMetrics rows dates includeRecords generatedAt) := by
  have hread (kind : ArtifactKind) : (readArtifactRows manifest range kind).eval answer =
    .ok (rows kind) := eval_readArtifactRows_eq.trans (h kind)
  have hreadIf (kind : ArtifactKind) : (if includeRecords then readArtifactRows manifest range kind
      else .ret [] : PublisherProcess (MetricRow N) _).eval answer =
        .ok (if includeRecords then rows kind else []) := by
    cases includeRecords with
    | true => exact hread kind
    | false => rfl
  rw [readDailyMetrics_eq, Process.eval_bind, hread, Process.except_ok_bind, Process.eval_bind,
    hreadIf, Process.except_ok_bind, Process.eval_bind, hreadIf, Process.except_ok_bind,
    Process.eval_bind, Process.eval_ofExcept, hdates, orError_ok, Process.except_ok_bind,
    Process.eval_ret]
  refine congrArg Except.ok (List.map_congr_left (fun date _ => ?_))
  cases includeRecords with
  | true => rfl
  | false => exact sentMetric_false _ _

omit [Div N] in
theorem eval_readV2Data_of_reads (h : Reads answer manifest range rows)
    (hdates : dateKeysForRange range = .ok dates) (turns : List Bool) (generatedAt : ℕ)
    (endpoint : V2Endpoint) : (readV2Data turns manifest range generatedAt endpoint).eval answer =
      .ok (sentRows rows dates generatedAt endpoint) := by
  cases endpoint with
  | metricsDaily includeRecords =>
      exact eval_readDailyMetrics_of_reads h hdates includeRecords generatedAt
  | treasuryAssetsDaily => exact eval_readSelected_of_reads h turns .treasuryAssets _ _
  | ohmSupplyDaily => exact eval_readSelected_of_reads h turns .ohmSupply _ _

/-- What a legacy operation sends for these rows. -/
def sentLegacy (pathname : String) (vars : LegacyVariables) (range : DateRange)
    (rows : (kind : ArtifactKind) → List (MetricRow N kind)) (dates : List String)
    (generatedAt : ℕ) : LegacyData N :=
  if endsWith pathname "/tokenRecords" then
    .tokenRecords (legacyRowsDescending TreasuryAsset.date (sentTreasuryAssets rows))
  else if endsWith pathname "/tokenSupplies" then
    .tokenSupplies (legacyRowsDescending OhmSupply.date (sentOhmSupply rows))
  else
    legacyMetrics pathname vars range generatedAt
      (sentMetrics rows dates (legacyFlag vars "includeRecords") generatedAt)

theorem eval_readLegacyRange_of_reads (h : Reads answer manifest range rows)
    (hdates : dateKeysForRange range = .ok dates) (turns : List Bool) (pathname : String)
    (vars : LegacyVariables) (generatedAt : ℕ) :
    (readLegacyRange turns pathname vars manifest range generatedAt).eval answer =
      .ok (sentLegacy pathname vars range rows dates generatedAt) := by
  unfold readLegacyRange sentLegacy
  split
  · refine (Process.eval_bind _ _).trans ?_
    exact congrArg (fun read => read >>= fun records : List (TreasuryAsset N) =>
        Except.ok (LegacyData.tokenRecords (legacyRowsDescending TreasuryAsset.date records)))
      (eval_readSelected_of_reads h turns .treasuryAssets TreasuryAsset.block
        TreasuryAsset.blockchain)
  · split
    · refine (Process.eval_bind _ _).trans ?_
      exact congrArg (fun read => read >>= fun supplies : List (OhmSupply N) =>
          Except.ok (LegacyData.tokenSupplies (legacyRowsDescending OhmSupply.date supplies)))
        (eval_readSelected_of_reads h turns .ohmSupply OhmSupply.block OhmSupply.blockchain)
    · rw [Process.eval_bind, eval_readDailyMetrics_of_reads h hdates]
      rfl

/-! ### Requests -/

variable {config : MetricsApiConfig}

/-- The server finds a manifest. -/
def FindsManifest (answer : StoreAnswer N) (config : MetricsApiConfig) (manifest : Manifest) : Prop :=
  (getManifest config : PublisherProcess (MetricRow N) Manifest).eval answer = .ok manifest

omit [Div N] in
theorem eval_handleV2Request_of_reads (hmanifest : FindsManifest answer config manifest)
    {request : V2Request} (hrange : resolveV2Range request config manifest = .ok range)
    (h : Reads answer manifest range rows) (hdates : dateKeysForRange range = .ok dates)
    (turns : List Bool) : (handleV2Request turns config request).eval answer =
      .ok (okResponse config manifest (some range)
        (sentRows rows dates (config.generatedAt.getD manifest.generatedAt) request.endpoint)) := by
  unfold handleV2Request withPublishedManifest answerV2Request
  rw [Process.eval_bind, Process.eval_attempt, hmanifest, Process.except_ok_bind]
  simp only [Process.eval_tryCatch, Process.eval_bind, Process.eval_ofExcept, hrange, orError_ok,
    Process.except_ok_bind, eval_readV2Data_of_reads h hdates, Process.eval_ret]

theorem eval_readLegacyOperation_of_reads {pathname : String} {vars : LegacyVariables}
    (hrange : resolveLegacyRange pathname vars manifest config.maxRangeDays = .ok (some range))
    (h : Reads answer manifest range rows) (hdates : dateKeysForRange range = .ok dates)
    (turns : List Bool) : (readLegacyOperation turns pathname vars config manifest).eval answer =
      .ok (sentLegacy pathname vars range rows dates
        (config.generatedAt.getD manifest.generatedAt)) := by
  unfold readLegacyOperation
  rw [Process.eval_bind, Process.eval_ofExcept, hrange, orError_ok, Process.except_ok_bind]
  exact eval_readLegacyRange_of_reads h hdates turns pathname vars _

/-- An operation whose range lies outside of the bounds reads nothing. -/
theorem eval_readLegacyOperation_of_none {pathname : String} {vars : LegacyVariables}
    (hrange : resolveLegacyRange pathname vars manifest config.maxRangeDays = .ok none)
    (turns : List Bool) : (readLegacyOperation turns pathname vars config manifest).eval answer =
      .ok .empty := by
  unfold readLegacyOperation
  rw [Process.eval_bind, Process.eval_ofExcept, hrange]
  rfl

theorem eval_handleLegacyRequest {url : Url} {vars : LegacyVariables}
    (hvars : parseLegacyVariables (url.get "wg_variables") = .ok vars)
    (hmanifest : FindsManifest answer config manifest) (turns : List Bool) :
    (handleLegacyRequest turns config url).eval answer =
      (answerLegacyRequest turns config url.pathname vars manifest).eval answer := by
  unfold handleLegacyRequest
  rw [hvars]
  dsimp only
  rw [Process.eval_bind, Process.eval_attempt, hmanifest, Process.except_ok_bind]

theorem eval_answerLegacyRequest {pathname : String} {vars : LegacyVariables} {turns : List Bool}
    {data : LegacyData N}
    (h : (readLegacyOperation turns pathname vars config manifest).eval answer = .ok data) :
    (answerLegacyRequest turns config pathname vars manifest).eval answer =
      .ok (some { status := 200, body := .legacy data }) := by
  unfold answerLegacyRequest
  rw [Process.eval_tryCatch, Process.eval_bind, h]
  rfl

/-- A request without a body for a path. -/
def getRequest (pathname : String) (searchParams : List (String × QueryValue)) : HttpRequest where
  method := "GET"
  hasRequestBody := false
  url := some { pathname := pathname, searchParams := searchParams }

theorem eval_getRequest {pathname : String} {searchParams : List (String × QueryValue)}
    {turns : List Bool} {response : Option (HttpResponse N)}
    (hvalid : validateQueryParams { pathname := pathname, searchParams := searchParams } = none)
    (h : (handlePath turns config { pathname := pathname, searchParams := searchParams }).eval
      answer = .ok response) :
    (handleMetricsApiRequest turns config (getRequest pathname searchParams)).eval answer =
      .ok response := by
  have hunchecked : handleMetricsApiRequestUnchecked turns config
      (getRequest pathname searchParams) =
        (handlePath turns config { pathname := pathname, searchParams := searchParams } :
          PublisherProcess (MetricRow N) _) := by
    unfold handleMetricsApiRequestUnchecked getRequest
    simp [hvalid]
  unfold handleMetricsApiRequest
  rw [hunchecked, Process.eval_tryCatch, h]

end

end OlympusMetrics.Api
