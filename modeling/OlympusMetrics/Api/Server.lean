import OlympusMetrics.Api.DailyMetric
import OlympusMetrics.Publisher.Publish

/-!
The range requests of the metrics API as programs over the artifact store.
-/

namespace OlympusMetrics.Api

open Publisher

variable {N : Type}

structure MetricsApiConfig where
  /-- No cap when it is missing. -/
  maxRangeDays : Option ℕ
  manifest : Option Manifest := none
  generatedAt : Option ℕ := none

/-- The three range endpoints. -/
inductive V2Endpoint
  | metricsDaily (includeRecords : Bool)
  | treasuryAssetsDaily
  | ohmSupplyDaily
  deriving DecidableEq

/-- The kind of the rows that an endpoint sends. -/
def V2Endpoint.kind : V2Endpoint → ArtifactKind
  | .metricsDaily _ => .metrics
  | .treasuryAssetsDaily => .treasuryAssets
  | .ohmSupplyDaily => .ohmSupply

structure V2Request where
  endpoint : V2Endpoint
  start : Option String
  stop : Option String

structure RangeMeta where
  range : DateRange
  maxDays : Option ℕ

structure ApiMeta where
  generatedAt : ℕ
  earliestDate : String
  latestDate : String
  range : Option RangeMeta

inductive ApiResponse (Data : Type)
  | ok (data : Data) (metadata : ApiMeta)
  | error (status : ℕ) (code message : String)
  /-- The handler returns without a response. -/
  | unanswered

/-! ### Reading shards -/

/-- `MetricsApiConfig.artifactReader.getJson` for the manifest. -/
def getManifest (config : MetricsApiConfig) : PublisherProcess (MetricRow N) Manifest :=
  match config.manifest with
  | some manifest => .ret manifest
  | none => do
      let value ← getJson manifestKey
      match value with
      | .manifest manifest => .ret manifest
      | _ => .throw (.error "not a manifest")

def resolveV2Range (request : V2Request) (config : MetricsApiConfig) (manifest : Manifest) :
    Except String DateRange :=
  match request.start with
  | none => .error "start is required"
  | some start => resolveDateRange start request.stop manifest.latestDate config.maxRangeDays true

def dateKeysForRange (range : DateRange) : Except String (List String) :=
  match parseDate range.start with
  | .ok start =>
      .ok ((List.range range.days).map (fun index => (ofDayNumber (dayNumber start + index)).iso))
  | .error _ => .error "Invalid time value"

def isInRange (date : String) (range : DateRange) : Bool :=
  decide (range.start ≤ date) && decide (date ≤ range.stop)

def endsWith (key keySuffix : String) : Bool := keySuffix.toList.isSuffixOf key.toList

/-- The key of a shard without the version prefix. -/
def deploymentPath (kind : ArtifactKind) (month : String) : String :=
  kind.path ++ "/daily/" ++ month ++ ".json"

/-- The key of a shard of no deployment. -/
def stableKey (kind : ArtifactKind) (month : String) : String :=
  "v2/" ++ deploymentPath kind month

def artifactKeyForMonth (manifest : Manifest) (kind : ArtifactKind) (month : String) : String :=
  let path := deploymentPath kind month
  let fallback :=
    if stableKey kind month ∈ manifest.artifacts then stableKey kind month
    else (manifest.artifacts.keys.reverse.find? (fun key =>
      startsWith key deploymentsPrefix && endsWith key ("/" ++ path))).getD (stableKey kind month)
  match manifest.indexerDeploymentId with
  | some deploymentId =>
      let currentDeploymentKey := deploymentsPrefix ++ deploymentId ++ "/" ++ path
      if currentDeploymentKey ∈ manifest.artifacts then currentDeploymentKey else fallback
  | none => fallback

/-- The rows of a stored shard. -/
def rowsOf (kind : ArtifactKind) (value : Artifact (MetricRow N)) :
    PublisherProcess (MetricRow N) (List (MetricRow N kind)) :=
  match value with
  | .shard stored rows => if h : stored = kind then .ret (h ▸ rows) else .throw (.error "not rows")
  | _ => .throw (.error "not rows")

/-- The rows of one month; a shard that is not found has none. -/
def readMonth (manifest : Manifest) (range : DateRange) (kind : ArtifactKind)
    (rows : List (MetricRow N kind)) (month : String) :
    PublisherProcess (MetricRow N) (List (MetricRow N kind)) := do
  let monthRows ← orNotFound (do
    let value ← getJson (artifactKeyForMonth manifest kind month)
    rowsOf kind value)
  match monthRows with
  | none => .ret rows
  | some monthRows => .ret (rows ++ monthRows.filter (fun row => isInRange (Dated.date row) range))

def readArtifactRows (manifest : Manifest) (range : DateRange) (kind : ArtifactKind) :
    PublisherProcess (MetricRow N) (List (MetricRow N kind)) := do
  let months ← .ofExcept (orError (monthKeysForRange range.start range.stop))
  Process.forEach (readMonth manifest range kind) months []

/-- `metricsByDate`: a later metric of a date replaces an earlier one. -/
def metricsByDate (metrics : List (DailyMetric N)) (date : String) : Option (DailyMetric N) :=
  ((metrics.filter (fun metric => metric.date == date)).getLast?).map normalizeMetricCompleteness

section

variable [Zero N] [DecidableEq N]

/-- The records of which the metric of their date was computed at their block. -/
def selectRecords {kind : ArtifactKind} (metricRows : List (DailyMetric N))
    (block : MetricRow N kind → N) (blockchain : MetricRow N kind → String)
    (records : List (MetricRow N kind)) : List (MetricRow N kind) :=
  records.filter (fun record =>
    match metricsByDate metricRows (Dated.date record) with
    | none => false
    | some metric => isSelectedMetricBlock metric (block record) (blockchain record))

/-- `readSelectedDailyRecords`: the two reads run side by side, in the order of `turns`. -/
def readSelectedDailyRecords (turns : List Bool) (manifest : Manifest) (range : DateRange)
    (kind : ArtifactKind) (block : MetricRow N kind → N) (blockchain : MetricRow N kind → String) :
    PublisherProcess (MetricRow N) (List (MetricRow N kind)) := do
  let (metricRows, records) ← Process.both (readArtifactRows manifest range .metrics) turns
    (readArtifactRows manifest range kind)
  .ret (selectRecords metricRows block blockchain records)

variable [Add N]

def readDailyMetrics (manifest : Manifest) (range : DateRange) (includeRecords : Bool)
    (generatedAt : ℕ) : PublisherProcess (MetricRow N) (List (DailyMetric N)) := do
  let metricRows ← readArtifactRows manifest range .metrics
  let treasuryAssets ← if includeRecords then readArtifactRows manifest range .treasuryAssets
    else .ret []
  let ohmSupply ← if includeRecords then readArtifactRows manifest range .ohmSupply else .ret []
  let dates ← .ofExcept (orError (dateKeysForRange range))
  .ret (dates.map (fun date =>
    match metricsByDate metricRows date with
    | none => buildEmptyDailyMetric date includeRecords generatedAt
    | some metric =>
        if includeRecords then
          attachMetricRecords metric
            (treasuryAssets.filter (fun asset : TreasuryAsset N => asset.date == date))
            (ohmSupply.filter (fun supply : OhmSupply N => supply.date == date))
        else metric))

/-! ### Requests -/

/-- The rows that a range endpoint sends. -/
def readV2Data (turns : List Bool) (manifest : Manifest) (range : DateRange) (generatedAt : ℕ) :
    (endpoint : V2Endpoint) → PublisherProcess (MetricRow N) (List (MetricRow N endpoint.kind))
  | .metricsDaily includeRecords => readDailyMetrics manifest range includeRecords generatedAt
  | .treasuryAssetsDaily => readSelectedDailyRecords turns manifest range .treasuryAssets
      TreasuryAsset.block TreasuryAsset.blockchain
  | .ohmSupplyDaily => readSelectedDailyRecords turns manifest range .ohmSupply
      OhmSupply.block OhmSupply.blockchain

/-- `emptyResponse`. -/
def okResponse {Data : Type} (config : MetricsApiConfig) (manifest : Manifest)
    (range : Option DateRange) (data : Data) : ApiResponse Data :=
  .ok data
    { generatedAt := config.generatedAt.getD manifest.generatedAt
      earliestDate := manifest.earliestDate
      latestDate := manifest.latestDate
      range := range.map (fun range => { range := range, maxDays := config.maxRangeDays }) }

/-- Answers with the manifest, if there is one. -/
def withPublishedManifest {Data : Type} (config : MetricsApiConfig)
    (answer : Manifest → PublisherProcess (MetricRow N) (ApiResponse Data)) :
    PublisherProcess (MetricRow N) (ApiResponse Data) := do
  let manifest ← (getManifest config).attempt
  match manifest with
  | .error (.artifactNotFound _) => .ret (.error 503 "manifest_not_published"
      "Metrics artifacts have not been published yet.")
  | .error _ => .ret (.error 503 "manifest_unavailable"
      "Metrics artifact manifest is unavailable.")
  | .ok manifest => answer manifest

/-- A range request once the manifest is read. -/
def answerV2Request (turns : List Bool) (config : MetricsApiConfig) (request : V2Request)
    (manifest : Manifest) :
    PublisherProcess (MetricRow N) (ApiResponse (List (MetricRow N request.endpoint.kind))) :=
  Process.tryCatch
    (do
      let range ← .ofExcept (orError (resolveV2Range request config manifest))
      let data ← readV2Data turns manifest range (config.generatedAt.getD manifest.generatedAt)
        request.endpoint
      .ret (okResponse config manifest (some range) data))
    (fun error =>
      match error with
      | .artifactNotFound _ => .ret .unanswered
      | .metricsNotDataReady => .ret (.error 400 "invalid_date_range"
          "Metrics data is not ready to publish.")
      | .error message => .ret (.error 400 "invalid_date_range" message))

/-- `handleMetricsApiRequest` for the range endpoints. -/
def handleV2Request (turns : List Bool) (config : MetricsApiConfig) (request : V2Request) :
    PublisherProcess (MetricRow N) (ApiResponse (List (MetricRow N request.endpoint.kind))) :=
  withPublishedManifest config (answerV2Request turns config request)

end

structure BoundsResponse where
  earliestDate : String
  latestDate : String
  maxRangeDays : Option ℕ
  indexerDeploymentId : Option String
  indexingProgress : Option IndexingProgress

/-- `handleMetricsApiRequest` for the bounds. -/
def handleBoundsRequest (config : MetricsApiConfig) :
    PublisherProcess (MetricRow N) (ApiResponse BoundsResponse) :=
  withPublishedManifest config (fun manifest =>
    .ret (okResponse config manifest none
      { earliestDate := manifest.earliestDate
        latestDate := manifest.latestDate
        maxRangeDays := config.maxRangeDays
        indexerDeploymentId := manifest.indexerDeploymentId
        indexingProgress := manifest.indexingProgress }))

end OlympusMetrics.Api
