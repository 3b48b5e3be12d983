import OlympusMetrics.Indexer.Records
import OlympusMetrics.Publisher.ArtifactStore
import OlympusMetrics.Publisher.DateRanges

/-!
A run of the publisher as a program over the artifact store.
-/

namespace OlympusMetrics.Publisher

structure MetricsBounds where
  earliestDate : String
  latestDate : String

inductive PublishBoundsCompleteness
  | crossChain | allChains
  deriving DecidableEq

/-- What the metrics source answers to the requests of one run. -/
structure MetricsSource (Row : ArtifactKind → Type) where
  fetchLatestIndexingProgress : Except PublishError IndexingProgress
  fetchBounds : PublishBoundsCompleteness → Except PublishError MetricsBounds
  fetchRows : (kind : ArtifactKind) → DateRange → Except PublishError (List (Row kind))

structure PublishInput (Row : ArtifactKind → Type) where
  publicStartDate : Option String := none
  deploymentId : String
  startDate : Option String := none
  endDate : Option String := none
  manifest : Option Manifest := none
  source : MetricsSource Row
  now : ℕ
  lockTtlMs : Option ℤ := none

inductive SkipReason
  | lockHeld | notDataReady
  deriving DecidableEq

structure PublishResult where
  deletedKeys : List String
  deploymentId : String
  indexingProgress : IndexingProgress
  manifestPublishedLast : Bool
  range : Option DateRange
  skipped : Bool
  skipReason : Option SkipReason
  runId : String
  writtenKeys : List String

def schemaVersion : String := "1.0.0"
def defaultPublicStartDate : String := "2022-05-01"
def defaultLockTtlMs : ℤ := 12 * 60 * 60 * 1000
def publisherLockKey : String := "v2/publisher.lock"
def manifestKey : String := "v2/manifest.json"
def deploymentsPrefix : String := "v2/deployments/"

/-- The last time that a `Date` can represent. -/
def maxTime : ℕ := 8640000000000000

/-- The keys of `SCHEMAS`. -/
def schemaKeys : List String :=
  ["v2/schemas/manifest.schema.json", "v2/schemas/daily-metric.schema.json",
   "v2/schemas/treasury-asset.schema.json", "v2/schemas/ohm-supply.schema.json"]

/-! ### Deployment ids and the keys of their shards -/

/-- `[A-Za-z0-9._-]`. -/
def isDeploymentIdChar (c : Char) : Bool :=
  c.isAlphanum || c == '.' || c == '_' || c == '-'

/-- A deployment id that `parseDeploymentId` lets through. -/
structure DeploymentId where
  text : String
  nonempty : text ≠ ""
  chars : text.toList.all isDeploymentIdChar

/-- The characters that `trim` removes. -/
def isTrimmed (c : Char) : Bool :=
  ['\t', '\n', '\x0b', '\x0c', '\r', ' ', '\u00a0', '\u1680', '\u2028', '\u2029', '\u202f',
    '\u205f', '\u3000', '\ufeff'].contains c || ('\u2000' ≤ c && c ≤ '\u200a')

def trim (value : String) : String :=
  String.ofList ((value.toList.dropWhile isTrimmed).reverse.dropWhile isTrimmed).reverse

def parseDeploymentId (value : String) : Except PublishError DeploymentId :=
  let trimmed := trim value
  if hempty : trimmed = "" then .error (.error "INDEXER_DEPLOYMENT_ID is required.")
  else if hchars : trimmed.toList.all isDeploymentIdChar then
    .ok { text := trimmed, nonempty := hempty, chars := hchars }
  else
    .error (.error
      "INDEXER_DEPLOYMENT_ID may contain only letters, numbers, dots, underscores, and dashes.")

/-- The prefix of a deployment's keys. -/
def deploymentPrefix (deploymentId : DeploymentId) : String :=
  deploymentsPrefix ++ deploymentId.text ++ "/"

/-- The prefix of a deployment's shards of one kind. -/
def shardPrefix (deploymentId : DeploymentId) (kind : ArtifactKind) : String :=
  deploymentPrefix deploymentId ++ kind.path ++ "/daily/"

def dataKey (deploymentId : DeploymentId) (kind : ArtifactKind) (month : String) : String :=
  shardPrefix deploymentId kind ++ month ++ ".json"

/-- The month of a file name of the form `YYYY-MM.json`. -/
def monthOfFile (file : List Char) : Option String :=
  match file with
  | y1 :: y2 :: y3 :: y4 :: '-' :: m1 :: m2 :: rest =>
      if [y1, y2, y3, y4, m1, m2].all Char.isDigit ∧ rest = ".json".toList then
        some (String.ofList [y1, y2, y3, y4, '-', m1, m2])
      else none
  | _ => none

def isKindPath (path : List Char) : Bool :=
  ArtifactKind.all.any (fun kind => path == kind.path.toList)

/-- `dataArtifactMonth`, for the keys of deployments and those without one. -/
def dataArtifactMonth (key : String) : Option String :=
  match key.toList.splitOn '/' with
  | [root, deployments, id, kind, daily, file] =>
      if root = "v2".toList ∧ deployments = "deployments".toList ∧ id ≠ [] ∧ isKindPath kind ∧
          daily = "daily".toList then monthOfFile file
      else none
  | [root, kind, daily, file] =>
      if root = "v2".toList ∧ isKindPath kind ∧ daily = "daily".toList then monthOfFile file
      else none
  | _ => none

/-! ### The manifest -/

variable {Row : ArtifactKind → Type}

/-- The entries of a record whose key passes a test. -/
def filterKeys {V : Type} (keep : String → Bool) (record : JsonRecord V) : JsonRecord V where
  entries := record.entries.filter (fun entry => keep entry.1)
  nodupKeys := List.NodupKeys.sublist List.filter_sublist record.nodupKeys

def getExistingManifest : PublisherProcess Row (Option Manifest) :=
  orNotFound (do
    let value ← getJson manifestKey
    match value with
    | .manifest manifest => .ret manifest
    | _ => .throw (.error "not a manifest"))

def deploymentHasPublishedArtifacts (manifest : Option Manifest) (deploymentId : DeploymentId) :
    Bool :=
  match manifest with
  | none => false
  | some manifest => manifest.artifacts.keys.any (fun key =>
      ArtifactKind.all.any (fun kind => startsWith key (shardPrefix deploymentId kind)))

def pruneHistoricalDeploymentArtifacts (artifacts : JsonRecord ArtifactEntry)
    (deploymentId : DeploymentId) : JsonRecord ArtifactEntry :=
  filterKeys (fun key => !startsWith key deploymentsPrefix ||
    startsWith key (deploymentPrefix deploymentId)) artifacts

def pruneArtifactsOutsidePublishedBounds (artifacts : JsonRecord ArtifactEntry)
    (earliestDate latestDate : String) : Except String (JsonRecord ArtifactEntry) := do
  let publishedMonths ← monthKeysForRange earliestDate latestDate
  .ok (filterKeys (fun key =>
    match dataArtifactMonth key with
    | none => true
    | some month => publishedMonths.contains month) artifacts)

/-! ### The range of a run -/

/-- An error of the date functions as the error that the run throws. -/
def orError {α : Type} (result : Except String α) : Except PublishError α :=
  result.mapError .error

def resolvePublishRange (input : PublishInput Row) (bounds : MetricsBounds)
    (existingManifest : Option Manifest) (publicStartDate : String)
    (hasPublishedDeploymentArtifacts : Bool) : Except String DateRange :=
  let stop := input.endDate.getD bounds.latestDate
  match existingManifest, hasPublishedDeploymentArtifacts with
  | some manifest, true => do
      let firstUnpublishedMonth := firstDayOfMonth (← addDays manifest.latestDate 1)
      let refreshStart := minDate (← firstDayOfPreviousMonth stop) firstUnpublishedMonth
      let start := input.startDate.getD (maxDate publicStartDate refreshStart)
      resolveDateRange start (some stop) bounds.latestDate none false
  | _, _ =>
      resolveDateRange (input.startDate.getD publicStartDate) (some stop) bounds.latestDate none
        false

def isFreshForDeploymentHandover (latestDate : String) (now : ℕ) : Except String Bool := do
  let latestAllowedLagDate ← addDays (isoDate (now / 1000)) (-1)
  .ok (!decide (latestDate < latestAllowedLagDate))

def hasMissingDailyMetrics [∀ kind, Dated (Row kind)] (range : DateRange)
    (metrics : List (Row .metrics)) : Except String Bool := do
  let dates ← datesOfRange range.start range.stop
  .ok (dates.any (fun date => !(metrics.map Dated.date).contains date))

/-! ### The publisher lock -/

def buildPublisherLock (runId : String) (operation : LockOperation) (now : ℕ) (ttlMs : ℕ) :
    Except PublishError PublisherLock :=
  if now + ttlMs ≤ maxTime then
    .ok { runId := runId, startedAt := now, expiresAt := now + ttlMs, operation := operation }
  else .error (.error "Invalid time value")

def readPublisherLock : PublisherProcess Row (Option (PublisherLock × Option String)) :=
  orNotFound (do
    let result ← getJsonWithMetadata publisherLockKey
    match result with
    | (.lock lock, etag) => .ret (lock, etag)
    | _ => .throw (.error "not a publisher lock"))

/-- Whether a run has acquired the lock, and the run id that it reports. -/
structure LockOutcome where
  acquired : Bool
  runId : String

/-- What a run that could not replace the lock reports. -/
def lockRefused (runId : String) : PublisherProcess Row LockOutcome := do
  let current ← readPublisherLock
  .ret { acquired := false, runId := (current.map (fun c => c.1.runId)).getD runId }

/-- Takes over an expired lock. -/
def replacePublisherLock (runId : String) (lock : PublisherLock) (etag : Option String) :
    PublisherProcess Row LockOutcome := do
  let replaced ← match etag with
    | none => putJsonIfAbsent publisherLockKey (.lock lock)
    | some etag => putJsonIfMatch publisherLockKey (.lock lock) etag
  if replaced then
    let verified ← readPublisherLock
    .ret { acquired := verified.map (fun v => v.1.runId) == some runId, runId := runId }
  else lockRefused runId

def acquirePublisherLock (runId : String) (operation : LockOperation) (now ttlMs : ℕ) :
    PublisherProcess Row LockOutcome := do
  let lock ← .ofExcept (buildPublisherLock runId operation now ttlMs)
  let acquired ← putJsonIfAbsent publisherLockKey (.lock lock)
  if acquired then .ret { acquired := true, runId := runId }
  else
    let existing ← readPublisherLock
    match existing with
    | none => .ret { acquired := false, runId := runId }
    | some (held, etag) =>
        if now < held.expiresAt then .ret { acquired := false, runId := held.runId }
        else replacePublisherLock runId lock etag

def releasePublisherLock (runId : String) : PublisherProcess Row Unit := do
  let existing ← readPublisherLock
  match existing with
  | none => .ret ()
  | some (held, etag) =>
      if held.runId = runId then
        match etag with
        | some etag => do
            let _ ← deleteJsonIfMatch publisherLockKey etag
            .ret ()
        | none => deleteJson publisherLockKey
      else .ret ()

/-! ### A run -/

/-- The artifacts map and the written keys that a run accumulates. -/
structure Written where
  artifacts : JsonRecord ArtifactEntry
  writtenKeys : List String

/-- An artifact to write, with its row count. -/
structure PendingArtifact (Row : ArtifactKind → Type) where
  key : String
  value : Artifact Row
  rowCount : ℕ

def writeArtifact (json : Serialization Row) (written : Written) (pending : PendingArtifact Row) :
    PublisherProcess Row Written := do
  putJson pending.key pending.value
  .ret
    { artifacts := written.artifacts.insert pending.key
        (json.artifactEntry pending.value pending.rowCount)
      writtenKeys := written.writtenKeys ++ [pending.key] }

def schemaArtifacts : List (PendingArtifact Row) :=
  schemaKeys.map (fun key => { key := key, value := .schema key, rowCount := 0 })

/-- The shards of the months of a range, three for each month. -/
def shardArtifacts [∀ kind, Dated (Row kind)] (deploymentId : DeploymentId) (months : List String)
    (rows : (kind : ArtifactKind) → List (Row kind)) : List (PendingArtifact Row) :=
  months.flatMap (fun month => ArtifactKind.all.map (fun kind =>
    let monthRows := (rows kind).filter (fun row => startsWith (Dated.date row) month)
    { key := dataKey deploymentId kind month
      value := .shard kind monthRows
      rowCount := monthRows.length }))

/-- Deletes the listed keys of other deployments. -/
def cleanupHistoricalDeploymentArtifacts (deploymentId : DeploymentId) :
    PublisherProcess Row (List String) := do
  let keys ← listKeys deploymentsPrefix
  let staleKeys := keys.filter (fun key => !startsWith key (deploymentPrefix deploymentId))
  Process.forEach (fun _ key => deleteJson key) staleKeys ()
  .ret staleKeys

/-- What a run returns that publishes nothing. -/
def skippedResult (deploymentId : DeploymentId) (indexingProgress : IndexingProgress)
    (reason : SkipReason) (runId : String) : PublishResult where
  deletedKeys := []
  deploymentId := deploymentId.text
  indexingProgress := indexingProgress
  manifestPublishedLast := false
  range := none
  skipped := true
  skipReason := some reason
  runId := runId
  writtenKeys := []

/-- The manifest that a run publishes over the artifacts it has gathered. -/
def nextManifest (input : PublishInput Row) (deploymentId : DeploymentId)
    (existingManifest : Option Manifest) (indexingProgress : IndexingProgress)
    (bounds : MetricsBounds) (publicStartDate : String) (range : DateRange)
    (artifacts : JsonRecord ArtifactEntry) : Except PublishError Manifest := do
  let earliestDate := maxDate publicStartDate
    (minDate ((existingManifest.map (·.earliestDate)).getD range.start) range.start)
  let latestDate := minDate
    (maxDate ((existingManifest.map (·.latestDate)).getD range.stop) range.stop) bounds.latestDate
  let manifestArtifacts ← orError (pruneArtifactsOutsidePublishedBounds
    (pruneHistoricalDeploymentArtifacts artifacts deploymentId) earliestDate latestDate)
  .ok
    { schemaVersion := schemaVersion
      generatedAt := input.now
      indexerDeploymentId := some deploymentId.text
      indexingProgress := some indexingProgress
      earliestDate := earliestDate
      latestDate := latestDate
      artifacts := manifestArtifacts }

/-- The artifacts that a run builds on. -/
def existingArtifacts (existingManifest : Option Manifest) : JsonRecord ArtifactEntry :=
  (existingManifest.map (·.artifacts)).getD ∅

/-- The writes of a run once its rows are fetched: shards, then the manifest, then the cleanup. -/
def writePublication [∀ kind, Dated (Row kind)] (json : Serialization Row) (runId : String)
    (input : PublishInput Row) (deploymentId : DeploymentId) (existingManifest : Option Manifest)
    (indexingProgress : IndexingProgress) (bounds : MetricsBounds) (publicStartDate : String)
    (range : DateRange) (rows : (kind : ArtifactKind) → List (Row kind)) :
    PublisherProcess Row PublishResult := do
  let months ← .ofExcept (orError (monthKeysForRange range.start range.stop))
  let written ← Process.forEach (writeArtifact json)
    (schemaArtifacts ++ shardArtifacts deploymentId months rows)
    { artifacts := existingArtifacts existingManifest, writtenKeys := [] }
  let manifest ← .ofExcept (nextManifest input deploymentId existingManifest indexingProgress
    bounds publicStartDate range written.artifacts)
  putJson manifestKey (.manifest manifest)
  let writtenKeys := written.writtenKeys ++ [manifestKey]
  let deletedKeys ← cleanupHistoricalDeploymentArtifacts deploymentId
  .ret
    { deletedKeys := deletedKeys
      deploymentId := deploymentId.text
      indexingProgress := indexingProgress
      manifestPublishedLast := writtenKeys.getLast? == some manifestKey
      range := some range
      skipped := false
      skipReason := none
      runId := runId
      writtenKeys := writtenKeys }

/-- The rows of the three kinds for a range. -/
def fetchAllRows (source : MetricsSource Row) (range : DateRange) :
    Except PublishError ((kind : ArtifactKind) → List (Row kind)) := do
  let metrics ← source.fetchRows .metrics range
  let treasuryAssets ← source.fetchRows .treasuryAssets range
  let ohmSupply ← source.fetchRows .ohmSupply range
  .ok (fun kind =>
    match kind with
    | .metrics => metrics
    | .treasuryAssets => treasuryAssets
    | .ohmSupply => ohmSupply)

/-- What a run does while it holds the lock, without the release. -/
def publishUnderLock [∀ kind, Dated (Row kind)] (json : Serialization Row) (runId : String)
    (input : PublishInput Row) (deploymentId : DeploymentId)
    (existingManifest : Option Manifest) : PublisherProcess Row PublishResult := do
  let publicStartDate := input.publicStartDate.getD defaultPublicStartDate
  let hasPublishedDeploymentArtifacts :=
    deploymentHasPublishedArtifacts existingManifest deploymentId
  let completeness := if hasPublishedDeploymentArtifacts then
    PublishBoundsCompleteness.crossChain else .allChains
  let indexingProgress ← .ofExcept input.source.fetchLatestIndexingProgress
  let notReady := skippedResult deploymentId indexingProgress .notDataReady runId
  match input.source.fetchBounds completeness with
  | .error .metricsNotDataReady => .ret notReady
  | .error error => .throw error
  | .ok bounds => do
      let fresh ← .ofExcept (if hasPublishedDeploymentArtifacts then .ok true
        else orError (isFreshForDeploymentHandover bounds.latestDate input.now))
      if !fresh then .ret notReady
      else do
        let range ← .ofExcept (orError (resolvePublishRange input bounds existingManifest
          publicStartDate hasPublishedDeploymentArtifacts))
        let rows ← .ofExcept (fetchAllRows input.source range)
        let missing ← .ofExcept (if hasPublishedDeploymentArtifacts then
          orError (hasMissingDailyMetrics range (rows .metrics)) else .ok false)
        if missing then .ret notReady
        else
          writePublication json runId input deploymentId existingManifest indexingProgress bounds
            publicStartDate range rows

/-- The part of a run after it has read the manifest. -/
def publishAgainst [∀ kind, Dated (Row kind)] (json : Serialization Row) (runId : String)
    (input : PublishInput Row) (deploymentId : DeploymentId) (lockTtlMs : ℕ)
    (existingManifest : Option Manifest) : PublisherProcess Row PublishResult := do
  let operation := if existingManifest.isNone then LockOperation.initialBackfill
    else .incrementalRefresh
  let lock ← acquirePublisherLock runId operation input.now lockTtlMs
  if !lock.acquired then .ret (skippedResult deploymentId [] .lockHeld lock.runId)
  else
    Process.tryFinally (publishUnderLock json runId input deploymentId existingManifest)
      (releasePublisherLock runId)

def publishMetricsArtifacts [∀ kind, Dated (Row kind)] (json : Serialization Row) (runId : String)
    (input : PublishInput Row) : PublisherProcess Row PublishResult := do
  let deploymentId ← .ofExcept (parseDeploymentId input.deploymentId)
  let lockTtlMs := input.lockTtlMs.getD defaultLockTtlMs
  if lockTtlMs < 1 then .throw (.error "lockTtlMs must be a positive integer.")
  else do
    let existingManifest ← match input.manifest with
      | some manifest => .ret (some manifest)
      | none => getExistingManifest
    publishAgainst json runId input deploymentId lockTtlMs.toNat existingManifest

end OlympusMetrics.Publisher
