import OlympusMetrics.Api.OneResponse
import OlympusMetrics.Library.LockStep

/-!
The handler on JSON values reads what the handler on typed values reads.

Where its steps compute on what encodes typed values as the typed functions do,
both read the same objects in the same order, and make of them the same data.
-/

namespace OlympusMetrics.Api.Http

open Publisher Process

variable {N R : Type}

/-! ### Typed values as JSON -/

/-- How manifests and rows are written as JSON, and ranges as values of `R`. -/
structure Encoding (N R : Type) where
  manifest : Manifest → Json
  isObject_manifest : ∀ value, IsObject (manifest value)
  range : DateRange → R
  row : (kind : ArtifactKind) → MetricRow N kind → Json
  protocolMetric : ProtocolMetric N → Json

def Encoding.rows (encoding : Encoding N R) (kind : ArtifactKind) (rows : List (MetricRow N kind)) :
    List Json :=
  rows.map (encoding.row kind)

/-- What a legacy operation answers with. -/
def Encoding.legacyData (encoding : Encoding N R) : LegacyData N → List Json
  | .empty => []
  | .metric metric => [encoding.row .metrics metric]
  | .metrics metrics => encoding.rows .metrics metrics
  | .tokenRecords records => encoding.rows .treasuryAssets records
  | .tokenSupplies supplies => encoding.rows .ohmSupply supplies
  | .protocolMetrics metrics => metrics.map encoding.protocolMetric

/-- The result of a date function as that of a step. -/
def orFailure {α : Type} (result : Except String α) : Except Failure α := result.mapError .error

section

variable [Zero N] [DecidableEq N] [Add N]

/-- The metrics of a range, from the rows that are read for it. -/
def dailyMetricsOf (range : DateRange) (includeRecords : Bool) (generatedAt : ℕ)
    (metricRows : List (DailyMetric N)) (treasuryAssets : List (TreasuryAsset N))
    (ohmSupply : List (OhmSupply N)) : Except String (List (DailyMetric N)) :=
  (dateKeysForRange range).map (fun dates => dates.map (fun date =>
    match metricsByDate metricRows date with
    | none => buildEmptyDailyMetric date includeRecords generatedAt
    | some metric =>
        if includeRecords then
          attachMetricRecords metric
            (treasuryAssets.filter (fun asset : TreasuryAsset N => asset.date == date))
            (ohmSupply.filter (fun supply : OhmSupply N => supply.date == date))
        else metric))

variable [Div N]

/-- The steps compute on what encodes typed values as the typed functions do. -/
structure DataSteps.Computes (steps : DataSteps R) (config : MetricsApiConfig)
    (encoding : Encoding N R) : Prop where
  resolveV2Range : ∀ url endpoint manifest, steps.resolveV2Range url (encoding.manifest manifest) =
    (orFailure (Api.resolveV2Range (url.dailyRequest endpoint) config manifest)).map encoding.range
  resolveLegacyRange : ∀ pathname vars manifest,
    steps.resolveLegacyRange pathname vars (encoding.manifest manifest) =
      (orFailure (Api.resolveLegacyRange pathname vars manifest config.maxRangeDays)).map
        (Option.map encoding.range)
  monthKeysForRange : ∀ range, steps.monthKeysForRange (encoding.range range) =
    orFailure (Publisher.monthKeysForRange range.start range.stop)
  artifactKeyForMonth : ∀ manifest kind month,
    steps.artifactKeyForMonth (encoding.manifest manifest) kind month =
      .ok (Api.artifactKeyForMonth manifest kind month)
  rowsInRange : ∀ range kind rows,
    steps.rowsInRange (encoding.range range) (.array (encoding.rows kind rows)) =
      .ok (encoding.rows kind (rows.filter (fun row => isInRange (Dated.date row) range)))
  metricsByDate : ∀ rows, ∃ metrics,
    steps.metricsByDate (encoding.rows .metrics rows) = .ok metrics ∧
    ∀ range includeRecords manifest treasuryAssets ohmSupply,
      steps.dailyMetrics (encoding.range range) includeRecords (encoding.manifest manifest) metrics
          (encoding.rows .treasuryAssets treasuryAssets) (encoding.rows .ohmSupply ohmSupply) =
        (orFailure (dailyMetricsOf range includeRecords
          (config.generatedAt.getD manifest.generatedAt) rows treasuryAssets ohmSupply)).map
          (encoding.rows .metrics)
  selectedAssets : ∀ metricRows records,
    steps.selectedRecords (encoding.rows .metrics metricRows)
        (encoding.rows .treasuryAssets records) =
      .ok (encoding.rows .treasuryAssets
        (selectRecords metricRows TreasuryAsset.block TreasuryAsset.blockchain records))
  selectedSupply : ∀ metricRows records,
    steps.selectedRecords (encoding.rows .metrics metricRows) (encoding.rows .ohmSupply records) =
      .ok (encoding.rows .ohmSupply
        (selectRecords metricRows OhmSupply.block OhmSupply.blockchain records))
  assetsDescending : ∀ records, steps.rowsDescending (encoding.rows .treasuryAssets records) =
    .ok (encoding.rows .treasuryAssets (legacyRowsDescending TreasuryAsset.date records))
  supplyDescending : ∀ supplies, steps.rowsDescending (encoding.rows .ohmSupply supplies) =
    .ok (encoding.rows .ohmSupply (legacyRowsDescending OhmSupply.date supplies))
  legacyMetrics : ∀ pathname vars manifest range metrics,
    steps.legacyMetrics pathname vars (encoding.manifest manifest) (encoding.range range)
        (encoding.rows .metrics metrics) =
      .ok (encoding.legacyData (Api.legacyMetrics pathname vars range
        (config.generatedAt.getD manifest.generatedAt) metrics))

end

/-! ### Reading alike -/

/-- Both errors say that an object was not found, or neither does. -/
def ErrorsAlike : PublishError → Thrown → Prop
  | .artifactNotFound _, .artifactNotFound _ => True
  | .artifactNotFound _, .failure _ => False
  | _, .artifactNotFound _ => False
  | _, .failure _ => True

/-- What is stored at a key, as a typed object and as JSON: a manifest at its key, and the rows of
its kind at the key of a month. -/
structure Encoding.Holds (encoding : Encoding N R) (key : String) (value : Artifact (MetricRow N))
    (json : Json) : Prop where
  manifest : key = manifestKey →
    ∃ manifest, value = .manifest manifest ∧ json = encoding.manifest manifest
  shard : ∀ manifest kind month, key = Api.artifactKeyForMonth manifest kind month →
    ∃ rows, value = .shard kind rows ∧ json = .array (encoding.rows kind rows)

/-- Both handlers read the same keys. -/
def Encoding.reads (encoding : Encoding N R) :
    Correspondence (StoreOp (MetricRow N)) StoreOp.Answer PublishError ServerOp ServerOp.Answer
      Thrown where
  ops op op' := ∃ key, op = .getJson key ∧ op' = .getJson key
  answers op op' :=
    match op, op' with
    | .getJson key, .getJson _ => fun value json => encoding.Holds key value json
    | _, _ => fun _ _ => True
  errors := ErrorsAlike

section

variable {encoding : Encoding N R} {config : MetricsApiConfig} {handlerConfig : HandlerConfig}
  {α β : Type}

theorem lockStep_getJson (key : String) :
    LockStep encoding.reads (encoding.Holds key) (Publisher.getJson key) (getJson key) :=
  lockStep_await ⟨key, rfl, rfl⟩

@[simp] theorem compute_ok (x : α) : (compute (.ok x) : ServerProcess α) = .ret x := rfl

/-- A step and a function that the typed program computes with. -/
theorem lockStep_compute (result : Except String α) (encode : α → β) :
    LockStep encoding.reads (fun x y => y = encode x) (.ofExcept (orError result))
      (compute ((orFailure result).map encode)) := by
  cases result with
  | ok x => exact rfl
  | error message => exact trivial

/-- What is made of the result of a function, as a step and in the typed program. -/
theorem lockStep_compute_map {γ : Type} (result : Except String γ) (f : γ → α) (encode : α → β) :
    LockStep encoding.reads (fun x y => y = encode x)
      (.ofExcept (orError result) >>= fun x => .ret (f x))
      (compute ((orFailure (result.map f)).map encode)) := by
  cases result with
  | ok x => exact rfl
  | error message => exact trivial

theorem lockStep_getManifest (hreader : handlerConfig.hasArtifactReader = true)
    (hmanifest : handlerConfig.manifest = config.manifest.map encoding.manifest) :
    LockStep encoding.reads (fun manifest json => json = encoding.manifest manifest)
      (Api.getManifest config) (getManifest handlerConfig) := by
  unfold getManifest Api.getManifest
  rw [hmanifest]
  cases config.manifest with
  | some manifest => exact rfl
  | none =>
      dsimp only [Option.map_none]
      rw [if_pos hreader]
      refine ⟨⟨_, rfl, rfl⟩, fun r r' hr => ?_⟩
      cases r with
      | ok value =>
          cases r' with
          | ok json =>
              obtain ⟨manifest, rfl, rfl⟩ := Encoding.Holds.manifest hr rfl
              exact rfl
          | error error' => exact absurd hr id
      | error error =>
          cases r' with
          | ok json => exact absurd hr id
          | error error' => exact hr

theorem readGeneratedAt_eq (manifest : Manifest) :
    readGeneratedAt handlerConfig (encoding.manifest manifest) = .ret () := by
  unfold readGeneratedAt
  cases handlerConfig.generatedAt with
  | some generatedAt => rfl
  | none => exact (encoding.isObject_manifest manifest).readFields

variable [Zero N] [DecidableEq N] [Add N] [Div N] {steps : DataSteps R}

/-- A month of rows of which both programs have the same so far. -/
theorem lockStep_readMonth (h : steps.Computes config encoding) (manifest : Manifest)
    (range : DateRange) (kind : ArtifactKind) (month : String) (rows : List (MetricRow N kind)) :
    LockStep encoding.reads (fun rows json => json = encoding.rows kind rows)
      (Api.readMonth manifest range kind rows month)
      (readMonth steps (encoding.manifest manifest) (encoding.range range) kind
        (encoding.rows kind rows) month) := by
  unfold readMonth
  rw [h.artifactKeyForMonth]
  refine ⟨⟨_, rfl, rfl⟩, fun r r' hr => ?_⟩
  cases r with
  | ok value =>
      cases r' with
      | ok json =>
          obtain ⟨monthRows, rfl, rfl⟩ := Encoding.Holds.shard hr manifest kind month rfl
          have hrows : (rowsOf kind (.shard kind monthRows) :
              PublisherProcess (MetricRow N) (List (MetricRow N kind))) = .ret monthRows :=
            dif_pos rfl
          dsimp only [Process.ofExcept, Process.bind]
          rw [hrows, h.rowsInRange]
          exact List.map_append.symm
      | error error' => exact absurd hr id
  | error error =>
      cases r' with
      | ok json => exact absurd hr id
      | error error' =>
          cases error with
          | artifactNotFound key =>
              cases error' with
              | artifactNotFound key' => exact rfl
              | failure failure => exact absurd hr id
          | metricsNotDataReady =>
              cases error' with
              | artifactNotFound key' => exact absurd hr id
              | failure failure => exact trivial
          | error message =>
              cases error' with
              | artifactNotFound key' => exact absurd hr id
              | failure failure => exact trivial

theorem lockStep_readArtifactRows (h : steps.Computes config encoding)
    (hreader : handlerConfig.hasArtifactReader = true) (manifest : Manifest) (range : DateRange)
    (kind : ArtifactKind) :
    LockStep encoding.reads (fun rows json => json = encoding.rows kind rows)
      (Api.readArtifactRows manifest range kind)
      (readArtifactRows handlerConfig steps (encoding.manifest manifest) (encoding.range range)
        kind) := by
  unfold readArtifactRows
  rw [if_pos hreader, h.monthKeysForRange]
  have hmonths : LockStep encoding.reads (fun months months' : List String => months' = months)
      (.ofExcept (orError (Publisher.monthKeysForRange range.start range.stop)))
      (compute (orFailure (Publisher.monthKeysForRange range.start range.stop))) := by
    cases Publisher.monthKeysForRange range.start range.stop with
    | ok months => exact rfl
    | error message => exact trivial
  refine lockStep_bind hmonths ?_
  rintro _ months rfl
  refine lockStep_forEach (fun rows json => json = encoding.rows kind rows) ?_ months rfl
  rintro rows _ month rfl
  exact lockStep_readMonth h manifest range kind month rows

theorem lockStep_readSelectedDailyRecords (h : steps.Computes config encoding)
    (hreader : handlerConfig.hasArtifactReader = true) (turns : List Bool) (manifest : Manifest)
    (range : DateRange) {kind : ArtifactKind} {block : MetricRow N kind → N}
    {blockchain : MetricRow N kind → String}
    (hselected : ∀ metricRows records,
      steps.selectedRecords (encoding.rows .metrics metricRows) (encoding.rows kind records) =
        .ok (encoding.rows kind (selectRecords metricRows block blockchain records))) :
    LockStep encoding.reads (fun rows json => json = encoding.rows kind rows)
      (Api.readSelectedDailyRecords turns manifest range kind block blockchain)
      (readSelectedDailyRecords handlerConfig steps turns (encoding.manifest manifest)
        (encoding.range range) kind) := by
  refine lockStep_bind (lockStep_both (lockStep_readArtifactRows h hreader manifest range .metrics)
    (lockStep_readArtifactRows h hreader manifest range kind) turns) ?_
  rintro ⟨metricRows, records⟩ ⟨_, _⟩ ⟨rfl, rfl⟩
  dsimp only
  rw [hselected]
  exact rfl

theorem lockStep_readDailyMetrics (h : steps.Computes config encoding)
    (hreader : handlerConfig.hasArtifactReader = true) (manifest : Manifest) (range : DateRange)
    (includeRecords : Bool) :
    LockStep encoding.reads (fun rows json => json = encoding.rows .metrics rows)
      (Api.readDailyMetrics manifest range includeRecords
        (config.generatedAt.getD manifest.generatedAt))
      (readDailyMetrics handlerConfig steps (encoding.manifest manifest) (encoding.range range)
        includeRecords) := by
  refine lockStep_bind (lockStep_readArtifactRows h hreader manifest range .metrics) ?_
  rintro metricRows _ rfl
  obtain ⟨metrics, hmetrics, hdaily⟩ := h.metricsByDate metricRows
  rw [hmetrics, compute_ok, ret_bind]
  cases includeRecords with
  | true =>
      refine lockStep_bind (lockStep_readArtifactRows h hreader manifest range .treasuryAssets) ?_
      rintro treasuryAssets _ rfl
      refine lockStep_bind (lockStep_readArtifactRows h hreader manifest range .ohmSupply) ?_
      rintro ohmSupply _ rfl
      dsimp only
      rw [hdaily]
      exact lockStep_compute_map (dateKeysForRange range) _ _
  | false =>
      change LockStep _ _ _ (compute (steps.dailyMetrics _ _ _ metrics
        (encoding.rows .treasuryAssets []) (encoding.rows .ohmSupply [])))
      rw [hdaily]
      exact lockStep_compute_map (dateKeysForRange range) _ _

theorem lockStep_readV2Data (h : steps.Computes config encoding)
    (hreader : handlerConfig.hasArtifactReader = true) (turns : List Bool) (manifest : Manifest)
    (range : DateRange) (endpoint : V2Endpoint) :
    LockStep encoding.reads (fun rows json => json = encoding.rows endpoint.kind rows)
      (Api.readV2Data turns manifest range (config.generatedAt.getD manifest.generatedAt) endpoint)
      (readV2Data handlerConfig steps turns (encoding.manifest manifest) (encoding.range range)
        endpoint) := by
  cases endpoint with
  | metricsDaily includeRecords =>
      dsimp only [readV2Data]
      rw [readGeneratedAt_eq, ret_bind]
      exact lockStep_readDailyMetrics h hreader manifest range includeRecords
  | treasuryAssetsDaily =>
      exact lockStep_readSelectedDailyRecords h hreader turns manifest range h.selectedAssets
  | ohmSupplyDaily =>
      exact lockStep_readSelectedDailyRecords h hreader turns manifest range h.selectedSupply

theorem lockStep_readLegacyOperation (h : steps.Computes config encoding)
    (hreader : handlerConfig.hasArtifactReader = true) (turns : List Bool) (pathname : String)
    (vars : LegacyVariables) (manifest : Manifest) :
    LockStep encoding.reads (fun data json => json = encoding.legacyData data)
      (Api.readLegacyOperation turns pathname vars config manifest)
      (readLegacyOperation handlerConfig steps turns pathname vars
        (encoding.manifest manifest)) := by
  unfold readLegacyOperation
  rw [h.resolveLegacyRange]
  refine lockStep_bind (lockStep_compute _ _) ?_
  rintro range _ rfl
  cases range with
  | none => exact rfl
  | some range =>
      dsimp only [Option.map_some]
      unfold readLegacyRange
      split
      · refine lockStep_bind
          (lockStep_readSelectedDailyRecords h hreader turns manifest range h.selectedAssets) ?_
        rintro records _ rfl
        rw [h.assetsDescending]
        exact rfl
      · split
        · refine lockStep_bind
            (lockStep_readSelectedDailyRecords h hreader turns manifest range h.selectedSupply) ?_
          rintro supplies _ rfl
          rw [h.supplyDescending]
          exact rfl
        · rw [readGeneratedAt_eq, ret_bind]
          refine lockStep_bind (lockStep_readDailyMetrics h hreader manifest range _) ?_
          rintro (metrics : List (MetricRow N .metrics)) _ rfl
          rw [h.legacyMetrics]
          exact rfl

end

end OlympusMetrics.Api.Http
