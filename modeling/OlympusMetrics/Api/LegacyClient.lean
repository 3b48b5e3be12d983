import OlympusMetrics.Api.SameRecords
import OlympusMetrics.Api.StoreFailures

/-!
The legacy operations of the API client and the requests that it makes of them.
-/

namespace OlympusMetrics.Api.Client

open Publisher

/-- A value of a field of an input; a number is kept as its literal. -/
inductive Scalar
  | bool (value : Bool)
  | number (literal : String)
  | string (value : String)

def Scalar.json : Scalar → Json
  | .bool value => .bool value
  | .number literal => .number literal
  | .string value => .string value

def quoteChar (c : Char) : String :=
  if c = '"' then "\\\"" else if c = '\\' then "\\\\" else String.singleton c

/-- The text of a string; control characters do not occur in the inputs. -/
def quote (value : String) : String :=
  "\"" ++ String.join (value.toList.map quoteChar) ++ "\""

def Scalar.text : Scalar → String
  | .bool value => if value then "true" else "false"
  | .number literal => literal
  | .string value => quote value

abbrev Fields := List (String × Scalar)

/-- `JSON.stringify` of an object, with what it is parsed to. -/
def stringify (fields : Fields) : QueryValue where
  text := "\x7b" ++ ",".intercalate (fields.map (fun entry => quote entry.1 ++ ":" ++ entry.2.text))
    ++ "\x7d"
  json := .ok (.object (fields.map (fun entry => (entry.1, entry.2.json))))
  decodedJson := .ok (.object (fields.map (fun entry => (entry.1, entry.2.json))))

/-! ### Inputs -/

/-- A field that is left out when it has no value. -/
def field {α : Type} (key : String) (scalar : α → Scalar) (value : Option α) : Fields :=
  value.toList.map (fun value => (key, scalar value))

structure IgnoreCacheInput where
  ignoreCache : Option Bool

structure PaginatedMetricsInput where
  startDate : String
  endDate : Option String
  dateOffset : Option String
  crossChainDataComplete : Option Bool
  includeRecords : Option Bool
  ignoreCache : Option Bool

structure PaginatedTokenRecordsInput where
  startDate : String
  endDate : Option String
  dateOffset : Option String
  crossChainDataComplete : Option Bool
  ignoreCache : Option Bool

structure PaginatedTokenSuppliesInput where
  startDate : String
  endDate : Option String
  dateOffset : Option String
  crossChainDataComplete : Option Bool
  ignoreCache : Option Bool

structure PaginatedProtocolMetricsInput where
  startDate : String
  endDate : Option String
  dateOffset : Option String
  ignoreCache : Option Bool

structure AtBlockInput where
  arbitrumBlock : String
  ethereumBlock : String
  fantomBlock : String
  polygonBlock : String
  baseBlock : String
  berachainBlock : String

def AtBlockInput.fields (input : AtBlockInput) : Fields :=
  [("arbitrumBlock", .number input.arbitrumBlock), ("ethereumBlock", .number input.ethereumBlock),
    ("fantomBlock", .number input.fantomBlock), ("polygonBlock", .number input.polygonBlock),
    ("baseBlock", .number input.baseBlock), ("berachainBlock", .number input.berachainBlock)]

/-- The fields that the inputs of the operations on published data have between them. -/
structure DataInput where
  startDate : Option String := none
  endDate : Option String := none
  dateOffset : Option String := none
  crossChainDataComplete : Option Bool := none
  includeRecords : Option Bool := none
  ignoreCache : Option Bool := none

def DataInput.fields (input : DataInput) : Fields :=
  field "startDate" .string input.startDate ++ field "endDate" .string input.endDate ++
    field "dateOffset" .number input.dateOffset ++
    field "crossChainDataComplete" .bool input.crossChainDataComplete ++
    field "includeRecords" .bool input.includeRecords ++
    field "ignoreCache" .bool input.ignoreCache

/-! ### Operations -/

inductive LegacyWindow
  | latest | earliest | paginated
  deriving DecidableEq

inductive LegacyTable
  | metrics | tokenRecords | tokenSupplies | protocolMetrics
  deriving DecidableEq

/-- The keys of `Operations`. -/
inductive LegacyOperation
  | health
  | data (window : LegacyWindow) (table : LegacyTable)
  | atBlock (table : LegacyTable)

def LegacyWindow.name : LegacyWindow → String
  | .latest => "latest"
  | .earliest => "earliest"
  | .paginated => "paginated"

def LegacyTable.name : LegacyTable → String
  | .metrics => "metrics"
  | .tokenRecords => "tokenRecords"
  | .tokenSupplies => "tokenSupplies"
  | .protocolMetrics => "protocolMetrics"

def LegacyOperation.name : LegacyOperation → String
  | .health => "health"
  | .data window table => window.name ++ "/" ++ table.name
  | .atBlock .protocolMetrics => "atBlock/internal/protocolMetrics"
  | .atBlock table => "atBlock/" ++ table.name

/-- The type of the input of an operation; that of `health` has no value. -/
def LegacyOperation.Input : LegacyOperation → Type
  | .health => Empty
  | .data .paginated .metrics => PaginatedMetricsInput
  | .data .paginated .tokenRecords => PaginatedTokenRecordsInput
  | .data .paginated .tokenSupplies => PaginatedTokenSuppliesInput
  | .data .paginated .protocolMetrics => PaginatedProtocolMetricsInput
  | .data _ _ => IgnoreCacheInput
  | .atBlock _ => AtBlockInput

def dataInput : (window : LegacyWindow) → (table : LegacyTable) →
    (LegacyOperation.data window table).Input → DataInput
  | .paginated, .metrics, (input : PaginatedMetricsInput) =>
      { startDate := input.startDate
        endDate := input.endDate
        dateOffset := input.dateOffset
        crossChainDataComplete := input.crossChainDataComplete
        includeRecords := input.includeRecords
        ignoreCache := input.ignoreCache }
  | .paginated, .tokenRecords, (input : PaginatedTokenRecordsInput) =>
      { startDate := input.startDate
        endDate := input.endDate
        dateOffset := input.dateOffset
        crossChainDataComplete := input.crossChainDataComplete
        ignoreCache := input.ignoreCache }
  | .paginated, .tokenSupplies, (input : PaginatedTokenSuppliesInput) =>
      { startDate := input.startDate
        endDate := input.endDate
        dateOffset := input.dateOffset
        crossChainDataComplete := input.crossChainDataComplete
        ignoreCache := input.ignoreCache }
  | .paginated, .protocolMetrics, (input : PaginatedProtocolMetricsInput) =>
      { startDate := input.startDate
        endDate := input.endDate
        dateOffset := input.dateOffset
        ignoreCache := input.ignoreCache }
  | .latest, _, (input : IgnoreCacheInput) => { ignoreCache := input.ignoreCache }
  | .earliest, _, (input : IgnoreCacheInput) => { ignoreCache := input.ignoreCache }

/-- The fields that an input is serialized with. -/
def LegacyOperation.fields : (operation : LegacyOperation) → operation.Input → Fields
  | .health, input => input.elim
  | .data window table, input => (dataInput window table input).fields
  | .atBlock _, (input : AtBlockInput) => input.fields

def getLegacyOperationPath (operationName : String) : String := "/operations/" ++ operationName

/-- The request of `TreasurySubgraphClient.query`. -/
def query (operation : LegacyOperation) (input : Option operation.Input) : HttpRequest :=
  getRequest (getLegacyOperationPath operation.name)
    (legacyParams (input.map (fun input => stringify (operation.fields input))))

/-! ### Variables -/

/-- What the text of an input is parsed to. -/
def variablesOf (fields : Fields) : LegacyVariables :=
  fields.map (fun entry => (entry.1, entry.2.json))

theorem variablesOf_append (fields fields' : Fields) :
    variablesOf (fields ++ fields') = variablesOf fields ++ variablesOf fields' :=
  List.map_append

theorem unsupportedVariables_append (vars vars' : LegacyVariables) :
    unsupportedVariables (vars ++ vars') =
      unsupportedVariables vars ++ unsupportedVariables vars' := by
  simp [unsupportedVariables]

theorem unsupportedVariables_field {α : Type} {key : String} (scalar : α → Scalar)
    (value : Option α)
    (hkey : key ∈ legacyVariableKeys ∨ key ∈ legacyIgnoredVariableKeys) :
    unsupportedVariables (variablesOf (field key scalar value)) = [] := by
  cases value with
  | none => rfl
  | some value =>
      rcases hkey with hkey | hkey
      · simp [unsupportedVariables, variablesOf, field, hkey]
      · simp [unsupportedVariables, variablesOf, field, hkey]

/-- The only field of the inputs that the server does not take. -/
theorem unsupportedVariables_fields (input : DataInput) :
    unsupportedVariables (variablesOf input.fields) =
      input.ignoreCache.toList.map (fun _ => "ignoreCache") := by
  have hignore : unsupportedVariables (variablesOf (field "ignoreCache" .bool input.ignoreCache)) =
      input.ignoreCache.toList.map (fun _ => "ignoreCache") := by
    cases input.ignoreCache with
    | none => rfl
    | some value => decide +revert
  unfold DataInput.fields
  simp only [variablesOf_append, unsupportedVariables_append, hignore]
  rw [unsupportedVariables_field _ _ (by decide), unsupportedVariables_field _ _ (by decide),
    unsupportedVariables_field _ _ (by decide), unsupportedVariables_field _ _ (by decide),
    unsupportedVariables_field _ _ (by decide)]
  rfl

theorem lookup_filter (p : String → Bool) (vars : LegacyVariables) (key : String) :
    (vars.filter (fun entry => p entry.1)).lookup key = if p key then vars.lookup key else none := by
  induction vars with
  | nil => simp
  | cons entry vars ih =>
      obtain ⟨name, value⟩ := entry
      by_cases hname : key = name
      · subst hname
        by_cases hp : p key = true
        · simp [hp]
        · simp [hp, ih]
      · have hne : (key == name) = false := beq_eq_false_iff_ne.mpr hname
        by_cases hp : p name = true
        · simp [List.lookup_cons, hp, hne, ih]
        · simp [List.lookup_cons, hp, hne, ih]

theorem lookup_variablesOf_field {α : Type} (key name : String) (scalar : α → Scalar)
    (value : Option α) : (variablesOf (field name scalar value)).lookup key =
      if key = name then value.map (fun value => (scalar value).json) else none := by
  cases value with
  | none => simp [variablesOf, field]
  | some value =>
      by_cases h : key = name
      · simp [variablesOf, field, h]
      · have hne : (key == name) = false := beq_eq_false_iff_ne.mpr h
        simp [variablesOf, field, List.lookup_cons, h, hne]

theorem parseLegacyVariables_stringify (fields : Fields) :
    parseLegacyVariables (some (stringify fields)) = validateLegacyVariables (variablesOf fields) := by
  have htext : (stringify fields).text ≠ "" := by
    intro h
    have hlength := congrArg String.length h
    simp [stringify] at hlength
  unfold parseLegacyVariables
  simp only [htext, if_false]
  rfl

/-- The variables of an input that the server goes on with. -/
def acceptedVariables (input : DataInput) : LegacyVariables :=
  (variablesOf input.fields).filter (fun entry => legacyVariableKeys.contains entry.1)

theorem validateLegacyVariables_fields {input : DataInput} (h : input.ignoreCache = none) :
    validateLegacyVariables (variablesOf input.fields) = .ok (acceptedVariables input) := by
  have hnone : unsupportedVariables (variablesOf input.fields) = [] := by
    rw [unsupportedVariables_fields, h]
    rfl
  unfold validateLegacyVariables
  rw [if_pos hnone]
  rfl

theorem validateLegacyVariables_ignoreCache {input : DataInput} {value : Bool}
    (h : input.ignoreCache = some value) : validateLegacyVariables (variablesOf input.fields) =
      .error "Unsupported wg_variables field(s): ignoreCache" := by
  have hsome : unsupportedVariables (variablesOf input.fields) = ["ignoreCache"] := by
    rw [unsupportedVariables_fields, h]
    rfl
  unfold validateLegacyVariables
  rw [hsome]
  rfl

theorem lookup_acceptedVariables (input : DataInput) {key : String}
    (hkey : key ∈ legacyVariableKeys) : (acceptedVariables input).lookup key =
      (variablesOf input.fields).lookup key := by
  unfold acceptedVariables
  rw [lookup_filter (fun name => legacyVariableKeys.contains name)]
  simp [hkey]

theorem lookup_fields (input : DataInput) (key : String) :
    (variablesOf input.fields).lookup key =
      ((((((if key = "startDate" then input.startDate.map Json.string else none).or
        (if key = "endDate" then input.endDate.map Json.string else none)).or
        (if key = "dateOffset" then input.dateOffset.map Json.number else none)).or
        (if key = "crossChainDataComplete" then input.crossChainDataComplete.map Json.bool
          else none)).or
        (if key = "includeRecords" then input.includeRecords.map Json.bool else none)).or
        (if key = "ignoreCache" then input.ignoreCache.map Json.bool else none)) := by
  unfold DataInput.fields
  simp only [variablesOf_append, List.lookup_append, lookup_variablesOf_field]
  rfl

/-! ### Ranges -/

theorem not_blank {date : String} (h : IsDate date) : date.toList.all isWhiteSpace = false := by
  obtain ⟨parsed, hparsed⟩ := h
  unfold Publisher.parseDate at hparsed
  split at hparsed
  · next y1 y2 y3 y4 m1 m2 d1 d2 hchars =>
      have hhyphen : isWhiteSpace '-' = false := by decide
      rw [hchars]
      simp [hhyphen]
  · exact nomatch hparsed

theorem legacyString_accepted {input : DataInput} {key : String} {value : Option String}
    (hkey : key ∈ legacyVariableKeys)
    (hlookup : (variablesOf input.fields).lookup key = value.map Json.string)
    (hdate : ∀ date, value = some date → IsDate date) :
    legacyString (acceptedVariables input) key = value := by
  unfold legacyString
  rw [lookup_acceptedVariables input hkey, hlookup]
  cases value with
  | none => rfl
  | some date => simp [not_blank (hdate date rfl)]

theorem legacyStart_accepted {input : DataInput} {manifest : Manifest}
    (hdate : ∀ date, input.startDate = some date → IsDate date) :
    legacyStart (acceptedVariables input) manifest =
      input.startDate.getD manifest.earliestDate := by
  have hstartDate : legacyString (acceptedVariables input) "startDate" = input.startDate :=
    legacyString_accepted (by decide) (by simp [lookup_fields]) hdate
  have hstart : legacyString (acceptedVariables input) "start" = none :=
    legacyString_accepted (by decide) (by simp [lookup_fields]) (fun _ h => nomatch h)
  unfold legacyStart
  rw [hstartDate, hstart, Option.or_none]

theorem legacyEnd_accepted {input : DataInput} {manifest : Manifest}
    (hdate : ∀ date, input.endDate = some date → IsDate date) :
    legacyEnd (acceptedVariables input) manifest = input.endDate.getD manifest.latestDate := by
  have hendDate : legacyString (acceptedVariables input) "endDate" = input.endDate :=
    legacyString_accepted (by decide) (by simp [lookup_fields]) hdate
  have hend : legacyString (acceptedVariables input) "end" = none :=
    legacyString_accepted (by decide) (by simp [lookup_fields]) (fun _ h => nomatch h)
  unfold legacyEnd
  rw [hendDate, hend, Option.or_none]

/-- The bounds that a publication has. -/
structure PublishedBounds (manifest : Manifest) : Prop where
  earliest_isDate : IsDate manifest.earliestDate
  latest_isDate : IsDate manifest.latestDate
  le : dayOf manifest.earliestDate ≤ dayOf manifest.latestDate

/-- Two dates in order that are within the cap of the server. -/
structure Fits (maxRangeDays : Option ℕ) (start stop : String) : Prop where
  start_isDate : IsDate start
  stop_isDate : IsDate stop
  le : dayOf start ≤ dayOf stop
  cap : ∀ maxDays, maxRangeDays = some maxDays → dayOf stop + 1 ≤ dayOf start + maxDays

theorem Fits.resolve {maxRangeDays : Option ℕ} {start stop : String} (h : Fits maxRangeDays start stop)
    (latestDate : String) : resolveDateRange start (some stop) latestDate maxRangeDays true =
      .ok { start := start, stop := stop, days := dayOf stop - dayOf start + 1 } :=
  @resolveDateRange_eq start latestDate (some stop) maxRangeDays true h.start_isDate h.stop_isDate
    h.le h.cap

theorem Fits.isOk {maxRangeDays : Option ℕ} {start stop : String} (h : Fits maxRangeDays start stop)
    (latestDate : String) : ∃ range,
      (resolveDateRange start (some stop) latestDate maxRangeDays true).map some = .ok range := by
  rw [h.resolve]
  exact ⟨_, rfl⟩

/-- A range that fits still does where it is cut to the published bounds. -/
theorem Fits.cut {maxRangeDays : Option ℕ} {start stop : String} {manifest : Manifest}
    (h : Fits maxRangeDays start stop) (hbounds : PublishedBounds manifest)
    (hearliest : ¬ stop < manifest.earliestDate) (hlatest : ¬ manifest.latestDate < start) :
    Fits maxRangeDays (if start < manifest.earliestDate then manifest.earliestDate else start)
      (if manifest.latestDate < stop then manifest.latestDate else stop) := by
  have hle := hbounds.le
  have hstart := h.start_isDate
  have hstop := h.stop_isDate
  rw [hstop.lt_iff hbounds.earliest_isDate] at hearliest
  rw [hbounds.latest_isDate.lt_iff hstart] at hlatest
  simp only [hstart.lt_iff hbounds.earliest_isDate, hbounds.latest_isDate.lt_iff hstop]
  have hordered := h.le
  split
  · split
    · exact ⟨hbounds.earliest_isDate, hbounds.latest_isDate, hle,
        fun maxDays hmax => by have := h.cap maxDays hmax; omega⟩
    · exact ⟨hbounds.earliest_isDate, hstop, by omega,
        fun maxDays hmax => by have := h.cap maxDays hmax; omega⟩
  · split
    · exact ⟨hstart, hbounds.latest_isDate, by omega,
        fun maxDays hmax => by have := h.cap maxDays hmax; omega⟩
    · exact h

/-! ### Answers -/

/-- The first date that an operation asks for. -/
def requestedStart (window : LegacyWindow) (input : Option DataInput) (manifest : Manifest) :
    String :=
  match window with
  | .latest => manifest.latestDate
  | .earliest => manifest.earliestDate
  | .paginated => (input.bind (·.startDate)).getD manifest.earliestDate

/-- The last date that an operation asks for. -/
def requestedEnd (window : LegacyWindow) (input : Option DataInput) (manifest : Manifest) :
    String :=
  match window with
  | .latest => manifest.latestDate
  | .earliest => manifest.earliestDate
  | .paginated => (input.bind (·.endDate)).getD manifest.latestDate

/-- The range of an operation on published data, after defaulting to the published bounds. -/
def RangeFits (config : MetricsApiConfig) (manifest : Manifest) :
    (operation : LegacyOperation) → Option operation.Input → Prop
  | .data window table, input =>
      Fits config.maxRangeDays
        (requestedStart window (input.map (dataInput window table)) manifest)
        (requestedEnd window (input.map (dataInput window table)) manifest)
  | _, _ => True

/-- The input of an operation on published data has the field `ignoreCache`. -/
def setsIgnoreCache : (operation : LegacyOperation) → Option operation.Input → Bool
  | .data window table, input => (input.bind (fun input => (dataInput window table input).ignoreCache)).isSome
  | _, _ => false

/-- The variables that the server reads from a request. -/
def serverVariables (input : Option DataInput) : LegacyVariables :=
  match input with
  | none => []
  | some input => acceptedVariables input

theorem startsWith_path (window : LegacyWindow) (table : LegacyTable) :
    startsWith (getLegacyOperationPath (LegacyOperation.data window table).name)
        "/operations/latest/" = decide (window = .latest) ∧
      startsWith (getLegacyOperationPath (LegacyOperation.data window table).name)
        "/operations/earliest/" = decide (window = .earliest) := by
  cases window <;> cases table <;> decide

theorem path_mem (window : LegacyWindow) (table : LegacyTable) :
    getLegacyOperationPath (LegacyOperation.data window table).name ∈ legacyOperationPaths ∧
      getLegacyOperationPath (LegacyOperation.data window table).name ≠ "/operations/health" := by
  cases window <;> cases table <;> decide

theorem legacyStart_serverVariables {input : Option DataInput} {manifest : Manifest}
    (h : IsDate (requestedStart .paginated input manifest)) :
    legacyStart (serverVariables input) manifest = requestedStart .paginated input manifest := by
  cases input with
  | none => rfl
  | some input =>
      refine legacyStart_accepted (fun date hdate => ?_)
      simpa [requestedStart, hdate] using h

theorem legacyEnd_serverVariables {input : Option DataInput} {manifest : Manifest}
    (h : IsDate (requestedEnd .paginated input manifest)) :
    legacyEnd (serverVariables input) manifest = requestedEnd .paginated input manifest := by
  cases input with
  | none => rfl
  | some input =>
      refine legacyEnd_accepted (fun date hdate => ?_)
      simpa [requestedEnd, hdate] using h

theorem resolveLegacyRange_isOk {maxRangeDays : Option ℕ} {manifest : Manifest}
    (hbounds : PublishedBounds manifest) (window : LegacyWindow) (table : LegacyTable)
    (input : Option DataInput)
    (hfits : Fits maxRangeDays (requestedStart window input manifest)
      (requestedEnd window input manifest)) :
    ∃ range, resolveLegacyRange
      (getLegacyOperationPath (LegacyOperation.data window table).name) (serverVariables input)
        manifest maxRangeDays = .ok range := by
  unfold resolveLegacyRange
  simp only [startsWith_path window table]
  cases window with
  | latest => exact hfits.isOk manifest.latestDate
  | earliest => exact hfits.isOk manifest.latestDate
  | paginated =>
      simp only [legacyStart_serverVariables hfits.start_isDate,
        legacyEnd_serverVariables hfits.stop_isDate, hfits.resolve, Process.except_ok_bind]
      by_cases houtside : requestedEnd .paginated input manifest < manifest.earliestDate ∨
          manifest.latestDate < requestedStart .paginated input manifest
      · simp only [houtside]
        exact ⟨none, rfl⟩
      · obtain ⟨hearliest, hlatest⟩ := not_or.mp houtside
        simp only [houtside]
        exact (hfits.cut hbounds hearliest hlatest).isOk manifest.latestDate

section

variable {N : Type} [Zero N] [DecidableEq N] [Add N] [Div N]

/-- What the server answers to a request for an operation. -/
def IsAnswered (answer : StoreAnswer N) (config : MetricsApiConfig) (operation : LegacyOperation)
    (request : HttpRequest) : Prop :=
  match operation with
  | .health => Sends answer config request .health
  | .data _ _ => ∃ data, Sends answer config request (.legacy data)
  | .atBlock _ => ∀ turns, (handleMetricsApiRequest turns config request).eval answer =
      .ok (some { status := 501, body := .atBlockUnsupported })

variable {json : Serialization (MetricRow N)} {objects : Objects (MetricRow N)}
  {config : MetricsApiConfig} {manifest : Manifest}

/-- An operation on published data answers variables that are accepted with data. -/
theorem sends_data (hmanifest : FindsManifest (answers json objects) config manifest)
    (hbounds : PublishedBounds manifest) (hcontents : ShardContents objects manifest)
    (window : LegacyWindow) (table : LegacyTable) (input : Option DataInput)
    (hfits : Fits config.maxRangeDays (requestedStart window input manifest)
      (requestedEnd window input manifest))
    {wgVariables : Option QueryValue}
    (hvars : parseLegacyVariables wgVariables = .ok (serverVariables input)) :
    ∃ data, Sends (answers json objects) config
      (getRequest (getLegacyOperationPath (LegacyOperation.data window table).name)
        (legacyParams wgVariables)) (.legacy data) := by
  obtain ⟨hpath, hhealth⟩ := path_mem window table
  obtain ⟨resolved, hresolved⟩ := resolveLegacyRange_isOk hbounds window table input hfits
  cases resolved with
  | none =>
      exact ⟨.empty, sends_legacy hpath hhealth hvars hmanifest
        (eval_readLegacyOperation_of_none hresolved)⟩
  | some range =>
      obtain ⟨start, stop, hrange⟩ := exists_resolve_of_legacy hresolved
      have hcovers := covers_of_resolve hrange
      choose rows hreads _ using
        @ShardContents.rangeRead N json objects manifest range _ _ hcontents hcovers
      exact ⟨_, sends_legacy hpath hhealth hvars hmanifest
        (eval_readLegacyOperation_of_reads hresolved hreads hcovers.dateKeysForRange)⟩

/-- Variables that are not accepted are answered with status 400. -/
theorem eval_invalid_variables {answer : StoreAnswer N} (window : LegacyWindow)
    (table : LegacyTable) {wgVariables : Option QueryValue} {message : String}
    (hvars : parseLegacyVariables wgVariables = .error message) (turns : List Bool) :
    (handleMetricsApiRequest turns config
      (getRequest (getLegacyOperationPath (LegacyOperation.data window table).name)
        (legacyParams wgVariables))).eval answer =
      .ok (some (sendError 400 "invalid_wg_variables" message)) := by
  obtain ⟨hpath, hhealth⟩ := path_mem window table
  refine eval_getRequest (validateQueryParams_legacyParams
    (supportedQueryParamsForPath_legacy hpath) wgVariables) ?_
  rw [handlePath_legacy hpath hhealth]
  unfold handleLegacyRequest
  rw [get_legacyParams, hvars]
  rfl

theorem sends_health {answer : StoreAnswer N} (input : Option LegacyOperation.health.Input) :
    Sends answer config (query .health input) .health := by
  intro turns
  obtain rfl : input = none := by
    cases input with
    | none => rfl
    | some input => exact input.elim
  refine eval_getRequest (validateQueryParams_legacyParams (by decide) none) ?_
  have hpath : getLegacyOperationPath LegacyOperation.health.name = "/operations/health" := by decide
  rw [hpath]
  have hblock : "/operations/health" ∉ legacyAtBlockPaths := by decide
  unfold handlePath
  simp [hblock]

theorem eval_atBlock {answer : StoreAnswer N} (table : LegacyTable)
    (input : Option (LegacyOperation.atBlock table).Input) (turns : List Bool) :
    (handleMetricsApiRequest turns config (query (.atBlock table) input)).eval answer =
      .ok (some { status := 501, body := .atBlockUnsupported }) := by
  have hpath : getLegacyOperationPath (LegacyOperation.atBlock table).name ∈ legacyAtBlockPaths ∧
      supportedQueryParamsForPath (getLegacyOperationPath (LegacyOperation.atBlock table).name) =
        some ["wg_variables"] := by
    cases table <;> decide
  have hother : ∀ path ∈ legacyAtBlockPaths,
      path ∉ ["/ready", "/openapi.json", "/docs", "/v2/bounds", "/v2/metrics/daily",
        "/v2/treasury-assets/daily", "/v2/ohm-supply/daily"] := by
    decide
  refine eval_getRequest (validateQueryParams_legacyParams hpath.2 _) ?_
  have hfixed := hother _ hpath.1
  simp only [List.mem_cons, not_or] at hfixed
  unfold handlePath
  simp only [hfixed, hpath.1, if_true, if_false]
  rfl

/-- The request for an operation is answered with its data, or with status 501 for the operations at
a block, exactly when the input does not set `ignoreCache`. -/
theorem query_isAnswered_iff (json : Serialization (MetricRow N)) (objects : Objects (MetricRow N))
    (config : MetricsApiConfig) (manifest : Manifest)
    (hmanifest : FindsManifest (answers json objects) config manifest)
    (hbounds : PublishedBounds manifest) (hcontents : ShardContents objects manifest)
    (operation : LegacyOperation) (input : Option operation.Input)
    (hrange : RangeFits config manifest operation input) :
    IsAnswered (answers json objects) config operation (query operation input) ↔
      setsIgnoreCache operation input = false := by
  cases operation with
  | health => exact iff_of_true (sends_health input) rfl
  | atBlock table => exact iff_of_true (eval_atBlock table input) rfl
  | data window table =>
      cases input with
      | none => exact iff_of_true (sends_data hmanifest hbounds hcontents window table none hrange rfl) rfl
      | some input =>
          have hparse := parseLegacyVariables_stringify (dataInput window table input).fields
          cases hignore : (dataInput window table input).ignoreCache with
          | none =>
              refine iff_of_true ?_ (by simp [setsIgnoreCache, hignore])
              rw [validateLegacyVariables_fields hignore] at hparse
              exact sends_data hmanifest hbounds hcontents window table
                (some (dataInput window table input)) hrange hparse
          | some value =>
              refine iff_of_false ?_ (by simp [setsIgnoreCache, hignore])
              rw [validateLegacyVariables_ignoreCache hignore] at hparse
              rintro ⟨data, hdata⟩
              have hrefused : (handleMetricsApiRequest [] config
                  (query (.data window table) (some input))).eval (answers json objects) =
                    .ok (some (sendError 400 "invalid_wg_variables" _)) :=
                eval_invalid_variables window table hparse []
              have hboth := Option.some.inj (Except.ok.inj ((hdata []).symm.trans hrefused))
              exact nomatch congrArg HttpResponse.body hboth

end

section

/-- A store with a metric for one day. -/
def leapDayMetricStore : Objects (MetricRow ℤ) :=
  singleMetricStore ℤ "2024-02-29" (dayOf "2024-02-29")

def emptySerialization : Serialization (MetricRow ℤ) where
  sha256 := fun _ => ""
  byteLength := fun _ => 0

theorem serves_leapDayMetricStore :
    Serves emptySerialization leapDayMetricStore { maxRangeDays := some 1 }
      (bareManifest "2024-02-29") :=
  serves_singleMetricStore _ (IsDate.inCalendar ⟨⟨2024, 2, 29⟩, by rfl⟩) rfl

theorem publishedBounds_leapDay : PublishedBounds (bareManifest "2024-02-29") where
  earliest_isDate := ⟨⟨2024, 2, 29⟩, by rfl⟩
  latest_isDate := ⟨⟨2024, 2, 29⟩, by rfl⟩
  le := le_refl _

theorem fits_leapDay : Fits (some 1) "2024-02-29" "2024-02-29" where
  start_isDate := ⟨⟨2024, 2, 29⟩, by rfl⟩
  stop_isDate := ⟨⟨2024, 2, 29⟩, by rfl⟩
  le := le_refl _
  cap := by
    intro maxDays h
    obtain rfl := Option.some.inj h
    exact le_refl _

theorem leap_day_query_isAnswered :
    IsAnswered (answers emptySerialization leapDayMetricStore) { maxRangeDays := some 1 }
        (.data .paginated .tokenRecords)
        (query (.data .paginated .tokenRecords)
          (some (⟨"2024-02-29", none, some "-1", some true, none⟩ : PaginatedTokenRecordsInput))) ↔
      setsIgnoreCache (.data .paginated .tokenRecords)
        (some (⟨"2024-02-29", none, some "-1", some true, none⟩ : PaginatedTokenRecordsInput)) =
          false :=
  query_isAnswered_iff emptySerialization leapDayMetricStore { maxRangeDays := some 1 }
    (bareManifest "2024-02-29") serves_leapDayMetricStore.found publishedBounds_leapDay
    serves_leapDayMetricStore.publication.shardContents (.data .paginated .tokenRecords)
    (some (⟨"2024-02-29", none, some "-1", some true, none⟩ : PaginatedTokenRecordsInput))
    fits_leapDay

/-- An operation without a range of its own is refused for a field that its type allows. -/
theorem ignoreCache_refused :
    RangeFits { maxRangeDays := some 1 } (bareManifest "2024-02-29") (.data .latest .metrics)
        (some (⟨some true⟩ : IgnoreCacheInput)) ∧
      (handleMetricsApiRequest [] { maxRangeDays := some 1 } (query (.data .latest .metrics)
          (some (⟨some true⟩ : IgnoreCacheInput)))).eval
            (answers emptySerialization leapDayMetricStore) =
        .ok (some (sendError 400 "invalid_wg_variables"
          "Unsupported wg_variables field(s): ignoreCache")) ∧
      ¬ IsAnswered (answers emptySerialization leapDayMetricStore) { maxRangeDays := some 1 }
        (.data .latest .metrics)
        (query (.data .latest .metrics) (some (⟨some true⟩ : IgnoreCacheInput))) := by
  have hparse := parseLegacyVariables_stringify
    (dataInput .latest .metrics (⟨some true⟩ : IgnoreCacheInput)).fields
  rw [@validateLegacyVariables_ignoreCache _ true rfl] at hparse
  have hrefused : (handleMetricsApiRequest [] { maxRangeDays := some 1 }
      (query (.data .latest .metrics) (some (⟨some true⟩ : IgnoreCacheInput)))).eval
        (answers emptySerialization leapDayMetricStore) =
          .ok (some (sendError 400 "invalid_wg_variables" _)) :=
    eval_invalid_variables .latest .metrics hparse []
  refine ⟨fits_leapDay, hrefused, ?_⟩
  rintro ⟨data, hdata⟩
  have hboth := Option.some.inj (Except.ok.inj ((hdata []).symm.trans hrefused))
  exact nomatch congrArg HttpResponse.body hboth

end

end OlympusMetrics.Api.Client
