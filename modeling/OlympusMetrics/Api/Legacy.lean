import OlympusMetrics.Api.Server

/-!
The legacy operations of the metrics API: their variables, their ranges and the
data that they answer with.
-/

namespace OlympusMetrics.Api

open Publisher

/-- A JSON value; a number is kept as its literal, and the keys of an object are distinct. -/
inductive Json
  | null
  | bool (value : Bool)
  | number (literal : String)
  | string (value : String)
  | array (items : List Json)
  | object (entries : List (String × Json))

/-- The value of a query parameter, with what `JSON.parse` makes of its text and of its decoded
text. -/
structure QueryValue where
  text : String
  json : Except String Json
  decodedJson : Except String Json

abbrev LegacyVariables := List (String × Json)

/-! ### Variables -/

/-- `LEGACY_VARIABLE_KEYS`. -/
def legacyVariableKeys : List String :=
  ["startDate", "start", "endDate", "end", "includeRecords", "crossChainDataComplete"]

/-- `LEGACY_IGNORED_VARIABLE_KEYS`. -/
def legacyIgnoredVariableKeys : List String := ["dateOffset"]

def parseLegacyVariablesJson (value : QueryValue) : Except String LegacyVariables := do
  let parsed ← match value.json with
    | .ok parsed => .ok parsed
    | .error _ => value.decodedJson
  match parsed with
  | .object entries => .ok entries
  | _ => .error "wg_variables must be a JSON object."

/-- The keys that the operations do not take. -/
def unsupportedVariables (vars : LegacyVariables) : List String :=
  (vars.map Prod.fst).filter
    (fun key => !legacyVariableKeys.contains key && !legacyIgnoredVariableKeys.contains key)

def validateLegacyVariables (vars : LegacyVariables) : Except String LegacyVariables :=
  if unsupportedVariables vars = [] then
    .ok (vars.filter (fun entry => legacyVariableKeys.contains entry.1))
  else
    .error ("Unsupported wg_variables field(s): " ++
      ", ".intercalate (unsupportedVariables vars))

/-- The first `wg_variables` of a request, if it has one. -/
def parseLegacyVariables (value : Option QueryValue) : Except String LegacyVariables :=
  match value with
  | none => .ok []
  | some value =>
      if value.text = "" then .ok []
      else parseLegacyVariablesJson value >>= validateLegacyVariables

/-- What `String.prototype.trim` removes. -/
def isWhiteSpace (c : Char) : Bool :=
  c.toNat ∈ [0x9, 0xA, 0xB, 0xC, 0xD, 0x20, 0xA0, 0x1680, 0x2028, 0x2029, 0x202F, 0x205F, 0x3000,
    0xFEFF] || (0x2000 ≤ c.toNat && c.toNat ≤ 0x200A)

def legacyString (vars : LegacyVariables) (key : String) : Option String :=
  match vars.lookup key with
  | some (.string value) => if value.toList.all isWhiteSpace then none else some value
  | _ => none

/-- Whether a variable is set to `true`. -/
def legacyFlag (vars : LegacyVariables) (key : String) : Bool :=
  match vars.lookup key with
  | some (.bool value) => value
  | _ => false

/-! ### Ranges -/

/-- The first date that an operation asks for. -/
def legacyStart (vars : LegacyVariables) (manifest : Manifest) : String :=
  ((legacyString vars "startDate").or (legacyString vars "start")).getD manifest.earliestDate

/-- The last date that an operation asks for. -/
def legacyEnd (vars : LegacyVariables) (manifest : Manifest) : String :=
  ((legacyString vars "endDate").or (legacyString vars "end")).getD manifest.latestDate

def resolveLegacyRange (pathname : String) (vars : LegacyVariables) (manifest : Manifest)
    (maxRangeDays : Option ℕ) : Except String (Option DateRange) :=
  let resolve (start stop : String) :=
    resolveDateRange start (some stop) manifest.latestDate maxRangeDays true
  if startsWith pathname "/operations/latest/" then
    (resolve manifest.latestDate manifest.latestDate).map some
  else if startsWith pathname "/operations/earliest/" then
    (resolve manifest.earliestDate manifest.earliestDate).map some
  else do
    let requestedRange ← resolve (legacyStart vars manifest) (legacyEnd vars manifest)
    if requestedRange.stop < manifest.earliestDate ∨ manifest.latestDate < requestedRange.start then
      .ok none
    else
      (resolve
        (if requestedRange.start < manifest.earliestDate then manifest.earliestDate
          else requestedRange.start)
        (if manifest.latestDate < requestedRange.stop then manifest.latestDate
          else requestedRange.stop)).map some

/-! ### Data -/

variable {N : Type}

/-- Later dates first; rows of one date stay in their order. -/
def legacyRowsDescending {α : Type} (date : α → String) (rows : List α) : List α :=
  rows.insertionSort (fun a b => date b ≤ date a)

structure ProtocolMetric (N : Type) where
  id : String
  block : N
  currentAPY : N
  currentIndex : N
  date : String
  gOhmPrice : N
  gOhmTotalSupply : N
  nextDistributedOhm : N
  nextEpochRebase : N
  ohmPrice : N
  ohmTotalSupply : N
  sOhmCirculatingSupply : N
  timestamp : N
  totalValueLocked : N

/-- What the operations answer with. -/
inductive LegacyData (N : Type)
  /-- No rows, as the range lies outside of the published dates. -/
  | empty
  | metric (metric : DailyMetric N)
  | metrics (metrics : List (DailyMetric N))
  | tokenRecords (records : List (TreasuryAsset N))
  | tokenSupplies (supplies : List (OhmSupply N))
  | protocolMetrics (metrics : List (ProtocolMetric N))

section

variable [Zero N] [DecidableEq N] [Div N]

def dailyMetricToProtocolMetric (metric : DailyMetric N) : ProtocolMetric N where
  id := "protocol-metric-" ++ metric.date
  block := metric.blocks .ethereum
  currentAPY := metric.ohmApy
  currentIndex := metric.ohmIndex
  date := metric.date
  gOhmPrice := metric.gOhmPrice
  gOhmTotalSupply := if metric.ohmIndex = 0 then 0 else metric.ohmTotalSupply / metric.ohmIndex
  nextDistributedOhm := 0
  nextEpochRebase := 0
  ohmPrice := metric.ohmPrice
  ohmTotalSupply := metric.ohmTotalSupply
  sOhmCirculatingSupply := metric.sOhmCirculatingSupply
  timestamp := metric.timestamps .ethereum
  totalValueLocked := metric.sOhmTotalValueLocked

variable [Add N]

/-- What an operation on metrics makes of those of its range. -/
def legacyMetrics (pathname : String) (vars : LegacyVariables) (range : DateRange)
    (generatedAt : ℕ) (metrics : List (DailyMetric N)) : LegacyData N :=
  let filteredMetrics :=
    if legacyFlag vars "crossChainDataComplete" then metrics.filter (·.crossChainComplete)
    else metrics
  if endsWith pathname "/metrics" && !startsWith pathname "/operations/paginated/" then
    .metric (filteredMetrics.head?.getD
      (buildEmptyDailyMetric range.start (legacyFlag vars "includeRecords") generatedAt))
  else if endsWith pathname "/protocolMetrics" then
    .protocolMetrics (legacyRowsDescending ProtocolMetric.date
      (filteredMetrics.map dailyMetricToProtocolMetric))
  else .metrics (legacyRowsDescending DailyMetric.date filteredMetrics)

/-- `readLegacyOperation` once its range is resolved. -/
def readLegacyRange (turns : List Bool) (pathname : String) (vars : LegacyVariables)
    (manifest : Manifest) (range : DateRange) (generatedAt : ℕ) :
    PublisherProcess (MetricRow N) (LegacyData N) :=
  if endsWith pathname "/tokenRecords" then do
    let records ← readSelectedDailyRecords turns manifest range .treasuryAssets
      TreasuryAsset.block TreasuryAsset.blockchain
    .ret (.tokenRecords (legacyRowsDescending TreasuryAsset.date records))
  else if endsWith pathname "/tokenSupplies" then do
    let supplies ← readSelectedDailyRecords turns manifest range .ohmSupply
      OhmSupply.block OhmSupply.blockchain
    .ret (.tokenSupplies (legacyRowsDescending OhmSupply.date supplies))
  else do
    let metrics ← readDailyMetrics manifest range (legacyFlag vars "includeRecords") generatedAt
    .ret (legacyMetrics pathname vars range generatedAt metrics)

def readLegacyOperation (turns : List Bool) (pathname : String) (vars : LegacyVariables)
    (config : MetricsApiConfig) (manifest : Manifest) :
    PublisherProcess (MetricRow N) (LegacyData N) := do
  let range ← .ofExcept (orError
    (resolveLegacyRange pathname vars manifest config.maxRangeDays))
  match range with
  | none => .ret .empty
  | some range =>
      readLegacyRange turns pathname vars manifest range
        (config.generatedAt.getD manifest.generatedAt)

end

end OlympusMetrics.Api
