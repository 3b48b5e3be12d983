import OlympusMetrics.Api.Legacy

/-!
The routes of the metrics API: every request and the response to it.
-/

namespace OlympusMetrics.Api

open Publisher

structure Url where
  pathname : String
  searchParams : List (String × QueryValue)

def Url.get (url : Url) (key : String) : Option QueryValue := url.searchParams.lookup key

def Url.getAll (url : Url) (key : String) : List QueryValue :=
  (url.searchParams.filter (fun param => param.1 == key)).map Prod.snd

/-- A request; it has no URL when that of the source does not parse. -/
structure HttpRequest where
  method : String
  /-- What `hasRequestBody` makes of its headers. -/
  hasRequestBody : Bool
  url : Option Url

/-! ### Paths -/

/-- `LEGACY_OPERATION_PATHS`. -/
def legacyOperationPaths : List String :=
  ["/operations/health",
    "/operations/latest/metrics", "/operations/earliest/metrics", "/operations/paginated/metrics",
    "/operations/latest/tokenRecords", "/operations/earliest/tokenRecords",
    "/operations/paginated/tokenRecords",
    "/operations/latest/tokenSupplies", "/operations/earliest/tokenSupplies",
    "/operations/paginated/tokenSupplies",
    "/operations/latest/protocolMetrics", "/operations/earliest/protocolMetrics",
    "/operations/paginated/protocolMetrics"]

/-- `LEGACY_AT_BLOCK_PATHS`. -/
def legacyAtBlockPaths : List String :=
  ["/operations/atBlock/metrics", "/operations/atBlock/tokenRecords",
    "/operations/atBlock/tokenSupplies", "/operations/atBlock/internal/protocolMetrics"]

/-- `SUPPORTED_QUERY_PARAMS`. -/
def supportedQueryParams : List (String × List String) :=
  [("/openapi.json", []), ("/docs", []), ("/operations/health", []), ("/ready", []),
    ("/v2/bounds", []),
    ("/v2/metrics/daily", ["start", "end", "includeRecords"]),
    ("/v2/ohm-supply/daily", ["start", "end"]),
    ("/v2/treasury-assets/daily", ["start", "end"])]

def supportedQueryParamsForPath (pathname : String) : Option (List String) :=
  if startsWith pathname "/operations/" then some ["wg_variables"]
  else supportedQueryParams.lookup pathname

/-- The code and the message of what is wrong with the query, if something is. -/
def validateQueryParams (url : Url) : Option (String × String) :=
  match supportedQueryParamsForPath url.pathname with
  | none => none
  | some supportedKeys =>
      let unsupportedKeys :=
        ((url.searchParams.map Prod.fst).filter (fun key => !supportedKeys.contains key)).eraseDups
      if unsupportedKeys ≠ [] then
        some ("unsupported_query_parameter",
          "Unsupported query parameter(s): " ++ ", ".intercalate unsupportedKeys)
      else
        (supportedKeys.find? (fun key => decide (1 < (url.getAll key).length))).map (fun key =>
          ("duplicate_query_parameter", "Duplicate query parameter is not supported: " ++ key))

theorem length_getAll_le {url : Url} (h : (url.searchParams.map Prod.fst).Nodup) (key : String) :
    (url.getAll key).length ≤ 1 := by
  unfold Url.getAll
  rw [List.length_map, ← List.countP_eq_length_filter]
  have hcount : (url.searchParams.map Prod.fst).count key ≤ 1 := List.nodup_iff_count_le_one.mp h key
  rwa [List.count, List.countP_map] at hcount

/-- A query is accepted when its keys are supported and none comes twice. -/
theorem validateQueryParams_eq_none {url : Url} {supportedKeys : List String}
    (hsupported : supportedQueryParamsForPath url.pathname = some supportedKeys)
    (hkeys : ∀ key ∈ url.searchParams.map Prod.fst, key ∈ supportedKeys)
    (hnodup : (url.searchParams.map Prod.fst).Nodup) : validateQueryParams url = none := by
  have hunsupported : (url.searchParams.map Prod.fst).filter
      (fun key => !supportedKeys.contains key) = [] := by
    refine List.filter_eq_nil_iff.mpr (fun key hkey => ?_)
    simp [hkeys key hkey]
  have hduplicate : supportedKeys.find? (fun key => decide (1 < (url.getAll key).length)) = none := by
    refine List.find?_eq_none.mpr (fun key _ => ?_)
    have := length_getAll_le hnodup key
    simp only [decide_eq_true_eq]
    omega
  unfold validateQueryParams
  rw [hsupported]
  simp only [hunsupported, hduplicate]
  rfl

/-! ### Responses -/

variable {N : Type}

inductive ResponseBody (N : Type)
  | empty
  | error (code message : String)
  | ready
  | openApi
  | docs
  | health
  | atBlockUnsupported
  | bounds (data : BoundsResponse) (metadata : ApiMeta)
  | daily (endpoint : V2Endpoint) (rows : List (MetricRow N endpoint.kind)) (metadata : ApiMeta)
  | legacy (data : LegacyData N)

structure HttpResponse (N : Type) where
  status : ℕ
  body : ResponseBody N

def sendError (status : ℕ) (code message : String) : HttpResponse N :=
  { status := status, body := .error code message }

/-- What is sent for the result of a handler; there is no response when it returns without one. -/
def ApiResponse.send {Data : Type} (body : Data → ApiMeta → ResponseBody N) :
    ApiResponse Data → Option (HttpResponse N)
  | .ok data metadata => some { status := 200, body := body data metadata }
  | .error status code message => some (sendError status code message)
  | .unanswered => none

/-! ### Handlers -/

section

variable [Zero N] [DecidableEq N] [Div N] [Add N]

/-- A legacy operation once the manifest is read. -/
def answerLegacyRequest (turns : List Bool) (config : MetricsApiConfig) (pathname : String)
    (vars : LegacyVariables) (manifest : Manifest) :
    PublisherProcess (MetricRow N) (Option (HttpResponse N)) :=
  Process.tryCatch
    (do
      let data ← readLegacyOperation turns pathname vars config manifest
      .ret (some { status := 200, body := .legacy data }))
    (fun error =>
      match error with
      | .artifactNotFound _ => .ret none
      | .metricsNotDataReady => .ret (some (sendError 400 "invalid_legacy_request"
          "Metrics data is not ready to publish."))
      | .error message => .ret (some (sendError 400 "invalid_legacy_request" message)))

def handleLegacyRequest (turns : List Bool) (config : MetricsApiConfig) (url : Url) :
    PublisherProcess (MetricRow N) (Option (HttpResponse N)) :=
  match parseLegacyVariables (url.get "wg_variables") with
  | .error message => .ret (some (sendError 400 "invalid_wg_variables" message))
  | .ok vars => do
      let manifest ← (getManifest config).attempt
      match manifest with
      | .error (.artifactNotFound _) => .ret (some (sendError 503 "manifest_not_published"
          "Metrics artifacts have not been published yet."))
      | .error _ => .ret (some (sendError 503 "manifest_unavailable"
          "Metrics artifact manifest is unavailable."))
      | .ok manifest => answerLegacyRequest turns config url.pathname vars manifest

/-- A range endpoint with the parameters of a URL. -/
def Url.dailyRequest (url : Url) (endpoint : V2Endpoint) : V2Request where
  endpoint := endpoint
  start := (url.get "start").map (·.text)
  stop := (url.get "end").map (·.text)

def handleDailyRequest (turns : List Bool) (config : MetricsApiConfig) (url : Url)
    (endpoint : V2Endpoint) : PublisherProcess (MetricRow N) (Option (HttpResponse N)) := do
  let response ← handleV2Request turns config (url.dailyRequest endpoint)
  .ret (response.send (.daily endpoint))

/-- The routes, in the order in which they are tried. -/
def handlePath (turns : List Bool) (config : MetricsApiConfig) (url : Url) :
    PublisherProcess (MetricRow N) (Option (HttpResponse N)) :=
  if url.pathname = "/ready" then .ret (some { status := 200, body := .ready })
  else if url.pathname = "/openapi.json" then .ret (some { status := 200, body := .openApi })
  else if url.pathname = "/docs" then .ret (some { status := 200, body := .docs })
  else if url.pathname = "/v2/bounds" then do
    let response ← handleBoundsRequest config
    .ret (response.send .bounds)
  else if url.pathname = "/v2/metrics/daily" then
    handleDailyRequest turns config url
      (.metricsDaily ((url.get "includeRecords").map (·.text) == some "true"))
  else if url.pathname = "/v2/treasury-assets/daily" then
    handleDailyRequest turns config url .treasuryAssetsDaily
  else if url.pathname = "/v2/ohm-supply/daily" then
    handleDailyRequest turns config url .ohmSupplyDaily
  else if url.pathname ∈ legacyAtBlockPaths then
    .ret (some { status := 501, body := .atBlockUnsupported })
  else if url.pathname = "/operations/health" then
    .ret (some { status := 200, body := .health })
  else if url.pathname ∈ legacyOperationPaths then handleLegacyRequest turns config url
  else .ret (some (sendError 404 "not_found" "Route not found."))

theorem handlePath_legacy {pathname : String} (hpath : pathname ∈ legacyOperationPaths)
    (hhealth : pathname ≠ "/operations/health") (turns : List Bool) (config : MetricsApiConfig)
    (searchParams : List (String × QueryValue)) :
    handlePath turns config { pathname := pathname, searchParams := searchParams } =
      (handleLegacyRequest turns config { pathname := pathname, searchParams := searchParams } :
        PublisherProcess (MetricRow N) _) := by
  have hother : ∀ path ∈ legacyOperationPaths,
      path ∉ ["/ready", "/openapi.json", "/docs", "/v2/bounds", "/v2/metrics/daily",
        "/v2/treasury-assets/daily", "/v2/ohm-supply/daily"] ∧ path ∉ legacyAtBlockPaths := by
    decide
  obtain ⟨hfixed, hblock⟩ := hother pathname hpath
  simp only [List.mem_cons, not_or] at hfixed
  unfold handlePath
  simp only [hfixed, hblock, hhealth, hpath, if_true, if_false]

def handleMetricsApiRequestUnchecked (turns : List Bool) (config : MetricsApiConfig)
    (request : HttpRequest) : PublisherProcess (MetricRow N) (Option (HttpResponse N)) :=
  if request.method = "OPTIONS" then .ret (some { status := 204, body := .empty })
  else if request.method ≠ "GET" ∧ request.method ≠ "HEAD" then
    .ret (some (sendError 405 "method_not_allowed" "Only GET, HEAD, and OPTIONS are supported."))
  else if request.hasRequestBody then
    .ret (some (sendError 400 "request_body_not_allowed"
      "GET and HEAD requests must not include a request body."))
  else
    match request.url with
    | none => .ret (some (sendError 400 "invalid_request_url" "Request URL is invalid."))
    | some url =>
        match validateQueryParams url with
        | some (code, message) => .ret (some (sendError 400 code message))
        | none => handlePath turns config url

/-- The response to a request; what its headers are is left out. -/
def handleMetricsApiRequest (turns : List Bool) (config : MetricsApiConfig)
    (request : HttpRequest) : PublisherProcess (MetricRow N) (Option (HttpResponse N)) :=
  (handleMetricsApiRequestUnchecked turns config request).tryCatch (fun _ =>
    .ret (some (sendError 500 "internal_server_error" "Internal server error.")))

end

end OlympusMetrics.Api
