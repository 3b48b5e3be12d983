import OlympusMetrics.Api.Requests
import OlympusMetrics.Library.FixedAnswers

/-!
The handler of the metrics API with everything that it does to the response, for
stored objects of any form.

What is computed from JSON values may throw at every step, as a value need not
have the fields that the code reads. The text of a body is not modelled, as
serializing a parsed value does not throw.
-/

namespace OlympusMetrics.Api.Http

open Publisher Process

/-- A value that is an object. -/
def IsObject (value : Json) : Prop := ∃ entries, value = .object entries

/-- What the code throws besides `ArtifactNotFoundError`: an error, or some other value. -/
inductive Failure
  | error (message : String)
  | other

inductive Thrown
  | artifactNotFound (key : String)
  | failure (failure : Failure)

/-- The message that is sent for a failure. -/
def Failure.message (failure : Failure) (fallback : String) : String :=
  match failure with
  | .error message => message
  | .other => fallback

/-! ### The response -/

structure SentResponse where
  status : ℕ
  headers : String → Option String

structure ServerResponse where
  statusCode : ℕ := 200
  headers : String → Option String := fun _ => none
  /-- What was sent by `end`, one after another. -/
  sent : List SentResponse := []
  destroyed : Bool := false

/-- The operations of the artifact reader and of the response. -/
inductive ServerOp
  | getJson (key : String)
  | setStatusCode (status : ℕ)
  | setHeader (name value : String)
  | removeHeader (name : String)
  | headersSent
  | finish
  | destroy

def ServerOp.Answer : ServerOp → Type
  | .getJson _ => Json
  | .headersSent => Bool
  | _ => Unit

/-- Node.js refuses to change the headers of a response that is sent. -/
def headersSentError : Thrown :=
  .failure (.error "Cannot set headers after they are sent to the client")

/-- What an operation answers and leaves. A read may have any result, but a stored manifest is an
object. -/
def Performs : (op : ServerOp) → ServerResponse → Except Thrown op.Answer → ServerResponse → Prop
  | .getJson key, response, result, response' =>
      (key = manifestKey → ∀ value : Json, result = .ok value → IsObject value) ∧
        response' = response
  | .setStatusCode status, response, result, response' =>
      result = .ok () ∧ response' = { response with statusCode := status }
  | .setHeader name value, response, result, response' =>
      if response.sent = [] then
        result = .ok () ∧ response' =
          { response with headers := Function.update response.headers name (some value) }
      else result = .error headersSentError ∧ response' = response
  | .removeHeader name, response, result, response' =>
      if response.sent = [] then
        result = .ok () ∧ response' =
          { response with headers := Function.update response.headers name none }
      else result = .error headersSentError ∧ response' = response
  | .headersSent, response, result, response' =>
      result = .ok (decide (response.sent ≠ [])) ∧ response' = response
  | .finish, response, result, response' =>
      result = .ok () ∧ response' =
        { response with sent := response.sent ++ [⟨response.statusCode, response.headers⟩] }
  | .destroy, response, result, response' =>
      result = .ok () ∧ response' = { response with destroyed := true }

/-- Performs an operation, with a reader whose answers may change with every operation. -/
def perform (read : ℕ → String → Except Thrown Json) (n : ℕ) :
    (op : ServerOp) → ServerResponse → Except Thrown op.Answer × ServerResponse
  | .getJson key, response => (read n key, response)
  | .setStatusCode status, response => (.ok (), { response with statusCode := status })
  | .setHeader name value, response =>
      if response.sent = [] then
        (.ok (), { response with headers := Function.update response.headers name (some value) })
      else (.error headersSentError, response)
  | .removeHeader name, response =>
      if response.sent = [] then
        (.ok (), { response with headers := Function.update response.headers name none })
      else (.error headersSentError, response)
  | .headersSent, response => (.ok (decide (response.sent ≠ [])), response)
  | .finish, response =>
      (.ok (),
        { response with sent := response.sent ++ [⟨response.statusCode, response.headers⟩] })
  | .destroy, response => (.ok (), { response with destroyed := true })

theorem performs_perform {read : ℕ → String → Except Thrown Json}
    (hread : ∀ n value, read n manifestKey = .ok value → IsObject value) (n : ℕ) (op : ServerOp)
    (response : ServerResponse) :
    Performs op response (perform read n op response).1 (perform read n op response).2 := by
  cases op with
  | getJson key =>
      refine ⟨fun hkey value hvalue => ?_, rfl⟩
      subst hkey
      exact hread n value hvalue
  | setHeader name value =>
      by_cases hsent : response.sent = []
      · simp [Performs, perform, hsent]
      · simp [Performs, perform, hsent]
  | removeHeader name =>
      by_cases hsent : response.sent = []
      · simp [Performs, perform, hsent]
      · simp [Performs, perform, hsent]
  | setStatusCode status => exact ⟨rfl, rfl⟩
  | headersSent => exact ⟨rfl, rfl⟩
  | finish => exact ⟨rfl, rfl⟩
  | destroy => exact ⟨rfl, rfl⟩

abbrev ServerProcess := Process ServerOp ServerOp.Answer Thrown

variable {R : Type}

def getJson (key : String) : ServerProcess Json := .await (ServerOp.getJson key)

def setHeader (name value : String) : ServerProcess Unit := .await (ServerOp.setHeader name value)

def setStatusCode (status : ℕ) : ServerProcess Unit := .await (ServerOp.setStatusCode status)

def removeHeader (name : String) : ServerProcess Unit := .await (ServerOp.removeHeader name)

def headersSent : ServerProcess Bool := .await ServerOp.headersSent

def finish : ServerProcess Unit := .await ServerOp.finish

def destroy : ServerProcess Unit := .await ServerOp.destroy

/-- A step that may throw, but not as if an object were not found. -/
def compute {α : Type} (result : Except Failure α) : ServerProcess α :=
  match result with
  | .ok x => .ret x
  | .error failure => .throw (.failure failure)

/-- Reads fields of a value; all but `null` have some. -/
def readFields (value : Json) : ServerProcess Unit :=
  match value with
  | .null => compute (.error (.error "Cannot read properties of null"))
  | _ => .ret ()

def setCommonHeaders : ServerProcess Unit := do
  setHeader "access-control-allow-origin" "*"
  setHeader "access-control-allow-methods" "GET, HEAD, OPTIONS"
  setHeader "access-control-allow-headers" "content-type"
  setHeader "vary" "origin"

/-- `sendBody`, with or without a body. -/
def sendBody (status : ℕ) (contentType : String) : ServerProcess Unit := do
  setStatusCode status
  setHeader "content-type" contentType
  finish

def sendJson (status : ℕ) : ServerProcess Unit := sendBody status "application/json; charset=utf-8"

/-- `sendError`; the code and the message are part of the body. -/
def sendError (status : ℕ) (_code _message : String) : ServerProcess Unit := sendJson status

/-! ### Reading -/

structure HandlerConfig where
  manifest : Option Json
  isObject_manifest : ∀ value ∈ manifest, IsObject value
  hasArtifactReader : Bool
  generatedAt : Option String

/-- What is computed from the manifest and the rows, for ranges of type `R`. -/
structure DataSteps (R : Type) where
  resolveV2Range : Url → Json → Except Failure R
  resolveLegacyRange : String → LegacyVariables → Json → Except Failure (Option R)
  monthKeysForRange : R → Except Failure (List String)
  artifactKeyForMonth : Json → ArtifactKind → String → Except Failure String
  /-- The rows of a shard that are in a range. -/
  rowsInRange : R → Json → Except Failure (List Json)
  metricsByDate : List Json → Except Failure (List Json)
  selectedRecords : List Json → List Json → Except Failure (List Json)
  dailyMetrics : R → Bool → Json → List Json → List Json → List Json → Except Failure (List Json)
  rowsDescending : List Json → Except Failure (List Json)
  legacyMetrics : String → LegacyVariables → Json → R → List Json → Except Failure (List Json)

def getManifest (config : HandlerConfig) : ServerProcess Json :=
  match config.manifest with
  | some manifest => .ret manifest
  | none =>
      if config.hasArtifactReader then getJson manifestKey
      else .throw (.artifactNotFound manifestKey)

/-- The fields of the manifest that `emptyResponse` sends along. -/
def emptyResponse (manifest : Json) : ServerProcess Unit := readFields manifest

def legacyResponse (_manifest : Json) : ServerProcess Unit := .ret ()

variable (config : HandlerConfig) (steps : DataSteps R)

/-- `config.generatedAt ?? manifest.generatedAt`. -/
def readGeneratedAt (manifest : Json) : ServerProcess Unit :=
  match config.generatedAt with
  | some _ => .ret ()
  | none => readFields manifest

/-- The rows of one month; what is not found has none. -/
def readMonth (manifest : Json) (range : R) (kind : ArtifactKind) (rows : List Json) (month : String) :
    ServerProcess (List Json) :=
  Process.tryCatch
    (do
      let key ← compute (steps.artifactKeyForMonth manifest kind month)
      let value ← getJson key
      let monthRows ← compute (steps.rowsInRange range value)
      .ret (rows ++ monthRows))
    (fun error =>
      match error with
      | .artifactNotFound _ => .ret rows
      | error => .throw error)

def readArtifactRows (manifest : Json) (range : R) (kind : ArtifactKind) : ServerProcess (List Json) :=
  if config.hasArtifactReader then do
    let months ← compute (steps.monthKeysForRange range)
    Process.forEach (readMonth steps manifest range kind) months []
  else .ret []

def readSelectedDailyRecords (turns : List Bool) (manifest : Json) (range : R) (kind : ArtifactKind) :
    ServerProcess (List Json) := do
  let (metricRows, records) ← Process.both (readArtifactRows config steps manifest range .metrics)
    turns (readArtifactRows config steps manifest range kind)
  compute (steps.selectedRecords metricRows records)

def readDailyMetrics (manifest : Json) (range : R) (includeRecords : Bool) :
    ServerProcess (List Json) := do
  let metricRows ← readArtifactRows config steps manifest range .metrics
  let metrics ← compute (steps.metricsByDate metricRows)
  let treasuryAssets ← if includeRecords then
    readArtifactRows config steps manifest range .treasuryAssets else .ret []
  let ohmSupply ← if includeRecords then
    readArtifactRows config steps manifest range .ohmSupply else .ret []
  compute (steps.dailyMetrics range includeRecords manifest metrics treasuryAssets ohmSupply)

/-- The rows of a range endpoint. -/
def readV2Data (turns : List Bool) (manifest : Json) (range : R) :
    V2Endpoint → ServerProcess (List Json)
  | .metricsDaily includeRecords => do
      readGeneratedAt config manifest
      readDailyMetrics config steps manifest range includeRecords
  | .treasuryAssetsDaily =>
      readSelectedDailyRecords config steps turns manifest range .treasuryAssets
  | .ohmSupplyDaily => readSelectedDailyRecords config steps turns manifest range .ohmSupply

def readLegacyOperation (turns : List Bool) (pathname : String) (vars : LegacyVariables)
    (manifest : Json) : ServerProcess (List Json) := do
  let range ← compute (steps.resolveLegacyRange pathname vars manifest)
  match range with
  | none => .ret []
  | some range =>
      if endsWith pathname "/tokenRecords" then do
        let rows ← readSelectedDailyRecords config steps turns manifest range .treasuryAssets
        compute (steps.rowsDescending rows)
      else if endsWith pathname "/tokenSupplies" then do
        let rows ← readSelectedDailyRecords config steps turns manifest range .ohmSupply
        compute (steps.rowsDescending rows)
      else do
        readGeneratedAt config manifest
        let metrics ← readDailyMetrics config steps manifest range
          (legacyFlag vars "includeRecords")
        compute (steps.legacyMetrics pathname vars manifest range metrics)

/-! ### Handling -/

/-- The manifest, or nothing when the error has been sent. -/
def getPublishedManifest : ServerProcess (Option Json) :=
  Process.tryCatch
    (do
      let manifest ← getManifest config
      .ret (some manifest))
    (fun error =>
      match error with
      | .artifactNotFound _ => do
          sendError 503 "manifest_not_published" "Metrics artifacts have not been published yet."
          .ret none
      | _ => do
          sendError 503 "manifest_unavailable" "Metrics artifact manifest is unavailable."
          .ret none)

/-- A route that answers with data: without a manifest it returns, and so it does when its last
`catch` gets an object that was not found. -/
def answerData (code fallback : String) (data : Json → ServerProcess (List Json))
    (response : Json → ServerProcess Unit) : ServerProcess Unit :=
  Process.tryCatch
    (do
      let publishedManifest ← getPublishedManifest config
      match publishedManifest with
      | none => .ret ()
      | some manifest => do
          let _ ← data manifest
          setHeader "cache-control" "public, max-age=3600"
          response manifest
          sendJson 200)
    (fun error =>
      match error with
      | .artifactNotFound _ => .ret ()
      | .failure failure => sendError 400 code (failure.message fallback))

def handleDailyRequest (turns : List Bool) (url : Url) (endpoint : V2Endpoint) :
    ServerProcess Unit :=
  answerData config "invalid_date_range" "Invalid date range."
    (fun manifest => do
      let range ← compute (steps.resolveV2Range url manifest)
      readV2Data config steps turns manifest range endpoint)
    emptyResponse

def handleBoundsRequest : ServerProcess Unit := do
  let publishedManifest ← getPublishedManifest config
  match publishedManifest with
  | none => .ret ()
  | some manifest => do
      readFields manifest
      setHeader "cache-control" "no-store"
      emptyResponse manifest
      sendJson 200

def handleLegacyRequest (turns : List Bool) (url : Url) : ServerProcess Unit := do
  setHeader "deprecation" "true"
  match parseLegacyVariables (url.get "wg_variables") with
  | .error message => sendError 400 "invalid_wg_variables" message
  | .ok vars =>
      answerData config "invalid_legacy_request" "Invalid legacy request."
        (readLegacyOperation config steps turns url.pathname vars) legacyResponse

def handlePath (turns : List Bool) (url : Url) : ServerProcess Unit :=
  if url.pathname = "/ready" then do
    setHeader "cache-control" "no-store"
    sendJson 200
  else if url.pathname = "/openapi.json" then do
    setHeader "cache-control" "public, max-age=3600"
    sendJson 200
  else if url.pathname = "/docs" then do
    setStatusCode 200
    setHeader "cache-control" "public, max-age=3600"
    sendBody 200 "text/html; charset=utf-8"
  else if url.pathname = "/v2/bounds" then handleBoundsRequest config
  else if url.pathname = "/v2/metrics/daily" then
    handleDailyRequest config steps turns url
      (.metricsDaily ((url.get "includeRecords").map (·.text) == some "true"))
  else if url.pathname = "/v2/treasury-assets/daily" then
    handleDailyRequest config steps turns url .treasuryAssetsDaily
  else if url.pathname = "/v2/ohm-supply/daily" then
    handleDailyRequest config steps turns url .ohmSupplyDaily
  else if url.pathname ∈ legacyAtBlockPaths then do
    setHeader "deprecation" "true"
    sendJson 501
  else if url.pathname = "/operations/health" then do
    setHeader "deprecation" "true"
    setHeader "cache-control" "no-store"
    sendJson 200
  else if url.pathname ∈ legacyOperationPaths then handleLegacyRequest config steps turns url
  else sendError 404 "not_found" "Route not found."

def handleMetricsApiRequestUnchecked (turns : List Bool) (request : HttpRequest) :
    ServerProcess Unit := do
  setCommonHeaders
  if request.method = "OPTIONS" then do
    setStatusCode 204
    finish
  else if request.method ≠ "GET" ∧ request.method ≠ "HEAD" then
    sendError 405 "method_not_allowed" "Only GET, HEAD, and OPTIONS are supported."
  else if request.hasRequestBody then
    sendError 400 "request_body_not_allowed"
      "GET and HEAD requests must not include a request body."
  else
    match request.url with
    | none => sendError 400 "invalid_request_url" "Request URL is invalid."
    | some url =>
        match validateQueryParams url with
        | some (code, message) => sendError 400 code message
        | none => handlePath config steps turns url

def handleMetricsApiRequest (turns : List Bool) (request : HttpRequest) : ServerProcess Unit :=
  Process.tryCatch (handleMetricsApiRequestUnchecked config steps turns request) (fun _ => do
    let isSent ← headersSent
    if isSent then destroy
    else do
      setCommonHeaders
      removeHeader "content-encoding"
      removeHeader "content-length"
      setHeader "cache-control" "no-store"
      sendError 500 "internal_server_error" "Internal server error.")

end OlympusMetrics.Api.Http
