import OlympusMetrics.Api.EncodedReads

/-!
The handler that does everything to the response sends the response of the
handler on typed values.

On stores that answer alike, both leave the same store, and the one response
that is sent has the status of the typed one.
-/

namespace OlympusMetrics.Api.Http

open Publisher Process

variable {N R S : Type}

/-! ### Requests on a store -/

/-- What a read of a store leaves of it. -/
def storeAfter (read : String → S → Except Thrown Json × S) : ServerOp → S → S
  | .getJson key, s => (read key s).2
  | _, s => s

/-- Performs an operation, with a reader on a store that may change with every read. -/
def serve (read : String → S → Except Thrown Json × S) (op : ServerOp)
    (server : ServerResponse × S) : Except Thrown op.Answer × ServerResponse × S :=
  ((perform (fun _ key => (read key server.2).1) 0 op server.1).1,
    (perform (fun _ key => (read key server.2).1) 0 op server.1).2, storeAfter read op server.2)

section

variable {read : String → S → Except Thrown Json × S} {response : ServerResponse} {s : S}
  {name value : String} {status : ℕ} {p : ServerProcess Unit}

/-- A program ends after it has sent one response, with some status, and leaves some store. -/
def Sends (read : String → S → Except Thrown Json × S) (p : ServerProcess Unit) (status : ℕ)
    (s' : S) (response : ServerResponse) (s : S) : Prop :=
  ∃ response', p.runFrom (serve read) (response, s) = (.ok (), response', s') ∧
    response'.sent.map (·.status) = [status]

theorem runFrom_setHeader (hsent : response.sent = []) :
    (setHeader name value).runFrom (serve read) (response, s) = (.ok (),
      { response with headers := Function.update response.headers name (some value) }, s) := by
  have hperform : perform (fun _ key => (read key s).1) 0 (.setHeader name value) response =
      (.ok (),
        { response with headers := Function.update response.headers name (some value) }) :=
    if_pos hsent
  refine (runFrom_await (ServerOp.setHeader name value) (response, s)).trans ?_
  unfold serve
  rw [hperform]
  rfl

theorem sends_setHeader_bind {s' : S} (hsent : response.sent = [])
    (h : Sends read p status s'
      { response with headers := Function.update response.headers name (some value) } s) :
    Sends read (setHeader name value >>= fun _ => p) status s' response s := by
  obtain ⟨response', hrun, hstatus⟩ := h
  exact ⟨response', (runFrom_bind_ok (runFrom_setHeader hsent)).trans hrun, hstatus⟩

theorem sends_setStatusCode_bind {s' : S} {code : ℕ}
    (h : Sends read p status s' { response with statusCode := code } s) :
    Sends read (setStatusCode code >>= fun _ => p) status s' response s := by
  obtain ⟨response', hrun, hstatus⟩ := h
  exact ⟨response', (runFrom_bind_ok (x := ()) rfl).trans hrun, hstatus⟩

theorem sends_sendBody (hsent : response.sent = []) (contentType : String) :
    Sends read (sendBody status contentType) status s response s := by
  refine sends_setStatusCode_bind (sends_setHeader_bind hsent ⟨_, rfl, ?_⟩)
  rw [hsent]
  rfl

theorem sends_sendJson (hsent : response.sent = []) (status : ℕ) :
    Sends read (sendJson status) status s response s :=
  sends_sendBody hsent _

theorem sends_headerAndJson (hsent : response.sent = []) (name value : String) (status : ℕ) :
    Sends read (setHeader name value >>= fun _ => sendJson status) status s response s := by
  refine sends_setHeader_bind hsent (sends_sendJson ?_ status)
  exact hsent

theorem sends_health (hsent : response.sent = []) :
    Sends read (setHeader "deprecation" "true" >>= fun _ =>
      setHeader "cache-control" "no-store" >>= fun _ => sendJson 200) 200 s response s := by
  refine sends_setHeader_bind hsent (sends_headerAndJson ?_ _ _ _)
  exact hsent

theorem sends_docs (hsent : response.sent = []) :
    Sends read (setStatusCode 200 >>= fun _ =>
      setHeader "cache-control" "public, max-age=3600" >>= fun _ =>
        sendBody 200 "text/html; charset=utf-8") 200 s response s := by
  refine sends_setStatusCode_bind (sends_setHeader_bind ?_ (sends_sendBody ?_ _))
  · exact hsent
  · exact hsent

/-- The common headers are set before anything is sent. -/
theorem runFrom_setCommonHeaders (hsent : response.sent = []) : ∃ response' : ServerResponse,
    setCommonHeaders.runFrom (serve read) (response, s) = (.ok (), response', s) ∧
      response'.sent = [] := by
  have hheader (name value : String) (response : ServerResponse) (hsent : response.sent = []) :
      ∃ response' : ServerResponse,
        (setHeader name value).runFrom (serve read) (response, s) = (.ok (), response', s) ∧
          response'.sent = [] :=
    ⟨_, runFrom_setHeader hsent, hsent⟩
  obtain ⟨response₁, h₁, hsent₁⟩ := hheader "access-control-allow-origin" "*" response hsent
  obtain ⟨response₂, h₂, hsent₂⟩ :=
    hheader "access-control-allow-methods" "GET, HEAD, OPTIONS" response₁ hsent₁
  obtain ⟨response₃, h₃, hsent₃⟩ :=
    hheader "access-control-allow-headers" "content-type" response₂ hsent₂
  obtain ⟨response₄, h₄, hsent₄⟩ := hheader "vary" "origin" response₃ hsent₃
  refine ⟨response₄, (runFrom_bind_ok h₁).trans ?_, hsent₄⟩
  exact (runFrom_bind_ok h₂).trans ((runFrom_bind_ok h₃).trans h₄)

theorem sends_sendError (hsent : response.sent = []) (status : ℕ) (code message : String) :
    Sends read (sendError status code message) status s response s :=
  sends_sendJson hsent status

end

/-- Two stores answer every read alike, and leave the same. -/
def Encoding.StoresAlike (encoding : Encoding N R)
    (stored : (op : StoreOp (MetricRow N)) → S → Except PublishError op.Answer × S)
    (read : String → S → Except Thrown Json × S) : Prop :=
  ∀ key s,
    ResultsAlike ErrorsAlike (encoding.Holds key) (stored (.getJson key) s).1 (read key s).1 ∧
    (stored (.getJson key) s).2 = (read key s).2

section

variable {encoding : Encoding N R} {config : MetricsApiConfig} {handlerConfig : HandlerConfig}
  {stored : (op : StoreOp (MetricRow N)) → S → Except PublishError op.Answer × S}
  {read : String → S → Except Thrown Json × S} {response : ServerResponse} {s : S}

/-- Programs that read alike leave the response as it is, and end alike. -/
theorem runFrom_of_lockStep {α β : Type} {values : α → β → Prop}
    {p : PublisherProcess (MetricRow N) α} {q : ServerProcess β}
    (hread : encoding.StoresAlike stored read) (h : LockStep encoding.reads values p q)
    (response : ServerResponse) (s : S) :
    (∃ x y s', p.runFrom stored s = (.ok x, s') ∧
      q.runFrom (serve read) (response, s) = (.ok y, response, s') ∧ values x y) ∨
    ∃ e e' s', p.runFrom stored s = (.error e, s') ∧
      q.runFrom (serve read) (response, s) = (.error e', response, s') ∧ ErrorsAlike e e' := by
  have hexec : ∀ op op' s server, encoding.reads.ops op op' → server = (response, s) →
      ResultsAlike ErrorsAlike (encoding.reads.answers op op') (stored op s).1
          (serve read op' server).1 ∧
        (serve read op' server).2 = (response, (stored op s).2) := by
    rintro _ _ s _ ⟨key, rfl, rfl⟩ rfl
    refine ⟨(hread key s).1, ?_⟩
    rw [(hread key s).2]
    rfl
  obtain ⟨hresults, hserver⟩ := h.runFrom hexec (rfl : (response, s) = (response, s))
  cases hp : p.runFrom stored s with
  | mk r s' =>
      cases hq : q.runFrom (serve read) (response, s) with
      | mk r' server =>
          rw [hp, hq] at hresults hserver
          obtain rfl : server = (response, s') := hserver
          cases r with
          | ok x =>
              cases r' with
              | ok y => exact Or.inl ⟨x, y, s', rfl, rfl, hresults⟩
              | error e' => exact absurd hresults id
          | error e =>
              cases r' with
              | ok y => exact absurd hresults id
              | error e' => exact Or.inr ⟨e, e', s', rfl, rfl, hresults⟩

theorem runFrom_withPublishedManifest_ok {Data : Type} {manifest : Manifest} {s₁ : S}
    (answer : Manifest → PublisherProcess (MetricRow N) (ApiResponse Data))
    (h : (Api.getManifest config).runFrom stored s = (.ok manifest, s₁)) :
    (withPublishedManifest config answer).runFrom stored s =
      (answer manifest).runFrom stored s₁ :=
  runFrom_bind_ok (runFrom_attempt h)

theorem runFrom_withPublishedManifest_error {Data : Type} {error : PublishError} {s' : S}
    (answer : Manifest → PublisherProcess (MetricRow N) (ApiResponse Data))
    (h : (Api.getManifest config).runFrom stored s = (.error error, s')) :
    ∃ code message, (withPublishedManifest config answer).runFrom stored s =
      (.ok (.error 503 code message), s') := by
  cases error with
  | artifactNotFound key => exact ⟨_, _, runFrom_bind_ok (runFrom_attempt h)⟩
  | metricsNotDataReady => exact ⟨_, _, runFrom_bind_ok (runFrom_attempt h)⟩
  | error message => exact ⟨_, _, runFrom_bind_ok (runFrom_attempt h)⟩

theorem runFrom_getPublishedManifest_ok {manifest : Json} {s' : S}
    (h : (getManifest handlerConfig).runFrom (serve read) (response, s) =
      (.ok manifest, response, s')) :
    (getPublishedManifest handlerConfig).runFrom (serve read) (response, s) =
      (.ok (some manifest), response, s') :=
  runFrom_tryCatch_ok (runFrom_bind_ok h)

theorem runFrom_getPublishedManifest_error {error : Thrown} {s' : S} (hsent : response.sent = [])
    (h : (getManifest handlerConfig).runFrom (serve read) (response, s) =
      (.error error, response, s')) :
    ∃ response', (getPublishedManifest handlerConfig).runFrom (serve read) (response, s) =
      (.ok none, response', s') ∧ response'.sent.map (·.status) = [503] := by
  obtain ⟨response', hsend, hstatus⟩ : Sends read (sendJson 503) 503 s' response s' :=
    sends_sendJson hsent 503
  refine ⟨response', ?_, hstatus⟩
  refine (runFrom_tryCatch_error (runFrom_bind_error h)).trans ?_
  cases error with
  | artifactNotFound key => exact runFrom_bind_ok hsend
  | failure failure => exact runFrom_bind_ok hsend

section

variable {data : Json → ServerProcess (List Json)} {reply : Json → ServerProcess Unit}
  {code fallback : String} {manifest : Json} {s₁ s' : S}

theorem sends_answerData_unpublished {error : Thrown} (hsent : response.sent = [])
    (h : (getManifest handlerConfig).runFrom (serve read) (response, s) =
      (.error error, response, s')) :
    Sends read (answerData handlerConfig code fallback data reply) 503 s' response s := by
  obtain ⟨response', hpublished, hstatus⟩ := runFrom_getPublishedManifest_error hsent h
  exact ⟨response', runFrom_tryCatch_ok (runFrom_bind_ok hpublished), hstatus⟩

theorem sends_answerData_ok {rows : List Json} (hsent : response.sent = [])
    (h : (getManifest handlerConfig).runFrom (serve read) (response, s) =
      (.ok manifest, response, s₁))
    (hdata : (data manifest).runFrom (serve read) (response, s₁) = (.ok rows, response, s'))
    (hreply : reply manifest = .ret ()) :
    Sends read (answerData handlerConfig code fallback data reply) 200 s' response s := by
  obtain ⟨response', hsend, hstatus⟩ : Sends read
      (setHeader "cache-control" "public, max-age=3600" >>= fun _ => sendJson 200) 200 s' response
      s' :=
    sends_setHeader_bind hsent (sends_sendJson (by exact hsent) 200)
  refine ⟨response', runFrom_tryCatch_ok ?_, hstatus⟩
  refine (runFrom_bind_ok (runFrom_getPublishedManifest_ok h)).trans ?_
  refine (runFrom_bind_ok hdata).trans ?_
  rw [hreply]
  exact hsend

theorem sends_answerData_failure {failure : Failure} (hsent : response.sent = [])
    (h : (getManifest handlerConfig).runFrom (serve read) (response, s) =
      (.ok manifest, response, s₁))
    (hdata : (data manifest).runFrom (serve read) (response, s₁) =
      (.error (.failure failure), response, s')) :
    Sends read (answerData handlerConfig code fallback data reply) 400 s' response s := by
  obtain ⟨response', hsend, hstatus⟩ :
      Sends read (sendError 400 code (failure.message fallback)) 400 s' response s' :=
    sends_sendError hsent 400 code _
  refine ⟨response', ?_, hstatus⟩
  unfold answerData
  rw [runFrom_tryCatch_error
    ((runFrom_bind_ok (runFrom_getPublishedManifest_ok h)).trans (runFrom_bind_error hdata))]
  exact hsend

end

/-- What is read of the manifest and of the data decides about the status that is sent. -/
theorem sends_answerData {α : Type} {values : α → List Json → Prop}
    {typedData : Manifest → PublisherProcess (MetricRow N) α}
    {data : Json → ServerProcess (List Json)} {reply : Json → ServerProcess Unit}
    (hread : encoding.StoresAlike stored read)
    (hmanifest : LockStep encoding.reads (fun manifest json => json = encoding.manifest manifest)
      (Api.getManifest config) (getManifest handlerConfig))
    (hdata : ∀ manifest, LockStep encoding.reads values (typedData manifest)
      (data (encoding.manifest manifest)))
    (hreads : ∀ json, Reads (data json)) (hreply : ∀ json, IsObject json → reply json = .ret ())
    (code fallback : String) (hsent : response.sent = []) (s : S) :
    (∃ error s', (Api.getManifest config).runFrom stored s = (.error error, s') ∧
      Sends read (answerData handlerConfig code fallback data reply) 503 s' response s) ∨
    ∃ manifest s₁ result s', (Api.getManifest config).runFrom stored s = (.ok manifest, s₁) ∧
      (typedData manifest).runFrom stored s₁ = (result, s') ∧
      ((∃ x y, result = .ok x ∧ values x y ∧
        Sends read (answerData handlerConfig code fallback data reply) 200 s' response s) ∨
      ∃ error, result = .error error ∧ (∀ key, error ≠ .artifactNotFound key) ∧
        Sends read (answerData handlerConfig code fallback data reply) 400 s' response s) := by
  rcases runFrom_of_lockStep hread hmanifest response s with
    ⟨manifest, _, s₁, htyped, hrun, rfl⟩ | ⟨error, error', s', htyped, hrun, -⟩
  · refine Or.inr ⟨manifest, s₁, ?_⟩
    rcases runFrom_of_lockStep hread (hdata manifest) response s₁ with
      ⟨x, y, s', htypedData, hrunData, hvalues⟩ | ⟨error, error', s', htypedData, hrunData, hboth⟩
    · refine ⟨_, s', htyped, htypedData, Or.inl ⟨x, y, rfl, hvalues, ?_⟩⟩
      exact sends_answerData_ok hsent hrun hrunData (hreply _ (encoding.isObject_manifest manifest))
    · -- what is not found is caught for every month, so that an error is sent
      have hends : OnlyFails IsFailure
          ((data (encoding.manifest manifest)).runFrom (serve read) (response, s₁)).1 :=
        (hreads (encoding.manifest manifest)).ends.runFrom (response, s₁)
      rw [hrunData] at hends
      obtain ⟨failure, rfl⟩ := hends
      refine ⟨_, s', htyped, htypedData, Or.inr ⟨error, rfl, ?_, ?_⟩⟩
      · rintro key rfl
        exact hboth
      · exact sends_answerData_failure hsent hrun hrunData
  · exact Or.inl ⟨error, s', htyped, sends_answerData_unpublished hsent hrun⟩

end

/-! ### Both handlers -/

section

variable [Zero N] [DecidableEq N] [Add N] [Div N] {encoding : Encoding N R}
  {config : MetricsApiConfig} {handlerConfig : HandlerConfig} {steps : DataSteps R}
  {stored : (op : StoreOp (MetricRow N)) → S → Except PublishError op.Answer × S}
  {read : String → S → Except Thrown Json × S} {response : ServerResponse} {s : S}

/-- The one response that is sent has the status of the typed one, and both programs leave the
same store. -/
def SameStatus (stored : (op : StoreOp (MetricRow N)) → S → Except PublishError op.Answer × S)
    (read : String → S → Except Thrown Json × S)
    (p : PublisherProcess (MetricRow N) (Option (HttpResponse N))) (q : ServerProcess Unit)
    (response : ServerResponse) (s : S) : Prop :=
  ∃ reply s', p.runFrom stored s = (.ok (some reply), s') ∧ Sends read q reply.status s' response s

/-- Both handlers of a server with a reader. -/
structure Together (encoding : Encoding N R) (config : MetricsApiConfig)
    (handlerConfig : HandlerConfig) (steps : DataSteps R)
    (stored : (op : StoreOp (MetricRow N)) → S → Except PublishError op.Answer × S)
    (read : String → S → Except Thrown Json × S) : Prop where
  computes : steps.Computes config encoding
  hasArtifactReader : handlerConfig.hasArtifactReader = true
  manifest : handlerConfig.manifest = config.manifest.map encoding.manifest
  stores : encoding.StoresAlike stored read

theorem sameStatus_handleDailyRequest
    (h : Together encoding config handlerConfig steps stored read) (hsent : response.sent = [])
    (turns : List Bool) (url : Url) (endpoint : V2Endpoint) :
    SameStatus stored read (Api.handleDailyRequest turns config url endpoint)
      (handleDailyRequest handlerConfig steps turns url endpoint) response s := by
  have hdata (manifest : Manifest) : LockStep encoding.reads
      (fun reply _ => ∃ data metadata, reply = ApiResponse.ok data metadata)
      (do
        let range ← .ofExcept (orError
          (Api.resolveV2Range (url.dailyRequest endpoint) config manifest))
        let data ← Api.readV2Data turns manifest range
          (config.generatedAt.getD manifest.generatedAt) endpoint
        .ret (okResponse config manifest (some range) data))
      (do
        let range ← compute (steps.resolveV2Range url (encoding.manifest manifest))
        readV2Data handlerConfig steps turns (encoding.manifest manifest) range endpoint) := by
    rw [h.computes.resolveV2Range url endpoint manifest]
    refine lockStep_bind (lockStep_compute _ _) ?_
    rintro range _ rfl
    refine lockStep_bind_ret
      (lockStep_readV2Data h.computes h.hasArtifactReader turns manifest range endpoint) ?_
    exact fun data _ _ => ⟨data, _, rfl⟩
  have hreads (json : Json) : Reads (do
      let range ← compute (steps.resolveV2Range url json)
      readV2Data handlerConfig steps turns json range endpoint) :=
    (reads_compute _).bind (fun range => reads_readV2Data turns json range endpoint)
  rcases sends_answerData h.stores (lockStep_getManifest h.hasArtifactReader h.manifest) hdata
      hreads (fun _ hobject => hobject.readFields) "invalid_date_range" "Invalid date range." hsent s with
    ⟨error, s', hmanifest, hsends⟩ | ⟨manifest, s₁, result, s', hmanifest, htyped, hcases⟩
  · obtain ⟨code, message, hresponse⟩ := runFrom_withPublishedManifest_error
      (answerV2Request turns config (url.dailyRequest endpoint)) hmanifest
    exact ⟨Api.sendError 503 code message, s', runFrom_bind_ok hresponse, hsends⟩
  · have hresponse := runFrom_withPublishedManifest_ok
      (answerV2Request turns config (url.dailyRequest endpoint)) hmanifest
    rcases hcases with ⟨_, _, rfl, ⟨data, metadata, rfl⟩, hsends⟩ | ⟨error, rfl, hfound, hsends⟩
    · refine ⟨{ status := 200, body := .daily endpoint data metadata }, s', ?_, hsends⟩
      exact runFrom_bind_ok (hresponse.trans (runFrom_tryCatch_ok htyped))
    · cases error with
      | artifactNotFound key => exact absurd rfl (hfound key)
      | metricsNotDataReady =>
          refine ⟨Api.sendError 400 "invalid_date_range"
            "Metrics data is not ready to publish.", s', ?_, hsends⟩
          exact runFrom_bind_ok (hresponse.trans (runFrom_tryCatch_error htyped))
      | error message =>
          refine ⟨Api.sendError 400 "invalid_date_range" message, s', ?_, hsends⟩
          exact runFrom_bind_ok (hresponse.trans (runFrom_tryCatch_error htyped))

theorem sameStatus_handleBoundsRequest
    (h : Together encoding config handlerConfig steps stored read) (hsent : response.sent = []) :
    SameStatus stored read (do
      let bounds ← Api.handleBoundsRequest config
      .ret (bounds.send .bounds)) (handleBoundsRequest handlerConfig) response s := by
  rcases runFrom_of_lockStep h.stores (lockStep_getManifest h.hasArtifactReader h.manifest) response
      s with ⟨manifest, _, s', hmanifest, hrun, rfl⟩ | ⟨error, error', s', hmanifest, hrun, -⟩
  · obtain ⟨response', hsend, hstatus⟩ : Sends read
        (setHeader "cache-control" "no-store" >>= fun _ => sendJson 200) 200 s' response s' :=
      sends_setHeader_bind hsent (sends_sendJson (by exact hsent) 200)
    have hfields := (encoding.isObject_manifest manifest).readFields
    obtain ⟨bounds, hbounds⟩ : ∃ bounds, (Api.handleBoundsRequest config).runFrom stored s =
        (.ok (okResponse config manifest none bounds), s') :=
      ⟨_, runFrom_withPublishedManifest_ok _ hmanifest⟩
    refine ⟨{ status := 200, body := .bounds bounds _ }, s', runFrom_bind_ok hbounds, response', ?_,
      hstatus⟩
    refine (runFrom_bind_ok (runFrom_getPublishedManifest_ok hrun)).trans ?_
    dsimp only [emptyResponse]
    rw [hfields]
    exact hsend
  · obtain ⟨code, message, hbounds⟩ : ∃ code message,
        (Api.handleBoundsRequest config).runFrom stored s =
          (.ok (.error 503 code message), s') :=
      runFrom_withPublishedManifest_error _ hmanifest
    obtain ⟨response', hpublished, hstatus⟩ := runFrom_getPublishedManifest_error hsent hrun
    exact ⟨Api.sendError 503 code message, s', runFrom_bind_ok hbounds, response',
      runFrom_bind_ok hpublished, hstatus⟩

theorem sameStatus_handleLegacyRequest
    (h : Together encoding config handlerConfig steps stored read) (hsent : response.sent = [])
    (turns : List Bool) (url : Url) :
    SameStatus stored read (Api.handleLegacyRequest turns config url)
      (handleLegacyRequest handlerConfig steps turns url) response s := by
  unfold handleLegacyRequest Api.handleLegacyRequest
  cases parseLegacyVariables (url.get "wg_variables") with
  | error message =>
      refine ⟨_, s, rfl, ?_⟩
      exact sends_setHeader_bind hsent (sends_sendError (by exact hsent) 400 _ message)
  | ok vars =>
      dsimp only
      have hdata (manifest : Manifest) : LockStep encoding.reads
          (fun (reply : Option (HttpResponse N)) _ =>
            ∃ data, reply = some { status := 200, body := .legacy data })
          (do
            let data ← Api.readLegacyOperation turns url.pathname vars config manifest
            .ret (some { status := 200, body := .legacy data }))
          (readLegacyOperation handlerConfig steps turns url.pathname vars
            (encoding.manifest manifest)) :=
        lockStep_bind_ret (lockStep_readLegacyOperation h.computes h.hasArtifactReader turns
          url.pathname vars manifest) (fun data _ _ => ⟨data, rfl⟩)
      have hreads (json : Json) :
          Reads (readLegacyOperation handlerConfig steps turns url.pathname vars json) :=
        reads_readLegacyOperation turns url.pathname vars json
      have hopen : ({ response with
          headers := Function.update response.headers "deprecation" (some "true") } :
            ServerResponse).sent = [] := hsent
      have hreply (json : Json) (_ : IsObject json) : legacyResponse json = .ret () := rfl
      rcases sends_answerData h.stores (lockStep_getManifest h.hasArtifactReader h.manifest) hdata
          hreads hreply "invalid_legacy_request" "Invalid legacy request." hopen s with
        ⟨error, s', hmanifest, hsends⟩ | ⟨manifest, s₁, result, s', hmanifest, htyped, hcases⟩
      · have hsends' := sends_setHeader_bind hsent hsends
        cases error with
        | artifactNotFound key =>
            exact ⟨_, s', runFrom_bind_ok (runFrom_attempt hmanifest), by exact hsends'⟩
        | metricsNotDataReady =>
            exact ⟨_, s', runFrom_bind_ok (runFrom_attempt hmanifest), by exact hsends'⟩
        | error message =>
            exact ⟨_, s', runFrom_bind_ok (runFrom_attempt hmanifest), by exact hsends'⟩
      · rcases hcases with ⟨_, _, rfl, ⟨data, rfl⟩, hok⟩ | ⟨error, rfl, hfound, hfailed⟩
        · refine ⟨{ status := 200, body := .legacy data }, s', ?_, sends_setHeader_bind hsent hok⟩
          exact (runFrom_bind_ok (runFrom_attempt hmanifest)).trans (runFrom_tryCatch_ok htyped)
        · cases error with
          | artifactNotFound key => exact absurd rfl (hfound key)
          | metricsNotDataReady =>
              refine ⟨Api.sendError 400 "invalid_legacy_request"
                "Metrics data is not ready to publish.", s', ?_,
                sends_setHeader_bind hsent hfailed⟩
              exact (runFrom_bind_ok (runFrom_attempt hmanifest)).trans
                (runFrom_tryCatch_error htyped)
          | error message =>
              refine ⟨Api.sendError 400 "invalid_legacy_request" message, s', ?_,
                sends_setHeader_bind hsent hfailed⟩
              exact (runFrom_bind_ok (runFrom_attempt hmanifest)).trans
                (runFrom_tryCatch_error htyped)

theorem sameStatus_handlePath (h : Together encoding config handlerConfig steps stored read)
    (hsent : response.sent = []) (turns : List Bool) (url : Url) :
    SameStatus stored read (Api.handlePath turns config url)
      (handlePath handlerConfig steps turns url) response s := by
  have hfixed (reply : HttpResponse N) {q : ServerProcess Unit}
      (hq : Sends read q reply.status s response s) :
      SameStatus stored read (.ret (some reply)) q response s := ⟨reply, s, rfl, hq⟩
  unfold handlePath Api.handlePath
  by_cases hready : url.pathname = "/ready"
  · rw [if_pos hready, if_pos hready]
    exact hfixed _ (sends_headerAndJson hsent "cache-control" "no-store" 200)
  rw [if_neg hready, if_neg hready]
  by_cases hopenApi : url.pathname = "/openapi.json"
  · rw [if_pos hopenApi, if_pos hopenApi]
    exact hfixed _ (sends_headerAndJson hsent "cache-control" "public, max-age=3600" 200)
  rw [if_neg hopenApi, if_neg hopenApi]
  by_cases hdocs : url.pathname = "/docs"
  · rw [if_pos hdocs, if_pos hdocs]
    exact hfixed _ (sends_docs hsent)
  rw [if_neg hdocs, if_neg hdocs]
  by_cases hbounds : url.pathname = "/v2/bounds"
  · rw [if_pos hbounds, if_pos hbounds]
    exact sameStatus_handleBoundsRequest h hsent
  rw [if_neg hbounds, if_neg hbounds]
  by_cases hmetrics : url.pathname = "/v2/metrics/daily"
  · rw [if_pos hmetrics, if_pos hmetrics]
    exact sameStatus_handleDailyRequest h hsent turns url _
  rw [if_neg hmetrics, if_neg hmetrics]
  by_cases hassets : url.pathname = "/v2/treasury-assets/daily"
  · rw [if_pos hassets, if_pos hassets]
    exact sameStatus_handleDailyRequest h hsent turns url _
  rw [if_neg hassets, if_neg hassets]
  by_cases hsupply : url.pathname = "/v2/ohm-supply/daily"
  · rw [if_pos hsupply, if_pos hsupply]
    exact sameStatus_handleDailyRequest h hsent turns url _
  rw [if_neg hsupply, if_neg hsupply]
  by_cases hatBlock : url.pathname ∈ legacyAtBlockPaths
  · rw [if_pos hatBlock, if_pos hatBlock]
    exact hfixed _ (sends_headerAndJson hsent "deprecation" "true" 501)
  rw [if_neg hatBlock, if_neg hatBlock]
  by_cases hhealth : url.pathname = "/operations/health"
  · rw [if_pos hhealth, if_pos hhealth]
    exact hfixed _ (sends_health hsent)
  rw [if_neg hhealth, if_neg hhealth]
  by_cases hlegacy : url.pathname ∈ legacyOperationPaths
  · rw [if_pos hlegacy, if_pos hlegacy]
    exact sameStatus_handleLegacyRequest h hsent turns url
  rw [if_neg hlegacy, if_neg hlegacy]
  exact hfixed _ (sends_sendError hsent 404 "not_found" "Route not found.")

theorem sameStatus_unchecked (h : Together encoding config handlerConfig steps stored read)
    (hsent : response.sent = []) (turns : List Bool) (request : HttpRequest) :
    SameStatus stored read (Api.handleMetricsApiRequestUnchecked turns config request)
      (handleMetricsApiRequestUnchecked handlerConfig steps turns request) response s := by
  obtain ⟨response', hheaders, hsent'⟩ : ∃ response' : ServerResponse,
      setCommonHeaders.runFrom (serve read) (response, s) = (.ok (), response', s) ∧
        response'.sent = [] :=
    runFrom_setCommonHeaders hsent
  have hafter {p : PublisherProcess (MetricRow N) (Option (HttpResponse N))}
      {q : ServerProcess Unit} (hq : SameStatus stored read p q response' s) :
      SameStatus stored read p (setCommonHeaders >>= fun _ => q) response s := by
    obtain ⟨reply, s', htyped, response'', hrun, hstatus⟩ := hq
    exact ⟨reply, s', htyped, response'', (runFrom_bind_ok hheaders).trans hrun, hstatus⟩
  have hfixed (reply : HttpResponse N) {q : ServerProcess Unit}
      (hq : Sends read q reply.status s response' s) :
      SameStatus stored read (.ret (some reply)) q response' s := ⟨reply, s, rfl, hq⟩
  unfold handleMetricsApiRequestUnchecked Api.handleMetricsApiRequestUnchecked
  refine hafter ?_
  by_cases hoptions : request.method = "OPTIONS"
  · rw [if_pos hoptions, if_pos hoptions]
    refine hfixed _ (sends_setStatusCode_bind ⟨_, rfl, ?_⟩)
    rw [hsent']
    rfl
  rw [if_neg hoptions, if_neg hoptions]
  by_cases hmethod : request.method ≠ "GET" ∧ request.method ≠ "HEAD"
  · rw [if_pos hmethod, if_pos hmethod]
    exact hfixed _ (sends_sendError hsent' 405 "method_not_allowed" _)
  rw [if_neg hmethod, if_neg hmethod]
  by_cases hbody : request.hasRequestBody
  · rw [if_pos hbody, if_pos hbody]
    exact hfixed _ (sends_sendError hsent' 400 "request_body_not_allowed" _)
  rw [if_neg hbody, if_neg hbody]
  cases request.url with
  | none => exact hfixed _ (sends_sendError hsent' 400 "invalid_request_url" _)
  | some url =>
      dsimp only
      cases validateQueryParams url with
      | some error => exact hfixed _ (sends_sendError hsent' 400 error.1 error.2)
      | none => exact sameStatus_handlePath h hsent' turns url

/-- The response that is sent has the status of the typed one, whatever is requested and however
the store changes between two reads. -/
theorem sameStatus_handleMetricsApiRequest
    (h : Together encoding config handlerConfig steps stored read) (turns : List Bool)
    (request : HttpRequest) (s : S) :
    SameStatus stored read (Api.handleMetricsApiRequest turns config request)
      (handleMetricsApiRequest handlerConfig steps turns request) {} s := by
  have hinitial : ({} : ServerResponse).sent = [] := rfl
  obtain ⟨reply, s', htyped, response', hrun, hstatus⟩ :=
    sameStatus_unchecked (s := s) h hinitial turns request
  exact ⟨reply, s', runFrom_tryCatch_ok htyped, response', runFrom_tryCatch_ok hrun, hstatus⟩

end

/-! ### Steps that compute so -/

/-- The typed values can be read back from what encodes them. -/
structure Encoding.Faithful (encoding : Encoding N R) : Prop where
  manifest : Function.Injective encoding.manifest
  range : Function.Injective encoding.range
  row : Function.Injective
    (fun row : (kind : ArtifactKind) × MetricRow N kind => encoding.row row.1 row.2)

section

variable {encoding : Encoding N R}

theorem Encoding.Faithful.rows (h : encoding.Faithful) (kind : ArtifactKind) :
    Function.Injective (encoding.rows kind) := by
  refine List.map_injective_iff.mpr (fun row row' hrow => ?_)
  have hsame := @h.row ⟨kind, row⟩ ⟨kind, row'⟩ hrow
  exact eq_of_heq (Sigma.mk.inj hsame).2

/-- A function on the rows of every kind is one on what encodes them. -/
theorem Encoding.Faithful.exists_onRows (h : encoding.Faithful)
    (g : (kind : ArtifactKind) → List (MetricRow N kind) → List (MetricRow N kind))
    (hg : ∀ kind, g kind [] = []) :
    ∃ f : List Json → List Json, ∀ kind rows,
      f (encoding.rows kind rows) = encoding.rows kind (g kind rows) := by
  have hresult (items : List Json) : ∃ result, ∀ kind rows,
      items = encoding.rows kind rows → result = encoding.rows kind (g kind rows) := by
    by_cases hitems : ∃ kind rows, items = encoding.rows kind rows
    · obtain ⟨kind, rows, rfl⟩ := hitems
      refine ⟨encoding.rows kind (g kind rows), fun kind' rows' hrows => ?_⟩
      cases rows with
      | nil =>
          obtain rfl : rows' = [] := List.map_eq_nil_iff.mp hrows.symm
          rw [hg, hg]
          rfl
      | cons row rows =>
          -- the first row tells the kind
          cases rows' with
          | nil => exact absurd hrows (List.cons_ne_nil _ _)
          | cons row' rows' =>
              have hsame := @h.row ⟨kind, row⟩ ⟨kind', row'⟩ (List.cons.inj hrows).1
              cases hsame
              rw [h.rows kind hrows]
    · exact ⟨[], fun kind rows hrows => absurd ⟨kind, rows, hrows⟩ hitems⟩
  choose f hf using hresult
  exact ⟨f, fun kind rows => hf _ kind rows rfl⟩

variable [Zero N] [DecidableEq N] [Add N] [Div N]

/-- The records of a kind that are selected by the metrics. -/
def selectedOf (metricRows : List (DailyMetric N)) :
    (kind : ArtifactKind) → List (MetricRow N kind) → List (MetricRow N kind)
  | .metrics => fun _ => []
  | .treasuryAssets => selectRecords metricRows TreasuryAsset.block TreasuryAsset.blockchain
  | .ohmSupply => selectRecords metricRows OhmSupply.block OhmSupply.blockchain

/-- The records of a kind, later dates first. -/
def descendingOf : (kind : ArtifactKind) → List (MetricRow N kind) → List (MetricRow N kind)
  | .metrics => fun _ => []
  | .treasuryAssets => legacyRowsDescending TreasuryAsset.date
  | .ohmSupply => legacyRowsDescending OhmSupply.date

/-- A function on the items of an array, which other values do not have. -/
def onItems (f : List Json → List Json) : Json → Except Failure (List Json)
  | .array items => .ok (f items)
  | _ => .error .other

/-- Where typed values can be read back, there are steps that compute on them. -/
theorem Encoding.Faithful.exists_computes (h : encoding.Faithful) (config : MetricsApiConfig) :
    ∃ steps : DataSteps R, steps.Computes config encoding := by
  have hrange (range : DateRange) := h.exists_onRows
    (fun _ rows => rows.filter (fun row => isInRange (Dated.date row) range)) (fun _ => rfl)
  choose inRange hinRange using hrange
  have hselected (metricRows : List (MetricRow N .metrics)) :=
    h.exists_onRows (selectedOf metricRows) (fun kind => by cases kind <;> rfl)
  choose selected hselected using hselected
  obtain ⟨descending, hdescending⟩ := h.exists_onRows (descendingOf (N := N))
    (fun kind => by cases kind <;> rfl)
  have hmetrics := h.rows .metrics
  have hassets := h.rows .treasuryAssets
  have hsupply := h.rows .ohmSupply
  refine ⟨{
    resolveV2Range := fun url => Function.extend encoding.manifest (fun manifest =>
      (orFailure (Api.resolveV2Range (url.dailyRequest .ohmSupplyDaily) config manifest)).map
        encoding.range) (fun _ => .error .other)
    resolveLegacyRange := fun pathname vars => Function.extend encoding.manifest (fun manifest =>
      (orFailure (Api.resolveLegacyRange pathname vars manifest config.maxRangeDays)).map
        (Option.map encoding.range)) (fun _ => .error .other)
    monthKeysForRange := Function.extend encoding.range (fun range =>
      orFailure (Publisher.monthKeysForRange range.start range.stop)) (fun _ => .error .other)
    artifactKeyForMonth := fun json kind month => Function.extend encoding.manifest (fun manifest =>
      .ok (Api.artifactKeyForMonth manifest kind month)) (fun _ => .error .other) json
    rowsInRange := fun range =>
      onItems (Function.extend encoding.range inRange (fun _ _ => []) range)
    metricsByDate := fun rows => .ok rows
    selectedRecords := fun metricRows records =>
      .ok (Function.extend (encoding.rows .metrics) selected (fun _ _ => []) metricRows records)
    dailyMetrics := fun range includeRecords json metricRows treasuryAssets ohmSupply =>
      Function.extend encoding.range (fun range =>
        Function.extend encoding.manifest (fun manifest =>
        Function.extend (encoding.rows .metrics) (fun metricRows =>
          Function.extend (encoding.rows .treasuryAssets) (fun treasuryAssets =>
            Function.extend (encoding.rows .ohmSupply) (fun ohmSupply =>
              (orFailure (dailyMetricsOf range includeRecords
                (config.generatedAt.getD manifest.generatedAt) metricRows treasuryAssets
                ohmSupply)).map (encoding.rows .metrics))
              (fun _ => .error .other) ohmSupply)
            (fun _ => .error .other) treasuryAssets)
          (fun _ => .error .other) metricRows)
        (fun _ => .error .other) json) (fun _ => .error .other) range
    rowsDescending := fun rows => .ok (descending rows)
    legacyMetrics := fun pathname vars json range metrics =>
      Function.extend encoding.manifest (fun manifest =>
        Function.extend encoding.range (fun range =>
        Function.extend (encoding.rows .metrics) (fun metrics =>
          .ok (encoding.legacyData (Api.legacyMetrics pathname vars range
            (config.generatedAt.getD manifest.generatedAt) metrics)))
          (fun _ => .error .other) metrics)
        (fun _ => .error .other) range) (fun _ => .error .other) json }, ?_⟩
  constructor
  · intro url endpoint manifest
    dsimp only
    rw [h.manifest.extend_apply]
    rfl
  · intro pathname vars manifest
    dsimp only
    rw [h.manifest.extend_apply]
  · intro range
    dsimp only
    rw [h.range.extend_apply]
  · intro manifest kind month
    dsimp only
    rw [h.manifest.extend_apply]
  · intro range kind rows
    dsimp only [onItems]
    rw [h.range.extend_apply, hinRange]
  · intro rows
    refine ⟨_, rfl, fun range includeRecords manifest treasuryAssets ohmSupply => ?_⟩
    dsimp only
    rw [h.range.extend_apply, h.manifest.extend_apply, hmetrics.extend_apply,
      hassets.extend_apply, hsupply.extend_apply]
  · intro metricRows records
    dsimp only
    rw [hmetrics.extend_apply]
    exact congrArg Except.ok (hselected metricRows .treasuryAssets records)
  · intro metricRows records
    dsimp only
    rw [hmetrics.extend_apply]
    exact congrArg Except.ok (hselected metricRows .ohmSupply records)
  · intro records
    exact congrArg Except.ok (hdescending .treasuryAssets records)
  · intro supplies
    exact congrArg Except.ok (hdescending .ohmSupply supplies)
  · intro pathname vars manifest range metrics
    dsimp only
    rw [h.manifest.extend_apply, h.range.extend_apply, hmetrics.extend_apply]

end

end OlympusMetrics.Api.Http
