import OlympusMetrics.Api.Handler

/-!
Every request gets exactly one response.

Reading throws no `ArtifactNotFoundError` on, so that the branches that return
silently are not reached before a response is sent. A response is open until
then, and is not yet marked as public.
-/

namespace OlympusMetrics.Api.Http

open Publisher Process

variable {R : Type}

/-- The cache of a response may be shared. -/
def isPublic (headers : String → Option String) : Bool :=
  match headers "cache-control" with
  | some value => startsWith value "public"
  | none => false

/-- Nothing is sent yet, and nothing is public. -/
structure Open (response : ServerResponse) : Prop where
  sent : response.sent = []
  destroyed : response.destroyed = false
  isPublic : isPublic response.headers = false

/-- One response is sent, and it is only public with status 200. -/
def Answered (response : ServerResponse) : Prop :=
  ∃ only, response.sent = [only] ∧ (isPublic only.headers = true → only.status = 200) ∧
    response.destroyed = false

/-- A program ends well, with one response sent. -/
def Answers (p : ServerProcess Unit) (response : ServerResponse) : Prop :=
  Meets Performs (fun _ => True) p (fun result response' => result = .ok () ∧ Answered response')
    response

/-! ### The response -/

section

variable {response : ServerResponse} {name value : String} {status : ℕ}
  {p : ServerProcess Unit} {post : Except Thrown Unit → ServerResponse → Prop}

theorem isPublic_update (hname : name ≠ "cache-control") (value : Option String)
    (headers : String → Option String) :
    isPublic (Function.update headers name value) = isPublic headers := by
  unfold isPublic
  rw [Function.update_of_ne hname.symm]

theorem meets_setHeader_bind (hsent : response.sent = [])
    (h : Meets Performs (fun _ => True) p post
      { response with headers := Function.update response.headers name (some value) }) :
    Meets Performs (fun _ => True) (setHeader name value >>= fun _ => p) post response := by
  refine meets_bind (meets_await trivial (fun result response' hstep => ⟨trivial, ?_⟩))
  simp only [Performs, if_pos hsent] at hstep
  obtain ⟨rfl, rfl⟩ := hstep
  exact h

theorem meets_setStatusCode_bind (h : Meets Performs (fun _ => True) p post
      { response with statusCode := status }) :
    Meets Performs (fun _ => True) (setStatusCode status >>= fun _ => p) post response := by
  refine meets_bind (meets_await trivial (fun result response' hstep => ⟨trivial, ?_⟩))
  obtain ⟨rfl, rfl⟩ := hstep
  exact h

theorem answers_finish (hsent : response.sent = []) (hdestroyed : response.destroyed = false)
    (hpublic : isPublic response.headers = true → response.statusCode = 200) :
    Answers (finish : ServerProcess Unit) response := by
  refine meets_await trivial (fun result response' hstep => ⟨trivial, ?_⟩)
  obtain ⟨rfl, rfl⟩ := hstep
  refine ⟨rfl, ⟨response.statusCode, response.headers⟩, ?_, hpublic, hdestroyed⟩
  simp only [hsent, List.nil_append]

/-- A response that is only public with status 200 may be sent. -/
theorem answers_sendBody (contentType : String) (hsent : response.sent = [])
    (hdestroyed : response.destroyed = false)
    (hpublic : isPublic response.headers = true → status = 200) :
    Answers (sendBody status contentType : ServerProcess Unit) response := by
  refine meets_setStatusCode_bind (meets_setHeader_bind hsent ?_)
  refine answers_finish hsent hdestroyed ?_
  rw [isPublic_update (by decide)]
  exact hpublic

theorem Open.sendJson (h : Open response) (status : ℕ) :
    Answers (sendJson status : ServerProcess Unit) response := by
  refine answers_sendBody _ h.sent h.destroyed (fun hpublic => ?_)
  rw [h.isPublic] at hpublic
  exact nomatch hpublic

theorem Open.sendError (h : Open response) (status : ℕ) (code message : String) :
    Answers (sendError status code message : ServerProcess Unit) response :=
  h.sendJson status

/-- Headers other than those of the cache leave a response open. -/
theorem Open.update (h : Open response) (hname : name ≠ "cache-control") (value : String) :
    Open { response with headers := Function.update response.headers name (some value) } where
  sent := h.sent
  destroyed := h.destroyed
  isPublic := by rw [isPublic_update hname, h.isPublic]

/-- A response that is not to be stored stays open. -/
theorem Open.noStore (h : Open response) :
    Open { response with
      headers := Function.update response.headers "cache-control" (some "no-store") } where
  sent := h.sent
  destroyed := h.destroyed
  isPublic := by
    have hvalue : startsWith "no-store" "public" = false := by decide
    simp [Http.isPublic, hvalue]

theorem Open.setHeader_bind (h : Open response) (hname : name ≠ "cache-control")
    (hp : Open { response with headers := Function.update response.headers name (some value) } →
      Answers p { response with headers := Function.update response.headers name (some value) }) :
    Answers (setHeader name value >>= fun _ => p) response :=
  meets_setHeader_bind h.sent (hp (h.update hname value))

/-- Data is sent as public with status 200. -/
theorem Open.sendPublic (h : Open response) (contentType : String) :
    Answers (setHeader "cache-control" "public, max-age=3600" >>= fun _ =>
      sendBody 200 contentType : ServerProcess Unit) response :=
  meets_setHeader_bind h.sent
    (answers_sendBody contentType h.sent h.destroyed (fun _ => rfl))

end

/-! ### Reading -/

def IsFailure (error : Thrown) : Prop := ∃ failure, error = .failure failure

def IsRead (op : ServerOp) : Prop := ∃ key, op = .getJson key

/-- A program that only reads, and does not throw that an object was not found. -/
structure Reads {α : Type} (p : ServerProcess α) : Prop where
  calls : Calls IsRead p
  ends : Ends (OnlyFails IsFailure) p

section

variable {α β : Type} {config : HandlerConfig} {steps : DataSteps R}

theorem reads_ret (x : α) : Reads (.ret x : ServerProcess α) := ⟨trivial, trivial⟩

theorem Reads.bind {p : ServerProcess α} {f : α → ServerProcess β} (hp : Reads p)
    (hf : ∀ x, Reads (f x)) : Reads (p >>= f) :=
  ⟨calls_bind hp.calls (fun x => (hf x).calls), ends_bind hp.ends (fun x => (hf x).ends)⟩

theorem reads_compute (result : Except Failure α) : Reads (compute result : ServerProcess α) := by
  cases result with
  | ok x => exact reads_ret x
  | error failure => exact ⟨trivial, failure, rfl⟩

theorem Reads.both {p : ServerProcess α} {q : ServerProcess β} (hp : Reads p) (hq : Reads q)
    (turns : List Bool) : Reads (p.both turns q) :=
  ⟨calls_both hp.calls hq.calls turns, ends_both hp.ends hq.ends turns⟩

theorem reads_forEach {γ : Type} {f : β → γ → ServerProcess β} (hf : ∀ acc x, Reads (f acc x))
    (xs : List γ) (acc : β) : Reads (Process.forEach f xs acc) :=
  ⟨calls_forEach xs (fun acc x => (hf acc x).calls) acc,
    ends_forEach (fun acc x _ => (hf acc x).ends) acc⟩

theorem calls_getJson (key : String) : Calls IsRead (getJson key : ServerProcess Json) :=
  calls_await ⟨key, rfl⟩

/-- A month keeps the error of an object that was not found to itself. -/
theorem reads_readMonth (manifest : Json) (range : R) (kind : ArtifactKind) (rows : List Json)
    (month : String) : Reads (readMonth steps manifest range kind rows month) where
  calls := by
    unfold readMonth
    refine calls_tryCatch ?_ (fun error => ?_)
    · refine calls_bind (reads_compute _).calls (fun key => ?_)
      refine calls_bind (calls_getJson key) (fun value => ?_)
      exact calls_bind (reads_compute _).calls (fun monthRows => trivial)
    · cases error with
      | artifactNotFound key => trivial
      | failure failure => trivial
  ends := by
    unfold readMonth
    refine ends_tryCatch (ends_of_forall _ (fun result => ?_))
    rcases result with error | rows'
    · cases error with
      | artifactNotFound key => trivial
      | failure failure => exact ⟨failure, rfl⟩
    · trivial

theorem reads_readFields (value : Json) : Reads (readFields value) := by
  cases value with
  | null => exact ⟨trivial, _, rfl⟩
  | _ => exact reads_ret ()

theorem reads_readGeneratedAt (manifest : Json) : Reads (readGeneratedAt config manifest) := by
  unfold readGeneratedAt
  cases config.generatedAt with
  | some generatedAt => exact reads_ret ()
  | none => exact reads_readFields manifest

theorem reads_readArtifactRows (manifest : Json) (range : R) (kind : ArtifactKind) :
    Reads (readArtifactRows config steps manifest range kind) := by
  unfold readArtifactRows
  split
  · exact (reads_compute _).bind (fun months =>
      reads_forEach (fun rows month => reads_readMonth manifest range kind rows month) months [])
  · exact reads_ret []

theorem reads_readSelectedDailyRecords (turns : List Bool) (manifest : Json) (range : R)
    (kind : ArtifactKind) :
    Reads (readSelectedDailyRecords config steps turns manifest range kind) := by
  unfold readSelectedDailyRecords
  refine ((reads_readArtifactRows manifest range .metrics).both
    (reads_readArtifactRows manifest range kind) turns).bind (fun rows => ?_)
  exact reads_compute _

theorem reads_readDailyMetrics (manifest : Json) (range : R) (includeRecords : Bool) :
    Reads (readDailyMetrics config steps manifest range includeRecords) := by
  unfold readDailyMetrics
  refine (reads_readArtifactRows manifest range .metrics).bind (fun metricRows => ?_)
  refine (reads_compute _).bind (fun metrics => ?_)
  cases includeRecords with
  | true =>
      refine (reads_readArtifactRows manifest range .treasuryAssets).bind (fun treasuryAssets => ?_)
      refine (reads_readArtifactRows manifest range .ohmSupply).bind (fun ohmSupply => ?_)
      exact reads_compute _
  | false => exact (reads_ret []).bind (fun _ => (reads_ret []).bind (fun _ => reads_compute _))

theorem reads_readV2Data (turns : List Bool) (manifest : Json) (range : R) (endpoint : V2Endpoint) :
    Reads (readV2Data config steps turns manifest range endpoint) := by
  cases endpoint with
  | metricsDaily includeRecords =>
      exact (reads_readGeneratedAt manifest).bind
        (fun _ => reads_readDailyMetrics manifest range includeRecords)
  | treasuryAssetsDaily => exact reads_readSelectedDailyRecords turns manifest range _
  | ohmSupplyDaily => exact reads_readSelectedDailyRecords turns manifest range _

theorem reads_readLegacyOperation (turns : List Bool) (pathname : String) (vars : LegacyVariables)
    (manifest : Json) : Reads (readLegacyOperation config steps turns pathname vars manifest) := by
  unfold readLegacyOperation
  refine (reads_compute _).bind (fun range => ?_)
  cases range with
  | none => exact reads_ret []
  | some range =>
      dsimp only
      split
      · exact (reads_readSelectedDailyRecords turns manifest range _).bind (fun _ => reads_compute _)
      · split
        · exact (reads_readSelectedDailyRecords turns manifest range _).bind
            (fun _ => reads_compute _)
        · refine (reads_readGeneratedAt manifest).bind (fun _ => ?_)
          exact (reads_readDailyMetrics manifest range _).bind (fun _ => reads_compute _)

/-- Reading leaves the response as it is. -/
theorem Reads.meets {p : ServerProcess α} (h : Reads p) (response : ServerResponse) :
    Meets Performs (fun _ => True) p (fun result response' =>
      OnlyFails IsFailure result ∧ response' = response) response := by
  refine meets_of_calls ?_ h.calls h.ends trivial
  rintro op response result response' ⟨key, rfl⟩ hstep
  exact hstep.2

end

/-! ### Handling -/

section

variable {config : HandlerConfig} {steps : DataSteps R} {response : ServerResponse}

/-- A response that is sent by a step before the end of a program. -/
theorem Answers.bind_ret {α : Type} {p : ServerProcess Unit} (h : Answers p response) (x : α) :
    Meets Performs (fun _ => True) (p >>= fun _ => .ret x) (fun result response' =>
      result = .ok x ∧ Answered response') response := by
  refine meets_bind (h.finally ?_)
  rintro result response' - ⟨rfl, hanswered⟩
  exact ⟨trivial, rfl, hanswered⟩

/-- A manifest that is found is an object. -/
theorem meets_getManifest :
    Meets Performs (fun _ => True) (getManifest config) (fun result response' =>
      (∀ manifest, result = .ok manifest → IsObject manifest) ∧ response' = response) response := by
  unfold getManifest
  cases hmanifest : config.manifest with
  | some manifest =>
      refine ⟨trivial, ?_, rfl⟩
      rintro manifest' ⟨⟩
      exact config.isObject_manifest manifest hmanifest
  | none =>
      dsimp only
      split
      · refine meets_await trivial (fun result response' hstep => ⟨trivial, ?_⟩)
        exact ⟨hstep.1 rfl, hstep.2⟩
      · refine ⟨trivial, ?_, rfl⟩
        rintro manifest ⟨⟩

/-- There is a manifest, or an error is sent. -/
theorem Open.getPublishedManifest (h : Open response) :
    Meets Performs (fun _ => True) (getPublishedManifest config) (fun result response' =>
      (∃ manifest, result = .ok (some manifest) ∧ IsObject manifest ∧ response' = response) ∨
        result = .ok none ∧ Answered response') response := by
  have hsend (code message : String) :
      Meets Performs (fun _ => True)
        (Http.sendError 503 code message >>= fun _ => (.ret none : ServerProcess (Option Json)))
        (fun result response' =>
          (∃ manifest, result = .ok (some manifest) ∧ IsObject manifest ∧ response' = response) ∨
            result = .ok none ∧ Answered response') response := by
    refine ((h.sendError 503 code message).bind_ret none).finally ?_
    exact fun result response' _ hanswered => Or.inr hanswered
  unfold Http.getPublishedManifest
  refine meets_tryCatch (meets_bind (meets_getManifest.finally ?_))
  rintro result response' - ⟨hobject, rfl⟩
  cases result with
  | ok manifest => exact ⟨trivial, Or.inl ⟨manifest, rfl, hobject manifest rfl, rfl⟩⟩
  | error error =>
      cases error with
      | artifactNotFound key =>
          exact hsend "manifest_not_published" "Metrics artifacts have not been published yet."
      | failure failure =>
          exact hsend "manifest_unavailable" "Metrics artifact manifest is unavailable."

/-- Reading the fields of an object does not throw. -/
theorem IsObject.readFields {value : Json} (h : IsObject value) :
    Http.readFields value = .ret () := by
  obtain ⟨entries, rfl⟩ := h
  rfl

/-- A route that only reads before it sends its data. -/
theorem Open.answerData (h : Open response) {data : Json → ServerProcess (List Json)}
    {reply : Json → ServerProcess Unit} (hdata : ∀ manifest, Reads (data manifest))
    (hreply : ∀ manifest, IsObject manifest → reply manifest = .ret ()) (code fallback : String) :
    Answers (answerData config code fallback data reply) response := by
  unfold Http.answerData
  refine meets_tryCatch (meets_bind (h.getPublishedManifest.finally ?_))
  rintro result response' - (⟨manifest, rfl, hobject, rfl⟩ | ⟨rfl, hanswered⟩)
  · refine meets_bind (((hdata manifest).meets response').finally ?_)
    rintro result response'' - ⟨honly, rfl⟩
    cases result with
    | ok rows =>
        rw [followed_ok, hreply manifest hobject]
        refine (h.sendPublic "application/json; charset=utf-8").finally ?_
        rintro result response' - ⟨rfl, hanswered⟩
        exact ⟨rfl, hanswered⟩
    | error error =>
        -- reading throws failures only, so that the silent branch is not taken
        obtain ⟨failure, rfl⟩ := honly
        exact h.sendError 400 code _
  · exact ⟨trivial, rfl, hanswered⟩

theorem Open.handleDailyRequest (h : Open response) (turns : List Bool) (url : Url)
    (endpoint : V2Endpoint) :
    Answers (handleDailyRequest config steps turns url endpoint) response :=
  h.answerData (fun manifest => (reads_compute _).bind (fun range =>
    reads_readV2Data turns manifest range endpoint)) (fun _ hobject => hobject.readFields) _ _

theorem Open.handleBoundsRequest (h : Open response) :
    Answers (handleBoundsRequest config) response := by
  unfold Http.handleBoundsRequest
  refine meets_bind (h.getPublishedManifest.finally ?_)
  rintro result response' - (⟨manifest, rfl, hobject, rfl⟩ | ⟨rfl, hanswered⟩)
  · rw [followed_ok]
    dsimp only [Http.emptyResponse]
    rw [hobject.readFields]
    exact meets_setHeader_bind h.sent (h.noStore.sendJson 200)
  · exact ⟨trivial, rfl, hanswered⟩

theorem Open.handleLegacyRequest (h : Open response) (turns : List Bool) (url : Url) :
    Answers (handleLegacyRequest config steps turns url) response := by
  unfold Http.handleLegacyRequest
  refine h.setHeader_bind (by decide) (fun hopen => ?_)
  cases parseLegacyVariables (url.get "wg_variables") with
  | error message => exact hopen.sendError 400 _ _
  | ok vars =>
      exact hopen.answerData (fun manifest =>
        reads_readLegacyOperation turns url.pathname vars manifest) (fun _ _ => rfl) _ _

theorem Open.handlePath (h : Open response) (turns : List Bool) (url : Url) :
    Answers (handlePath config steps turns url) response := by
  unfold Http.handlePath
  split
  · exact meets_setHeader_bind h.sent (h.noStore.sendJson 200)
  split
  · exact h.sendPublic _
  split
  · have hopen : Open { response with statusCode := 200 } := ⟨h.sent, h.destroyed, h.isPublic⟩
    exact meets_setStatusCode_bind (hopen.sendPublic _)
  split
  · exact h.handleBoundsRequest
  split
  · exact h.handleDailyRequest turns url _
  split
  · exact h.handleDailyRequest turns url _
  split
  · exact h.handleDailyRequest turns url _
  split
  · exact h.setHeader_bind (by decide) (fun hopen => hopen.sendJson 501)
  split
  · refine h.setHeader_bind (by decide) (fun hopen => ?_)
    exact meets_setHeader_bind hopen.sent (hopen.noStore.sendJson 200)
  split
  · exact h.handleLegacyRequest turns url
  · exact h.sendError 404 _ _

/-- The common headers leave a response open. -/
theorem Open.setCommonHeaders (h : Open response) :
    Meets Performs (fun _ => True) setCommonHeaders
      (fun result response' => result = .ok () ∧ Open response') response := by
  unfold Http.setCommonHeaders
  refine meets_setHeader_bind h.sent ?_
  have horigin := h.update (show "access-control-allow-origin" ≠ "cache-control" by decide) "*"
  refine meets_setHeader_bind horigin.sent ?_
  have hmethods := horigin.update
    (show "access-control-allow-methods" ≠ "cache-control" by decide) "GET, HEAD, OPTIONS"
  refine meets_setHeader_bind hmethods.sent ?_
  have hheaders := hmethods.update
    (show "access-control-allow-headers" ≠ "cache-control" by decide) "content-type"
  refine meets_await trivial (fun result response' hstep => ⟨trivial, ?_⟩)
  simp only [Performs, if_pos hheaders.sent] at hstep
  obtain ⟨rfl, rfl⟩ := hstep
  exact ⟨rfl, hheaders.update (by decide) "origin"⟩

theorem answers_unchecked (turns : List Bool) (request : HttpRequest) :
    Answers (handleMetricsApiRequestUnchecked config steps turns request) {} := by
  have hinitial : Open {} := ⟨rfl, rfl, rfl⟩
  unfold handleMetricsApiRequestUnchecked
  refine meets_bind (hinitial.setCommonHeaders.finally ?_)
  rintro result response - ⟨rfl, h⟩
  rw [followed_ok]
  split
  · refine meets_setStatusCode_bind (answers_finish h.sent h.destroyed (fun hpublic => ?_))
    rw [h.isPublic] at hpublic
    exact nomatch hpublic
  split
  · exact h.sendError 405 _ _
  split
  · exact h.sendError 400 _ _
  split
  · exact h.sendError 400 _ _
  · split
    · exact h.sendError 400 _ _
    · exact h.handlePath turns _

/-- Nothing is thrown, so that the last `catch` sends nothing. -/
theorem answers_handleMetricsApiRequest (turns : List Bool) (request : HttpRequest) :
    Answers (handleMetricsApiRequest config steps turns request) {} := by
  unfold handleMetricsApiRequest
  refine meets_tryCatch ((answers_unchecked turns request).finally ?_)
  rintro result response - ⟨rfl, hanswered⟩
  exact ⟨rfl, hanswered⟩

/-- However the operations answer, and a read may answer anything, the handler ends with one
response sent. -/
theorem exactly_one_response (config : HandlerConfig) (steps : DataSteps R) (turns : List Bool)
    (request : HttpRequest)
    (outcome : ℕ → (op : ServerOp) → ServerResponse → Except Thrown op.Answer × ServerResponse)
    (houtcome : ∀ n op response,
      Performs op response (outcome n op response).1 (outcome n op response).2) :
    ∃ length response only,
      play outcome (List.range' 0 length) (handleMetricsApiRequest config steps turns request) {} =
        (some (.ok ()), response) ∧
      response.sent = [only] ∧ response.destroyed = false ∧
      (isPublic only.headers = true → only.status = 200) := by
  obtain ⟨length, result, response, hplay⟩ :=
    exists_play outcome (handleMetricsApiRequest config steps turns request) 0 {}
  have hrun := runs_play houtcome (List.range' 0 length)
    (handleMetricsApiRequest config steps turns request) {}
  rw [hplay] at hrun
  obtain ⟨-, hends⟩ := (answers_handleMetricsApiRequest turns request).run hrun
  obtain ⟨rfl, only, hsent, hpublic, hdestroyed⟩ := hends result rfl
  exact ⟨length, response, only, hplay, hsent, hdestroyed, hpublic⟩

/-! ### A request for the records of two months -/

/-- A range is a list of months, and the rows of a shard are sent as they are. -/
def monthSteps : DataSteps (List String) where
  resolveV2Range := fun url _ =>
    match url.get "start", url.get "end" with
    | some start, some stop => .ok [start.text, stop.text]
    | _, _ => .error (.error "start is required")
  resolveLegacyRange := fun _ _ _ => .ok none
  monthKeysForRange := fun months => .ok months
  artifactKeyForMonth := fun _ kind month => .ok (kind.path ++ "/daily/" ++ month ++ ".json")
  rowsInRange := fun _ value =>
    match value with
    | .array rows => .ok rows
    | _ => .error (.error "rows.filter is not a function")
  metricsByDate := fun rows => .ok rows
  selectedRecords := fun _ records => .ok records
  dailyMetrics := fun _ _ _ metrics _ _ => .ok metrics
  rowsDescending := fun rows => .ok rows
  legacyMetrics := fun _ _ _ _ metrics => .ok metrics

/-- The metrics of February are not found, and its assets cannot be read. -/
def twoMonthReader (_ : ℕ) (key : String) : Except Thrown Json :=
  if key = manifestKey then .ok (.object [])
  else if key = "metrics/daily/2024-01.json" then .ok (.array [.object []])
  else if key = "treasury-assets/daily/2024-01.json" then .ok (.array [.object [], .object []])
  else if key = "treasury-assets/daily/2024-02.json" then .error (.failure (.error "request failed"))
  else .error (.artifactNotFound key)

/-- `/v2/treasury-assets/daily` for the two months. -/
def twoMonthRequest : HttpRequest where
  method := "GET"
  hasRequestBody := false
  url := some ⟨"/v2/treasury-assets/daily",
    [("start", ⟨"2024-01", .error "", .error ""⟩), ("end", ⟨"2024-02", .error "", .error ""⟩)]⟩

/-- The handler, with the reads of assets and of metrics in turn. -/
def twoMonthHandler : ServerProcess Unit :=
  handleMetricsApiRequest ⟨none, by simp, true, none⟩ monthSteps [false, true, true, false]
    twoMonthRequest

theorem isObject_twoMonthReader (n : ℕ) (value : Json)
    (h : twoMonthReader n manifestKey = .ok value) : IsObject value := by
  rw [twoMonthReader, if_pos rfl] at h
  exact ⟨[], (Except.ok.inj h).symm⟩

/-- The one response is the error of the read that failed. -/
theorem twoMonthHandler_one_response :
    (play (perform twoMonthReader) (List.range' 0 20) twoMonthHandler {}).2.sent.map (·.status) =
        [400] ∧
      ∃ length response only,
        play (perform twoMonthReader) (List.range' 0 length) twoMonthHandler {} =
          (some (.ok ()), response) ∧
        response.sent = [only] ∧ response.destroyed = false ∧
        (isPublic only.headers = true → only.status = 200) :=
  ⟨by decide +kernel, exactly_one_response _ _ _ _ _ (performs_perform isObject_twoMonthReader)⟩

end

end OlympusMetrics.Api.Http
