import OlympusMetrics.Api.Reading
import OlympusMetrics.Api.Requests
import OlympusMetrics.Library.FixedAnswers

/-!
The reads of a request.

A request reads the manifest first and then shards that the manifest leads to. A
read that fails ends in an error response.
-/

namespace OlympusMetrics.Api

open Process Publisher

variable {N : Type}

/-! ### Shards -/

/-- An error that is not taken for a missing object. -/
def IsFailure (error : PublishError) : Prop := ∀ key, error ≠ .artifactNotFound key

/-- A read of a shard that a manifest leads to. -/
def ReadsShard (manifest : Manifest) (op : StoreOp (MetricRow N)) : Prop :=
  ∃ kind month, op = .getJson (artifactKeyForMonth manifest kind month)

section

variable {manifest : Manifest} {range : DateRange} {kind : ArtifactKind}
  {used : StoreOp (MetricRow N) → Prop} {α : Type}

theorem isFailure_error (message : String) : IsFailure (.error message) := fun _ h => nomatch h

theorem ends_orNotFound (p : PublisherProcess (MetricRow N) α) :
    Ends (OnlyFails IsFailure) (orNotFound p) := by
  unfold orNotFound
  induction p with
  | ret x => trivial
  | throw e =>
      cases e with
      | artifactNotFound key => trivial
      | metricsNotDataReady => exact fun key h => nomatch h
      | error message => exact isFailure_error message
  | call op next ih => exact ih

theorem careful_orNotFound {p : PublisherProcess (MetricRow N) α}
    (h : Careful used IsFailure (Throws IsFailure) p) :
    Careful used IsFailure (Throws IsFailure) (orNotFound p) := by
  refine careful_tryCatch (careful_bind h (fun _ => trivial)) (fun e he => ?_) (fun e => ?_)
  · cases e with
    | artifactNotFound key => exact absurd rfl (he key)
    | metricsNotDataReady => exact he
    | error message => exact he
  · cases e <;> trivial

theorem careful_readMonth (rows : List (MetricRow N kind)) (month : String) :
    Careful (ReadsShard manifest) IsFailure (Throws IsFailure)
      (readMonth manifest range kind rows month) := by
  have hshard (value : Artifact (MetricRow N)) :
      Careful (ReadsShard manifest) IsFailure (Throws IsFailure) (rowsOf kind value) := by
    unfold rowsOf
    split
    · split <;> trivial
    · trivial
  unfold readMonth
  refine careful_bind (careful_orNotFound (careful_bind (careful_await ⟨kind, month, rfl⟩) hshard)) ?_
  intro monthRows
  cases monthRows <;> trivial

theorem ends_readMonth (rows : List (MetricRow N kind)) (month : String) :
    Ends (OnlyFails IsFailure) (readMonth manifest range kind rows month) := by
  unfold readMonth
  refine ends_bind (ends_orNotFound _) (fun monthRows => ?_)
  cases monthRows <;> trivial

theorem ends_ofExcept_orError (result : Except String α) :
    Ends (OnlyFails IsFailure) (.ofExcept (orError result) : PublisherProcess (MetricRow N) α) := by
  cases result with
  | ok x => trivial
  | error message => exact isFailure_error message

theorem careful_readArtifactRows (manifest : Manifest) (range : DateRange) (kind : ArtifactKind) :
    Careful (ReadsShard manifest) IsFailure (Throws IsFailure)
      (readArtifactRows manifest range kind : PublisherProcess (MetricRow N) _) := by
  unfold readArtifactRows
  generalize orError (monthKeysForRange range.start range.stop) = parsed
  refine careful_bind (careful_ofExcept parsed) (fun months => ?_)
  exact careful_forEach (fun rows month _ => careful_readMonth rows month) []

theorem ends_readArtifactRows (manifest : Manifest) (range : DateRange) (kind : ArtifactKind) :
    Ends (OnlyFails IsFailure)
      (readArtifactRows manifest range kind : PublisherProcess (MetricRow N) _) := by
  unfold readArtifactRows
  generalize monthKeysForRange range.start range.stop = parsed
  refine ends_bind (ends_ofExcept_orError parsed) (fun months => ?_)
  exact ends_forEach (fun rows month _ => ends_readMonth rows month) []

variable [Zero N] [DecidableEq N] [Add N]

theorem careful_readDailyMetrics (includeRecords : Bool) (generatedAt : ℕ) :
    Careful (ReadsShard manifest) IsFailure (Throws IsFailure)
      (readDailyMetrics manifest range includeRecords generatedAt :
        PublisherProcess (MetricRow N) _) := by
  have hreadIf (kind : ArtifactKind) : Careful (ReadsShard manifest) IsFailure (Throws IsFailure)
      (if includeRecords then readArtifactRows manifest range kind
        else .ret [] : PublisherProcess (MetricRow N) _) := by
    cases includeRecords with
    | true => exact careful_readArtifactRows manifest range kind
    | false => trivial
  rw [readDailyMetrics_eq]
  generalize dateKeysForRange range = parsed
  refine careful_bind (careful_readArtifactRows manifest range .metrics) (fun metricRows => ?_)
  refine careful_bind (hreadIf .treasuryAssets) (fun treasuryAssets => ?_)
  refine careful_bind (hreadIf .ohmSupply) (fun ohmSupply => ?_)
  exact careful_bind (careful_ofExcept _) (fun dates => trivial)

omit [Add N] in
theorem careful_readSelectedDailyRecords (turns : List Bool) (kind : ArtifactKind)
    (block : MetricRow N kind → N) (blockchain : MetricRow N kind → String) :
    Careful (ReadsShard manifest) IsFailure (Throws IsFailure)
      (readSelectedDailyRecords turns manifest range kind block blockchain) :=
  careful_bind (careful_both (careful_readArtifactRows manifest range .metrics)
    (ends_readArtifactRows manifest range .metrics) (careful_readArtifactRows manifest range kind)
    (ends_readArtifactRows manifest range kind) turns) (fun _ => trivial)

theorem careful_readV2Data (turns : List Bool) (generatedAt : ℕ) (endpoint : V2Endpoint) :
    Careful (ReadsShard manifest) IsFailure (Throws IsFailure)
      (readV2Data turns manifest range generatedAt endpoint :
        PublisherProcess (MetricRow N) _) := by
  cases endpoint with
  | metricsDaily includeRecords => exact careful_readDailyMetrics includeRecords generatedAt
  | treasuryAssetsDaily => exact careful_readSelectedDailyRecords turns .treasuryAssets _ _
  | ohmSupplyDaily => exact careful_readSelectedDailyRecords turns .ohmSupply _ _

/-- A handler answers with an error. -/
def IsErrorAnswer {Data : Type} (result : Except PublishError (ApiResponse Data)) : Prop :=
  ∃ status code message, result = .ok (.error status code message)

theorem careful_answerV2Request (turns : List Bool) (config : MetricsApiConfig)
    (request : V2Request) (manifest : Manifest) :
    Careful (ReadsShard manifest) IsFailure IsErrorAnswer
      (answerV2Request turns config request manifest : PublisherProcess (MetricRow N) _) := by
  unfold answerV2Request
  generalize resolveV2Range request config manifest = resolved
  refine careful_tryCatch (careful_bind (careful_ofExcept _) (fun range => ?_)) (fun e he => ?_)
    (fun e => ?_)
  · exact careful_bind (careful_readV2Data turns _ request.endpoint) (fun data => trivial)
  · cases e with
    | artifactNotFound key => exact absurd rfl (he key)
    | metricsNotDataReady => exact ⟨_, _, _, rfl⟩
    | error message => exact ⟨_, _, _, rfl⟩
  · cases e <;> trivial

variable [Div N]

theorem careful_readLegacyRange (turns : List Bool) (pathname : String) (vars : LegacyVariables)
    (generatedAt : ℕ) : Careful (ReadsShard manifest) IsFailure (Throws IsFailure)
      (readLegacyRange turns pathname vars manifest range generatedAt :
        PublisherProcess (MetricRow N) _) := by
  unfold readLegacyRange
  split
  · exact careful_bind (careful_readSelectedDailyRecords turns .treasuryAssets _ _)
      (fun records => trivial)
  · split
    · exact careful_bind (careful_readSelectedDailyRecords turns .ohmSupply _ _)
        (fun supplies => trivial)
    · exact careful_bind (careful_readDailyMetrics _ generatedAt) (fun metrics => trivial)

theorem careful_readLegacyOperation (turns : List Bool) (pathname : String)
    (vars : LegacyVariables) (config : MetricsApiConfig) (manifest : Manifest) :
    Careful (ReadsShard manifest) IsFailure (Throws IsFailure)
      (readLegacyOperation turns pathname vars config manifest :
        PublisherProcess (MetricRow N) _) := by
  unfold readLegacyOperation
  generalize resolveLegacyRange pathname vars manifest config.maxRangeDays = resolved
  refine careful_bind (careful_ofExcept _) (fun range => ?_)
  cases range with
  | none => trivial
  | some range => exact careful_readLegacyRange turns pathname vars _

/-- The server sends an error. -/
def IsErrorResponse (result : Except PublishError (Option (HttpResponse N))) : Prop :=
  ∃ status code message, result = .ok (some (sendError status code message))

omit [Zero N] [DecidableEq N] [Add N] [Div N] in
theorem not_isErrorResponse_error (e : PublishError) :
    ¬ IsErrorResponse (.error e : Except PublishError (Option (HttpResponse N))) := by
  rintro ⟨status, code, message, h⟩
  cases h

omit [Zero N] [DecidableEq N] [Add N] [Div N] in
theorem IsErrorAnswer.send {Data : Type} {body : Data → ApiMeta → ResponseBody N}
    {response : ApiResponse Data} (h : IsErrorAnswer (.ok response)) :
    IsErrorResponse (.ok (response.send body)) := by
  obtain ⟨status, code, message, heq⟩ := h
  rw [Except.ok.inj heq]
  exact ⟨status, code, message, rfl⟩

theorem careful_answerLegacyRequest (turns : List Bool) (config : MetricsApiConfig)
    (pathname : String) (vars : LegacyVariables) (manifest : Manifest) :
    Careful (ReadsShard manifest) IsFailure IsErrorResponse
      (answerLegacyRequest turns config pathname vars manifest :
        PublisherProcess (MetricRow N) _) := by
  unfold answerLegacyRequest
  refine careful_tryCatch (careful_bind (careful_readLegacyOperation turns pathname vars config
    manifest) (fun data => trivial)) (fun e he => ?_) (fun e => ?_)
  · cases e with
    | artifactNotFound key => exact absurd rfl (he key)
    | metricsNotDataReady => exact ⟨_, _, _, rfl⟩
    | error message => exact ⟨_, _, _, rfl⟩
  · cases e <;> trivial

end

/-! ### The manifest first -/

/-- A request answers without a read, or it reads the manifest, and the shards that it leads to after
that. Without a manifest it ends badly. -/
inductive ReadsManifestFirst {Response : Type} (bad : Except PublishError Response → Prop) :
    PublisherProcess (MetricRow N) Response → Prop
  | fixed (response : Response) : ReadsManifestFirst bad (.ret response)
  | reads {next : Except PublishError (Artifact (MetricRow N)) →
        PublisherProcess (MetricRow N) Response}
      (careful : ∀ manifest, Careful (ReadsShard manifest) IsFailure bad
        (next (.ok (.manifest manifest))))
      (other : ∀ result, (∀ manifest, result ≠ .ok (.manifest manifest)) → Ends bad (next result)) :
      ReadsManifestFirst bad (.call (.getJson manifestKey) next)

namespace ReadsManifestFirst

variable {Response Response' : Type} {bad : Except PublishError Response → Prop}
  {p : PublisherProcess (MetricRow N) Response}

theorem bind_ret {bad' : Except PublishError Response' → Prop} {g : Response → Response'}
    (h : ReadsManifestFirst bad p) (hok : ∀ x, bad (.ok x) → bad' (.ok (g x)))
    (herror : ∀ e, bad (.error e) → bad' (.error e)) :
    ReadsManifestFirst bad' (p >>= fun x => .ret (g x)) := by
  cases h with
  | fixed response => exact .fixed (g response)
  | reads careful other =>
      exact .reads (fun manifest => careful_bind_ret (careful manifest) hok herror)
        (fun result hresult => ends_bind_ret (other result hresult) hok herror)

theorem tryCatch {handler : PublishError → PublisherProcess (MetricRow N) Response}
    (h : ReadsManifestFirst bad p) (hbad : ∀ e, ¬ bad (.error e))
    (hhandler : ∀ manifest e, Careful (ReadsShard manifest) IsFailure bad (handler e)) :
    ReadsManifestFirst bad (p.tryCatch handler) := by
  cases h with
  | fixed response => exact .fixed response
  | reads careful other =>
      exact .reads
        (fun manifest => careful_tryCatch_of_ok (careful manifest) hbad (hhandler manifest))
        (fun result hresult => ends_tryCatch_of_ok (other result hresult) hbad)

end ReadsManifestFirst

section

variable {config : MetricsApiConfig}

/-- What a request does once the manifest is read, or is not. -/
theorem readsManifestFirst_attempt {Response : Type} {bad : Except PublishError Response → Prop}
    (hconfig : config.manifest = none)
    {answer : Except PublishError Manifest → PublisherProcess (MetricRow N) Response}
    (hok : ∀ manifest, Careful (ReadsShard manifest) IsFailure bad (answer (.ok manifest)))
    (herror : ∀ e, Ends bad (answer (.error e))) :
    ReadsManifestFirst bad ((getManifest config).attempt >>= answer) := by
  unfold getManifest
  rw [hconfig]
  refine .reads (fun manifest => hok manifest) (fun result hresult => ?_)
  cases result with
  | error e => exact herror e
  | ok value =>
      cases value with
      | manifest manifest => exact absurd rfl (hresult manifest)
      | lock lock => exact herror _
      | schema key => exact herror _
      | shard kind rows => exact herror _

theorem readsManifestFirst_withPublishedManifest {Data : Type} (hconfig : config.manifest = none)
    {answer : Manifest → PublisherProcess (MetricRow N) (ApiResponse Data)}
    (h : ∀ manifest, Careful (ReadsShard manifest) IsFailure IsErrorAnswer (answer manifest)) :
    ReadsManifestFirst IsErrorAnswer (withPublishedManifest config answer) := by
  refine readsManifestFirst_attempt hconfig h (fun e => ?_)
  cases e <;> exact ⟨_, _, _, rfl⟩

theorem ReadsManifestFirst.send {Data : Type} {p : PublisherProcess (MetricRow N) (ApiResponse Data)}
    (h : ReadsManifestFirst IsErrorAnswer p) (body : Data → ApiMeta → ResponseBody N) :
    ReadsManifestFirst IsErrorResponse (p >>= fun response => .ret (response.send body)) := by
  refine h.bind_ret (fun _ hanswer => hanswer.send) (fun e herror => ?_)
  obtain ⟨status, code, message, heq⟩ := herror
  cases heq

variable [Zero N] [DecidableEq N] [Add N] (turns : List Bool)

theorem readsManifestFirst_handleDailyRequest (hconfig : config.manifest = none) (url : Url)
    (endpoint : V2Endpoint) : ReadsManifestFirst IsErrorResponse
      (handleDailyRequest turns config url endpoint : PublisherProcess (MetricRow N) _) :=
  (readsManifestFirst_withPublishedManifest hconfig
    (careful_answerV2Request turns config (url.dailyRequest endpoint))).send _

omit [Zero N] [DecidableEq N] [Add N] in
theorem readsManifestFirst_handleBoundsRequest (hconfig : config.manifest = none) :
    ReadsManifestFirst IsErrorAnswer (handleBoundsRequest config : PublisherProcess (MetricRow N) _) :=
  readsManifestFirst_withPublishedManifest hconfig (fun _ => trivial)

variable [Div N]

theorem readsManifestFirst_handleLegacyRequest (hconfig : config.manifest = none) (url : Url) :
    ReadsManifestFirst IsErrorResponse
      (handleLegacyRequest turns config url : PublisherProcess (MetricRow N) _) := by
  unfold handleLegacyRequest
  split
  · exact .fixed _
  · next vars _ =>
      refine readsManifestFirst_attempt hconfig
        (fun manifest => careful_answerLegacyRequest turns config url.pathname vars manifest)
        (fun e => ?_)
      cases e <;> exact ⟨_, _, _, rfl⟩

theorem readsManifestFirst_handlePath (hconfig : config.manifest = none) (url : Url) :
    ReadsManifestFirst IsErrorResponse
      (handlePath turns config url : PublisherProcess (MetricRow N) _) := by
  have hdaily := readsManifestFirst_handleDailyRequest (N := N) turns hconfig url
  unfold handlePath
  split
  · exact .fixed _
  split
  · exact .fixed _
  split
  · exact .fixed _
  split
  · exact (readsManifestFirst_handleBoundsRequest hconfig).send _
  split
  · exact hdaily _
  split
  · exact hdaily _
  split
  · exact hdaily _
  split
  · exact .fixed _
  split
  · exact .fixed _
  split
  · exact readsManifestFirst_handleLegacyRequest turns hconfig url
  · exact .fixed _

/-- Every request reads the manifest first and then shards that it leads to. -/
theorem readsManifestFirst_handleMetricsApiRequest (hconfig : config.manifest = none)
    (request : HttpRequest) : ReadsManifestFirst IsErrorResponse
      (handleMetricsApiRequest turns config request : PublisherProcess (MetricRow N) _) := by
  refine ReadsManifestFirst.tryCatch ?_ not_isErrorResponse_error (fun _ _ => trivial)
  unfold handleMetricsApiRequestUnchecked
  split
  · exact .fixed _
  split
  · exact .fixed _
  split
  · exact .fixed _
  split
  · exact .fixed _
  · split
    · exact .fixed _
    · exact readsManifestFirst_handlePath turns hconfig _

end

end OlympusMetrics.Api
