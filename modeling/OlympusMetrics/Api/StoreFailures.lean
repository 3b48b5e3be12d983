import OlympusMetrics.Api.Isolation
import OlympusMetrics.Api.RangeReads

/-!
Requests to a store of which reads fail.

A request that is accepted reads the manifest and then some shards. It is
answered with status 200 when all of these can be read, and with status 400 when
one of them can not.
-/

namespace OlympusMetrics.Api

open Publisher Process

variable {N : Type}

/-- The shards that are read: those of some kinds in the months of a range. -/
structure ShardReads where
  range : DateRange
  kinds : List ArtifactKind

/-- The kinds of the shards that an endpoint reads. -/
def V2Endpoint.kinds : V2Endpoint → List ArtifactKind
  | .metricsDaily true => [.metrics, .treasuryAssets, .ohmSupply]
  | .metricsDaily false => [.metrics]
  | .treasuryAssetsDaily => [.metrics, .treasuryAssets]
  | .ohmSupplyDaily => [.metrics, .ohmSupply]

/-- The kinds of the shards that a legacy operation reads. -/
def legacyKinds (pathname : String) (vars : LegacyVariables) : List ArtifactKind :=
  if endsWith pathname "/tokenRecords" then V2Endpoint.treasuryAssetsDaily.kinds
  else if endsWith pathname "/tokenSupplies" then V2Endpoint.ohmSupplyDaily.kinds
  else (V2Endpoint.metricsDaily (legacyFlag vars "includeRecords")).kinds

def dailyReads (config : MetricsApiConfig) (url : Url) (endpoint : V2Endpoint)
    (manifest : Manifest) : Option ShardReads :=
  match resolveV2Range (url.dailyRequest endpoint) config manifest with
  | .ok range => some { range := range, kinds := endpoint.kinds }
  | .error _ => none

/-- The shards that an operation reads when its variables are accepted. -/
def operationReads (config : MetricsApiConfig) (pathname : String) (vars : LegacyVariables)
    (manifest : Manifest) : Option ShardReads :=
  match resolveLegacyRange pathname vars manifest config.maxRangeDays with
  | .ok (some range) => some { range := range, kinds := legacyKinds pathname vars }
  | _ => none

def legacyReads (config : MetricsApiConfig) (url : Url) (manifest : Manifest) : Option ShardReads :=
  match parseLegacyVariables (url.get "wg_variables") with
  | .error _ => none
  | .ok vars => operationReads config url.pathname vars manifest

def pathReads (config : MetricsApiConfig) (url : Url) (manifest : Manifest) : Option ShardReads :=
  if url.pathname = "/v2/metrics/daily" then
    dailyReads config url (.metricsDaily ((url.get "includeRecords").map (·.text) == some "true"))
      manifest
  else if url.pathname = "/v2/treasury-assets/daily" then
    dailyReads config url .treasuryAssetsDaily manifest
  else if url.pathname = "/v2/ohm-supply/daily" then dailyReads config url .ohmSupplyDaily manifest
  else if url.pathname = "/operations/health" then none
  else if url.pathname ∈ legacyOperationPaths then legacyReads config url manifest
  else none

/-- The shards that a request reads once it has the manifest, if it is accepted. -/
def requestReads (config : MetricsApiConfig) (request : HttpRequest) (manifest : Manifest) :
    Option ShardReads :=
  if (request.method = "GET" ∨ request.method = "HEAD") ∧ request.hasRequestBody = false then
    match request.url with
    | none => none
    | some url => if validateQueryParams url = none then pathReads config url manifest else none
  else none

/-! ### Reading some kinds -/

/-- A program ends well when all kinds can be read, and fails when one can not. -/
structure ReadsKinds {α : Type} (manifest : Manifest) (reads : ShardReads)
    (program : List Bool → PublisherProcess (MetricRow N) α) : Prop where
  ok : ∀ turns answer,
    (∀ kind ∈ reads.kinds, ∃ rows, rangeRead answer manifest reads.range kind = .ok rows) →
      ∃ x, (program turns).eval answer = .ok x
  fail : ∀ turns answer,
    (∃ kind ∈ reads.kinds, ∃ error, rangeRead answer manifest reads.range kind = .error error) →
      ∃ error, (program turns).eval answer = .error error ∧ IsFailure error

section

variable {manifest : Manifest} {range : DateRange} {answer : StoreAnswer N} {dates : List String}

theorem isFailure_of_ends {α : Type} {p : PublisherProcess (MetricRow N) α}
    (h : Ends (OnlyFails IsFailure) p) {error : PublishError} (herror : p.eval answer = .error error) :
    IsFailure error := by
  induction p with
  | ret x => exact nomatch herror
  | throw e =>
      obtain rfl := Except.error.inj herror
      exact h
  | call op next ih => exact ih (answer op) (h (answer op)) herror

theorem isFailure_of_rangeRead {kind : ArtifactKind} {error : PublishError}
    (h : rangeRead answer manifest range kind = .error error) : IsFailure error :=
  isFailure_of_ends (ends_readArtifactRows manifest range kind) (eval_readArtifactRows_eq.trans h)

variable [Zero N] [DecidableEq N]

theorem readsKinds_selected (kind : ArtifactKind) (block : MetricRow N kind → N)
    (blockchain : MetricRow N kind → String) :
    ReadsKinds manifest { range := range, kinds := [.metrics, kind] } (fun turns =>
      readSelectedDailyRecords turns manifest range kind block blockchain) where
  ok := by
    intro turns answer h
    obtain ⟨metrics, hmetrics⟩ := h .metrics List.mem_cons_self
    obtain ⟨records, hrecords⟩ := h kind (List.mem_cons_of_mem _ List.mem_cons_self)
    refine ⟨selectRecords metrics block blockchain records, ?_⟩
    unfold readSelectedDailyRecords
    rw [Process.eval_bind, Process.eval_both (eval_readArtifactRows_eq.trans hmetrics)
      (eval_readArtifactRows_eq.trans hrecords) turns]
    rfl
  fail := by
    rintro turns answer ⟨failed, hmem, error, herror⟩
    have hone : (∃ e, (readArtifactRows manifest range .metrics).eval answer = .error e) ∨
        ∃ e, (readArtifactRows manifest range kind).eval answer = .error e := by
      have hfailed := eval_readArtifactRows_eq.trans herror
      rcases List.mem_cons.mp hmem with rfl | hmem
      · exact Or.inl ⟨error, hfailed⟩
      · obtain rfl := List.mem_singleton.mp hmem
        exact Or.inr ⟨error, hfailed⟩
    obtain ⟨e, he, hfailure⟩ := Process.eval_both_error
      (fun _ => isFailure_of_ends (ends_readArtifactRows manifest range .metrics))
      (fun _ => isFailure_of_ends (ends_readArtifactRows manifest range kind)) hone turns
    refine ⟨e, ?_, hfailure⟩
    unfold readSelectedDailyRecords
    rw [Process.eval_bind, he]
    rfl

variable [Add N]

/-- The reads of the metrics, one after another. -/
theorem eval_readDailyMetrics_eq (hdates : dateKeysForRange range = .ok dates)
    (includeRecords : Bool) (generatedAt : ℕ) :
    (readDailyMetrics manifest range includeRecords generatedAt).eval answer =
      rangeRead answer manifest range .metrics >>= fun metrics =>
      (if includeRecords then rangeRead answer manifest range .treasuryAssets else .ok []) >>=
        fun treasuryAssets =>
      (if includeRecords then rangeRead answer manifest range .ohmSupply else .ok []) >>=
        fun ohmSupply =>
      .ok (dates.map (fun date =>
        sentMetric includeRecords generatedAt date (metricsByDate metrics date)
          (treasuryAssets.filter (fun asset : TreasuryAsset N => asset.date == date))
          (ohmSupply.filter (fun supply : OhmSupply N => supply.date == date)))) := by
  have hreadIf (kind : ArtifactKind) : (if includeRecords then readArtifactRows manifest range kind
      else .ret [] : PublisherProcess (MetricRow N) _).eval answer =
        if includeRecords then rangeRead answer manifest range kind else .ok [] := by
    cases includeRecords with
    | true => exact eval_readArtifactRows_eq
    | false => rfl
  rw [readDailyMetrics_eq]
  simp only [Process.eval_bind, hreadIf, eval_readArtifactRows_eq, Process.eval_ofExcept, hdates,
    orError_ok, Process.except_ok_bind, Process.eval_ret]

theorem readsKinds_dailyMetrics (hdates : dateKeysForRange range = .ok dates)
    (includeRecords : Bool) (generatedAt : ℕ) :
    ReadsKinds manifest { range := range, kinds := (V2Endpoint.metricsDaily includeRecords).kinds }
      (fun _ => (readDailyMetrics manifest range includeRecords generatedAt :
        PublisherProcess (MetricRow N) _)) where
  ok := by
    intro turns answer h
    rw [eval_readDailyMetrics_eq hdates]
    cases includeRecords with
    | false =>
        obtain ⟨metrics, hmetrics⟩ := h .metrics (by simp [V2Endpoint.kinds])
        rw [hmetrics]
        exact ⟨_, rfl⟩
    | true =>
        obtain ⟨metrics, hmetrics⟩ := h .metrics (by simp [V2Endpoint.kinds])
        obtain ⟨assets, hassets⟩ := h .treasuryAssets (by simp [V2Endpoint.kinds])
        obtain ⟨supply, hsupply⟩ := h .ohmSupply (by simp [V2Endpoint.kinds])
        rw [hmetrics, hassets, hsupply]
        exact ⟨_, rfl⟩
  fail := by
    rintro turns answer ⟨kind, hkind, error, herror⟩
    rw [eval_readDailyMetrics_eq hdates]
    cases hmetrics : rangeRead answer manifest range .metrics with
    | error e => exact ⟨e, rfl, isFailure_of_rangeRead hmetrics⟩
    | ok metrics =>
        cases includeRecords with
        | false =>
            obtain rfl : kind = .metrics := by simpa [V2Endpoint.kinds] using hkind
            rw [hmetrics] at herror
            exact nomatch herror
        | true =>
            cases hassets : rangeRead answer manifest range .treasuryAssets with
            | error e => exact ⟨e, rfl, isFailure_of_rangeRead hassets⟩
            | ok assets =>
                cases hsupply : rangeRead answer manifest range .ohmSupply with
                | error e => exact ⟨e, rfl, isFailure_of_rangeRead hsupply⟩
                | ok supply =>
                    cases kind with
                    | metrics =>
                        rw [hmetrics] at herror
                        exact nomatch herror
                    | treasuryAssets =>
                        rw [hassets] at herror
                        exact nomatch herror
                    | ohmSupply =>
                        rw [hsupply] at herror
                        exact nomatch herror

theorem readsKinds_v2Data (hdates : dateKeysForRange range = .ok dates) (generatedAt : ℕ)
    (endpoint : V2Endpoint) :
    ReadsKinds manifest { range := range, kinds := endpoint.kinds } (fun turns =>
      (readV2Data turns manifest range generatedAt endpoint : PublisherProcess (MetricRow N) _)) := by
  cases endpoint with
  | metricsDaily includeRecords => exact readsKinds_dailyMetrics hdates includeRecords generatedAt
  | treasuryAssetsDaily => exact readsKinds_selected .treasuryAssets _ _
  | ohmSupplyDaily => exact readsKinds_selected .ohmSupply _ _

omit [Zero N] [DecidableEq N] [Add N] in
theorem ReadsKinds.map {α β : Type} {reads : ShardReads}
    {program : List Bool → PublisherProcess (MetricRow N) α} (h : ReadsKinds manifest reads program)
    (f : α → β) : ReadsKinds manifest reads (fun turns => program turns >>= fun x => .ret (f x)) where
  ok := by
    intro turns answer hreads
    obtain ⟨x, hx⟩ := h.ok turns answer hreads
    refine ⟨f x, ?_⟩
    rw [Process.eval_bind, hx]
    rfl
  fail := by
    intro turns answer hreads
    obtain ⟨error, herror, hfailure⟩ := h.fail turns answer hreads
    refine ⟨error, ?_, hfailure⟩
    rw [Process.eval_bind, herror]
    rfl

/-! ### Handlers -/

/-- A program answers by what it reads: always the same without reads, and else with status 200 or
400. -/
def AnswersReads (manifest : Manifest) (reads : Option ShardReads)
    (program : List Bool → PublisherProcess (MetricRow N) (Option (HttpResponse N))) : Prop :=
  match reads with
  | none => ∃ response, ∀ turns answer, (program turns).eval answer = .ok (some response)
  | some reads =>
      (∃ months, monthKeysForRange reads.range.start reads.range.stop = .ok months) ∧
      (∀ turns answer,
        (∀ kind ∈ reads.kinds, ∃ rows, rangeRead answer manifest reads.range kind = .ok rows) →
          ∃ response, (program turns).eval answer = .ok (some response) ∧ response.status = 200) ∧
      ∀ turns answer,
        (∃ kind ∈ reads.kinds, ∃ error,
          rangeRead answer manifest reads.range kind = .error error) →
          ∃ response, (program turns).eval answer = .ok (some response) ∧ response.status = 400

/-- The response without a manifest. -/
def manifestError (error : PublishError) : HttpResponse N :=
  match error with
  | .artifactNotFound _ => sendError 503 "manifest_not_published"
      "Metrics artifacts have not been published yet."
  | _ => sendError 503 "manifest_unavailable" "Metrics artifact manifest is unavailable."

/-- A program always has the same response, or it reads the manifest and then what `reads` says. -/
inductive Handles (config : MetricsApiConfig) (reads : Manifest → Option ShardReads)
    (program : List Bool → PublisherProcess (MetricRow N) (Option (HttpResponse N))) : Prop
  | fixed (response : HttpResponse N)
      (h : ∀ turns answer, (program turns).eval answer = .ok (some response))
      (hreads : ∀ manifest, reads manifest = none)
  | published
      (next : Manifest → List Bool → PublisherProcess (MetricRow N) (Option (HttpResponse N)))
      (h : ∀ turns answer, (program turns).eval answer =
        match (getManifest config : PublisherProcess (MetricRow N) Manifest).eval answer with
        | .error error => .ok (some (manifestError error))
        | .ok manifest => (next manifest turns).eval answer)
      (hnext : ∀ manifest, AnswersReads manifest (reads manifest) (next manifest))

variable {config : MetricsApiConfig}

omit [Zero N] [DecidableEq N] [Add N] in
/-- Failures are answered with status 400. -/
theorem answersReads_of_readsKinds {α : Type} {reads : ShardReads}
    {read : List Bool → PublisherProcess (MetricRow N) α}
    {program : List Bool → PublisherProcess (MetricRow N) (Option (HttpResponse N))}
    (hmonths : ∃ months, monthKeysForRange reads.range.start reads.range.stop = .ok months)
    (hread : ReadsKinds manifest reads read)
    (hok : ∀ turns answer x, (read turns).eval answer = .ok x →
      ∃ response, (program turns).eval answer = .ok (some response) ∧ response.status = 200)
    (hfail : ∀ turns answer error, (read turns).eval answer = .error error → IsFailure error →
      ∃ response, (program turns).eval answer = .ok (some response) ∧ response.status = 400) :
    AnswersReads manifest (some reads) program := by
  refine ⟨hmonths, ?_, ?_⟩
  · intro turns answer h
    obtain ⟨x, hx⟩ := hread.ok turns answer h
    exact hok turns answer x hx
  · intro turns answer h
    obtain ⟨error, herror, hfailure⟩ := hread.fail turns answer h
    exact hfail turns answer error herror hfailure

theorem answersReads_daily (url : Url) (endpoint : V2Endpoint) (manifest : Manifest) :
    AnswersReads manifest (dailyReads config url endpoint manifest) (fun turns =>
      (answerV2Request turns config (url.dailyRequest endpoint) manifest >>= fun response =>
        .ret (response.send (.daily endpoint)) :
          PublisherProcess (MetricRow N) (Option (HttpResponse N)))) := by
  unfold dailyReads answerV2Request
  cases hrange : resolveV2Range (url.dailyRequest endpoint) config manifest with
  | error message =>
      refine ⟨sendError 400 "invalid_date_range" message, fun turns answer => ?_⟩
      rw [Process.eval_bind, Process.eval_tryCatch, Process.eval_bind, Process.eval_ofExcept]
      rfl
  | ok range =>
      have hcovers : Covers range (dayOf range.start) (dayOf range.stop) := by
        unfold resolveV2Range at hrange
        split at hrange
        · exact nomatch hrange
        · exact covers_of_resolve hrange
      refine answersReads_of_readsKinds ⟨_, hcovers.monthKeysForRange⟩
        (readsKinds_v2Data hcovers.dateKeysForRange
        (config.generatedAt.getD manifest.generatedAt) (url.dailyRequest endpoint).endpoint) ?_ ?_
      · intro turns answer rows hrows
        simp only [Process.eval_bind, Process.eval_tryCatch, Process.eval_ofExcept, orError_ok,
          Process.except_ok_bind, hrows, Process.eval_ret]
        exact ⟨_, rfl, rfl⟩
      · intro turns answer error herror hfailure
        simp only [Process.eval_bind, Process.eval_tryCatch, Process.eval_ofExcept, orError_ok,
          Process.except_ok_bind, herror, Process.except_error_bind]
        cases error with
        | artifactNotFound key => exact absurd rfl (hfailure key)
        | metricsNotDataReady => exact ⟨_, rfl, rfl⟩
        | error message => exact ⟨_, rfl, rfl⟩

theorem handles_daily (url : Url) (endpoint : V2Endpoint) :
    Handles config (dailyReads config url endpoint) (fun turns =>
      (handleDailyRequest turns config url endpoint :
        PublisherProcess (MetricRow N) (Option (HttpResponse N)))) := by
  refine .published _ (fun turns answer => ?_) (answersReads_daily url endpoint)
  unfold handleDailyRequest handleV2Request withPublishedManifest
  rw [Process.eval_bind, Process.eval_bind, Process.eval_attempt, Process.except_ok_bind]
  cases (getManifest config : PublisherProcess (MetricRow N) Manifest).eval answer with
  | error error => cases error <;> rfl
  | ok manifest => exact (Process.eval_bind _ _).symm

omit [Zero N] [DecidableEq N] [Add N] in
/-- A handler that sends what it makes of the manifest. -/
theorem handles_manifest {Data : Type} (data : Manifest → Data) (metadata : Manifest → ApiMeta)
    (body : Data → ApiMeta → ResponseBody N) :
    Handles config (fun _ => none) (fun _ =>
      (withPublishedManifest config (fun manifest => .ret (.ok (data manifest) (metadata manifest)))
        >>= fun response => .ret (response.send body) :
          PublisherProcess (MetricRow N) (Option (HttpResponse N)))) := by
  refine .published (fun manifest _ =>
      .ret (some { status := 200, body := body (data manifest) (metadata manifest) }))
    (fun turns answer => ?_) (fun manifest => ⟨_, fun turns answer => rfl⟩)
  unfold withPublishedManifest
  rw [Process.eval_bind, Process.eval_bind, Process.eval_attempt, Process.except_ok_bind]
  cases (getManifest config : PublisherProcess (MetricRow N) Manifest).eval answer with
  | error error => cases error <;> rfl
  | ok manifest => rfl

/-! ### Legacy operations -/

theorem exists_resolve_of_legacy {pathname : String} {vars : LegacyVariables}
    {maxRangeDays : Option ℕ}
    (h : resolveLegacyRange pathname vars manifest maxRangeDays = .ok (some range)) :
    ∃ start stop, resolveDateRange start (some stop) manifest.latestDate maxRangeDays true =
      .ok range := by
  have hmap {resolved : Except String DateRange} (h : resolved.map some = .ok (some range)) :
      resolved = .ok range := by
    cases resolved with
    | error message => exact nomatch h
    | ok resolved => rw [Option.some.inj (Except.ok.inj h)]
  unfold resolveLegacyRange at h
  dsimp only at h
  split at h
  · exact ⟨_, _, hmap h⟩
  · split at h
    · exact ⟨_, _, hmap h⟩
    · obtain ⟨requestedRange, -, h⟩ := exists_of_bind_eq_ok h
      split at h
      · exact nomatch h
      · exact ⟨_, _, hmap h⟩

variable [Div N]

theorem readsKinds_legacyRange (hdates : dateKeysForRange range = .ok dates) (pathname : String)
    (vars : LegacyVariables) (generatedAt : ℕ) :
    ReadsKinds manifest { range := range, kinds := legacyKinds pathname vars } (fun turns =>
      (readLegacyRange turns pathname vars manifest range generatedAt :
        PublisherProcess (MetricRow N) (LegacyData N))) := by
  unfold readLegacyRange legacyKinds
  split
  · exact (readsKinds_selected .treasuryAssets _ _).map _
  · split
    · exact (readsKinds_selected .ohmSupply _ _).map _
    · exact (readsKinds_dailyMetrics hdates _ _).map _

theorem answersReads_legacy (pathname : String) (vars : LegacyVariables) (manifest : Manifest) :
    AnswersReads manifest (operationReads config pathname vars manifest) (fun turns =>
      (answerLegacyRequest turns config pathname vars manifest :
        PublisherProcess (MetricRow N) (Option (HttpResponse N)))) := by
  unfold operationReads answerLegacyRequest readLegacyOperation
  cases hrange : resolveLegacyRange pathname vars manifest config.maxRangeDays with
  | error message =>
      refine ⟨sendError 400 "invalid_legacy_request" message, fun turns answer => ?_⟩
      simp only [Process.eval_tryCatch, Process.eval_bind, Process.eval_ofExcept]
      rfl
  | ok resolved =>
      cases resolved with
      | none =>
          refine ⟨{ status := 200, body := .legacy .empty }, fun turns answer => ?_⟩
          simp only [Process.eval_tryCatch, Process.eval_bind, Process.eval_ofExcept]
          rfl
      | some range =>
          obtain ⟨start, stop, hresolve⟩ := exists_resolve_of_legacy hrange
          have hcovers := covers_of_resolve hresolve
          refine answersReads_of_readsKinds ⟨_, hcovers.monthKeysForRange⟩ (readsKinds_legacyRange
            hcovers.dateKeysForRange pathname vars
            (config.generatedAt.getD manifest.generatedAt)) ?_ ?_
          · intro turns answer data hdata
            simp only [Process.eval_tryCatch, Process.eval_bind, Process.eval_ofExcept, orError_ok,
              Process.except_ok_bind, hdata, Process.eval_ret]
            exact ⟨_, rfl, rfl⟩
          · intro turns answer error herror hfailure
            simp only [Process.eval_tryCatch, Process.eval_bind, Process.eval_ofExcept, orError_ok,
              Process.except_ok_bind, herror, Process.except_error_bind]
            cases error with
            | artifactNotFound key => exact absurd rfl (hfailure key)
            | metricsNotDataReady => exact ⟨_, rfl, rfl⟩
            | error message => exact ⟨_, rfl, rfl⟩

theorem handles_legacy (url : Url) :
    Handles config (legacyReads config url) (fun turns =>
      (handleLegacyRequest turns config url :
        PublisherProcess (MetricRow N) (Option (HttpResponse N)))) := by
  unfold legacyReads handleLegacyRequest
  cases parseLegacyVariables (url.get "wg_variables") with
  | error message => exact .fixed _ (fun _ _ => rfl) (fun _ => rfl)
  | ok vars =>
      refine .published (fun manifest turns =>
        answerLegacyRequest turns config url.pathname vars manifest) (fun turns answer => ?_)
        (answersReads_legacy url.pathname vars)
      dsimp only
      rw [Process.eval_bind, Process.eval_attempt, Process.except_ok_bind]
      cases (getManifest config : PublisherProcess (MetricRow N) Manifest).eval answer with
      | error error => cases error <;> rfl
      | ok manifest => rfl

/-! ### Requests -/

omit [Zero N] [DecidableEq N] [Add N] [Div N] in
theorem handles_fixed (response : HttpResponse N) :
    Handles config (fun _ => none) (fun _ => .ret (some response)) :=
  .fixed response (fun _ _ => rfl) (fun _ => rfl)

theorem handles_path (url : Url) :
    Handles config (pathReads config url) (fun turns =>
      (handlePath turns config url : PublisherProcess (MetricRow N) (Option (HttpResponse N)))) := by
  have hreads : ∀ path ∈ ["/ready", "/openapi.json", "/docs", "/v2/bounds"],
      path ≠ "/v2/metrics/daily" ∧ path ≠ "/v2/treasury-assets/daily" ∧
        path ≠ "/v2/ohm-supply/daily" ∧ path ∉ legacyOperationPaths := by decide
  have hblock : ∀ path ∈ legacyAtBlockPaths, path ∉ legacyOperationPaths := by decide
  have hnone {path : String} (hpath : path ∈ ["/ready", "/openapi.json", "/docs", "/v2/bounds"])
      (h : url.pathname = path) : pathReads config url = fun _ => none := by
    obtain ⟨hmetrics, hassets, hsupply, hlegacy⟩ := hreads path hpath
    funext manifest
    unfold pathReads
    simp only [h, hmetrics, hassets, hsupply, hlegacy, if_false, ite_self]
  unfold handlePath
  split
  · next h =>
      rw [hnone (by decide) h]
      exact handles_fixed _
  · split
    · next h =>
        rw [hnone (by decide) h]
        exact handles_fixed _
    · split
      · next h =>
          rw [hnone (by decide) h]
          exact handles_fixed _
      · split
        · next h =>
            rw [hnone (by decide) h]
            exact handles_manifest _ _ _
        · unfold pathReads
          split
          · exact handles_daily url _
          · split
            · exact handles_daily url _
            · split
              · exact handles_daily url _
              · split
                · split
                  · exact handles_fixed _
                  · exact handles_fixed _
                · split
                  · next h =>
                      have hother : url.pathname ∉ legacyAtBlockPaths :=
                        fun hmem => hblock url.pathname hmem h
                      simp only [hother, if_false]
                      exact handles_legacy url
                  · split
                    · exact handles_fixed _
                    · exact handles_fixed _

theorem handles_request (request : HttpRequest) :
    Handles config (requestReads config request) (fun turns =>
      (handleMetricsApiRequestUnchecked turns config request :
        PublisherProcess (MetricRow N) (Option (HttpResponse N)))) := by
  have hnone (h : ¬ ((request.method = "GET" ∨ request.method = "HEAD") ∧
      request.hasRequestBody = false)) : requestReads config request = fun _ => none := by
    funext manifest
    unfold requestReads
    rw [if_neg h]
  unfold handleMetricsApiRequestUnchecked
  split
  · next h =>
      rw [hnone (by simp [h])]
      exact handles_fixed _
  · split
    · next h =>
        rw [hnone (by simp [h.1, h.2])]
        exact handles_fixed _
    · split
      · next h =>
          rw [hnone (by simp [h])]
          exact handles_fixed _
      · next hmethod hbody =>
          have haccepted : (request.method = "GET" ∨ request.method = "HEAD") ∧
              request.hasRequestBody = false :=
            ⟨Classical.or_iff_not_imp_left.mpr (fun hget => not_not.mp (fun hhead =>
              hmethod ⟨hget, hhead⟩)), Bool.eq_false_iff.mpr hbody⟩
          unfold requestReads
          simp only [haccepted, and_self, if_true]
          cases request.url with
          | none => exact handles_fixed _
          | some url =>
              dsimp only
              cases hvalid : validateQueryParams url with
              | some error =>
                  simp only [reduceCtorEq, if_false]
                  exact handles_fixed _
              | none =>
                  simp only [if_true]
                  exact handles_path url

omit [Zero N] [DecidableEq N] [Add N] [Div N] in
/-- A program that always answers does not reach what catches its errors. -/
theorem AnswersReads.tryCatch {reads : Option ShardReads}
    {program : List Bool → PublisherProcess (MetricRow N) (Option (HttpResponse N))}
    (h : AnswersReads manifest reads program)
    (handler : PublishError → PublisherProcess (MetricRow N) (Option (HttpResponse N))) :
    AnswersReads manifest reads (fun turns => (program turns).tryCatch handler) := by
  have hkeep {turns : List Bool} {answer : StoreAnswer N} {response : HttpResponse N}
      (heval : (program turns).eval answer = .ok (some response)) :
      ((program turns).tryCatch handler).eval answer = .ok (some response) := by
    rw [Process.eval_tryCatch, heval]
  cases reads with
  | none =>
      obtain ⟨response, hresponse⟩ := h
      exact ⟨response, fun turns answer => hkeep (hresponse turns answer)⟩
  | some reads =>
      refine ⟨h.1, fun turns answer hreads => ?_, fun turns answer hreads => ?_⟩
      · obtain ⟨response, hresponse, hstatus⟩ := h.2.1 turns answer hreads
        exact ⟨response, hkeep hresponse, hstatus⟩
      · obtain ⟨response, hresponse, hstatus⟩ := h.2.2 turns answer hreads
        exact ⟨response, hkeep hresponse, hstatus⟩

omit [Zero N] [DecidableEq N] [Add N] [Div N] in
theorem Handles.tryCatch {reads : Manifest → Option ShardReads}
    {program : List Bool → PublisherProcess (MetricRow N) (Option (HttpResponse N))}
    (h : Handles config reads program)
    (handler : PublishError → PublisherProcess (MetricRow N) (Option (HttpResponse N))) :
    Handles config reads (fun turns => (program turns).tryCatch handler) := by
  cases h with
  | fixed response h hreads =>
      refine .fixed response (fun turns answer => ?_) hreads
      rw [Process.eval_tryCatch, h]
  | published next h hnext =>
      refine .published (fun manifest turns => (next manifest turns).tryCatch handler)
        (fun turns answer => ?_) (fun manifest => (hnext manifest).tryCatch handler)
      rw [Process.eval_tryCatch, h]
      cases (getManifest config : PublisherProcess (MetricRow N) Manifest).eval answer with
      | error error => rfl
      | ok manifest => exact (Process.eval_tryCatch _ _).symm

/-- How every request is answered. -/
theorem handles_metricsApiRequest (request : HttpRequest) :
    Handles config (requestReads config request) (fun turns =>
      (handleMetricsApiRequest turns config request :
        PublisherProcess (MetricRow N) (Option (HttpResponse N)))) :=
  (handles_request request).tryCatch _

end

/-! ### A reader that fails -/

/-- What becomes of the reading of a key. -/
inductive ReadOutcome
  | stored
  | notFound
  | fails (message : String)

/-- A reader of a store of which reads may fail. -/
def readerAnswers (json : Serialization (MetricRow N)) (objects : Objects (MetricRow N))
    (outcome : String → ReadOutcome) : StoreAnswer N
  | .getJson key =>
      match outcome key with
      | .stored => answers json objects (.getJson key)
      | .notFound => .error (.artifactNotFound key)
      | .fails message => .error (.error message)
  | op => answers json objects op

/-- At a key there are rows of a kind, or there is nothing. -/
def HoldsRows (objects : Objects (MetricRow N)) (kind : ArtifactKind) (key : String) : Prop :=
  ∀ value, objects.lookup key = some value → ∃ rows : List (MetricRow N kind), value = .shard kind rows

/-- The keys of the shards of a range. -/
def shardKeys (manifest : Manifest) (range : DateRange) (kind : ArtifactKind) : List String :=
  match monthKeysForRange range.start range.stop with
  | .ok months => months.map (artifactKeyForMonth manifest kind)
  | .error _ => []

section

variable {json : Serialization (MetricRow N)} {objects : Objects (MetricRow N)}
  {outcome : String → ReadOutcome} {manifest : Manifest} {range : DateRange} {kind : ArtifactKind}
  {config : MetricsApiConfig}

theorem readerAnswers_stored (op : StoreOp (MetricRow N)) :
    readerAnswers json objects (fun _ => .stored) op = answers json objects op := by
  cases op <;> rfl

theorem rowsOfStored_isOk_iff (key : String) :
    (∃ rows, rowsOfStored kind (answers json objects (.getJson key)) = .ok rows) ↔
      HoldsRows objects kind key := by
  unfold HoldsRows
  cases hlookup : objects.lookup key with
  | none =>
      simp only [answers, memoryStore, hlookup]
      exact ⟨fun _ value h => (by cases h), fun _ => ⟨[], rfl⟩⟩
  | some value =>
      simp only [answers, memoryStore, hlookup, Option.some.injEq, forall_eq']
      cases value with
      | shard stored rows =>
          by_cases h : stored = kind
          · subst h
            simp [rowsOfStored]
          · have hne (rows' : List (MetricRow N kind)) :
                Artifact.shard stored rows ≠ .shard kind rows' := fun heq => h (Artifact.shard.inj heq).1
            simp [rowsOfStored, h, hne]
      | manifest manifest => simp [rowsOfStored]
      | lock lock => simp [rowsOfStored]
      | schema key => simp [rowsOfStored]

theorem shardRead_isOk_iff (month : String) :
    (∃ rows, shardRead (readerAnswers json objects outcome) manifest kind month = .ok rows) ↔
      (∀ message, outcome (artifactKeyForMonth manifest kind month) ≠ .fails message) ∧
        (outcome (artifactKeyForMonth manifest kind month) = .stored →
          HoldsRows objects kind (artifactKeyForMonth manifest kind month)) := by
  unfold shardRead
  generalize artifactKeyForMonth manifest kind month = key
  cases houtcome : outcome key with
  | stored =>
      have hread : readerAnswers json objects outcome (.getJson key) =
          answers json objects (.getJson key) := by simp only [readerAnswers, houtcome]
      rw [hread, rowsOfStored_isOk_iff]
      simp
  | notFound =>
      have hread : readerAnswers json objects outcome (.getJson key) =
          .error (.artifactNotFound key) := by simp only [readerAnswers, houtcome]
      rw [hread]
      simp [rowsOfStored]
  | fails message =>
      have hread : readerAnswers json objects outcome (.getJson key) = .error (.error message) := by
        simp only [readerAnswers, houtcome]
      rw [hread]
      simp [rowsOfStored]

theorem mapM_isOk_iff {ε β γ : Type} {f : β → Except ε γ} {xs : List β} :
    (∃ ys, xs.mapM f = .ok ys) ↔ ∀ x ∈ xs, ∃ y, f x = .ok y := by
  induction xs with
  | nil => simp [pure, Except.pure]
  | cons x xs ih =>
      rw [List.mapM_cons, List.forall_mem_cons, ← ih]
      cases f x with
      | error e => simp
      | ok y =>
          cases xs.mapM f with
          | error e => simp
          | ok ys => simp [pure, Except.pure]

/-- A range can be read when no read fails and what is read are rows. -/
theorem rangeRead_isOk_iff {months : List String}
    (hmonths : monthKeysForRange range.start range.stop = .ok months) :
    (∃ rows, rangeRead (readerAnswers json objects outcome) manifest range kind = .ok rows) ↔
      ∀ key ∈ shardKeys manifest range kind, (∀ message, outcome key ≠ .fails message) ∧
        (outcome key = .stored → HoldsRows objects kind key) := by
  have hread : (∃ rows, rangeRead (readerAnswers json objects outcome) manifest range kind =
      .ok rows) ↔ ∃ parts, months.mapM (shardRead (readerAnswers json objects outcome) manifest
        kind) = .ok parts := by
    unfold rangeRead
    rw [hmonths, orError_ok, Process.except_ok_bind]
    cases months.mapM (shardRead (readerAnswers json objects outcome) manifest kind) with
    | error e => simp
    | ok parts => simp
  rw [hread, mapM_isOk_iff]
  unfold shardKeys
  rw [hmonths]
  simp only [List.forall_mem_map, shardRead_isOk_iff]

/-- All kinds can be read from the store itself when its shards hold rows. -/
theorem readsAll_stored_iff {kinds : List ArtifactKind} {months : List String}
    (hmonths : monthKeysForRange range.start range.stop = .ok months) :
    (∀ kind ∈ kinds, ∃ rows, rangeRead (answers json objects) manifest range kind = .ok rows) ↔
      ∀ kind ∈ kinds, ∀ key ∈ shardKeys manifest range kind, HoldsRows objects kind key := by
  have hstored : answers json objects = readerAnswers json objects (fun _ => .stored) :=
    funext (fun op => (readerAnswers_stored op).symm)
  rw [hstored]
  refine forall₂_congr (fun kind _ => (rangeRead_isOk_iff hmonths).trans ?_)
  simp

/-- The manifest that a failing reader finds is stored. -/
theorem FindsManifest.stored
    (h : FindsManifest (readerAnswers json objects outcome) config manifest) :
    FindsManifest (answers json objects) config manifest := by
  unfold FindsManifest getManifest at h ⊢
  cases hconfig : config.manifest with
  | some configured =>
      rw [hconfig] at h
      exact h
  | none =>
      rw [hconfig] at h
      dsimp only at h ⊢
      have hget (answer : StoreAnswer N) : (getJson manifestKey :
          PublisherProcess (MetricRow N) _).eval answer = answer (.getJson manifestKey) :=
        Process.eval_await _
      have hread : readerAnswers json objects outcome (.getJson manifestKey) =
          answers json objects (.getJson manifestKey) := by
        cases houtcome : outcome manifestKey with
        | stored => simp only [readerAnswers, houtcome]
        | notFound =>
            have hread : readerAnswers json objects outcome (.getJson manifestKey) =
              .error (.artifactNotFound manifestKey) := by simp only [readerAnswers, houtcome]
            rw [Process.eval_bind, hget, hread] at h
            exact nomatch h
        | fails message =>
            have hread : readerAnswers json objects outcome (.getJson manifestKey) =
              .error (.error message) := by simp only [readerAnswers, houtcome]
            rw [Process.eval_bind, hget, hread] at h
            exact nomatch h
      rw [Process.eval_bind, hget] at h ⊢
      rw [← hread]
      cases hresult : readerAnswers json objects outcome (.getJson manifestKey) with
      | error error =>
          rw [hresult] at h
          exact nomatch h
      | ok value =>
          rw [hresult] at h
          cases value with
          | manifest manifest => exact h
          | lock lock => exact nomatch h
          | schema key => exact nomatch h
          | shard kind rows => exact nomatch h

end

/-! ### Status codes -/

def HttpResponse.IsClientError (response : HttpResponse N) : Prop :=
  400 ≤ response.status ∧ response.status < 500

/-- The responses by which the server reports an error of its own. -/
def ownErrors : List (HttpResponse N) :=
  [sendError 503 "manifest_not_published" "Metrics artifacts have not been published yet.",
    sendError 503 "manifest_unavailable" "Metrics artifact manifest is unavailable.",
    sendError 500 "internal_server_error" "Internal server error."]

section

variable [Zero N] [DecidableEq N] [Add N] [Div N]

/-- A failing reader only makes a request fail with one of the server's own errors, and not as if
the request were wrong. -/
structure BlamesRightSide (json : Serialization (MetricRow N)) (objects : Objects (MetricRow N))
    (outcome : String → ReadOutcome) (config : MetricsApiConfig) (request : HttpRequest) : Prop where
  client : ∀ turns turns' response,
    (handleMetricsApiRequest turns config request).eval (readerAnswers json objects outcome) =
        .ok (some response) → response.IsClientError →
      ∃ response', (handleMetricsApiRequest turns' config request).eval (answers json objects) =
        .ok (some response') ∧ response'.IsClientError
  server : ∀ turns turns' response',
    (handleMetricsApiRequest turns' config request).eval (answers json objects) =
        .ok (some response') → response'.status < 400 →
      ∃ response, (handleMetricsApiRequest turns config request).eval
          (readerAnswers json objects outcome) = .ok (some response) ∧
        (response.status < 400 ∨ response ∈ ownErrors)

variable {json : Serialization (MetricRow N)} {objects : Objects (MetricRow N)}
  {outcome : String → ReadOutcome} {config : MetricsApiConfig} {request : HttpRequest}

/-- A request that is answered in one way by both readers. -/
theorem blamesRightSide_of_same {response : HttpResponse N}
    (hreader : ∀ turns, (handleMetricsApiRequest turns config request).eval
      (readerAnswers json objects outcome) = .ok (some response))
    (hstored : ∀ turns, (handleMetricsApiRequest turns config request).eval
      (answers json objects) = .ok (some response)) :
    BlamesRightSide json objects outcome config request where
  client := by
    intro turns turns' sent hsent hclient
    obtain rfl := Option.some.inj (Except.ok.inj ((hreader turns).symm.trans hsent))
    exact ⟨_, hstored turns', hclient⟩
  server := by
    intro turns turns' sent hsent hstatus
    obtain rfl := Option.some.inj (Except.ok.inj ((hstored turns').symm.trans hsent))
    exact ⟨_, hreader turns, Or.inl hstatus⟩

/-- A request that a failing reader lets through, or that it fails as the server's own error. -/
theorem blamesRightSide_of_own
    (hreader : ∀ turns, ∃ response, (handleMetricsApiRequest turns config request).eval
      (readerAnswers json objects outcome) = .ok (some response) ∧
        ¬ response.IsClientError ∧ (response.status < 400 ∨ response ∈ ownErrors)) :
    BlamesRightSide json objects outcome config request where
  client := by
    intro turns turns' sent hsent hclient
    obtain ⟨response, hresponse, hnot, -⟩ := hreader turns
    obtain rfl := Option.some.inj (Except.ok.inj (hresponse.symm.trans hsent))
    exact absurd hclient hnot
  server := by
    intro turns turns' sent hsent hstatus
    obtain ⟨response, hresponse, -, hown⟩ := hreader turns
    exact ⟨response, hresponse, hown⟩

/-- A request that is refused with both readers. -/
theorem blamesRightSide_of_refused
    (hstored : ∀ turns, ∃ response, (handleMetricsApiRequest turns config request).eval
      (answers json objects) = .ok (some response) ∧ response.status = 400) :
    BlamesRightSide json objects outcome config request where
  client := by
    intro turns turns' sent hsent hclient
    obtain ⟨response, hresponse, hstatus⟩ := hstored turns'
    exact ⟨response, hresponse, hstatus.ge, by omega⟩
  server := by
    intro turns turns' sent hsent hstatus
    obtain ⟨response, hresponse, hrefused⟩ := hstored turns'
    obtain rfl := Option.some.inj (Except.ok.inj (hresponse.symm.trans hsent))
    omega

/-- Where a request is accepted and the shards that it reads hold rows, none of these reads fails. -/
def NoShardFails (json : Serialization (MetricRow N)) (objects : Objects (MetricRow N))
    (outcome : String → ReadOutcome) (config : MetricsApiConfig) (request : HttpRequest) : Prop :=
  ∀ manifest, FindsManifest (readerAnswers json objects outcome) config manifest →
    ∀ reads, requestReads config request manifest = some reads →
      (∀ kind ∈ reads.kinds, ∀ key ∈ shardKeys manifest reads.range kind,
        HoldsRows objects kind key) →
      ∀ kind ∈ reads.kinds, ∀ key ∈ shardKeys manifest reads.range kind, ∀ message,
        outcome key ≠ .fails message

/-- A request is blamed for the store exactly when it is accepted and the reading of one of its
shards fails. -/
theorem blamesRightSide_iff (json : Serialization (MetricRow N)) (objects : Objects (MetricRow N))
    (outcome : String → ReadOutcome) (config : MetricsApiConfig) (request : HttpRequest) :
    BlamesRightSide json objects outcome config request ↔
      NoShardFails json objects outcome config request := by
  rcases @handles_metricsApiRequest N _ _ _ config _ request with
    ⟨response, hfixed, hreads⟩ | ⟨next, hpublished, hnext⟩
  · refine iff_of_true (blamesRightSide_of_same (fun turns => hfixed turns _)
      (fun turns => hfixed turns _)) ?_
    intro manifest _ reads h
    rw [hreads] at h
    exact nomatch h
  cases hmanifest : (getManifest config : PublisherProcess (MetricRow N) Manifest).eval
      (readerAnswers json objects outcome) with
  | error error =>
      refine iff_of_true (blamesRightSide_of_own (fun turns => ⟨manifestError error, ?_, ?_⟩)) ?_
      · rw [hpublished, hmanifest]
      · cases error <;> simp [manifestError, ownErrors, HttpResponse.IsClientError, sendError]
      · intro manifest hfound
        exact nomatch hmanifest.symm.trans hfound
  | ok manifest =>
      have hreader (turns : List Bool) : (handleMetricsApiRequest turns config request).eval
          (readerAnswers json objects outcome) =
            (next manifest turns).eval (readerAnswers json objects outcome) := by
        rw [hpublished, hmanifest]
      have hstored (turns : List Bool) : (handleMetricsApiRequest turns config request).eval
          (answers json objects) = (next manifest turns).eval (answers json objects) := by
        have hfound : (getManifest config : PublisherProcess (MetricRow N) Manifest).eval
          (answers json objects) = .ok manifest := FindsManifest.stored hmanifest
        rw [hpublished, hfound]
      have hanswers := hnext manifest
      cases hreads : requestReads config request manifest with
      | none =>
          rw [hreads] at hanswers
          obtain ⟨response, hresponse⟩ := hanswers
          refine iff_of_true (blamesRightSide_of_same
            (fun turns => (hreader turns).trans (hresponse turns _))
            (fun turns => (hstored turns).trans (hresponse turns _))) ?_
          intro manifest' hfound reads h
          obtain rfl := Except.ok.inj (hmanifest.symm.trans hfound)
          rw [hreads] at h
          exact nomatch h
      | some reads =>
          rw [hreads] at hanswers
          obtain ⟨⟨months, hmonths⟩, hok, hfail⟩ := hanswers
          have hkinds (answer : StoreAnswer N)
              (h : ¬ ∀ kind ∈ reads.kinds, ∃ rows,
                rangeRead answer manifest reads.range kind = .ok rows) :
              ∃ kind ∈ reads.kinds, ∃ error,
                rangeRead answer manifest reads.range kind = .error error := by
            push Not at h
            obtain ⟨kind, hkind, hnone⟩ := h
            cases hread : rangeRead answer manifest reads.range kind with
            | ok rows => exact absurd hread (hnone rows)
            | error error => exact ⟨kind, hkind, error, hread⟩
          have hread : (∀ kind ∈ reads.kinds, ∃ rows, rangeRead
              (readerAnswers json objects outcome) manifest reads.range kind = .ok rows) ↔
              ∀ kind ∈ reads.kinds, ∀ key ∈ shardKeys manifest reads.range kind,
                (∀ message, outcome key ≠ .fails message) ∧
                  (outcome key = .stored → HoldsRows objects kind key) :=
            forall₂_congr (fun kind _ => rangeRead_isOk_iff hmonths)
          have hstoredRead : (∀ kind ∈ reads.kinds, ∃ rows,
              rangeRead (answers json objects) manifest reads.range kind = .ok rows) ↔
              ∀ kind ∈ reads.kinds, ∀ key ∈ shardKeys manifest reads.range kind,
                HoldsRows objects kind key := readsAll_stored_iff hmonths
          by_cases hall : ∀ kind ∈ reads.kinds, ∃ rows, rangeRead
            (readerAnswers json objects outcome) manifest reads.range kind = .ok rows
          · refine iff_of_true (blamesRightSide_of_own (fun turns => ?_)) ?_
            · obtain ⟨response, hresponse, hstatus⟩ := hok turns _ hall
              refine ⟨response, (hreader turns).trans hresponse, ?_, Or.inl (by omega)⟩
              exact fun hclient => absurd hclient.1 (by omega)
            · intro manifest' hfound reads' h _ kind hkind key hkey
              obtain rfl := Except.ok.inj (hmanifest.symm.trans hfound)
              obtain rfl := Option.some.inj (hreads.symm.trans h)
              exact (hread.mp hall kind hkind key hkey).1
          · by_cases hrows : ∀ kind ∈ reads.kinds, ∃ rows,
              rangeRead (answers json objects) manifest reads.range kind = .ok rows
            · refine iff_of_false (fun hblames => ?_) (fun hnone => hall (hread.mpr ?_))
              · -- the request is refused, although the store has all that it asks for
                obtain ⟨response, hresponse, hstatus⟩ := hfail [] _ (hkinds _ hall)
                obtain ⟨sent, hsent, hsentStatus⟩ := hok [] _ hrows
                obtain ⟨response', hresponse', hclient⟩ := hblames.client [] [] response
                  ((hreader []).trans hresponse) ⟨by omega, by omega⟩
                obtain rfl := Option.some.inj (Except.ok.inj
                  (((hstored []).trans hsent).symm.trans hresponse'))
                exact absurd hclient.1 (by omega)
              · intro kind hkind key hkey
                have hheld := hstoredRead.mp hrows
                exact ⟨hnone manifest hmanifest reads hreads hheld kind hkind key hkey,
                  fun _ => hheld kind hkind key hkey⟩
            · refine iff_of_true (blamesRightSide_of_refused (fun turns => ?_)) ?_
              · obtain ⟨response, hresponse, hstatus⟩ := hfail turns _ (hkinds _ hrows)
                exact ⟨response, (hstored turns).trans hresponse, hstatus⟩
              · intro manifest' hfound reads' h hheld
                obtain rfl := Except.ok.inj (hmanifest.symm.trans hfound)
                obtain rfl := Option.some.inj (hreads.symm.trans h)
                exact absurd (hstoredRead.mpr hheld) hrows

end

/-- A store with a manifest for one day, of which the shards can not be read. -/
def refusingOutcome (key : String) : ReadOutcome :=
  if key = manifestKey then .stored else .fails "connect ECONNREFUSED 10.0.0.4:9000"

def leapDayManifest : Manifest where
  schemaVersion := schemaVersion
  generatedAt := 0
  indexerDeploymentId := none
  indexingProgress := none
  earliestDate := "2024-02-29"
  latestDate := "2024-02-29"
  artifacts := ∅

def leapDayStore : Objects (MetricRow ℤ) :=
  (∅ : Objects (MetricRow ℤ)).insert manifestKey (.manifest leapDayManifest)

def leapDayRequest : HttpRequest :=
  getRequest "/v2/metrics/daily"
    [("start", { text := "2024-02-29", json := .error "", decodedJson := .error "" })]

/-- The status and the message that are sent. -/
def sentError (result : Except PublishError (Option (HttpResponse ℤ))) : Option (ℕ × String) :=
  match result with
  | .ok (some { status := status, body := .error _ message }) => some (status, message)
  | .ok (some { status := status, body := _ }) => some (status, "")
  | _ => none

theorem exists_of_sentError {result : Except PublishError (Option (HttpResponse ℤ))} {status : ℕ}
    {message : String} (h : sentError result = some (status, message)) :
    ∃ response, result = .ok (some response) ∧ response.status = status := by
  unfold sentError at h
  split at h
  · exact ⟨_, rfl, (Prod.mk.inj (Option.some.inj h)).1⟩
  · exact ⟨_, rfl, (Prod.mk.inj (Option.some.inj h)).1⟩
  · exact nomatch h

/-- The text of the store's error is sent with status 400 to a request that the store could answer. -/
theorem refused_shard_blamed_on_request :
    sentError ((handleMetricsApiRequest [] { maxRangeDays := some 1 } leapDayRequest).eval
        (readerAnswers { sha256 := fun _ => "", byteLength := fun _ => 0 } leapDayStore
          refusingOutcome)) = some (400, "connect ECONNREFUSED 10.0.0.4:9000") ∧
      sentError ((handleMetricsApiRequest [] { maxRangeDays := some 1 } leapDayRequest).eval
        (answers { sha256 := fun _ => "", byteLength := fun _ => 0 } leapDayStore)) =
          some (200, "") ∧
      ¬ BlamesRightSide { sha256 := fun _ => "", byteLength := fun _ => 0 } leapDayStore
        refusingOutcome { maxRangeDays := some 1 } leapDayRequest := by
  have hcheck : sentError ((handleMetricsApiRequest [] { maxRangeDays := some 1 }
        leapDayRequest).eval (readerAnswers { sha256 := fun _ => "", byteLength := fun _ => 0 }
          leapDayStore refusingOutcome)) = some (400, "connect ECONNREFUSED 10.0.0.4:9000") ∧
      sentError ((handleMetricsApiRequest [] { maxRangeDays := some 1 } leapDayRequest).eval
        (answers { sha256 := fun _ => "", byteLength := fun _ => 0 } leapDayStore)) =
          some (200, "") := by
    decide +kernel
  refine ⟨hcheck.1, hcheck.2, fun hblames => ?_⟩
  obtain ⟨response, hresponse, hstatus⟩ := exists_of_sentError hcheck.1
  obtain ⟨sent, hsent, hsentStatus⟩ := exists_of_sentError hcheck.2
  obtain ⟨response', hresponse', hclient⟩ := hblames.client [] [] response hresponse
    ⟨by omega, by omega⟩
  obtain rfl := Option.some.inj (Except.ok.inj (hsent.symm.trans hresponse'))
  exact absurd hclient.1 (by omega)

end OlympusMetrics.Api
