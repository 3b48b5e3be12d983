import OlympusMetrics.Api.Reading
import OlympusMetrics.Api.RequestReads
import OlympusMetrics.Publisher.Entries
import OlympusMetrics.Publisher.ManifestWrites

/-!
Requests beside a run of the publisher.

A request reads the manifest first and then the shards that it leads to. Where
the manifest is that of the run, its shards stay as they are. Where it is the
one before, the run may overwrite or delete shards before they are read.
-/

namespace OlympusMetrics.Api

open Process Publisher

variable {N : Type}

/-- What a read answers: what is stored, or a failure of the request. -/
def ReadsAs (json : Serialization (MetricRow N)) (op : StoreOp (MetricRow N))
    (objects : Objects (MetricRow N)) (result : Except PublishError op.Answer) : Prop :=
  result = answers json objects op ∨ ∃ message, result = .error (.error message)

/-- A run and a request that answers with `response`, each with what is left of it. `seen` is the
manifest that the request has read, and its reads are allowed where they happen. The run may stop
anywhere. -/
inductive Interleaved (json : Serialization (MetricRow N))
    (allowed : Option Manifest → StoreOp (MetricRow N) → Objects (MetricRow N) → Prop)
    {Response : Type} (response : Response) :
    Option Manifest → PublisherProcess (MetricRow N) PublishResult →
      PublisherProcess (MetricRow N) Response → Objects (MetricRow N) → Prop
  | publish {seen op next q objects result objects'} : Performs json op objects result objects' →
      Interleaved json allowed response seen (next result) q objects' →
      Interleaved json allowed response seen (.call op next) q objects
  | read {seen p op next objects result} : ReadsAs json op objects result →
      allowed seen op objects →
      Interleaved json allowed response ((manifestAnswer op result).or seen) p (next result)
        objects →
      Interleaved json allowed response seen p (.call op next) objects
  | answer {seen p objects} : Interleaved json allowed response seen p (.ret response) objects

/-- A request that has read the manifest from before the run finds the shards from before the run. -/
def Undisturbed (before : Objects (MetricRow N)) (seen : Option Manifest)
    (op : StoreOp (MetricRow N)) (objects : Objects (MetricRow N)) : Prop :=
  ∀ key, op = .getJson key → key ≠ manifestKey → seen = storedManifest before →
    objects.lookup key = before.lookup key

/-! ### The keys of a manifest -/

section

variable {manifest : Manifest} {kind : ArtifactKind} {month : String}

/-- A reader finds a listed shard, or the shard of no deployment. -/
theorem artifactKeyForMonth_cases :
    (artifactKeyForMonth manifest kind month ∈ manifest.artifacts ∧
      startsWith (artifactKeyForMonth manifest kind month) deploymentsPrefix = true) ∨
        artifactKeyForMonth manifest kind month = stableKey kind month := by
  generalize hkey : artifactKeyForMonth manifest kind month = key
  have hfallback {fallback : String} (h : (if stableKey kind month ∈ manifest.artifacts then
      stableKey kind month else (manifest.artifacts.keys.reverse.find? (fun key =>
        startsWith key deploymentsPrefix &&
          endsWith key ("/" ++ deploymentPath kind month))).getD (stableKey kind month)) = fallback) :
      (fallback ∈ manifest.artifacts ∧ startsWith fallback deploymentsPrefix = true) ∨
        fallback = stableKey kind month := by
    split at h
    · exact Or.inr h.symm
    · cases hfind : manifest.artifacts.keys.reverse.find? (fun key =>
          startsWith key deploymentsPrefix &&
            endsWith key ("/" ++ deploymentPath kind month)) with
      | none =>
          rw [hfind] at h
          exact Or.inr h.symm
      | some found =>
          rw [hfind] at h
          obtain rfl : found = fallback := h
          have hmem := List.mem_of_find?_eq_some hfind
          have hbefore := List.find?_some hfind
          exact Or.inl ⟨AList.mem_keys.mpr (List.mem_reverse.mp hmem), (Bool.and_eq_true _ _ ▸ hbefore).1⟩
  unfold artifactKeyForMonth at hkey
  dsimp only at hkey
  cases hid : manifest.indexerDeploymentId with
  | none =>
      rw [hid] at hkey
      exact hfallback hkey
  | some deploymentId =>
      rw [hid] at hkey
      dsimp only at hkey
      split at hkey
      · next hmem =>
          subst hkey
          refine Or.inl ⟨hmem, ?_⟩
          rw [String.append_assoc, String.append_assoc]
          exact startsWith_append _ _
      · exact hfallback hkey

/-- The path of a kind is not above the other objects of the store. -/
theorem stableKey_startsWith (kind : ArtifactKind) (month : String) :
    startsWith (stableKey kind month) ("v2/" ++ kind.path ++ "/") = true := by
  have hkey : stableKey kind month = "v2/" ++ kind.path ++ "/" ++ ("daily/" ++ month ++ ".json") := by
    refine String.toList_injective ?_
    simp [stableKey, deploymentPath]
  rw [hkey]
  exact startsWith_append _ _

theorem ne_of_startsWith {key other start : String} (h : startsWith key start = true)
    (hother : startsWith other start = false) : key ≠ other := by
  rintro rfl
  rw [h] at hother
  exact nomatch hother

theorem stableKey_not_below (kind : ArtifactKind) (month : String) :
    startsWith (stableKey kind month) deploymentsPrefix = false := by
  refine Bool.eq_false_iff.mpr (fun hbelow => ?_)
  have hstart := stableKey_startsWith kind month
  simp only [startsWith, List.isPrefixOf_iff_prefix] at hbelow hstart
  have hprefixes := List.prefix_or_prefix_of_prefix hbelow hstart
  cases kind <;> exact absurd hprefixes (by decide)

/-- A listed shard that the publication keeps, and a shard of no deployment, stay in the store. -/
theorem ownKey_artifactKeyForMonth {deploymentId : DeploymentId}
    (h : ∀ key ∈ manifest.artifacts, ¬ IsStale deploymentId key) :
    OwnKey deploymentId (artifactKeyForMonth manifest kind month) := by
  rcases @artifactKeyForMonth_cases manifest kind month with ⟨hmem, hbelow⟩ | hstable
  · exact ⟨h _ hmem, ne_of_startsWith hbelow (by decide), ne_of_startsWith hbelow (by decide)⟩
  · rw [hstable]
    refine ⟨fun hstale => ?_, ne_of_startsWith (stableKey_startsWith kind month) ?_,
      ne_of_startsWith (stableKey_startsWith kind month) ?_⟩
    · exact nomatch (stableKey_not_below kind month).symm.trans hstale.1
    · cases kind <;> decide
    · cases kind <;> decide

theorem artifactKeyForMonth_ne_manifestKey : artifactKeyForMonth manifest kind month ≠ manifestKey := by
  rcases artifactKeyForMonth_cases with ⟨-, hbelow⟩ | hstable
  · exact ne_of_startsWith hbelow (by decide)
  · rw [hstable]
    refine ne_of_startsWith (stableKey_startsWith kind month) ?_
    cases kind <;> decide

end

/-! ### Requests beside a run -/

section

variable {json : Serialization (MetricRow N)} {objects before after : Objects (MetricRow N)}
  {manifest : Manifest} {input : PublishInput (MetricRow N)} {Response : Type} {response : Response}
  {allowed : Option Manifest → StoreOp (MetricRow N) → Objects (MetricRow N) → Prop}
  {seen : Option Manifest} {p : PublisherProcess (MetricRow N) PublishResult}
  {q : PublisherProcess (MetricRow N) Response}

/-- A request that ends badly whatever it reads ends badly beside a run. -/
theorem Interleaved.bad {bad : Except PublishError Response → Prop}
    (h : Interleaved json allowed response seen p q objects) (hq : Ends bad q) : bad (.ok response) := by
  induction h with
  | publish _ _ ih => exact ih hq
  | @read _ _ _ _ _ result _ _ _ ih => exact ih (hq result)
  | answer => exact hq

/-- A request of which every read has a fixed answer sends what it sends against these answers,
unless a read fails. -/
theorem Interleaved.eval {used : StoreOp (MetricRow N) → Prop}
    {bad : Except PublishError Response → Prop}
    {answer : (op : StoreOp (MetricRow N)) → Except PublishError op.Answer}
    (good : PublisherProcess (MetricRow N) PublishResult → Objects (MetricRow N) → Prop)
    (hstep : ∀ op next objects result objects', good (.call op next) objects →
      Performs json op objects result objects' → good (next result) objects')
    (hseen : ∀ op result, used op → manifestAnswer op result = none)
    (hread : ∀ op p objects, used op → good p objects → allowed seen op objects →
      answers json objects op = answer op)
    (h : Interleaved json allowed response seen p q objects) (hq : Careful used IsFailure bad q)
    (hgood : good p objects) : q.eval answer = .ok response ∨ bad (.ok response) := by
  induction h with
  | publish hexec _ ih => exact ih hread hq (hstep _ _ _ _ _ hgood hexec)
  | @read _ _ op next _ result hanswer hallowed hrest ih =>
      obtain ⟨hused, hfail, hnext⟩ := hq
      rw [hseen op result hused, Option.none_or] at ih hrest
      rcases hanswer with rfl | ⟨message, rfl⟩
      · have heval := ih hread (hnext _) hgood
        rw [hread op _ _ hused hgood hallowed] at heval
        exact heval
      · exact Or.inr (hrest.bad (hfail _ (isFailure_error message)))
  | answer => exact Or.inl rfl

theorem manifestAnswer_of_readsShard (op : StoreOp (MetricRow N))
    (result : Except PublishError op.Answer) (h : ReadsShard manifest op) :
    manifestAnswer op result = none := by
  obtain ⟨kind, month, rfl⟩ := h
  exact if_neg artifactKeyForMonth_ne_manifestKey

theorem answers_getJson_congr {key : String} (h : objects.lookup key = before.lookup key) :
    answers json objects (.getJson key) = answers json before (.getJson key) := by
  simp only [answers, memoryStore, h]
  split <;> rfl

/-- The publication of a run leaves its own shards where they are. -/
theorem lookup_eq_of_hasStored (h : HasStored json input before objects manifest) {other : Manifest}
    (hafter : HasStored json input before after other) (kind : ArtifactKind) (month : String) :
    other = manifest ∧ objects.lookup (artifactKeyForMonth manifest kind month) =
      after.lookup (artifactKeyForMonth manifest kind month) := by
  obtain ⟨plan, hnext, hclean⟩ := h
  obtain ⟨plan', hnext', hclean'⟩ := hafter
  obtain rfl := plan.eq plan'
  obtain rfl := Except.ok.inj (hnext.symm.trans hnext')
  have hown : OwnKey plan.deploymentId (artifactKeyForMonth manifest kind month) := by
    refine ownKey_artifactKeyForMonth (fun key hkey => ?_)
    obtain ⟨entry, hentry⟩ := Option.isSome_iff_exists.mp (AList.lookup_isSome.mpr hkey)
    exact Plan.notStale_of_keepsEntry ((plan.publishes_of_next hnext).entry hentry).1
  exact ⟨rfl, (hclean.lookup_eq hown).trans (hclean'.lookup_eq hown).symm⟩

theorem storedManifest_of_hasStored (h : HasStored json input before objects manifest) :
    storedManifest objects = some manifest := by
  obtain ⟨plan, -, hclean⟩ := h
  exact hclean.storedManifest_eq.trans (storedManifest_eq plan.lookup_stored_manifest)

/-- The response is the one that the publication before the run answers, or the one that the
publication of the run answers. -/
def AnswersWhole (json : Serialization (MetricRow N)) (input : PublishInput (MetricRow N))
    (before : Objects (MetricRow N)) (request : PublisherProcess (MetricRow N) Response)
    (response : Response) : Prop :=
  request.eval (answers json before) = .ok response ∨
    ((∃ after manifest, HasStored json input before after manifest) ∧
      ∀ after manifest, HasStored json input before after manifest →
        request.eval (answers json after) = .ok response)

theorem storedManifest_of_answers (h : answers json objects (.getJson manifestKey) =
    .ok (.manifest manifest)) : storedManifest objects = some manifest := by
  refine storedManifest_eq ?_
  cases hlookup : objects.lookup manifestKey with
  | none =>
      simp only [answers, memoryStore, hlookup] at h
      cases h
  | some value =>
      simp only [answers, memoryStore, hlookup] at h
      rw [Except.ok.inj h]

/-- While the manifest of the run is stored, its shards stay as they are. -/
theorem answers_eq_of_hasStored {op : StoreOp (MetricRow N)} (hused : ReadsShard manifest op)
    (h : HasStored json input before objects manifest) {other : Manifest}
    (hafter : HasStored json input before after other) :
    answers json objects op = answers json after op := by
  obtain ⟨kind, month, rfl⟩ := hused
  exact answers_getJson_congr (lookup_eq_of_hasStored h hafter kind month).2

variable {bad : Except PublishError Response → Prop}
  {next : Except PublishError (Artifact (MetricRow N)) → PublisherProcess (MetricRow N) Response}

theorem eval_getManifest (h : storedManifest objects = some manifest) :
    (Process.call (StoreOp.getJson manifestKey) next : PublisherProcess (MetricRow N) Response).eval
      (answers json objects) = (next (.ok (.manifest manifest))).eval (answers json objects) := by
  have hanswer : answers json objects (.getJson manifestKey) = .ok (.manifest manifest) := by
    simp only [answers, memoryStore, lookup_of_storedManifest h]
  exact congrArg (fun result => (next result).eval (answers json objects)) hanswer

/-- A request that has read a manifest beside a run answers whole, or badly. -/
theorem answersWhole_of_manifest (hrun : UnderWay json input before p objects)
    (hmanifest : storedManifest objects = some manifest)
    (hcareful : Careful (ReadsShard manifest) IsFailure bad (next (.ok (.manifest manifest))))
    (h : Interleaved json (Undisturbed before) response (some manifest) p
      (next (.ok (.manifest manifest))) objects) :
    bad (.ok response) ∨
      AnswersWhole json input before (.call (.getJson manifestKey) next) response := by
  by_cases hold : storedManifest before = some manifest
  · -- the run may overwrite what the request reads, but not before it is read
    have hread (op : StoreOp (MetricRow N)) (p : PublisherProcess (MetricRow N) PublishResult)
        (objects : Objects (MetricRow N)) (hused : ReadsShard manifest op) (_ : True)
        (hallowed : Undisturbed before (some manifest) op objects) :
        answers json objects op = answers json before op := by
      obtain ⟨kind, month, rfl⟩ := hused
      exact answers_getJson_congr (hallowed _ rfl artifactKeyForMonth_ne_manifestKey hold.symm)
    rcases h.eval (fun _ _ => True) (fun _ _ _ _ _ _ _ => trivial) manifestAnswer_of_readsShard
      hread hcareful trivial with heval | hbad
    · exact Or.inr (Or.inl ((eval_getManifest hold).trans heval))
    · exact Or.inl hbad
  · have hstored := hrun.hasStored hmanifest (Ne.symm hold)
    have hleaves : Leaves json manifestKey p := by
      refine hrun.manifest.resolve_left (fun hsame => hold ?_)
      rw [← hsame.2, hmanifest]
    have heval (after : Objects (MetricRow N)) (other : Manifest)
        (hafter : HasStored json input before after other) :
        (Process.call (StoreOp.getJson manifestKey) next :
          PublisherProcess (MetricRow N) Response).eval (answers json after) = .ok response ∨
            bad (.ok response) := by
      have hread (op : StoreOp (MetricRow N)) (p : PublisherProcess (MetricRow N) PublishResult)
          (objects : Objects (MetricRow N)) (hused : ReadsShard manifest op)
          (hgood : UnderWay json input before p objects ∧ Leaves json manifestKey p ∧
            storedManifest objects = some manifest)
          (_ : Undisturbed before (some manifest) op objects) :
          answers json objects op = answers json after op :=
        answers_eq_of_hasStored hused (hgood.1.hasStored hgood.2.2 (Ne.symm hold)) hafter
      obtain ⟨rfl, -⟩ := lookup_eq_of_hasStored hstored hafter .metrics ""
      rw [eval_getManifest (storedManifest_of_hasStored hafter)]
      refine h.eval (fun p objects => UnderWay json input before p objects ∧
        Leaves json manifestKey p ∧ storedManifest objects = some other) ?_
        manifestAnswer_of_readsShard hread hcareful ⟨hrun, hleaves, hmanifest⟩
      rintro op next objects result objects' ⟨hrun, hleaves, hmanifest⟩ hexec
      obtain ⟨hnext, hkept⟩ := hrun.step hexec
      exact ⟨hnext, (hkept hleaves).1, (hkept hleaves).2.trans hmanifest⟩
    by_cases hbad : bad (.ok response)
    · exact Or.inl hbad
    · exact Or.inr (Or.inr ⟨⟨objects, manifest, hstored⟩,
        fun after other hafter => (heval after other hafter).resolve_right hbad⟩)

/-- A request beside a run answers badly, or as it answers without the run or after it, when the
shards that it reads with the manifest from before the run are those from before the run. -/
theorem request_beside_run (hq : ReadsManifestFirst bad q) (hrun : UnderWay json input before p objects)
    (h : Interleaved json (Undisturbed before) response none p q objects) :
    bad (.ok response) ∨ AnswersWhole json input before q response := by
  cases hq with
  | fixed fixed =>
      have hfixed : response = fixed := by
        have hends : Ends (fun result => result = .ok fixed)
            (Process.ret fixed : PublisherProcess (MetricRow N) Response) := rfl
        exact Except.ok.inj (h.bad hends)
      exact Or.inr (Or.inl (congrArg Except.ok hfixed.symm))
  | @reads next careful other =>
      generalize hseen : (none : Option Manifest) = seen at h
      generalize hread : (Process.call (StoreOp.getJson manifestKey) next :
        PublisherProcess (MetricRow N) Response) = q at h
      induction h with
      | publish hexec _ ih => exact ih (hrun.step hexec).1 hseen hread
      | @read _ _ op next' objects result hanswer _ hrest =>
          obtain ⟨rfl, hnext⟩ := Process.call.inj hread
          obtain rfl := eq_of_heq hnext
          subst hseen
          have hother (hresult : ∀ manifest, result ≠ .ok (.manifest manifest)) : bad (.ok response) :=
            hrest.bad (other result hresult)
          rcases result with error | value
          · exact Or.inl (hother (fun _ h => by cases h))
          · cases value with
            | manifest manifest =>
                rcases hanswer with hanswer | ⟨message, hanswer⟩
                · exact answersWhole_of_manifest hrun (storedManifest_of_answers hanswer.symm)
                    (careful manifest) hrest
                · cases hanswer
            | lock lock => exact Or.inl (hother (fun _ h => by cases h))
            | schema key => exact Or.inl (hother (fun _ h => by cases h))
            | shard kind rows => exact Or.inl (hother (fun _ h => by cases h))
      | answer => cases hread

end

/-- Any request sends an error, or what it sends without the run or after it, when the shards that it
reads with the manifest from before the run are those from before the run. -/
theorem isolated_of_undisturbed [Zero N] [DecidableEq N] [Div N] [Add N]
    (json : Serialization (MetricRow N)) (objects : Objects (MetricRow N)) (runId : String)
    (input : PublishInput (MetricRow N)) (turns : List Bool) (config : MetricsApiConfig)
    (request : HttpRequest) (response : Option (HttpResponse N)) (hconfig : config.manifest = none)
    (h : Interleaved json (Undisturbed objects) response none
      (publishMetricsArtifacts json runId input) (handleMetricsApiRequest turns config request)
      objects) :
    IsErrorResponse (.ok response) ∨
      AnswersWhole json input objects (handleMetricsApiRequest turns config request) response :=
  request_beside_run (readsManifestFirst_handleMetricsApiRequest turns hconfig request)
    underWay_start h

/-! ### A request beside a handover -/

section

variable {json : Serialization (MetricRow N)} {objects before : Objects (MetricRow N)}
  {Response : Type} {response : Response}
  {allowed : Option Manifest → StoreOp (MetricRow N) → Objects (MetricRow N) → Prop}
  {p : PublisherProcess (MetricRow N) PublishResult}
  {q : PublisherProcess (MetricRow N) Response}

/-- Plays a run and a request in turns, `true` for the run, while every read passes a check against
the keys that the run has changed so far. -/
def playBeside (json : Serialization (MetricRow N))
    (check : List String → StoreOp (MetricRow N) → Bool) :
    List Bool → List String → PublisherProcess (MetricRow N) PublishResult →
      PublisherProcess (MetricRow N) Response → Objects (MetricRow N) → Option Response
  | _, _, _, .ret response, _ => some response
  | true :: turns, changed, .call op next, q, objects =>
      playBeside json check turns (op.target.toList ++ changed)
        (next (memoryStore json objects op).1) q (memoryStore json objects op).2
  | false :: turns, changed, p, .call op next, objects =>
      if check changed op then
        playBeside json check turns changed p (next (answers json objects op)) objects
      else none
  | _, _, _, _, _ => none

theorem lookup_memoryStore_of_notMem {changed : List String} (op : StoreOp (MetricRow N))
    (hkept : ∀ key, key ∉ changed → objects.lookup key = before.lookup key) (key : String)
    (hkey : key ∉ op.target.toList ++ changed) :
    (memoryStore json objects op).2.lookup key = before.lookup key := by
  rw [List.mem_append, not_or] at hkey
  have htarget : op.target ≠ some key := fun heq => hkey.1 (Option.mem_toList.mpr heq)
  exact (memoryStore_lookup htarget).trans (hkept key hkey.2)

theorem interleaved_of_playBeside {check : List String → StoreOp (MetricRow N) → Bool}
    (hcheck : ∀ changed op seen objects, check changed op = true →
      (∀ key, key ∉ changed → objects.lookup key = before.lookup key) → allowed seen op objects)
    {turns : List Bool} {changed : List String} {seen : Option Manifest}
    (hkept : ∀ key, key ∉ changed → objects.lookup key = before.lookup key)
    (h : playBeside json check turns changed p q objects = some response) :
    Interleaved json allowed response seen p q objects := by
  induction turns generalizing changed p q objects seen with
  | nil =>
      cases q with
      | ret x =>
          obtain rfl : x = response := by simpa [playBeside] using h
          exact .answer
      | throw e => simp [playBeside] at h
      | call op next => simp [playBeside] at h
  | cons turn turns ih =>
      cases q with
      | ret x =>
          obtain rfl : x = response := by simpa [playBeside] using h
          exact .answer
      | throw e =>
          cases turn with
          | false => simp [playBeside] at h
          | true =>
              cases p with
              | ret x => simp [playBeside] at h
              | throw e => simp [playBeside] at h
              | call op next =>
                  rw [playBeside] at h
                  · exact .publish (Or.inl rfl) (ih (lookup_memoryStore_of_notMem op hkept) h)
                  · intro _ heq
                    cases heq
      | call op next =>
          cases turn with
          | false =>
              simp only [playBeside] at h
              split at h
              · next hread =>
                  exact .read (Or.inl rfl) (hcheck changed op seen objects hread hkept) (ih hkept h)
              · cases h
          | true =>
              cases p with
              | ret x => simp [playBeside] at h
              | throw e => simp [playBeside] at h
              | call op' next' =>
                  rw [playBeside] at h
                  · exact .publish (Or.inl rfl) (ih (lookup_memoryStore_of_notMem op' hkept) h)
                  · intro _ heq
                    cases heq

/-- A read of an object that the run has not changed. -/
def readsUnchanged (changed : List String) : StoreOp (MetricRow N) → Bool
  | .getJson key => !changed.contains key
  | _ => true

theorem undisturbed_of_readsUnchanged {changed : List String} {op : StoreOp (MetricRow N)}
    (seen : Option Manifest) (h : readsUnchanged changed op = true)
    (hkept : ∀ key, key ∉ changed → objects.lookup key = before.lookup key) :
    Undisturbed before seen op objects := by
  rintro key rfl - -
  exact hkept key (by simpa [readsUnchanged] using h)

end

def plainRows : Serialization (MetricRow ℕ) where
  sha256 := fun value =>
    match value with
    | .lock lock => lock.runId
    | _ => ""
  byteLength := fun _ => 0

/-- A metric of two chains. -/
def januaryMetric : DailyMetric ℕ :=
  { buildEmptyDailyMetric "2024-01-31" false 0 with
    ohmTotalSupply := 5
    blocks := fun chain => if chain = .ethereum then 70 else if chain = .arbitrum then 90 else 0 }

def januaryAsset (block : ℕ) (chain : ChainId) (value : ℕ) : TreasuryAsset ℕ where
  id := ""
  balance := value
  block := block
  blockchain := chainName chain
  category := "Stable"
  date := "2024-01-31"
  isBluechip := false
  isLiquid := true
  multiplier := 1
  rate := 1
  source := ""
  sourceAddress := ""
  timestamp := 0
  token := "DAI"
  tokenAddress := ""
  value := value
  valueExcludingOhm := value

/-- The last day of January has a metric and assets, whatever the deployment. -/
def handoverInput (deploymentId : String) : PublishInput (MetricRow ℕ) where
  publicStartDate := some "2024-01-31"
  deploymentId := deploymentId
  startDate := some "2024-01-31"
  source :=
    { fetchLatestIndexingProgress := .ok []
      fetchBounds := fun _ => .ok { earliestDate := "2024-01-31", latestDate := "2024-01-31" }
      fetchRows := fun kind _ =>
        match kind with
        | .metrics => .ok [januaryMetric]
        | .treasuryAssets => .ok [januaryAsset 70 .ethereum 1, januaryAsset 69 .ethereum 2,
            januaryAsset 90 .arbitrum 3]
        | .ohmSupply => .ok [] }
  now := february 1

/-- The first run publishes with the deployment `d1`. -/
def firstStore : Objects (MetricRow ℕ) :=
  (playRun plainRows "first" (handoverInput "d1") (List.replicate 13 .done) ∅).2

/-- The second run hands over to the deployment `d2`. -/
def handoverRun : Option (Except PublishError PublishResult) × Objects (MetricRow ℕ) :=
  playRun plainRows "second" (handoverInput "d2") (List.replicate 16 .done) firstStore

def openConfig : MetricsApiConfig where
  maxRangeDays := none

/-- `/v2/metrics/daily?start=2024-01-31`. -/
def januaryRequest : HttpRequest where
  method := "GET"
  hasRequestBody := false
  url := some ⟨"/v2/metrics/daily", [("start", ⟨"2024-01-31", .error "", .error ""⟩)]⟩

/-- `/operations/paginated/tokenRecords`, with the first published date as its start. -/
def recordsRequest : HttpRequest where
  method := "GET"
  hasRequestBody := false
  url := some ⟨"/operations/paginated/tokenRecords", []⟩

/-- What a response sends: the supplies of its metrics, or the values of its records. -/
def sentNumbers (response : Option (HttpResponse ℕ)) : Option (List ℕ) :=
  response.bind (fun response =>
    match response.body with
    | .daily (.metricsDaily _) rows _ =>
        some (List.map (fun metric : DailyMetric ℕ => metric.ohmTotalSupply) rows)
    | .legacy (.tokenRecords records) => some (records.map (·.value))
    | _ => none)

theorem not_isErrorResponse_of_sentNumbers {response : Option (HttpResponse ℕ)} {numbers : List ℕ}
    (h : sentNumbers response = some numbers) : ¬ IsErrorResponse (.ok response) := by
  rintro ⟨status, code, message, herror⟩
  rw [Except.ok.inj herror] at h
  cases h

/-- What a request sends against the objects of a store. -/
def sentAgainst (objects : Objects (MetricRow ℕ)) (request : HttpRequest) : Option (List ℕ) :=
  match (handleMetricsApiRequest [] openConfig request).eval (answers plainRows objects) with
  | .ok response => sentNumbers response
  | .error _ => none

/-- The records request reads the manifest of the first run and, after the run has taken the lock, the
metrics of the old deployment. Then the run writes, replaces the manifest and deletes these metrics,
and the request reads the assets, which are still there. -/
def besideWrites : Option (Option (HttpResponse ℕ)) :=
  playBeside plainRows readsUnchanged
    ([false] ++ List.replicate 5 true ++ [false] ++ List.replicate 8 true ++ [false]) []
    (publishMetricsArtifacts plainRows "second" (handoverInput "d2"))
    (handleMetricsApiRequest [] openConfig recordsRequest) firstStore

theorem request_beside_writes_whole : ∃ response, besideWrites = some response ∧
    sentNumbers response = some [1, 3] ∧
      (IsErrorResponse (.ok response) ∨ AnswersWhole plainRows (handoverInput "d2") firstStore
        (handleMetricsApiRequest [] openConfig recordsRequest) response) := by
  have hsent : besideWrites.bind sentNumbers = some [1, 3] := by decide +kernel
  obtain ⟨response, hplayed, hnumbers⟩ := Option.bind_eq_some_iff.mp hsent
  refine ⟨response, hplayed, hnumbers, ?_⟩
  apply isolated_of_undisturbed plainRows firstStore "second" (handoverInput "d2") [] openConfig
    recordsRequest response rfl
  refine interleaved_of_playBeside ?_ (fun _ _ => rfl) hplayed
  intro changed op seen objects hread hkept
  exact undisturbed_of_readsUnchanged seen hread hkept

/-- The request for the metrics reads the manifest of the first run, and its shard after the second
run. -/
def besideHandover : Option (Option (HttpResponse ℕ)) :=
  playBeside plainRows (fun _ _ => true) ([false] ++ List.replicate 16 true ++ [false]) []
    (publishMetricsArtifacts plainRows "second" (handoverInput "d2"))
    (handleMetricsApiRequest [] openConfig januaryRequest) firstStore

/-- The date that both publications have is sent as an empty metric. -/
theorem request_beside_handover_empty : ∃ objects input response,
    History plainRows (fun input _ => input.manifest = none) objects ∧
      Interleaved plainRows (fun _ _ _ => True) response none
        (publishMetricsArtifacts plainRows "second" input)
        (handleMetricsApiRequest [] openConfig januaryRequest) objects ∧
      ¬ (IsErrorResponse (.ok response) ∨ AnswersWhole plainRows input objects
        (handleMetricsApiRequest [] openConfig januaryRequest) response) := by
  have hfirst : History plainRows (fun input _ => input.manifest = none) firstStore :=
    .run "first" (handoverInput "d1") _ .empty rfl (runs_playRun "first" _)
  have hrun : Runs (Performs plainRows) (publishMetricsArtifacts plainRows "second"
    (handoverInput "d2")) firstStore handoverRun.1 handoverRun.2 := runs_playRun "second" _
  have hcheck : completes handoverRun.1 = true ∧ sentAgainst firstStore januaryRequest = some [5] ∧
      sentAgainst handoverRun.2 januaryRequest = some [5] ∧
        besideHandover.bind sentNumbers = some [0] := by
    decide +kernel
  obtain ⟨hpublished, hbefore, hafter, hsent⟩ := hcheck
  obtain ⟨response, hplayed, hnumbers⟩ := Option.bind_eq_some_iff.mp hsent
  have hdiffers {objects : Objects (MetricRow ℕ)} (hfive : sentAgainst objects januaryRequest =
      some [5]) : (handleMetricsApiRequest [] openConfig januaryRequest).eval
        (answers plainRows objects) ≠ .ok response := by
    intro heval
    simp only [sentAgainst, heval, hnumbers] at hfive
    exact absurd hfive (by decide)
  refine ⟨firstStore, handoverInput "d2", response, hfirst, ?_, ?_⟩
  · exact @interleaved_of_playBeside ℕ plainRows _ firstStore _ _ _ _ _ _ (fun _ _ _ _ _ _ => trivial)
      _ _ none (fun _ _ => rfl) hplayed
  · rintro (herror | hwhole | ⟨-, hwhole⟩)
    · exact not_isErrorResponse_of_sentNumbers hnumbers herror
    · exact hdiffers hbefore hwhole
    · obtain ⟨result, hout, hskipped⟩ := exists_of_completes hpublished
      rw [hout] at hrun
      rcases (runs_publish hrun).2 result rfl with ⟨hskip, -⟩ | ⟨-, plan, manifest, hnext, hclean, -⟩
      · rw [hskipped] at hskip
        cases hskip
      · exact hdiffers hafter (hwhole handoverRun.2 manifest ⟨plan, hnext, hclean⟩)

end OlympusMetrics.Api
