import OlympusMetrics.Publisher.NoDangling

/-!
A store whose operations may fail, and programs that leave an object alone
whatever the store answers.
-/

namespace OlympusMetrics.Publisher

variable {Row : ArtifactKind → Type}

/-- What an operation may do: it succeeds, or it fails with or without its effect. -/
def Executes (json : Serialization Row) (op : StoreOp Row) (objects : Objects Row)
    (result : Except PublishError op.Answer) (objects' : Objects Row) : Prop :=
  memoryStore json objects op = (result, objects') ∨
    ∃ error, result = .error error ∧
      (objects' = objects ∨ objects' = (memoryStore json objects op).2)

/-- The key whose object an operation may change. -/
def StoreOp.target : StoreOp Row → Option String
  | .putJson key _ | .putJsonIfAbsent key _ | .putJsonIfMatch key _ _ | .deleteJson key
  | .deleteJsonIfMatch key _ => some key
  | .getJson _ | .getJsonWithMetadata _ | .listKeys _ => none

section

variable {json : Serialization Row} {op : StoreOp Row} {objects objects' : Objects Row}
  {result : Except PublishError op.Answer} {key : String}

theorem memoryStore_lookup (h : op.target ≠ some key) :
    (memoryStore json objects op).2.lookup key = objects.lookup key := by
  cases op with
  | getJson target => simp only [memoryStore]; split <;> rfl
  | getJsonWithMetadata target => simp only [memoryStore]; split <;> rfl
  | putJson target value =>
      exact AList.lookup_insert_ne (fun heq => h (congrArg some heq.symm))
  | putJsonIfAbsent target value =>
      simp only [memoryStore]
      split
      · rfl
      · exact AList.lookup_insert_ne (fun heq => h (congrArg some heq.symm))
  | putJsonIfMatch target value etag =>
      simp only [memoryStore]
      split
      · rfl
      · split
        · exact AList.lookup_insert_ne (fun heq => h (congrArg some heq.symm))
        · rfl
  | listKeys keyPrefix => rfl
  | deleteJson target => exact AList.lookup_erase_ne (fun heq => h (congrArg some heq.symm))
  | deleteJsonIfMatch target etag =>
      simp only [memoryStore]
      split
      · rfl
      · split
        · exact AList.lookup_erase_ne (fun heq => h (congrArg some heq.symm))
        · rfl

/-- An operation leaves the objects as they were or has its effect. -/
theorem Executes.effect (h : Executes json op objects result objects') :
    objects' = objects ∨ objects' = (memoryStore json objects op).2 := by
  rcases h with heffect | ⟨error, -, heffect⟩
  · exact Or.inr (congrArg Prod.snd heffect).symm
  · exact heffect

theorem Executes.lookup (h : Executes json op objects result objects')
    (htarget : op.target ≠ some key) : objects'.lookup key = objects.lookup key := by
  rcases h.effect with rfl | rfl
  · rfl
  · exact memoryStore_lookup htarget

/-- An operation that succeeds answers what the store defines. -/
theorem Executes.ok {answer : op.Answer} (h : Executes json op objects (.ok answer) objects') :
    memoryStore json objects op = (.ok answer, objects') := by
  rcases h with heffect | ⟨error, herror, -⟩
  · exact heffect
  · exact nomatch herror

end

section

variable {json : Serialization Row} {key : String} {value : Artifact Row}
  {objects objects' : Objects Row}

theorem executes_putJsonIfAbsent {result : Except PublishError Bool}
    (h : Executes json (.putJsonIfAbsent key value) objects result objects') :
    (objects' = objects ∧ result ≠ .ok true) ∨
      (objects.lookup key = none ∧ objects' = objects.insert key value) := by
  cases hlookup : objects.lookup key with
  | none =>
      rcases h with heffect | ⟨error, rfl, rfl | rfl⟩
      · simp only [memoryStore, hlookup] at heffect
        exact Or.inr ⟨rfl, (congrArg Prod.snd heffect).symm⟩
      · exact Or.inl ⟨rfl, fun heq => by cases heq⟩
      · simp only [memoryStore, hlookup]
        exact Or.inr ⟨trivial, trivial⟩
  | some existing =>
      rcases h with heffect | ⟨error, rfl, rfl | rfl⟩
      · simp only [memoryStore, hlookup] at heffect
        obtain ⟨rfl, rfl⟩ := Prod.mk.inj heffect
        exact Or.inl ⟨rfl, fun heq => by cases heq⟩
      · exact Or.inl ⟨rfl, fun heq => by cases heq⟩
      · simp only [memoryStore, hlookup]
        exact Or.inl ⟨trivial, fun heq => by cases heq⟩

/-- A conditional write or delete either leaves the objects alone or finds the etag it names. -/
theorem memoryStore_putJsonIfMatch (json : Serialization Row) (objects : Objects Row)
    (key : String) (value : Artifact Row) (etag : String) :
    memoryStore json objects (.putJsonIfMatch key value etag) = (.ok false, objects) ∨
      ∃ existing, objects.lookup key = some existing ∧ json.etag existing = etag ∧
        memoryStore json objects (.putJsonIfMatch key value etag) =
          (.ok true, objects.insert key value) := by
  simp only [memoryStore]
  cases objects.lookup key with
  | none => exact Or.inl rfl
  | some existing =>
      dsimp only
      split
      · next hetag => exact Or.inr ⟨existing, rfl, hetag, rfl⟩
      · exact Or.inl rfl

theorem executes_putJsonIfMatch {etag : String} {result : Except PublishError Bool}
    (h : Executes json (.putJsonIfMatch key value etag) objects result objects') :
    (objects' = objects ∧ result ≠ .ok true) ∨
      ∃ existing, objects.lookup key = some existing ∧ json.etag existing = etag ∧
        objects' = objects.insert key value := by
  rcases memoryStore_putJsonIfMatch json objects key value etag with hsame | ⟨existing, hlookup, hetag, hput⟩
  · refine Or.inl ?_
    rcases h with heffect | ⟨error, rfl, rfl | rfl⟩
    · obtain ⟨rfl, rfl⟩ := Prod.mk.inj (hsame.symm.trans heffect)
      exact ⟨rfl, fun heq => nomatch heq⟩
    · exact ⟨rfl, fun heq => nomatch heq⟩
    · exact ⟨congrArg Prod.snd hsame, fun heq => nomatch heq⟩
  · rcases h with heffect | ⟨error, rfl, rfl | rfl⟩
    · exact Or.inr ⟨existing, hlookup, hetag, (congrArg Prod.snd (hput.symm.trans heffect)).symm⟩
    · exact Or.inl ⟨rfl, fun heq => nomatch heq⟩
    · exact Or.inr ⟨existing, hlookup, hetag, congrArg Prod.snd hput⟩

theorem executes_deleteJsonIfMatch {etag : String} {result : Except PublishError Bool}
    (h : Executes json (.deleteJsonIfMatch key etag) objects result objects') :
    objects' = objects ∨
      ∃ existing, objects.lookup key = some existing ∧ json.etag existing = etag ∧
        objects' = objects.erase key := by
  rcases h.effect with rfl | rfl
  · exact Or.inl rfl
  · simp only [memoryStore]
    cases objects.lookup key with
    | none => exact Or.inl rfl
    | some existing =>
        dsimp only
        split
        · next hetag => exact Or.inr ⟨existing, rfl, hetag, rfl⟩
        · exact Or.inl rfl

theorem executes_getJsonWithMetadata {etag : Option String}
    (h : Executes json (.getJsonWithMetadata key) objects (.ok (value, etag)) objects') :
    objects.lookup key = some value ∧ etag = some (json.etag value) := by
  have heffect := h.ok
  simp only [memoryStore] at heffect
  split at heffect
  · cases congrArg Prod.fst heffect
  · next stored hstored =>
      obtain ⟨rfl, rfl⟩ := Prod.mk.inj (Except.ok.inj (congrArg Prod.fst heffect))
      exact ⟨hstored, rfl⟩

end

/-- Only stored keys below the prefix are listed. -/
theorem mem_of_listKeys {json : Serialization Row} {keyPrefix key : String}
    {objects objects' : Objects Row} {keys : List String}
    (h : Executes json (.listKeys keyPrefix) objects (.ok keys) objects') (hkey : key ∈ keys) :
    key ∈ objects ∧ startsWith key keyPrefix = true := by
  have hanswer : ((objects.keys.filter (fun key => startsWith key keyPrefix)).insertionSort
      (· ≤ ·)) = keys := Except.ok.inj (congrArg Prod.fst h.ok)
  rw [← hanswer, List.mem_insertionSort] at hkey
  obtain ⟨hstored, hbelow⟩ := List.mem_filter.mp hkey
  exact ⟨AList.mem_keys.mpr hstored, hbelow⟩

/-! ### Programs that leave an object alone -/

/-- No operation of a program is aimed at `key`, whatever the store answers. -/
def Leaves (json : Serialization Row) (key : String) {α : Type} : PublisherProcess Row α → Prop
  | .ret _ | .throw _ => True
  | .call op next => op.target ≠ some key ∧ ∀ objects result objects',
      Executes json op objects result objects' → Leaves json key (next result)

section

variable {json : Serialization Row} {key : String} {α β γ : Type}

theorem leaves_bind {p : PublisherProcess Row α} {f : α → PublisherProcess Row β}
    (hp : Leaves json key p) (hf : ∀ x, Leaves json key (f x)) : Leaves json key (p >>= f) := by
  induction p with
  | ret x => exact hf x
  | throw error => trivial
  | call op next ih =>
      exact ⟨hp.1, fun objects result objects' h => ih result (hp.2 objects result objects' h)⟩

theorem leaves_ofExcept (r : Except PublishError α) :
    Leaves json key (.ofExcept r : PublisherProcess Row α) := by
  cases r with
  | ok x => trivial
  | error e => trivial

theorem leaves_await {op : StoreOp Row} (h : op.target ≠ some key) :
    Leaves json key (.await op) :=
  ⟨h, fun _ result _ _ => leaves_ofExcept result⟩

theorem leaves_tryCatch {p : PublisherProcess Row α} {handler : PublishError → PublisherProcess Row α}
    (hp : Leaves json key p) (hhandler : ∀ e, Leaves json key (handler e)) :
    Leaves json key (p.tryCatch handler) := by
  induction p with
  | ret x => trivial
  | throw error => exact hhandler error
  | call op next ih =>
      exact ⟨hp.1, fun objects result objects' h => ih result (hp.2 objects result objects' h)⟩

theorem leaves_orNotFound {p : PublisherProcess Row α} (hp : Leaves json key p) :
    Leaves json key (orNotFound p) := by
  refine leaves_tryCatch (leaves_bind hp (fun _ => trivial)) (fun e => ?_)
  cases e <;> trivial

theorem leaves_forEach {f : β → γ → PublisherProcess Row β} {xs : List γ}
    (hf : ∀ acc, ∀ x ∈ xs, Leaves json key (f acc x)) (acc : β) :
    Leaves json key (Process.forEach f xs acc) := by
  induction xs generalizing acc with
  | nil => trivial
  | cons x xs ih =>
      refine leaves_bind (hf acc x List.mem_cons_self) (fun acc' => ?_)
      exact ih (fun acc y hy => hf acc y (List.mem_cons_of_mem x hy)) acc'

theorem leaves_getExistingManifest : Leaves json key (getExistingManifest : PublisherProcess Row (Option Manifest)) := by
  refine leaves_orNotFound (leaves_bind (leaves_await (by simp [StoreOp.target])) (fun value => ?_))
  cases value <;> trivial

theorem leaves_cleanup {deploymentId : DeploymentId}
    (hkey : startsWith key deploymentsPrefix = false) :
    Leaves json key
      (cleanupHistoricalDeploymentArtifacts deploymentId : PublisherProcess Row (List String)) := by
  refine ⟨by simp [StoreOp.target], fun objects result objects' h => ?_⟩
  cases result with
  | error e => trivial
  | ok answer =>
      let keys : List String := answer
      change Leaves json key (Process.forEach (fun _ stale => deleteJson stale)
        (keys.filter (fun key => !startsWith key (deploymentPrefix deploymentId))) () >>=
          fun _ => .ret _)
      have hdelete (stale : String) (hlisted : stale ∈ keys) : Leaves json key (deleteJson stale : PublisherProcess Row Unit) := by
        have hbelow := (mem_of_listKeys h hlisted).2
        refine leaves_await ?_
        simp only [StoreOp.target, ne_eq, Option.some.injEq]
        rintro rfl
        rw [hbelow] at hkey
        exact nomatch hkey
      exact leaves_bind (leaves_forEach (fun _ stale hstale =>
        hdelete stale (List.mem_filter.mp hstale).1) ()) (fun _ => trivial)

theorem leaves_writePublication [∀ kind, Dated (Row kind)] {runId : String}
    {input : PublishInput Row} {deploymentId : DeploymentId} {existingManifest : Option Manifest}
    {progress : IndexingProgress} {bounds : MetricsBounds} {publicStartDate : String}
    {range : DateRange} {rows : (kind : ArtifactKind) → List (Row kind)} :
    Leaves json publisherLockKey
      (writePublication json runId input deploymentId existingManifest progress bounds
        publicStartDate range rows) := by
  unfold writePublication
  refine leaves_bind (leaves_ofExcept _) (fun months => ?_)
  refine leaves_bind (leaves_forEach (fun written pending hpending => ?_) _) (fun written => ?_)
  · refine leaves_bind (leaves_await ?_) (fun _ => trivial)
    simp only [StoreOp.target, ne_eq, Option.some.injEq]
    exact (mem_pendingArtifacts hpending).1
  generalize nextManifest input deploymentId existingManifest progress bounds publicStartDate range
    written.artifacts = next
  refine leaves_bind (leaves_ofExcept next) (fun manifest => ?_)
  refine leaves_bind (leaves_await ?_) (fun _ => ?_)
  · simp only [StoreOp.target, ne_eq, Option.some.injEq]
    exact manifestKey_ne_lockKey
  · exact leaves_bind (leaves_cleanup (by decide)) (fun _ => trivial)

/-- What a run does under the lock leaves the lock alone. -/
theorem leaves_publishUnderLock [∀ kind, Dated (Row kind)] {runId : String}
    {input : PublishInput Row} {deploymentId : DeploymentId} {existingManifest : Option Manifest} :
    Leaves json publisherLockKey
      (publishUnderLock json runId input deploymentId existingManifest) := by
  unfold publishUnderLock
  refine leaves_bind (leaves_ofExcept _) (fun progress => ?_)
  dsimp only
  split
  · trivial
  · trivial
  · refine leaves_bind (leaves_ofExcept _) (fun fresh => ?_)
    split
    · trivial
    · refine leaves_bind (leaves_ofExcept _) (fun range => ?_)
      refine leaves_bind (leaves_ofExcept _) (fun rows => ?_)
      refine leaves_bind (leaves_ofExcept _) (fun missing => ?_)
      split
      · trivial
      · exact leaves_writePublication

end

end OlympusMetrics.Publisher
