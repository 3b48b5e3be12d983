import OlympusMetrics.Library.Marks
import OlympusMetrics.Publisher.FaultyStore

/-!
The publisher lock excludes concurrent runs.

Runs are interleaved at their store operations, any of which may fail, and any
run may crash. A run is marked from where `acquirePublisherLock` has succeeded
to where `releasePublisherLock` is called.
-/

namespace OlympusMetrics.Publisher

open Discipline

variable {Row : ArtifactKind → Type} {I : Type}

/-! ### The runs -/

/-- What a run has just done: it has acquired the lock, or it goes to release it. -/
inductive LockMark
  | acquired | released
  deriving DecidableEq

abbrev MarkedPublisherProcess (Row : ArtifactKind → Type) :=
  MarkedProcess (StoreOp Row) StoreOp.Answer LockMark PublishError

/-- `publishAgainst` with its marks. -/
def markedPublishAgainst [∀ kind, Dated (Row kind)] (json : Serialization Row) (runId : String)
    (input : PublishInput Row) (deploymentId : DeploymentId) (lockTtlMs : ℕ)
    (existingManifest : Option Manifest) : MarkedPublisherProcess Row PublishResult := do
  let operation := if existingManifest.isNone then LockOperation.initialBackfill
    else .incrementalRefresh
  let lock ← (acquirePublisherLock runId operation input.now lockTtlMs).unmarked
  if !lock.acquired then .ret (skippedResult deploymentId [] .lockHeld lock.runId)
  else do
    Process.mark .acquired
    Process.tryFinally
      (publishUnderLock json runId input deploymentId existingManifest).unmarked
      (Process.mark .released >>= fun _ => (releasePublisherLock runId).unmarked)

/-- `publishMetricsArtifacts` with its marks. -/
def markedPublishMetricsArtifacts [∀ kind, Dated (Row kind)] (json : Serialization Row)
    (runId : String) (input : PublishInput Row) : MarkedPublisherProcess Row PublishResult := do
  let deploymentId ← .ofExcept (parseDeploymentId input.deploymentId)
  let lockTtlMs := input.lockTtlMs.getD defaultLockTtlMs
  if lockTtlMs < 1 then .throw (.error "lockTtlMs must be a positive integer.")
  else do
    let existingManifest ← match input.manifest with
      | some manifest => .ret (some manifest)
      | none => getExistingManifest.unmarked
    markedPublishAgainst json runId input deploymentId lockTtlMs.toNat existingManifest

@[simp] theorem erase_markedPublishAgainst [∀ kind, Dated (Row kind)] (json : Serialization Row)
    (runId : String) (input : PublishInput Row) (deploymentId : DeploymentId) (lockTtlMs : ℕ)
    (existingManifest : Option Manifest) :
    (markedPublishAgainst json runId input deploymentId lockTtlMs existingManifest).erase =
      publishAgainst json runId input deploymentId lockTtlMs existingManifest := by
  unfold markedPublishAgainst publishAgainst
  simp only [Process.erase_bind, Process.erase_unmarked]
  refine congrArg _ (funext fun lock => ?_)
  split
  · rfl
  · simp only [Process.erase_mark_bind, Process.erase_tryFinally, Process.erase_unmarked]

/-- The marks are all that is added to the program. -/
theorem erase_markedPublishMetricsArtifacts [∀ kind, Dated (Row kind)] (json : Serialization Row)
    (runId : String) (input : PublishInput Row) :
    (markedPublishMetricsArtifacts json runId input).erase =
      publishMetricsArtifacts json runId input := by
  unfold markedPublishMetricsArtifacts publishMetricsArtifacts
  simp only [Process.erase_bind, Process.erase_ofExcept]
  refine congrArg _ (funext fun deploymentId => ?_)
  split
  · rfl
  · cases input.manifest with
    | none =>
        simp only [Process.erase_bind, Process.erase_unmarked, erase_markedPublishAgainst]
    | some manifest => exact erase_markedPublishAgainst ..

/-- When the lock of a run expires. -/
def lockExpiry (input : PublishInput Row) : ℕ :=
  input.now + (input.lockTtlMs.getD defaultLockTtlMs).toNat

/-! ### Interleavings -/

/-- The objects, the time, and the runs that have crashed. -/
structure RunsState (Row : ArtifactKind → Type) (I : Type) where
  objects : Objects Row
  clock : ℕ
  crashed : I → Bool

/-- One store operation of a run that has started and has not crashed. It may fail. -/
structure RunStep (json : Serialization Row) (inputs : I → PublishInput Row) (i : I)
    (op : StoreOp Row) (s : RunsState Row I) (result : Except PublishError op.Answer)
    (s' : RunsState Row I) : Prop where
  alive : s.crashed i = false
  started : (inputs i).now ≤ s.clock
  effect : Executes json op s.objects result s'.objects
  clock : s'.clock = s.clock
  crashed : s'.crashed = s.crashed

/-- Between the operations time passes and runs crash. -/
structure RunsIdle (s s' : RunsState Row I) : Prop where
  objects : s'.objects = s.objects
  clock : s.clock ≤ s'.clock
  crashed : ∀ i, s.crashed i = true → s'.crashed i = true

/-- The runs with the store, and which of them are between acquiring and releasing the lock. -/
abbrev LockSystem (Row : ArtifactKind → Type) (I : Type) :=
  MarkedSystem I (RunsState Row I) (I → Bool) (StoreOp Row) StoreOp.Answer LockMark PublishError
    PublishResult

def noteLock [DecidableEq I] (i : I) (mark : LockMark) (inside : I → Bool) : I → Bool :=
  Function.update inside i (decide (mark = .acquired))

/-- All runs at their start. -/
def LockSystem.start [∀ kind, Dated (Row kind)] (json : Serialization Row) (runId : I → String)
    (inputs : I → PublishInput Row) (objects : Objects Row) (clock : ℕ) : LockSystem Row I where
  state := (⟨objects, clock, fun _ => false⟩, fun _ => false)
  programs := fun i => markedPublishMetricsArtifacts json (runId i) (inputs i)

/-- Every interleaving of the runs is one of the marked runs. -/
theorem LockSystem.exists_marked [DecidableEq I] [∀ kind, Dated (Row kind)]
    {json : Serialization Row} {runId : I → String} {inputs : I → PublishInput Row}
    {objects : Objects Row} {clock : ℕ}
    {τ : System I (RunsState Row I) (StoreOp Row) StoreOp.Answer PublishError PublishResult}
    (h : System.Reaches RunsIdle (RunStep json inputs) ⟨⟨objects, clock, fun _ => false⟩,
      fun i => publishMetricsArtifacts json (runId i) (inputs i)⟩ τ) :
    ∃ σ, System.Reaches (Marked.idle RunsIdle) (Marked.exec (RunStep json inputs) noteLock)
      (LockSystem.start json runId inputs objects clock) σ ∧ σ.erase = τ := by
  refine System.Reaches.exists_marked ?_
  have herase : (LockSystem.start json runId inputs objects clock).erase =
      ⟨⟨objects, clock, fun _ => false⟩,
        fun i => publishMetricsArtifacts json (runId i) (inputs i)⟩ :=
    congrArg _ (funext fun i => erase_markedPublishMetricsArtifacts json (runId i) (inputs i))
  rw [herase]
  exact h

/-- A run that has not crashed and is between acquiring and releasing the lock. -/
def Live (s : RunsState Row I × (I → Bool)) (i : I) : Prop :=
  s.2 i = true ∧ s.1.crashed i = false

/-- The runs that are still to release the lock do so in time: none of their locks has expired. -/
def InTime (inputs : I → PublishInput Row) (s : RunsState Row I × (I → Bool)) : Prop :=
  ∀ i, Live s i → s.1.clock < lockExpiry (inputs i)

/-- What the interleavings can reach in which every run that releases does so in time. -/
def TimelyInterleaving [DecidableEq I] (json : Serialization Row) (inputs : I → PublishInput Row) :
    LockSystem Row I → LockSystem Row I → Prop :=
  System.Reaches (fun s s' => Marked.idle RunsIdle s s' ∧ InTime inputs s')
    (fun i op s result s' =>
      Marked.exec (RunStep json inputs) noteLock i op s result s' ∧ InTime inputs s')

/-! ### The invariant and the conditions between the runs -/

variable (runId : I → String) (inputs : I → PublishInput Row)

/-- A run between acquiring and releasing holds the lock until the lock expires. -/
structure LockInv (s : RunsState Row I × (I → Bool)) : Prop where
  expires : ∀ i lock, storedLock s.1.objects = some lock → lock.runId = runId i →
    lock.expiresAt = lockExpiry (inputs i)
  held : ∀ i, s.2 i = true → s.1.clock < lockExpiry (inputs i) →
    ∃ lock, storedLock s.1.objects = some lock ∧ lock.runId = runId i

/-- A run leaves the unexpired locks of the others in place. -/
structure LockGuar (i : I) (s s' : RunsState Row I × (I → Bool)) : Prop where
  clock : s'.1.clock = s.1.clock
  inside : ∀ j, j ≠ i → s'.2 j = s.2 j
  kept : ∀ lock, storedLock s.1.objects = some lock → lock.runId ≠ runId i →
    s.1.clock < lock.expiresAt → storedLock s'.1.objects = some lock

/-- The others leave the lock of a run in place until it expires. -/
structure LockRely (i : I) (s s' : RunsState Row I × (I → Bool)) : Prop where
  clock : s.1.clock ≤ s'.1.clock
  inside : s'.2 i = s.2 i
  kept : ∀ lock, storedLock s.1.objects = some lock → lock.runId = runId i →
    s'.1.clock < lock.expiresAt → storedLock s'.1.objects = some lock

/-- The runs as programs that respect the lock. -/
def lockDiscipline [DecidableEq I] (json : Serialization Row)
    (hdistinct : Function.Injective runId) :
    Discipline I (RunsState Row I × (I → Bool)) (Marked (StoreOp Row) LockMark)
      (Marked.Answer LockMark StoreOp.Answer) PublishError where
  idle := Marked.idle RunsIdle
  exec := Marked.exec (RunStep json inputs) noteLock
  inv := LockInv runId inputs
  rely := LockRely runId
  guar := LockGuar runId
  rely_refl := fun _ _ => ⟨le_refl _, rfl, fun _ h _ _ => h⟩
  rely_trans := by
    intro i s t u hst htu
    refine ⟨hst.clock.trans htu.clock, htu.inside.trans hst.inside, fun lock hlock hown hlt => ?_⟩
    exact htu.kept lock (hst.kept lock hlock hown (htu.clock.trans_lt hlt)) hown hlt
  inv_idle := by
    intro s s' hinv hidle
    refine ⟨fun i lock hlock => hinv.expires i lock (hidle.1.objects ▸ hlock), fun i hi hlt => ?_⟩
    rw [hidle.1.objects]
    exact hinv.held i (hidle.2 ▸ hi) (hidle.1.clock.trans_lt hlt)
  rely_idle := by
    intro i s s' hidle
    refine ⟨hidle.1.clock, congrFun hidle.2 i, fun lock hlock _ _ => ?_⟩
    rw [hidle.1.objects]
    exact hlock
  rely_guar := by
    intro i j s s' hne hguar
    refine ⟨hguar.clock.ge, hguar.inside i hne, fun lock hlock hown hlt => ?_⟩
    refine hguar.kept lock hlock (fun hother => ?_) (hguar.clock ▸ hlt)
    exact hne (hdistinct (hown.symm.trans hother))

variable {runId inputs}

/-! ### What an operation may do to the lock -/

section

variable {i : I} {s s' : RunsState Row I × (I → Bool)}

/-- The stored lock stays as it is. -/
theorem LockInv.same (hinv : LockInv runId inputs s) (hclock : s'.1.clock = s.1.clock)
    (hinside : s'.2 = s.2) (hlock : storedLock s'.1.objects = storedLock s.1.objects) :
    LockInv runId inputs s' ∧ LockGuar runId i s s' := by
  refine ⟨⟨?_, ?_⟩, hclock, fun j _ => congrFun hinside j, fun lock h _ _ => hlock.trans h⟩
  · rw [hlock]
    exact hinv.expires
  · rw [hlock, hclock, hinside]
    exact hinv.held

/-- A run puts its own lock where no other run has an unexpired one. -/
theorem LockInv.replace (hdistinct : Function.Injective runId) (hinv : LockInv runId inputs s)
    (hclock : s'.1.clock = s.1.clock) (hinside : s'.2 = s.2) {new : PublisherLock}
    (hnew : storedLock s'.1.objects = some new) (hown : new.runId = runId i)
    (hexpires : new.expiresAt = lockExpiry (inputs i))
    (hfree : ∀ old, storedLock s.1.objects = some old → old.expiresAt ≤ s.1.clock) :
    LockInv runId inputs s' ∧ LockGuar runId i s s' := by
  refine ⟨⟨?_, ?_⟩, hclock, fun j _ => congrFun hinside j, ?_⟩
  · intro j lock hlock hj
    obtain rfl := Option.some.inj (hnew.symm.trans hlock)
    obtain rfl := hdistinct (hown.symm.trans hj)
    exact hexpires
  · intro j hj hlt
    by_cases hji : j = i
    · exact ⟨new, hnew, hji ▸ hown⟩
    · rw [hinside] at hj
      rw [hclock] at hlt
      obtain ⟨old, hold, howner⟩ := hinv.held j hj hlt
      have hexpired := hfree old hold
      have := hinv.expires j old hold howner
      omega
  · intro old hold _ hlt
    have := hfree old hold
    omega

/-- A run removes its own lock once it goes to release it. -/
theorem LockInv.remove (hdistinct : Function.Injective runId) (hinv : LockInv runId inputs s)
    (hclock : s'.1.clock = s.1.clock) (hinside : s'.2 = s.2) (hout : s.2 i = false)
    {old : PublisherLock} (hold : storedLock s.1.objects = some old) (hown : old.runId = runId i)
    (hnone : storedLock s'.1.objects = none) :
    LockInv runId inputs s' ∧ LockGuar runId i s s' := by
  refine ⟨⟨?_, ?_⟩, hclock, fun j _ => congrFun hinside j, ?_⟩
  · intro j lock hlock
    rw [hnone] at hlock
    exact nomatch hlock
  · intro j hj hlt
    rw [hinside] at hj
    rw [hclock] at hlt
    obtain ⟨lock, hlock, howner⟩ := hinv.held j hj hlt
    obtain rfl := Option.some.inj (hold.symm.trans hlock)
    obtain rfl := hdistinct (hown.symm.trans howner)
    rw [hout] at hj
    exact nomatch hj
  · intro lock hlock hother
    obtain rfl := Option.some.inj (hold.symm.trans hlock)
    exact absurd hown hother

end

theorem storedLock_of_lookup_eq {objects objects' : Objects Row}
    (h : objects'.lookup publisherLockKey = objects.lookup publisherLockKey) :
    storedLock objects' = storedLock objects := by
  unfold storedLock
  rw [h]

@[simp] theorem storedLock_insert_lock (objects : Objects Row) (lock : PublisherLock) :
    storedLock (objects.insert publisherLockKey (.lock lock)) = some lock := by
  unfold storedLock
  rw [AList.lookup_insert]

@[simp] theorem storedLock_erase_lock (objects : Objects Row) :
    storedLock (objects.erase publisherLockKey) = none := by
  unfold storedLock
  rw [AList.lookup_erase]

theorem storedLock_of_lookup {objects : Objects Row} {lock : PublisherLock}
    (h : objects.lookup publisherLockKey = some (.lock lock)) :
    storedLock objects = some lock := by
  unfold storedLock
  rw [h]

/-! ### The operations of a run -/

/-- The etag of a lock is the etag of no other content. -/
def LockEtagsDiffer (json : Serialization Row) : Prop :=
  ∀ lock value, json.etag value = json.etag (.lock lock) → value = .lock lock

/-- A run's own lock is stored until it expires. -/
def Holds (runId : I → String) (inputs : I → PublishInput Row) (i : I)
    (s : RunsState Row I × (I → Bool)) : Prop :=
  s.1.clock < lockExpiry (inputs i) → ∃ lock, storedLock s.1.objects = some lock ∧
    lock.runId = runId i ∧ lock.expiresAt = lockExpiry (inputs i)

theorem Holds.stable {i : I} {s s' : RunsState Row I × (I → Bool)} (h : Holds runId inputs i s)
    (hrely : LockRely runId i s s') : Holds runId inputs i s' := by
  intro hlt
  obtain ⟨lock, hlock, hown, hexpires⟩ := h (hrely.clock.trans_lt hlt)
  exact ⟨lock, hrely.kept lock hlock hown (hexpires ▸ hlt), hown, hexpires⟩

section runs

variable [DecidableEq I] {json : Serialization Row} (hdistinct : Function.Injective runId)
  {i : I} {s : RunsState Row I × (I → Bool)} {α : Type}

theorem wp_leaves {p : PublisherProcess Row α} (hp : Leaves json publisherLockKey p) :
    (lockDiscipline runId inputs json hdistinct).WP i p.unmarked (fun _ _ => True) s := by
  induction p generalizing s with
  | ret x => exact fun _ _ _ => trivial
  | throw e => exact fun _ _ _ => trivial
  | call op next ih =>
      intro s₁ _ hinv result s₂ hexec
      obtain ⟨hstep, hinside⟩ := hexec
      have hlock := storedLock_of_lookup_eq (hstep.effect.lookup hp.1)
      obtain ⟨hinv', hguar⟩ := LockInv.same hinv hstep.clock hinside hlock
      exact ⟨hinv', hguar, ih result (hp.2 _ _ _ hstep.effect)⟩

/-- Reading the lock keeps what is stable, and answers the etag of the lock it reads. -/
theorem wp_readPublisherLock_lock {P : RunsState Row I × (I → Bool) → Prop}
    (hstable : ∀ t t', P t → LockRely runId i t t' → P t') (hP : P s) :
    (lockDiscipline runId inputs json hdistinct).WP i readPublisherLock.unmarked
      (fun result t => P t ∧ ∀ held etag, result = .ok (some (held, etag)) →
        etag = some (json.etag (.lock held))) s := by
  intro s₁ hrely hinv result s₂ hexec
  obtain ⟨hstep, hinside⟩ := hexec
  have htarget : (@StoreOp.getJsonWithMetadata Row publisherLockKey).target ≠
      some publisherLockKey := fun h => nomatch h
  have hlock := storedLock_of_lookup_eq (hstep.effect.lookup htarget)
  obtain ⟨hinv', hguar⟩ := LockInv.same hinv hstep.clock hinside hlock
  have hown : LockRely runId i s₁ s₂ :=
    ⟨hstep.clock.ge, congrFun hinside i, fun lock h _ _ => hlock.trans h⟩
  have hP₂ : P s₂ := hstable s₁ s₂ (hstable s s₁ hP hrely) hown
  refine ⟨hinv', hguar, ?_⟩
  rcases result with error | ⟨value, etag⟩
  · cases error with
    | artifactNotFound key => exact fun t ht _ => ⟨hstable s₂ t hP₂ ht, fun _ _ h => nomatch h⟩
    | metricsNotDataReady => exact fun t ht _ => ⟨hstable s₂ t hP₂ ht, fun _ _ h => nomatch h⟩
    | error message => exact fun t ht _ => ⟨hstable s₂ t hP₂ ht, fun _ _ h => nomatch h⟩
  · cases value with
    | lock lock =>
        refine fun t ht _ => ⟨hstable s₂ t hP₂ ht, fun held etag' h => ?_⟩
        obtain ⟨rfl, rfl⟩ := Prod.mk.inj (Option.some.inj (Except.ok.inj h))
        exact (executes_getJsonWithMetadata hstep.effect).2
    | manifest manifest => exact fun t ht _ => ⟨hstable s₂ t hP₂ ht, fun _ _ h => nomatch h⟩
    | schema key => exact fun t ht _ => ⟨hstable s₂ t hP₂ ht, fun _ _ h => nomatch h⟩
    | shard kind rows => exact fun t ht _ => ⟨hstable s₂ t hP₂ ht, fun _ _ h => nomatch h⟩

/-- An operation that either leaves the objects alone or puts the run's own lock where no unexpired
one is. -/
theorem wp_putLock (op : StoreOp Row) (success : op.Answer) {lock : PublisherLock}
    (hown : lock.runId = runId i) (hexpires : lock.expiresAt = lockExpiry (inputs i))
    (hop : ∀ s₁ : RunsState Row I, (inputs i).now ≤ s₁.clock → ∀ result objects,
      Executes json op s₁.objects result objects →
        (objects = s₁.objects ∧ result ≠ .ok success) ∨
          ((∀ old, storedLock s₁.objects = some old → old.expiresAt ≤ s₁.clock) ∧
            objects = s₁.objects.insert publisherLockKey (.lock lock))) :
    (lockDiscipline runId inputs json hdistinct).WP i (Process.await op).unmarked
      (fun result t => result = .ok success → Holds runId inputs i t) s := by
  intro s₁ _ hinv result s₂ hexec
  obtain ⟨hstep, hinside⟩ := hexec
  have hdone (post : Except PublishError op.Answer → _ → Prop)
      (hpost : ∀ t, LockRely runId i s₂ t → post result t) :
      (lockDiscipline runId inputs json hdistinct).WP i
        (Process.ofExcept result).unmarked post s₂ := by
    cases result with
    | ok answer => exact fun t ht _ => hpost t ht
    | error e => exact fun t ht _ => hpost t ht
  rcases hop s₁.1 hstep.started result s₂.1.objects hstep.effect with
    ⟨hsame, hfailed⟩ | ⟨hfree, hput⟩
  · obtain ⟨hinv', hguar⟩ := LockInv.same (i := i) hinv hstep.clock hinside
      (congrArg storedLock hsame)
    exact ⟨hinv', hguar, hdone _ (fun t _ h => absurd h hfailed)⟩
  · have hnew : storedLock s₂.1.objects = some lock := by
      rw [hput, storedLock_insert_lock]
    obtain ⟨hinv', hguar⟩ := LockInv.replace hdistinct hinv hstep.clock hinside hnew hown hexpires
      hfree
    have hholds : Holds runId inputs i s₂ := fun _ => ⟨lock, hnew, hown, hexpires⟩
    exact ⟨hinv', hguar, hdone _ (fun t ht _ => hholds.stable ht)⟩

/-- A takeover replaces only the expired lock that it has read. -/
theorem wp_replacePublisherLock (hetags : LockEtagsDiffer json) {held lock : PublisherLock}
    (hown : lock.runId = runId i) (hexpires : lock.expiresAt = lockExpiry (inputs i))
    (hexpired : held.expiresAt ≤ (inputs i).now) :
    (lockDiscipline runId inputs json hdistinct).WP i
      (replacePublisherLock (runId i) lock (some (json.etag (.lock held)))).unmarked
      (fun result t => ∀ outcome, result = .ok outcome → outcome.acquired = true →
        Holds runId inputs i t) s := by
  unfold replacePublisherLock
  rw [Process.unmarked_bind]
  have hput : (lockDiscipline runId inputs json hdistinct).WP i
      (putJsonIfMatch publisherLockKey (.lock lock) (json.etag (.lock held))).unmarked
      (fun result t => result = .ok true → Holds runId inputs i t) s := by
    refine wp_putLock hdistinct (.putJsonIfMatch publisherLockKey (.lock lock) _) true hown
      hexpires ?_
    intro s₁ hstarted result objects hexec
    rcases executes_putJsonIfMatch hexec with hsame | ⟨existing, hlookup, hetag, hput⟩
    · exact Or.inl hsame
    · obtain rfl := hetags held existing hetag
      refine Or.inr ⟨fun old hold => ?_, hput⟩
      obtain rfl := Option.some.inj ((storedLock_of_lookup hlookup).symm.trans hold)
      exact hexpired.trans hstarted
  refine wp_bind (hput.weaken ?_)
  rintro (error | replaced) t ht
  · exact fun outcome h => nomatch h
  · cases replaced with
    | false =>
        change (lockDiscipline runId inputs json hdistinct).WP i
          (readPublisherLock >>= _).unmarked _ t
        rw [Process.unmarked_bind]
        refine wp_bind ((wp_readPublisherLock_lock hdistinct (P := fun _ => True)
          (fun _ _ _ _ => trivial) trivial).weaken ?_)
        rintro (error | current) t' _
        · exact fun outcome h => nomatch h
        · intro t'' _ _ outcome houtcome hacquired
          obtain rfl := Except.ok.inj houtcome
          exact nomatch hacquired
    | true =>
        change (lockDiscipline runId inputs json hdistinct).WP i
          (readPublisherLock >>= _).unmarked _ t
        rw [Process.unmarked_bind]
        refine wp_bind ((wp_readPublisherLock_lock hdistinct (P := Holds runId inputs i)
          (fun _ _ h hrely => h.stable hrely) (ht rfl)).weaken ?_)
        rintro (error | verified) t' ⟨hholds, -⟩
        · exact fun outcome h => nomatch h
        · exact fun t'' hrely _ outcome _ _ => hholds.stable hrely

theorem buildPublisherLock_eq_ok {id : String} {operation : LockOperation} {now ttlMs : ℕ}
    {lock : PublisherLock} (h : buildPublisherLock id operation now ttlMs = .ok lock) :
    lock.runId = id ∧ lock.expiresAt = now + ttlMs := by
  unfold buildPublisherLock at h
  split at h
  · obtain rfl := Except.ok.inj h
    exact ⟨rfl, rfl⟩
  · exact nomatch h

/-- A run that acquires the lock holds it until it expires. -/
theorem wp_acquirePublisherLock_lock (hetags : LockEtagsDiffer json) {operation : LockOperation} :
    (lockDiscipline runId inputs json hdistinct).WP i
      (acquirePublisherLock (runId i) operation (inputs i).now
        ((inputs i).lockTtlMs.getD defaultLockTtlMs).toNat).unmarked
      (fun result t => ∀ outcome, result = .ok outcome → outcome.acquired = true →
        Holds runId inputs i t) s := by
  unfold acquirePublisherLock
  generalize hbuild : buildPublisherLock (runId i) operation (inputs i).now
    ((inputs i).lockTtlMs.getD defaultLockTtlMs).toNat = built
  cases built with
  | error e => exact fun _ _ _ outcome h => nomatch h
  | ok lock =>
      obtain ⟨hown, hexpires⟩ := buildPublisherLock_eq_ok hbuild
      have hput : (lockDiscipline runId inputs json hdistinct).WP i
          (putJsonIfAbsent publisherLockKey (.lock lock)).unmarked
          (fun result t => result = .ok true → Holds runId inputs i t) s := by
        refine wp_putLock hdistinct (.putJsonIfAbsent publisherLockKey (.lock lock)) true hown
          hexpires ?_
        intro s₁ _ result objects hexec
        rcases executes_putJsonIfAbsent hexec with hsame | ⟨hlookup, hput⟩
        · exact Or.inl hsame
        · refine Or.inr ⟨fun old hold => ?_, hput⟩
          unfold storedLock at hold
          rw [hlookup] at hold
          exact nomatch hold
      change (lockDiscipline runId inputs json hdistinct).WP i
        (putJsonIfAbsent publisherLockKey (.lock lock) >>= _).unmarked _ s
      rw [Process.unmarked_bind]
      refine wp_bind (hput.weaken ?_)
      rintro (error | acquired) t ht
      · exact fun outcome h => nomatch h
      · cases acquired with
        | true => exact fun t' hrely _ outcome _ _ => (ht rfl).stable hrely
        | false =>
            change (lockDiscipline runId inputs json hdistinct).WP i
              (readPublisherLock >>= _).unmarked _ t
            rw [Process.unmarked_bind]
            refine wp_bind ((wp_readPublisherLock_lock hdistinct (P := fun _ => True)
              (fun _ _ _ _ => trivial) trivial).weaken ?_)
            rintro (error | existing) t' ⟨-, hetag⟩
            · exact fun outcome h => nomatch h
            · cases existing with
              | none =>
                  intro t'' _ _ outcome houtcome hacquired
                  obtain rfl := Except.ok.inj houtcome
                  exact nomatch hacquired
              | some existing =>
                  obtain ⟨held, etag⟩ := existing
                  obtain rfl := hetag held etag rfl
                  change (lockDiscipline runId inputs json hdistinct).WP i
                    (Process.unmarked (if (inputs i).now < held.expiresAt then _ else _)) _ t'
                  split
                  · intro t'' _ _ outcome houtcome hacquired
                    obtain rfl := Except.ok.inj houtcome
                    exact nomatch hacquired
                  · next hexpired =>
                      exact wp_replacePublisherLock hdistinct hetags hown hexpires
                        (Nat.le_of_not_lt hexpired)

/-- A release removes only the lock of its own run. -/
theorem wp_releasePublisherLock_lock (hetags : LockEtagsDiffer json) (hout : s.2 i = false) :
    (lockDiscipline runId inputs json hdistinct).WP i (releasePublisherLock (runId i)).unmarked
      (fun _ _ => True) s := by
  unfold releasePublisherLock
  rw [Process.unmarked_bind]
  refine wp_bind ((wp_readPublisherLock_lock hdistinct (P := fun t => t.2 i = false)
    (fun _ _ h hrely => hrely.inside.trans h) hout).weaken ?_)
  rintro (error | existing) t ⟨hout, hetag⟩
  · exact trivial
  · cases existing with
    | none => exact fun _ _ _ => trivial
    | some existing =>
        obtain ⟨held, etag⟩ := existing
        obtain rfl := hetag held etag rfl
        change (lockDiscipline runId inputs json hdistinct).WP i
          (Process.unmarked (if held.runId = runId i then _ else _)) _ t
        split
        swap
        · exact fun _ _ _ => trivial
        next hown =>
          intro s₁ hrely hinv result s₂ hexec
          obtain ⟨hstep, hinside⟩ := hexec
          have hdone : (lockDiscipline runId inputs json hdistinct).WP i
              (Process.unmarked (Process.ofExcept result >>= fun _ => .ret ()))
              (fun _ _ => True) s₂ := by
            cases result with
            | ok deleted => exact fun _ _ _ => trivial
            | error e => exact fun _ _ _ => trivial
          rcases executes_deleteJsonIfMatch hstep.effect with
            hsame | ⟨existing, hlookup, hmatch, herase⟩
          · obtain ⟨hinv', hguar⟩ := LockInv.same (i := i) hinv hstep.clock hinside
              (congrArg storedLock hsame)
            exact ⟨hinv', hguar, hdone⟩
          · obtain rfl := hetags held existing hmatch
            have hnone : storedLock s₂.1.objects = none := by
              rw [herase, storedLock_erase_lock]
            obtain ⟨hinv', hguar⟩ := LockInv.remove hdistinct hinv hstep.clock hinside
              (hrely.inside.trans hout) (storedLock_of_lookup hlookup) hown hnone
            exact ⟨hinv', hguar, hdone⟩

/-- A run may enter once it holds the lock. -/
theorem wp_acquired {f : Unit → MarkedPublisherProcess Row α} {post : Except PublishError α → _ → Prop}
    (hholds : Holds runId inputs i s)
    (hnext : ∀ t, (lockDiscipline runId inputs json hdistinct).WP i (f ()) post t) :
    (lockDiscipline runId inputs json hdistinct).WP i (Process.mark .acquired >>= f) post s := by
  intro s₁ hrely hinv result s₂ hexec
  obtain ⟨rfl, hstate, hinside⟩ := hexec
  refine ⟨⟨?_, ?_⟩, ⟨?_, ?_, ?_⟩, hnext s₂⟩
  · rw [hstate]
    exact hinv.expires
  · intro j hj hlt
    rw [hstate] at hlt ⊢
    by_cases hji : j = i
    · subst hji
      obtain ⟨lock, hlock, hown, -⟩ := hholds.stable hrely hlt
      exact ⟨lock, hlock, hown⟩
    · rw [hinside, noteLock, Function.update_of_ne hji] at hj
      exact hinv.held j hj hlt
  · rw [hstate]
  · intro j hji
    rw [hinside, noteLock, Function.update_of_ne hji]
  · intro lock hlock _ _
    rw [hstate]
    exact hlock

/-- A run may always leave. -/
theorem wp_released {f : Unit → MarkedPublisherProcess Row α} {post : Except PublishError α → _ → Prop}
    (hnext : ∀ t, t.2 i = false → (lockDiscipline runId inputs json hdistinct).WP i (f ()) post t) :
    (lockDiscipline runId inputs json hdistinct).WP i (Process.mark .released >>= f) post s := by
  intro s₁ _ hinv result s₂ hexec
  obtain ⟨rfl, hstate, hinside⟩ := hexec
  have hout : s₂.2 i = false := by
    rw [hinside, noteLock, Function.update_self]
    rfl
  refine ⟨⟨?_, ?_⟩, ⟨?_, ?_, ?_⟩, hnext s₂ hout⟩
  · rw [hstate]
    exact hinv.expires
  · intro j hj hlt
    rw [hstate] at hlt ⊢
    have hji : j ≠ i := by
      rintro rfl
      rw [hout] at hj
      exact nomatch hj
    rw [hinside, noteLock, Function.update_of_ne hji] at hj
    exact hinv.held j hj hlt
  · rw [hstate]
  · intro j hji
    rw [hinside, noteLock, Function.update_of_ne hji]
  · intro lock hlock _ _
    rw [hstate]
    exact hlock

theorem wp_markedPublishAgainst [∀ kind, Dated (Row kind)] (hetags : LockEtagsDiffer json)
    {deploymentId : DeploymentId} {existingManifest : Option Manifest} :
    (lockDiscipline runId inputs json hdistinct).WP i
      (markedPublishAgainst json (runId i) (inputs i) deploymentId
        ((inputs i).lockTtlMs.getD defaultLockTtlMs).toNat existingManifest)
      (fun _ _ => True) s := by
  unfold markedPublishAgainst
  refine wp_bind ((wp_acquirePublisherLock_lock hdistinct hetags).weaken ?_)
  rintro (error | outcome) t houtcome
  · exact trivial
  · change (lockDiscipline runId inputs json hdistinct).WP i
      (if (!outcome.acquired) = true then _ else _) _ t
    split
    · exact fun _ _ _ => trivial
    · next hacquired =>
        rw [Bool.not_eq_true', Bool.not_eq_false] at hacquired
        refine wp_acquired hdistinct (houtcome outcome rfl hacquired) (fun t₁ => ?_)
        refine wp_tryFinally ((wp_leaves hdistinct leaves_publishUnderLock).weaken ?_)
        intro result t₂ _
        refine wp_released hdistinct (fun t₃ hout => ?_)
        refine (wp_releasePublisherLock_lock hdistinct hetags hout).weaken ?_
        rintro (error | _) t₄ _
        · exact trivial
        · exact fun _ _ _ => trivial

/-- Every run respects the lock. -/
theorem wp_markedPublishMetricsArtifacts [∀ kind, Dated (Row kind)]
    (hetags : LockEtagsDiffer json) :
    (lockDiscipline runId inputs json hdistinct).WP i
      (markedPublishMetricsArtifacts json (runId i) (inputs i)) (fun _ _ => True) s := by
  unfold markedPublishMetricsArtifacts
  refine wp_ofExcept_bind (fun _ _ => fun _ _ _ => trivial) (fun deploymentId _ => ?_)
  dsimp only
  split
  · exact fun _ _ _ => trivial
  · split
    · exact wp_markedPublishAgainst hdistinct hetags
    · refine wp_bind ((wp_leaves hdistinct leaves_getExistingManifest).weaken ?_)
      rintro (error | existing) t _
      · exact trivial
      · exact wp_markedPublishAgainst hdistinct hetags

end runs

/-! ### Exclusion -/

section

variable [DecidableEq I] {json : Serialization Row} {objects : Objects Row} {clock : ℕ}
  {σ : LockSystem Row I}

theorem TimelyInterleaving.inv [∀ kind, Dated (Row kind)] (hdistinct : Function.Injective runId)
    (hetags : LockEtagsDiffer json)
    (hforeign : ∀ lock, storedLock objects = some lock → ∀ i, lock.runId ≠ runId i)
    (h : TimelyInterleaving json inputs (LockSystem.start json runId inputs objects clock) σ) :
    LockInv runId inputs σ.state ∧ ∀ i, (lockDiscipline runId inputs json hdistinct).WP i
      (σ.programs i) (fun _ _ => True) σ.state := by
  have hreach : System.Reaches (lockDiscipline runId inputs json hdistinct).idle
      (lockDiscipline runId inputs json hdistinct).exec
      (LockSystem.start json runId inputs objects clock) σ := by
    refine Relation.ReflTransGen.mono (fun τ τ' hstep => ?_) _ _ h
    cases hstep with
    | idle hidle => exact .idle hidle.1
    | call i hprogram hexec => exact .call i hprogram hexec.1
  have hinv : LockInv runId inputs (LockSystem.start json runId inputs objects clock).state :=
    ⟨fun i lock hlock hown => absurd hown (hforeign lock hlock i), fun _ hi => nomatch hi⟩
  have hwp (i : I) : (lockDiscipline runId inputs json hdistinct).WP i
      ((LockSystem.start json runId inputs objects clock).programs i) (fun _ _ => True)
      (LockSystem.start json runId inputs objects clock).state :=
    wp_markedPublishMetricsArtifacts hdistinct hetags
  exact @reaches_inv _ _ _ _ _ _ _ _ _ _ (fun _ _ _ => True) hinv hwp hreach

theorem TimelyInterleaving.inTime [∀ kind, Dated (Row kind)]
    (h : TimelyInterleaving json inputs (LockSystem.start json runId inputs objects clock) σ) :
    InTime inputs σ.state := by
  induction h with
  | refl => exact fun _ hlive => nomatch hlive.1
  | tail _ hstep _ =>
      cases hstep with
      | idle hidle => exact hidle.2
      | call i hprogram hexec => exact hexec.2

/-- In every interleaving in which the runs that release the lock do so before it expires, at most
one live run is between acquiring and releasing it, and no operation of a run removes or replaces
the unexpired lock of another. -/
theorem lock_exclusive [∀ kind, Dated (Row kind)] (json : Serialization Row)
    (hetags : LockEtagsDiffer json) (runId : I → String) (hdistinct : Function.Injective runId)
    (inputs : I → PublishInput Row) (objects : Objects Row)
    (hforeign : ∀ lock, storedLock objects = some lock → ∀ i, lock.runId ≠ runId i) (clock : ℕ)
    (σ : LockSystem Row I)
    (h : TimelyInterleaving json inputs (LockSystem.start json runId inputs objects clock) σ) :
    (∀ i j, Live σ.state i → Live σ.state j → i = j) ∧
      ∀ i op next result s', σ.programs i = .call (.operation op) next →
        RunStep json inputs i op σ.state.1 result s' →
        ∀ lock, storedLock σ.state.1.objects = some lock → lock.runId ≠ runId i →
          σ.state.1.clock < lock.expiresAt → storedLock s'.objects = some lock := by
  obtain ⟨hinv, hwp⟩ := h.inv hdistinct hetags hforeign
  refine ⟨?_, ?_⟩
  · intro i j hi hj
    obtain ⟨lock, hlock, hown⟩ := hinv.held i hi.1 (h.inTime i hi)
    obtain ⟨lock', hlock', hown'⟩ := hinv.held j hj.1 (h.inTime j hj)
    obtain rfl := Option.some.inj (hlock.symm.trans hlock')
    exact hdistinct (hown.symm.trans hown')
  · intro i op next result s' hprogram hstep lock hlock hother hlt
    have hcall := hwp i
    rw [hprogram] at hcall
    obtain ⟨-, hguar, -⟩ := hcall σ.state ((lockDiscipline runId inputs json hdistinct).rely_refl
      i σ.state) hinv result (s', σ.state.2) ⟨hstep, rfl⟩
    exact hguar.kept lock hlock hother hlt

end

/-! ### A takeover -/

def LockOperation.letter : LockOperation → Char
  | .initialBackfill => 'i'
  | .incrementalRefresh => 'r'

/-- A text that determines a lock. -/
def lockDigest (lock : PublisherLock) : List Char :=
  List.replicate lock.startedAt '1' ++ '.' :: (List.replicate lock.expiresAt '1' ++ '.' ::
    lock.operation.letter :: lock.runId.toList)

theorem replicate_append_cons_inj {α : Type} {a b : α} (hne : a ≠ b) {m n : ℕ} {xs ys : List α}
    (h : List.replicate m a ++ b :: xs = List.replicate n a ++ b :: ys) : m = n ∧ xs = ys := by
  induction m generalizing n with
  | zero =>
      cases n with
      | zero => exact ⟨rfl, (List.cons.inj h).2⟩
      | succ n => exact absurd (List.cons.inj h).1.symm hne
  | succ m ih =>
      cases n with
      | zero => exact absurd (List.cons.inj h).1 hne
      | succ n =>
          obtain ⟨rfl, hrest⟩ := ih (List.cons.inj h).2
          exact ⟨rfl, hrest⟩

theorem lockDigest_injective : Function.Injective lockDigest := by
  rintro ⟨run, started, expires, operation⟩ ⟨run', started', expires', operation'⟩ h
  obtain ⟨rfl, h⟩ := replicate_append_cons_inj (by decide) h
  obtain ⟨rfl, h⟩ := replicate_append_cons_inj (by decide) h
  obtain ⟨hoperation, hrun⟩ := List.cons.inj h
  obtain rfl := String.toList_injective hrun
  have hletter : ∀ o o' : LockOperation, o.letter = o'.letter → o = o' := by
    intro o o' ho
    cases o <;> cases o' <;> first | rfl | exact absurd ho (by decide)
  obtain rfl := hletter operation operation' hoperation
  rfl

/-- Hashes that tell all locks apart, and from everything else. -/
def digestSerialization : Serialization DateRow where
  sha256 := fun value =>
    match value with
    | .lock lock => String.ofList (lockDigest lock)
    | _ => "-"
  byteLength := fun _ => 0

theorem lockEtagsDiffer_digest : LockEtagsDiffer digestSerialization := by
  intro lock value h
  have hsha := congrArg String.toList h
  simp only [Serialization.etag, String.toList_append, List.append_cancel_right_eq,
    List.append_cancel_left_eq] at hsha
  have hother : ("-" : String).toList ≠ (String.ofList (lockDigest lock)).toList := by
    intro heq
    have hlength : 1 = (String.ofList (lockDigest lock)).toList.length :=
      congrArg List.length heq
    simp only [String.toList_ofList, lockDigest, List.length_append, List.length_cons] at hlength
    omega
  cases value with
  | lock other =>
      have hdigest : lockDigest other = lockDigest lock := by
        simpa only [digestSerialization, String.toList_ofList] using hsha
      rw [lockDigest_injective hdigest]
  | manifest manifest => exact absurd hsha hother
  | schema key => exact absurd hsha hother
  | shard kind rows => exact absurd hsha hother

/-- Two runs: one starts at once and has the lock for two milliseconds, the other starts later. -/
def takeoverInputs (late : Bool) : PublishInput DateRow where
  deploymentId := "d1"
  source := dailySource "2024-01-31"
  now := if late then 5 else 0
  lockTtlMs := some 2

/-- What happens between the operations. -/
inductive LockEvent
  | time (clock : ℕ)
  | crash (late : Bool)

def takeoverInTime (s : RunsState DateRow Bool × (Bool → Bool)) : Bool :=
  [true, false].all (fun late => !(s.2 late && !s.1.crashed late) ||
    decide (s.1.clock < lockExpiry (takeoverInputs late)))

def takeoverMove (late : Bool) (op : Marked (StoreOp DateRow) LockMark)
    (s : RunsState DateRow Bool × (Bool → Bool)) :
    Option (Except PublishError (op.Answer LockMark StoreOp.Answer) ×
      (RunsState DateRow Bool × (Bool → Bool))) :=
  match op with
  | .operation op =>
      let answer := memoryStore digestSerialization s.1.objects op
      let s' := ({ s.1 with objects := answer.2 }, s.2)
      if s.1.crashed late = false ∧ (takeoverInputs late).now ≤ s.1.clock ∧
          takeoverInTime s' then some (answer.1, s') else none
  | .mark mark =>
      let s' := (s.1, noteLock late mark s.2)
      if takeoverInTime s' then some (.ok (), s') else none

def takeoverTick (event : LockEvent) (s : RunsState DateRow Bool × (Bool → Bool)) :
    Option (RunsState DateRow Bool × (Bool → Bool)) :=
  match event with
  | .time clock =>
      let s' := ({ s.1 with clock := clock }, s.2)
      if s.1.clock ≤ clock ∧ takeoverInTime s' then some s' else none
  | .crash late =>
      let s' := ({ s.1 with crashed := fun i => s.1.crashed i || i == late }, s.2)
      if takeoverInTime s' then some s' else none

theorem takeoverInTime_sound {s : RunsState DateRow Bool × (Bool → Bool)}
    (h : takeoverInTime s = true) : InTime takeoverInputs s := by
  intro late hlive
  have hmem : late ∈ [true, false] := by cases late <;> decide
  have hlate := List.all_eq_true.mp h late hmem
  rw [hlive.1, hlive.2] at hlate
  exact of_decide_eq_true hlate

theorem takeoverMove_sound (late : Bool) (op : Marked (StoreOp DateRow) LockMark)
    (s : RunsState DateRow Bool × (Bool → Bool))
    (result : Except PublishError (op.Answer LockMark StoreOp.Answer))
    (s' : RunsState DateRow Bool × (Bool → Bool)) (h : takeoverMove late op s = some (result, s')) :
    Marked.exec (RunStep digestSerialization takeoverInputs) noteLock late op s result s' ∧
      InTime takeoverInputs s' := by
  cases op with
  | operation op =>
      simp only [takeoverMove, Option.ite_none_right_eq_some, Option.some.injEq] at h
      obtain ⟨⟨halive, hstarted, htime⟩, h⟩ := h
      obtain ⟨rfl, rfl⟩ := Prod.mk.inj h
      exact ⟨⟨⟨halive, hstarted, Or.inl rfl, rfl, rfl⟩, rfl⟩, takeoverInTime_sound htime⟩
  | mark mark =>
      simp only [takeoverMove, Option.ite_none_right_eq_some, Option.some.injEq] at h
      obtain ⟨htime, h⟩ := h
      obtain ⟨rfl, rfl⟩ := Prod.mk.inj h
      exact ⟨⟨rfl, rfl, rfl⟩, takeoverInTime_sound htime⟩

theorem takeoverTick_sound (event : LockEvent) (s s' : RunsState DateRow Bool × (Bool → Bool))
    (h : takeoverTick event s = some s') :
    Marked.idle RunsIdle s s' ∧ InTime takeoverInputs s' := by
  cases event with
  | time clock =>
      simp only [takeoverTick, Option.ite_none_right_eq_some, Option.some.injEq] at h
      obtain ⟨⟨hclock, htime⟩, rfl⟩ := h
      exact ⟨⟨⟨rfl, hclock, fun _ h => h⟩, rfl⟩, takeoverInTime_sound htime⟩
  | crash late =>
      simp only [takeoverTick, Option.ite_none_right_eq_some, Option.some.injEq] at h
      obtain ⟨htime, rfl⟩ := h
      refine ⟨⟨⟨rfl, le_refl _, fun i hi => ?_⟩, rfl⟩, takeoverInTime_sound htime⟩
      change (s.1.crashed i || i == late) = true
      rw [hi]
      rfl

def takeoverRunId (late : Bool) : String := if late then "b" else "a"

theorem takeoverRunId_injective : Function.Injective takeoverRunId := by
  intro late late' h
  cases late <;> cases late' <;> first | rfl | exact absurd h (by decide)

def takeoverStart : LockSystem DateRow Bool :=
  LockSystem.start digestSerialization takeoverRunId takeoverInputs ∅ 0

/-- The first run acquires the lock and crashes; once its lock has expired the second one takes it
over. -/
theorem lock_exclusive_takeover : ∃ σ : LockSystem DateRow Bool,
    TimelyInterleaving digestSerialization takeoverInputs takeoverStart σ ∧ Live σ.state true ∧
      ∀ i j, Live σ.state i → Live σ.state j → i = j := by
  obtain ⟨σ, hσ, hcheck⟩ := System.exists_of_play takeoverMove_sound takeoverTick_sound
    (show (System.play takeoverMove takeoverTick
      [.run false, .run false, .run false, .idle (.crash false), .idle (.time 5), .run true,
        .run true, .run true, .run true, .run true, .run true] takeoverStart).any (fun σ =>
          σ.state.2 true && !σ.state.1.crashed true) = true by decide +kernel)
  rw [Bool.and_eq_true, Bool.not_eq_true'] at hcheck
  refine ⟨σ, hσ, hcheck, ?_⟩
  exact (lock_exclusive digestSerialization lockEtagsDiffer_digest takeoverRunId
    takeoverRunId_injective takeoverInputs ∅ (fun _ h => nomatch h) 0 σ hσ).1

end OlympusMetrics.Publisher
