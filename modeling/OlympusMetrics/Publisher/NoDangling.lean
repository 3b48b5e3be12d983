import OlympusMetrics.Publisher.PublisherRuns

/-!
The stored manifest lists only stored objects, in every interleaving of runs in
which the lock is acquired over the shards that the run builds on.
-/

namespace OlympusMetrics.Publisher

open Discipline

variable {Row : ArtifactKind → Type}

/-! ### The invariant and the conditions between the runs -/

/-- Keys that no run ever deletes. -/
def IsPermanent (key : String) : Prop :=
  key ≠ publisherLockKey ∧ startsWith key deploymentsPrefix = false

/-- The manifest in the store lists stored objects, and not the lock. -/
structure GoodManifest (objects : Objects Row) : Prop where
  noDangling : NoDangling objects
  unlisted : ∀ manifest, objects.lookup manifestKey = some (.manifest manifest) →
    publisherLockKey ∉ manifest.artifacts

/-- Besides the stored manifest, the manifests that runs have read list stored objects as far as the
listed keys are permanent. -/
structure PublisherInv (s : PublisherState Row) : Prop where
  stored : GoodManifest s.objects
  readUnlisted : ∀ runId manifest, s.manifestRead runId = some manifest →
    publisherLockKey ∉ manifest.artifacts
  readPermanent : ∀ runId manifest, s.manifestRead runId = some manifest →
    ∀ key ∈ manifest.artifacts, IsPermanent key → key ∈ s.objects

/-- A run leaves the objects alone unless it holds the lock or puts it in place. -/
structure PublisherGuar (runId : String) (s s' : PublisherState Row) : Prop where
  clock : s'.clock = s.clock
  manifestRead : ∀ other, other ≠ runId → s'.manifestRead other = s.manifestRead other
  objects : s'.objects = s.objects ∨ holder s.objects = some runId ∨ holder s.objects = none

/-- While a run holds the lock the others leave the objects alone. -/
structure PublisherRely (runId : String) (s s' : PublisherState Row) : Prop where
  clock : s.clock ≤ s'.clock
  manifestRead : s'.manifestRead runId = s.manifestRead runId
  objects : holder s.objects = some runId → s'.objects = s.objects

theorem PublisherInv.of_objects_eq {s s' : PublisherState Row} (h : PublisherInv s)
    (hobjects : s'.objects = s.objects) (hread : s'.manifestRead = s.manifestRead) :
    PublisherInv s' where
  stored := hobjects ▸ h.stored
  readUnlisted := hread ▸ h.readUnlisted
  readPermanent := by
    rw [hobjects, hread]
    exact h.readPermanent

/-- The runs as programs that respect the lock. -/
def publisherDiscipline (json : Serialization Row) (inputs : String → PublishInput Row) :
    Discipline String (PublisherState Row) (StoreOp Row) StoreOp.Answer PublishError where
  idle := TimePasses
  exec := fun runId op s result s' =>
    StoreStep json inputs runId op s result s' ∧ ReadStillStored inputs runId op s
  inv := PublisherInv
  rely := PublisherRely
  guar := PublisherGuar
  rely_refl := fun _ _ => ⟨le_refl _, rfl, fun _ => rfl⟩
  rely_trans := by
    intro runId s t u hst htu
    refine ⟨hst.clock.trans htu.clock, htu.manifestRead.trans hst.manifestRead, ?_⟩
    intro hholder
    have ht : t.objects = s.objects := hst.objects hholder
    exact (htu.objects (ht ▸ hholder)).trans ht
  inv_idle := fun hinv hidle => hinv.of_objects_eq hidle.1 hidle.2.1
  rely_idle := fun hidle => ⟨hidle.2.2, congrFun hidle.2.1 _, fun _ => hidle.1⟩
  rely_guar := by
    intro i j s s' hne hguar
    refine ⟨hguar.clock.ge, hguar.manifestRead i hne, ?_⟩
    intro hholder
    rcases hguar.objects with hobjects | hother | hnone
    · exact hobjects
    · exact absurd (Option.some.inj (hholder.symm.trans hother)) hne
    · rw [hholder] at hnone
      exact nomatch hnone

/-! ### One operation -/

section step

variable {json : Serialization Row} {inputs : String → PublishInput Row} {runId : String}
  {op : StoreOp Row} {s s' : PublisherState Row} {result : Except PublishError op.Answer}

theorem noteManifest_of_ne {read : String → Option Manifest} {other : String}
    (h : other ≠ runId) : noteManifest runId read op result other = read other := by
  unfold noteManifest
  cases manifestAnswer op result with
  | none => rfl
  | some manifest => exact Function.update_of_ne h _ _

theorem lookup_of_manifestAnswer {objects : Objects Row} {manifest : Manifest}
    (h : manifestAnswer op (memoryStore json objects op).1 = some manifest) :
    objects.lookup manifestKey = some (.manifest manifest) := by
  cases op with
  | getJson key =>
      simp only [manifestAnswer, memoryStore] at h
      split at h
      · next hkey =>
          subst hkey
          cases hlookup : objects.lookup manifestKey with
          | none =>
              rw [hlookup] at h
              exact nomatch h
          | some value =>
              rw [hlookup] at h
              cases value with
              | manifest stored =>
                  obtain rfl := Option.some.inj h
                  rfl
              | lock lock => exact nomatch h
              | schema key => exact nomatch h
              | shard kind rows => exact nomatch h
      · exact nomatch h
  | getJsonWithMetadata key => exact nomatch h
  | putJson key value => exact nomatch h
  | putJsonIfAbsent key value => exact nomatch h
  | putJsonIfMatch key value etag => exact nomatch h
  | listKeys keyPrefix => exact nomatch h
  | deleteJson key => exact nomatch h
  | deleteJsonIfMatch key etag => exact nomatch h

/-- A manifest that a run has read was there before or is the stored one. -/
theorem StoreStep.manifestRead_eq (h : StoreStep json inputs runId op s result s')
    {other : String} {manifest : Manifest} (hread : s'.manifestRead other = some manifest) :
    s.manifestRead other = some manifest ∨
      s.objects.lookup manifestKey = some (.manifest manifest) := by
  have hresult : (memoryStore json s.objects op).1 = result := congrArg Prod.fst h.effect
  rw [h.manifestRead] at hread
  unfold noteManifest at hread
  cases hanswer : manifestAnswer op result with
  | none =>
      rw [hanswer] at hread
      exact Or.inl hread
  | some answered =>
      rw [hanswer] at hread
      by_cases hother : other = runId
      · subst hother
        dsimp only at hread
        rw [Function.update_self] at hread
        obtain rfl := Option.some.inj hread
        exact Or.inr (lookup_of_manifestAnswer (hresult ▸ hanswer))
      · dsimp only at hread
        rw [Function.update_of_ne hother] at hread
        exact Or.inl hread

/-- An operation keeps the invariant when the manifest in the store stays good and nothing
permanent is deleted. -/
theorem StoreStep.inv (h : StoreStep json inputs runId op s result s') (hinv : PublisherInv s)
    (hstored : GoodManifest s'.objects)
    (hpermanent : ∀ key, IsPermanent key → key ∈ s.objects → key ∈ s'.objects) :
    PublisherInv s' where
  stored := hstored
  readUnlisted := by
    intro other manifest hread
    rcases h.manifestRead_eq hread with hread | hstored
    · exact hinv.readUnlisted other manifest hread
    · exact hinv.stored.unlisted manifest hstored
  readPermanent := by
    intro other manifest hread key hkey hperm
    refine hpermanent key hperm ?_
    rcases h.manifestRead_eq hread with hread | hstored
    · exact hinv.readPermanent other manifest hread key hkey hperm
    · exact hinv.stored.noDangling manifest hstored key hkey

theorem StoreStep.guar (h : StoreStep json inputs runId op s result s')
    (hobjects : s'.objects = s.objects ∨ holder s.objects = some runId ∨
      holder s.objects = none) : PublisherGuar runId s s' where
  clock := h.clock
  manifestRead := fun other hother => by rw [h.manifestRead, noteManifest_of_ne hother]
  objects := hobjects

end step

/-! ### Writes to the objects -/

section objects

variable {objects : Objects Row} {key : String} {value : Artifact Row}

theorem storedLock_insert_of_ne (h : key ≠ publisherLockKey) :
    storedLock (objects.insert key value) = storedLock objects := by
  unfold storedLock
  rw [AList.lookup_insert_ne (Ne.symm h)]

theorem holder_insert_of_ne (h : key ≠ publisherLockKey) :
    holder (objects.insert key value) = holder objects := by
  unfold holder
  rw [storedLock_insert_of_ne h]

theorem holder_erase_of_ne (h : key ≠ publisherLockKey) :
    holder (objects.erase key) = holder objects := by
  unfold holder storedLock
  rw [AList.lookup_erase_ne (Ne.symm h)]

theorem holder_insert_lock (lock : PublisherLock) :
    holder (objects.insert publisherLockKey (.lock lock)) = some lock.runId := by
  unfold holder storedLock
  rw [AList.lookup_insert]
  rfl

theorem manifestKey_ne_lockKey : manifestKey ≠ publisherLockKey := by decide

theorem GoodManifest.insert (h : GoodManifest objects) (hkey : key ≠ manifestKey) :
    GoodManifest (objects.insert key value) where
  noDangling := by
    intro manifest hlookup listed hlisted
    rw [AList.lookup_insert_ne (Ne.symm hkey)] at hlookup
    exact (AList.mem_insert _).mpr (Or.inr (h.noDangling manifest hlookup listed hlisted))
  unlisted := by
    intro manifest hlookup
    rw [AList.lookup_insert_ne (Ne.symm hkey)] at hlookup
    exact h.unlisted manifest hlookup

/-- Publishing a manifest whose keys are all stored. -/
theorem GoodManifest.publish {manifest : Manifest}
    (hlisted : ∀ key ∈ manifest.artifacts, key ∈ objects)
    (hlock : publisherLockKey ∉ manifest.artifacts) :
    GoodManifest (objects.insert manifestKey (.manifest manifest)) where
  noDangling := by
    intro stored hlookup key hkey
    rw [AList.lookup_insert] at hlookup
    obtain rfl := Artifact.manifest.inj (Option.some.inj hlookup)
    exact (AList.mem_insert _).mpr (Or.inr (hlisted key hkey))
  unlisted := by
    intro stored hlookup
    rw [AList.lookup_insert] at hlookup
    obtain rfl := Artifact.manifest.inj (Option.some.inj hlookup)
    exact hlock

/-- Deleting a key that the stored manifest does not list. -/
theorem GoodManifest.erase (h : GoodManifest objects) (hkey : key ≠ manifestKey)
    (hlisted : ∀ manifest, objects.lookup manifestKey = some (.manifest manifest) →
      key ∉ manifest.artifacts) : GoodManifest (objects.erase key) where
  noDangling := by
    intro manifest hlookup listed hmem
    rw [AList.lookup_erase_ne (Ne.symm hkey)] at hlookup
    refine AList.mem_erase.mpr ⟨?_, h.noDangling manifest hlookup listed hmem⟩
    rintro rfl
    exact hlisted manifest hlookup hmem
  unlisted := by
    intro manifest hlookup
    rw [AList.lookup_erase_ne (Ne.symm hkey)] at hlookup
    exact h.unlisted manifest hlookup

end objects

/-! ### The operations of a run -/

section runs

variable {json : Serialization Row} {inputs : String → PublishInput Row} {runId : String}
  {s : PublisherState Row} {α : Type}

/-- An operation that leaves the objects alone. -/
theorem wp_unchanged {op : StoreOp Row} {post : Except PublishError op.Answer → _ → Prop}
    (hsame : ∀ objects, (memoryStore json objects op).2 = objects)
    (h : ∀ s₁, PublisherRely runId s s₁ → ∀ result s₂,
      StoreStep json inputs runId op s₁ result s₂ → s₂.objects = s₁.objects →
      ∀ t, PublisherRely runId s₂ t → post result t) :
    (publisherDiscipline json inputs).WP runId (.await op) post s := by
  refine wp_await (fun s₁ hrely hinv result s₂ hexec => ?_)
  have hobjects : s₂.objects = s₁.objects := by
    rw [← hsame s₁.objects]
    exact (congrArg Prod.snd hexec.1.effect).symm
  refine ⟨hexec.1.inv hinv (hobjects ▸ hinv.stored) (fun _ _ hkey => hobjects ▸ hkey),
    hexec.1.guar (Or.inl hobjects), fun t ht _ => h s₁ hrely result s₂ hexec.1 hobjects t ht⟩

/-- An operation under the lock. -/
theorem wp_held {op : StoreOp Row} {post : Except PublishError op.Answer → _ → Prop}
    (hheld : holder s.objects = some runId)
    (hstored : GoodManifest s.objects → GoodManifest (memoryStore json s.objects op).2)
    (hpermanent : ∀ key, IsPermanent key → key ∈ s.objects →
      key ∈ (memoryStore json s.objects op).2)
    (hpost : ∀ s₂ t, s₂.objects = (memoryStore json s.objects op).2 →
      PublisherRely runId s₂ t → post (memoryStore json s.objects op).1 t) :
    (publisherDiscipline json inputs).WP runId (.await op) post s := by
  refine wp_await (fun s₁ hrely hinv result s₂ hexec => ?_)
  have hsame : s₁.objects = s.objects := hrely.objects hheld
  have heffect := hexec.1.effect
  rw [hsame] at heffect
  have hobjects : s₂.objects = (memoryStore json s.objects op).2 :=
    (congrArg Prod.snd heffect).symm
  obtain rfl : (memoryStore json s.objects op).1 = result := congrArg Prod.fst heffect
  refine ⟨hexec.1.inv hinv ?_ ?_, hexec.1.guar (Or.inr (Or.inl (hsame ▸ hheld))),
    fun t ht _ => hpost s₂ t hobjects ht⟩
  · rw [hobjects]
    exact hstored (hsame ▸ hinv.stored)
  · intro key hkey hmem
    rw [hobjects]
    exact hpermanent key hkey (hsame ▸ hmem)

/-- An object that is not found is answered by `none`, any other error is passed on. -/
theorem wp_orNotFound {p : PublisherProcess Row α} {post : Except PublishError (Option α) → _ → Prop}
    (h : (publisherDiscipline json inputs).WP runId p (fun result t => match result with
      | .ok value => ∀ t', PublisherRely runId t t' → post (.ok (some value)) t'
      | .error (.artifactNotFound _) => ∀ t', PublisherRely runId t t' → post (.ok none) t'
      | .error error => ∀ t', PublisherRely runId t t' → post (.error error) t') s) :
    (publisherDiscipline json inputs).WP runId (orNotFound p) post s := by
  refine wp_tryCatch (wp_bind (h.weaken ?_))
  rintro (error | value) t ht
  · cases error with
    | artifactNotFound key => exact fun t' hrely _ => ht t' hrely
    | metricsNotDataReady => exact fun t' hrely _ => ht t' hrely
    | error message => exact fun t' hrely _ => ht t' hrely
  · exact fun t' hrely _ => ht t' hrely

theorem wp_getExistingManifest :
    (publisherDiscipline json inputs).WP runId getExistingManifest (fun result t =>
      ∀ manifest, result = .ok (some manifest) → t.manifestRead runId = some manifest) s := by
  refine wp_orNotFound (wp_bind (wp_unchanged ?_ ?_))
  · intro objects
    simp only [memoryStore]
    split <;> rfl
  · intro s₁ _ result s₂ hstep _ t ht
    rcases result with error | value
    · cases error with
      | artifactNotFound key => exact fun t' _ manifest h => nomatch h
      | metricsNotDataReady => exact fun t' _ manifest h => nomatch h
      | error message => exact fun t' _ manifest h => nomatch h
    · cases value with
      | manifest read =>
          intro t₁ ht₁ _ t' ht' manifest hmanifest
          obtain rfl := Option.some.inj (Except.ok.inj hmanifest)
          have hread : s₂.manifestRead runId = some read := by
            rw [hstep.manifestRead]
            exact Function.update_self runId (some read) s₁.manifestRead
          rw [ht'.manifestRead, ht₁.manifestRead, ht.manifestRead, hread]
      | lock lock => exact fun t₁ _ _ t' _ manifest h => nomatch h
      | schema key => exact fun t₁ _ _ t' _ manifest h => nomatch h
      | shard kind rows => exact fun t₁ _ _ t' _ manifest h => nomatch h

/-- A lock that a run reads has not expired for it, and stays when it is the run's own. -/
theorem wp_readPublisherLock :
    (publisherDiscipline json inputs).WP runId readPublisherLock (fun result t =>
      ∀ held etag, result = .ok (some (held, etag)) →
        (inputs runId).now < held.expiresAt ∧
          (held.runId = runId → holder t.objects = some runId)) s := by
  refine wp_orNotFound (wp_bind (wp_unchanged ?_ ?_))
  · intro objects
    simp only [memoryStore]
    split <;> rfl
  · intro s₁ _ result s₂ hstep hobjects t ht
    rcases result with error | ⟨value, etag⟩
    · cases error with
      | artifactNotFound key => exact fun t' _ held etag h => nomatch h
      | metricsNotDataReady => exact fun t' _ held etag h => nomatch h
      | error message => exact fun t' _ held etag h => nomatch h
    · have hlookup : s₁.objects.lookup publisherLockKey = some value := by
        have heffect := congrArg Prod.fst hstep.effect
        simp only [memoryStore] at heffect
        split at heffect
        · exact nomatch heffect
        · next stored hstored =>
            rw [hstored]
            exact congrArg (fun pair => some pair.1) (Except.ok.inj heffect)
      cases value with
      | lock lock =>
          intro t₁ ht₁ _ t' ht' held etag' hresult
          obtain ⟨rfl, -⟩ := Prod.mk.inj (Option.some.inj (Except.ok.inj hresult))
          have hstored : storedLock s₁.objects = some lock := by
            unfold storedLock
            rw [hlookup]
          refine ⟨lt_of_le_of_lt hstep.started (hstep.unexpired lock hstored), fun hown => ?_⟩
          have hholder : holder s₂.objects = some runId := by
            rw [hobjects]
            unfold holder
            rw [hstored, ← hown]
            rfl
          have hrely : PublisherRely runId s₂ t' :=
            (publisherDiscipline json inputs).rely_trans
              ((publisherDiscipline json inputs).rely_trans ht ht₁) ht'
          rw [hrely.objects hholder]
          exact hholder
      | manifest manifest => exact fun t₁ _ _ t' _ held etag h => nomatch h
      | schema key => exact fun t₁ _ _ t' _ held etag h => nomatch h
      | shard kind rows => exact fun t₁ _ _ t' _ held etag h => nomatch h

theorem GoodManifest.erase_lock {objects : Objects Row} (h : GoodManifest objects) :
    GoodManifest (objects.erase publisherLockKey) :=
  h.erase (Ne.symm manifestKey_ne_lockKey) h.unlisted

theorem mem_erase_lock {objects : Objects Row} {key : String} (hkey : IsPermanent key)
    (h : key ∈ objects) : key ∈ objects.erase publisherLockKey :=
  AList.mem_erase.mpr ⟨hkey.1, h⟩

/-- The release only ever deletes the run's own lock. -/
theorem wp_releasePublisherLock :
    (publisherDiscipline json inputs).WP runId (releasePublisherLock runId) (fun _ _ => True) s := by
  unfold releasePublisherLock
  refine wp_bind (wp_readPublisherLock.weaken ?_)
  rintro (error | existing) t hread
  · exact trivial
  · cases existing with
    | none => exact fun _ _ _ => trivial
    | some existing =>
        obtain ⟨held, etag⟩ := existing
        obtain ⟨-, hown⟩ := hread held etag rfl
        change (publisherDiscipline json inputs).WP runId (if held.runId = runId then _ else _) _ t
        split
        · next hrun =>
            cases etag with
            | none =>
                exact wp_held (hown hrun) (fun h => h.erase_lock) (fun _ => mem_erase_lock)
                  (fun _ _ _ _ => trivial)
            | some etag =>
                refine wp_bind (wp_held (hown hrun) ?_ ?_ ?_)
                · intro h
                  simp only [memoryStore]
                  split
                  · exact h
                  · split
                    · exact h.erase_lock
                    · exact h
                · intro key hkey hmem
                  simp only [memoryStore]
                  split
                  · exact hmem
                  · split
                    · exact mem_erase_lock hkey hmem
                    · exact hmem
                · intro s₂ t' _ _
                  cases (memoryStore json t.objects (.deleteJsonIfMatch publisherLockKey etag)).1 with
                  | error error => exact trivial
                  | ok deleted => exact fun _ _ _ => trivial
        · exact fun _ _ _ => trivial

/-- The keys that a run of a deployment keeps in its manifest. -/
def IsKept (deploymentId : DeploymentId) (key : String) : Prop :=
  startsWith key deploymentsPrefix = false ∨ startsWith key (deploymentPrefix deploymentId) = true

/-- The kept keys of an artifacts map are stored, and the lock is not among them. -/
structure Kept (deploymentId : DeploymentId) (artifacts : JsonRecord ArtifactEntry)
    (objects : Objects Row) : Prop where
  stored : ∀ key ∈ artifacts, IsKept deploymentId key → key ∈ objects
  unlisted : publisherLockKey ∉ artifacts

/-- A run that acquires the lock finds what it builds on in the store. -/
theorem wp_acquirePublisherLock {deploymentId : DeploymentId}
    (hid : parseDeploymentId (inputs runId).deploymentId = .ok deploymentId)
    {existingManifest : Option Manifest}
    (hread : ∀ manifest, existingManifest = some manifest →
      s.manifestRead runId = some manifest) {operation : LockOperation} {ttlMs : ℕ} :
    (publisherDiscipline json inputs).WP runId
      (acquirePublisherLock runId operation (inputs runId).now ttlMs) (fun result t =>
        ∀ outcome, result = .ok outcome → outcome.acquired = true →
          holder t.objects = some runId ∧
            Kept deploymentId (existingArtifacts existingManifest) t.objects) s := by
  unfold acquirePublisherLock
  refine wp_bind (wp_ofExcept (fun s₀ hs₀ _ => ?_))
  unfold buildPublisherLock
  split
  swap
  · exact fun outcome h => nomatch h
  refine wp_bind (wp_await (fun s₁ hs₁ hinv result s₂ hexec => ?_))
  have hmanifest : s₁.manifestRead runId = s.manifestRead runId :=
    hs₁.manifestRead.trans hs₀.manifestRead
  have heffect := hexec.1.effect
  cases hlookup : s₁.objects.lookup publisherLockKey with
  | none =>
      simp only [memoryStore, hlookup] at heffect
      obtain ⟨rfl, hobjects⟩ := Prod.mk.inj heffect
      have hfree : holder s₁.objects = none := by
        unfold holder storedLock
        rw [hlookup]
        rfl
      have hgood : GoodManifest s₂.objects := by
        rw [← hobjects]
        exact hinv.stored.insert (Ne.symm manifestKey_ne_lockKey)
      have hgrows : ∀ key, key ∈ s₁.objects → key ∈ s₂.objects := by
        intro key hkey
        rw [← hobjects]
        exact (AList.mem_insert _).mpr (Or.inr hkey)
      refine ⟨hexec.1.inv hinv hgood (fun key _ => hgrows key),
        hexec.1.guar (Or.inr (Or.inr hfree)), fun t ht _ => ?_⟩
      have hheld : holder s₂.objects = some runId := by
        rw [← hobjects, holder_insert_lock]
      intro t' ht' _ outcome houtcome _
      obtain rfl := Except.ok.inj houtcome
      have hsame : t'.objects = s₂.objects :=
        ((publisherDiscipline json inputs).rely_trans ht ht').objects hheld
      rw [hsame]
      refine ⟨hheld, ?_, ?_⟩
      · intro key hkey hkept
        cases existingManifest with
        | none => exact absurd hkey (AList.notMem_empty key)
        | some manifest =>
            have hown := hmanifest.trans (hread manifest rfl)
            refine hgrows key ?_
            rcases hkept with hpermanent | hbelow
            · refine hinv.readPermanent runId manifest hown key hkey ⟨?_, hpermanent⟩
              rintro rfl
              exact hinv.readUnlisted runId manifest hown hkey
            · exact hexec.2 _ rfl hlookup manifest hown deploymentId hid key hkey hbelow
      · cases existingManifest with
        | none => exact AList.notMem_empty publisherLockKey
        | some manifest =>
            exact hinv.readUnlisted runId manifest (hmanifest.trans (hread manifest rfl))
  | some stored =>
      simp only [memoryStore, hlookup] at heffect
      obtain ⟨rfl, hobjects⟩ := Prod.mk.inj heffect
      refine ⟨hexec.1.inv hinv (hobjects ▸ hinv.stored) (fun _ _ hkey => hobjects ▸ hkey),
        hexec.1.guar (Or.inl hobjects.symm), fun t ht _ => ?_⟩
      refine wp_bind (wp_readPublisherLock.weaken ?_)
      rintro (error | existing) t₁ hlock
      · exact fun outcome h => nomatch h
      · cases existing with
        | none =>
            intro t₂ _ _ outcome houtcome hacquired
            obtain rfl := Except.ok.inj houtcome
            exact nomatch hacquired
        | some existing =>
            obtain ⟨held, etag⟩ := existing
            -- The stored lock has not expired, so the takeover is never tried.
            obtain ⟨hfresh, -⟩ := hlock held etag rfl
            change (publisherDiscipline json inputs).WP runId
              (if (inputs runId).now < held.expiresAt then _ else _) _ t₁
            rw [if_pos hfresh]
            intro t₂ _ _ outcome houtcome hacquired
            obtain rfl := Except.ok.inj houtcome
            exact nomatch hacquired

theorem Kept.insert {deploymentId : DeploymentId} {artifacts : JsonRecord ArtifactEntry}
    {objects : Objects Row} (h : Kept deploymentId artifacts objects) {key : String}
    (hkey : key ≠ publisherLockKey) (entry : ArtifactEntry) (value : Artifact Row) :
    Kept deploymentId (artifacts.insert key entry) (objects.insert key value) where
  stored := by
    intro listed hlisted hkept
    refine (AList.mem_insert _).mpr ?_
    rcases (AList.mem_insert _).mp hlisted with rfl | hlisted
    · exact Or.inl rfl
    · exact Or.inr (h.stored listed hlisted hkept)
  unlisted := by
    intro hmem
    rcases (AList.mem_insert _).mp hmem with heq | hmem
    · exact hkey heq.symm
    · exact h.unlisted hmem

theorem wp_writeArtifacts {deploymentId : DeploymentId}
    {pending : List (PendingArtifact Row)}
    (hpending : ∀ p ∈ pending, p.key ≠ publisherLockKey ∧ p.key ≠ manifestKey) {written : Written}
    (hheld : holder s.objects = some runId)
    (hkept : Kept deploymentId written.artifacts s.objects) :
    (publisherDiscipline json inputs).WP runId
      (Process.forEach (writeArtifact json) pending written) (fun result t =>
        ∀ written, result = .ok written → holder t.objects = some runId ∧
          Kept deploymentId written.artifacts t.objects) s := by
  refine wp_forEach (fun written rest t => holder t.objects = some runId ∧
    Kept deploymentId written.artifacts t.objects ∧
    ∀ p ∈ rest, p.key ≠ publisherLockKey ∧ p.key ≠ manifestKey) ?_ ?_ ?_ ⟨hheld, hkept, hpending⟩
  · intro acc rest t t' h hrely
    rw [hrely.objects h.1]
    exact h
  · rintro acc p rest t ⟨hheld, hkept, hrest⟩
    obtain ⟨hlock, hmanifest⟩ := hrest p List.mem_cons_self
    unfold writeArtifact
    refine wp_bind (wp_held hheld (fun h => h.insert hmanifest) ?_ ?_)
    · exact fun key _ hkey => (AList.mem_insert _).mpr (Or.inr hkey)
    · intro s₂ t' hobjects hrely t'' hrely' _
      have hheld₂ : holder s₂.objects = some runId := by
        rw [hobjects]
        exact (holder_insert_of_ne hlock).trans hheld
      have hsame : t''.objects = t.objects.insert p.key p.value := by
        rw [((publisherDiscipline json inputs).rely_trans hrely hrely').objects hheld₂, hobjects]
        rfl
      refine ⟨?_, ?_, fun q hq => hrest q (List.mem_cons_of_mem _ hq)⟩
      · rw [hsame]
        exact (holder_insert_of_ne hlock).trans hheld
      · rw [hsame]
        exact hkept.insert hlock _ _
  · rintro acc t ⟨hheld, hkept, -⟩ _ written hwritten
    obtain rfl := Except.ok.inj hwritten
    exact ⟨hheld, hkept⟩

/-- The keys of a run's own writes lie outside the lock and the manifest. -/
theorem mem_pendingArtifacts [∀ kind, Dated (Row kind)] {deploymentId : DeploymentId}
    {months : List String} {rows : (kind : ArtifactKind) → List (Row kind)}
    {p : PendingArtifact Row}
    (h : p ∈ schemaArtifacts ++ shardArtifacts deploymentId months rows) :
    p.key ≠ publisherLockKey ∧ p.key ≠ manifestKey := by
  rcases List.mem_append.mp h with h | h
  · obtain ⟨key, hkey, rfl⟩ := List.mem_map.mp h
    have hall : ∀ key ∈ schemaKeys, key ≠ publisherLockKey ∧ key ≠ manifestKey := by decide
    exact hall key hkey
  · obtain ⟨month, -, h⟩ := List.mem_flatMap.mp h
    obtain ⟨kind, -, rfl⟩ := List.mem_map.mp h
    have hbelow : startsWith (dataKey deploymentId kind month) deploymentsPrefix = true := by
      simp only [startsWith, dataKey, shardPrefix, deploymentPrefix, String.toList_append,
        List.append_assoc, List.isPrefixOf_iff_prefix]
      exact List.prefix_append _ _
    constructor
    · intro heq
      dsimp only at heq
      rw [heq] at hbelow
      exact absurd hbelow (by decide)
    · intro heq
      dsimp only at heq
      rw [heq] at hbelow
      exact absurd hbelow (by decide)

/-- The cleanup deletes only keys that the stored manifest does not list. -/
theorem wp_deleteStale {deploymentId : DeploymentId} {manifest : Manifest}
    (hheld : holder s.objects = some runId)
    (hstored : s.objects.lookup manifestKey = some (.manifest manifest))
    (hkept : ∀ key ∈ manifest.artifacts, IsKept deploymentId key) {stale : List String}
    (hstale : ∀ key ∈ stale, startsWith key deploymentsPrefix = true ∧
      startsWith key (deploymentPrefix deploymentId) = false) :
    (publisherDiscipline json inputs).WP runId
      (Process.forEach (fun _ key => deleteJson key) stale ()) (fun _ _ => True) s := by
  refine wp_forEach (fun _ rest t => holder t.objects = some runId ∧
    t.objects.lookup manifestKey = some (.manifest manifest) ∧
    ∀ key ∈ rest, startsWith key deploymentsPrefix = true ∧
      startsWith key (deploymentPrefix deploymentId) = false) ?_ ?_ (fun _ _ => trivial)
    ⟨hheld, hstored, hstale⟩
  · intro acc rest t t' h hrely
    rw [hrely.objects h.1]
    exact h
  · rintro acc key rest t ⟨hheld, hstored, hrest⟩
    obtain ⟨hdeployment, hother⟩ := hrest key List.mem_cons_self
    have hmanifest : key ≠ manifestKey := by
      rintro rfl
      exact absurd hdeployment (by decide)
    have hlock : key ≠ publisherLockKey := by
      rintro rfl
      exact absurd hdeployment (by decide)
    refine wp_held hheld (fun h => h.erase hmanifest ?_) ?_ ?_
    · intro listed hlookup hmem
      obtain rfl := Artifact.manifest.inj (Option.some.inj (hstored.symm.trans hlookup))
      rcases hkept key hmem with hkeep | hkeep
      · rw [hkeep] at hdeployment
        exact nomatch hdeployment
      · rw [hkeep] at hother
        exact nomatch hother
    · rintro other ⟨-, hpermanent⟩ hmem
      refine AList.mem_erase.mpr ⟨?_, hmem⟩
      rintro rfl
      rw [hpermanent] at hdeployment
      exact nomatch hdeployment
    · intro s₃ t' hobjects hrely
      have hheld₃ : holder s₃.objects = some runId := by
        rw [hobjects]
        exact (holder_erase_of_ne hlock).trans hheld
      have hsame : t'.objects = t.objects.erase key := by
        rw [hrely.objects hheld₃, hobjects]
        rfl
      refine ⟨?_, ?_, fun other hother => hrest other (List.mem_cons_of_mem _ hother)⟩
      · rw [hsame]
        exact (holder_erase_of_ne hlock).trans hheld
      · rw [hsame]
        exact (AList.lookup_erase_ne (Ne.symm hmanifest)).trans hstored

theorem wp_cleanup {deploymentId : DeploymentId} {manifest : Manifest}
    (hheld : holder s.objects = some runId)
    (hstored : s.objects.lookup manifestKey = some (.manifest manifest))
    (hkept : ∀ key ∈ manifest.artifacts, IsKept deploymentId key) :
    (publisherDiscipline json inputs).WP runId
      (cleanupHistoricalDeploymentArtifacts deploymentId) (fun _ _ => True) s := by
  unfold cleanupHistoricalDeploymentArtifacts
  refine wp_bind (wp_held hheld (fun h => h) (fun _ _ hkey => hkey) ?_)
  intro s₂ t hobjects hrely
  have hsame : t.objects = s.objects := by
    have hheld₂ : holder s₂.objects = some runId := by
      rw [hobjects]
      exact hheld
    rw [hrely.objects hheld₂, hobjects]
    rfl
  refine wp_bind ((wp_deleteStale (hsame ▸ hheld) (hsame ▸ hstored) hkept ?_).weaken ?_)
  · intro key hkey
    obtain ⟨hkey, hother⟩ := List.mem_filter.mp hkey
    rw [List.mem_insertionSort] at hkey
    exact ⟨(List.mem_filter.mp hkey).2, Bool.not_eq_true' _ ▸ hother⟩
  · rintro (error | _) t _
    · exact trivial
    · exact fun _ _ _ => trivial

theorem mem_of_mem_filterKeys {V : Type} {keep : String → Bool} {record : JsonRecord V}
    {key : String} (h : key ∈ filterKeys keep record) : key ∈ record ∧ keep key = true := by
  obtain ⟨entry, hentry, rfl⟩ := List.mem_map.mp (AList.mem_keys.mp h)
  obtain ⟨hentry, hkeep⟩ := List.mem_filter.mp hentry
  exact ⟨AList.mem_keys.mpr (List.mem_map.mpr ⟨entry, hentry, rfl⟩), hkeep⟩

theorem exists_of_bind_eq_ok {ε β : Type} {result : Except ε α} {next : α → Except ε β} {y : β}
    (h : (result >>= next) = .ok y) : ∃ x, result = .ok x ∧ next x = .ok y := by
  cases result with
  | error error => exact nomatch h
  | ok x => exact ⟨x, rfl, h⟩

theorem orError_eq_ok {result : Except String α} {x : α} (h : orError result = .ok x) :
    result = .ok x := by
  cases result with
  | error message => exact nomatch h
  | ok y => exact congrArg _ (Except.ok.inj h)

theorem mem_pruneArtifactsOutsidePublishedBounds {artifacts pruned : JsonRecord ArtifactEntry}
    {earliestDate latestDate : String}
    (h : pruneArtifactsOutsidePublishedBounds artifacts earliestDate latestDate = .ok pruned)
    {key : String} (hkey : key ∈ pruned) : key ∈ artifacts := by
  obtain ⟨months, -, hpruned⟩ := exists_of_bind_eq_ok h
  obtain rfl := Except.ok.inj hpruned
  exact (mem_of_mem_filterKeys hkey).1

/-- A new manifest lists kept keys of the artifacts that the run has gathered. -/
theorem mem_nextManifest {input : PublishInput Row} {deploymentId : DeploymentId}
    {existingManifest : Option Manifest} {progress : IndexingProgress} {bounds : MetricsBounds}
    {publicStartDate : String} {range : DateRange} {artifacts : JsonRecord ArtifactEntry}
    {manifest : Manifest}
    (h : nextManifest input deploymentId existingManifest progress bounds publicStartDate range
      artifacts = .ok manifest) {key : String} (hkey : key ∈ manifest.artifacts) :
    key ∈ artifacts ∧ IsKept deploymentId key := by
  obtain ⟨pruned, hpruned, hmanifest⟩ := exists_of_bind_eq_ok h
  obtain rfl := Except.ok.inj hmanifest
  have hpruned := mem_pruneArtifactsOutsidePublishedBounds (orError_eq_ok hpruned) hkey
  obtain ⟨hkey, hkeep⟩ := mem_of_mem_filterKeys hpruned
  refine ⟨hkey, ?_⟩
  rw [Bool.or_eq_true, Bool.not_eq_true'] at hkeep
  exact hkeep

theorem wp_writePublication [∀ kind, Dated (Row kind)] {input : PublishInput Row}
    {deploymentId : DeploymentId} {existingManifest : Option Manifest}
    {progress : IndexingProgress} {bounds : MetricsBounds} {publicStartDate : String}
    {range : DateRange} {rows : (kind : ArtifactKind) → List (Row kind)}
    (hheld : holder s.objects = some runId)
    (hkept : Kept deploymentId (existingArtifacts existingManifest) s.objects) :
    (publisherDiscipline json inputs).WP runId
      (writePublication json runId input deploymentId existingManifest progress bounds
        publicStartDate range rows) (fun _ _ => True) s := by
  unfold writePublication
  refine wp_ofExcept_bind (fun _ _ => fun _ _ _ => trivial) (fun months _ => ?_)
  refine wp_bind ((wp_writeArtifacts (fun p hp => mem_pendingArtifacts hp) hheld hkept).weaken ?_)
  rintro (error | written) t hwritten
  · exact trivial
  · obtain ⟨hheld, hkept⟩ := hwritten written rfl
    rw [then_ok]
    generalize hnext : nextManifest input deploymentId existingManifest progress bounds
      publicStartDate range written.artifacts = next
    refine wp_ofExcept_bind (fun _ _ => fun _ _ _ => trivial) (fun manifest hmanifest => ?_)
    have hmem : ∀ key ∈ manifest.artifacts, key ∈ written.artifacts ∧ IsKept deploymentId key :=
      fun key hkey => mem_nextManifest (hnext.trans hmanifest) hkey
    refine wp_bind (wp_held hheld (fun _ => ?_) ?_ ?_)
    · refine GoodManifest.publish (fun key hkey => ?_) (fun hlock => ?_)
      · exact hkept.stored key (hmem key hkey).1 (hmem key hkey).2
      · exact hkept.unlisted (hmem _ hlock).1
    · exact fun key _ hkey => (AList.mem_insert _).mpr (Or.inr hkey)
    · intro s₂ t₂ hobjects hrely
      have hheld₂ : holder s₂.objects = some runId := by
        rw [hobjects]
        exact (holder_insert_of_ne manifestKey_ne_lockKey).trans hheld
      have hsame : t₂.objects = s₂.objects := hrely.objects hheld₂
      have hstored : t₂.objects.lookup manifestKey = some (.manifest manifest) := by
        rw [hsame, hobjects]
        exact AList.lookup_insert t.objects
      refine wp_bind ((wp_cleanup (hsame ▸ hheld₂) hstored
        (fun key hkey => (hmem key hkey).2)).weaken ?_)
      rintro (error | deleted) t₃ _
      · exact trivial
      · exact fun _ _ _ => trivial

theorem wp_publishUnderLock [∀ kind, Dated (Row kind)] {input : PublishInput Row}
    {deploymentId : DeploymentId} {existingManifest : Option Manifest}
    (hheld : holder s.objects = some runId)
    (hkept : Kept deploymentId (existingArtifacts existingManifest) s.objects) :
    (publisherDiscipline json inputs).WP runId
      (publishUnderLock json runId input deploymentId existingManifest) (fun _ _ => True) s := by
  unfold publishUnderLock
  refine wp_ofExcept_bind (fun _ _ => fun _ _ _ => trivial) (fun progress _ => ?_)
  dsimp only
  split
  · exact fun _ _ _ => trivial
  · exact fun _ _ _ => trivial
  · refine wp_ofExcept_bind (fun _ _ => fun _ _ _ => trivial) (fun fresh _ => ?_)
    split
    · exact fun _ _ _ => trivial
    · refine wp_ofExcept_bind (fun _ _ => fun _ _ _ => trivial) (fun range _ => ?_)
      refine wp_ofExcept_bind (fun _ _ => fun _ _ _ => trivial) (fun rows _ => ?_)
      refine wp_ofExcept_bind (fun _ _ => fun _ _ _ => trivial) (fun missing _ => ?_)
      split
      · exact fun _ _ _ => trivial
      · exact wp_writePublication hheld hkept

theorem wp_publishAgainst [∀ kind, Dated (Row kind)] {deploymentId : DeploymentId}
    (hid : parseDeploymentId (inputs runId).deploymentId = .ok deploymentId)
    {existingManifest : Option Manifest} {ttlMs : ℕ}
    (hread : ∀ manifest, existingManifest = some manifest →
      s.manifestRead runId = some manifest) :
    (publisherDiscipline json inputs).WP runId
      (publishAgainst json runId (inputs runId) deploymentId ttlMs existingManifest)
      (fun _ _ => True) s := by
  unfold publishAgainst
  refine wp_bind ((wp_acquirePublisherLock hid hread).weaken ?_)
  rintro (error | outcome) t houtcome
  · exact trivial
  · change (publisherDiscipline json inputs).WP runId (if (!outcome.acquired) = true then _ else _)
      _ t
    split
    · exact fun _ _ _ => trivial
    · next hacquired =>
        rw [Bool.not_eq_true', Bool.not_eq_false] at hacquired
        obtain ⟨hheld, hkept⟩ := houtcome outcome rfl hacquired
        refine wp_tryFinally ((wp_publishUnderLock hheld hkept).weaken ?_)
        intro result t₁ _
        refine wp_releasePublisherLock.weaken ?_
        rintro (error | _) t₂ _
        · exact trivial
        · exact fun _ _ _ => trivial

/-- Every run that reads the manifest from the store respects the lock. -/
theorem wp_publishMetricsArtifacts [∀ kind, Dated (Row kind)]
    (hmanifest : (inputs runId).manifest = none) :
    (publisherDiscipline json inputs).WP runId
      (publishMetricsArtifacts json runId (inputs runId)) (fun _ _ => True) s := by
  unfold publishMetricsArtifacts
  refine wp_ofExcept_bind (fun _ _ => fun _ _ _ => trivial) (fun deploymentId hid => ?_)
  dsimp only
  split
  · exact fun _ _ _ => trivial
  · rw [hmanifest]
    refine wp_bind (wp_getExistingManifest.weaken ?_)
    rintro (error | existing) t hread
    · exact trivial
    · refine wp_publishAgainst hid (fun manifest h => hread manifest ?_)
      rw [h]

end runs

/-- In every interleaving of runs in which each acquisition of the lock finds the shards that the
run builds on, the stored manifest lists only stored objects, in every state. -/
theorem noDangling_of_freshInterleaving [∀ kind, Dated (Row kind)] (json : Serialization Row)
    (inputs : String → PublishInput Row) (hmanifest : ∀ runId, (inputs runId).manifest = none)
    (objects : Objects Row) (hstored : GoodManifest objects) (clock : ℕ)
    (σ : PublisherSystem Row)
    (h : FreshInterleaving json inputs (PublisherSystem.start json inputs objects clock) σ) :
    NoDangling σ.state.objects := by
  have hinv : PublisherInv (PublisherSystem.start json inputs objects clock).state :=
    ⟨hstored, fun _ _ hread => (nomatch hread), fun _ _ hread => (nomatch hread)⟩
  have hwp (runId : String) : (publisherDiscipline json inputs).WP runId
      (publishMetricsArtifacts json runId (inputs runId)) (fun _ _ => True)
      (PublisherSystem.start json inputs objects clock).state :=
    wp_publishMetricsArtifacts (hmanifest runId)
  have hruns := reaches_inv (d := publisherDiscipline json inputs) hinv hwp h
  exact hruns.1.stored.noDangling

/-! ### A handover between two deployments -/

/-- Rows that are only their date. -/
abbrev DateRow : ArtifactKind → Type := fun _ => String

instance (kind : ArtifactKind) : Dated (DateRow kind) := ⟨fun date => date⟩

/-- A source with a metric for every day until its latest date. -/
def dailySource (latestDate : String) : MetricsSource DateRow where
  fetchLatestIndexingProgress := .ok []
  fetchBounds := fun _ => .ok { earliestDate := "2024-01-31", latestDate := latestDate }
  fetchRows := fun kind range =>
    match kind with
    | .metrics => orError (datesOfRange range.start range.stop)
    | .treasuryAssets | .ohmSupply => .ok []

/-- The first of February 2024 and the day after. -/
def february (day : ℕ) : ℕ := 1706745600000 + 86400000 * (day - 1)

/-- Run `first` publishes January on the first of February, and the others February on the day
after; run `b` has the deployment `d2`. -/
def handoverInputs (runId : String) : PublishInput DateRow where
  publicStartDate := some "2024-01-31"
  deploymentId := if runId = "b" then "d2" else "d1"
  startDate := if runId = "first" then none else some "2024-02-01"
  source := dailySource (if runId = "first" then "2024-01-31" else "2024-02-01")
  now := if runId = "first" then february 1 else february 2

/-- Hashes that tell the locks of different runs apart. -/
def plainSerialization : Serialization DateRow where
  sha256 := fun value =>
    match value with
    | .lock lock => lock.runId
    | _ => ""
  byteLength := fun _ => 0

def handoverStart : PublisherSystem DateRow :=
  PublisherSystem.start plainSerialization handoverInputs ∅ 0

/-- Run `a` publishes after the first run, and has the cleanup still to do. -/
theorem noDangling_secondRun : ∃ σ : PublisherSystem DateRow,
    FreshInterleaving plainSerialization handoverInputs handoverStart σ ∧
      (σ.state.manifestRead "a").isSome = true ∧ NoDangling σ.state.objects := by
  obtain ⟨σ, hσ, hread⟩ := PublisherSystem.exists_of_runSchedule
    (show (PublisherSystem.runSchedule plainSerialization handoverInputs
      (readStillStored handoverInputs) [("first", february 1, 13), ("a", february 2, 10)]
      handoverStart).any (fun σ => (σ.state.manifestRead "a").isSome) = true by decide +kernel)
  refine ⟨σ, hσ.fresh, hread, ?_⟩
  refine noDangling_of_freshInterleaving plainSerialization handoverInputs (fun _ => rfl) ∅ ?_ 0 σ
    hσ.fresh
  exact ⟨fun _ h => (nomatch h), fun _ h => (nomatch h)⟩

/-- A listed key that is not stored. -/
def danglingKey (objects : Objects DateRow) : Option String :=
  match objects.lookup manifestKey with
  | some (.manifest manifest) =>
      manifest.artifacts.keys.find? (fun key => !objects.keys.contains key)
  | _ => none

theorem not_noDangling_of_danglingKey {objects : Objects DateRow} {key : String}
    (h : danglingKey objects = some key) : ¬ NoDangling objects := by
  intro hgood
  unfold danglingKey at h
  split at h
  · next manifest hlookup =>
      have hlisted := List.mem_of_find?_eq_some h
      have hmissing := List.find?_some h
      have hstored := hgood manifest hlookup key (AList.mem_keys.mpr hlisted)
      rw [List.contains_iff_mem.mpr (AList.mem_keys.mp hstored)] at hmissing
      exact nomatch hmissing
  · exact nomatch h

/-- Run `a` reads the manifest of its deployment, run `b` hands over to the other one and deletes
the shards, and then `a` publishes again: the shards of January are listed and not stored. -/
theorem handover_dangling : ∃ σ : PublisherSystem DateRow,
    Interleaving plainSerialization handoverInputs handoverStart σ ∧
      danglingKey σ.state.objects = some "v2/deployments/d1/ohm-supply/daily/2024-01.json" ∧
      ¬ NoDangling σ.state.objects := by
  obtain ⟨σ, hσ, hkey⟩ := PublisherSystem.exists_of_runSchedule
    (show (PublisherSystem.runSchedule plainSerialization handoverInputs (fun _ _ _ => true)
      [("first", february 1, 13), ("a", february 2, 1), ("b", february 2, 16),
        ("a", february 2, 9)] handoverStart).any (fun σ => danglingKey σ.state.objects ==
          some "v2/deployments/d1/ohm-supply/daily/2024-01.json") = true by decide +kernel)
  have hdangling := eq_of_beq hkey
  exact ⟨σ, hσ.interleaving, hdangling, not_noDangling_of_danglingKey hdangling⟩

end OlympusMetrics.Publisher
