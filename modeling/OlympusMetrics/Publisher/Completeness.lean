import OlympusMetrics.Publisher.History

/-!
Every month that a manifest publishes has its shards listed, whatever runs have
stopped where.

A run writes the months from its start to the latest date of the source. The
months before its start are those that the stored manifest publishes already.
-/

namespace OlympusMetrics.Publisher

open Process SortedRows

/-! ### Dates -/

theorem maxDate_eq_max (a b : String) : maxDate a b = max a b := by
  unfold maxDate
  rcases lt_or_ge b a with h | h
  · rw [if_pos h, max_eq_left h.le]
  · rw [if_neg (not_lt.mpr h), max_eq_right h]

theorem minDate_eq_min (a b : String) : minDate a b = min a b := by
  unfold minDate
  rcases lt_or_ge a b with h | h
  · rw [if_pos h, min_eq_left h.le]
  · rw [if_neg (not_lt.mpr h), min_eq_right h]

theorem isDate_maxDate {a b : String} (ha : IsDate a) (hb : IsDate b) : IsDate (maxDate a b) := by
  unfold maxDate
  split
  · exact ha
  · exact hb

/-- The month that a date begins with. -/
def monthOfDate (date : String) : String := String.ofList (date.toList.take 7)

theorem IsDate.monthOfDate_eq {date : String} (h : IsDate date) :
    monthOfDate date = monthKey (monthOf (dayOf date)) := by
  have htake := take_dateText h.inCalendar
  rw [h.dateText_dayOf] at htake
  unfold monthOfDate
  rw [htake, String.ofList_toList]

/-- What a range is resolved to. -/
theorem resolveDateRange_eq_ok {start latestDate : String} {stop : Option String}
    {maxRangeDays : Option ℕ} {enforceMaxRange : Bool} {range : DateRange}
    (h : resolveDateRange start stop latestDate maxRangeDays enforceMaxRange = .ok range) :
    range.start = start ∧ range.stop = stop.getD latestDate ∧
      dayOf range.start ≤ dayOf range.stop := by
  unfold resolveDateRange at h
  obtain ⟨startDate, hstart, h⟩ := exists_of_bind_eq_ok h
  obtain ⟨stopDate, hstop, h⟩ := exists_of_bind_eq_ok h
  split at h
  · exact nomatch h
  · next hle =>
      have hends : range.start = start ∧ range.stop = stop.getD latestDate := by
        dsimp only at h
        split at h
        · split at h
          · exact nomatch h
          · rw [← Except.ok.inj h]
            exact ⟨rfl, rfl⟩
        · rw [← Except.ok.inj h]
          exact ⟨rfl, rfl⟩
      refine ⟨hends.1, hends.2, ?_⟩
      rw [hends.1, hends.2, dayOf_eq hstart, dayOf_eq hstop]
      exact Nat.not_lt.mp hle

/-! ### The first day of a month -/

/-- The first day of a month and its number. -/
theorem isDate_firstDay {month : ℕ} (h : month < 120000) :
    IsDate (monthKey month ++ "-01") ∧ monthOf (dayOf (monthKey month ++ "-01")) = month := by
  have hvalid : CivilDate.Valid ⟨month / 12, month % 12 + 1, 1⟩ := by
    refine ⟨by simp, ?_, le_refl _, ?_⟩
    · dsimp only
      omega
    · exact monthLength_pos month
  have hyear : month / 12 ≤ 9999 := by omega
  have htext : Calendar.CivilDate.iso ⟨month / 12, month % 12 + 1, 1⟩ = monthKey month ++ "-01" := by
    unfold Calendar.CivilDate.iso monthKey
    dsimp only
    rw [if_pos hyear, @String.append_assoc (_ ++ "-" ++ _)]
    rfl
  have hparse := parseDate_iso hvalid hyear
  rw [htext] at hparse
  refine ⟨⟨_, hparse⟩, ?_⟩
  rw [dayOf_eq hparse, monthOf, ofDayNumber_dayNumber hvalid]
  unfold monthIndex
  dsimp only
  omega

theorem addDays_one {date : String} (h : IsDate date) :
    addDays date 1 = .ok (dateText (dayOf date + 1)) := by
  have hnumber := (ofDayNumber_spec h.inCalendar.ge).2
  unfold addDays
  rw [h.parseDate_eq]
  dsimp only
  rw [hnumber]
  rfl

theorem firstDayOfMonth_dateText {number : ℕ} (h : InCalendar number) :
    firstDayOfMonth (dateText number) = monthKey (monthOf number) ++ "-01" := by
  unfold firstDayOfMonth
  rw [take_dateText h, String.ofList_toList]

theorem firstDayOfPreviousMonth_eq {date : String} (h : IsDate date) :
    firstDayOfPreviousMonth date =
      .ok (monthKey (utcMonth (ofDayNumber (dayOf date)) - 1) ++ "-01") := by
  unfold firstDayOfPreviousMonth
  rw [h.parseDate_eq]

/-! ### The range of a run -/

section

variable {Row : ArtifactKind → Type} {input : PublishInput Row} {bounds : MetricsBounds}
  {existing : Option Manifest} {publicStartDate : String} {range : DateRange}

/-- Without overrides a run reaches to the latest date of the source. It starts on the public start
date, or later where the deployment is published already. -/
theorem resolvePublishRange_eq_ok {published : Bool} (hstart : input.startDate = none)
    (hstop : input.endDate = none)
    (h : resolvePublishRange input bounds existing publicStartDate published = .ok range) :
    range.stop = bounds.latestDate ∧ dayOf range.start ≤ dayOf range.stop ∧
      ((range.start = publicStartDate ∧ (existing = none ∨ published = false)) ∨
        ∃ old previous next, existing = some old ∧ published = true ∧
          firstDayOfPreviousMonth bounds.latestDate = .ok previous ∧
          addDays old.latestDate 1 = .ok next ∧
          range.start = max publicStartDate (min previous (firstDayOfMonth next))) := by
  unfold resolvePublishRange at h
  simp only [hstart, hstop, Option.getD_none] at h
  split at h
  · next old =>
      obtain ⟨next, hnext, h⟩ := exists_of_bind_eq_ok h
      obtain ⟨previous, hprevious, h⟩ := exists_of_bind_eq_ok h
      obtain ⟨hrangeStart, hrangeStop, hle⟩ := resolveDateRange_eq_ok h
      rw [maxDate_eq_max, minDate_eq_min] at hrangeStart
      exact ⟨hrangeStop, hle, Or.inr ⟨old, previous, next, rfl, rfl, hprevious, hnext, hrangeStart⟩⟩
  · next hfirst =>
      obtain ⟨hrangeStart, hrangeStop, hle⟩ := resolveDateRange_eq_ok h
      refine ⟨hrangeStop, hle, Or.inl ⟨hrangeStart, ?_⟩⟩
      cases existing with
      | none => exact Or.inl rfl
      | some old =>
          cases published with
          | false => exact Or.inr rfl
          | true => exact absurd rfl (hfirst old rfl)

end

/-! ### The day after the latest one -/

/-- The refresh starts at the latest in the month after the latest one, and it reaches further back
only to the previous month of the source. -/
theorem refreshStart_spec {latestDate previous next : String} (hlatest : IsDate latestDate)
    (hprevious : IsDate previous) (hnext : addDays latestDate 1 = .ok next)
    (hlast : latestDate ≠ "9999-12-31") :
    IsDate (min previous (firstDayOfMonth next)) ∧
      monthOf (dayOf (min previous (firstDayOfMonth next))) ≤ monthOf (dayOf latestDate) + 1 ∧
      (min previous (firstDayOfMonth next) = previous ∨ monthOf (dayOf latestDate) ≤
        monthOf (dayOf (min previous (firstDayOfMonth next)))) := by
  have hday := hlatest.inCalendar
  rw [addDays_one hlatest] at hnext
  obtain rfl := Except.ok.inj hnext
  have hne : dayOf latestDate ≠ lastDayNumber := by
    intro heq
    refine hlast ?_
    rw [← hlatest.dateText_dayOf, heq]
    decide
  have hnextDay : InCalendar (dayOf latestDate + 1) := by
    have := hday.ge
    have := hday.le
    exact ⟨by omega, by omega⟩
  rw [firstDayOfMonth_dateText hnextDay]
  obtain ⟨hfirst, hfirstMonth⟩ := isDate_firstDay (monthOf_lt hnextDay)
  have hsucc := monthOf_succ_le hday.ge
  have hmono := monthOf_mono hday.ge (Nat.le_succ (dayOf latestDate))
  rcases le_total previous (monthKey (monthOf (dayOf latestDate + 1)) ++ "-01") with h | h
  · rw [min_eq_left h]
    have hle := monthOf_mono hprevious.inCalendar.ge ((hprevious.le_iff hfirst).mp h)
    rw [hfirstMonth] at hle
    exact ⟨hprevious, hle.trans hsucc, Or.inl rfl⟩
  · rw [min_eq_right h, hfirstMonth]
    exact ⟨hfirst, hsucc, Or.inr hmono⟩

/-- The day after the last one is no date, so that the refresh starts on the public start date. -/
theorem refreshStart_last {previous next publicStartDate : String} (hprevious : IsDate previous)
    (hnext : addDays "9999-12-31" 1 = .ok next)
    (hdate : IsDate (max publicStartDate (min previous (firstDayOfMonth next)))) :
    max publicStartDate (min previous (firstDayOfMonth next)) = publicStartDate := by
  have hsucc : addDays "9999-12-31" 1 = .ok "+010000-01" := by decide
  obtain rfl := Except.ok.inj (hsucc.symm.trans hnext)
  have hfirst : firstDayOfMonth "+010000-01" = "+010000-01" := by decide
  rw [hfirst] at hdate ⊢
  have hzero : IsDate "0000-01-01" := ⟨⟨0, 1, 1⟩, by rfl⟩
  have hzeroDay : dayOf "0000-01-01" = 10957 := by decide
  have hge := hprevious.inCalendar.ge
  have hpositive : "0000-01-01" ≤ previous := (hzero.le_iff hprevious).mpr (by omega)
  have hsign : "+010000-01" < "0000-01-01" := by decide
  rw [min_eq_right (hsign.trans_le hpositive).le] at hdate ⊢
  rcases max_choice publicStartDate "+010000-01" with h | h
  · exact h
  · rw [h] at hdate
    obtain ⟨date, hparse⟩ := hdate
    exact nomatch hparse

/-- The months from the year 100 on are those of the days from 47482 on. -/
theorem monthOf_ge_iff {number : ℕ} (h : 10957 ≤ number) : 1200 ≤ monthOf number ↔ 47482 ≤ number := by
  constructor
  · intro hmonth
    by_contra hlt
    have hmono := monthOf_mono h (show number ≤ 47481 by omega)
    have hlast : monthOf 47481 = 1199 := by decide
    omega
  · intro hge
    have hmono := monthOf_mono (by decide) hge
    have hfirst : monthOf 47482 = 1200 := by decide
    omega

theorem isDate_previous {date previous : String} (h : IsDate date)
    (hprevious : firstDayOfPreviousMonth date = .ok previous) : IsDate previous := by
  have hlt := utcMonth_lt h.inCalendar
  rw [firstDayOfPreviousMonth_eq h] at hprevious
  obtain rfl := Except.ok.inj hprevious
  exact (isDate_firstDay (by omega)).1

/-- The month before a date is one of the year 99 only if the date is one of the first January of
the year 100. -/
theorem previous_ge {date previous : String} (h : IsDate date)
    (hprevious : firstDayOfPreviousMonth date = .ok previous) (hmonth : monthOfDate date ≠ "0100-01") :
    47482 ≤ dayOf previous := by
  have hday := h.inCalendar
  rw [firstDayOfPreviousMonth_eq h] at hprevious
  obtain rfl := Except.ok.inj hprevious
  have hlt := utcMonth_lt hday
  obtain ⟨hdate, hfirst⟩ := isDate_firstDay
    (show utcMonth (ofDayNumber (dayOf date)) - 1 < 120000 by omega)
  rw [← monthOf_ge_iff hdate.inCalendar.ge, hfirst]
  rcases Nat.lt_or_ge (dayOf date) 47482 with hearly | hlate
  · have := utcMonth_of_lt hearly hday.ge
    omega
  · rw [utcMonth_of_le hlate]
    have hge := (monthOf_ge_iff hday.ge).mpr hlate
    have hne : monthOf (dayOf date) ≠ 1200 := by
      intro heq
      rw [h.monthOfDate_eq, heq] at hmonth
      exact hmonth (by decide)
    omega

/-! ### The months of a manifest -/

/-- The manifest publishes dates from the year 100 on and lists all of their months. -/
structure FullMonths (manifest : Manifest) (deploymentId : DeploymentId) : Prop where
  isDate_earliest : IsDate manifest.earliestDate
  isDate_latest : IsDate manifest.latestDate
  earliest_ge : 47482 ≤ dayOf manifest.earliestDate
  latest_ge : 47482 ≤ dayOf manifest.latestDate
  mem : ∀ month, monthOf (dayOf manifest.earliestDate) ≤ month →
    month ≤ monthOf (dayOf manifest.latestDate) →
    ∀ kind, dataKey deploymentId kind (monthKey month) ∈ manifest.artifacts

theorem deployment_of_published {existing : Option Manifest} {old : Manifest}
    {deploymentId deploymentId' : DeploymentId} {objects : Objects Row} (hold : existing = some old)
    (hbacked : Backed objects old deploymentId')
    (h : deploymentHasPublishedArtifacts existing deploymentId = true) :
    deploymentId = deploymentId' := by
  subst hold
  obtain ⟨key, hkey, h⟩ := List.any_eq_true.mp h
  obtain ⟨kind, -, h⟩ := List.any_eq_true.mp h
  have hbelow := startsWith_trans h (startsWith_shardPrefix deploymentId kind)
  have hstale := (hbacked.ownKey key (AList.mem_keys.mpr hkey)).notStale
  have hroot := startsWith_trans hbelow (startsWith_deploymentPrefix deploymentId)
  cases hown : startsWith key (deploymentPrefix deploymentId') with
  | true => exact deployment_unique hbelow hown
  | false => exact absurd ⟨hroot, hown⟩ hstale

/-- A run without date overrides and without a manifest of its own. -/
structure Scheduled (input : PublishInput Row) : Prop where
  startDate_eq : input.startDate = none
  endDate_eq : input.endDate = none
  manifest_eq : input.manifest = none

/-- The run does not reach back behind the year 100. Its public start date does not, or it cannot
start there: it refreshes a deployment of which the source does not end in the January of that year,
or its public start date is no date. -/
def StartsLate (input : PublishInput Row) (objects : Objects Row) : Prop :=
  "0100-01-01" ≤ input.startOfPublic ∨
    ∀ deploymentId, parseDeploymentId input.deploymentId = .ok deploymentId →
      if deploymentHasPublishedArtifacts (storedManifest objects) deploymentId then
        (∀ bounds, input.source.fetchBounds .crossChain = .ok bounds →
          monthOfDate bounds.latestDate ≠ "0100-01") ∧
        ∀ old, storedManifest objects = some old → old.latestDate ≠ "9999-12-31"
      else ¬ IsDate input.startOfPublic

/-- The manifests of a store are complete. -/
def StoredFull (objects : Objects Row) : Prop :=
  ∀ manifest, storedManifest objects = some manifest →
    ∃ deploymentId, Backed objects manifest deploymentId ∧ FullMonths manifest deploymentId

section

variable {objects : Objects Row}

namespace Plan

/-- The run starts on the public start date, or it starts no later than in the month after those
that the stored manifest publishes. -/
theorem start_spec (plan : Plan input (storedManifest objects)) (hscheduled : Scheduled input)
    (hinv : StoredFull objects) :
    plan.range.stop = plan.bounds.latestDate ∧ dayOf plan.range.start ≤ dayOf plan.range.stop ∧
      (plan.range.start = input.startOfPublic ∨ ∃ old, storedManifest objects = some old ∧
        FullMonths old plan.deploymentId ∧
        monthOf (dayOf plan.range.start) ≤ monthOf (dayOf old.latestDate) + 1) := by
  obtain ⟨hstop, hle, hcases⟩ :=
    resolvePublishRange_eq_ok hscheduled.startDate_eq hscheduled.endDate_eq plan.range_eq
  refine ⟨hstop, hle, ?_⟩
  rcases hcases with ⟨hpublic, -⟩ | ⟨old, previous, next, hold, hpublished, hprevious, hnext, hstart⟩
  · exact Or.inl hpublic
  · obtain ⟨deploymentId, hbacked, hfull⟩ := hinv old hold
    obtain rfl := deployment_of_published hold hbacked hpublished
    obtain ⟨hstartDate, hstopDate⟩ := plan.isDate_range
    rw [hstop] at hstopDate
    have hpreviousDate := isDate_previous hstopDate hprevious
    rw [hstart] at hstartDate ⊢
    by_cases hlast : old.latestDate = "9999-12-31"
    · rw [hlast] at hnext
      exact Or.inl (refreshStart_last hpreviousDate hnext hstartDate)
    · obtain ⟨-, hmonth, -⟩ := refreshStart_spec hfull.isDate_latest hpreviousDate hnext hlast
      rcases max_choice input.startOfPublic (min previous (firstDayOfMonth next)) with h | h
      · exact Or.inl h
      · rw [h]
        exact Or.inr ⟨old, hold, hfull, hmonth⟩

/-- The run starts in the year 100 or later. -/
theorem start_ge (plan : Plan input (storedManifest objects)) (hscheduled : Scheduled input)
    (hinv : StoredFull objects) (hlate : StartsLate input objects) :
    47482 ≤ dayOf plan.range.start := by
  obtain ⟨hstop, -, hcases⟩ :=
    resolvePublishRange_eq_ok hscheduled.startDate_eq hscheduled.endDate_eq plan.range_eq
  obtain ⟨hstartDate, hstopDate⟩ := plan.isDate_range
  rcases hlate with hlate | hlate
  · have hpublic : input.startOfPublic ≤ plan.range.start := by
      rcases hcases with ⟨hpublic, -⟩ | ⟨old, previous, next, -, -, -, -, hstart⟩
      · exact hpublic.ge
      · rw [hstart]
        exact le_max_left _ _
    have hcentury : IsDate "0100-01-01" := ⟨⟨100, 1, 1⟩, by rfl⟩
    have hday : dayOf "0100-01-01" = 47482 := by decide
    have hle := (hcentury.le_iff hstartDate).mp (hlate.trans hpublic)
    omega
  · have hlate := hlate plan.deploymentId plan.deploymentId_eq
    rcases hcases with ⟨hpublic, hfirst⟩ | ⟨old, previous, next, hold, hpublished, hprevious, hnext,
      hstart⟩
    · have hunpublished : deploymentHasPublishedArtifacts (storedManifest objects)
          plan.deploymentId = false := by
        rcases hfirst with hnone | hfalse
        · simp only [hnone, deploymentHasPublishedArtifacts]
        · exact hfalse
      rw [hunpublished] at hlate
      rw [hpublic] at hstartDate
      exact absurd hstartDate hlate
    · rw [hpublished, if_pos rfl] at hlate
      have hbounds := plan.bounds_eq
      rw [hpublished, if_pos rfl] at hbounds
      obtain ⟨deploymentId, hbacked, hfull⟩ := hinv old hold
      rw [hstop] at hstopDate
      have hpreviousDate := isDate_previous hstopDate hprevious
      obtain ⟨hdate, -, hlow⟩ := refreshStart_spec hfull.isDate_latest hpreviousDate hnext
        (hlate.2 old hold)
      have hge : 47482 ≤ dayOf (min previous (firstDayOfMonth next)) := by
        rcases hlow with heq | hmonth
        · rw [heq]
          exact previous_ge hstopDate hprevious (hlate.1 plan.bounds hbounds)
        · rw [← monthOf_ge_iff hdate.inCalendar.ge]
          exact ((monthOf_ge_iff hfull.isDate_latest.inCalendar.ge).mpr hfull.latest_ge).trans hmonth
      rw [hstart] at hstartDate ⊢
      exact hge.trans ((hdate.le_iff hstartDate).mp (le_max_right _ _))

end Plan

end

section

variable [∀ kind, Dated (Row kind)] {json : Serialization Row} {objects t : Objects Row}
  {manifest : Manifest}

omit [∀ kind, Dated (Row kind)] in
/-- The dates that the bounds of the next manifest are made of. -/
theorem earliest_cases (existing : Option Manifest) (start : String) :
    (existing.map (·.earliestDate)).getD start = start ∨ ∃ old, existing = some old ∧
      (existing.map (·.earliestDate)).getD start = old.earliestDate := by
  cases existing with
  | none => exact Or.inl rfl
  | some old => exact Or.inr ⟨old, rfl, rfl⟩

/-- The manifest of a run lists the months of its bounds. -/
theorem Plan.Publishes.fullMonths {plan : Plan input (storedManifest objects)}
    (h : Plan.Publishes json plan manifest) (hscheduled : Scheduled input)
    (hinv : StoredFull objects) (hlate : StartsLate input objects) :
    FullMonths manifest plan.deploymentId := by
  obtain ⟨hstop, hle, hstart⟩ := plan.start_spec hscheduled hinv
  have hge := plan.start_ge hscheduled hinv hlate
  obtain ⟨hstartDate, hstopDate⟩ := plan.isDate_range
  have hearliest := h.isDate_earliest
  have hlatest : manifest.latestDate = plan.range.stop := by
    rw [h.latest_eq, maxDate_eq_max, minDate_eq_min, hstop]
    exact min_eq_right (le_max_right _ _)
  have hpublic : input.startOfPublic ≤ manifest.earliestDate := by
    rw [h.earliest_eq, maxDate_eq_max]
    exact le_max_left _ _
  -- the new manifest begins with the run, or with what is published already
  have hlow : plan.range.start ≤ manifest.earliestDate ∨ ∃ old, storedManifest objects = some old ∧
      old.earliestDate ≤ manifest.earliestDate := by
    have hmin : min (((storedManifest objects).map (·.earliestDate)).getD plan.range.start)
        plan.range.start ≤ manifest.earliestDate := by
      rw [h.earliest_eq, maxDate_eq_max, minDate_eq_min]
      exact le_max_right _ _
    rcases min_le_iff.mp hmin with hle | hle
    · rcases earliest_cases (storedManifest objects) plan.range.start with heq | ⟨old, hold, heq⟩
      · exact Or.inl (heq ▸ hle)
      · exact Or.inr ⟨old, hold, heq ▸ hle⟩
    · exact Or.inl hle
  have hearliestGe : 47482 ≤ dayOf manifest.earliestDate := by
    rcases hlow with hlow | ⟨old, hold, hlow⟩
    · exact hge.trans ((hstartDate.le_iff hearliest).mp hlow)
    · obtain ⟨_, _, hfull⟩ := hinv old hold
      exact hfull.earliest_ge.trans ((hfull.isDate_earliest.le_iff hearliest).mp hlow)
  refine ⟨hearliest, h.isDate_latest, hearliestGe, hlatest ▸ hge.trans hle, ?_⟩
  intro month hfirst hlast kind
  have hmonth : month < 120000 := hlast.trans_lt (monthOf_lt h.isDate_latest.inCalendar)
  have hutc : monthOf (dayOf manifest.latestDate) ≤
      utcMonth (ofDayNumber (dayOf manifest.latestDate)) := monthIndex_le_utcMonth _
  refine h.mem ?_ ?_
  · rw [Plan.keepsEntry_dataKey hmonth, List.contains_iff_mem]
    refine List.mem_map_of_mem (mem_between.mpr ⟨?_, hlast.trans hutc⟩)
    rw [utcMonth_of_le hearliestGe]
    exact hfirst
  · by_cases hwritten : monthOf (dayOf plan.range.start) ≤ month
    · refine Or.inl ((plan.dataKey_mem_keys hmonth).mpr ⟨rfl, mem_between.mpr ⟨?_, ?_⟩⟩)
      · rw [utcMonth_of_le hge]
        exact hwritten
      · rw [← hlatest]
        exact hlast.trans hutc
    · -- the month comes before the run, and the stored manifest lists it
      have hbefore {date : String} (hdate : IsDate date) (hle : date ≤ manifest.earliestDate) :
          monthOf (dayOf date) ≤ month :=
        (monthOf_mono hdate.inCalendar.ge ((hdate.le_iff hearliest).mp hle)).trans hfirst
      rcases hstart with hstart | ⟨old, hold, hfull, hnext⟩
      · rw [← hstart] at hpublic
        exact absurd (hbefore hstartDate hpublic) hwritten
      · rcases hlow with hlow | ⟨old', hold', hlow⟩
        · exact absurd (hbefore hstartDate hlow) hwritten
        · obtain rfl := Option.some.inj (hold.symm.trans hold')
          have hlisted := hfull.mem month (hbefore hfull.isDate_earliest hlow) (by omega) kind
          have hexisting : existingArtifacts (storedManifest objects) = old.artifacts := by
            rw [hold]
            rfl
          rw [hexisting]
          exact Or.inr hlisted

/-! ### Histories of scheduled runs -/

/-- Wherever a scheduled run stops, the stored manifest is complete. -/
theorem RunState.storedFull (hscheduled : Scheduled input) (hinv : StoredFull objects)
    (hlate : StartsLate input objects)
    (h : RunState json input (storedManifest objects) objects t) : StoredFull t := by
  have hbacked : StoredBacked t := by
    refine h.storedBacked (fun manifest hmanifest => ?_)
    obtain ⟨deploymentId, hbacked, -⟩ := hinv manifest hmanifest
    exact ⟨deploymentId, hbacked⟩
  intro manifest hmanifest
  obtain ⟨deploymentId, hbackedBy⟩ := hbacked manifest hmanifest
  refine ⟨deploymentId, hbackedBy, ?_⟩
  rcases h.storedManifest_cases with hsame | ⟨plan, next, hnext, hstored⟩
  · rw [hsame] at hmanifest
    obtain ⟨deploymentId', hbackedBy', hfull⟩ := hinv manifest hmanifest
    have htext := hbackedBy.deploymentId_eq.symm.trans hbackedBy'.deploymentId_eq
    obtain rfl := DeploymentId.ext (Option.some.inj htext)
    exact hfull
  · obtain rfl := Option.some.inj (hmanifest.symm.trans hstored)
    have hpublishes := plan.publishes_of_next hnext
    have htext := hbackedBy.deploymentId_eq.symm.trans hpublishes.deploymentId_eq
    obtain rfl := DeploymentId.ext (Option.some.inj htext)
    exact hpublishes.fullMonths hscheduled hinv hlate

/-- Every month between the published bounds has its shards listed under the manifest's deployment. -/
def ListsMonths (manifest : Manifest) : Prop :=
  ∃ deploymentId : DeploymentId, manifest.indexerDeploymentId = some deploymentId.text ∧
    ∀ date, IsDate date → manifest.earliestDate ≤ date → date ≤ manifest.latestDate →
      ∀ kind, dataKey deploymentId kind (monthOfDate date) ∈ manifest.artifacts

omit [∀ kind, Dated (Row kind)] in
theorem StoredFull.listsMonths (h : StoredFull objects)
    (hmanifest : storedManifest objects = some manifest) : ListsMonths manifest := by
  obtain ⟨deploymentId, hbacked, hfull⟩ := h manifest hmanifest
  refine ⟨deploymentId, hbacked.deploymentId_eq, fun date hdate hfirst hlast kind => ?_⟩
  rw [hdate.monthOfDate_eq]
  refine hfull.mem _ ?_ ?_ kind
  · exact monthOf_mono hfull.isDate_earliest.inCalendar.ge
      ((hfull.isDate_earliest.le_iff hdate).mp hfirst)
  · exact monthOf_mono hdate.inCalendar.ge ((hdate.le_iff hfull.isDate_latest).mp hlast)

/-- After any scheduled runs that do not reach back behind the year 100, stopped anywhere, the stored
manifest lists stored objects, and every month that it publishes. -/
theorem crashSafe_of_startsLate
    (h : History json (fun input objects => Scheduled input ∧ StartsLate input objects) objects) :
    NoDangling objects ∧
      ∀ manifest, storedManifest objects = some manifest → ListsMonths manifest := by
  have hfull : StoredFull objects := by
    refine h.inv (fun _ hnone => nomatch hnone) ?_
    rintro objects t input hinv ⟨hscheduled, hlate⟩ hstate
    rw [existingManifest_of_none hscheduled.manifest_eq] at hstate
    exact hstate.storedFull hscheduled hinv hlate
  refine ⟨StoredBacked.noDangling (fun manifest hmanifest => ?_),
    fun manifest hmanifest => hfull.listsMonths hmanifest⟩
  obtain ⟨deploymentId, hbacked, -⟩ := hfull manifest hmanifest
  exact ⟨deploymentId, hbacked⟩

end

/-! ### Runs around a new year -/

/-- A source without rows. -/
def emptySource (latestDate : String) : MetricsSource DateRow where
  fetchLatestIndexingProgress := .ok []
  fetchBounds := fun _ => .ok { earliestDate := "2022-05-01", latestDate := latestDate }
  fetchRows := fun _ _ => .ok []

/-- A scheduled run on the first of January 2000. -/
def centuryInput (publicStartDate : String) : PublishInput DateRow where
  publicStartDate := some publicStartDate
  deploymentId := "d1"
  source := emptySource "1999-12-31"
  now := 946684800000

/-- The store after a first run. -/
def centuryStore (publicStartDate : String) : Objects DateRow :=
  (playRun plainSerialization "first" (centuryInput publicStartDate) (List.replicate 20 .done) ∅).2

/-- A scheduled run on a day of January 2000, with a metric for every day. -/
def newYearInput (day : ℕ) (latestDate : String) : PublishInput DateRow where
  publicStartDate := some "1999-12-31"
  deploymentId := "d1"
  source :=
    { dailySource latestDate with
      fetchBounds := fun _ => .ok { earliestDate := "1999-12-31", latestDate := latestDate } }
  now := 946684800000 + 86400000 * day

/-- The first run publishes the last day of December. -/
def newYearStore : Objects DateRow :=
  (playRun plainSerialization "first" (newYearInput 0 "1999-12-31") (List.replicate 20 .done) ∅).2

/-- The second run stops after it has written the metrics of January. -/
def stoppedNewYear : Objects DateRow :=
  (playRun plainSerialization "second" (newYearInput 1 "2000-01-01") (List.replicate 10 .done)
    newYearStore).2

/-- The third run publishes both months. -/
def resumedNewYear : Objects DateRow :=
  (playRun plainSerialization "third" (newYearInput 2 "2000-01-02") (List.replicate 30 .done)
    stoppedNewYear).2

/-- Neither the store of the stopped run nor the next one dangles or misses a month. -/
theorem crashSafe_stoppedRun :
    "v2/deployments/d1/metrics/daily/2000-01.json" ∈ stoppedNewYear ∧
    (storedManifest stoppedNewYear).map (·.latestDate) = some "1999-12-31" ∧
    (storedManifest resumedNewYear).map (·.latestDate) = some "2000-01-02" ∧
    ∀ objects ∈ [stoppedNewYear, resumedNewYear], NoDangling objects ∧
      ∀ manifest, storedManifest objects = some manifest → ListsMonths manifest := by
  have hpublic : "0100-01-01" ≤ "1999-12-31" := by decide
  have hlate (day : ℕ) (latestDate : String) (objects : Objects DateRow) :
      Scheduled (newYearInput day latestDate) ∧ StartsLate (newYearInput day latestDate) objects :=
    ⟨⟨rfl, rfl, rfl⟩, Or.inl hpublic⟩
  have hfirst : History plainSerialization
      (fun input objects => Scheduled input ∧ StartsLate input objects) newYearStore :=
    .run "first" _ _ .empty (hlate 0 _ _) (runs_playRun "first" _)
  have hstopped : History plainSerialization
      (fun input objects => Scheduled input ∧ StartsLate input objects) stoppedNewYear :=
    .run "second" _ _ hfirst (hlate 1 _ _) (runs_playRun "second" _)
  have hresumed : History plainSerialization
      (fun input objects => Scheduled input ∧ StartsLate input objects) resumedNewYear :=
    .run "third" _ _ hstopped (hlate 2 _ _) (runs_playRun "third" _)
  have hstored : "v2/deployments/d1/metrics/daily/2000-01.json" ∈ stoppedNewYear ∧
      (storedManifest stoppedNewYear).map (·.latestDate) = some "1999-12-31" ∧
      (storedManifest resumedNewYear).map (·.latestDate) = some "2000-01-02" := by
    decide +kernel
  refine ⟨hstored.1, hstored.2.1, hstored.2.2, ?_⟩
  refine List.forall_mem_cons.mpr ⟨crashSafe_of_startsLate hstopped, ?_⟩
  exact List.forall_mem_singleton.mpr (crashSafe_of_startsLate hresumed)

/-- From the year 99 on, the run writes the December of 1999 only, and publishes both months. -/
theorem early_start_unlisted : ∃ objects manifest,
    History plainSerialization (fun input _ => Scheduled input) objects ∧
      storedManifest objects = some manifest ∧ ¬ ListsMonths manifest := by
  have hstored : (storedManifest (centuryStore "0099-12-31")).any (fun manifest =>
      manifest.indexerDeploymentId == some "d1" && manifest.earliestDate == "0099-12-31" &&
        manifest.latestDate == "1999-12-31" &&
        !manifest.artifacts.keys.contains "v2/deployments/d1/metrics/daily/0099-12.json") = true := by
    decide +kernel
  obtain ⟨manifest, hmanifest, hcheck⟩ := (Option.any_eq_true _ _).mp hstored
  simp only [Bool.and_eq_true, beq_iff_eq, Bool.not_eq_true', List.contains_eq_mem,
    decide_eq_false_iff_not] at hcheck
  obtain ⟨⟨⟨hid, hearliest⟩, hlatest⟩, hmissing⟩ := hcheck
  refine ⟨_, manifest, .run "first" (centuryInput "0099-12-31") _ .empty ⟨rfl, rfl, rfl⟩
    (runs_playRun "first" (List.replicate 20 .done)), hmanifest, ?_⟩
  rintro ⟨deploymentId, hdeployment, hmonths⟩
  have htext : deploymentId.text = "d1" := Option.some.inj (hdeployment.symm.trans hid)
  have hlisted := hmonths "0099-12-31" ⟨⟨99, 12, 31⟩, by rfl⟩ (hearliest.le)
    (by rw [hlatest]; decide) .metrics
  have hkey : dataKey deploymentId .metrics (monthOfDate "0099-12-31") =
      "v2/deployments/d1/metrics/daily/0099-12.json" := by
    unfold dataKey shardPrefix deploymentPrefix
    rw [htext]
    decide
  rw [hkey] at hlisted
  exact hmissing hlisted

end OlympusMetrics.Publisher
