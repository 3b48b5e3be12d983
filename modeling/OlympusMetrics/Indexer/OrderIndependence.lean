import OlympusMetrics.Indexer.Interleavings

/-!
What the rollup leaves after two orders of the same events.

Every row is determined by the events and what each of them comes after, so the
rows agree when every event comes after the same rebases.
-/

namespace OlympusMetrics

/-! ### What a run leaves -/

/-- The chain row that an event writes for a date, and its reads. -/
def writtenBy (rebases : List ChainEvent) (date : String) (view : ChainEvent × ℕ) :
    Option (ChainMetricValues × CanonicalReads) :=
  match view.1 with
  | .logRebase .. => none
  | .snapshot s =>
      let snapshot := s.snapshot (indexAt rebases view.2) []
      if snapshot.date = some date then some (snapshot.chainRow date, snapshot.reads) else none

/-- The last event that writes a date comes after this number of rebases. -/
structure LastWriter (rebases order : List ChainEvent) (date : String) (count : ℕ) : Prop where
  writes : ∃ view ∈ afterRebases 0 order, (writtenBy rebases date view).isSome ∧ view.2 = count
  last : ∀ view ∈ afterRebases 0 order, (writtenBy rebases date view).isSome → view.2 ≤ count

/-- What a run leaves, in terms of what each event comes after. -/
structure LeftBy (rebases order : List ChainEvent) (es : List RollupEvent)
    (store : RollupStore) : Prop where
  index : storedIndex store = indexAt rebases (rebasesOf order).length
  latest : ∀ chain date,
    (latestSnapshot es chain date).map (fun s => (s.chainRow date, s.reads)) =
      ((viewsOf order chain).filterMap (writtenBy rebases date)).getLast?
  written : ∀ date, (store.globalMetricSnapshot.get date).isSome ↔
    ∃ view ∈ afterRebases 0 order, (writtenBy rebases date view).isSome
  ohmIndex : ∀ date row, store.globalMetricSnapshot.get date = some row →
    ∃ count, LastWriter rebases order date count ∧ row.ohmIndex = ohmIndexOf (indexAt rebases count)
  zero : ∀ date row, store.globalMetricSnapshot.get date = some row →
    latestSnapshot es .ethereum date = none →
      (⟨row.ohmPrice, row.sOhmCirculatingSupply, row.ohmApy⟩ : CanonicalFields) =
        CanonicalFields.zero
  missing : ∀ date row, store.globalMetricSnapshot.get date = some row →
    row.date = date ∧ row.chainsMissing =
      allChainIds.filter (fun chainId => !row.chainsIndexed.contains chainId)

section

variable {rebases order : List ChainEvent} {es : List RollupEvent} {store : RollupStore}

theorem mem_afterRebases_append {e : ChainEvent} {view : ChainEvent × ℕ} :
    view ∈ afterRebases 0 (order ++ [e]) ↔
      view ∈ afterRebases 0 order ∨ view = (e, (rebasesOf order).length) := by
  rw [afterRebases_append, List.mem_append, List.mem_singleton, Nat.zero_add]

theorem filterMap_viewsOf_append (e : ChainEvent) (chain : ChainId) (date : String) :
    (viewsOf (order ++ [e]) chain).filterMap (writtenBy rebases date) =
      (viewsOf order chain).filterMap (writtenBy rebases date) ++
        if e.chain = chain then (writtenBy rebases date (e, (rebasesOf order).length)).toList
        else [] := by
  rw [viewsOf_append, List.filterMap_append]
  split
  · cases h : writtenBy rebases date (e, (rebasesOf order).length) <;> simp [h]
  · rfl

/-- An event that does not write a date leaves its last writer. -/
theorem LastWriter.append {date : String} {count : ℕ} (h : LastWriter rebases order date count)
    {e : ChainEvent} (hnone : writtenBy rebases date (e, (rebasesOf order).length) = none) :
    LastWriter rebases (order ++ [e]) date count where
  writes := by
    obtain ⟨view, hview, hwrites⟩ := h.writes
    exact ⟨view, mem_afterRebases_append.mpr (Or.inl hview), hwrites⟩
  last := by
    intro view hview hwrites
    rcases mem_afterRebases_append.mp hview with hview | rfl
    · exact h.last view hview hwrites
    · simp [hnone] at hwrites

/-- An event that writes a date is its last writer so far. -/
theorem lastWriter_append {date : String} {e : ChainEvent}
    (hwrites : (writtenBy rebases date (e, (rebasesOf order).length)).isSome) :
    LastWriter rebases (order ++ [e]) date (rebasesOf order).length where
  writes := ⟨_, mem_afterRebases_append.mpr (Or.inr rfl), hwrites, rfl⟩
  last := by
    intro view hview _
    rcases mem_afterRebases_append.mp hview with hview | rfl
    · exact snd_le_of_mem hview
    · exact le_refl _

/-- An event that writes no date. -/
theorem LeftBy.silent (h : LeftBy rebases order es store) {e : ChainEvent}
    {es' : List RollupEvent} {store' : RollupStore}
    (hsilent : ∀ date, writtenBy rebases date (e, (rebasesOf order).length) = none)
    (hindex : storedIndex store' = indexAt rebases (rebasesOf (order ++ [e])).length)
    (hlatest : ∀ chain date, latestSnapshot es' chain date = latestSnapshot es chain date)
    (hglobal : store'.globalMetricSnapshot = store.globalMetricSnapshot) :
    LeftBy rebases (order ++ [e]) es' store' where
  index := hindex
  latest := by
    intro chain date
    rw [hlatest, h.latest, filterMap_viewsOf_append, hsilent]
    simp
  written := by
    intro date
    rw [hglobal, h.written]
    constructor
    · rintro ⟨view, hview, hwrites⟩
      exact ⟨view, mem_afterRebases_append.mpr (Or.inl hview), hwrites⟩
    · rintro ⟨view, hview, hwrites⟩
      rcases mem_afterRebases_append.mp hview with hview | rfl
      · exact ⟨view, hview, hwrites⟩
      · simp [hsilent] at hwrites
  ohmIndex := by
    intro date row hrow
    rw [hglobal] at hrow
    obtain ⟨count, hlast, heq⟩ := h.ohmIndex date row hrow
    exact ⟨count, hlast.append (hsilent date), heq⟩
  zero := by
    intro date row hrow hnone
    rw [hglobal] at hrow
    rw [hlatest] at hnone
    exact h.zero date row hrow hnone
  missing := by
    intro date row hrow
    rw [hglobal] at hrow
    exact h.missing date row hrow

/-- The view of a snapshot that is processed next. -/
theorem writtenBy_snapshot {s : SnapshotInput} {getWhere : List ChainMetricValues}
    (hindex : storedIndex store = indexAt rebases (rebasesOf order).length) (date : String) :
    writtenBy rebases date (.snapshot s, (rebasesOf order).length) =
      if (s.snapshot (storedIndex store) getWhere).date = some date then
        some ((s.snapshot (storedIndex store) getWhere).chainRow date,
          (s.snapshot (storedIndex store) getWhere).reads)
      else none := by
  rw [hindex]
  rfl

/-- A snapshot that writes a date. -/
theorem LeftBy.snapshot_of_date {compound : BigNumber → BigNumber}
    (h : LeftBy rebases order es store) {s : SnapshotInput} {getWhere : List ChainMetricValues}
    {d : String} (hd : (s.snapshot (storedIndex store) getWhere).date = some d) :
    LeftBy rebases (order ++ [.snapshot s])
      (es ++ [.snapshot (s.snapshot (storedIndex store) getWhere)])
      ((s.snapshot (storedIndex store) getWhere).apply compound store) := by
  have hview (date : String) : writtenBy rebases date (.snapshot s, (rebasesOf order).length) =
      if (s.snapshot (storedIndex store) getWhere).date = some date then
        some ((s.snapshot (storedIndex store) getWhere).chainRow date,
          (s.snapshot (storedIndex store) getWhere).reads)
      else none := writtenBy_snapshot h.index date
  have hchain : (s.snapshot (storedIndex store) getWhere).chain = s.chain := rfl
  generalize s.snapshot (storedIndex store) getWhere = u at hd hview hchain ⊢
  have happly : u.apply compound store = _ := Snapshot.apply_of_date hd
  have hglobal (date : String) : (u.apply compound store).globalMetricSnapshot.get date =
      if date = d then some (u.dateRow compound d store)
      else store.globalMetricSnapshot.get date := by
    rw [happly]
    exact EntityTable.get_set _ _ _
  have hother {date : String} (hne : date ≠ d) :
      writtenBy rebases date (.snapshot s, (rebasesOf order).length) = none := by
    rw [hview, hd, if_neg (fun heq => hne (Option.some.inj heq).symm)]
  have hwrites : (writtenBy rebases d (.snapshot s, (rebasesOf order).length)).isSome := by
    rw [hview, if_pos hd]
    rfl
  refine ⟨?_, ?_, ?_, ?_, ?_, ?_⟩
  · rw [happly]
    have hcount : (rebasesOf (order ++ [ChainEvent.snapshot s])).length =
        (rebasesOf order).length := by
      simp [ChainEvent.isRebase]
    rw [hcount, ← h.index]
    rfl
  · intro chain date
    rw [filterMap_viewsOf_append, latestSnapshot_append_snapshot, hview]
    by_cases hchain' : u.chain = chain
    · rw [if_pos (show (ChainEvent.snapshot s).chain = chain from hchain.symm.trans hchain')]
      by_cases hdate : u.date = some date
      · rw [if_pos ⟨hchain', hdate⟩, if_pos hdate]
        simp
      · rw [if_neg (fun hboth => hdate hboth.2), if_neg hdate, h.latest]
        simp
    · have hne : (ChainEvent.snapshot s).chain ≠ chain := fun heq => hchain' (hchain.trans heq)
      rw [if_neg hne, if_neg (fun hboth => hchain' hboth.1), h.latest]
      simp
  · intro date
    rw [hglobal]
    by_cases hdate : date = d
    · subst hdate
      simp only [if_true, Option.isSome_some, true_iff]
      exact ⟨_, mem_afterRebases_append.mpr (Or.inr rfl), hwrites⟩
    · rw [if_neg hdate, h.written]
      constructor
      · rintro ⟨view, hmem, hview⟩
        exact ⟨view, mem_afterRebases_append.mpr (Or.inl hmem), hview⟩
      · rintro ⟨view, hmem, hview⟩
        rcases mem_afterRebases_append.mp hmem with hmem | rfl
        · exact ⟨view, hmem, hview⟩
        · simp [hother hdate] at hview
  · intro date row hrow
    rw [hglobal] at hrow
    by_cases hdate : date = d
    · subst hdate
      rw [if_pos rfl] at hrow
      obtain rfl := Option.some.inj hrow
      refine ⟨_, lastWriter_append hwrites, ?_⟩
      rw [← h.index, ← readOhmIndex_eq]
      rfl
    · rw [if_neg hdate] at hrow
      obtain ⟨count, hlast, heq⟩ := h.ohmIndex date row hrow
      exact ⟨count, hlast.append (hother hdate), heq⟩
  · intro date row hrow hnone
    rw [latestSnapshot_append_snapshot] at hnone
    rw [hglobal] at hrow
    by_cases hdate : date = d
    · subst hdate
      rw [if_pos rfl] at hrow
      obtain rfl := Option.some.inj hrow
      by_cases heth : u.chain = .ethereum
      · rw [if_pos ⟨heth, hd⟩] at hnone
        cases hnone
      · rw [if_neg (fun hboth => heth hboth.1)] at hnone
        have hne : (chainConfigs u.chain).chainId ≠ .ethereum := by
          rwa [chainConfigs_chainId]
        rw [canonicalFields_dateRow]
        cases hold : store.globalMetricSnapshot.get date with
        | none => exact if_neg hne
        | some old =>
            rw [canonicalFields_other _ _ _ hne]
            exact h.zero date old hold hnone
    · have hboth : ¬(u.chain = .ethereum ∧ u.date = some date) :=
        fun hboth => hdate (Option.some.inj (hboth.2.symm.trans hd))
      rw [if_neg hboth] at hnone
      rw [if_neg hdate] at hrow
      exact h.zero date row hrow hnone
  · intro date row hrow
    rw [hglobal] at hrow
    by_cases hdate : date = d
    · subst hdate
      rw [if_pos rfl] at hrow
      obtain rfl := Option.some.inj hrow
      exact ⟨rfl, rfl⟩
    · rw [if_neg hdate] at hrow
      exact h.missing date row hrow

theorem rebasesOf_append_isPrefix (order : List ChainEvent) (e : ChainEvent) :
    rebasesOf order <+: rebasesOf (order ++ [e]) := by
  rw [rebasesOf, rebasesOf, List.filter_append]
  exact List.prefix_append _ _

/-- What every run leaves. -/
theorem CrossRun.leftBy {compound : BigNumber → BigNumber}
    (run : CrossRun compound order es store) :
    ∀ rebases, rebasesOf order <+: rebases → LeftBy rebases order es store := by
  induction run with
  | nil =>
      intro rebases _
      refine ⟨rfl, fun _ _ => rfl, ?_, ?_, ?_, ?_⟩
      · intro date
        constructor
        · intro h
          cases h
        · rintro ⟨view, hview, -⟩
          cases hview
      · intro date row h
        cases h
      · intro date row h
        cases h
      · intro date row h
        cases h
  | @snapshot order es store s getWhere _ _ ih =>
      intro rebases hrebases
      have h := ih rebases ((rebasesOf_append_isPrefix _ _).trans hrebases)
      cases hd : (s.snapshot (storedIndex store) getWhere).date with
      | some d => exact h.snapshot_of_date hd
      | none =>
          have hnone (date : String) :
              (s.snapshot (storedIndex store) getWhere).date ≠ some date := by
            rw [hd]
            exact Option.some_ne_none date ∘ Eq.symm
          rw [Snapshot.apply_of_date_none hd]
          refine h.silent ?_ ?_ ?_ rfl
          · intro date
            exact (writtenBy_snapshot h.index date).trans (if_neg (hnone date))
          · rw [indexAt_step hrebases]
            exact h.index
          · intro chain date
            rw [latestSnapshot_append_snapshot, if_neg (fun hboth => hnone date hboth.2)]
  | @logRebase order es store srcAddress index epoch block timestamp _ ih =>
      intro rebases hrebases
      have h := ih rebases ((rebasesOf_append_isPrefix _ _).trans hrebases)
      refine h.silent (fun _ => rfl) ?_ ?_ ?_
      · rw [storedIndex_applyLogRebase, h.index]
        exact (indexAt_step hrebases).symm
      · intro chain date
        exact latestSnapshot_append_logRebase _ _ _ _ _ _ _ _ _
      · exact (applyLogRebase_tables _ _ _ _ _ _ store).2.1

end

/-! ### Two orders -/

/-- Date rows that differ at most in their time and the order of their chains. -/
structure SameDateRow (row row' : GlobalMetricSnapshot) : Prop where
  chainsIndexed : row.chainsIndexed.Perm row'.chainsIndexed
  others : { row with updatedAtTimestamp := 0, chainsIndexed := [] } =
    { row' with updatedAtTimestamp := 0, chainsIndexed := [] }

/-- Stores with the same rollup rows. -/
structure SameRollup (store store' : RollupStore) : Prop where
  chainRows : ∀ row, row ∈ store.chainMetricValues.rows ↔ row ∈ store'.chainMetricValues.rows
  dates : ∀ date, (store.globalMetricSnapshot.get date).isSome ↔
    (store'.globalMetricSnapshot.get date).isSome
  dateRows : ∀ date row row', store.globalMetricSnapshot.get date = some row →
    store'.globalMetricSnapshot.get date = some row' → SameDateRow row row'

section

variable {rebases order order' : List ChainEvent}

/-- An event with what it comes after is the same in both orders. -/
theorem mem_afterRebases_of_viewsOf_eq
    (hviews : ∀ chain, viewsOf order chain = viewsOf order' chain) {view : ChainEvent × ℕ}
    (h : view ∈ afterRebases 0 order) : view ∈ afterRebases 0 order' := by
  have hmem : view ∈ viewsOf order view.1.chain := mem_viewsOf.mpr ⟨h, rfl⟩
  rw [hviews] at hmem
  exact (mem_viewsOf.mp hmem).1

/-- The last writers of a date come after the same rebases. -/
theorem LastWriter.count_eq {date : String} {count count' : ℕ}
    (hviews : ∀ chain, viewsOf order chain = viewsOf order' chain)
    (h : LastWriter rebases order date count) (h' : LastWriter rebases order' date count') :
    count = count' := by
  obtain ⟨view, hmem, hwrites, rfl⟩ := h.writes
  obtain ⟨view', hmem', hwrites', rfl⟩ := h'.writes
  apply Nat.le_antisymm
  · exact h'.last view (mem_afterRebases_of_viewsOf_eq hviews hmem) hwrites
  · exact h.last view' (mem_afterRebases_of_viewsOf_eq (fun chain => (hviews chain).symm) hmem')
      hwrites'

end

/-- Stores with the same chain rows have them date by date, in some order. -/
theorem chainRowsOf_perm {store store' : RollupStore}
    (h : ∀ row, row ∈ store.chainMetricValues.rows ↔ row ∈ store'.chainMetricValues.rows)
    (date : String) : (chainRowsOf store date).Perm (chainRowsOf store' date) := by
  have hnodup (store : RollupStore) : (chainRowsOf store date).Nodup :=
    (List.Nodup.of_map _ store.chainMetricValues.nodup_ids).filter _
  refine (List.perm_ext_iff_of_nodup (hnodup store) (hnodup store')).mpr ?_
  intro row
  simp only [chainRowsOf, List.mem_filter, h]

/-- Date rows over the same chain rows, with the same canonical inputs. -/
theorem sameDateRow_of_inputs {rows rows' : List ChainMetricValues}
    {row row' : GlobalMetricSnapshot} (hperm : rows.Perm rows')
    (hid : row.id = row'.id) (hdate : row.date = row'.date)
    (hsums : SumsChainRows rows row) (hsums' : SumsChainRows rows' row')
    (hchains : ListsChains rows row) (hchains' : ListsChains rows' row')
    (hderived : DerivesFields row) (hderived' : DerivesFields row')
    (hmissing : row.chainsMissing =
      allChainIds.filter (fun chainId => !row.chainsIndexed.contains chainId))
    (hmissing' : row'.chainsMissing =
      allChainIds.filter (fun chainId => !row'.chainsIndexed.contains chainId))
    (hcanonical : (⟨row.ohmPrice, row.sOhmCirculatingSupply, row.ohmApy⟩ : CanonicalFields) =
      ⟨row'.ohmPrice, row'.sOhmCirculatingSupply, row'.ohmApy⟩)
    (hindex : row.ohmIndex = row'.ohmIndex) : SameDateRow row row' := by
  have hindexed : row.chainsIndexed.Perm row'.chainsIndexed := by
    refine (List.perm_ext_iff_of_nodup hchains.nodup hchains'.nodup).mpr ?_
    intro chain
    rw [hchains.indexed, hchains'.indexed]
    simp only [hperm.mem_iff]
  have hsum (column : ChainMetricValues → BigNumber) :
      (rows.map column).sum = (rows'.map column).sum := (hperm.map column).sum_eq
  have hcomplete : row.crossChainComplete = row'.crossChainComplete := by
    rw [Bool.eq_iff_iff, hchains.complete, hchains'.complete, hindexed.mem_iff, hindexed.mem_iff]
  have hmissingEq : row.chainsMissing = row'.chainsMissing := by
    rw [hmissing, hmissing']
    apply List.filter_congr
    intro chain _
    rw [Bool.eq_iff_iff]
    simp [hindexed.mem_iff]
  obtain ⟨hprice, hcirculating, hapy⟩ := CanonicalFields.mk.inj hcanonical
  have htotal := hsums.ohmTotalSupply.trans ((hsum _).trans hsums'.ohmTotalSupply.symm)
  have hcirculatingSupply :=
    hsums.ohmCirculatingSupply.trans ((hsum _).trans hsums'.ohmCirculatingSupply.symm)
  have hfloating := hsums.ohmFloatingSupply.trans ((hsum _).trans hsums'.ohmFloatingSupply.symm)
  have hbacked := hsums.ohmBackedSupply.trans ((hsum _).trans hsums'.ohmBackedSupply.symm)
  have hmarket := hsums.treasuryMarketValue.trans ((hsum _).trans hsums'.treasuryMarketValue.symm)
  have hliquid :=
    hsums.treasuryLiquidBacking.trans ((hsum _).trans hsums'.treasuryLiquidBacking.symm)
  have hgOhmBacked : row.gOhmBackedSupply = row'.gOhmBackedSupply := by
    rw [hderived.gOhmBackedSupply, hderived'.gOhmBackedSupply, hbacked, hindex]
  refine ⟨hindexed, ?_⟩
  simp only [GlobalMetricSnapshot.mk.injEq]
  refine ⟨hid, hdate, trivial, hcomplete, trivial, hmissingEq, htotal, hcirculatingSupply,
    hfloating, hbacked, hgOhmBacked, hmarket, hliquid, hindex, hapy, hprice, ?_, hcirculating,
    ?_, ?_, ?_, ?_, ?_⟩
  · rw [hderived.gOhmPrice, hderived'.gOhmPrice, hprice, hindex]
  · rw [hderived.sOhmTotalValueLocked, hderived'.sOhmTotalValueLocked, hprice, hcirculating]
  · rw [hderived.marketCap, hderived'.marketCap, hprice, hcirculatingSupply]
  · rw [hderived.perOhmFloating, hderived'.perOhmFloating, hfloating, hliquid]
  · rw [hderived.perOhmBacked, hderived'.perOhmBacked, hbacked, hliquid]
  · rw [hderived.perGOhmBacked, hderived'.perGOhmBacked, hgOhmBacked, hliquid]

section

variable {compound : BigNumber → BigNumber} {order order' : List ChainEvent}
  {es es' : List RollupEvent} {store store' : RollupStore}

/-- What the latest snapshot of a chain wrote and read is the same after both orders. -/
theorem latest_eq_of_viewsOf_eq {rebases : List ChainEvent} (h : LeftBy rebases order es store)
    (h' : LeftBy rebases order' es' store')
    (hviews : ∀ chain, viewsOf order chain = viewsOf order' chain) (chain : ChainId)
    (date : String) :
    (latestSnapshot es chain date).map (fun s => (s.chainRow date, s.reads)) =
      (latestSnapshot es' chain date).map (fun s => (s.chainRow date, s.reads)) := by
  rw [h.latest, h'.latest, hviews]

theorem chainRow_get_eq {rebases : List ChainEvent} (h : LeftBy rebases order es store)
    (h' : LeftBy rebases order' es' store') (inv : RollupInvariant compound es store)
    (inv' : RollupInvariant compound es' store')
    (hviews : ∀ chain, viewsOf order chain = viewsOf order' chain) (chain : ChainId)
    (date : String) :
    store.chainMetricValues.get (chainValuesId date chain) =
      store'.chainMetricValues.get (chainValuesId date chain) := by
  have hfst (latest : Option Snapshot) : latest.map (fun s => s.chainRow date) =
      (latest.map (fun s => (s.chainRow date, s.reads))).map Prod.fst := by
    cases latest <;> rfl
  rw [inv.chainRow, inv'.chainRow, hfst, hfst, latest_eq_of_viewsOf_eq h h' hviews]

/-- The canonical fields of a date row are those of the latest Ethereum snapshot, or zero. -/
theorem canonical_eq_of_latest {rebases : List ChainEvent} (h : LeftBy rebases order es store)
    (inv : RollupInvariant compound es store) {date : String} {row : GlobalMetricSnapshot}
    (hrow : store.globalMetricSnapshot.get date = some row) :
    (⟨row.ohmPrice, row.sOhmCirculatingSupply, row.ohmApy⟩ : CanonicalFields) =
      (((latestSnapshot es .ethereum date).map (fun s => (s.chainRow date, s.reads))).map
        (fun written => computeCanonicalFields compound (chainConfigs .ethereum) written.2)).getD
          CanonicalFields.zero := by
  cases hlatest : latestSnapshot es .ethereum date with
  | none => exact h.zero date row hrow hlatest
  | some s => exact inv.canonical date row hrow s hlatest

/-- Orders in which every event comes after the same rebases leave the same rollup rows. -/
theorem sameRollup_of_seeAlike {histories : ChainId → List ChainEvent}
    (h : Interleaves histories order) (h' : Interleaves histories order')
    (hsee : SeeAlike order order') (run : CrossRun compound order es store)
    (run' : CrossRun compound order' es' store') : SameRollup store store' := by
  have hviews := hsee.viewsOf_eq h h'
  have hrebases : rebasesOf order' = rebasesOf order := by
    rw [h.rebasesOf_eq, h'.rebasesOf_eq]
  have left := run.leftBy (rebasesOf order) (List.prefix_refl _)
  have left' := run'.leftBy (rebasesOf order) (hrebases ▸ List.prefix_refl _)
  have inv := rollupInvariant_of_run run.rollupRun
  have inv' := rollupInvariant_of_run run'.rollupRun
  have hget := chainRow_get_eq left left' inv inv' hviews
  have hrows (row : ChainMetricValues) :
      row ∈ store.chainMetricValues.rows ↔ row ∈ store'.chainMetricValues.rows := by
    constructor
    · intro hrow
      have hid := inv.keyed row hrow
      have hsome := EntityTable.get_eq_some_iff.mpr ⟨hrow, hid⟩
      rw [hget] at hsome
      exact (EntityTable.get_eq_some_iff.mp hsome).1
    · intro hrow
      have hid := inv'.keyed row hrow
      have hsome := EntityTable.get_eq_some_iff.mpr ⟨hrow, hid⟩
      rw [← hget] at hsome
      exact (EntityTable.get_eq_some_iff.mp hsome).1
  refine ⟨hrows, ?_, ?_⟩
  · intro date
    rw [left.written, left'.written]
    constructor
    · rintro ⟨view, hview, hwrites⟩
      exact ⟨view, mem_afterRebases_of_viewsOf_eq hviews hview, hwrites⟩
    · rintro ⟨view, hview, hwrites⟩
      exact ⟨view, mem_afterRebases_of_viewsOf_eq (fun chain => (hviews chain).symm) hview, hwrites⟩
  · intro date row row' hrow hrow'
    obtain ⟨hdate, hmissing⟩ := left.missing date row hrow
    obtain ⟨hdate', hmissing'⟩ := left'.missing date row' hrow'
    have hid := (EntityTable.get_eq_some_iff.mp hrow).2
    have hid' := (EntityTable.get_eq_some_iff.mp hrow').2
    obtain ⟨count, hlast, hindex⟩ := left.ohmIndex date row hrow
    obtain ⟨count', hlast', hindex'⟩ := left'.ohmIndex date row' hrow'
    refine sameDateRow_of_inputs (chainRowsOf_perm hrows date) (hid.trans hid'.symm)
      (hdate.trans hdate'.symm) (inv.sums date row hrow) (inv'.sums date row' hrow')
      (inv.chains date row hrow) (inv'.chains date row' hrow') (inv.derived date row hrow)
      (inv'.derived date row' hrow') hmissing hmissing' ?_ ?_
    · rw [canonical_eq_of_latest left inv hrow, canonical_eq_of_latest left' inv' hrow',
        latest_eq_of_viewsOf_eq left left' hviews]
    · rw [hindex, hindex', hlast.count_eq hviews hlast']

end

/-! ### A store that returns every committed row -/

/-- The committed rows of the date of a snapshot. -/
def SnapshotInput.committedRows (s : SnapshotInput) (store : RollupStore) :
    List ChainMetricValues :=
  ((s.snapshot (storedIndex store) []).date.map (chainRowsOf store)).getD []

/-- They are an answer that the snapshot may read. -/
theorem SnapshotInput.readsFrom_committedRows {compound : BigNumber → BigNumber}
    {order : List ChainEvent} {es : List RollupEvent} {store : RollupStore}
    (run : CrossRun compound order es store) (s : SnapshotInput) :
    (s.snapshot (storedIndex store) (s.committedRows store)).ReadsFrom store := by
  intro date hdate
  have hdate' : (s.snapshot (storedIndex store) []).date = some date := hdate
  have hcommitted : s.committedRows store = chainRowsOf store date := by
    rw [committedRows, hdate']
    rfl
  have hnodup := chainIds_nodup (rollupInvariant_of_run run.rollupRun).keyed date
  constructor
  · exact (hcommitted ▸ List.Perm.refl _)
  · change ((s.committedRows store).filter _).length ≤ 1
    rw [hcommitted, ← List.countP_eq_length_filter]
    have hcount := List.nodup_iff_count_le_one.mp hnodup s.chain
    rw [List.count, List.countP_map] at hcount
    exact hcount

/-- Events can be processed in every order. -/
theorem exists_crossRun (compound : BigNumber → BigNumber) (order : List ChainEvent) :
    ∃ es store, CrossRun compound order es store := by
  induction order using List.reverseRecOn with
  | nil => exact ⟨_, _, .nil⟩
  | append_singleton order e ih =>
      obtain ⟨es, store, run⟩ := ih
      cases e with
      | snapshot s => exact ⟨_, _, .snapshot s _ run (s.readsFrom_committedRows run)⟩
      | logRebase srcAddress index epoch block timestamp =>
          exact ⟨_, _, .logRebase srcAddress index epoch block timestamp run⟩

/-! ### A rebase and the snapshots of two chains -/

/-- A snapshot of a chain on 14 November 2023, with 40 USDC of a wallet. -/
def novemberSnapshot (chain : ChainId) (usdc wallet : String) : SnapshotInput where
  chain := chain
  block := 18570000
  timestamp := 1700000000
  records := fun _ =>
    [createTokenRecord (chainConfigs chain) 1700000000 (getContractName (chainConfigs chain) usdc)
      usdc (getContractName (chainConfigs chain) wallet) wallet 1 (.finite 40) 18570000]
  supplyReads := ⟨none, fun _ _ => 0, fun _ _ => 0⟩
  earlierSupplies := fun _ => []
  laterSupplies := fun _ => []
  reads := fun _ => ⟨0, none, none⟩

def arbitrumSnapshot : SnapshotInput :=
  novemberSnapshot .arbitrum Chains.Arbitrum.erc20Usdc Chains.Arbitrum.crossChainArbitrum

def baseSnapshot : SnapshotInput :=
  novemberSnapshot .base Chains.Base.erc20Usdc Chains.Base.daoMultisig

/-- A rebase of the canonical sOHM. -/
def novemberRebase : ChainEvent :=
  .logRebase "0x04906695d6d12cf5459975d7c3c03356e4ccd460" 269000000000 1 18570000 1700000000

/-- One event of each of three chains. -/
def novemberHistories : ChainId → List ChainEvent
  | .arbitrum => [.snapshot arbitrumSnapshot]
  | .base => [.snapshot baseSnapshot]
  | .ethereum => [novemberRebase]
  | _ => []

/-- Three orders of these events, by the place of the rebase. -/
def rebaseFirst : List ChainEvent :=
  [novemberRebase, .snapshot arbitrumSnapshot, .snapshot baseSnapshot]

def rebaseFirstBaseSecond : List ChainEvent :=
  [novemberRebase, .snapshot baseSnapshot, .snapshot arbitrumSnapshot]

def rebaseLast : List ChainEvent :=
  [.snapshot arbitrumSnapshot, .snapshot baseSnapshot, novemberRebase]

theorem interleaves_november : Interleaves novemberHistories rebaseFirst ∧
    Interleaves novemberHistories rebaseFirstBaseSecond ∧
    Interleaves novemberHistories rebaseLast := by
  refine ⟨?_, ?_, ?_⟩ <;> (intro chain; cases chain <;> rfl)

theorem sameRollup_after_rebase :
    SeeAlike rebaseFirst rebaseFirstBaseSecond ∧ ∃ es es' store store',
      CrossRun id rebaseFirst es store ∧ CrossRun id rebaseFirstBaseSecond es' store' ∧
        SameRollup store store' := by
  have hsee : SeeAlike rebaseFirst rebaseFirstBaseSecond := by
    intro chain
    cases chain <;> rfl
  obtain ⟨es, store, run⟩ := exists_crossRun id rebaseFirst
  obtain ⟨es', store', run'⟩ := exists_crossRun id rebaseFirstBaseSecond
  exact ⟨hsee, es, es', store, store', run, run',
    sameRollup_of_seeAlike interleaves_november.1 interleaves_november.2.1 hsee run run'⟩

theorem novemberSnapshot_date (chain : ChainId) (usdc wallet : String)
    (indexState : Option OhmIndexState) :
    ((novemberSnapshot chain usdc wallet).snapshot indexState []).date = some "2023-11-14" := by
  have hdate : isoDate 1700000000 = "2023-11-14" := by decide +kernel
  simp [SnapshotInput.snapshot, Snapshot.date, snapshotDate, novemberSnapshot, createTokenRecord,
    hdate]

theorem isSome_writtenBy_november (rebases : List ChainEvent) (count : ℕ) :
    (writtenBy rebases "2023-11-14" (.snapshot arbitrumSnapshot, count)).isSome := by
  simp [writtenBy, arbitrumSnapshot, novemberSnapshot_date]

/-- Snapshots that are processed before the rebase leave another index in the row of their day. -/
theorem rollup_depends_on_order : ∃ order order' es es' store store',
    Interleaves novemberHistories order ∧ Interleaves novemberHistories order' ∧
      CrossRun id order es store ∧ CrossRun id order' es' store' ∧ ¬SameRollup store store' := by
  obtain ⟨es, store, run⟩ := exists_crossRun id rebaseLast
  obtain ⟨es', store', run'⟩ := exists_crossRun id rebaseFirst
  refine ⟨_, _, es, es', store, store', interleaves_november.2.2, interleaves_november.1, run,
    run', ?_⟩
  intro hsame
  have left := run.leftBy [novemberRebase] (List.prefix_refl _)
  have left' := run'.leftBy [novemberRebase] (List.prefix_refl _)
  have hwritten : (store.globalMetricSnapshot.get "2023-11-14").isSome :=
    (left.written _).mpr ⟨_, List.mem_cons_self, isSome_writtenBy_november _ _⟩
  have hwritten' := (hsame.dates _).mp hwritten
  obtain ⟨row, hrow⟩ := Option.isSome_iff_exists.mp hwritten
  obtain ⟨row', hrow'⟩ := Option.isSome_iff_exists.mp hwritten'
  obtain ⟨count, hlast, hindex⟩ := left.ohmIndex _ row hrow
  obtain ⟨count', hlast', hindex'⟩ := left'.ohmIndex _ row' hrow'
  have hzero : count = 0 := by
    obtain ⟨view, hview, -, rfl⟩ := hlast.writes
    simp [afterRebases, rebaseLast, ChainEvent.isRebase] at hview
    rcases hview with rfl | rfl | rfl <;> rfl
  have hone : count' = 1 := by
    obtain ⟨view, hview, hwrites, rfl⟩ := hlast'.writes
    simp [afterRebases, rebaseFirst, novemberRebase, ChainEvent.isRebase] at hview
    rcases hview with rfl | rfl | rfl
    · cases hwrites
    · rfl
    · rfl
  have heq : row.ohmIndex = row'.ohmIndex := by
    have hothers := (hsame.dateRows _ row row' hrow hrow').others
    simp only [GlobalMetricSnapshot.mk.injEq] at hothers
    simp [hothers]
  rw [hindex, hindex', hzero, hone] at heq
  revert heq
  decide +kernel

end OlympusMetrics
