import OlympusMetrics.Library.SharedSettling

/-!
Calls over a shared cache that give what the recursion without a cache gives.

The guard may answer a lookup for the keys of its own stack only, and only values
that were not cut off may be awaited.
-/

namespace OlympusMetrics.Lookup

variable {Q R K V E ι : Type} [DecidableEq K] {service : Service Q R K V E}

/-- Whether the next step of a call is answered for the lookups that it runs below only: a key in
flight is of its own stack, and an awaited value was not cut off. -/
def Call.isAligned (store : Store K V E) : Call Q R K V E → Bool
  | .active stack _ (.run (.ask key _)) => decide (key ∈ store.inFlight → key ∈ stack.keys)
  | .active _ _ (.await key serial _) =>
      match store.promises key serial with
      | .fulfilled _ cutOff => !cutOff
      | _ => true
  | _ => true

/-- The value of the key is cached for good. -/
def Store.Done (store : Store K V E) (key : K) : Prop :=
  key ∉ store.inFlight ∧ ∃ serial v cutOff, store.cache key = some serial ∧
    store.promises key serial = .fulfilled v cutOff

section done

variable {store : Store K V E} {key k : K}

omit [DecidableEq K] in
theorem Store.Done.cache_ne_none (h : store.Done k) : store.cache k ≠ none := by
  obtain ⟨-, serial, v, cutOff, hcache, -⟩ := h
  simp [hcache]

theorem Store.Done.start (h : store.Done k) (hnone : store.cache key = none) :
    (store.start key).Done k := by
  have hne : k ≠ key := by
    rintro rfl
    exact h.cache_ne_none hnone
  obtain ⟨hnot, serial, v, cutOff, hcache, hvalue⟩ := h
  refine ⟨fun hmem => ?_, serial, v, cutOff, ?_, ?_⟩
  · exact hnot ((Finset.mem_insert.mp hmem).resolve_left hne)
  · simp only [Store.start, Function.update_of_ne hne, hcache]
  · simp only [Store.start, Function.update_of_ne hne, hvalue]

theorem Store.Done.release (h : store.Done k) (key : K) : (store.release key).Done k :=
  ⟨fun hmem => h.1 (Finset.mem_of_mem_erase hmem), h.2⟩

theorem Store.Done.drop (h : store.Done k) (hkey : key ∈ store.inFlight) :
    (store.drop key).Done k := by
  have hne : k ≠ key := by
    rintro rfl
    exact h.1 hkey
  obtain ⟨hnot, serial, v, cutOff, hcache, hvalue⟩ := h
  refine ⟨hnot, serial, v, cutOff, ?_, hvalue⟩
  simp only [Store.drop, Function.update_of_ne hne, hcache]

theorem Store.settle_of_fulfilled {serial n : ℕ} {result : Except E V} {cutOff cutOff' : Bool}
    {v : V} (h : store.promises k n = .fulfilled v cutOff') :
    (store.settle key serial result cutOff).promises k n = .fulfilled v cutOff' := by
  by_cases heq : (k, n) = (key, serial)
  · obtain ⟨rfl, rfl⟩ := Prod.mk.inj heq
    rw [Store.settle_promises_self, h]
    rfl
  · rw [Store.settle_promises_of_ne heq, h]

theorem Store.Done.settle (h : store.Done k) (key : K) (serial : ℕ) (result : Except E V)
    (cutOff : Bool) : (store.settle key serial result cutOff).Done k := by
  obtain ⟨hnot, n, v, cutOff', hcache, hvalue⟩ := h
  exact ⟨hnot, n, v, cutOff', hcache, Store.settle_of_fulfilled hvalue⟩

end done

/-- The values that were not cut off are those of the recursion without a cache, which touched values
that are cached for good. -/
def Store.Sound (service : Service Q R K V E) (store : Store K V E) : Prop :=
  ∀ key serial v, store.cache key = some serial →
    store.promises key serial = .fulfilled v false →
      ∃ touched, Eval service [key] (service.body key) (.ok v) touched ∧
        ∀ k ∈ touched, store.Done k

/-- What is left of a computation: `p` gives what `origin` gives, which touched cut keys and
values that are cached for good. -/
structure Explained (service : Service Q R K V E) (store : Store K V E) (inFlight : List K)
    (origin p : Prog Q R K V E V) (cuts touched : List K) : Prop where
  eval : ∀ r touched', Eval service inFlight p r touched' →
    ∃ t, Eval service inFlight origin r t ∧ t ⊆ touched ++ touched'
  cuts : ∀ k ∈ touched, k ∈ inFlight → k ∈ cuts
  done : (∀ e, p ≠ .fail e) → ∀ k ∈ touched, k ∈ inFlight ∨ store.Done k

section explained

variable {store store' : Store K V E} {inFlight cuts cuts' touched : List K}
  {origin p p' : Prog Q R K V E V}

omit [DecidableEq K] in
theorem explained_start (service : Service Q R K V E) (store : Store K V E) (inFlight cuts : List K)
    (p : Prog Q R K V E V) : Explained service store inFlight p p cuts [] where
  eval := fun _ touched' h => ⟨touched', h, by simp⟩
  cuts := fun _ h => nomatch h
  done := fun _ _ h => nomatch h

omit [DecidableEq K] in
theorem Explained.mono (h : Explained service store inFlight origin p cuts touched)
    (hdone : ∀ k, store.Done k → store'.Done k) :
    Explained service store' inFlight origin p cuts touched where
  eval := h.eval
  cuts := h.cuts
  done := fun hp k hk => (h.done hp k hk).imp_right (hdone k)

omit [DecidableEq K] in
/-- A step of the computation that touches more keys. -/
theorem Explained.step (h : Explained service store inFlight origin p cuts touched)
    (hp : ∀ e, p ≠ .fail e) (more : List K)
    (heval : ∀ r touched', Eval service inFlight p' r touched' →
      ∃ t, Eval service inFlight p r t ∧ t ⊆ more ++ touched')
    (hcuts : ∀ k ∈ more, k ∈ inFlight → k ∈ cuts') (hsub : cuts ⊆ cuts')
    (hdone : (∀ e, p' ≠ .fail e) → ∀ k ∈ more, k ∈ inFlight ∨ store.Done k) :
    Explained service store inFlight origin p' cuts' (touched ++ more) where
  eval := by
    intro r touched' heval'
    obtain ⟨t, ht, htsub⟩ := heval r touched' heval'
    obtain ⟨t', ht', htsub'⟩ := h.eval r t ht
    refine ⟨t', ht', fun k hk => ?_⟩
    rcases List.mem_append.mp (htsub' hk) with hk | hk
    · simp [hk]
    · have hmem := htsub hk
      rw [List.append_assoc]
      exact List.mem_append_right _ hmem
  cuts := by
    intro k hk hflight
    rcases List.mem_append.mp hk with hk | hk
    · exact hsub (h.cuts k hk hflight)
    · exact hcuts k hk hflight
  done := by
    intro hp' k hk
    rcases List.mem_append.mp hk with hk | hk
    · exact h.done hp k hk
    · exact hdone hp' k hk

omit [DecidableEq K] in
/-- A computation that has ended gave what its origin gives. -/
theorem Explained.of_ret {v : V} (h : Explained service store inFlight origin (.ret v) cuts touched) :
    ∃ t, Eval service inFlight origin (.ok v) t ∧ t ⊆ touched := by
  obtain ⟨t, ht, hsub⟩ := h.eval (.ok v) [] (.ret v)
  exact ⟨t, ht, by simpa using hsub⟩

omit [DecidableEq K] in
theorem Explained.of_fail {e : E}
    (h : Explained service store inFlight origin (.fail e) cuts touched) :
    ∃ t, Eval service inFlight origin (.error e) t ∧ t ⊆ touched := by
  obtain ⟨t, ht, hsub⟩ := h.eval (.error e) [] (.fail e)
  exact ⟨t, ht, by simpa using hsub⟩

end explained

/-! ### Calls -/

/-- The computation that a stack runs: a lookup's body, or the call's own lookup. -/
def Stack.origin (service : Service Q R K V E) (callKey : K) :
    Stack Q R K V E → Prog Q R K V E V
  | .call => .ask callKey .ret
  | .frame key _ _ _ _ => service.body key

/-- What is left of a computation in a phase. -/
def Phase.prog : Phase Q R K V E → Prog Q R K V E V
  | .run p => p
  | .await key _ next => .ask key next
  | .caught e => .fail e
  | .released (.ok v) => .ret v
  | .released (.error e) => .fail e

/-- The computations that wait in a stack are explained. -/
def Stack.Explained (service : Service Q R K V E) (store : Store K V E) (callKey : K) :
    Stack Q R K V E → Prop
  | .call => True
  | .frame key _ next cuts outer =>
      (∃ touched, Lookup.Explained service store outer.keys (outer.origin service callKey)
        (.ask key next) cuts touched) ∧ outer.Explained service store callKey

def Call.Explained (service : Service Q R K V E) (store : Store K V E) (callKey : K) :
    Call Q R K V E → Prop
  | .idle key => key = callKey
  | .active stack cuts phase =>
      (∃ touched, Lookup.Explained service store stack.keys (stack.origin service callKey)
        phase.prog cuts touched) ∧ stack.Explained service store callKey
  | .settled r => ∃ touched, Eval service [] (.ask callKey .ret) r touched

section calls

variable {store store' : Store K V E} {callKey : K}

omit [DecidableEq K] in
theorem Stack.Explained.mono {stack : Stack Q R K V E}
    (h : stack.Explained service store callKey) (hdone : ∀ k, store.Done k → store'.Done k) :
    stack.Explained service store' callKey := by
  induction stack with
  | call => exact trivial
  | frame key serial next cuts outer ih =>
      obtain ⟨⟨touched, houter⟩, hrest⟩ := h
      exact ⟨⟨touched, houter.mono hdone⟩, ih hrest⟩

omit [DecidableEq K] in
theorem Call.Explained.mono {call : Call Q R K V E}
    (h : call.Explained service store callKey) (hdone : ∀ k, store.Done k → store'.Done k) :
    call.Explained service store' callKey := by
  cases call with
  | idle => exact h
  | settled => exact h
  | active stack cuts phase =>
      obtain ⟨⟨touched, hrun⟩, hstack⟩ := h
      exact ⟨⟨touched, hrun.mono hdone⟩, hstack.mono hdone⟩

/-- Steps only add values that are cached for good. -/
theorem Advances.done {call call' : Call Q R K V E}
    (h : Advances service store call store' call') (hfits : Fits store call) (k : K)
    (hk : store.Done k) : store'.Done k := by
  cases h with
  | start | read | cut | share | take | rethrow | finish | raise => exact hk
  | look _ hnone => exact hk.start hnone
  | give | release => exact hk.release _
  | drop => exact hk.drop (hfits.flight _ List.mem_cons_self)
  | settle => exact hk.settle _ _ _ _

section settle

variable {key : K} {serial : ℕ} {next : V → Prog Q R K V E V} {cuts outerCuts : List K}
  {outer : Stack Q R K V E} {v : V}

omit [DecidableEq K] in
/-- A lookup that has a value gave what its body gives, having touched its own stack and values that
are cached for good. -/
theorem exists_eval_body
    (h : (Call.active (.frame key serial next outerCuts outer) cuts
      (.released (.ok v))).Explained service store callKey) :
    ∃ touched, Eval service (key :: outer.keys) (service.body key) (.ok v) touched ∧
      (∀ k ∈ touched, k ∈ key :: outer.keys → k ∈ cuts) ∧
      ∀ k ∈ touched, k ∈ key :: outer.keys ∨ store.Done k := by
  obtain ⟨⟨touched, hrun⟩, -⟩ := h
  obtain ⟨t, ht, hsub⟩ := hrun.of_ret
  exact ⟨t, ht, fun k hk => hrun.cuts k (hsub hk),
    fun k hk => hrun.done (fun _ h => nomatch h) k (hsub hk)⟩

theorem Store.Sound.settle_ok (hsound : store.Sound service) (hnot : key ∉ store.inFlight)
    (hflight : ∀ k ∈ outer.keys, k ∈ store.inFlight)
    (h : (Call.active (.frame key serial next outerCuts outer) cuts
      (.released (.ok v))).Explained service store callKey) :
    (store.settle key serial (.ok v)
      (!(cuts.filter (fun cut => cut ≠ key)).isEmpty)).Sound service := by
  obtain ⟨touched, heval, hcuts, hdone⟩ := exists_eval_body h
  intro k n w hcache hvalue
  have hold (hvalue' : store.promises k n = .fulfilled w false) :
      ∃ t, Eval service [k] (service.body k) (.ok w) t ∧ ∀ k' ∈ t, (store.settle key serial (.ok v)
        (!(cuts.filter (fun cut => cut ≠ key)).isEmpty)).Done k' := by
    obtain ⟨t, ht, htdone⟩ := hsound k n w hcache hvalue'
    exact ⟨t, ht, fun k' hk' => (htdone k' hk').settle _ _ _ _⟩
  by_cases heq : (k, n) = (key, serial)
  · obtain ⟨rfl, rfl⟩ := Prod.mk.inj heq
    have hself := hvalue
    rw [Store.settle_promises_self] at hvalue
    cases hpromise : store.promises k n with
    | fulfilled v' cutOff' =>
        rw [hpromise] at hvalue
        exact hold (hpromise.trans hvalue)
    | rejected e => rw [hpromise] at hvalue; exact nomatch hvalue
    | pending =>
        rw [hpromise] at hvalue
        obtain ⟨rfl, hclean⟩ := Promise.fulfilled.inj hvalue
        rw [Bool.not_eq_false', List.isEmpty_iff] at hclean
        -- The guard answered nothing above the lookup, so its body can be run alone.
        have houter : ∀ k' ∈ touched, k' ∉ outer.keys := by
          intro k' hk' hmem
          have hne : k' ≠ k := fun heq => hnot (heq ▸ hflight k' hmem)
          have hcut := hcuts k' hk' (List.mem_cons_of_mem _ hmem)
          have hfilter : k' ∈ cuts.filter (fun cut => cut ≠ k) :=
            List.mem_filter.mpr ⟨hcut, decide_eq_true hne⟩
          rw [hclean] at hfilter
          exact absurd hfilter List.not_mem_nil
        refine ⟨touched, ?_, fun k' hk' => ?_⟩
        · exact Eval.change_outer [k] outer.keys [] heval houter (fun _ _ => List.not_mem_nil)
        · rcases hdone k' hk' with hmem | hdone
          · obtain rfl := (List.mem_cons.mp hmem).resolve_right (houter k' hk')
            exact ⟨hnot, n, v, _, hcache, hself⟩
          · exact hdone.settle _ _ _ _
  · rw [Store.settle_promises_of_ne heq] at hvalue
    exact hold hvalue

end settle

theorem Advances.sound {call call' : Call Q R K V E}
    (h : Advances service store call store' call') (hfits : Fits store call)
    (hexplained : call.Explained service store callKey) (hsound : store.Sound service) :
    store'.Sound service := by
  have hkept (hcache : store'.cache = store.cache) (hpromises : store'.promises = store.promises) :
      store'.Sound service := by
    intro k n v hk hvalue
    rw [hcache] at hk
    rw [hpromises] at hvalue
    obtain ⟨t, ht, htdone⟩ := hsound k n v hk hvalue
    exact ⟨t, ht, fun k' hk' => h.done hfits k' (htdone k' hk')⟩
  cases h with
  | start | read | cut | share | take | rethrow | give | release | finish | raise =>
      exact hkept rfl rfl
  | @look stack cuts key next hnot hnone =>
      intro k n v hk hvalue
      by_cases heq : k = key
      · subst heq
        obtain rfl : store.created = n := by simpa [Store.start] using hk
        simp [Store.start] at hvalue
      · simp only [Store.start, Function.update_of_ne heq] at hk hvalue
        obtain ⟨t, ht, htdone⟩ := hsound k n v hk hvalue
        exact ⟨t, ht, fun k' hk' => (htdone k' hk').start hnone⟩
  | @drop key serial next outerCuts outer cuts e =>
      intro k n v hk hvalue
      by_cases heq : k = key
      · subst heq
        simp [Store.drop] at hk
      · simp only [Store.drop, Function.update_of_ne heq] at hk hvalue
        obtain ⟨t, ht, htdone⟩ := hsound k n v hk hvalue
        have hflight := hfits.flight key List.mem_cons_self
        exact ⟨t, ht, fun k' hk' => (htdone k' hk').drop hflight⟩
  | @settle key serial next outerCuts outer cuts result =>
      cases result with
      | ok v => exact hsound.settle_ok (hfits.freed (key, serial) List.mem_cons_self) hfits.flight hexplained
      | error e =>
          intro k n v hk hvalue
          have hne : (k, n) ≠ (key, serial) := by
            intro heq
            obtain ⟨rfl, rfl⟩ := Prod.mk.inj heq
            exact hfits.dropped (k, n) List.mem_cons_self hk
          rw [Store.settle_promises_of_ne hne] at hvalue
          obtain ⟨t, ht, htdone⟩ := hsound k n v hk hvalue
          exact ⟨t, ht, fun k' hk' => (htdone k' hk').settle _ _ _ _⟩

section explained

variable {stack outer : Stack Q R K V E} {key : K} {serial : ℕ} {next : V → Prog Q R K V E V}
  {cuts outerCuts : List K}

omit [DecidableEq K] in
theorem Call.Explained.cut
    (h : (Call.active stack cuts (.run (.ask key next))).Explained service store callKey)
    (hkey : key ∈ stack.keys) :
    (Call.active stack (cuts ++ [key]) (.run (next (service.fallback key)))).Explained service
      store callKey := by
  obtain ⟨⟨touched, hrun⟩, hstack⟩ := h
  refine ⟨⟨_, hrun.step (fun _ h => nomatch h) [key] (fun r t ht => ?_) (fun k hk _ => ?_)
    (List.subset_append_left _ _) (fun _ k hk => ?_)⟩, hstack⟩
  · exact ⟨_, .cut hkey ht, List.Subset.refl _⟩
  · exact List.mem_append_right _ hk
  · obtain rfl := List.mem_singleton.mp hk
    exact Or.inl hkey

omit [DecidableEq K] in
/-- A value that was not cut off is what the lookup gives below any stack. -/
theorem Call.Explained.take {v : V}
    (h : (Call.active stack cuts (.await key serial next)).Explained service store callKey)
    (hfits : Fits store (Call.active stack cuts (.await key serial next) : Call Q R K V E))
    (hsound : store.Sound service) (hvalue : store.promises key serial = .fulfilled v false) :
    (Call.active stack cuts (.run (next v))).Explained service store callKey := by
  obtain ⟨⟨touched, hrun⟩, hstack⟩ := h
  obtain ⟨hcache, hnot⟩ := hfits.awaited (key, serial) List.mem_cons_self
  obtain ⟨t, ht, htdone⟩ := hsound key serial v hcache hvalue
  have houter : ∀ k ∈ t, k ∉ stack.keys := fun k hk hmem => (htdone k hk).1 (hfits.flight k hmem)
  have hkey : key ∉ stack.keys := fun hmem => hnot (hfits.flight key hmem)
  have hbody : Eval service (key :: stack.keys) (service.body key) (.ok v) t :=
    Eval.change_outer [key] [] stack.keys ht (fun _ _ => List.not_mem_nil) houter
  refine ⟨⟨_, hrun.step (fun _ h => nomatch h) (key :: t) (fun r t' ht' => ?_) (fun k hk hmem => ?_)
    (List.Subset.refl _) (fun _ k hk => Or.inr ?_)⟩, hstack⟩
  · exact ⟨_, .ok hkey hbody ht', List.Subset.refl _⟩
  · rcases List.mem_cons.mp hk with rfl | hk
    · exact absurd hmem hkey
    · exact absurd hmem (houter k hk)
  · rcases List.mem_cons.mp hk with rfl | hk
    · exact ⟨hnot, serial, v, false, hcache, hvalue⟩
    · exact htdone k hk

omit [DecidableEq K] in
theorem Call.Explained.look
    (h : (Call.active stack cuts (.run (.ask key next))).Explained service store callKey)
    (serial : ℕ) :
    (Call.active (.frame key serial next cuts stack) [] (.run (service.body key))).Explained
      service store callKey := by
  obtain ⟨hrun, hstack⟩ := h
  exact ⟨⟨[], explained_start service store (key :: stack.keys) [] (service.body key)⟩, hrun, hstack⟩

theorem Call.Explained.settle {result : Except E V}
    (h : (Call.active (.frame key serial next outerCuts outer) cuts
      (.released result)).Explained service store callKey)
    (hfits : Fits store
      (Call.active (.frame key serial next outerCuts outer) cuts (.released result)))
    (hrejected : ∀ key serial, store.cache key = some serial →
      ∀ e, store.promises key serial ≠ .rejected e)
    (hnot : key ∉ outer.keys) (cutOff : Bool) :
    (Call.active outer (outerCuts ++ cuts.filter (fun cut => cut ≠ key))
      (.run (resume next result))).Explained service (store.settle key serial result cutOff)
        callKey := by
  have hmono (k : K) (hk : store.Done k) : (store.settle key serial result cutOff).Done k :=
    hk.settle _ _ _ _
  have hfilter {touched : List K} (hcuts : ∀ k ∈ touched, k ∈ key :: outer.keys → k ∈ cuts) :
      ∀ k ∈ key :: touched, k ∈ outer.keys →
        k ∈ outerCuts ++ cuts.filter (fun cut => cut ≠ key) := by
    intro k hk hmem
    have hne : k ≠ key := fun heq => hnot (heq ▸ hmem)
    have hk := (List.mem_cons.mp hk).resolve_left hne
    refine List.mem_append_right _ (List.mem_filter.mpr ⟨?_, decide_eq_true hne⟩)
    exact hcuts k hk (List.mem_cons_of_mem _ hmem)
  have hwhole := h
  obtain ⟨⟨touched, hrun⟩, ⟨touched', hnext⟩, hstack⟩ := h
  refine ⟨?_, hstack.mono hmono⟩
  cases result with
  | error e =>
      obtain ⟨t, ht, hsub⟩ := hrun.of_fail
      have hcuts := hfilter (fun k hk => hrun.cuts k (hsub hk))
      refine ⟨_, (hnext.mono hmono).step (fun _ h => nomatch h) (key :: t) (fun r t' ht' => ?_)
        hcuts (List.subset_append_left _ _) (fun hne => absurd rfl (hne e))⟩
      cases ht' with
      | fail => exact ⟨_, .error hnot ht, by simp⟩
  | ok v =>
      obtain ⟨t, ht, hcuts, hdone⟩ := exists_eval_body hwhole
      have hkey : (store.settle key serial (.ok v) cutOff).Done key := by
        have hcache := hfits.live (key, serial) List.mem_cons_self
        have hflight := hfits.freed (key, serial) List.mem_cons_self
        cases hpromise : store.promises key serial with
        | pending =>
            refine ⟨hflight, serial, v, cutOff, hcache, ?_⟩
            rw [Store.settle_promises_self, hpromise]
            rfl
        | fulfilled v' cutOff' =>
            exact ⟨hflight, serial, v', cutOff', hcache, Store.settle_of_fulfilled hpromise⟩
        | rejected e => exact absurd hpromise (hrejected key serial hcache e)
      refine ⟨_, (hnext.mono hmono).step (fun _ h => nomatch h) (key :: t) (fun r t' ht' => ?_)
        (hfilter hcuts) (List.subset_append_left _ _) (fun _ k hk => ?_)⟩
      · exact ⟨_, .ok hnot ht ht', List.Subset.refl _⟩
      · rcases List.mem_cons.mp hk with rfl | hk
        · exact Or.inr hkey
        · rcases hdone k hk with hmem | hdone
          · rcases List.mem_cons.mp hmem with rfl | hmem
            · exact Or.inr hkey
            · exact Or.inl hmem
          · exact Or.inr (hmono k hdone)

end explained

end calls

/-! ### Runs -/

section runs

variable [DecidableEq ι] {s s' : Scope ι Q R K V E} {calls : ι → K}

/-- The result of a call that is settled. -/
def Call.result : Call Q R K V E → Option (Except E V)
  | .settled r => some r
  | _ => none

end runs

end OlympusMetrics.Lookup
