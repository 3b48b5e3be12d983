import OlympusMetrics.Library.SharedLookup
import Mathlib.Data.DFinsupp.WellFounded

/-!
Calls over a shared cache settle and leave nothing in flight.

Every body asks for finitely many keys. The keys of a stack are distinct, so a
stack cannot grow for ever, and what a call awaits is never held by a lookup that
still has to ask for something.
-/

namespace OlympusMetrics.Lookup

variable {Q R K V E ι : Type} [DecidableEq K] {service : Service Q R K V E}

/-! ### A single call -/

/-- A step of a call whatever the other calls do to the store, or a read of a body that throws. -/
inductive CallStep (service : Service Q R K V E) : Call Q R K V E → Call Q R K V E → Prop
  | advance {store store' call call'} (hfits : Fits store call)
      (h : Advances service store call store' call') : CallStep service call call'
  | throw (e : E) {key serial next outerCuts outer cuts p} (hp : ∀ e', p ≠ .fail e') :
      CallStep service (.active (.frame key serial next outerCuts outer) cuts (.run p))
        (.active (.frame key serial next outerCuts outer) cuts (.run (.fail e)))

/-- Every run of the call is finite. -/
def Terminates (service : Service Q R K V E) (call : Call Q R K V E) : Prop :=
  Acc (fun call' call => CallStep service call call') call

theorem terminates_settled (result : Except E V) : Terminates service (.settled result) := by
  refine Acc.intro _ (fun call' hstep => ?_)
  cases hstep with
  | advance _ h => exact nomatch h

/-- What follows the end of a body. -/
theorem terminates_released {key : K} {serial : ℕ} {next : V → Prog Q R K V E V}
    {outerCuts cuts : List K} {outer : Stack Q R K V E} {result : Except E V}
    (h : ∀ cuts, Terminates service (.active outer cuts (.run (resume next result)))) :
    Terminates service
      (.active (.frame key serial next outerCuts outer) cuts (.released result)) := by
  refine Acc.intro _ (fun call' hstep => ?_)
  cases hstep with
  | advance _ hadvance =>
      cases hadvance with
      | settle => exact h _

theorem terminates_fail (stack : Stack Q R K V E) (cuts : List K) (e : E) :
    Terminates service (.active stack cuts (.run (.fail e))) := by
  induction stack generalizing cuts with
  | call =>
      refine Acc.intro _ (fun call' hstep => ?_)
      cases hstep with
      | advance _ hadvance =>
          cases hadvance with
          | raise => exact terminates_settled _
  | frame key serial next outerCuts outer ih =>
      refine Acc.intro _ (fun call' hstep => ?_)
      cases hstep with
      | throw e' hp => exact absurd rfl (hp e)
      | advance _ hadvance =>
          cases hadvance with
          | drop =>
              refine Acc.intro _ (fun call' hstep => ?_)
              cases hstep with
              | advance _ hadvance =>
                  cases hadvance with
                  | release => exact terminates_released ih

theorem terminates_ret_call (cuts : List K) (v : V) :
    Terminates service (.active .call cuts (.run (.ret v))) := by
  refine Acc.intro _ (fun call' hstep => ?_)
  cases hstep with
  | advance _ hadvance =>
      cases hadvance with
      | finish => exact terminates_settled _

theorem terminates_ret_frame {key : K} {serial : ℕ} {next : V → Prog Q R K V E V}
    {outerCuts : List K} {outer : Stack Q R K V E}
    (h : ∀ v cuts, Terminates service (.active outer cuts (.run (next v)))) (cuts : List K) (v : V) :
    Terminates service (.active (.frame key serial next outerCuts outer) cuts (.run (.ret v))) := by
  refine Acc.intro _ (fun call' hstep => ?_)
  cases hstep with
  | throw e hp => exact terminates_fail _ _ e
  | advance _ hadvance =>
      cases hadvance with
      | give => exact terminates_released (h v)

/-- A computation below a stack terminates when what follows its value does. The outer induction is
on the number of keys that can still join the stack, the inner one on the computation. -/
theorem terminates_run {queries : Q → Prop} {keys : List K}
    (hkeys : ∀ key ∈ keys, (service.body key).Within queries (· ∈ keys)) {room : ℕ}
    {stack : Stack Q R K V E} (hroom : (keys.filter (fun key => key ∉ stack.keys)).length < room)
    (hret : ∀ v cuts, Terminates service (.active stack cuts (.run (.ret v))))
    {p : Prog Q R K V E V} (hp : p.Within queries (· ∈ keys)) (cuts : List K) :
    Terminates service (.active stack cuts (.run p)) := by
  induction room generalizing stack p cuts with
  | zero => exact absurd hroom (Nat.not_lt_zero _)
  | succ room ihroom =>
      induction p generalizing cuts with
      | ret v => exact hret v cuts
      | fail e => exact terminates_fail stack cuts e
      | read q next ih =>
          refine Acc.intro _ (fun call' hstep => ?_)
          cases hstep with
          | throw e hthrow => exact terminates_fail _ _ e
          | advance _ hadvance =>
              cases hadvance with
              | read => exact ih _ (hp.2 _) _
      | ask key next ih =>
          have hnext (v : V) (cuts : List K) :
              Terminates service (.active stack cuts (.run (next v))) := ih v (hp.2 v) cuts
          refine Acc.intro _ (fun call' hstep => ?_)
          cases hstep with
          | throw e hthrow => exact terminates_fail _ _ e
          | advance hfits hadvance =>
              cases hadvance with
              | cut => exact hnext _ _
              | share =>
                  refine Acc.intro _ (fun call' hstep => ?_)
                  cases hstep with
                  | advance _ hadvance =>
                      cases hadvance with
                      | take => exact hnext _ _
                      | rethrow => exact terminates_fail _ _ _
              | look hnot =>
                  have hstack : key ∉ stack.keys := fun hmem => hnot (hfits.flight key hmem)
                  refine ihroom ?_ (fun v cuts => terminates_ret_frame hnext cuts v)
                    (hkeys key hp.1) []
                  have hlt := room_lt hp.1 hstack
                  exact hlt.trans_le (Nat.le_of_lt_succ hroom)

theorem terminates_idle {queries : Q → Prop} {keys : List K}
    (hkeys : ∀ key ∈ keys, (service.body key).Within queries (· ∈ keys)) {key : K}
    (hkey : key ∈ keys) : Terminates service (.idle key) := by
  refine Acc.intro _ (fun call' hstep => ?_)
  cases hstep with
  | advance _ hadvance =>
      cases hadvance with
      | start =>
          exact terminates_run hkeys (Nat.lt_succ_self _) (fun v cuts => terminates_ret_call cuts v)
            (p := .ask key .ret) ⟨hkey, fun _ => trivial⟩ []

/-! ### All calls -/

section

variable [DecidableEq ι] {s s' : Scope ι Q R K V E} {i : ι}

theorem StepOf.callStep (hstep : StepOf service i s s') (h : s.Inv) :
    ∃ call', CallStep service (s.calls i) call' ∧ s'.calls = Function.update s.calls i call' := by
  cases hstep with
  | advance hadvance =>
      exact ⟨_, .advance (h.fits i) (Call.advances_of_advance hadvance), rfl⟩
  | throw e hcall hp =>
      refine ⟨_, ?_, rfl⟩
      rw [hcall]
      exact .throw e hp

/-- Calls that terminate alone terminate together: a step brings one of them nearer to its end and
leaves the others where they are. -/
theorem acc_step [Finite ι] (h : s.Inv) (hcalls : ∀ i, Terminates service (s.calls i)) :
    Acc (fun s' s => Step service s s') s := by
  have hwf : WellFounded (fun call' call : Call Q R K V E =>
      Terminates service call ∧ CallStep service call call') := by
    refine ⟨fun call => Acc.intro _ (fun call' hstep => ?_)⟩
    have hacc : Terminates service call' := hstep.1.inv hstep.2
    exact Subrelation.accessible (fun hsub => hsub.2) hacc
  have hlex := @Pi.Lex.wellFounded ι (fun _ => Call Q R K V E) WellOrderingRel
    (fun _ call' call => Terminates service call ∧ CallStep service call call') _ _ (fun _ => hwf)
  generalize hstart : s.calls = calls
  induction calls using hlex.induction generalizing s with
  | _ calls ih =>
      subst hstart
      refine Acc.intro _ (fun s' hstep => ?_)
      obtain ⟨i, hstep⟩ := hstep
      obtain ⟨call', hcall, heq⟩ := hstep.callStep h
      refine ih s'.calls ⟨i, fun j hj => ?_, ?_⟩ (hstep.inv h) (fun j => ?_) rfl
      · rw [heq, Function.update_of_ne (fun hji => ?_)]
        subst hji
        exact irrefl_of WellOrderingRel j hj
      · rw [heq, Function.update_self]
        exact ⟨hcalls i, hcall⟩
      · rw [heq]
        refine (Function.forall_update_iff s.calls (fun _ => Terminates service)).mpr ?_ j
        exact ⟨(hcalls i).inv hcall, fun j _ => hcalls j⟩

/-- No run of calls whose bodies ask for finitely many keys is infinite. -/
theorem no_infinite_run [Finite ι] {queries : Q → Prop} {keys : List K}
    (hkeys : ∀ key ∈ keys, (service.body key).Within queries (· ∈ keys)) {calls : ι → K}
    (hcalls : ∀ i, calls i ∈ keys) :
    ¬ ∃ run : ℕ → Scope ι Q R K V E, run 0 = .initial calls ∧
      ∀ n, Step service (run n) (run (n + 1)) := by
  rintro ⟨run, hstart, hrun⟩
  have hacc : Acc (fun s' s => Step service s s') (Scope.initial calls) :=
    acc_step (inv_initial calls) (fun i => terminates_idle hkeys (hcalls i))
  exact (acc_iff_isEmpty_descending_chain.mp hacc).false ⟨run, hstart, hrun⟩

/-! ### Progress -/

def Call.isActive : Call Q R K V E → Bool
  | .active _ _ _ => true
  | _ => false

/-- The phases after the body of a lookup. -/
def Phase.isEnding : Phase Q R K V E → Bool
  | .caught _ => true
  | .released _ => true
  | _ => false

/-- Only lookups have bodies that end. -/
def Call.Shaped : Call Q R K V E → Prop
  | .active .call _ phase => phase.isEnding = false
  | _ => True

omit [DecidableEq K] [DecidableEq ι] in
theorem shaped_of_not_isEnding {stack : Stack Q R K V E} {cuts : List K} {phase : Phase Q R K V E}
    (h : phase.isEnding = false) : (Call.active stack cuts phase).Shaped := by
  cases stack with
  | call => exact h
  | frame => exact trivial

omit [DecidableEq ι] in
theorem Advances.shaped {store store' : Store K V E} {call call' : Call Q R K V E}
    (h : Advances service store call store' call') : call'.Shaped := by
  cases h with
  | start | read | cut | share | look | take | rethrow | settle => exact shaped_of_not_isEnding rfl
  | give | drop | release | finish | raise => exact trivial

theorem Reachable.shaped {keys : ι → K} (h : Reachable service keys s) (i : ι) :
    (s.calls i).Shaped := by
  induction h generalizing i with
  | refl => exact trivial
  | tail _ hstep ih =>
      obtain ⟨j, hstep⟩ := hstep
      cases hstep with
      | advance hadvance =>
          refine (Function.forall_update_iff _ (fun _ c => Call.Shaped c)).mpr ⟨?_, fun i _ => ih i⟩ i
          exact (Call.advances_of_advance hadvance).shaped
      | throw e hcall hp =>
          refine (Function.forall_update_iff _ (fun _ c => Call.Shaped c)).mpr ⟨?_, fun i _ => ih i⟩ i
          exact trivial

/-- An active call can step, unless it awaits a promise. -/
theorem isSome_advance {store : Store K V E} {stack : Stack Q R K V E} {cuts : List K}
    {phase : Phase Q R K V E} (hshaped : (Call.active stack cuts phase).Shaped)
    (hawait : ∀ key serial next, phase ≠ .await key serial next) :
    ((Call.active stack cuts phase).advance service store).isSome := by
  cases phase with
  | await key serial next => exact absurd rfl (hawait key serial next)
  | caught e =>
      cases stack with
      | call => exact nomatch hshaped
      | frame => rfl
  | released result =>
      cases stack with
      | call => exact nomatch hshaped
      | frame => rfl
  | run p =>
      cases p with
      | ret v => cases stack <;> rfl
      | fail e => cases stack <;> rfl
      | read q next => cases stack <;> rfl
      | ask key next =>
          rw [Call.advance]
          split
          · rfl
          · split <;> rfl

omit [DecidableEq ι] in
/-- While a call is active, some active call can step: what it awaits is settled, or about to be. -/
theorem exists_isSome_advance (h : s.Inv) (hshaped : ∀ i, (s.calls i).Shaped)
    (hactive : (s.calls i).isActive = true) :
    ∃ j, (s.calls j).isActive = true ∧ ((s.calls j).advance service s.store).isSome := by
  cases hcall : s.calls i with
  | idle key => cases hcall ▸ hactive
  | settled result => cases hcall ▸ hactive
  | active stack cuts phase =>
      have hshape := hshaped i
      rw [hcall] at hshape
      by_cases hawait : ∀ key serial next, phase ≠ .await key serial next
      · refine ⟨i, hactive, ?_⟩
        rw [hcall]
        exact isSome_advance hshape hawait
      · push Not at hawait
        obtain ⟨key, serial, next, rfl⟩ := hawait
        have hfits := h.fits i
        rw [hcall] at hfits
        obtain ⟨hcache, hnot⟩ := hfits.awaited (key, serial) List.mem_cons_self
        rcases h.cached key serial hcache with ⟨v, cutOff, hvalue⟩ | ⟨-, j, hlive⟩
        · refine ⟨i, hactive, ?_⟩
          rw [hcall]
          simp [Call.advance, hvalue]
        · -- The body of the awaited lookup has returned, or its key would be in flight.
          have hfreed : (key, serial) ∈ (s.calls j).freed := by
            refine (Call.live_cases hlive).resolve_left (fun hin => ?_)
            exact hnot ((h.fits j).flight key hin)
          have hshape' := hshaped j
          cases hcall' : s.calls j with
          | idle key => cases hcall' ▸ hfreed
          | settled result => cases hcall' ▸ hfreed
          | active stack' cuts' phase' =>
              rw [hcall'] at hfreed hshape'
              refine ⟨j, by rw [hcall']; rfl, ?_⟩
              rw [hcall']
              refine isSome_advance hshape' ?_
              rintro key' serial' next' rfl
              cases hfreed

/-! ### What settled calls leave -/

omit [DecidableEq K] [DecidableEq ι] in
/-- What a call awaits is not the key of one of its own lookups. -/
theorem notMem_keys_of_await (h : s.Inv) {stack : Stack Q R K V E} {cuts : List K} {key : K}
    {serial : ℕ} {next : V → Prog Q R K V E V}
    (hcall : s.calls i = .active stack cuts (.await key serial next)) : key ∉ stack.keys := by
  have hfits := h.fits i
  rw [hcall] at hfits
  exact fun hmem => (hfits.awaited (key, serial) List.mem_cons_self).2 (hfits.flight key hmem)

omit [DecidableEq K] [DecidableEq ι] in
theorem isActive_of_mem_inFlight {call : Call Q R K V E} {key : K} (h : key ∈ call.inFlight) :
    call.isActive = true := by
  cases call with
  | idle => exact nomatch h
  | active => rfl
  | settled => exact nomatch h

omit [DecidableEq K] [DecidableEq ι] in
/-- A key in flight is that of a lookup of an active call. -/
theorem exists_active_of_mem_inFlight (h : s.Inv) {key : K} (hkey : key ∈ s.store.inFlight) :
    ∃ i, (s.calls i).isActive = true ∧ key ∈ (s.calls i).inFlight := by
  obtain ⟨i, hi⟩ := h.owned key hkey
  exact ⟨i, isActive_of_mem_inFlight hi, hi⟩

omit [DecidableEq K] [DecidableEq ι] in
theorem not_rejected_of_cached (h : s.Inv) {key : K} {serial : ℕ}
    (hcache : s.store.cache key = some serial) (e : E) :
    s.store.promises key serial ≠ .rejected e := by
  rcases h.cached key serial hcache with ⟨v, cutOff, hvalue⟩ | ⟨hpending, -⟩
  · simp [hvalue]
  · simp [hpending]

omit [DecidableEq K] [DecidableEq ι] in
/-- Without an active call every cached promise is fulfilled. -/
theorem fulfilled_of_cached (h : s.Inv) (hidle : ∀ i, (s.calls i).isActive = false) {key : K}
    {serial : ℕ} (hcache : s.store.cache key = some serial) :
    ∃ v cutOff, s.store.promises key serial = .fulfilled v cutOff := by
  refine (h.cached key serial hcache).resolve_right ?_
  rintro ⟨-, i, hlive⟩
  have hactive := hidle i
  cases hcall : s.calls i with
  | idle => exact nomatch hcall ▸ hlive
  | active => rw [hcall] at hactive; exact nomatch hactive
  | settled => exact nomatch hcall ▸ hlive

/-! ### A call that fails while no other runs -/

/-- The outermost lookup of the stack is that of a top-level call for the key. -/
def Stack.Rooted (key : K) : Stack Q R K V E → Prop
  | .call => True
  | .frame k _ next _ .call => k = key ∧ next = .ret
  | .frame _ _ _ _ outer => outer.Rooted key

/-- What holds of a call for the key, and of the store, while no other call steps. -/
structure Uncached (key : K) (store : Store K V E) (call : Call Q R K V E) : Prop where
  idle : ∀ k, call = .idle k → k = key
  rooted : ∀ stack cuts phase, call = .active stack cuts phase → stack.Rooted key
  dropped : ∀ f ∈ call.dropped, store.cache f.1 = none
  root : ∀ cuts p, call = .active .call cuts (.run p) →
    p = .ask key .ret ∨ (∃ v, p = .ret v) ∨ (∃ e, p = .fail e) ∧ store.cache key = none
  await : ∀ cuts k n next, call = .active .call cuts (.await k n next) → next = .ret
  settled : ∀ e, call = .settled (.error e) → store.cache key = none

omit [DecidableEq K] [DecidableEq ι] in
theorem Stack.Rooted.outer {key k : K} {n : ℕ} {next : V → Prog Q R K V E V} {cuts : List K}
    {outer : Stack Q R K V E} (h : (Stack.frame k n next cuts outer).Rooted key) :
    outer.Rooted key := by
  cases outer with
  | call => exact trivial
  | frame => exact h

omit [DecidableEq K] [DecidableEq ι] in
/-- A computation inside a lookup. -/
theorem Uncached.inside {key k : K} {n : ℕ} {next : V → Prog Q R K V E V} {outerCuts cuts : List K}
    {outer : Stack Q R K V E} {phase : Phase Q R K V E} {store : Store K V E}
    (hrooted : (Stack.frame k n next outerCuts outer).Rooted key)
    (hdropped : ∀ f ∈ (Call.active (.frame k n next outerCuts outer) cuts phase).dropped,
      store.cache f.1 = none) :
    Uncached key store (.active (.frame k n next outerCuts outer) cuts phase) where
  idle := fun _ h => nomatch h
  rooted := fun stack cuts phase h => by
    obtain ⟨rfl, -, -⟩ := Call.active.inj h
    exact hrooted
  dropped := hdropped
  root := fun _ _ h => nomatch h
  await := fun _ _ _ _ h => nomatch h
  settled := fun _ h => nomatch h

omit [DecidableEq K] [DecidableEq ι] in
/-- The computation of the call itself. -/
theorem Uncached.outside {key : K} {cuts : List K} {p : Prog Q R K V E V} {store : Store K V E}
    (hp : p = .ask key .ret ∨ (∃ v, p = .ret v) ∨ (∃ e, p = .fail e) ∧ store.cache key = none) :
    Uncached key store (.active .call cuts (.run p)) where
  idle := fun _ h => nomatch h
  rooted := fun stack cuts phase h => by
    obtain ⟨rfl, -, -⟩ := Call.active.inj h
    exact trivial
  dropped := fun _ hf => nomatch hf
  root := fun cuts p h => by
    obtain ⟨-, -, hrun⟩ := Call.active.inj h
    obtain rfl := Phase.run.inj hrun
    exact hp
  await := fun _ _ _ _ h => nomatch h
  settled := fun _ h => nomatch h

omit [DecidableEq K] [DecidableEq ι] in
theorem uncached_idle (key : K) (store : Store K V E) :
    Uncached key store (.idle key : Call Q R K V E) where
  idle := fun _ h => (Call.idle.inj h).symm
  rooted := fun _ _ _ h => nomatch h
  dropped := fun _ hf => nomatch hf
  root := fun _ _ h => nomatch h
  await := fun _ _ _ _ h => nomatch h
  settled := fun _ h => nomatch h

omit [DecidableEq K] [DecidableEq ι] in
theorem uncached_settled {key : K} {store : Store K V E} {result : Except E V}
    (h : ∀ e, result = .error e → store.cache key = none) :
    Uncached key store (.settled result : Call Q R K V E) where
  idle := fun _ h => nomatch h
  rooted := fun _ _ _ h => nomatch h
  dropped := fun _ hf => nomatch hf
  root := fun _ _ h => nomatch h
  await := fun _ _ _ _ h => nomatch h
  settled := fun e heq => h e (Call.settled.inj heq)

omit [DecidableEq K] [DecidableEq ι] in
theorem uncached_await (key k : K) (n : ℕ) (cuts : List K) (store : Store K V E) :
    Uncached key store (.active .call cuts (.await k n .ret) : Call Q R K V E) where
  idle := fun _ h => nomatch h
  rooted := fun stack cuts phase h => by
    obtain ⟨rfl, -, -⟩ := Call.active.inj h
    exact trivial
  dropped := fun _ hf => nomatch hf
  root := fun _ _ h => nomatch h
  await := fun cuts k n next h => by
    obtain ⟨-, -, hawait⟩ := Call.active.inj h
    exact (Phase.await.inj hawait).2.2.symm
  settled := fun _ h => nomatch h

omit [DecidableEq ι] in
theorem Advances.uncached {store store' : Store K V E} {call call' : Call Q R K V E} {key : K}
    (hstep : Advances service store call store' call')
    (hawaited : ∀ f ∈ call.awaited, ∀ e, store.promises f.1 f.2 ≠ .rejected e)
    (h : Uncached key store call) : Uncached key store' call' := by
  cases hstep with
  | start k =>
      obtain rfl := h.idle k rfl
      exact .outside (Or.inl rfl)
  | @read stack cuts q next =>
      cases stack with
      | call => rcases h.root cuts _ rfl with heq | ⟨v, heq⟩ | ⟨⟨e, heq⟩, -⟩ <;> exact nomatch heq
      | frame => exact .inside (h.rooted _ _ _ rfl) (fun _ hf => nomatch hf)
  | @cut stack cuts k next =>
      cases stack with
      | call =>
          rcases h.root cuts _ rfl with heq | ⟨v, heq⟩ | ⟨⟨e, heq⟩, -⟩
          · obtain ⟨rfl, rfl⟩ := Prog.ask.inj heq
            exact .outside (Or.inr (Or.inl ⟨_, rfl⟩))
          · exact nomatch heq
          · exact nomatch heq
      | frame => exact .inside (h.rooted _ _ _ rfl) (fun _ hf => nomatch hf)
  | @share stack cuts k next n =>
      cases stack with
      | frame => exact .inside (h.rooted _ _ _ rfl) (fun _ hf => nomatch hf)
      | call =>
          rcases h.root cuts _ rfl with heq | ⟨v, heq⟩ | ⟨⟨e, heq⟩, -⟩
          · obtain ⟨rfl, rfl⟩ := Prog.ask.inj heq
            exact uncached_await ..
          · exact nomatch heq
          · exact nomatch heq
  | @look stack cuts k next =>
      have hrooted := h.rooted _ _ _ rfl
      refine .inside ?_ (fun _ hf => nomatch hf)
      cases stack with
      | frame => exact hrooted
      | call =>
          rcases h.root cuts _ rfl with heq | ⟨v, heq⟩ | ⟨⟨e, heq⟩, -⟩
          · exact Prog.ask.inj heq
          · exact nomatch heq
          · exact nomatch heq
  | @take stack cuts k n next v =>
      cases stack with
      | frame => exact .inside (h.rooted _ _ _ rfl) (fun _ hf => nomatch hf)
      | call =>
          rw [h.await cuts k n next rfl]
          exact .outside (Or.inr (Or.inl ⟨v, rfl⟩))
  | @rethrow stack cuts k n next e herror =>
      exact absurd herror (hawaited (k, n) List.mem_cons_self e)
  | give => exact .inside (h.rooted _ _ _ rfl) (fun _ hf => nomatch hf)
  | @drop k n =>
      refine .inside (h.rooted _ _ _ rfl) (fun f hf => ?_)
      obtain rfl := List.mem_singleton.mp hf
      exact Function.update_self ..
  | release => exact .inside (h.rooted _ _ _ rfl) h.dropped
  | @settle k n next outerCuts outer cuts result =>
      have hrooted := h.rooted _ _ _ rfl
      cases outer with
      | frame => exact .inside hrooted.outer (fun _ hf => nomatch hf)
      | call =>
          obtain ⟨rfl, rfl⟩ := hrooted
          refine .outside (Or.inr ?_)
          cases result with
          | ok v => exact Or.inl ⟨v, rfl⟩
          | error e => exact Or.inr ⟨⟨e, rfl⟩, h.dropped (k, n) List.mem_cons_self⟩
  | finish => exact uncached_settled (fun _ h => nomatch h)
  | @raise cuts e =>
      rcases h.root cuts _ rfl with heq | ⟨v, heq⟩ | ⟨-, hnone⟩
      · exact nomatch heq
      · exact nomatch heq
      · exact uncached_settled (fun _ _ => hnone)

theorem StepOf.uncached {key : K} (hstep : StepOf service i s s') (hinv : s.Inv)
    (h : Uncached key s.store (s.calls i)) : Uncached key s'.store (s'.calls i) := by
  cases hstep with
  | advance hadvance =>
      rw [Scope.put_calls_self]
      refine (Call.advances_of_advance hadvance).uncached (fun f hf e => ?_) h
      exact not_rejected_of_cached hinv ((hinv.fits i).awaited f hf).1 e
  | throw e hcall hp =>
      rw [Scope.put_calls_self]
      rw [hcall] at h
      exact .inside (h.rooted _ _ _ rfl) (fun _ hf => nomatch hf)

/-- A call that fails while no other call steps leaves its key out of the cache. -/
theorem uncached_of_failed {key : K} {e : E} (hinv : s.Inv) (hidle : s.calls i = .idle key)
    (hrun : Relation.ReflTransGen (StepOf service i) s s')
    (hfailed : s'.calls i = .settled (.error e)) : s'.store.cache key = none := by
  have hkept : s'.Inv ∧ Uncached key s'.store (s'.calls i) := by
    clear hfailed
    induction hrun with
    | refl =>
        rw [hidle]
        exact ⟨hinv, uncached_idle key _⟩
    | tail _ hstep ih => exact ⟨hstep.inv ih.1, hstep.uncached ih.1 ih.2⟩
  exact hkept.2.settled e hfailed

end

/-! ### Calls that settle -/

/-- The calls settle and leave nothing behind. -/
structure SettlesCleanly [DecidableEq ι] (service : Service Q R K V E) (calls : ι → K) : Prop where
  finite : ¬ ∃ run : ℕ → Scope ι Q R K V E, run 0 = .initial calls ∧
    ∀ n, Step service (run n) (run (n + 1))
  /-- While a call is not settled, a call that has started can go on. -/
  progress : ∀ s, Reachable service calls s → ∀ i, (s.calls i).isActive = true →
    ∃ j, (s.calls j).isActive = true ∧ ((s.calls j).advance service s.store).isSome
  /-- No lookup awaits its own promise or that of a lookup that it runs below. -/
  awaits : ∀ s, Reachable service calls s → ∀ i stack cuts key serial next,
    s.calls i = .active stack cuts (.await key serial next) → key ∉ stack.keys
  /-- The keys in flight are those of calls that are not settled. -/
  inFlight : ∀ s, Reachable service calls s → ∀ key ∈ s.store.inFlight,
    ∃ i, (s.calls i).isActive = true ∧ key ∈ (s.calls i).inFlight
  notRejected : ∀ s, Reachable service calls s → ∀ key serial, s.store.cache key = some serial →
    ∀ e, s.store.promises key serial ≠ .rejected e
  fulfilled : ∀ s, Reachable service calls s → (∀ i, (s.calls i).isActive = false) →
    s.store.inFlight = ∅ ∧ ∀ key serial, s.store.cache key = some serial →
      ∃ v cutOff, s.store.promises key serial = .fulfilled v cutOff
  /-- After a call that fails while no other runs, another one for its key runs the body again. -/
  recomputes : ∀ s s', Reachable service calls s → (∀ i, (s.calls i).isActive = false) →
    ∀ i key e, s.calls i = .idle key → Relation.ReflTransGen (StepOf service i) s s' →
      s'.calls i = .settled (.error e) →
        (Call.active .call [] (.run (.ask key .ret))).advance service s'.store =
          some (s'.store.start key, .active (.frame key s'.store.created .ret [] .call) []
            (.run (service.body key)))

theorem reachable_of_stepOf [DecidableEq ι] {calls : ι → K} {s s' : Scope ι Q R K V E} {i : ι}
    (h : Reachable service calls s) (hrun : Relation.ReflTransGen (StepOf service i) s s') :
    Reachable service calls s' :=
  h.trans (hrun.lift id (fun _ _ hstep => ⟨i, hstep⟩))

theorem StepOf.others [DecidableEq ι] {s s' : Scope ι Q R K V E} {i j : ι}
    (hrun : Relation.ReflTransGen (StepOf service i) s s') (hj : j ≠ i) :
    s'.calls j = s.calls j := by
  induction hrun with
  | refl => rfl
  | tail _ hstep ih =>
      cases hstep with
      | advance => rw [Scope.put_calls_of_ne hj, ih]
      | throw => rw [Scope.put_calls_of_ne hj, ih]

/-- Calls whose bodies ask for finitely many keys settle. -/
theorem settlesCleanly [DecidableEq ι] [Finite ι] {queries : Q → Prop} {keys : List K}
    (hkeys : ∀ key ∈ keys, (service.body key).Within queries (· ∈ keys)) {calls : ι → K}
    (hcalls : ∀ i, calls i ∈ keys) : SettlesCleanly service calls where
  finite := no_infinite_run hkeys hcalls
  progress := fun _ h _ hactive => exists_isSome_advance h.inv h.shaped hactive
  awaits := fun _ h _ _ _ _ _ _ hcall => notMem_keys_of_await h.inv hcall
  inFlight := fun _ h _ hkey => exists_active_of_mem_inFlight h.inv hkey
  notRejected := fun _ h _ _ hcache e => not_rejected_of_cached h.inv hcache e
  fulfilled := by
    intro s h hidle
    refine ⟨Finset.eq_empty_of_forall_notMem (fun key hkey => ?_),
      fun key serial hcache => fulfilled_of_cached h.inv hidle hcache⟩
    obtain ⟨i, hactive, -⟩ := exists_active_of_mem_inFlight h.inv hkey
    rw [hidle i] at hactive
    exact nomatch hactive
  recomputes := by
    intro s s' h hidle i key e hcall hrun hfailed
    have hnone : s'.store.cache key = none := uncached_of_failed h.inv hcall hrun hfailed
    have hnot : key ∉ s'.store.inFlight := by
      intro hmem
      obtain ⟨j, hactive, -⟩ :=
        exists_active_of_mem_inFlight (reachable_of_stepOf h hrun).inv hmem
      by_cases hj : j = i
      · rw [hj, hfailed] at hactive
        exact nomatch hactive
      · rw [StepOf.others hrun hj, hidle j] at hactive
        exact nomatch hactive
    simp only [Call.advance, if_neg hnot, hnone]

end OlympusMetrics.Lookup
