import OlympusMetrics.Indexer.Types
import OlympusMetrics.Library.Degraded
import OlympusMetrics.Library.Layers
import Mathlib.Data.List.Infix
import Mathlib.Data.List.Range

/-!
The retries of the RPC client.

A read is sent again after a transient error, at most six times in all and after
a delay that doubles each time. The log of a client holds the outcome of every
attempt and every delay, in their order.
-/

namespace OlympusMetrics

namespace RpcClient

/-! ### Errors -/

/-- The fields that `isRetryableRpcError` reads; the two numeric ones hold what `toNumber` gives. -/
structure ErrorFields where
  name : Option String := none
  code : Option ℚ := none
  status : Option ℚ := none
  details : Option String := none
  message : Option String := none
  shortMessage : Option String := none
  deriving DecidableEq

/-- What a rejected call carries: a value that is no object, or an object with or without a cause. -/
inductive RpcError
  | primitive
  | object (fields : ErrorFields)
  | caused (fields : ErrorFields) (cause : RpcError)
  deriving DecidableEq

/-- An `Error` with a message. -/
def RpcError.ofMessage (message : String) : RpcError :=
  .object { name := some "Error", message := some message }

def RETRYABLE_STATUSES : List ℚ := [429, 500, 502, 503, 504]

def INTERNAL_RPC_ERROR_CODE : ℚ := -32603

/-- `includes` of a text. -/
def includes (text pattern : String) : Bool := decide (pattern.toList <:+: text.toList)

/-- The characters that `trim` removes. -/
def isTrimmed (c : Char) : Bool :=
  c.isWhitespace || c.val == 0x0B || c.val == 0x0C || c.val == 0xA0 || c.val == 0x1680 ||
    (0x2000 ≤ c.val && c.val ≤ 0x200A) || c.val == 0x2028 || c.val == 0x2029 ||
    c.val == 0x202F || c.val == 0x205F || c.val == 0x3000 || c.val == 0xFEFF

/-- `trim`, on the characters of a text. -/
def trim (text : List Char) : List Char :=
  ((text.dropWhile isTrimmed).reverse.dropWhile isTrimmed).reverse

/-- The checks of `isRetryableRpcError` on an error itself. -/
def isTransient (error : ErrorFields) : Bool :=
  let name := error.name.getD ""
  let details := error.details.getD ""
  let message := error.message.getD ""
  let shortMessage := error.shortMessage.getD ""
  name == "BlockNotFoundError" ||
    (name == "InternalRpcError" || error.code == some INTERNAL_RPC_ERROR_CODE) ||
    error.status.any (fun status => RETRYABLE_STATUSES.contains status) ||
    includes details "Too Many Requests" ||
    includes details "compute units per second capacity" ||
    (trim details.toList).map Char.toLower == "internal error".toList ||
    includes message "compute units per second capacity" ||
    (includes shortMessage "could not be found" && includes shortMessage "Block at number")

def isRetryableRpcError : RpcError → Bool
  | .primitive => false
  | .object fields => isTransient fields
  | .caused fields cause => isTransient fields || isRetryableRpcError cause

/-- The errors of a chain of causes, the outermost first. -/
def RpcError.chain : RpcError → List ErrorFields
  | .primitive => []
  | .object fields => [fields]
  | .caused fields cause => fields :: cause.chain

/-- An error is worth a retry when some error of its chain is transient, however deep. -/
theorem isRetryableRpcError_iff (error : RpcError) :
    isRetryableRpcError error = true ↔ ∃ fields ∈ error.chain, isTransient fields = true := by
  induction error with
  | primitive => simp [isRetryableRpcError, RpcError.chain]
  | object fields => simp [isRetryableRpcError, RpcError.chain]
  | caused fields cause ih => simp [isRetryableRpcError, RpcError.chain, ih]

/-! ### Attempts -/

def MAX_RPC_ATTEMPTS : ℕ := 6

def BASE_RETRY_DELAY_MS : ℕ := 1000

/-- What a client does: it sends a request, or it sleeps. -/
inductive ClientOp (Request : Type)
  | send (request : Request)
  | sleep (ms : ℕ)

variable {Request : Type} {Reply : Request → Type}

/-- The replies to what a client does. -/
def ClientReply (Reply : Request → Type) : ClientOp Request → Type
  | .send request => Reply request
  | .sleep _ => Unit

/-- A program of a client. -/
abbrev ClientProcess (Reply : Request → Type) (α : Type) :=
  Process (ClientOp Request) (ClientReply Reply) RpcError α

def sleep (ms : ℕ) : ClientProcess Reply Unit := Process.await (ClientOp.sleep ms)

/-- The attempts of `retryRpc` from some attempt on. -/
def retryLoop {α : Type} (operation : ClientProcess Reply α) :
    List ℕ → RpcError → ClientProcess Reply α
  | [], lastError => .throw lastError
  | attempt :: attempts, _ =>
      operation.tryCatch (fun error =>
        if !isRetryableRpcError error || attempt == MAX_RPC_ATTEMPTS then .throw error
        else (sleep (BASE_RETRY_DELAY_MS * 2 ^ (attempt - 1))).bind (fun _ =>
          retryLoop operation attempts error))

/-- `retryRpc`. -/
def retryRpc {α : Type} (operation : ClientProcess Reply α) : ClientProcess Reply α :=
  retryLoop operation (List.range' 1 MAX_RPC_ATTEMPTS) .primitive

/-- A request that is retried. -/
def send (request : Request) : ClientProcess Reply (Reply request) :=
  retryRpc (Process.await (ClientOp.send request))

/-- A program over requests, with every request sent through `retryRpc`. -/
def withRetries {α : Type} (p : Process Request Reply RpcError α) : ClientProcess Reply α :=
  p.through send

/-! ### What a client logs -/

/-- An entry of a log: an attempt with its outcome, or a delay. -/
inductive ClientStep {Request : Type} (Reply : Request → Type)
  | attempt (request : Request) (outcome : Except RpcError (Reply request))
  | delay (ms : ℕ)

/-- What a client has done so far. -/
abbrev ClientLog {Request : Type} (Reply : Request → Type) := List (ClientStep Reply)

/-- An attempt is answered or fails in any way. -/
def Logs : (op : ClientOp Request) → ClientLog Reply → Except RpcError (ClientReply Reply op) →
    ClientLog Reply → Prop
  | .send request, s, r, s' => s' = s ++ [.attempt request r]
  | .sleep ms, s, r, s' => r = .ok () ∧ s' = s ++ [.delay ms]

/-- The log after a request's failed attempts, each with the delay after it. -/
def ClientLog.failed (s : ClientLog Reply) (request : Request) (errors : List RpcError) :
    ClientLog Reply :=
  s ++ errors.zipIdx.flatMap (fun entry =>
    [.attempt request (.error entry.1), .delay (BASE_RETRY_DELAY_MS * 2 ^ entry.2)])

/-- A request ends after some failed attempts, all of them transient: with a reply, with an error
that is not transient, or with the error of the last attempt. -/
structure RetriedAfter (request : Request) (errors : List RpcError) (s : ClientLog Reply)
    (r : Except RpcError (Reply request)) (s' : ClientLog Reply) : Prop where
  retryable : ∀ error ∈ errors, isRetryableRpcError error = true
  length : errors.length < MAX_RPC_ATTEMPTS
  final : ∀ error, r = .error error → isRetryableRpcError error = true →
    errors.length + 1 = MAX_RPC_ATTEMPTS
  log : s' = s.failed request errors ++ [.attempt request r]

/-- What a request with retries does. -/
def Retried (request : Request) (s : ClientLog Reply) (r : Except RpcError (Reply request))
    (s' : ClientLog Reply) : Prop :=
  ∃ errors, RetriedAfter request errors s r s'

@[simp] theorem ClientLog.failed_nil (s : ClientLog Reply) (request : Request) :
    s.failed request [] = s := by
  simp [ClientLog.failed]

/-- One more failed attempt, and the delay after it. -/
theorem ClientLog.failed_append (s : ClientLog Reply) (request : Request) (errors : List RpcError)
    (error : RpcError) :
    s.failed request (errors ++ [error]) =
      s.failed request errors ++ [.attempt request (.error error)] ++
        [.delay (BASE_RETRY_DELAY_MS * 2 ^ (errors.length + 1 - 1))] := by
  simp [ClientLog.failed, List.zipIdx_append]

/-! ### Retries -/

variable {request : Request} {s s' : ClientLog Reply} {r : Except RpcError (Reply request)}

/-- The attempts that are left after some failed ones. -/
theorem meets_retryLoop (left : ℕ) {errors : List RpcError} (hleft : 0 < left)
    (hlength : errors.length + left = MAX_RPC_ATTEMPTS)
    (hretry : ∀ error ∈ errors, isRetryableRpcError error = true) (lastError : RpcError) :
    Process.Meets Logs (fun _ => True)
      (retryLoop (Process.await (ClientOp.send request)) (List.range' (errors.length + 1) left)
        lastError)
      (fun r s' => Retried request s r s') (s.failed request errors) := by
  induction left generalizing errors lastError with
  | zero => exact absurd hleft (lt_irrefl 0)
  | succ left ih =>
      rw [List.range'_succ]
      refine ⟨trivial, fun r s' hlog => ?_⟩
      obtain rfl : s' = s.failed request errors ++ [ClientStep.attempt request r] := hlog
      cases r with
      | ok x =>
          refine ⟨trivial, errors, hretry, by omega, fun error herror => ?_, rfl⟩
          cases herror
      | error error =>
          change Process.Meets Logs (fun _ => True)
            (if !isRetryableRpcError error || errors.length + 1 == MAX_RPC_ATTEMPTS then
              Process.throw error
            else (sleep (BASE_RETRY_DELAY_MS * 2 ^ (errors.length + 1 - 1))).bind (fun _ =>
              retryLoop (Process.await (ClientOp.send request))
                (List.range' (errors.length + 1 + 1) left) error)) _ _
          split
          case isTrue hstop =>
            refine ⟨trivial, errors, hretry, by omega, fun error' herror' hretryable => ?_, rfl⟩
            obtain rfl := Except.error.inj herror'
            simpa [hretryable] using hstop
          case isFalse hgo =>
            obtain ⟨hretryable, hmore⟩ : isRetryableRpcError error = true ∧
                errors.length + 1 ≠ MAX_RPC_ATTEMPTS := by
              simpa using hgo
            refine ⟨trivial, fun r s'' hsleep => ?_⟩
            obtain ⟨rfl, rfl⟩ := hsleep
            have hnext := @ih (errors ++ [error]) (by omega) (by simp; omega)
              (by simpa [or_imp, forall_and] using ⟨hretry, hretryable⟩) error
            rw [ClientLog.failed_append, List.length_append] at hnext
            exact hnext

theorem meets_send (request : Request) (s : ClientLog Reply) :
    Process.Meets Logs (fun _ => True) (send request) (fun r s' => Retried request s r s') s := by
  have h := @meets_retryLoop Request Reply request s MAX_RPC_ATTEMPTS [] (by decide) rfl
    (fun _ herror => absurd herror List.not_mem_nil) .primitive
  rwa [ClientLog.failed_nil] at h

/-- The run that goes through given failed attempts and ends with a given outcome. -/
theorem runs_retryLoop (errors : List RpcError) {done : List RpcError} {left : ℕ}
    (hleft : errors.length < left) (hlength : done.length + left = MAX_RPC_ATTEMPTS)
    (hretry : ∀ error ∈ errors, isRetryableRpcError error = true)
    (hfinal : ∀ error, r = .error error → isRetryableRpcError error = true →
      errors.length + 1 = left) (lastError : RpcError) :
    Process.Runs Logs
      (retryLoop (Process.await (ClientOp.send request)) (List.range' (done.length + 1) left)
        lastError)
      (s.failed request done) (some r) (s.failed request (done ++ errors) ++ [.attempt request r]) := by
  induction errors generalizing done left lastError with
  | nil =>
      obtain ⟨left, rfl⟩ : ∃ left', left = left' + 1 := Nat.exists_eq_succ_of_ne_zero hleft.ne'
      rw [List.range'_succ, List.append_nil]
      have hsent : Logs (.send request) (s.failed request done) r
          (s.failed request done ++ [.attempt request r]) := rfl
      refine .call hsent ?_
      cases r with
      | ok x => exact .ret
      | error error =>
          have hstop : (!isRetryableRpcError error || done.length + 1 == MAX_RPC_ATTEMPTS) =
              true := by
            cases hretryable : isRetryableRpcError error with
            | false => rfl
            | true =>
                have hlast := hfinal error rfl hretryable
                simp only [List.length_nil] at hlast
                simpa using (by omega : done.length + 1 = MAX_RPC_ATTEMPTS)
          change Process.Runs Logs (if !isRetryableRpcError error ||
            done.length + 1 == MAX_RPC_ATTEMPTS then Process.throw error else _) _ _ _
          rw [if_pos hstop]
          exact .throw
  | cons error errors ih =>
      obtain ⟨left, rfl⟩ : ∃ left', left = left' + 1 := Nat.exists_eq_succ_of_ne_zero (by omega)
      rw [List.length_cons] at hleft
      have hretryable : isRetryableRpcError error = true := hretry error List.mem_cons_self
      have hgo : ¬ (!isRetryableRpcError error || done.length + 1 == MAX_RPC_ATTEMPTS) = true := by
        have hmore : done.length + 1 ≠ MAX_RPC_ATTEMPTS := by omega
        simpa [hretryable] using hmore
      have hlast : ∀ e, r = .error e → isRetryableRpcError e = true →
          errors.length + 1 = left := by
        intro e he hr
        simpa using hfinal e he hr
      have hnext := @ih (done ++ [error]) left (by omega)
        (by rw [List.length_append, List.length_singleton]; omega)
        (fun e he => hretry e (List.mem_cons_of_mem error he)) hlast error
      rw [ClientLog.failed_append, List.append_assoc done, List.length_append] at hnext
      have hsent : Logs (.send request) (s.failed request done) (.error error)
          (s.failed request done ++ [.attempt request (.error error)]) := rfl
      have hslept : @Logs Request Reply (.sleep (BASE_RETRY_DELAY_MS * 2 ^ (done.length + 1 - 1)))
          (s.failed request done ++ [.attempt request (.error error)]) (.ok ())
          (s.failed request done ++ [.attempt request (.error error)] ++
            [.delay (BASE_RETRY_DELAY_MS * 2 ^ (done.length + 1 - 1))]) := ⟨rfl, rfl⟩
      rw [List.range'_succ]
      refine .call hsent ?_
      change Process.Runs Logs (if !isRetryableRpcError error ||
        done.length + 1 == MAX_RPC_ATTEMPTS then Process.throw error else
          (sleep (BASE_RETRY_DELAY_MS * 2 ^ (done.length + 1 - 1))).bind (fun _ =>
            retryLoop (Process.await (ClientOp.send request))
              (List.range' (done.length + 1 + 1) left) error)) _ _ _
      rw [if_neg hgo]
      exact .call hslept hnext

/-- The finished runs of a request are those that fail at most five times in a transient way and
then end: nothing else is logged, and after each failure comes its delay, one second and then twice
the one before. -/
theorem runs_send_iff :
    Process.Runs Logs (send request) s (some r) s' ↔ Retried request s r s' := by
  constructor
  · intro hrun
    exact ((meets_send request s).run hrun).2 r rfl
  · rintro ⟨errors, hretried⟩
    have hrun := @runs_retryLoop Request Reply request s r errors [] _ hretried.length rfl
      hretried.retryable hretried.final .primitive
    rw [ClientLog.failed_nil, List.nil_append] at hrun
    rw [hretried.log]
    exact hrun

/-! ### Programs with retries -/

/-- A network that loses requests for a while: a request gets its answer in the end, after fewer
transient failures in a row than there are attempts. -/
def Flaky (answer : (request : Request) → Except RpcError (Reply request)) :
    (op : ClientOp Request) → ℕ → Except RpcError (ClientReply Reply op) → ℕ → Prop
  | .send request, failures, r, failures' => (r = answer request ∧ failures' = 0) ∨
      ∃ error, r = .error error ∧ isRetryableRpcError error = true ∧
        failures' = failures + 1 ∧ failures' < MAX_RPC_ATTEMPTS
  | .sleep _, failures, r, failures' => r = .ok () ∧ failures' = failures

variable {answer : (request : Request) → Except RpcError (Reply request)}

/-- As long as more attempts are left than failures to come, a request gets its answer. -/
theorem meets_retryLoop_flaky
    (hanswer : ∀ request error, answer request = .error error →
      isRetryableRpcError error = false) (left : ℕ) {attempt failures : ℕ}
    (hleft : MAX_RPC_ATTEMPTS ≤ left + failures) (hpos : 0 < left)
    (hattempt : attempt + left = MAX_RPC_ATTEMPTS + 1) (lastError : RpcError) :
    Process.Meets (Flaky answer) (fun _ => True)
      (retryLoop (Process.await (ClientOp.send request)) (List.range' attempt left) lastError)
      (fun r _ => r = answer request) failures := by
  induction left generalizing attempt failures lastError with
  | zero => exact absurd hpos (lt_irrefl 0)
  | succ left ih =>
      rw [List.range'_succ]
      refine ⟨trivial, fun r failures' hsent => ?_⟩
      cases r with
      | ok x =>
          refine ⟨trivial, ?_⟩
          rcases hsent with ⟨hr, -⟩ | ⟨error, herror, -⟩
          · exact hr
          · cases herror
      | error error =>
          change Process.Meets (Flaky answer) (fun _ => True)
            (if !isRetryableRpcError error || attempt == MAX_RPC_ATTEMPTS then Process.throw error
            else (sleep (BASE_RETRY_DELAY_MS * 2 ^ (attempt - 1))).bind (fun _ =>
              retryLoop (Process.await (ClientOp.send request)) (List.range' (attempt + 1) left)
                error)) _ _
          rcases hsent with ⟨hr, -⟩ | ⟨error', herror, hretryable, rfl, hfew⟩
          · rw [hanswer request error hr.symm]
            exact ⟨trivial, hr⟩
          · obtain rfl := Except.error.inj herror
            have hgo : ¬ (!isRetryableRpcError error || attempt == MAX_RPC_ATTEMPTS) = true := by
              have hmore : attempt ≠ MAX_RPC_ATTEMPTS := by omega
              simpa [hretryable] using hmore
            rw [if_neg hgo]
            refine ⟨trivial, fun r failures' hsleep => ?_⟩
            obtain ⟨rfl, rfl⟩ := hsleep
            exact ih (by omega) (by omega) (by omega) error

/-- Transient failures are invisible above the retries: on a network that loses requests for a
while, every program ends as it does when each request is answered at once. -/
theorem withRetries_flaky {α : Type} (p : Process Request Reply RpcError α)
    (hanswer : ∀ request error, answer request = .error error →
      isRetryableRpcError error = false) {failures failures' : ℕ} {r : Except RpcError α}
    (hrun : Process.Runs (Flaky answer) (withRetries p) failures (some r) failures') :
    r = p.eval answer := by
  have hsend (request : Request) (failures : ℕ) :
      Process.Meets (Flaky answer) (fun _ => True) (send request)
        (fun r _ => r = answer request) failures :=
    meets_retryLoop_flaky hanswer MAX_RPC_ATTEMPTS (by omega) (by decide) (by decide) .primitive
  have hmeets : Process.Meets (Flaky answer) (fun _ => True) (withRetries p)
      (fun r failures' => Process.Runs (fun request _ r _ => r = answer request) p failures
        (some r) failures') failures :=
    Process.meets_through (fun _ => trivial) hsend p failures
  exact ((hmeets.run hrun).2 r rfl).eq_eval (fun _ _ _ _ h => h) r rfl

/-- A provider that lags behind the chain, seen through a failed call. -/
def lostBlock : RpcError :=
  .caused { name := some "CallExecutionError" } (.object { name := some "BlockNotFoundError" })

theorem withRetries_flaky_lostBlock :
    (.ok 7 : Except RpcError ℕ) = (Process.await () : Process Unit (fun _ => ℕ) RpcError ℕ).eval
      (fun _ => .ok 7) := by
  have hfinal : ∀ (_ : Unit) (error : RpcError), (.ok 7 : Except RpcError ℕ) = .error error →
      isRetryableRpcError error = false := fun _ _ h => by cases h
  have hrun : Process.Runs (Flaky fun _ : Unit => (.ok 7 : Except RpcError ℕ))
      (withRetries (Process.await ())) 0 (some (.ok 7)) 0 :=
    .call (Or.inr ⟨lostBlock, rfl, by decide, rfl, by decide⟩)
      (.call ⟨rfl, rfl⟩ (.call (Or.inl ⟨rfl, rfl⟩) .ret))
  exact withRetries_flaky (Process.await ()) hfinal hrun

/-! ### Outages -/

/-- A network that fails whenever it likes, and otherwise answers. -/
def Unreliable (answer : (request : Request) → Except RpcError (Reply request)) :
    (op : ClientOp Request) → Unit → Except RpcError (ClientReply Reply op) → Unit → Prop
  | .send request, _, r, _ => ∀ x, r = .ok x → answer request = .ok x
  | .sleep _, _, r, _ => r = .ok ()

theorem unreliable_sent (request : Request) :
    Unreliable answer (.send request) () (answer request) () := fun _ h => h

theorem unreliable_lost (request : Request) (error : RpcError) :
    Unreliable answer (.send request) () (.error error) () := fun _ h => by cases h

theorem meets_retryLoop_unreliable (attempts : List ℕ) (lastError : RpcError) :
    Process.Meets (Unreliable answer) (fun _ => True)
      (retryLoop (Process.await (ClientOp.send request)) attempts lastError)
      (fun r _ => ∀ x, r = .ok x → answer request = .ok x) () := by
  induction attempts generalizing lastError with
  | nil => exact ⟨trivial, fun x hx => by cases hx⟩
  | cons attempt attempts ih =>
      refine ⟨trivial, fun r s' hsent => ?_⟩
      cases r with
      | ok x => exact ⟨trivial, hsent⟩
      | error error =>
          change Process.Meets (Unreliable answer) (fun _ => True)
            (if !isRetryableRpcError error || attempt == MAX_RPC_ATTEMPTS then Process.throw error
            else (sleep (BASE_RETRY_DELAY_MS * 2 ^ (attempt - 1))).bind (fun _ =>
              retryLoop (Process.await (ClientOp.send request)) attempts error)) _ _
          split
          case isTrue => exact ⟨trivial, fun x hx => by cases hx⟩
          case isFalse =>
            refine ⟨trivial, fun r s'' hsleep => ?_⟩
            obtain rfl : r = .ok () := hsleep
            exact ih error

/-- Above the retries, an outage is seen as requests that fail. -/
theorem meets_withRetries_unreliable {α : Type} (p : Process Request Reply RpcError α) :
    Process.Meets (Unreliable answer) (fun _ => True) (withRetries p)
      (fun r _ => Process.Runs (Process.OrFails answer) p () (some r) ()) () :=
  Process.meets_through (fun _ => trivial)
    (fun _ _ => meets_retryLoop_unreliable _ .primitive) p ()

/-- What is judged of a program's requests holds of its runs with retries. -/
theorem runs_of_degradesTo {α β : Type} {R : α → β → Prop} {p : Process Request Reply RpcError α}
    {q : Process Request Reply RpcError β} (h : Process.DegradesTo answer R p q)
    {r : Except RpcError α}
    (hrun : Process.Runs (Unreliable answer) (withRetries p) () (some r) ()) :
    ∃ out full, r = .ok out ∧ q.eval answer = .ok full ∧ R out full :=
  (h.run (((meets_withRetries_unreliable p).run hrun).2 r rfl)).2 r rfl

theorem runs_of_strictTo {α β : Type} {R : α → β → Prop} {p : Process Request Reply RpcError α}
    {q : Process Request Reply RpcError β} (h : Process.StrictTo answer R p q) {out : α}
    (hrun : Process.Runs (Unreliable answer) (withRetries p) () (some (.ok out)) ()) :
    ∃ full, q.eval answer = .ok full ∧ R out full :=
  (h.run (((meets_withRetries_unreliable p).run hrun).2 _ rfl)).2 _ rfl out rfl

end RpcClient

end OlympusMetrics
