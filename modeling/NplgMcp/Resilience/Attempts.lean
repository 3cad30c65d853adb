import NplgMcp.Library.Triple
import NplgMcp.Resilience.UpstreamGuard
import NplgMcp.Security

/-!
# Attempts and their permits

`AttemptPermit` and `_PermitContext` of `resilience.py`, and the loop that `repository.py` and
`downloader.py` both have around them: one permit, one request and at most one redirect to the next
round. Whatever an attempt awaits may return, raise or be cancelled; an `AttemptScript` says what it
does. A program of an attempt changes the `Attempt`, in which everything is kept that it asked of the
guard and of the client.
-/

open Library

namespace NplgMcp

/-! ## What is raised -/

/-- What an awaited call may raise: an `AppError` or a `ValueError`, a `DnsTransientError`, the
decision of the guard, a `TimeoutError`, an `httpx.RequestError`, which may be one of the transport's
policy, the error of a full pool of workers, a cancellation, or anything else. -/
inductive Failure where
  | raised (error : Raised)
  | dnsTransient (error : AppError)
  | unavailable (retryAfterSeconds : ℚ)
  | timeout
  | request (policy : Bool)
  | capacity
  | cancelled
  | other
  deriving DecidableEq, Repr

/-- The exception of what a transition of the guard raises. -/
def GuardError.failure : GuardError → Failure
  | .deadlineExpired => .timeout
  | .unavailable retryAfterSeconds => .unavailable retryAfterSeconds
  | .clockMovedBackwards => .raised .valueError
  | .invalidDeadline => .raised .valueError
  | .cancelled => .cancelled
  | .invalidClock | .invalidAccounting | .invalidRandomSample | .invalidRetryDeadline => .other

/-- `classify_transport_failure`; `none` is the `TypeError`. -/
def classifyTransportFailure : Failure → Option AttemptOutcome
  | .request true => some .excluded
  | .request false | .timeout => some .transient
  | _ => none

/-- The exceptions of `except (TimeoutError, httpx.RequestError)`. -/
def Failure.isTransport : Failure → Bool
  | .timeout | .request _ => true
  | _ => false

/-! ## Scripts -/

/-- How `admit` goes: the guard as it finds it and what it samples, or a cancellation while it waits
for the lock of the guard. -/
structure Admission where
  guard : UpstreamGuard
  clock : FloatSample
  observer : ObserverOutcome
  cancelled : Bool

/-- How `complete_attempt` goes: the guard as it finds it, what it samples, and whether its caller is
cancelled meanwhile. -/
structure Completion where
  guard : UpstreamGuard
  clock : FloatSample
  random : FloatSample
  observer : ObserverOutcome
  cancelled : Bool

/-- A response: the status, the headers that are read, the charset, the chunks of the body and what
ends them, if it is not their end. -/
structure UpstreamResponse where
  status : ℕ
  location : Option String := none
  contentEncoding : String := ""
  contentLength : Option String := none
  contentType : String := ""
  charset : Option String := none
  chunks : List (List UInt8) := []
  broken : Option Failure := none

/-- How one attempt goes: the clock before it, its admission, the resolver, the limiter, the clock
before the request, the response, how that is closed, the completion of the permit, and what the
reading of the response depends on. -/
structure AttemptScript (γ : Type) where
  now : ℚ
  admission : Admission
  dns : Option Failure
  limiter : Option Failure
  later : ℚ
  response : Except Failure UpstreamResponse
  closing : Option Failure
  completion : Completion
  reading : γ

/-! ## Permits -/

/-- An admitted attempt: its permit, `_finalized`, the outcomes that the guard was told, and the URLs
that were requested. -/
structure Attempt where
  permit : AttemptPermit
  finalized : Bool := false
  outcomes : List AttemptOutcome := []
  requested : List String := []
  deriving DecidableEq

/-- Programs of an attempt. -/
abbrev AttemptM := ExceptT Failure (StateM Attempt)

section
variable (policy : UpstreamGuardPolicy) (completion : Completion)

/-- `admit` and `__aenter__`: there is a permit, or an error and none. -/
def acquire (admission : Admission) (deadline : MonotonicDeadline) : Except Failure AttemptPermit :=
  if admission.cancelled then .error .cancelled
  else
    match (UpstreamGuard.admitAttempt policy admission.guard deadline admission.clock
        admission.observer).1 with
    | .ok permit => .ok permit
    | .error error => .error error.failure

/-- `_record`: the completion is shielded, so that the permit is final whether it returns or raises,
and a cancellation is raised after it. -/
def record (outcome : AttemptOutcome) : AttemptM Unit := do
  let attempt ← get
  if attempt.finalized then throw .other
  else
    modify fun attempt =>
      { attempt with finalized := true, outcomes := attempt.outcomes ++ [outcome] }
    match (UpstreamGuard.completeAttempt policy completion.guard attempt.permit.probe
        attempt.permit.generation outcome completion.clock completion.random
        completion.observer).1 with
    | .error error => throw error.failure
    | .ok () => if completion.cancelled then throw .cancelled else pure ()

/-- What a program returns or raises, as a value. -/
def attempted {α : Type} (body : AttemptM α) : AttemptM (Except Failure α) :=
  tryCatch (do let value ← body; pure (.ok value)) fun failure => pure (.error failure)

/-- The body of `async with guard.acquire(...)`, with `__aexit__`. -/
def permitContext {α : Type} (body : AttemptM α) : AttemptM α := do
  let result ← attempted body
  let attempt ← get
  if attempt.finalized then ofExcept result
  else do
    record policy completion .excluded
    ofExcept result

/-- The body of an `async with` whose exit raises the given failure, if there is one. -/
def closing {α : Type} (failure : Option Failure) (body : AttemptM α) : AttemptM α := do
  let result ← attempted body
  match failure with
  | some failure => throw failure
  | none => ofExcept result

end

/-! ## The loop -/

/-- What a round of the loop comes to: the URL of the next round, or what is returned. -/
inductive Round (α : Type) where
  | redirected (target : String)
  | returned (value : α)

/-- What is different in the two loops: the configuration, the deadline of an attempt,
`_redirect_target`, and what is read of a response that is no redirect. -/
structure RedirectLoop (γ α : Type) where
  policy : UpstreamGuardPolicy
  maxRedirects : ℕ
  validateDns : Bool
  limited : Bool
  deadline : AttemptScript γ → Except Failure MonotonicDeadline
  redirectTarget : ℕ → UpstreamResponse → String → Except Failure (Option String)
  readResponse : γ → UpstreamResponse → String → Except Failure α

namespace RedirectLoop

variable {γ α : Type} (loop : RedirectLoop γ α) (script : AttemptScript γ)

/-- The error of a resolver without a free worker. -/
def resolverAtCapacity : Failure :=
  .raised (.app { code := .rateLimited, message := "The DNS resolver is at capacity.", httpStatus := 503 })

/-- `_ensure_dns`. -/
def ensureDns : AttemptM Unit :=
  if loop.validateDns then
    match script.dns with
    | none => pure ()
    | some .capacity => throw resolverAtCapacity
    | some failure => throw failure
  else pure ()

/-- `_record_dns_app_error`, for what is an `AppError`. -/
def recordDnsAppError (failure : Failure) : AttemptM Unit :=
  match failure with
  | .dnsTransient _ => record loop.policy script.completion .transient
  | .raised (.app error) =>
    if error.code = .rateLimited then record loop.policy script.completion .transient
    else record loop.policy script.completion .excluded
  | _ => pure ()

/-- `_admit_dependencies`. -/
def admitDependencies : AttemptM Unit := do
  tryCatch (loop.ensureDns script) fun failure => do
    loop.recordDnsAppError script failure
    throw failure
  if loop.limited then
    match script.limiter with
    | none => pure ()
    | some failure => throw failure

/-- `_record_transport_error`. -/
def recordTransportError (failure : Failure) : AttemptM Unit :=
  match classifyTransportFailure failure with
  | some outcome => record loop.policy script.completion outcome
  | none => throw .other

/-- What the status of a response that is no redirect has the guard told. -/
def recordStatus (status : ℕ) : AttemptM Unit :=
  if status = 429 ∨ status ≥ 500 then record loop.policy script.completion .transient
  else if status < 200 ∨ status ≥ 300 then record loop.policy script.completion .excluded
  else pure ()

/-- What is done with the response to a request. -/
def handleResponse (index : ℕ) (current : String) (response : UpstreamResponse) :
    AttemptM (Round α) := do
  match ← ofExcept (loop.redirectTarget index response current) with
  | some target => do
    record loop.policy script.completion .success
    pure (.redirected target)
  | none => do
    loop.recordStatus script response.status
    let value ← ofExcept (loop.readResponse script.reading response current)
    record loop.policy script.completion .success
    pure (.returned value)

/-- `async with self.client.stream(...)`. -/
def stream (index : ℕ) (current : String) : AttemptM (Round α) := do
  modify fun attempt => { attempt with requested := attempt.requested ++ [current] }
  let response ← ofExcept script.response
  closing script.closing (loop.handleResponse script index current response)

/-- `except (TimeoutError, httpx.RequestError)`. -/
def recordFailure (failure : Failure) : AttemptM Unit :=
  if failure.isTransport then do
    let attempt ← get
    if attempt.finalized then pure () else loop.recordTransportError script failure
  else pure ()

/-- The body of `async with self.guard.acquire(...)`. -/
def attemptBody (index : ℕ) (current : String) : AttemptM (Round α) := do
  loop.admitDependencies script
  let attempt ← get
  match attempt.permit.deadline.remaining script.later with
  | none => throw (.raised .valueError)
  | some timeout =>
    if timeout ≤ 0 then throw .timeout
    else
      tryCatch (loop.stream script index current) fun failure => do
        loop.recordFailure script failure
        throw failure

/-- The rounds of the loop, of which as many are left as the first number says: what is returned or
raised, with the attempts that were admitted. -/
def rounds (scripts : ℕ → AttemptScript γ) : ℕ → ℕ → String → Except Failure α × List Attempt
  | 0, _, _ => (.error .other, [])
  | left + 1, index, current =>
    match loop.deadline (scripts index) with
    | .error failure => (.error failure, [])
    | .ok deadline =>
      match acquire loop.policy (scripts index).admission deadline with
      | .error failure => (.error failure, [])
      | .ok permit =>
        match outcome (permitContext loop.policy (scripts index).completion
            (loop.attemptBody (scripts index) index current)) { permit } with
        | (.error failure, attempt) => (.error failure, [attempt])
        | (.ok (.returned value), attempt) => (.ok value, [attempt])
        | (.ok (.redirected target), attempt) =>
          let (result, attempts) := rounds scripts left (index + 1) target
          (result, attempt :: attempts)

/-- `for redirect_index in range(self.max_redirects + 1)`, from the first URL. -/
def run (scripts : ℕ → AttemptScript γ) (first : String) : Except Failure α × List Attempt :=
  loop.rounds scripts (loop.maxRedirects + 1) 0 first

end RedirectLoop

/-! ## What an attempt can do -/

/-- The guard was told one outcome if the permit is final and none before. -/
def Attempt.Balanced (attempt : Attempt) : Prop :=
  attempt.outcomes.length = attempt.finalized.toNat

/-- A balanced attempt that has requested nothing. -/
def Attempt.Unissued (attempt : Attempt) : Prop := attempt.Balanced ∧ attempt.requested = []

/-- A balanced attempt that has requested at most the URL. -/
def Attempt.Issued (current : String) (attempt : Attempt) : Prop :=
  attempt.Balanced ∧ (attempt.requested = [] ∨ attempt.requested = [current])

/-- An attempt that is over: its permit is final, with one outcome. -/
def Attempt.Settled (current : String) (attempt : Attempt) : Prop :=
  attempt.finalized = true ∧ attempt.outcomes.length = 1 ∧
    (attempt.requested = [] ∨ attempt.requested = [current])

section
variable {policy : UpstreamGuardPolicy} {completion : Completion} {current : String}

/-- Recording an outcome makes the permit final, if it is not, and keeps the balance. -/
theorem triple_record (requests : List String → Prop) (recorded : AttemptOutcome) :
    Triple (fun attempt => attempt.Balanced ∧ requests attempt.requested)
      (record policy completion recorded)
      (fun _ attempt => attempt.finalized = true ∧ attempt.Balanced ∧ requests attempt.requested)
      (fun _ attempt => attempt.finalized = true ∧ attempt.Balanced ∧ requests attempt.requested) := by
  refine Triple.get_bind fun now => ?_
  split
  · rename_i hfinal
    refine Triple.throw ?_
    rintro s ⟨rfl, hbalanced, hrequests⟩
    exact ⟨hfinal, hbalanced, hrequests⟩
  · rename_i hopen
    refine Triple.modify_bind
      (fun s => s.finalized = true ∧ s.Balanced ∧ requests s.requested) ?_ ?_
    · rintro s ⟨rfl, hbalanced, hrequests⟩
      refine ⟨rfl, ?_, hrequests⟩
      simp only [Attempt.Balanced, List.length_append, Bool.toNat_true] at hbalanced ⊢
      simp only [hbalanced, Bool.eq_false_of_not_eq_true hopen, Bool.toNat_false, List.length_singleton]
    · split
      · exact Triple.throw fun _ h => h
      · split
        · exact Triple.throw fun _ h => h
        · exact Triple.pure fun _ h => h

/-- What was raised is handed on as a value, in the state it was raised in. -/
theorem triple_attempted {α : Type} {body : AttemptM α} {before : Attempt → Prop}
    {after : α → Attempt → Prop} {failed : Failure → Attempt → Prop}
    (h : Triple before body after failed) :
    Triple before (attempted body) (fun result attempt =>
      (∀ value, result = .ok value → after value attempt) ∧
        ∀ failure, result = .error failure → failed failure attempt) fun _ _ => False := by
  refine Triple.tryCatch (Triple.bind _ h fun value => Triple.pure fun s hs => ⟨?_, ?_⟩)
    fun failure => Triple.pure fun s hs => ⟨?_, ?_⟩
  · rintro _ ⟨⟩
    exact hs
  · rintro _ ⟨⟩
  · rintro _ ⟨⟩
  · rintro _ ⟨⟩
    exact hs

/-- Leaving an `async with` may raise instead of what its body does, in the state the body leaves. -/
theorem triple_closing {α : Type} {failure : Option Failure} {body : AttemptM α}
    {before final : Attempt → Prop} {after : α → Prop}
    (h : Triple before body (fun value attempt => after value ∧ final attempt) fun _ => final) :
    Triple before (closing failure body) (fun value attempt => after value ∧ final attempt)
      fun _ => final := by
  refine Triple.bind _ ((triple_attempted h).weaken (fun _ h => h) (fun _ _ h => h)
    fun _ _ h => h.elim) fun result => ?_
  cases failure with
  | some failure =>
      refine Triple.throw fun attempt hattempt => ?_
      cases result with
      | ok value => exact (hattempt.1 value rfl).2
      | error raised => exact hattempt.2 raised rfl
  | none =>
      exact Triple.ofExcept (fun value hvalue attempt hattempt => hattempt.1 value hvalue)
        fun raised hraised attempt hattempt => hattempt.2 raised hraised

/-- On every way out of the context of a permit the permit is final, with one outcome. -/
theorem triple_permitContext {α : Type} {body : AttemptM α} {before : Attempt → Prop}
    {after : α → Prop}
    (h : Triple before body (fun value attempt => after value ∧ attempt.Issued current)
      fun _ => Attempt.Issued current) :
    Triple before (permitContext policy completion body)
      (fun value attempt => after value ∧ attempt.Settled current)
      fun _ => Attempt.Settled current := by
  have hsettled {attempt : Attempt} (hfinal : attempt.finalized = true)
      (hissued : attempt.Issued current) : attempt.Settled current := by
    obtain ⟨hbalanced, hrequested⟩ := hissued
    refine ⟨hfinal, ?_, hrequested⟩
    rw [hbalanced, hfinal, Bool.toNat_true]
  refine Triple.bind _ ((triple_attempted h).weaken (fun _ h => h) (fun _ _ h => h)
    fun _ _ h => h.elim) fun result => Triple.get_bind fun now => ?_
  have hissued {attempt : Attempt} (hattempt : (∀ value, result = .ok value →
      after value ∧ attempt.Issued current) ∧ ∀ raised, result = .error raised →
        attempt.Issued current) : attempt.Issued current := by
    cases result with
    | ok value => exact (hattempt.1 value rfl).2
    | error raised => exact hattempt.2 raised rfl
  split
  · rename_i hfinal
    refine Triple.ofExcept ?_ ?_
    · rintro value hvalue attempt ⟨rfl, hattempt⟩
      exact ⟨(hattempt.1 value hvalue).1, hsettled hfinal (hissued hattempt)⟩
    · rintro raised - attempt ⟨rfl, hattempt⟩
      exact hsettled hfinal (hissued hattempt)
  · -- what the body has shown says nothing of the permit, so it outlives the record
    refine Triple.bind _ ((triple_record (fun requested =>
      (∀ value, result = .ok value → after value) ∧ (requested = [] ∨ requested = [current]))
        .excluded).weaken ?_ (fun _ _ h => h) ?_) fun _ => ?_
    · rintro attempt ⟨rfl, hattempt⟩
      have hnow := hissued hattempt
      exact ⟨hnow.1, fun value hvalue => (hattempt.1 value hvalue).1, hnow.2⟩
    · rintro raised attempt ⟨hfinal, hbalanced, -, hrequested⟩
      exact hsettled hfinal ⟨hbalanced, hrequested⟩
    · refine Triple.ofExcept ?_ ?_
      · rintro value hvalue attempt ⟨hfinal, hbalanced, hafter, hrequested⟩
        exact ⟨hafter value hvalue, hsettled hfinal ⟨hbalanced, hrequested⟩⟩
      · rintro raised - attempt ⟨hfinal, hbalanced, -, hrequested⟩
        exact hsettled hfinal ⟨hbalanced, hrequested⟩

end

namespace RedirectLoop

variable {γ α : Type} {loop : RedirectLoop γ α} {script : AttemptScript γ} {index : ℕ}
  {current : String}

/-- A record keeps what an attempt has issued. -/
theorem triple_record_issued (recorded : AttemptOutcome) :
    Triple (Attempt.Issued current) (record loop.policy script.completion recorded)
      (fun _ => Attempt.Issued current) fun _ => Attempt.Issued current :=
  (triple_record (fun requested => requested = [] ∨ requested = [current]) recorded).weaken
    (fun _ h => h) (fun _ _ h => h.2) fun _ _ h => h.2

/-- A record keeps an attempt unissued. -/
theorem triple_record_unissued (recorded : AttemptOutcome) :
    Triple Attempt.Unissued (record loop.policy script.completion recorded)
      (fun _ => Attempt.Unissued) fun _ => Attempt.Unissued :=
  (triple_record (· = []) recorded).weaken (fun _ h => h) (fun _ _ h => h.2) fun _ _ h => h.2

/-- What comes before the request issues none. -/
theorem triple_admitDependencies :
    Triple Attempt.Unissued (loop.admitDependencies script) (fun _ => Attempt.Unissued)
      fun _ => Attempt.Unissued := by
  have hdns : Triple Attempt.Unissued (loop.ensureDns script) (fun _ => Attempt.Unissued)
      fun _ => Attempt.Unissued := by
    unfold ensureDns
    split
    · split
      · exact Triple.pure fun _ h => h
      · exact Triple.throw fun _ h => h
      · exact Triple.throw fun _ h => h
    · exact Triple.pure fun _ h => h
  have hrecorded (failure : Failure) : Triple Attempt.Unissued (loop.recordDnsAppError script failure)
      (fun _ => Attempt.Unissued) fun _ => Attempt.Unissued := by
    unfold recordDnsAppError
    split
    · exact triple_record_unissued _
    · split
      · exact triple_record_unissued _
      · exact triple_record_unissued _
    · exact Triple.pure fun _ h => h
  refine Triple.bind _ (Triple.tryCatch hdns fun failure =>
    Triple.bind _ (hrecorded failure) fun _ => Triple.throw fun _ h => h) fun _ => ?_
  split
  · split
    · exact Triple.pure fun _ h => h
    · exact Triple.throw fun _ h => h
  · exact Triple.pure fun _ h => h

/-- What a round that does not raise has seen: a response, and the redirect that was followed or what
was read of it. -/
inductive Seen (loop : RedirectLoop γ α) (script : AttemptScript γ) (index : ℕ) (current : String) :
    Round α → Prop
  | redirected {response : UpstreamResponse} {target : String}
      (hresponse : script.response = .ok response)
      (htarget : loop.redirectTarget index response current = .ok (some target)) :
      Seen loop script index current (.redirected target)
  | returned {response : UpstreamResponse} {value : α}
      (hresponse : script.response = .ok response)
      (htarget : loop.redirectTarget index response current = .ok none)
      (hvalue : loop.readResponse script.reading response current = .ok value) :
      Seen loop script index current (.returned value)

/-- The record of a status keeps what an attempt has issued. -/
theorem triple_recordStatus (status : ℕ) :
    Triple (Attempt.Issued current) (loop.recordStatus script status)
      (fun _ => Attempt.Issued current) fun _ => Attempt.Issued current := by
  unfold recordStatus
  split
  · exact triple_record_issued _
  · split
    · exact triple_record_issued _
    · exact Triple.pure fun _ h => h

/-- The handling of a response issues nothing. -/
theorem triple_handleResponse {response : UpstreamResponse} (hresponse : script.response = .ok response) :
    Triple (Attempt.Issued current) (loop.handleResponse script index current response)
      (fun round attempt => loop.Seen script index current round ∧ attempt.Issued current)
      fun _ => Attempt.Issued current := by
  refine Triple.bind (fun target attempt =>
    loop.redirectTarget index response current = .ok target ∧ attempt.Issued current)
    (Triple.ofExcept (fun target htarget attempt h => ⟨htarget, h⟩) fun _ _ _ h => h) fun target => ?_
  cases target with
  | some target =>
      refine Triple.fact fun htarget => Triple.bind _ (triple_record_issued _) fun _ =>
        Triple.pure fun attempt h => ?_
      exact ⟨.redirected hresponse htarget, h⟩
  | none =>
      refine Triple.fact fun htarget => Triple.bind _ (triple_recordStatus _) fun _ =>
        Triple.bind (fun value attempt =>
          loop.readResponse script.reading response current = .ok value ∧ attempt.Issued current)
          (Triple.ofExcept (fun value hvalue attempt h => ⟨hvalue, h⟩) fun _ _ _ h => h)
          fun value => ?_
      refine Triple.fact fun hvalue => Triple.bind _ (triple_record_issued _) fun _ =>
        Triple.pure fun attempt h => ?_
      exact ⟨.returned hresponse htarget hvalue, h⟩

/-- A round issues one request. -/
theorem triple_stream :
    Triple Attempt.Unissued (loop.stream script index current)
      (fun round attempt => loop.Seen script index current round ∧ attempt.Issued current)
      fun _ => Attempt.Issued current := by
  refine Triple.modify_bind (Attempt.Issued current) ?_ ?_
  · rintro attempt ⟨hbalanced, hrequested⟩
    refine ⟨hbalanced, .inr ?_⟩
    simp only [hrequested, List.nil_append]
  · cases hresponse : script.response with
    | ok response => exact triple_closing (triple_handleResponse hresponse)
    | error failure => exact Triple.throw fun _ h => h

/-- What a transport raises is recorded unless there is an outcome. -/
theorem triple_recordFailure (failure : Failure) :
    Triple (Attempt.Issued current) (loop.recordFailure script failure)
      (fun _ => Attempt.Issued current) fun _ => Attempt.Issued current := by
  unfold recordFailure
  split
  · refine Triple.get_bind fun now => ?_
    split
    · exact Triple.pure fun _ h => h.2
    · unfold recordTransportError
      split
      · exact (triple_record_issued _).weaken (fun _ h => h.2) (fun _ _ h => h) fun _ _ h => h
      · exact Triple.throw fun _ h => h.2
  · exact Triple.pure fun _ h => h

/-- The body of the context of a permit issues at most one request. -/
theorem triple_attemptBody :
    Triple Attempt.Unissued (loop.attemptBody script index current)
      (fun round attempt => loop.Seen script index current round ∧ attempt.Issued current)
      fun _ => Attempt.Issued current := by
  have hissued {attempt : Attempt} (h : attempt.Unissued) : attempt.Issued current :=
    ⟨h.1, .inl h.2⟩
  refine Triple.bind _ (triple_admitDependencies.weaken (fun _ h => h) (fun _ _ h => h)
    fun _ _ h => hissued h) fun _ => Triple.get_bind fun now => ?_
  split
  · exact Triple.throw fun _ h => hissued h.2
  · split
    · exact Triple.throw fun _ h => hissued h.2
    · exact (Triple.tryCatch triple_stream fun failure => Triple.bind _ (triple_recordFailure failure)
        fun _ => Triple.throw fun _ h => h).weaken (fun _ h => h.2) (fun _ _ h => h) fun _ _ h => h

/-- **An attempt.** Whatever happens to it, the permit of an admitted attempt is final when its
context is left, the guard was told one outcome, and at most one request was made. -/
theorem settled_attempt {permit : AttemptPermit} {result : Except Failure (Round α)}
    {attempt : Attempt} (hrun : outcome (permitContext loop.policy script.completion
      (loop.attemptBody script index current)) { permit } = (result, attempt)) :
    attempt.Settled current ∧ ∀ round, result = .ok round → loop.Seen script index current round := by
  have hcontext : Triple Attempt.Unissued (permitContext loop.policy script.completion
      (loop.attemptBody script index current))
      (fun round attempt => loop.Seen script index current round ∧ attempt.Settled current)
      fun _ => Attempt.Settled current := triple_permitContext triple_attemptBody
  have hfresh : Attempt.Unissued { permit } := ⟨rfl, rfl⟩
  cases result with
  | ok round =>
      obtain ⟨hseen, hsettled⟩ := hcontext.of_ok hfresh hrun
      refine ⟨hsettled, ?_⟩
      rintro _ ⟨⟩
      exact hseen
  | error failure =>
      refine ⟨hcontext.of_error hfresh hrun, ?_⟩
      rintro _ ⟨⟩

/-! ## Whole loops -/

variable {scripts : ℕ → AttemptScript γ}

/-- What has been returned was read of a response that is no redirect, from an allowed URL. -/
def ReturnedBy (loop : RedirectLoop γ α) (scripts : ℕ → AttemptScript γ) (Allowed : String → Prop)
    (value : α) : Prop :=
  ∃ index response current, (scripts index).response = .ok response ∧ Allowed current ∧
    loop.redirectTarget index response current = .ok none ∧
      loop.readResponse (scripts index).reading response current = .ok value

/-- **The rounds of the loop.** There are no more attempts than rounds; each of them is settled, with
a request to an allowed URL, as long as redirects lead to these; and what is returned was read of a
response that is no redirect. -/
theorem settled_rounds {Allowed : String → Prop}
    (hredirect : ∀ index response current target,
      loop.redirectTarget index response current = .ok (some target) → Allowed target)
    {left index : ℕ} {current : String} (hcurrent : Allowed current) :
    (loop.rounds scripts left index current).2.length ≤ left ∧
      (∀ attempt ∈ (loop.rounds scripts left index current).2,
        ∃ url, Allowed url ∧ attempt.Settled url) ∧
      ∀ value, (loop.rounds scripts left index current).1 = .ok value →
        loop.ReturnedBy scripts Allowed value := by
  induction left generalizing index current with
  | zero =>
      refine ⟨le_rfl, fun attempt h => absurd h List.not_mem_nil, ?_⟩
      rintro value ⟨⟩
  | succ left ih =>
      rw [rounds]
      split
      · refine ⟨Nat.zero_le _, fun attempt h => absurd h List.not_mem_nil, ?_⟩
        rintro value ⟨⟩
      · split
        · refine ⟨Nat.zero_le _, fun attempt h => absurd h List.not_mem_nil, ?_⟩
          rintro value ⟨⟩
        · split
          · rename_i failure attempt hrun
            refine ⟨Nat.le_add_left 1 left, ?_, ?_⟩
            · intro attempt' hmem
              obtain rfl := List.mem_singleton.1 hmem
              exact ⟨current, hcurrent, (settled_attempt hrun).1⟩
            · rintro value ⟨⟩
          · rename_i value attempt hrun
            obtain ⟨hsettled, hseen⟩ := settled_attempt hrun
            refine ⟨Nat.le_add_left 1 left, ?_, ?_⟩
            · intro attempt' hmem
              obtain rfl := List.mem_singleton.1 hmem
              exact ⟨current, hcurrent, hsettled⟩
            · rintro _ ⟨⟩
              cases hseen _ rfl with
              | returned hresponse htarget hvalue =>
                  exact ⟨index, _, current, hresponse, hcurrent, htarget, hvalue⟩
          · rename_i target attempt hrun
            obtain ⟨hsettled, hseen⟩ := settled_attempt hrun
            cases hseen _ rfl with
            | redirected hresponse htarget =>
                obtain ⟨hlength, hattempts, hreturned⟩ :=
                  @ih (index + 1) _ (hredirect _ _ _ _ htarget)
                refine ⟨Nat.succ_le_succ hlength, ?_, hreturned⟩
                intro attempt' hmem
                rcases List.mem_cons.1 hmem with rfl | hmem
                · exact ⟨current, hcurrent, hsettled⟩
                · exact hattempts attempt' hmem

end RedirectLoop

end NplgMcp
