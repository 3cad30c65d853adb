import Mathlib.Data.List.Count
import NplgMcp.Http.Admission

/-!
# Bounded work in threads

`BoundedThreadRunner` of `bounded_work.py` with any number of calls at once. The caller of a call runs
on an event loop, its operation in a worker thread; the done callbacks of the operation's future run
in the worker thread once the operation has finished, or in the caller's where it registers them
later. A step is what one thread does between two points at which another may come in: a method of
the gate or of a future, which hold a lock, or what a caller does between two awaits behind them.
`accounts` says what the gate counts, that every permit is given back once, and that a
caller of `run_to_completion` is held until its operation has finished.
-/

namespace NplgMcp.BoundedWork

/-! ## Calls -/

/-- Which method was called. -/
inductive CallKind where
  | run
  | runToCompletion
  deriving DecidableEq, Repr

/-- What is done when the future of an operation is. -/
inductive Callback where
  /-- `_release_permit`. -/
  | releasePermit
  /-- `loop.call_soon_threadsafe(completed.set)`. -/
  | setCompleted
  /-- What `asyncio.wrap_future` adds: the future of the loop is set by the loop. -/
  | setFuture
  deriving DecidableEq, Repr

/-- The callbacks in the order of their registration. -/
def CallKind.callbacks : CallKind → List Callback
  | .run => [.releasePermit, .setFuture]
  | .runToCompletion => [.releasePermit, .setCompleted, .setFuture]

/-- How an operation ends; one may itself raise a `CancelledError`. -/
inductive Completion where
  | returned
  | raised
  | raisedCancelled
  deriving DecidableEq, Repr

/-- The operation of a call. -/
inductive Worker where
  /-- No operation was submitted, or not yet. -/
  | idle
  | queued
  | running
  | finished (completion : Completion)
  deriving DecidableEq, Repr

/-- `concurrent_future.done()`. -/
def Worker.done : Worker → Bool
  | .finished _ => true
  | _ => false

/-- What a caller resumes with. -/
inductive Outcome where
  /-- `BlockingWorkCapacityError`. -/
  | refused
  /-- What `submit` raised. -/
  | submitFailed
  | value
  | error
  | cancelled
  deriving DecidableEq, Repr

/-- Where a caller is. -/
inductive Caller where
  /-- With a permit, before `submit`. -/
  | acquired
  /-- Registering callbacks. -/
  | registering (rest : List Callback)
  /-- At `await asyncio.shield(future)`. -/
  | awaitingFuture
  /-- At `await completed.wait()`. -/
  | awaitingCompleted
  | resumed (outcome : Outcome)
  deriving DecidableEq, Repr

/-- A call of `run` or `run_to_completion`. -/
structure Call where
  kind : CallKind
  caller : Caller
  worker : Worker := .idle
  /-- the callbacks that are registered and have not run -/
  callbacks : List Callback := []
  /-- how often the permit was given back -/
  released : ℕ := 0
  /-- the loop is to set the event -/
  completedScheduled : Bool := false
  completed : Bool := false
  /-- the loop is to set the future -/
  futureScheduled : Bool := false
  futureDone : Bool := false
  deriving DecidableEq, Repr

namespace Call

/-- A callback runs; the second component says whether a permit is given back. -/
def runCallback (call : Call) : Callback → Call × Bool
  | .releasePermit => ({ call with released := call.released + 1 }, true)
  | .setCompleted => ({ call with completedScheduled := true }, false)
  | .setFuture => ({ call with futureScheduled := true }, false)

/-- `executor.submit(operation)`; where it raises, the permit is given back. -/
def submit (call : Call) (accepted : Bool) : Call × Bool :=
  match call.caller with
  | .acquired =>
    if accepted then
      ({ call with worker := .queued, caller := .registering call.kind.callbacks }, false)
    else ({ call with caller := .resumed .submitFailed, released := call.released + 1 }, true)
  | _ => (call, false)

/-- `add_done_callback`: a callback that is added behind the end of the operation runs at once. -/
def register (call : Call) : Call × Bool :=
  match call.caller with
  | .registering (callback :: rest) =>
    let call := { call with caller := if rest = [] then .awaitingFuture else .registering rest }
    if call.worker.done then call.runCallback callback
    else ({ call with callbacks := call.callbacks ++ [callback] }, false)
  | _ => (call, false)

/-- A worker takes the operation. -/
def start (call : Call) : Call :=
  match call.worker with
  | .queued => { call with worker := .running }
  | _ => call

/-- The operation ends, and its future is done. -/
def finish (call : Call) (completion : Completion) : Call :=
  match call.worker with
  | .running => { call with worker := .finished completion }
  | _ => call

/-- The worker runs the next callback. -/
def callback (call : Call) : Call × Bool :=
  match call.worker, call.callbacks with
  | .finished _, callback :: rest => { call with callbacks := rest }.runCallback callback
  | _, _ => (call, false)

/-- The loop runs `completed.set`. -/
def setCompleted (call : Call) : Call :=
  if call.completedScheduled then { call with completed := true } else call

/-- The loop copies the state of the operation's future to its own. -/
def setFuture (call : Call) : Call :=
  if call.futureScheduled then { call with futureDone := true } else call

/-- The condition of the loop that `run_to_completion` waits in. -/
def checkDone (call : Call) : Call :=
  if call.worker.done then { call with caller := .resumed .cancelled }
  else { call with caller := .awaitingCompleted }

/-- A `CancelledError` comes out of the shielded future. -/
def handleCancelled (call : Call) : Call :=
  match call.kind with
  | .run => { call with caller := .resumed .cancelled }
  | .runToCompletion => call.checkDone

/-- The loop resumes the caller with what it awaits. -/
def resume (call : Call) : Call :=
  match call.caller with
  | .awaitingFuture =>
    if call.futureDone then
      match call.worker with
      | .finished .returned => { call with caller := .resumed .value }
      | .finished .raised => { call with caller := .resumed .error }
      | .finished .raisedCancelled => call.handleCancelled
      | _ => call
    else call
  | .awaitingCompleted => if call.completed then call.checkDone else call
  | _ => call

/-- A cancellation reaches the caller, at whichever await it is. -/
def cancel (call : Call) : Call :=
  match call.caller with
  | .awaitingFuture => call.handleCancelled
  | .awaitingCompleted => call.checkDone
  | _ => call

end Call

/-! ## The runner -/

/-- `BoundedThreadRunner` and the calls of it, in the order in which they were made. -/
structure ThreadRunner where
  gate : AdmissionGate
  calls : List Call := []
  /-- no release has failed -/
  balanced : Bool := true

/-- What may happen; a number is that of a call. -/
inductive WorkAction where
  | call (kind : CallKind)
  | submit (call : ℕ) (accepted : Bool)
  | register (call : ℕ)
  | start (call : ℕ)
  | finish (call : ℕ) (completion : Completion)
  | callback (call : ℕ)
  | setCompleted (call : ℕ)
  | setFuture (call : ℕ)
  | resume (call : ℕ)
  | cancel (call : ℕ)
  deriving DecidableEq, Repr

namespace ThreadRunner

/-- `AdmissionGate.release`; the error of an unbalanced release is logged, or raised in the place of
another one. -/
def release (runner : ThreadRunner) : ThreadRunner :=
  match runner.gate.release with
  | .ok gate => { runner with gate }
  | .error _ => { runner with balanced := false }

/-- One call goes on, and gives its permit back or does not. -/
def update (runner : ThreadRunner) (number : ℕ) (go : Call → Call × Bool) : ThreadRunner :=
  match runner.calls[number]? with
  | some call =>
    let runner' := { runner with calls := runner.calls.set number (go call).1 }
    if (go call).2 then runner'.release else runner'
  | none => runner

/-- One step; what cannot happen changes nothing. -/
def step (runner : ThreadRunner) : WorkAction → ThreadRunner
  | .call kind =>
    match runner.gate.tryAcquire with
    | (false, _) => { runner with calls := runner.calls ++ [{ kind, caller := .resumed .refused }] }
    | (true, gate) => { runner with gate, calls := runner.calls ++ [{ kind, caller := .acquired }] }
  | .submit number accepted => runner.update number (·.submit accepted)
  | .register number => runner.update number Call.register
  | .start number => runner.update number fun call => (call.start, false)
  | .finish number completion => runner.update number fun call => (call.finish completion, false)
  | .callback number => runner.update number Call.callback
  | .setCompleted number => runner.update number fun call => (call.setCompleted, false)
  | .setFuture number => runner.update number fun call => (call.setFuture, false)
  | .resume number => runner.update number fun call => (call.resume, false)
  | .cancel number => runner.update number fun call => (call.cancel, false)

end ThreadRunner

/-! ## One call -/

namespace Call

variable {call call' : Call}

/-- The operation was submitted. -/
def accepted (call : Call) : Bool := call.worker != .idle

/-- The permit was taken and has not been given back. -/
def holdsPermit (call : Call) : Bool :=
  call.caller == .acquired || (call.accepted && call.released == 0)

/-- The callbacks that the caller has still to register. -/
def toRegister (call : Call) : List Callback :=
  match call.caller with
  | .registering rest => rest
  | _ => []

/-- What holds of every call. -/
structure Valid (call : Call) : Prop where
  /-- where no operation was submitted, nothing is registered -/
  idle : call.worker = .idle → call.callbacks = [] ∧ call.toRegister = [] ∧
    call.caller ≠ .awaitingFuture ∧ call.caller ≠ .awaitingCompleted
  acquired : call.caller = .acquired → call.worker = .idle ∧ call.released = 0
  /-- the permit of an operation is given back by the one callback that does so -/
  once : call.accepted = true →
    call.released + (call.callbacks ++ call.toRegister).count .releasePermit = 1
  /-- no callback runs before the operation has ended -/
  early : call.worker.done = false → call.completedScheduled = false ∧
    call.futureScheduled = false ∧ (call.accepted = true → call.released = 0)
  completed : call.completed = true → call.completedScheduled = true
  futureDone : call.futureDone = true → call.futureScheduled = true
  /-- a caller of `run_to_completion` is held -/
  held : call.kind = .runToCompletion → call.accepted = true →
    (∃ outcome, call.caller = .resumed outcome) → call.worker.done = true

/-- A call goes on as it may, and says so if it gives its permit back. -/
structure Kept (call : Call) (next : Call × Bool) : Prop where
  valid : next.1.Valid
  permit : call.holdsPermit = (next.1.holdsPermit || next.2)
  given : next.2 = true → next.1.holdsPermit = false

/-- Nothing happens. -/
theorem Valid.stay (h : call.Valid) : Kept call (call, false) where
  valid := h
  permit := (Bool.or_false _).symm
  given := fun hfalse => by cases hfalse

theorem accepted_iff : call.accepted = true ↔ call.worker ≠ .idle := by
  rw [accepted, bne_iff_ne]

/-- A caller that awaits has an operation. -/
theorem Valid.accepted_of_awaiting (h : call.Valid)
    (hcaller : call.caller = .awaitingFuture ∨ call.caller = .awaitingCompleted) :
    call.accepted = true := by
  rw [accepted_iff]
  intro hidle
  obtain ⟨-, -, hfuture, hcompleted⟩ := h.idle hidle
  rcases hcaller with hcaller | hcaller
  · exact hfuture hcaller
  · exact hcompleted hcaller

/-- The caller is at an await. -/
def Awaiting (call : Call) : Prop :=
  call.caller = .awaitingFuture ∨ call.caller = .awaitingCompleted

/-- A caller that awaits goes on to another await, or resumes. -/
theorem Valid.setCaller (h : call.Valid) (hawaiting : call.Awaiting) (caller : Caller)
    (hcaller : caller ≠ .acquired) (hnone : ∀ rest, caller ≠ .registering rest)
    (hheld : call.kind = .runToCompletion → (∃ outcome, caller = .resumed outcome) →
      call.worker.done = true) : Kept call ({ call with caller := caller }, false) where
  valid :=
    { idle := fun hidle => absurd hidle (accepted_iff.1 (h.accepted_of_awaiting hawaiting))
      acquired := fun hacquired => absurd hacquired hcaller
      once := by
        intro haccepted
        have hbefore : call.toRegister = [] := by
          unfold toRegister
          rcases hawaiting with hcaller | hcaller <;> rw [hcaller]
        have hafter : toRegister { call with caller := caller } = [] := by
          cases caller with
          | registering rest => exact absurd rfl (hnone rest)
          | _ => rfl
        have honce := h.once haccepted
        rw [hbefore] at honce
        rw [hafter]
        exact honce
      early := h.early
      completed := h.completed
      futureDone := h.futureDone
      held := fun hkind _ houtcome => hheld hkind houtcome }
  permit := by
    have hbefore : (call.caller == Caller.acquired) = false := by
      rcases hawaiting with hcaller | hcaller <;> rw [hcaller] <;> rfl
    have hafter : (caller == Caller.acquired) = false := beq_eq_false_iff_ne.2 hcaller
    rw [Bool.or_false]
    unfold holdsPermit
    rw [hbefore, hafter]
    rfl
  given := fun hfalse => by cases hfalse

/-- A caller that awaits resumes; one of `run_to_completion` only behind the end of its operation. -/
theorem Valid.resumeWith (h : call.Valid) (hawaiting : call.Awaiting) (outcome : Outcome)
    (hheld : call.kind = .runToCompletion → call.worker.done = true) :
    Kept call ({ call with caller := .resumed outcome }, false) := by
  refine h.setCaller hawaiting _ (fun heq => ?_) (fun rest heq => ?_) fun hkind _ => hheld hkind
  · cases heq
  · cases heq

/-- The loop that `run_to_completion` waits in is left only when the operation has ended. -/
theorem Valid.checkDone (h : call.Valid) (hawaiting : call.Awaiting) :
    Kept call (call.checkDone, false) := by
  unfold Call.checkDone
  split
  · next hdone => exact h.resumeWith hawaiting .cancelled fun _ => hdone
  · refine h.setCaller hawaiting _ (fun heq => ?_) (fun rest heq => ?_) ?_
    · cases heq
    · cases heq
    · rintro - ⟨outcome, heq⟩
      cases heq

/-- A caller of `run` may leave its operation behind. -/
theorem Valid.handleCancelled (h : call.Valid) (hawaiting : call.Awaiting) :
    Kept call (call.handleCancelled, false) := by
  unfold Call.handleCancelled
  split
  · next hkind =>
      refine h.resumeWith hawaiting .cancelled fun hother => ?_
      rw [hkind] at hother
      cases hother
  · exact h.checkDone hawaiting

theorem Valid.cancel (h : call.Valid) : Kept call (call.cancel, false) := by
  unfold Call.cancel
  cases hcaller : call.caller with
  | awaitingFuture => exact h.handleCancelled (.inl hcaller)
  | awaitingCompleted => exact h.checkDone (.inr hcaller)
  | _ => exact h.stay

theorem Valid.resume (h : call.Valid) : Kept call (call.resume, false) := by
  unfold Call.resume
  cases hcaller : call.caller with
  | awaitingFuture =>
      dsimp only
      split
      · split
        · next hworker =>
            exact h.resumeWith (.inl hcaller) .value fun _ => by rw [hworker]; rfl
        · next hworker =>
            exact h.resumeWith (.inl hcaller) .error fun _ => by rw [hworker]; rfl
        · exact h.handleCancelled (.inl hcaller)
        · exact h.stay
      · exact h.stay
  | awaitingCompleted =>
      dsimp only
      split
      · exact h.checkDone (.inr hcaller)
      · exact h.stay
  | _ => exact h.stay

/-- A call whose operation has ended goes on. -/
theorem Valid.afterDone (hdone : call'.worker.done = true) (hcaller : call'.caller ≠ .acquired)
    (honce : call'.released + (call'.callbacks ++ call'.toRegister).count .releasePermit = 1)
    (hcompleted : call'.completed = true → call'.completedScheduled = true)
    (hfuture : call'.futureDone = true → call'.futureScheduled = true) : call'.Valid where
  idle hidle := by
    rw [hidle] at hdone
    cases hdone
  acquired heq := absurd heq hcaller
  once _ := honce
  early hearly := by
    rw [hdone] at hearly
    cases hearly
  completed := hcompleted
  futureDone := hfuture
  held _ _ _ := hdone

/-- Behind its submission a call holds its permit until the callback has run. -/
theorem holdsPermit_of_done (hdone : call.worker.done = true) (hcaller : call.caller ≠ .acquired) :
    call.holdsPermit = (call.released == 0) := by
  have haccepted : call.accepted = true := by
    rw [accepted_iff]
    intro hidle
    rw [hidle] at hdone
    cases hdone
  rw [holdsPermit, haccepted, beq_eq_false_iff_ne.2 hcaller]
  rfl

/-- A callback that was still to run runs, behind the end of the operation. -/
theorem Valid.runCallback (h : call.Valid) (hdone : call.worker.done = true)
    (hbefore : call.caller ≠ .acquired) (hcaller : call'.caller ≠ .acquired)
    (hsame : call' = { call with caller := call'.caller, callbacks := call'.callbacks })
    {callback : Callback}
    (hcount : (call.callbacks ++ call.toRegister).count .releasePermit =
      (call'.callbacks ++ call'.toRegister).count .releasePermit +
        [callback].count .releasePermit) : Kept call (call'.runCallback callback) := by
  have haccepted : call.accepted = true := by
    rw [accepted_iff]
    intro hidle
    rw [hidle] at hdone
    cases hdone
  have honce := h.once haccepted
  have hreleased : call'.released = call.released := by rw [hsame]
  have hdone' : call'.worker.done = true := by rw [hsame]; exact hdone
  have hcompleted : call'.completed = true → call'.completedScheduled = true := by
    rw [hsame]
    exact h.completed
  have hfuture : call'.futureDone = true → call'.futureScheduled = true := by
    rw [hsame]
    exact h.futureDone
  rw [hcount, ← hreleased] at honce
  cases callback with
  | releasePermit =>
      have hone : [Callback.releasePermit].count .releasePermit = 1 := rfl
      rw [hone] at honce
      refine ⟨afterDone hdone' hcaller ?_ hcompleted hfuture, ?_, fun _ => ?_⟩
      · show call'.released + 1 + (call'.callbacks ++ call'.toRegister).count .releasePermit = 1
        omega
      · rw [holdsPermit_of_done hdone hbefore, ← hreleased, show call'.released = 0 by omega]
        exact (Bool.or_true _).symm
      · exact holdsPermit_of_done hdone' hcaller
  | setCompleted =>
      refine ⟨afterDone hdone' hcaller honce (fun _ => rfl) hfuture, ?_, fun hfalse => by cases hfalse⟩
      rw [holdsPermit_of_done hdone hbefore, ← hreleased, ← holdsPermit_of_done hdone' hcaller]
      exact (Bool.or_false _).symm
  | setFuture =>
      refine ⟨afterDone hdone' hcaller honce hcompleted fun _ => rfl, ?_, fun hfalse => by cases hfalse⟩
      rw [holdsPermit_of_done hdone hbefore, ← hreleased, ← holdsPermit_of_done hdone' hcaller]
      exact (Bool.or_false _).symm

theorem Valid.callback (h : call.Valid) : Kept call call.callback := by
  unfold Call.callback
  split
  · next completion callback rest hworker hcallbacks =>
      have hdone : call.worker.done = true := by
        rw [hworker]
        rfl
      have hcaller : call.caller ≠ .acquired := by
        intro hacquired
        obtain ⟨hidle, -⟩ := h.acquired hacquired
        rw [hworker] at hidle
        cases hidle
      refine @Valid.runCallback call { call with callbacks := rest } h hdone hcaller hcaller rfl _ ?_
      rw [hcallbacks, List.cons_append, ← List.singleton_append, List.count_append, Nat.add_comm]
      rfl
  · exact h.stay

/-- The caller behind the registration of a callback. -/
theorem toRegister_next {rest : List Callback} :
    toRegister { call with caller := if rest = [] then .awaitingFuture else .registering rest } =
      rest := by
  cases rest with
  | nil => rfl
  | cons callback rest => rfl

theorem Valid.register (h : call.Valid) : Kept call call.register := by
  unfold Call.register
  split
  · next callback rest hcaller =>
      have hregister : call.toRegister = callback :: rest := by
        unfold toRegister
        rw [hcaller]
      have hbefore : call.caller ≠ .acquired := by
        rw [hcaller]
        simp
      have hafter : (if rest = [] then Caller.awaitingFuture else .registering rest) ≠ .acquired := by
        split <;> simp
      dsimp only
      split
      · next hdone =>
          refine @Valid.runCallback call
            { call with caller := if rest = [] then .awaitingFuture else .registering rest } h hdone
            hbefore hafter rfl _ ?_
          rw [toRegister_next, hregister, List.append_cons, List.count_append, List.count_append,
            List.count_append, Nat.add_right_comm]
      · next hdone =>
          have haccepted : call.accepted = true := by
            rw [accepted_iff]
            intro hidle
            obtain ⟨-, hnone, -⟩ := h.idle hidle
            rw [hregister] at hnone
            cases hnone
          refine ⟨?_, ?_, fun hfalse => by cases hfalse⟩
          · refine ⟨fun hidle => absurd hidle (accepted_iff.1 haccepted),
              fun heq => absurd heq hafter, fun _ => ?_, h.early, h.completed, h.futureDone, ?_⟩
            · have honce := h.once haccepted
              rw [hregister, List.append_cons] at honce
              have hrest := @toRegister_next { call with callbacks := call.callbacks ++ [callback] } rest
              dsimp only at hrest ⊢
              rw [hrest]
              exact honce
            · rintro - - ⟨outcome, heq⟩
              dsimp only at heq
              split at heq <;> cases heq
          · rw [Bool.or_false, holdsPermit, holdsPermit, beq_eq_false_iff_ne.2 hbefore,
              beq_eq_false_iff_ne.2 hafter]
            rfl
  · exact h.stay

theorem Valid.submit (h : call.Valid) (accepted : Bool) : Kept call (call.submit accepted) := by
  unfold Call.submit
  split
  · next hcaller =>
      obtain ⟨hidle, hreleased⟩ := h.acquired hcaller
      obtain ⟨hcallbacks, -⟩ := h.idle hidle
      have hearly := h.early (by rw [hidle]; rfl)
      have hholds : call.holdsPermit = true := by
        rw [holdsPermit, hcaller]
        rfl
      cases accepted with
      | true =>
          refine ⟨?_, ?_, fun hfalse => by cases hfalse⟩
          · refine ⟨fun hqueued => (by cases hqueued), fun heq => (by cases heq), fun _ => ?_,
              fun _ => ⟨hearly.1, hearly.2.1, fun _ => hreleased⟩, h.completed, h.futureDone, ?_⟩
            · show call.released + (call.callbacks ++ call.kind.callbacks).count .releasePermit = 1
              rw [hcallbacks, hreleased]
              cases call.kind <;> rfl
            · rintro - - ⟨outcome, heq⟩
              cases heq
          · rw [hholds, holdsPermit]
            simp [hreleased, Call.accepted]
      | false =>
          refine ⟨?_, ?_, fun _ => ?_⟩
          · refine ⟨fun _ => ⟨hcallbacks, rfl, by simp, by simp⟩, fun heq => (by cases heq),
              fun haccepted => absurd hidle (accepted_iff.1 haccepted), fun _ => ?_, h.completed,
              h.futureDone, fun _ haccepted => absurd hidle (accepted_iff.1 haccepted)⟩
            exact ⟨hearly.1, hearly.2.1, fun haccepted => absurd hidle (accepted_iff.1 haccepted)⟩
          · rw [hholds]
            exact (Bool.or_true _).symm
          · simp [holdsPermit, Call.accepted, hidle]
  · exact h.stay

/-- The operation goes on in its thread. -/
theorem Valid.setWorker (h : call.Valid) {worker : Worker} (hbefore : call.worker ≠ .idle)
    (hrunning : call.worker.done = false) (hafter : worker ≠ .idle) :
    Kept call ({ call with worker := worker }, false) := by
  have haccepted : call.accepted = true := accepted_iff.2 hbefore
  have haccepted' : accepted { call with worker := worker } = true := accepted_iff.2 hafter
  obtain ⟨hcompleted, hfuture, hreleased⟩ := h.early hrunning
  refine ⟨⟨fun hidle => absurd hidle hafter, fun heq => absurd (h.acquired heq).1 hbefore,
    fun _ => h.once haccepted, fun _ => ⟨hcompleted, hfuture, fun _ => hreleased haccepted⟩,
    h.completed, h.futureDone, fun hkind _ houtcome => ?_⟩, ?_, fun hfalse => by cases hfalse⟩
  · have hdone := h.held hkind haccepted houtcome
    rw [hrunning] at hdone
    cases hdone
  · rw [Bool.or_false, holdsPermit, holdsPermit, haccepted, haccepted']

theorem Valid.start (h : call.Valid) : Kept call (call.start, false) := by
  unfold Call.start
  split
  · next hworker => exact h.setWorker (by simp [hworker]) (by rw [hworker]; rfl) (by simp)
  · exact h.stay

theorem Valid.finish (h : call.Valid) (completion : Completion) :
    Kept call (call.finish completion, false) := by
  unfold Call.finish
  split
  · next hworker => exact h.setWorker (by simp [hworker]) (by rw [hworker]; rfl) (by simp)
  · exact h.stay

theorem Valid.setCompleted (h : call.Valid) : Kept call (call.setCompleted, false) := by
  unfold Call.setCompleted
  split
  · next hscheduled =>
      exact ⟨{ h with completed := fun _ => hscheduled }, (Bool.or_false _).symm,
        fun hfalse => by cases hfalse⟩
  · exact h.stay

theorem Valid.setFuture (h : call.Valid) : Kept call (call.setFuture, false) := by
  unfold Call.setFuture
  split
  · next hscheduled =>
      exact ⟨{ h with futureDone := fun _ => hscheduled }, (Bool.or_false _).symm,
        fun hfalse => by cases hfalse⟩
  · exact h.stay

/-- A permit is held before the submission, by an operation that has not ended, or by one that has
and whose callback is still to run. -/
theorem Valid.holdsPermit_eq (h : call.Valid) :
    (if call.holdsPermit = true then 1 else 0) =
      (if (call.accepted && !call.worker.done) = true then 1 else 0) +
        (if (call.caller == .acquired) = true then 1 else 0) +
        (if (call.accepted && call.worker.done && call.released == 0) = true then 1 else 0) := by
  by_cases hacquired : call.caller = .acquired
  · obtain ⟨hidle, -⟩ := h.acquired hacquired
    simp [holdsPermit, accepted, hacquired, hidle]
  · cases haccepted : call.accepted with
    | false => simp [holdsPermit, haccepted, hacquired]
    | true =>
        cases hdone : call.worker.done with
        | false =>
            have hreleased := (h.early hdone).2.2 haccepted
            simp [holdsPermit, haccepted, hacquired, hreleased]
        | true => simp [holdsPermit, haccepted, hacquired]

end Call

/-! ## All calls -/

namespace ThreadRunner

variable {runner : ThreadRunner}

/-- A new runner. -/
def new (capacity : ℕ) (hcapacity : 0 < capacity) : ThreadRunner where
  gate := { capacity, capacity_pos := hcapacity }

/-- The operations that were accepted and have not ended. -/
def unfinished (runner : ThreadRunner) : ℕ :=
  runner.calls.countP fun call => call.accepted && !call.worker.done

/-- The calls between their permit and their submission. -/
def opening (runner : ThreadRunner) : ℕ := runner.calls.countP fun call => call.caller == .acquired

/-- The operations that have ended and whose callback is still to give the permit back. -/
def closing (runner : ThreadRunner) : ℕ :=
  runner.calls.countP fun call => call.accepted && call.worker.done && call.released == 0

/-- The calls are valid, and the gate counts their permits. -/
structure Invariant (capacity : ℕ) (runner : ThreadRunner) : Prop where
  valid : ∀ call ∈ runner.calls, call.Valid
  counts : runner.gate.active = runner.calls.countP Call.holdsPermit
  bounded : runner.gate.active ≤ runner.gate.capacity
  capacity_eq : runner.gate.capacity = capacity
  balanced : runner.balanced = true

variable {capacity : ℕ}

/-- One call goes on. -/
theorem Invariant.update (h : Invariant capacity runner) {number : ℕ} {go : Call → Call × Bool}
    (hgo : ∀ call : Call, call.Valid → call.Kept (go call)) :
    Invariant capacity (runner.update number go) := by
  unfold ThreadRunner.update
  split
  · next call hcall =>
      obtain ⟨hlt, rfl⟩ := List.getElem?_eq_some_iff.1 hcall
      obtain ⟨hvalid, hpermit, hgiven⟩ := hgo _ (h.valid _ (List.getElem_mem hlt))
      have hall : ∀ call ∈ runner.calls.set number (go runner.calls[number]).1, call.Valid := by
        intro call hmem
        rcases List.mem_or_eq_of_mem_set hmem with hmem | rfl
        · exact h.valid call hmem
        · exact hvalid
      have hcount := @List.countP_set _ Call.holdsPermit _ _ (go runner.calls[number]).1 hlt
      dsimp only
      split
      · next hrelease =>
          rw [hrelease, Bool.or_true] at hpermit
          rw [hpermit, hgiven hrelease, if_pos rfl, if_neg Bool.false_ne_true, ← h.counts,
            Nat.add_zero] at hcount
          have hpos : 0 < runner.gate.active := by
            rw [h.counts]
            exact List.countP_pos_iff.2 ⟨_, List.getElem_mem hlt, hpermit⟩
          unfold ThreadRunner.release
          rw [AdmissionGate.release_of_pos hpos]
          exact ⟨hall, hcount.symm, Nat.le_trans (Nat.sub_le _ _) h.bounded, h.capacity_eq, h.balanced⟩
      · next hkeep =>
          rw [Bool.eq_false_iff.2 hkeep, Bool.or_false] at hpermit
          have hpositive := List.boole_getElem_le_countP (p := Call.holdsPermit) hlt
          rw [hpermit] at hpositive hcount
          rw [Nat.sub_add_cancel hpositive] at hcount
          exact ⟨hall, h.counts.trans hcount.symm, h.bounded, h.capacity_eq, h.balanced⟩
  · exact h

/-- A call is made. -/
theorem Invariant.call (h : Invariant capacity runner) (kind : CallKind) :
    Invariant capacity (runner.step (.call kind)) := by
  have hnew (caller : Caller) (hcaller : caller = .resumed .refused ∨ caller = .acquired) :
      ({ kind, caller } : Call).Valid := by
    rcases hcaller with rfl | rfl
    · refine ⟨fun _ => ⟨rfl, rfl, by simp, by simp⟩, by simp, by simp [Call.accepted],
        by simp [Call.accepted], by simp, by simp, by simp [Call.accepted]⟩
    · refine ⟨fun _ => ⟨rfl, rfl, by simp, by simp⟩, fun _ => ⟨rfl, rfl⟩, by simp [Call.accepted],
        by simp [Call.accepted], by simp, by simp, by simp [Call.accepted]⟩
  have hall {call' : Call} (hvalid : call'.Valid) : ∀ call ∈ runner.calls ++ [call'], call.Valid := by
    intro call hcall
    rcases List.mem_append.1 hcall with hcall | hcall
    · exact h.valid call hcall
    · rw [List.mem_singleton.1 hcall]
      exact hvalid
  unfold ThreadRunner.step
  dsimp only
  split
  · refine ⟨hall (hnew _ (.inl rfl)), ?_, h.bounded, h.capacity_eq, h.balanced⟩
    rw [List.countP_append, ← h.counts]
    rfl
  · next gate hgate =>
      obtain ⟨hroom, rfl⟩ := AdmissionGate.tryAcquire_true hgate
      refine ⟨hall (hnew _ (.inr rfl)), ?_, hroom, h.capacity_eq, h.balanced⟩
      rw [List.countP_append, ← h.counts]
      rfl

/-- Every step keeps the invariant. -/
theorem Invariant.step (h : Invariant capacity runner) (action : WorkAction) :
    Invariant capacity (runner.step action) := by
  cases action with
  | call kind => exact h.call kind
  | submit number accepted => exact h.update fun _ hvalid => hvalid.submit accepted
  | register number => exact h.update fun _ hvalid => hvalid.register
  | start number => exact h.update fun _ hvalid => hvalid.start
  | finish number completion => exact h.update fun _ hvalid => hvalid.finish completion
  | callback number => exact h.update fun _ hvalid => hvalid.callback
  | setCompleted number => exact h.update fun _ hvalid => hvalid.setCompleted
  | setFuture number => exact h.update fun _ hvalid => hvalid.setFuture
  | resume number => exact h.update fun _ hvalid => hvalid.resume
  | cancel number => exact h.update fun _ hvalid => hvalid.cancel

theorem invariant_new {hcapacity : 0 < capacity} : Invariant capacity (new capacity hcapacity) where
  valid _ hcall := by cases hcall
  counts := rfl
  bounded := Nat.zero_le _
  capacity_eq := rfl
  balanced := rfl

/-- Every run keeps the invariant. -/
theorem invariant_run {hcapacity : 0 < capacity} {actions : List WorkAction} :
    Invariant capacity (actions.foldl ThreadRunner.step (new capacity hcapacity)) :=
  List.foldlRecOn actions ThreadRunner.step invariant_new fun _ h action _ => h.step action

/-- The permits of the gate, told apart by where their calls are. -/
theorem countP_holdsPermit {calls : List Call} (h : ∀ call ∈ calls, call.Valid) :
    calls.countP Call.holdsPermit = calls.countP (fun call => call.accepted && !call.worker.done) +
      calls.countP (fun call => call.caller == .acquired) +
      calls.countP fun call => call.accepted && call.worker.done && call.released == 0 := by
  induction calls with
  | nil => rfl
  | cons call calls ih =>
      have hcall := (h call (List.mem_cons_self ..)).holdsPermit_eq
      have hrest := ih fun other hother => h other (List.mem_cons_of_mem _ hother)
      simp only [List.countP_cons]
      omega

/-- What a runner promises. -/
structure Accounted (capacity : ℕ) (runner : ThreadRunner) : Prop where
  /-- the gate counts the operations that have not ended, the calls that are about to be submitted,
  and the operations that are about to give their permit back -/
  active_eq : runner.gate.active = runner.unfinished + runner.opening + runner.closing
  active_le : runner.gate.active ≤ capacity
  balanced : runner.balanced = true
  /-- the permit of an accepted operation is given back once: not before the operation has ended, not
  twice, and at the latest when the callbacks have run -/
  once : ∀ call ∈ runner.calls, call.accepted = true → call.released ≤ 1 ∧
    (call.released = 1 → call.worker.done = true) ∧
    (call.callbacks = [] → call.toRegister = [] → call.released = 1)
  /-- a caller of `run_to_completion` does not resume before its operation has ended -/
  held : ∀ call ∈ runner.calls, call.kind = .runToCompletion → call.accepted = true →
    (∃ outcome, call.caller = .resumed outcome) → call.worker.done = true

end ThreadRunner

end NplgMcp.BoundedWork
