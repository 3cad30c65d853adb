import NplgMcp.Resilience.UpstreamGuard

/-!
# The PDF worker circuit

`PdfCircuitBreaker` of `pdf_executor.py` and the way `DisposablePdfExecutor.execute` drives it: one
permit, so one attempt at a time, and each attempt that `before_attempt` admits reports exactly
one outcome, whether or not the recording raises.
-/

namespace NplgMcp

/-- `PdfCircuitPolicy`, with the bounds of `__post_init__`. -/
structure PdfCircuitPolicy where
  failureThreshold : ℕ
  openSeconds : ℚ
  failureThreshold_bounds : 1 ≤ failureThreshold ∧ failureThreshold ≤ 100
  openSeconds_bounds : 0 < openSeconds ∧ openSeconds ≤ 3600

/-- The mutable fields of `PdfCircuitBreaker`. -/
structure PdfCircuitBreaker where
  consecutiveFailures : ℕ
  openUntil : Option ℚ
  halfOpenProbe : Bool
  lastNow : Option ℚ
  deriving DecidableEq, Repr

/-- What the breaker raises. -/
inductive PdfCircuitError where
  | workerUnavailable
  | invalidClock
  | invalidOpenDeadline
  deriving DecidableEq, Repr

namespace PdfCircuitBreaker

/-- A fresh breaker. -/
def initial : PdfCircuitBreaker := ⟨0, none, false, none⟩

/-- The clock samples `_now` accepts after `lastNow`. -/
def AcceptsClock (breaker : PdfCircuitBreaker) : FloatSample → Prop
  | .finite value => 0 ≤ value ∧ ∀ last ∈ breaker.lastNow, last ≤ value
  | _ => False

instance (breaker : PdfCircuitBreaker) : ∀ sample, Decidable (breaker.AcceptsClock sample)
  | .finite value =>
    inferInstanceAs (Decidable (0 ≤ value ∧ ∀ last ∈ breaker.lastNow, last ≤ value))
  | .other | .nan | .infinite => isFalse id

/-- `_now`: `none` is the `RuntimeError`, which changes nothing. -/
def now (breaker : PdfCircuitBreaker) (sample : FloatSample) : Option (ℚ × PdfCircuitBreaker) :=
  match sample with
  | .finite value =>
    if breaker.AcceptsClock sample then some (value, { breaker with lastNow := some value })
    else none
  | _ => none

/-- The test `_half_open_probe or _now() < open_until` that readiness and admission share; the
clock is sampled only where the probe flag does not decide. -/
def requireCooledDown (breaker : PdfCircuitBreaker) (openUntil : ℚ) (clock : FloatSample) :
    Except PdfCircuitError Unit × PdfCircuitBreaker :=
  if breaker.halfOpenProbe then (.error .workerUnavailable, breaker)
  else
    match breaker.now clock with
    | none => (.error .invalidClock, breaker)
    | some (now, breaker) =>
      if now < openUntil then (.error .workerUnavailable, breaker) else (.ok (), breaker)

/-- `ensure_ready`. -/
def ensureReady (breaker : PdfCircuitBreaker) (clock : FloatSample) :
    Except PdfCircuitError Unit × PdfCircuitBreaker :=
  match breaker.openUntil with
  | none => (.ok (), breaker)
  | some openUntil => breaker.requireCooledDown openUntil clock

/-- `before_attempt`: a closed attempt, or exactly one probe after the open interval. -/
def beforeAttempt (breaker : PdfCircuitBreaker) (clock : FloatSample) :
    Except PdfCircuitError Unit × PdfCircuitBreaker :=
  match breaker.openUntil with
  | none => (.ok (), breaker)
  | some openUntil =>
    match breaker.requireCooledDown openUntil clock with
    | (.error error, breaker) => (.error error, breaker)
    | (.ok _, breaker) => (.ok (), { breaker with halfOpenProbe := true })

/-- `record_success`. -/
def recordSuccess (breaker : PdfCircuitBreaker) : PdfCircuitBreaker :=
  { breaker with consecutiveFailures := 0, openUntil := none, halfOpenProbe := false }

/-- `record_operational_failure`: the failure is counted before the clock is sampled, the probe
released after. -/
def recordOperationalFailure (policy : PdfCircuitPolicy) (breaker : PdfCircuitBreaker)
    (clock : FloatSample) : Except PdfCircuitError Unit × PdfCircuitBreaker :=
  let breaker := { breaker with consecutiveFailures := breaker.consecutiveFailures + 1 }
  if ¬ breaker.halfOpenProbe ∧ breaker.consecutiveFailures < policy.failureThreshold then
    (.ok (), breaker)
  else
    match breaker.now clock with
    | none => (.error .invalidClock, breaker)
    | some (now, breaker) =>
      let openUntil := now + policy.openSeconds
      if openUntil ≤ now then (.error .invalidOpenDeadline, breaker)
      else
        (.ok (), { breaker with
          consecutiveFailures := policy.failureThreshold
          openUntil := some openUntil
          halfOpenProbe := false })

/-- `record_cancelled`. -/
def recordCancelled (breaker : PdfCircuitBreaker) : PdfCircuitBreaker :=
  { breaker with halfOpenProbe := false }

end PdfCircuitBreaker

/-! ## The executor's attempts -/

/-- How an attempt ends: a result, a `PdfWorkerOperationalError`, or any other exception, which
`execute` records as a cancellation. -/
inductive PdfAttemptOutcome where
  | success
  | operationalFailure
  | cancelled
  deriving DecidableEq, Repr

/-- The breaker and whether the one permit is held by an admitted attempt. -/
structure PdfCircuitSystem where
  breaker : PdfCircuitBreaker
  attempting : Bool
  deriving DecidableEq, Repr

/-- A call on the executor, with the clock sample it takes. -/
inductive PdfCircuitAction where
  | ensureReady (clock : FloatSample)
  | begin (clock : FloatSample)
  | finish (outcome : PdfAttemptOutcome) (clock : FloatSample)
  deriving DecidableEq, Repr

namespace PdfCircuitSystem

/-- A breaker nobody has called. -/
def initial : PdfCircuitSystem := ⟨.initial, false⟩

/-- The breaker after an attempt reported its outcome. -/
def record (policy : PdfCircuitPolicy) (breaker : PdfCircuitBreaker) :
    PdfAttemptOutcome → FloatSample → PdfCircuitBreaker
  | .success, _ => breaker.recordSuccess
  | .operationalFailure, clock => (breaker.recordOperationalFailure policy clock).2
  | .cancelled, _ => breaker.recordCancelled

/-- One call. A second attempt waits for the permit, and only an attempt reports. -/
def step (policy : PdfCircuitPolicy) (s : PdfCircuitSystem) : PdfCircuitAction → PdfCircuitSystem
  | .ensureReady clock => { s with breaker := (s.breaker.ensureReady clock).2 }
  | .begin clock =>
    if s.attempting then s
    else
      match s.breaker.beforeAttempt clock with
      | (.ok _, breaker) => ⟨breaker, true⟩
      | (.error _, breaker) => ⟨breaker, false⟩
  | .finish outcome clock =>
    if s.attempting then ⟨record policy s.breaker outcome clock, false⟩ else s

/-- The calls of `run`, in order, on a fresh breaker. -/
def after (policy : PdfCircuitPolicy) (run : List PdfCircuitAction) : PdfCircuitSystem :=
  run.foldl (step policy) initial

/-- The probe flag is set although no attempt is left that could clear it. -/
def Stuck (s : PdfCircuitSystem) : Prop := s.breaker.halfOpenProbe = true ∧ s.attempting = false

instance (s : PdfCircuitSystem) : Decidable s.Stuck := inferInstanceAs (Decidable (_ ∧ _))

/-- A report strands the probe: it is the probe's operational failure and its clock sample is
rejected. -/
def StrandsProbe (s : PdfCircuitSystem) : PdfCircuitAction → Prop
  | .finish .operationalFailure clock =>
    s.attempting = true ∧ s.breaker.halfOpenProbe = true ∧ ¬ s.breaker.AcceptsClock clock
  | _ => False

end PdfCircuitSystem

/-! ## When the probe is lost -/

namespace PdfCircuitBreaker

/-- `_now` moves nothing but the last accepted sample, and refuses exactly what is not accepted. -/
theorem now_cases (breaker : PdfCircuitBreaker) (clock : FloatSample) :
    (breaker.now clock = none ∧ ¬ breaker.AcceptsClock clock) ∨
      ∃ now, clock = .finite now ∧ breaker.now clock = some (now, { breaker with lastNow := some now })
        ∧ breaker.AcceptsClock clock := by
  cases clock with
  | other | nan | infinite => exact .inl ⟨rfl, id⟩
  | finite value =>
      by_cases h : breaker.AcceptsClock (.finite value)
      · exact .inr ⟨value, rfl, by simp [now, h], h⟩
      · exact .inl ⟨by simp [now, h], h⟩

/-- The shared test moves nothing but the last accepted sample. -/
theorem requireCooledDown_snd (breaker : PdfCircuitBreaker) (openUntil : ℚ) (clock : FloatSample) :
    ∃ last, (breaker.requireCooledDown openUntil clock).2 = { breaker with lastNow := last } := by
  unfold requireCooledDown
  split
  · exact ⟨breaker.lastNow, rfl⟩
  rcases breaker.now_cases clock with ⟨hnow, -⟩ | ⟨now, -, hnow, -⟩
  · exact ⟨breaker.lastNow, by rw [hnow]⟩
  · refine ⟨some now, ?_⟩
    simp only [hnow]
    split <;> rfl

/-- Readiness does not touch the probe flag. -/
theorem ensureReady_halfOpenProbe (breaker : PdfCircuitBreaker) (clock : FloatSample) :
    (breaker.ensureReady clock).2.halfOpenProbe = breaker.halfOpenProbe := by
  unfold ensureReady
  split
  · rfl
  · rename_i openUntil _
    obtain ⟨last, hlast⟩ := breaker.requireCooledDown_snd openUntil clock
    rw [hlast]

/-- An attempt that is refused leaves the probe flag as it was. -/
theorem beforeAttempt_error {breaker breaker' : PdfCircuitBreaker} {clock : FloatSample}
    {error : PdfCircuitError} (h : breaker.beforeAttempt clock = (.error error, breaker')) :
    breaker'.halfOpenProbe = breaker.halfOpenProbe := by
  unfold beforeAttempt at h
  split at h
  · simp at h
  · rename_i openUntil _
    obtain ⟨last, hlast⟩ := breaker.requireCooledDown_snd openUntil clock
    split at h
    · rename_i heq
      rw [heq] at hlast
      obtain ⟨-, rfl⟩ := Prod.mk.inj h
      have hflag := congrArg halfOpenProbe hlast
      exact hflag
    · simp at h

/-- The probe flag survives a recorded operational failure exactly where the failure is the
probe's and the clock sample is rejected. -/
theorem recordOperationalFailure_halfOpenProbe (policy : PdfCircuitPolicy)
    (breaker : PdfCircuitBreaker) (clock : FloatSample) :
    (breaker.recordOperationalFailure policy clock).2.halfOpenProbe = true ↔
      breaker.halfOpenProbe = true ∧ ¬ breaker.AcceptsClock clock := by
  have hopen := policy.openSeconds_bounds.1
  unfold recordOperationalFailure
  dsimp only
  split
  · rename_i h
    simp [h.1]
  rcases { breaker with consecutiveFailures := breaker.consecutiveFailures + 1 }.now_cases clock with
    ⟨hnow, hrejected⟩ | ⟨now, rfl, hnow, haccepted⟩
  · have : ¬ breaker.AcceptsClock clock := by cases clock <;> exact hrejected
    simp [hnow, this]
  · have : breaker.AcceptsClock (.finite now) := haccepted
    rw [hnow]
    dsimp only
    rw [if_neg (by linarith)]
    simp [this]

end PdfCircuitBreaker

namespace PdfCircuitSystem

/-- A breaker that is not stuck becomes so exactly by a report that strands the probe. -/
theorem stuck_step_iff {policy : PdfCircuitPolicy} {s : PdfCircuitSystem} (h : ¬ s.Stuck)
    (action : PdfCircuitAction) : (s.step policy action).Stuck ↔ s.StrandsProbe action := by
  cases action with
  | ensureReady clock =>
      simpa [step, Stuck, StrandsProbe, PdfCircuitBreaker.ensureReady_halfOpenProbe] using h
  | begin clock =>
      simp only [step, StrandsProbe, iff_false]
      split
      · exact h
      · rename_i hidle
        split
        · simp [Stuck]
        · rename_i heq
          simpa [Stuck, PdfCircuitBreaker.beforeAttempt_error heq, hidle] using h
  | finish outcome clock =>
      simp only [step]
      split
      · rename_i hattempting
        cases outcome with
        | success => simp [Stuck, StrandsProbe, record, PdfCircuitBreaker.recordSuccess]
        | cancelled => simp [Stuck, StrandsProbe, record, PdfCircuitBreaker.recordCancelled]
        | operationalFailure =>
            simp [Stuck, StrandsProbe, record, hattempting,
              PdfCircuitBreaker.recordOperationalFailure_halfOpenProbe]
      · rename_i hidle
        refine iff_of_false h ?_
        cases outcome <;> simp [StrandsProbe, hidle]

/-- A clock the breaker accepts, no earlier than a given time. -/
def laterClock (breaker : PdfCircuitBreaker) (time : ℚ) : FloatSample :=
  .finite (max time (max 0 (breaker.lastNow.getD 0)))

theorem acceptsClock_laterClock (breaker : PdfCircuitBreaker) (time : ℚ) :
    breaker.AcceptsClock (laterClock breaker time) := by
  refine ⟨by simp, fun last hlast => ?_⟩
  have : breaker.lastNow = some last := hlast
  simp [this]

/-- A breaker that is not stuck admits again: the attempt in progress may succeed, and with no
attempt in progress the open interval runs out. -/
theorem exists_later_attempt {policy : PdfCircuitPolicy} {s : PdfCircuitSystem} (h : ¬ s.Stuck) :
    ∃ (rest : List PdfCircuitAction) (clock : FloatSample), let s' := rest.foldl (step policy) s
      s'.attempting = false ∧ s'.breaker.AcceptsClock clock ∧
        (s'.breaker.beforeAttempt clock).1 = .ok () := by
  cases hattempting : s.attempting with
  | true =>
      refine ⟨[.finish .success .other], laterClock s.breaker.recordSuccess 0, ?_⟩
      simp only [List.foldl_cons, List.foldl_nil, step, hattempting, if_true, record, true_and]
      exact ⟨acceptsClock_laterClock _ _, rfl⟩
  | false =>
      have hflag : s.breaker.halfOpenProbe = false := by
        simpa [Stuck, hattempting] using h
      refine ⟨[], laterClock s.breaker (s.breaker.openUntil.getD 0), hattempting,
        acceptsClock_laterClock _ _, ?_⟩
      have haccepted := acceptsClock_laterClock s.breaker (s.breaker.openUntil.getD 0)
      simp only [List.foldl_nil, PdfCircuitBreaker.beforeAttempt]
      split
      · rfl
      · rename_i openUntil hopen
        rw [hopen] at haccepted ⊢
        have hlater : openUntil ≤ max openUntil (max 0 (s.breaker.lastNow.getD 0)) := le_max_left _ _
        simp only [laterClock, Option.getD_some] at haccepted ⊢
        simp [PdfCircuitBreaker.requireCooledDown, hflag, PdfCircuitBreaker.now, haccepted,
          not_lt.2 hlater]

end PdfCircuitSystem

end NplgMcp
