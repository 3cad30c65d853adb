import Mathlib.Algebra.Order.Field.Rat
import Mathlib.Tactic.Linarith
import Mathlib.Tactic.NormNum
import NplgMcp.Library.Run

/-!
# The upstream guard

`resilience.py`: a bulkhead of `capacity` permits and a circuit breaker with one generation
counter. `admitAttempt` and `completeAttempt` are the two transitions, each taken under the guard's lock
and so atomic; a call that raises returns its error together with the guard as the exception left
it. Times are exact rationals: the samples a clock or a random source may return are
`FloatSample`, of which the code accepts only finite ones, and the arithmetic on accepted samples
is not rounded.
-/

namespace NplgMcp

/-! ## Samples and deadlines -/

/-- What an injected clock or random source may return: a value that is not a `float`, one of the
two non-finite kinds, or a finite number. -/
inductive FloatSample where
  | other
  | nan
  | infinite
  | finite (value : ℚ)
  deriving DecidableEq, Repr

/-- `MonotonicDeadline`: finite nonnegative endpoints at most a minute apart. -/
structure MonotonicDeadline where
  createdAt : ℚ
  expiresAt : ℚ
  createdAt_nonneg : 0 ≤ createdAt
  expiresAt_nonneg : 0 ≤ expiresAt
  budget_nonneg : 0 ≤ expiresAt - createdAt
  budget_le : expiresAt - createdAt ≤ 60

theorem MonotonicDeadline.eq_iff {a b : MonotonicDeadline} :
    a.createdAt = b.createdAt ∧ a.expiresAt = b.expiresAt ↔ a = b := by
  cases a
  cases b
  simp only [mk.injEq]

instance : DecidableEq MonotonicDeadline := fun _ _ => decidable_of_iff _ MonotonicDeadline.eq_iff

/-- The constructor as the code calls it: `__post_init__` raises `ValueError` on anything else. -/
def MonotonicDeadline.validated (createdAt expiresAt : ℚ) : Option MonotonicDeadline :=
  if h : 0 ≤ createdAt ∧ 0 ≤ expiresAt ∧ 0 ≤ expiresAt - createdAt ∧ expiresAt - createdAt ≤ 60 then
    some ⟨createdAt, expiresAt, h.1, h.2.1, h.2.2.1, h.2.2.2⟩
  else none

/-- `MonotonicDeadline.remaining`: `none` is the `ValueError` for a clock before the deadline's
creation. -/
def MonotonicDeadline.remaining (deadline : MonotonicDeadline) (now : ℚ) : Option ℚ :=
  if now < 0 ∨ now < deadline.createdAt then none
  else some (max 0 (deadline.expiresAt - now))

/-! ## The guard -/

/-- `CircuitState`. -/
inductive CircuitState where
  | closed (consecutiveFailures : ℕ)
  | opened (retryAt : ℚ) (reopenCount : ℕ)
  | halfOpen (retryAt : ℚ) (reopenCount : ℕ)
  deriving DecidableEq, Repr

/-- `UpstreamGuardPolicy`, with the bounds of `__post_init__`. -/
structure UpstreamGuardPolicy where
  capacity : ℕ
  failureThreshold : ℕ
  baseOpenSeconds : ℚ
  maxOpenSeconds : ℚ
  maxAttemptSeconds : ℚ
  jitterRatio : ℚ
  capacity_bounds : 1 ≤ capacity ∧ capacity ≤ 64
  failureThreshold_bounds : 1 ≤ failureThreshold ∧ failureThreshold ≤ 100
  baseOpenSeconds_bounds : 0 < baseOpenSeconds ∧ baseOpenSeconds ≤ 3600
  maxOpenSeconds_bounds : baseOpenSeconds ≤ maxOpenSeconds ∧ maxOpenSeconds ≤ 3600
  maxAttemptSeconds_bounds : 0 < maxAttemptSeconds ∧ maxAttemptSeconds ≤ 59
  jitterRatio_bounds : 0 ≤ jitterRatio ∧ jitterRatio ≤ 1 / 2

/-- `AttemptOutcome`: the three literals `AttemptPermit._record` passes on. -/
inductive AttemptOutcome where
  | success
  | transient
  | excluded
  deriving DecidableEq, Repr

/-- The mutable fields of `UpstreamGuard`. -/
structure UpstreamGuard where
  active : ℤ
  generation : ℕ
  state : CircuitState
  lastNow : Option ℚ
  deriving DecidableEq, Repr

/-- `AttemptPermit`: one admitted attempt. -/
structure AttemptPermit where
  deadline : MonotonicDeadline
  probe : Bool
  generation : ℕ
  deriving DecidableEq

/-- What a transition raises. -/
inductive GuardError where
  | invalidClock
  | clockMovedBackwards
  | deadlineExpired
  | unavailable (retryAfterSeconds : ℚ)
  | invalidDeadline
  | cancelled
  | invalidAccounting
  | invalidRandomSample
  | invalidRetryDeadline
  deriving DecidableEq, Repr

/-- How the transition observer behaves when it is called: `_set_state` swallows every `Exception`
but not a cancellation. -/
inductive ObserverOutcome where
  | returned
  | raised
  | cancelled
  deriving DecidableEq, Repr

/-- A fresh guard. -/
def UpstreamGuard.initial : UpstreamGuard := ⟨0, 0, .closed 0, none⟩

/-- `_state_label`. -/
def CircuitState.label : CircuitState → String
  | .closed _ => "closed"
  | .opened _ _ => "open"
  | .halfOpen _ _ => "half_open"

/-- `_unavailable`: the retry decision is clamped before it is reported. -/
def unavailable (seconds : ℚ) : GuardError := .unavailable (min 60 (max (1 / 1000) seconds))

namespace UpstreamGuard

/-- The clock samples `_now` accepts after `lastNow`. -/
def AcceptsClock (guard : UpstreamGuard) : FloatSample → Prop
  | .finite value => 0 ≤ value ∧ ∀ last ∈ guard.lastNow, last ≤ value
  | _ => False

instance (guard : UpstreamGuard) : ∀ sample, Decidable (guard.AcceptsClock sample)
  | .finite value => inferInstanceAs (Decidable (0 ≤ value ∧ ∀ last ∈ guard.lastNow, last ≤ value))
  | .other | .nan | .infinite => isFalse id

/-- Which samples are accepted depends on the last accepted one only. -/
theorem acceptsClock_congr {guard guard' : UpstreamGuard} (h : guard.lastNow = guard'.lastNow)
    {sample : FloatSample} : guard.AcceptsClock sample ↔ guard'.AcceptsClock sample := by
  cases sample <;> simp [AcceptsClock, h]

/-- `_now`: an accepted sample becomes the new `_last_now`; `none` is the `RuntimeError`, which
changes nothing. -/
def now (guard : UpstreamGuard) (sample : FloatSample) : Option (ℚ × UpstreamGuard) :=
  match sample with
  | .finite value =>
    if guard.AcceptsClock sample then some (value, { guard with lastNow := some value }) else none
  | _ => none

/-- `_set_state`: the state is replaced before the observer is told of a changed label. -/
def setState (guard : UpstreamGuard) (state : CircuitState) (observer : ObserverOutcome) :
    Except GuardError Unit × UpstreamGuard :=
  let guard' := { guard with state := state }
  if guard.state.label ≠ state.label ∧ observer = .cancelled then (.error .cancelled, guard')
  else (.ok (), guard')

/-- `admitAttempt`, the `admit` of the source: the atomic state and bulkhead admission. The branch order is the code's, and so is
what each raise leaves behind: nothing but `_last_now` before the counters move, the incremented
counters where the attempt's own deadline is rejected, and a reopened circuit where the observer
cancels the half-open transition. -/
def admitAttempt (policy : UpstreamGuardPolicy) (guard : UpstreamGuard) (deadline : MonotonicDeadline)
    (clock : FloatSample) (observer : ObserverOutcome) :
    Except GuardError AttemptPermit × UpstreamGuard :=
  match guard.now clock with
  | none => (.error .invalidClock, guard)
  | some (now, guard) =>
    match deadline.remaining now with
    | none => (.error .clockMovedBackwards, guard)
    | some requestRemaining =>
      if requestRemaining ≤ 0 then (.error .deadlineExpired, guard)
      else
        let expiresAt := now + min requestRemaining policy.maxAttemptSeconds
        match guard.state with
        | .opened retryAt reopenCount =>
          if now < retryAt then (.error (unavailable (retryAt - now)), guard)
          else if (policy.capacity : ℤ) ≤ guard.active then (.error (unavailable (1 / 10)), guard)
          else
            let guard :=
              { guard with generation := guard.generation + 1, active := guard.active + 1 }
            match MonotonicDeadline.validated now expiresAt with
            | none => (.error .invalidDeadline, guard)
            | some attemptDeadline =>
              match guard.setState (.halfOpen retryAt reopenCount) observer with
              | (.ok _, guard) => (.ok ⟨attemptDeadline, true, guard.generation⟩, guard)
              | (.error error, guard) =>
                (.error error, { guard with
                  active := guard.active - 1
                  generation := guard.generation + 1
                  state := .opened now reopenCount })
        | .halfOpen retryAt _ => (.error (unavailable (max (1 / 10) (retryAt - now))), guard)
        | .closed _ =>
          if (policy.capacity : ℤ) ≤ guard.active then (.error (unavailable (1 / 10)), guard)
          else
            let guard := { guard with active := guard.active + 1 }
            match MonotonicDeadline.validated now expiresAt with
            | none => (.error .invalidDeadline, guard)
            | some attemptDeadline =>
              (.ok ⟨attemptDeadline, false, guard.generation⟩, guard)

/-- The random samples `_open_interval` accepts. -/
def AcceptsRandom : FloatSample → Prop
  | .finite value => 0 ≤ value ∧ value ≤ 1
  | _ => False

instance : ∀ sample, Decidable (AcceptsRandom sample)
  | .finite value => inferInstanceAs (Decidable (0 ≤ value ∧ value ≤ 1))
  | .other | .nan | .infinite => isFalse id

/-- `_open_interval`: bounded exponential backoff with capped jitter; `none` is the `RuntimeError`
for the random sample. -/
def openInterval (policy : UpstreamGuardPolicy) (reopenCount : ℕ) (random : FloatSample) :
    Option ℚ :=
  let exponent := min (reopenCount - 1) 30
  let baseline := min policy.maxOpenSeconds (policy.baseOpenSeconds * 2 ^ exponent)
  match random with
  | .finite sample =>
    if AcceptsRandom random then
      let factor := 1 + policy.jitterRatio * (2 * sample - 1)
      some (min policy.maxOpenSeconds (baseline * factor))
    else none
  | _ => none

/-- `_transient_reopen_count`: `none` is a failure below the threshold, already recorded in the
returned guard. -/
def transientReopenCount (policy : UpstreamGuardPolicy) (guard : UpstreamGuard) (probe : Bool) :
    Option ℕ × UpstreamGuard :=
  match probe, guard.state with
  | true, .halfOpen _ reopenCount => (some (reopenCount + 1), guard)
  | _, .closed consecutiveFailures =>
    let failures := consecutiveFailures + 1
    if failures < policy.failureThreshold then (none, { guard with state := .closed failures })
    else (some 1, guard)
  | _, .opened _ reopenCount => (some (reopenCount + 1), guard)
  | _, .halfOpen _ reopenCount => (some (reopenCount + 1), guard)

/-- `complete_attempt`: release capacity, then apply one classified outcome. The generation is
advanced before the clock and the random source are sampled, so a rejected sample raises with the
generation advanced and the state unchanged. -/
def completeAttempt (policy : UpstreamGuardPolicy) (guard : UpstreamGuard) (probe : Bool)
    (generation : ℕ) (outcome : AttemptOutcome) (clock random : FloatSample)
    (observer : ObserverOutcome) : Except GuardError Unit × UpstreamGuard :=
  if guard.active ≤ 0 then (.error .invalidAccounting, guard)
  else
    let guard := { guard with active := guard.active - 1 }
    if generation ≠ guard.generation then (.ok (), guard)
    else
      match outcome with
      | .success =>
        match guard.state with
        | .closed _ => guard.setState (.closed 0) observer
        | _ => { guard with generation := guard.generation + 1 }.setState (.closed 0) observer
      | .excluded =>
        match probe, guard.state with
        | true, .halfOpen _ reopenCount =>
          let guard := { guard with generation := guard.generation + 1 }
          match guard.now clock with
          | none => (.error .invalidClock, guard)
          | some (now, guard) => guard.setState (.opened now reopenCount) observer
        | _, _ => (.ok (), guard)
      | .transient =>
        match guard.transientReopenCount policy probe with
        | (none, guard) => (.ok (), guard)
        | (some reopenCount, guard) =>
          let guard := { guard with generation := guard.generation + 1 }
          match guard.now clock with
          | none => (.error .invalidClock, guard)
          | some (now, guard) =>
            match openInterval policy reopenCount random with
            | none => (.error .invalidRandomSample, guard)
            | some interval =>
              if now + interval ≤ now then (.error .invalidRetryDeadline, guard)
              else guard.setState (.opened (now + interval) reopenCount) observer

/-! ## What a transition can do

`AdmitResult` and `CompleteResult` list the ways out of the two transitions once; every invariant
below is a case analysis on them.
-/

/-- The ways out of `admitAttempt`. -/
inductive AdmitResult (policy : UpstreamGuardPolicy) (guard : UpstreamGuard) :
    Except GuardError AttemptPermit × UpstreamGuard → Prop
  | refused (error : GuardError) (last : Option ℚ) :
      AdmitResult policy guard (.error error, { guard with lastNow := last })
  | probeCancelled {retryAt now : ℚ} {reopenCount : ℕ} (error : GuardError)
      (hstate : guard.state = .opened retryAt reopenCount) :
      AdmitResult policy guard
        (.error error, ⟨guard.active, guard.generation + 2, .opened now reopenCount, some now⟩)
  | probe {retryAt now : ℚ} {reopenCount : ℕ} (deadline : MonotonicDeadline)
      (hstate : guard.state = .opened retryAt reopenCount) (hfree : guard.active < policy.capacity) :
      AdmitResult policy guard
        (.ok ⟨deadline, true, guard.generation + 1⟩,
          ⟨guard.active + 1, guard.generation + 1, .halfOpen retryAt reopenCount, some now⟩)
  | ordinary (now : ℚ) {failures : ℕ} (deadline : MonotonicDeadline)
      (hstate : guard.state = .closed failures) (hfree : guard.active < policy.capacity) :
      AdmitResult policy guard
        (.ok ⟨deadline, false, guard.generation⟩,
          ⟨guard.active + 1, guard.generation, .closed failures, some now⟩)

/-- An accepted sample is a finite nonnegative value. -/
theorem now_eq_some {guard guard' : UpstreamGuard} {clock : FloatSample} {value : ℚ}
    (h : guard.now clock = some (value, guard')) :
    clock = .finite value ∧ guard.AcceptsClock clock ∧ 0 ≤ value ∧
      guard' = { guard with lastNow := some value } := by
  cases clock with
  | other | nan | infinite => simp [now] at h
  | finite v =>
      simp only [now] at h
      split at h
      · rename_i hacc
        obtain ⟨rfl, rfl⟩ : v = value ∧ { guard with lastNow := some v } = guard' := by
          simpa using h
        exact ⟨rfl, hacc, hacc.1, rfl⟩
      · cases h

/-- A sample is turned away exactly when it is not accepted. -/
theorem now_eq_none {guard : UpstreamGuard} {clock : FloatSample} :
    guard.now clock = none ↔ ¬ guard.AcceptsClock clock := by
  cases clock with
  | other | nan | infinite => simp [now, AcceptsClock]
  | finite v => by_cases h : guard.AcceptsClock (.finite v) <;> simp [now, h]

/-- The deadline of an attempt is always one `MonotonicDeadline` admits: at least nothing and at
most 59 seconds after the current time. -/
theorem validated_attempt (policy : UpstreamGuardPolicy) {now remaining : ℚ} (hnow : 0 ≤ now)
    (hrem : ¬ remaining ≤ 0) :
    ∃ deadline, MonotonicDeadline.validated now (now + min remaining policy.maxAttemptSeconds)
      = some deadline := by
  have hmax := policy.maxAttemptSeconds_bounds
  have hlow : 0 < min remaining policy.maxAttemptSeconds := lt_min (not_le.1 hrem) hmax.1
  have hhigh : min remaining policy.maxAttemptSeconds ≤ 59 := (min_le_right _ _).trans hmax.2
  refine ⟨_, dif_pos ⟨hnow, ?_, ?_, ?_⟩⟩ <;> linarith

/-- `admitAttempt` does one of the four things `AdmitResult` lists. -/
theorem admit_result (policy : UpstreamGuardPolicy) (guard : UpstreamGuard)
    (deadline : MonotonicDeadline) (clock : FloatSample) (observer : ObserverOutcome) :
    AdmitResult policy guard (guard.admitAttempt policy deadline clock observer) := by
  unfold admitAttempt
  split
  · exact .refused _ guard.lastNow
  rename_i now guard' hnow
  obtain ⟨-, -, hnonneg, rfl⟩ := now_eq_some hnow
  split
  · exact .refused _ _
  split
  · exact .refused _ _
  rename_i remaining _ hpos
  obtain ⟨attempt, hattempt⟩ := validated_attempt policy hnonneg hpos
  simp only [hattempt]
  split
  · rename_i retryAt reopenCount hstate
    split
    · exact .refused _ _
    split
    · exact .refused _ _
    rename_i hfree
    by_cases hobs : observer = .cancelled
    · simp only [setState, hstate, CircuitState.label, hobs]
      simpa using AdmitResult.probeCancelled .cancelled hstate
    · simp only [setState, hobs, and_false, if_false]
      exact .probe attempt hstate (not_le.1 hfree)
  · exact .refused _ _
  · rename_i failures hstate
    split
    · exact .refused _ _
    rename_i hfree
    have := AdmitResult.ordinary now attempt hstate (not_le.1 hfree)
    rwa [← hstate] at this

/-- The ways out of `completeAttempt` for a permit the guard counts. A trip is the transition to
`opened` on a transient failure; a rejected trip or release is the exception in its middle. -/
inductive CompleteResult (policy : UpstreamGuardPolicy) (guard : UpstreamGuard) (probe : Bool)
    (generation : ℕ) (clock random : FloatSample) : AttemptOutcome → UpstreamGuard → Prop
  | stale {outcome : AttemptOutcome} (hgen : generation ≠ guard.generation) :
      CompleteResult policy guard probe generation clock random outcome
        { guard with active := guard.active - 1 }
  | reset {failures : ℕ} (hgen : generation = guard.generation)
      (hstate : guard.state = .closed failures) :
      CompleteResult policy guard probe generation clock random .success
        { guard with active := guard.active - 1, state := .closed 0 }
  | close (hgen : generation = guard.generation)
      (hstate : ∀ failures, guard.state ≠ .closed failures) :
      CompleteResult policy guard probe generation clock random .success
        { guard with
          active := guard.active - 1, generation := guard.generation + 1, state := .closed 0 }
  | ignored (hgen : generation = guard.generation)
      (hstate : probe = false ∨ ∀ retryAt count, guard.state ≠ .halfOpen retryAt count) :
      CompleteResult policy guard probe generation clock random .excluded
        { guard with active := guard.active - 1 }
  | released {retryAt now : ℚ} {count : ℕ} (hgen : generation = guard.generation)
      (hprobe : probe = true) (hstate : guard.state = .halfOpen retryAt count)
      (haccepted : guard.AcceptsClock clock) :
      CompleteResult policy guard probe generation clock random .excluded
        ⟨guard.active - 1, guard.generation + 1, .opened now count, some now⟩
  | releaseRejected {retryAt : ℚ} {count : ℕ} (hgen : generation = guard.generation)
      (hprobe : probe = true) (hstate : guard.state = .halfOpen retryAt count)
      (hrejected : ¬ guard.AcceptsClock clock) :
      CompleteResult policy guard probe generation clock random .excluded
        { guard with active := guard.active - 1, generation := guard.generation + 1 }
  | counted {failures : ℕ} (hgen : generation = guard.generation)
      (hstate : guard.state = .closed failures)
      (hbelow : failures + 1 < policy.failureThreshold) :
      CompleteResult policy guard probe generation clock random .transient
        { guard with active := guard.active - 1, state := .closed (failures + 1) }
  | tripped {now retryAt : ℚ} {count : ℕ} (hgen : generation = guard.generation)
      (hstate : ∀ failures, guard.state = .closed failures →
        policy.failureThreshold ≤ failures + 1)
      (haccepted : guard.AcceptsClock clock ∧ AcceptsRandom random) :
      CompleteResult policy guard probe generation clock random .transient
        ⟨guard.active - 1, guard.generation + 1, .opened retryAt count, some now⟩
  | tripRejected (last : Option ℚ) (hgen : generation = guard.generation)
      (hstate : ∀ failures, guard.state = .closed failures →
        policy.failureThreshold ≤ failures + 1)
      (hrejected : ¬ (guard.AcceptsClock clock ∧ AcceptsRandom random)) :
      CompleteResult policy guard probe generation clock random .transient
        { guard with
          active := guard.active - 1, generation := guard.generation + 1, lastNow := last }

/-- The observer changes what `_set_state` raises, never the state it sets. -/
@[simp] theorem setState_snd (guard : UpstreamGuard) (state : CircuitState)
    (observer : ObserverOutcome) : (guard.setState state observer).2 = { guard with state } := by
  unfold setState; split <;> rfl

/-- An interval is offered exactly for an accepted random sample. -/
theorem openInterval_eq_none {policy : UpstreamGuardPolicy} {count : ℕ} {random : FloatSample} :
    openInterval policy count random = none ↔ ¬ AcceptsRandom random := by
  cases random with
  | other | nan | infinite => simp [openInterval, AcceptsRandom]
  | finite v => by_cases h : AcceptsRandom (.finite v) <;> simp [openInterval, h]

/-- An open interval is positive: the jitter takes at most half of a positive baseline. -/
theorem openInterval_pos {policy : UpstreamGuardPolicy} {count : ℕ} {random : FloatSample}
    {interval : ℚ} (h : openInterval policy count random = some interval) : 0 < interval := by
  obtain ⟨hbase, -⟩ := policy.baseOpenSeconds_bounds
  obtain ⟨hmax, -⟩ := policy.maxOpenSeconds_bounds
  obtain ⟨hjit, hjit'⟩ := policy.jitterRatio_bounds
  cases random with
  | other | nan | infinite => simp [openInterval] at h
  | finite v =>
      simp only [openInterval] at h
      split at h
      · rename_i hacc
        obtain ⟨hv, hv'⟩ : 0 ≤ v ∧ v ≤ 1 := hacc
        obtain rfl := Option.some.inj h
        have hbaseline : 0 < min policy.maxOpenSeconds
            (policy.baseOpenSeconds * 2 ^ min (count - 1) 30) :=
          lt_min (hbase.trans_le hmax) (by positivity)
        have hfactor : 0 < 1 + policy.jitterRatio * (2 * v - 1) := by
          have : -policy.jitterRatio ≤ policy.jitterRatio * (2 * v - 1) := by nlinarith
          linarith
        exact lt_min (hbase.trans_le hmax) (mul_pos hbaseline hfactor)
      · cases h

/-- The reopen count of a transient failure: a failure below the threshold is counted, every
other one trips. -/
theorem transientReopenCount_cases (policy : UpstreamGuardPolicy) (guard : UpstreamGuard)
    (probe : Bool) :
    (∃ failures, guard.state = .closed failures ∧ failures + 1 < policy.failureThreshold ∧
      guard.transientReopenCount policy probe = (none, { guard with state := .closed (failures + 1) }))
    ∨ (∃ count, guard.transientReopenCount policy probe = (some count, guard) ∧
      ∀ failures, guard.state = .closed failures → policy.failureThreshold ≤ failures + 1) := by
  unfold transientReopenCount
  cases hstate : guard.state with
  | closed failures =>
      by_cases hbelow : failures + 1 < policy.failureThreshold
      · exact .inl ⟨failures, rfl, hbelow, by cases probe <;> simp [hbelow]⟩
      · refine .inr ⟨1, by cases probe <;> simp [hbelow], ?_⟩
        rintro n ⟨⟩
        exact not_lt.1 hbelow
  | opened retryAt count =>
      exact .inr ⟨count + 1, by cases probe <;> rfl, by rintro n ⟨⟩⟩
  | halfOpen retryAt count =>
      exact .inr ⟨count + 1, by cases probe <;> rfl, by rintro n ⟨⟩⟩

/-- `completeAttempt` of a counted permit does one of the things `CompleteResult` lists. -/
theorem completeAttempt_result (policy : UpstreamGuardPolicy) (guard : UpstreamGuard) (probe : Bool)
    (generation : ℕ) (outcome : AttemptOutcome) (clock random : FloatSample)
    (observer : ObserverOutcome) (hactive : 0 < guard.active) :
    CompleteResult policy guard probe generation clock random outcome
      (guard.completeAttempt policy probe generation outcome clock random observer).2 := by
  unfold completeAttempt
  rw [if_neg (not_le.2 hactive)]
  obtain rfl | hgen := eq_or_ne generation guard.generation
  swap
  · simp only [ne_eq, hgen, not_false_eq_true, if_true]
    exact .stale hgen
  simp only [ne_eq, not_true_eq_false, if_false]
  cases outcome with
  | success =>
      dsimp only
      split
      · rename_i failures hstate
        rw [setState_snd]
        exact .reset rfl hstate
      · rename_i hstate
        rw [setState_snd]
        exact .close rfl hstate
  | excluded =>
      dsimp only
      split
      · rename_i retryAt count hstate
        split
        · rename_i hnow
          exact .releaseRejected rfl rfl hstate fun h =>
            now_eq_none.1 hnow ((acceptsClock_congr rfl).1 h)
        · rename_i hnow
          obtain ⟨-, hacc, -, rfl⟩ := now_eq_some hnow
          rw [setState_snd]
          exact .released rfl rfl hstate ((acceptsClock_congr rfl).1 hacc)
      · rename_i hother
        exact .ignored rfl (or_iff_not_imp_left.2 fun hprobe retryAt count =>
          hother retryAt count (by simpa using hprobe))
  | transient =>
      dsimp only
      rcases transientReopenCount_cases policy { guard with active := guard.active - 1 } probe with
        ⟨failures, hstate, hbelow, heq⟩ | ⟨count, heq, hstate⟩
      · rw [heq]
        exact .counted rfl hstate hbelow
      · rw [heq]
        dsimp only
        split
        · rename_i hnow
          exact .tripRejected guard.lastNow rfl hstate fun h =>
            now_eq_none.1 hnow ((acceptsClock_congr rfl).1 h.1)
        · rename_i now guard' hnow
          obtain ⟨-, hacc, -, rfl⟩ := now_eq_some hnow
          split
          · rename_i hinterval
            exact .tripRejected (some now) rfl hstate fun h => openInterval_eq_none.1 hinterval h.2
          · rename_i interval hinterval
            -- exact arithmetic: the retry deadline always lies after the sample
            rw [if_neg (by have := openInterval_pos hinterval; linarith), setState_snd]
            refine .tripped rfl hstate ⟨(acceptsClock_congr rfl).1 hacc, ?_⟩
            by_contra hrandom
            rw [openInterval_eq_none.2 hrandom] at hinterval
            cases hinterval

end UpstreamGuard

end NplgMcp
