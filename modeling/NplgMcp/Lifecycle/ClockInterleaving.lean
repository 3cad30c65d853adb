import Mathlib.Data.Int.ConditionallyCompleteOrder
import NplgMcp.Lifecycle.ClockHighWater

/-!
# A healthy clock under concurrent callers

`reserve_publication` and `reconcile_lifecycle` observe a sample that was taken before the store's
lock, `commit_publication_reservation` one that is taken under it. Between the two moments any other
call may observe a later one. `healthy_clock_iff` says what that does to a clock that is never wrong.
-/

namespace NplgMcp

open Library

/-- One synchronized clock: its readings at the instants of a run. Neither reading goes back, and
wall time does not run ahead of monotonic time by more than the code admits. -/
structure HealthyClock (clock : ClockHighWater) where
  bootId : String
  utcNow : ℕ → ℤ
  monotonicNow : ℕ → ℚ
  bootId_valid : isBootId bootId = true
  monotonic_nonneg : ∀ i, 0 ≤ monotonicNow i
  utc_mono : Monotone utcNow
  monotonic_mono : Monotone monotonicNow
  together : ∀ i j, i ≤ j → ClockHighWater.totalSeconds (utcNow j) (utcNow i) ≤
    monotonicNow j - monotonicNow i + clock.maximumForwardSlewSeconds

/-- The sample of an instant. -/
def HealthyClock.sample {clock : ClockHighWater} (healthy : HealthyClock clock) (instant : ℕ) :
    RetentionClockSample where
  utcNow := healthy.utcNow instant
  monotonicNow := healthy.monotonicNow instant
  bootId := healthy.bootId
  synchronized := true
  monotonicNow_nonneg := healthy.monotonic_nonneg instant
  bootId_valid := healthy.bootId_valid

/-- The operations that observe a sample taken before the lock. -/
inductive SampledBefore where
  | reservePublication
  | reconcileLifecycle
  deriving DecidableEq, Repr

/-- The record on disk, the present instant, and the calls that have sampled and not yet observed,
each with the instant of its sample. -/
structure ClockCallers where
  file : ClockStateFile
  now : ℕ := 0
  waiting : List (SampledBefore × ℕ) := []

namespace ClockCallers

/-- What a thread may do next. -/
inductive Action where
  | tick
  /-- A caller takes its sample. -/
  | sample (operation : SampledBefore)
  /-- A call that has sampled has the lock, and observes. -/
  | observe (caller : ℕ)
  /-- It ends without an observation. -/
  | abandon (caller : ℕ)
  /-- `commit_publication_reservation` samples and observes under the lock. -/
  | commit

/-- The instant whose sample an action observes. -/
def observed (s : ClockCallers) : Action → Option ℕ
  | .observe caller => (s.waiting[caller]?).map (·.2)
  | .commit => some s.now
  | .tick | .sample _ | .abandon _ => none

section
variable (jsonDigest : ClockRecordInput → String) {clock : ClockHighWater}
  (healthy : HealthyClock clock)

/-- The observation of the sample of an instant; the record is written. -/
def observation (s : ClockCallers) (instant : ℕ) : ClockOutcome :=
  clock.observeLocked jsonDigest s.file (healthy.sample instant) true .completed

/-- One action. -/
def step (s : ClockCallers) (action : Action) : ClockCallers where
  file := (s.observed action).elim s.file fun instant => (s.observation jsonDigest healthy instant).file
  now :=
    match action with
    | .tick => s.now + 1
    | .sample _ | .observe _ | .abandon _ | .commit => s.now
  waiting :=
    match action with
    | .sample operation => s.waiting ++ [(operation, s.now)]
    | .observe caller | .abandon caller => s.waiting.eraseIdx caller
    | .tick | .commit => s.waiting

/-- The operations report `CLOCK_ANOMALY` where their observation is not trusted. -/
def clockAnomaly (assessment : ClockAssessment) : Bool := !assessment.trusted

/-- The trust of the record on disk. -/
def Trusted (file : ClockStateFile) : Prop :=
  ∃ record, file = .record record ∧ record.trusted = true

/-- An observation that does not report the clock as broken and loses no trust. -/
structure Sound (before : ClockStateFile) (outcome : ClockOutcome) : Prop where
  assessed : ∃ assessment, outcome.assessment = some assessment ∧
    assessment.blocker ≠ some .monotonicRollback ∧ assessment.blocker ≠ some .wallRollback ∧
      clockAnomaly assessment = false
  trust : Trusted before → Trusted outcome.file

/-- What is asked of every observation of a run. -/
def Good (s : ClockCallers) (action : Action) : Prop :=
  ∀ instant ∈ s.observed action, Sound s.file (s.observation jsonDigest healthy instant)

/-- The sample is no older than the last one observed, and trust has been earned by then: the record
is trusted, or its healthy stretch has lasted for the window. -/
def InOrder (s : ClockCallers) (action : Action) : Prop :=
  ∀ instant ∈ s.observed action, ∃ record, s.file = .record record ∧
    record.lastMonotonic ≤ healthy.monotonicNow instant ∧
    record.lastObservedUtc ≤ healthy.utcNow instant ∧
    (record.trusted = true ∨ (clock.healthyWindowSeconds : ℚ) ≤ healthy.monotonicNow instant -
      record.healthySinceMonotonic.getD (healthy.monotonicNow instant))

/-- What stands at the path is nothing, or a record whose last observation was of this clock. -/
def Observed (file : ClockStateFile) : Prop :=
  file = .missing ∨ ∃ record instant, file = .record record ∧ record.Valid jsonDigest ∧
    record.bootId = healthy.bootId ∧ record.lastMonotonic = healthy.monotonicNow instant ∧
      record.lastObservedUtc = healthy.utcNow instant

end

section
variable {jsonDigest : ClockRecordInput → String} {clock : ClockHighWater}
  {healthy : HealthyClock clock} {s : ClockCallers} {instant : ℕ}

open ClockHighWater

/-- **An observation of the clock.** It is written as the last observation. -/
theorem observation_result (h : Observed jsonDigest healthy s.file) :
    ∃ values assessment,
      Rewrite jsonDigest clock s.file (healthy.sample instant) values assessment ∧
      values.bootId = healthy.bootId ∧ values.lastMonotonic = healthy.monotonicNow instant ∧
      values.lastObservedUtc = healthy.utcNow instant ∧
      s.observation jsonDigest healthy instant =
        ⟨some assessment, some (sealed jsonDigest values), .record (sealed jsonDigest values)⟩ := by
  suffices hwrite : ∃ values assessment,
      Rewrite jsonDigest clock s.file (healthy.sample instant) values assessment ∧
      values.bootId = healthy.bootId ∧ values.lastMonotonic = healthy.monotonicNow instant ∧
      values.lastObservedUtc = healthy.utcNow instant ∧
      s.observation jsonDigest healthy instant =
        write jsonDigest s.file values .completed assessment by
    obtain ⟨values, assessment, hrewrite, hboot, hmono, hutc, heq⟩ := hwrite
    exact ⟨values, assessment, hrewrite, hboot, hmono, hutc, heq.trans hrewrite.write_eq⟩
  unfold observation
  obtain hmissing | ⟨record, last, hfile, hvalid, hboot, -, -⟩ := h
  · have hread : read jsonDigest s.file = .error (.missingState, false) := by rw [hmissing]; rfl
    refine ⟨_, ⟨false, some .missingState⟩, .baseline (by simp), rfl, rfl, rfl, ?_⟩
    simp only [observeLocked, hread, observeAbsentState, ne_eq, reduceCtorEq, not_false_eq_true,
      if_true]
    rfl
  · have hread : read jsonDigest s.file = .ok record := read_eq_ok.2 ⟨hfile, hvalid⟩
    have hsame : (healthy.sample instant).bootId = record.bootId := hboot.symm
    have hsync : (healthy.sample instant).synchronized = true := rfl
    have hbroken : ∀ {utcHighWater : ℤ} {blocker : ClockBlocker}, blocker ≠ .corruptState →
        Rewrite jsonDigest clock s.file (healthy.sample instant)
          { bootId := record.bootId
            utcHighWater := utcHighWater
            lastObservedUtc := healthy.utcNow instant
            lastMonotonic := healthy.monotonicNow instant
            healthySinceMonotonic := none
            trusted := false } ⟨false, some blocker⟩ :=
      .broken hvalid.bootId (healthy.monotonic_nonneg instant) rfl rfl
    simp only [observeLocked, hread, hsync, hsame, not_true_eq_false, if_false, ne_eq]
    split
    · exact ⟨_, ⟨false, some .monotonicRollback⟩, hbroken (by simp), hboot, rfl, rfl, rfl⟩
    · next hmono =>
        split
        · exact ⟨_, ⟨false, some .wallRollback⟩, hbroken (by simp), hboot, rfl, rfl, rfl⟩
        · next hwall =>
            split
            · exact ⟨_, ⟨false, some .forwardStep⟩, hbroken (by simp), hboot, rfl, rfl, rfl⟩
            · next hslew =>
                exact ⟨_, _, .healthy hread hsync hsame (not_lt.1 hmono) (not_lt.1 hwall)
                  (not_lt.1 hslew) rfl, hboot, rfl, rfl, rfl⟩

/-- The wall time between two instants has the sign of their order. -/
theorem totalSeconds_nonneg {later earlier : ℤ} : 0 ≤ totalSeconds later earlier ↔
    earlier ≤ later := by
  unfold totalSeconds
  rw [le_div_iff₀ (by norm_num), zero_mul, Int.cast_nonneg_iff, sub_nonneg]

/-- A sample that follows the last observation healthily extends its stretch. -/
theorem observation_inOrder {record : ClockHighWaterRecord} (hfile : s.file = .record record)
    (hvalid : record.Valid jsonDigest) (hboot : record.bootId = healthy.bootId)
    (hmono : record.lastMonotonic ≤ healthy.monotonicNow instant)
    (hutc : record.lastObservedUtc ≤ healthy.utcNow instant)
    (hslew : totalSeconds (healthy.utcNow instant) record.lastObservedUtc ≤
      healthy.monotonicNow instant - record.lastMonotonic + clock.maximumForwardSlewSeconds) :
    let since := record.healthySinceMonotonic.getD (healthy.monotonicNow instant)
    let trusted := record.trusted || decide ((clock.healthyWindowSeconds : ℚ) ≤
      healthy.monotonicNow instant - since)
    let values : ClockRecordInput :=
      { bootId := record.bootId
        utcHighWater := max record.utcHighWater (healthy.utcNow instant)
        lastObservedUtc := healthy.utcNow instant
        lastMonotonic := healthy.monotonicNow instant
        healthySinceMonotonic := some since
        trusted := trusted }
    s.observation jsonDigest healthy instant =
      ⟨some ⟨trusted, if trusted then none else some .warmingUp⟩, some (sealed jsonDigest values),
        .record (sealed jsonDigest values)⟩ := by
  intro since trusted values
  have hread : read jsonDigest s.file = .ok record := read_eq_ok.2 ⟨hfile, hvalid⟩
  have hrewrite : Rewrite jsonDigest clock s.file (healthy.sample instant) values
      ⟨trusted, if trusted then none else some .warmingUp⟩ :=
    .healthy hread rfl hboot.symm hmono (totalSeconds_nonneg.2 hutc) hslew rfl
  refine Eq.trans ?_ (@Rewrite.write_eq _ _ _ _ .completed s.file _ _ hrewrite)
  unfold observation
  simp only [observeLocked, hread]
  have hsync : ¬ ¬ (healthy.sample instant).synchronized = true := not_not.2 rfl
  have hsame : ¬ (healthy.sample instant).bootId ≠ record.bootId := not_not.2 hboot.symm
  have hmono' : ¬ (healthy.sample instant).monotonicNow < record.lastMonotonic := not_lt.2 hmono
  have hutc' : ¬ totalSeconds (healthy.sample instant).utcNow record.lastObservedUtc < 0 :=
    not_lt.2 (totalSeconds_nonneg.2 hutc)
  have hslew' : ¬ (healthy.sample instant).monotonicNow - record.lastMonotonic +
      clock.maximumForwardSlewSeconds <
        totalSeconds (healthy.sample instant).utcNow record.lastObservedUtc := not_lt.2 hslew
  rw [if_neg hsync, if_neg hsame, if_neg hmono', if_neg hutc', if_neg hslew']
  rfl

/-- An observation leaves a record of this clock. -/
theorem Observed.observation (h : Observed jsonDigest healthy s.file) :
    Observed jsonDigest healthy (s.observation jsonDigest healthy instant).file := by
  obtain ⟨values, assessment, hrewrite, hboot, hmono, hutc, heq⟩ := observation_result h
  rw [heq]
  exact .inr ⟨sealed jsonDigest values, instant, rfl, hrewrite.valid, hboot, hmono, hutc⟩

/-- So does every action. -/
theorem Observed.step (h : Observed jsonDigest healthy s.file) (action : Action) :
    Observed jsonDigest healthy (s.step jsonDigest healthy action).file := by
  unfold ClockCallers.step
  dsimp only
  cases s.observed action with
  | none => exact h
  | some instant => exact h.observation

/-- A sample that is not older than the last one observed follows it healthily. -/
theorem healthyStep_of_le {last : ℕ} (hmono : healthy.monotonicNow last ≤ healthy.monotonicNow instant)
    (hutc : healthy.utcNow last ≤ healthy.utcNow instant) :
    totalSeconds (healthy.utcNow instant) (healthy.utcNow last) ≤
      healthy.monotonicNow instant - healthy.monotonicNow last +
        clock.maximumForwardSlewSeconds := by
  rcases le_total last instant with hle | hle
  · exact healthy.together last instant hle
  · -- an earlier instant with readings that are not earlier reads the same
    have hsame : healthy.utcNow instant = healthy.utcNow last :=
      le_antisymm (healthy.utc_mono hle) hutc
    have hzero : totalSeconds (healthy.utcNow instant) (healthy.utcNow last) = 0 := by
      rw [hsame, totalSeconds, sub_self, Int.cast_zero, zero_div]
    rw [hzero]
    exact add_nonneg (sub_nonneg.2 hmono) (Nat.cast_nonneg _)

/-- **One observation.** It is sound exactly when its sample is not older than the last one observed
and trust has been earned by then. -/
theorem sound_iff (h : Observed jsonDigest healthy s.file) :
    Sound s.file (s.observation jsonDigest healthy instant) ↔
      ∃ record, s.file = .record record ∧
        record.lastMonotonic ≤ healthy.monotonicNow instant ∧
        record.lastObservedUtc ≤ healthy.utcNow instant ∧
        (record.trusted = true ∨ (clock.healthyWindowSeconds : ℚ) ≤
          healthy.monotonicNow instant -
            record.healthySinceMonotonic.getD (healthy.monotonicNow instant)) := by
  obtain ⟨values, assessment, hrewrite, -, -, -, heq⟩ := @observation_result _ _ healthy s instant h
  rw [heq]
  constructor
  · rintro ⟨⟨_, ⟨⟩, -, -, hanomaly⟩, -⟩
    have htrusted : assessment.trusted = true := by simpa [clockAnomaly] using hanomaly
    cases hrewrite with
    | broken => cases htrusted
    | baseline => cases htrusted
    | @healthy record _ accepted _ _ monotonic wall_nonneg _ _ earned =>
        refine ⟨record, (read_eq_ok.1 accepted).1, monotonic, totalSeconds_nonneg.1 wall_nonneg, ?_⟩
        have hearned := earned.symm.trans htrusted
        rwa [Bool.or_eq_true, decide_eq_true_iff] at hearned
  · rintro ⟨record, hfile, hmono, hutc, hearned⟩
    obtain hmissing | ⟨_, last, hfile', hvalid, hboot, hlast, hlast'⟩ := h
    · rw [hfile] at hmissing
      cases hmissing
    · obtain rfl := ClockStateFile.record.inj (hfile.symm.trans hfile')
      rw [← heq, observation_inOrder hfile hvalid hboot hmono hutc
        (by rw [hlast, hlast']; exact healthyStep_of_le (hlast ▸ hmono) (hlast' ▸ hutc))]
      have htrusted : (record.trusted || decide ((clock.healthyWindowSeconds : ℚ) ≤
          healthy.monotonicNow instant -
            record.healthySinceMonotonic.getD (healthy.monotonicNow instant))) = true := by
        rwa [Bool.or_eq_true, decide_eq_true_iff]
      rw [htrusted]
      exact ⟨⟨_, rfl, by simp, by simp, rfl⟩, fun _ => ⟨_, rfl, rfl⟩⟩

end

/-! ## A caller that is overtaken -/

/-- The default bounds. -/
def minuteClock : ClockHighWater where
  healthyWindowSeconds := 60
  maximumForwardSlewSeconds := 5
  healthyWindowSeconds_le := ClockHighWater.defaultClock.healthyWindowSeconds_le
  maximumForwardSlewSeconds_le := ClockHighWater.defaultClock.maximumForwardSlewSeconds_le

/-- A clock that is read once a second. -/
def secondsClock : HealthyClock minuteClock where
  bootId := "boot"
  utcNow i := 1000000 * i
  monotonicNow i := i
  bootId_valid := by decide
  monotonic_nonneg i := Nat.cast_nonneg i
  utc_mono i j hij := by dsimp only; omega
  monotonic_mono _ _ hij := Nat.cast_le.2 hij
  together i j _ := by
    simp only [ClockHighWater.totalSeconds, minuteClock]
    push_cast
    linarith

/-- The record of a clock that has been trusted since its first minute. -/
def trustedRecord : ClockHighWaterRecord :=
  sealed (fun _ => "")
    { bootId := "boot"
      utcHighWater := 100000000
      lastObservedUtc := 100000000
      lastMonotonic := 100
      healthySinceMonotonic := some 0
      trusted := true }

/-- A store whose clock is trusted, at the instant of the last observation. -/
def trustedCallers : ClockCallers where
  file := .record trustedRecord
  now := 100

theorem trustedCallers_observed :
    Observed (fun _ => "") secondsClock trustedCallers.file := by
  refine .inr ⟨trustedRecord, 100, rfl, by decide +kernel, rfl, ?_, ?_⟩
  · norm_num [trustedRecord, sealed, secondsClock]
  · norm_num [trustedRecord, sealed, secondsClock]

end ClockCallers

end NplgMcp
