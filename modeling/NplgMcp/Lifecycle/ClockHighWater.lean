import Mathlib.Algebra.Order.Field.Rat
import Mathlib.Data.List.Chain
import Mathlib.Tactic.Linarith
import Mathlib.Tactic.NormNum
import NplgMcp.Library.Run

/-!
# The clock high-water record

`ClockHighWater` of `storage_lifecycle.py`: one persisted record, rewritten by every observation,
from which the next one decides whether wall time may be trusted. The only state is the file, so a
restart between two observations changes nothing. Wall time is counted in microseconds and
monotonic time in exact seconds; the digest of a record's canonical JSON is the parameter
`jsonDigest`.

`clock_trust_earned` is the statement about histories: an observation is trusted only at the end of
a healthy stretch (`HealthyStretch`) in which monotonic time has advanced by the healthy window,
and what is persisted is what the reader accepts.
-/

namespace NplgMcp

/-! ## Samples and records -/

/-- The character class `[A-Za-z0-9]` that starts a boot identity. -/
def isBootIdStart (c : Char) : Bool := c.isAlphanum

/-- The `BootId` pattern `^[A-Za-z0-9][A-Za-z0-9._-]{0,127}$`. -/
def isBootId (value : String) : Bool :=
  match value.toList with
  | [] => false
  | c :: rest =>
    isBootIdStart c && rest.length ≤ 127 &&
      rest.all fun c => isBootIdStart c || c == '.' || c == '_' || c == '-'

/-- `RetentionClockSample`: UTC in microseconds, monotonic time in seconds. -/
structure RetentionClockSample where
  utcNow : ℤ
  monotonicNow : ℚ
  bootId : String
  synchronized : Bool
  monotonicNow_nonneg : 0 ≤ monotonicNow
  bootId_valid : isBootId bootId = true
  deriving DecidableEq

/-- `_ClockRecordInput`. -/
structure ClockRecordInput where
  bootId : String
  utcHighWater : ℤ
  lastObservedUtc : ℤ
  lastMonotonic : ℚ
  healthySinceMonotonic : Option ℚ
  trusted : Bool
  deriving DecidableEq

/-- `_ClockHighWaterRecord` as it stands in the file, before any validation. -/
structure ClockHighWaterRecord extends ClockRecordInput where
  schemaVersion : String
  recordDigest : String
  deriving DecidableEq

section
variable (jsonDigest : ClockRecordInput → String)

/-- The validators of `_ClockHighWaterRecord`. -/
structure ClockHighWaterRecord.Valid (record : ClockHighWaterRecord) : Prop where
  schema : record.schemaVersion = "1.0"
  bootId : isBootId record.bootId = true
  monotonic : 0 ≤ record.lastMonotonic
  healthy_nonneg : ∀ since ∈ record.healthySinceMonotonic, 0 ≤ since
  healthy_le : ∀ since ∈ record.healthySinceMonotonic, since ≤ record.lastMonotonic
  trusted_healthy : record.trusted = true → record.healthySinceMonotonic ≠ none
  digest : record.recordDigest = jsonDigest record.toClockRecordInput

instance (record : ClockHighWaterRecord) : Decidable (record.Valid jsonDigest) :=
  decidable_of_iff
    (record.schemaVersion = "1.0" ∧ isBootId record.bootId = true ∧ 0 ≤ record.lastMonotonic ∧
      (∀ since ∈ record.healthySinceMonotonic, 0 ≤ since) ∧
      (∀ since ∈ record.healthySinceMonotonic, since ≤ record.lastMonotonic) ∧
      (record.trusted = true → record.healthySinceMonotonic ≠ none) ∧
      record.recordDigest = jsonDigest record.toClockRecordInput)
    ⟨fun ⟨h1, h2, h3, h4, h5, h6, h7⟩ => ⟨h1, h2, h3, h4, h5, h6, h7⟩,
      fun ⟨h1, h2, h3, h4, h5, h6, h7⟩ => ⟨h1, h2, h3, h4, h5, h6, h7⟩⟩

/-- The fields with the schema version and the digest that bind them. -/
def sealed (values : ClockRecordInput) : ClockHighWaterRecord :=
  { values with schemaVersion := "1.0", recordDigest := jsonDigest values }

@[simp] theorem sealed_toClockRecordInput (values : ClockRecordInput) :
    (sealed jsonDigest values).toClockRecordInput = values := rfl

/-- `_clock_record`: the constructor validates, `none` is its `ValidationError`. -/
def clockRecord (values : ClockRecordInput) : Option ClockHighWaterRecord :=
  if (sealed jsonDigest values).Valid jsonDigest then some (sealed jsonDigest values) else none

end

/-- `ClockBlocker`. -/
inductive ClockBlocker where
  | missingState
  | corruptState
  | unsynchronized
  | bootChanged
  | monotonicRollback
  | wallRollback
  | forwardStep
  | warmingUp
  deriving DecidableEq, Repr

/-- `ClockAssessment`; `age_deletion_allowed` always equals `trusted`. -/
structure ClockAssessment where
  trusted : Bool
  blocker : Option ClockBlocker
  deriving DecidableEq, Repr

/-- What stands at the state path: nothing; something `_read` does not even parse (not a private
regular file of admissible size, or unstable while it is read); bytes that are no record; or the
fields of a record, still to be validated. -/
inductive ClockStateFile where
  | missing
  | unreadable
  | malformed
  | record (record : ClockHighWaterRecord)
  deriving DecidableEq

/-- Where writing the state file stops: the call raises before or after the rename that publishes
the new record, or completes. -/
inductive StateWrite where
  | completed
  | failedBeforeRename
  | failedAfterRename
  deriving DecidableEq, Repr

/-- What an observation leaves: its assessment (`none` where the call raises), the record it
published, and the file. -/
structure ClockOutcome where
  assessment : Option ClockAssessment
  persisted : Option ClockHighWaterRecord
  file : ClockStateFile
  deriving DecidableEq

/-- The bounds of `ClockHighWater.__init__`. -/
structure ClockHighWater where
  healthyWindowSeconds : ℕ
  maximumForwardSlewSeconds : ℕ
  healthyWindowSeconds_le : healthyWindowSeconds ≤ 3600
  maximumForwardSlewSeconds_le : maximumForwardSlewSeconds ≤ 60

namespace ClockHighWater

variable (jsonDigest : ClockRecordInput → String)

/-- `_read`: the record, or the blocker with whether the state may be quarantined. -/
def read : ClockStateFile → Except (ClockBlocker × Bool) ClockHighWaterRecord
  | .missing => .error (.missingState, false)
  | .unreadable => .error (.corruptState, false)
  | .malformed => .error (.corruptState, true)
  | .record record =>
    if record.Valid jsonDigest then .ok record else .error (.corruptState, true)

/-- `_write`, followed by the assessment the caller returns. -/
def write (file : ClockStateFile) (values : ClockRecordInput) (outcome : StateWrite)
    (assessment : ClockAssessment) : ClockOutcome :=
  match clockRecord jsonDigest values with
  | none => ⟨none, none, file⟩
  | some record =>
    match outcome with
    | .completed => ⟨some assessment, some record, .record record⟩
    | .failedBeforeRename => ⟨none, none, file⟩
    | .failedAfterRename => ⟨none, some record, .record record⟩

/-- `_baseline`. -/
def baseline (file : ClockStateFile) (sample : RetentionClockSample) (outcome : StateWrite)
    (blocker : ClockBlocker) : ClockOutcome :=
  write jsonDigest file
    { bootId := sample.bootId
      utcHighWater := sample.utcNow
      lastObservedUtc := sample.utcNow
      lastMonotonic := sample.monotonicNow
      healthySinceMonotonic := if sample.synchronized then some sample.monotonicNow else none
      trusted := false }
    outcome ⟨false, some blocker⟩

/-- `_observe_absent_state`. A recoverable corrupt state is quarantined first, which removes it
from the state path; `quarantined` is whether that succeeds. -/
def observeAbsentState (file : ClockStateFile) (sample : RetentionClockSample)
    (blocker : ClockBlocker) (recoverable quarantined : Bool) (outcome : StateWrite) :
    ClockOutcome :=
  if blocker ≠ .corruptState then baseline jsonDigest file sample outcome blocker
  else if recoverable && quarantined then
    baseline jsonDigest .missing sample outcome .corruptState
  else ⟨some ⟨false, some .corruptState⟩, none, file⟩

/-- The wall time between two instants, in seconds. -/
def totalSeconds (later earlier : ℤ) : ℚ := ((later - earlier : ℤ) : ℚ) / 1000000

/-- `_observe_locked`: one serialized high-water transition. -/
def observeLocked (clock : ClockHighWater) (file : ClockStateFile) (sample : RetentionClockSample)
    (quarantined : Bool) (outcome : StateWrite) : ClockOutcome :=
  match read jsonDigest file with
  | .error (blocker, recoverable) =>
    observeAbsentState jsonDigest file sample blocker recoverable quarantined outcome
  | .ok record =>
    if ¬ sample.synchronized then
      write jsonDigest file
        { bootId := record.bootId
          utcHighWater := max record.utcHighWater sample.utcNow
          lastObservedUtc := sample.utcNow
          lastMonotonic := max record.lastMonotonic sample.monotonicNow
          healthySinceMonotonic := none
          trusted := false }
        outcome ⟨false, some .unsynchronized⟩
    else if sample.bootId ≠ record.bootId then
      baseline jsonDigest file sample outcome .bootChanged
    else
      let rewritten (healthySince : Option ℚ) (trusted : Bool) : ClockRecordInput :=
        { bootId := record.bootId
          utcHighWater := max record.utcHighWater sample.utcNow
          lastObservedUtc := sample.utcNow
          lastMonotonic := sample.monotonicNow
          healthySinceMonotonic := healthySince
          trusted := trusted }
      if sample.monotonicNow < record.lastMonotonic then
        write jsonDigest file (rewritten none false) outcome ⟨false, some .monotonicRollback⟩
      else
        let monotonicDelta := sample.monotonicNow - record.lastMonotonic
        let wallDelta := totalSeconds sample.utcNow record.lastObservedUtc
        if wallDelta < 0 then
          write jsonDigest file (rewritten none false) outcome ⟨false, some .wallRollback⟩
        else if monotonicDelta + clock.maximumForwardSlewSeconds < wallDelta then
          write jsonDigest file (rewritten none false) outcome ⟨false, some .forwardStep⟩
        else
          let healthySince := record.healthySinceMonotonic.getD sample.monotonicNow
          let trusted := record.trusted ||
            decide ((clock.healthyWindowSeconds : ℚ) ≤ sample.monotonicNow - healthySince)
          write jsonDigest file (rewritten (some healthySince) trusted) outcome
            ⟨trusted, if trusted then none else some .warmingUp⟩

/-! ## What an observation can do -/

/-- The rewrite of one observation: the fields it writes and the assessment it returns. -/
inductive Rewrite (clock : ClockHighWater) (file : ClockStateFile) (sample : RetentionClockSample) :
    ClockRecordInput → ClockAssessment → Prop
  /-- The stretch is broken: no healthy origin, no trust. -/
  | broken {values : ClockRecordInput} {blocker : ClockBlocker}
      (bootId : isBootId values.bootId = true) (monotonic : 0 ≤ values.lastMonotonic)
      (healthy : values.healthySinceMonotonic = none) (trusted : values.trusted = false)
      (accepted : blocker ≠ .corruptState) :
      Rewrite clock file sample values ⟨false, some blocker⟩
  /-- A new baseline: a stretch of this observation alone, if it is synchronized. -/
  | baseline {blocker : ClockBlocker}
      (corrupt : blocker = .corruptState → ∀ record, read jsonDigest file ≠ .ok record) :
      Rewrite clock file sample
        { bootId := sample.bootId
          utcHighWater := sample.utcNow
          lastObservedUtc := sample.utcNow
          lastMonotonic := sample.monotonicNow
          healthySinceMonotonic := if sample.synchronized then some sample.monotonicNow else none
          trusted := false }
        ⟨false, some blocker⟩
  /-- A healthy observation: it extends the recorded stretch, or starts one. -/
  | healthy {record : ClockHighWaterRecord} {utcHighWater : ℤ}
      (accepted : read jsonDigest file = .ok record) (synchronized : sample.synchronized = true)
      (bootId : sample.bootId = record.bootId)
      (monotonic : record.lastMonotonic ≤ sample.monotonicNow)
      (wall_nonneg : 0 ≤ totalSeconds sample.utcNow record.lastObservedUtc)
      (wall_le : totalSeconds sample.utcNow record.lastObservedUtc ≤
        sample.monotonicNow - record.lastMonotonic + clock.maximumForwardSlewSeconds)
      {trusted : Bool}
      (earned : trusted = (record.trusted || decide ((clock.healthyWindowSeconds : ℚ) ≤
        sample.monotonicNow - record.healthySinceMonotonic.getD sample.monotonicNow))) :
      Rewrite clock file sample
        { bootId := record.bootId
          utcHighWater := utcHighWater
          lastObservedUtc := sample.utcNow
          lastMonotonic := sample.monotonicNow
          healthySinceMonotonic := some (record.healthySinceMonotonic.getD sample.monotonicNow)
          trusted := trusted }
        ⟨trusted, if trusted then none else some .warmingUp⟩

variable {jsonDigest} {clock : ClockHighWater} {file : ClockStateFile}
  {sample : RetentionClockSample} {quarantined : Bool} {outcome : StateWrite}

/-- What the reader accepts is a valid record standing at the path. -/
theorem read_eq_ok {record : ClockHighWaterRecord} :
    read jsonDigest file = .ok record ↔ file = .record record ∧ record.Valid jsonDigest := by
  cases file with
  | missing => simp [read]
  | unreadable => simp [read]
  | malformed => simp [read]
  | record held =>
      by_cases hvalid : held.Valid jsonDigest
      · simp only [read, if_pos hvalid, Except.ok.injEq, ClockStateFile.record.injEq]
        exact ⟨fun h => ⟨h, h ▸ hvalid⟩, And.left⟩
      · simp only [read, if_neg hvalid, reduceCtorEq, ClockStateFile.record.injEq, false_iff,
          not_and]
        rintro rfl
        exact hvalid

/-- **What an observation can do.** It leaves a corrupt state alone, or it writes one of the three
kinds of record over the file (or over nothing, once a corrupt state has been moved away). -/
theorem observeLocked_result :
    (observeLocked jsonDigest clock file sample quarantined outcome =
        ⟨some ⟨false, some .corruptState⟩, none, file⟩ ∧
      ∀ record, read jsonDigest file ≠ .ok record) ∨
    ∃ written values assessment,
      (written = file ∨ written = .missing ∧ ∀ record, read jsonDigest file ≠ .ok record) ∧
      Rewrite jsonDigest clock file sample values assessment ∧
      observeLocked jsonDigest clock file sample quarantined outcome =
        write jsonDigest written values outcome assessment := by
  cases hread : read jsonDigest file with
  | error failure =>
      obtain ⟨blocker, recoverable⟩ := failure
      have hnone : ∀ record, read jsonDigest file ≠ .ok record := by simp [hread]
      by_cases hcorrupt : blocker = .corruptState
      · subst hcorrupt
        by_cases hmoved : (recoverable && quarantined) = true
        · refine .inr ⟨.missing, _, ⟨false, some .corruptState⟩, .inr ⟨rfl, by simp⟩,
            .baseline fun _ => hnone, ?_⟩
          simp only [observeLocked, hread, observeAbsentState, ne_eq, not_true_eq_false, if_false,
            if_pos hmoved]
          rfl
        · refine .inl ⟨?_, by simp⟩
          simp only [observeLocked, hread, observeAbsentState, ne_eq, not_true_eq_false, if_false,
            if_neg hmoved]
      · refine .inr ⟨file, _, ⟨false, some blocker⟩, .inl rfl,
          .baseline fun h => absurd h hcorrupt, ?_⟩
        simp only [observeLocked, hread, observeAbsentState, ne_eq, hcorrupt, not_false_eq_true,
          if_true]
        rfl
  | ok record =>
      obtain ⟨-, hvalid⟩ := read_eq_ok.1 hread
      suffices h : ∃ values assessment, Rewrite jsonDigest clock file sample values assessment ∧
          observeLocked jsonDigest clock file sample quarantined outcome =
            write jsonDigest file values outcome assessment by
        obtain ⟨values, assessment, hrewrite, heq⟩ := h
        exact .inr ⟨file, values, assessment, .inl rfl, hrewrite, heq⟩
      simp only [observeLocked, hread]
      by_cases hsync : sample.synchronized = true
      · simp only [hsync, not_true_eq_false, if_false]
        by_cases hboot : sample.bootId = record.bootId
        · simp only [hboot, ne_eq, not_true_eq_false, if_false]
          have hbroken : ∀ {utcHighWater : ℤ} {blocker : ClockBlocker}, blocker ≠ .corruptState →
              Rewrite jsonDigest clock file sample
                { bootId := record.bootId
                  utcHighWater := utcHighWater
                  lastObservedUtc := sample.utcNow
                  lastMonotonic := sample.monotonicNow
                  healthySinceMonotonic := none
                  trusted := false } ⟨false, some blocker⟩ :=
            .broken hvalid.bootId sample.monotonicNow_nonneg rfl rfl
          by_cases hmono : sample.monotonicNow < record.lastMonotonic
          · rw [if_pos hmono]
            exact ⟨_, ⟨false, some .monotonicRollback⟩, hbroken (by simp), rfl⟩
          · rw [if_neg hmono]
            by_cases hwall : totalSeconds sample.utcNow record.lastObservedUtc < 0
            · rw [if_pos hwall]
              exact ⟨_, ⟨false, some .wallRollback⟩, hbroken (by simp), rfl⟩
            · rw [if_neg hwall]
              split
              · exact ⟨_, ⟨false, some .forwardStep⟩, hbroken (by simp), rfl⟩
              · rename_i hslew
                exact ⟨_, _, .healthy hread hsync hboot (not_lt.1 hmono) (not_lt.1 hwall)
                  (not_lt.1 hslew) rfl, rfl⟩
        · simp only [ne_eq, hboot, not_false_eq_true, if_true]
          exact ⟨_, ⟨false, some .bootChanged⟩, .baseline (by simp), rfl⟩
      · simp only [hsync]
        exact ⟨{ bootId := record.bootId
                 utcHighWater := max record.utcHighWater sample.utcNow
                 lastObservedUtc := sample.utcNow
                 lastMonotonic := max record.lastMonotonic sample.monotonicNow
                 healthySinceMonotonic := none
                 trusted := false }, ⟨false, some .unsynchronized⟩,
          .broken hvalid.bootId (le_max_of_le_left hvalid.monotonic) rfl rfl (by simp), rfl⟩

/-- The fields an observation writes pass the validators of the record. -/
theorem Rewrite.valid {values : ClockRecordInput} {assessment : ClockAssessment}
    (h : Rewrite jsonDigest clock file sample values assessment) :
    (sealed jsonDigest values).Valid jsonDigest := by
  cases h with
  | broken bootId monotonic healthy trusted accepted =>
      exact ⟨rfl, bootId, monotonic, by simp [healthy], by simp [healthy], by simp [trusted], rfl⟩
  | baseline corrupt =>
      refine ⟨rfl, sample.bootId_valid, sample.monotonicNow_nonneg, ?_, ?_, by simp, rfl⟩
      · intro since hsince
        obtain ⟨-, rfl⟩ : sample.synchronized = true ∧ sample.monotonicNow = since := by
          simpa using hsince
        exact sample.monotonicNow_nonneg
      · intro since hsince
        obtain ⟨-, rfl⟩ : sample.synchronized = true ∧ sample.monotonicNow = since := by
          simpa using hsince
        exact le_rfl
  | @healthy record _ accepted synchronized bootId monotonic wall_nonneg wall_le _ earned =>
      obtain ⟨-, hvalid⟩ := read_eq_ok.1 accepted
      refine ⟨rfl, hvalid.bootId, sample.monotonicNow_nonneg, ?_, ?_, by simp, rfl⟩
      · intro origin horigin
        obtain rfl := Option.some.inj horigin
        cases hsince : record.healthySinceMonotonic with
        | none => exact sample.monotonicNow_nonneg
        | some since => exact hvalid.healthy_nonneg since hsince
      · intro origin horigin
        obtain rfl := Option.some.inj horigin
        cases hsince : record.healthySinceMonotonic with
        | none => exact le_rfl
        | some since => exact (hvalid.healthy_le since hsince).trans monotonic

/-- An observation that writes never meets a `ValidationError`, so only the outcome of the write
decides what it leaves. -/
theorem Rewrite.write_eq {written : ClockStateFile} {values : ClockRecordInput}
    {assessment : ClockAssessment} (h : Rewrite jsonDigest clock file sample values assessment) :
    write jsonDigest written values outcome assessment =
      match outcome with
      | .completed => ⟨some assessment, some (sealed jsonDigest values),
          .record (sealed jsonDigest values)⟩
      | .failedBeforeRename => ⟨none, none, written⟩
      | .failedAfterRename => ⟨none, some (sealed jsonDigest values),
          .record (sealed jsonDigest values)⟩ := by
  simp only [write, clockRecord, if_pos h.valid]

/-- The assessment carries the trust of the record. -/
theorem Rewrite.trusted_eq {values : ClockRecordInput} {assessment : ClockAssessment}
    (h : Rewrite jsonDigest clock file sample values assessment) :
    assessment.trusted = values.trusted := by
  cases h with
  | broken _ _ _ trusted _ => exact trusted.symm
  | baseline _ => rfl
  | healthy => rfl

/-- A corrupt state is reported only where the reader accepts nothing. -/
theorem Rewrite.not_accepted {values : ClockRecordInput} {assessment : ClockAssessment}
    (h : Rewrite jsonDigest clock file sample values assessment)
    (hblocker : assessment.blocker = some .corruptState) (record : ClockHighWaterRecord) :
    read jsonDigest file ≠ .ok record := by
  cases h with
  | broken _ _ _ _ accepted => exact absurd (Option.some.inj hblocker) accepted
  | baseline corrupt => exact corrupt (Option.some.inj hblocker) record
  | @healthy _ _ _ _ _ _ _ _ trusted _ => cases trusted <;> simp at hblocker

/-! ## Histories of observations -/

/-- One observation follows another healthily: monotonic time does not go back, and wall time
advances by no more than monotonic time and the admitted slew. -/
def HealthyStep (clock : ClockHighWater) (earlier later : RetentionClockSample) : Prop :=
  earlier.monotonicNow ≤ later.monotonicNow ∧
  0 ≤ totalSeconds later.utcNow earlier.utcNow ∧
  totalSeconds later.utcNow earlier.utcNow ≤
    later.monotonicNow - earlier.monotonicNow + clock.maximumForwardSlewSeconds

/-- A contiguous stretch of synchronized observations of one boot, each following the one before
it healthily. -/
structure HealthyStretch (clock : ClockHighWater) (stretch : List RetentionClockSample) : Prop where
  nonempty : stretch ≠ []
  synchronized : ∀ sample ∈ stretch, sample.synchronized = true
  oneBoot : ∀ earlier ∈ stretch, ∀ later ∈ stretch, earlier.bootId = later.bootId
  chain : stretch.IsChain clock.HealthyStep

/-- Monotonic time has advanced by the healthy window within the stretch. -/
def Advanced (clock : ClockHighWater) (stretch : List RetentionClockSample) : Prop :=
  ∃ first ∈ stretch.head?, ∃ sample ∈ stretch,
    (clock.healthyWindowSeconds : ℚ) ≤ sample.monotonicNow - first.monotonicNow

/-- What happens to the state file: an observation, with whether a quarantine succeeds and where
the write stops, or a restart of the process. -/
inductive ClockEvent where
  | observe (sample : RetentionClockSample) (quarantined : Bool) (outcome : StateWrite)
  | restart

end ClockHighWater

open ClockHighWater

/-- The state file with its history: the observations made so far (the calls that returned or
published a record) and the records they published. -/
structure ClockHistory where
  file : ClockStateFile
  observations : List RetentionClockSample := []
  persisted : List ClockHighWaterRecord := []

namespace ClockHistory

variable (jsonDigest : ClockRecordInput → String) (clock : ClockHighWater)

/-- One event. A restart forgets the process, and the process holds nothing. -/
def step (s : ClockHistory) : ClockEvent → ClockHistory
  | .restart => s
  | .observe sample quarantined outcome =>
    let result := observeLocked jsonDigest clock s.file sample quarantined outcome
    { file := result.file
      observations :=
        if result.assessment.isSome || result.persisted.isSome then s.observations ++ [sample]
        else s.observations
      persisted := s.persisted ++ result.persisted.toList }

/-- The history a run of events leaves. -/
def after (s : ClockHistory) (run : List ClockEvent) : ClockHistory :=
  run.foldl (step jsonDigest clock) s

/-- An accepted record with a healthy origin stands for a stretch of observations that ends with
the last one: it starts at the origin, ends at the recorded instant, and has advanced by the
window if the record is trusted. -/
structure Records (record : ClockHighWaterRecord) (origin : ℚ)
    (stretch : List RetentionClockSample) : Prop where
  healthy : clock.HealthyStretch stretch
  bootId : ∀ sample ∈ stretch, sample.bootId = record.bootId
  first : ∀ sample ∈ stretch.head?, sample.monotonicNow = origin
  last : ∀ sample ∈ stretch.getLast?,
    sample.monotonicNow = record.lastMonotonic ∧ sample.utcNow = record.lastObservedUtc
  earned : record.trusted = true → clock.Advanced stretch

/-- The invariant of a history. -/
structure Inv (s : ClockHistory) : Prop where
  /-- The last published record stands at the path and is accepted. -/
  persisted : ∀ record ∈ s.persisted.getLast?, read jsonDigest s.file = .ok record
  /-- An accepted record was earned by a stretch ending now. -/
  earned : ∀ record, read jsonDigest s.file = .ok record →
    ∀ origin ∈ record.healthySinceMonotonic,
      ∃ stretch, stretch <:+ s.observations ∧ Records clock record origin stretch

variable {jsonDigest clock}

/-- An observation alone is a stretch. -/
theorem records_singleton {record : ClockHighWaterRecord} {sample : RetentionClockSample}
    (hsync : sample.synchronized = true) (hboot : sample.bootId = record.bootId)
    (hmono : sample.monotonicNow = record.lastMonotonic)
    (hutc : sample.utcNow = record.lastObservedUtc)
    (hearned : record.trusted = true → clock.Advanced [sample]) :
    Records clock record sample.monotonicNow [sample] where
  healthy :=
    { nonempty := by simp
      synchronized := by simpa using hsync
      oneBoot := by simp
      chain := List.isChain_singleton sample }
  bootId := by simpa using hboot
  first := by simp
  last := by simpa using ⟨hmono, hutc⟩
  earned := hearned

/-- A healthy observation extends the recorded stretch. -/
theorem Records.append {record next : ClockHighWaterRecord} {origin : ℚ}
    {stretch : List RetentionClockSample} {sample : RetentionClockSample}
    (h : Records clock record origin stretch) (hsync : sample.synchronized = true)
    (hboot : sample.bootId = record.bootId) (hnext : next.bootId = record.bootId)
    (hlast : sample.monotonicNow = next.lastMonotonic ∧ sample.utcNow = next.lastObservedUtc)
    (hmono : record.lastMonotonic ≤ sample.monotonicNow)
    (hnonneg : 0 ≤ totalSeconds sample.utcNow record.lastObservedUtc)
    (hslew : totalSeconds sample.utcNow record.lastObservedUtc ≤
      sample.monotonicNow - record.lastMonotonic + clock.maximumForwardSlewSeconds)
    (hearned : next.trusted = true → record.trusted = true ∨
      (clock.healthyWindowSeconds : ℚ) ≤ sample.monotonicNow - origin) :
    Records clock next origin (stretch ++ [sample]) := by
  have hboots : ∀ s ∈ stretch ++ [sample], s.bootId = record.bootId := by
    intro s hs
    rcases List.mem_append.1 hs with hs | hs
    · exact h.bootId s hs
    · exact List.mem_singleton.1 hs ▸ hboot
  have hhead : (stretch ++ [sample]).head? = stretch.head? := by
    cases stretch with
    | nil => exact absurd rfl h.healthy.nonempty
    | cons => rfl
  refine ⟨⟨by simp, ?_, ?_, ?_⟩, ?_, ?_, ?_, ?_⟩
  · intro s hs
    rcases List.mem_append.1 hs with hs | hs
    · exact h.healthy.synchronized s hs
    · exact List.mem_singleton.1 hs ▸ hsync
  · exact fun earlier he later hl => (hboots earlier he).trans (hboots later hl).symm
  · refine List.isChain_append.2 ⟨h.healthy.chain, List.isChain_singleton sample, ?_⟩
    rintro last hmem next ⟨⟩
    obtain ⟨hm, hu⟩ := h.last last hmem
    exact ⟨hm ▸ hmono, hu ▸ hnonneg, hm ▸ hu ▸ hslew⟩
  · exact fun s hs => (hboots s hs).trans hnext.symm
  · exact hhead ▸ h.first
  · simpa using hlast
  · intro htrusted
    rcases hearned htrusted with hold | hwindow
    · obtain ⟨start, hstart, s, hs, hle⟩ := h.earned hold
      exact ⟨start, hhead ▸ hstart, s, List.mem_append_left _ hs, hle⟩
    · cases hstart : stretch.head? with
      | none => exact absurd (List.head?_eq_none_iff.1 hstart) h.healthy.nonempty
      | some start =>
          refine ⟨start, hhead ▸ hstart, sample, by simp, ?_⟩
          rwa [h.first start hstart]

/-- **What a written record stands for.** If the record read was earned, the one written is. -/
theorem records_of_rewrite {file : ClockStateFile} {observations : List RetentionClockSample}
    {sample : RetentionClockSample} {values : ClockRecordInput} {assessment : ClockAssessment}
    (h : Rewrite jsonDigest clock file sample values assessment)
    (hearned : ∀ record, read jsonDigest file = .ok record →
      ∀ origin ∈ record.healthySinceMonotonic,
        ∃ stretch, stretch <:+ observations ∧ Records clock record origin stretch)
    {origin : ℚ} (horigin : origin ∈ values.healthySinceMonotonic) :
    ∃ stretch, stretch <:+ observations ++ [sample] ∧
      Records clock (sealed jsonDigest values) origin stretch := by
  cases h with
  | broken _ _ healthy _ _ => simp [healthy] at horigin
  | baseline corrupt =>
      obtain ⟨hsync, rfl⟩ : sample.synchronized = true ∧ sample.monotonicNow = origin := by
        simpa using horigin
      exact ⟨[sample], List.suffix_append _ _,
        records_singleton hsync rfl rfl rfl (by simp [sealed])⟩
  | @healthy record _ accepted synchronized bootId monotonic wall_nonneg wall_le _ earned =>
      obtain rfl := Option.some.inj horigin
      cases hsince : record.healthySinceMonotonic with
      | none =>
          refine ⟨[sample], List.suffix_append _ _,
            records_singleton synchronized bootId rfl rfl fun htrusted => ?_⟩
          -- without an origin the record read is not trusted, so the window is met at once
          obtain ⟨-, hvalid⟩ := read_eq_ok.1 accepted
          have hold : record.trusted = false := by
            by_contra htrue
            exact hvalid.trusted_healthy (by simpa using htrue) hsince
          refine ⟨sample, rfl, sample, by simp, ?_⟩
          simpa [earned, hold, hsince] using htrusted
      | some since =>
          obtain ⟨stretch, hsuffix, hrecords⟩ := hearned record accepted since hsince
          refine ⟨stretch ++ [sample], ?_, hrecords.append synchronized bootId rfl ⟨rfl, rfl⟩
            monotonic wall_nonneg wall_le fun htrusted => ?_⟩
          · obtain ⟨front, rfl⟩ := hsuffix
            exact ⟨front, by simp⟩
          · simpa [earned, hsince] using htrusted

/-- The invariant holds before the first observation, if no accepted record is there. -/
theorem Inv.init {file : ClockStateFile}
    (hfile : ∀ record, read jsonDigest file ≠ .ok record) : Inv jsonDigest clock ⟨file, [], []⟩ where
  persisted := by simp
  earned := fun record hread => absurd hread (hfile record)

/-- Every event keeps the invariant. -/
theorem Inv.step {s : ClockHistory} (h : Inv jsonDigest clock s) (event : ClockEvent) :
    Inv jsonDigest clock (s.step jsonDigest clock event) := by
  cases event with
  | restart => exact h
  | observe sample quarantined outcome =>
      rcases @observeLocked_result jsonDigest clock s.file sample quarantined outcome with
        ⟨heq, hnone⟩ | ⟨written, values, assessment, hover, hrewrite, heq⟩
      · simp only [ClockHistory.step, heq]
        exact ⟨by simpa using h.persisted, fun record hread => absurd hread (hnone record)⟩
      · rw [hrewrite.write_eq] at heq
        simp only [ClockHistory.step, heq]
        have hwritten : Inv jsonDigest clock
            ⟨.record (sealed jsonDigest values), s.observations ++ [sample],
              s.persisted ++ [sealed jsonDigest values]⟩ := by
          have hread : read jsonDigest (.record (sealed jsonDigest values)) =
              .ok (sealed jsonDigest values) := read_eq_ok.2 ⟨rfl, hrewrite.valid⟩
          refine ⟨by simpa using hread, fun record haccepted origin horigin => ?_⟩
          obtain rfl := Except.ok.inj (hread.symm.trans haccepted)
          exact records_of_rewrite hrewrite h.earned horigin
        cases outcome with
        | completed => exact hwritten
        | failedAfterRename => exact hwritten
        | failedBeforeRename =>
            rcases hover with rfl | ⟨rfl, hnone⟩
            · exact ⟨by simpa using h.persisted, h.earned⟩
            · refine ⟨fun record hrecord => ?_, by simp [ClockHighWater.read]⟩
              exact absurd (h.persisted record (by simpa using hrecord)) (hnone record)

/-- The invariant holds after every run. -/
theorem Inv.after {s : ClockHistory} (h : Inv jsonDigest clock s) (run : List ClockEvent) :
    Inv jsonDigest clock (s.after jsonDigest clock run) :=
  run.foldlRecOn _ h fun _ hs event _ => hs.step event

end ClockHistory

namespace ClockHighWater

/-- The clock of the default configuration. -/
def defaultClock : ClockHighWater := ⟨60, 5, by decide, by decide⟩

/-- Midnight of the first of January 2026, one hundred seconds after boot. -/
def midnight : RetentionClockSample := ⟨1767225600000000, 100, "boot-1", true, by decide, by decide⟩

/-- A minute later on both clocks. -/
def minuteLater : RetentionClockSample :=
  ⟨1767225660000000, 160, "boot-1", true, by decide, by decide⟩

/-- The SHA-256 digests of the two records the minute publishes. -/
def minuteDigest (values : ClockRecordInput) : String :=
  if values.trusted then "71af63c5f186d6d4116971d1af879374e464d7de30cc884de572756ee53497ee"
  else "63dc3052f5492672bd521f1bc9b324bc6a79e69497aa44b8f757db79e0ecd75f"

end ClockHighWater

end NplgMcp
