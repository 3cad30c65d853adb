import NplgMcp.Resilience.CircuitInvariant
import NplgMcp.Resilience.PdfCircuit

/-!
# Recovery of the two circuit breakers

Both breakers leave half-open through the report of their one probe, and both sample the clock in
the middle of that report. A rejected sample raises there: the upstream guard has advanced the
generation and finalized the probe while the state still says half-open, the PDF breaker still has
its probe flag set. `StrandsProbe` is that step. A run avoids the wedged states exactly when no
step of it strands a probe, and from every state of such a run an admission is still possible;
a wedged guard stays wedged, whatever is called on it.
-/

namespace NplgMcp

namespace GuardSystem

/-- Half-open, and no outstanding probe of the current generation to leave it by. -/
def Wedged (s : GuardSystem) : Prop :=
  s.guard.state.isHalfOpen = true ∧ s.outstanding.countP s.isCurrentProbe = 0

instance (s : GuardSystem) : Decidable s.Wedged := inferInstanceAs (Decidable (_ ∧ _))

/-- The invariant excludes a wedged guard. -/
theorem Inv.not_wedged {policy : UpstreamGuardPolicy} {s : GuardSystem} (h : Inv policy s) :
    ¬ s.Wedged := by
  rintro ⟨hhalf, hzero⟩
  have hone := h.halfOpen_iff.1 hhalf
  omega

/-- Half-open with stale permits only: nothing is admitted, every report is stale, and so every
call leaves the guard half-open with stale permits only. -/
def Abandoned (s : GuardSystem) : Prop :=
  s.guard.state.isHalfOpen = true ∧
    ∀ permit ∈ s.outstanding, permit.generation < s.guard.generation

theorem Abandoned.wedged {s : GuardSystem} (h : s.Abandoned) : s.Wedged :=
  ⟨h.1, (countP_current_eq_zero h.2).2⟩

/-- A rejected sample leaves the generation advanced and the state half-open. -/
theorem abandoned_of_strandsProbe {policy : UpstreamGuardPolicy} {s : GuardSystem}
    {action : GuardAction} (hstrands : s.StrandsProbe action) (h : Inv policy s) :
    (s.step policy action).Abandoned := by
  cases action with
  | admitAttempt deadline clock observer => exact hstrands.elim
  | complete index outcome clock random observer =>
      obtain ⟨permit, hpermit, hcurrent, hhalf, hrejected⟩ := hstrands
      simp only [isCurrentProbe, isCurrent, Bool.and_eq_true, decide_eq_true_eq] at hcurrent
      obtain ⟨hgen, hprobe⟩ := hcurrent
      have hlt : ∀ p ∈ s.outstanding.eraseIdx index, p.generation < s.guard.generation + 1 :=
        fun p hp => Nat.lt_succ_of_le (h.generation_le p (List.mem_of_mem_eraseIdx hp))
      simp only [GuardSystem.step, hpermit]
      have hres := UpstreamGuard.completeAttempt_result policy s.guard permit.probe
        permit.generation outcome clock random observer (h.active_pos hpermit)
      generalize (s.guard.completeAttempt policy permit.probe permit.generation outcome clock random
        observer).2 = guard' at hres
      cases hres with
      | stale hstale => exact absurd hgen hstale
      | reset | close => simp at hrejected
      | ignored _ hstate =>
          simp only [hprobe, Bool.true_eq_false, false_or] at hstate
          cases hs : s.guard.state with
          | closed | opened => simp [hs, CircuitState.isHalfOpen] at hhalf
          | halfOpen retryAt count => exact absurd hs (hstate retryAt count)
      | released _ _ _ haccepted => simp [haccepted] at hrejected
      | releaseRejected => exact ⟨hhalf, hlt⟩
      | counted _ hstate => simp [hstate, CircuitState.isHalfOpen] at hhalf
      | tripped _ _ haccepted => simp [haccepted] at hrejected
      | tripRejected => exact ⟨hhalf, hlt⟩

theorem Abandoned.step {policy : UpstreamGuardPolicy} {s : GuardSystem} (h : s.Abandoned)
    (action : GuardAction) : (s.step policy action).Abandoned := by
  obtain ⟨hhalf, hlt⟩ := h
  cases action with
  | admitAttempt deadline clock observer =>
      simp only [GuardSystem.step]
      have hres := UpstreamGuard.admit_result policy s.guard deadline clock observer
      generalize s.guard.admitAttempt policy deadline clock observer = res at hres
      cases hres with
      | refused error last => exact ⟨hhalf, hlt⟩
      | probeCancelled _ hstate | probe _ hstate | ordinary _ _ hstate =>
          simp [hstate, CircuitState.isHalfOpen] at hhalf
  | complete index outcome clock random observer =>
      simp only [GuardSystem.step]
      split
      · exact ⟨hhalf, hlt⟩
      rename_i permit hpermit
      have hstale : permit.generation ≠ s.guard.generation :=
        (hlt permit (List.mem_of_getElem? hpermit)).ne
      have hkept : ∀ p ∈ s.outstanding.eraseIdx index, p.generation < s.guard.generation :=
        fun p hp => hlt p (List.mem_of_mem_eraseIdx hp)
      unfold UpstreamGuard.completeAttempt
      split
      · exact ⟨hhalf, hkept⟩
      · simp only [ne_eq, hstale, not_false_eq_true, if_true]
        exact ⟨hhalf, hkept⟩

/-- **A wedge is forever.** Once a report has stranded the probe, the guard is wedged after every
further run, and no call ever hands out a permit again. -/
theorem wedged_forever {policy : UpstreamGuardPolicy} {s : GuardSystem} {action : GuardAction}
    (hstrands : s.StrandsProbe action) (h : Inv policy s) (run : List GuardAction) :
    (run.foldl (step policy) (s.step policy action)).Wedged := by
  have habandoned : (s.step policy action).Abandoned := abandoned_of_strandsProbe hstrands h
  suffices hrun : ∀ s : GuardSystem, s.Abandoned → (run.foldl (step policy) s).Abandoned from
    (hrun _ habandoned).wedged
  clear habandoned
  induction run with
  | nil => exact fun _ h => h
  | cons next rest ih => exact fun s h => ih _ (h.step next)

/-! ## An admission is still possible -/

/-- A clock the guard accepts, no earlier than a given time. -/
def laterTime (guard : UpstreamGuard) (time : ℚ) : ℚ := max time (max 0 (guard.lastNow.getD 0))

/-- A deadline one second away. -/
def deadlineAt (now : ℚ) (h : 0 ≤ now) : MonotonicDeadline :=
  ⟨now, now + 1, h, by linarith, by linarith, by linarith⟩

theorem laterTime_nonneg (guard : UpstreamGuard) (time : ℚ) : 0 ≤ laterTime guard time :=
  le_max_of_le_right (le_max_left _ _)

theorem acceptsClock_laterTime (guard : UpstreamGuard) (time : ℚ) :
    guard.AcceptsClock (.finite (laterTime guard time)) := by
  refine ⟨laterTime_nonneg guard time, fun last hlast => ?_⟩
  have : guard.lastNow = some last := hlast
  simp [laterTime, this]

/-- An accepted clock and a fresh deadline leave a second for the attempt. -/
theorem remaining_deadlineAt {now : ℚ} (h : 0 ≤ now) : (deadlineAt now h).remaining now = some 1 := by
  simp [MonotonicDeadline.remaining, deadlineAt, h]

/-- A guard with a free permit that is not half-open admits once its open interval has run out. -/
theorem exists_admission {policy : UpstreamGuardPolicy} {guard : UpstreamGuard}
    (hfree : guard.active < policy.capacity) (hstate : guard.state.isHalfOpen = false) :
    ∃ deadline clock permit, guard.AcceptsClock clock ∧
      (guard.admitAttempt policy deadline clock .returned).1 = .ok permit := by
  have hone : ¬ ((1 : ℚ) ≤ 0) := by norm_num
  have hnot := not_le.2 hfree
  cases hs : guard.state with
  | halfOpen retryAt count => simp [hs, CircuitState.isHalfOpen] at hstate
  | closed failures =>
      have hnow := laterTime_nonneg guard 0
      have hacc := acceptsClock_laterTime guard 0
      obtain ⟨attempt, hattempt⟩ := UpstreamGuard.validated_attempt policy hnow hone
      refine ⟨deadlineAt _ hnow, .finite (laterTime guard 0), ⟨attempt, false, guard.generation⟩,
        hacc, ?_⟩
      simp [UpstreamGuard.admitAttempt, UpstreamGuard.now, hacc, remaining_deadlineAt hnow, hone, hs, hnot,
        hattempt]
  | opened retryAt count =>
      have hnow := laterTime_nonneg guard retryAt
      have hacc := acceptsClock_laterTime guard retryAt
      have hlate : ¬ laterTime guard retryAt < retryAt := not_lt.2 (le_max_left _ _)
      obtain ⟨attempt, hattempt⟩ := UpstreamGuard.validated_attempt policy hnow hone
      refine ⟨deadlineAt _ hnow, .finite (laterTime guard retryAt),
        ⟨attempt, true, guard.generation + 1⟩, hacc, ?_⟩
      simp [UpstreamGuard.admitAttempt, UpstreamGuard.now, hacc, remaining_deadlineAt hnow, hone, hs, hnot,
        hlate, hattempt, UpstreamGuard.setState]

/-- Some continuation ends in an admission with an accepted clock. -/
def Recovers (policy : UpstreamGuardPolicy) (s : GuardSystem) : Prop :=
  ∃ (rest : List GuardAction) (deadline : MonotonicDeadline) (clock : FloatSample)
    (permit : AttemptPermit), let s' := rest.foldl (step policy) s
    s'.guard.AcceptsClock clock ∧ (s'.guard.admitAttempt policy deadline clock .returned).1 = .ok permit

/-- The success of an outstanding permit, the probe where the circuit is half-open, frees one
place and leaves the circuit closed or open. -/
theorem complete_success {policy : UpstreamGuardPolicy} {s : GuardSystem} (h : Inv policy s)
    {index : ℕ} {permit : AttemptPermit} (hpermit : s.outstanding[index]? = some permit)
    (hcurrent : s.guard.state.isHalfOpen = true → permit.generation = s.guard.generation) :
    let s' := s.step policy (.complete index .success .other .other .returned)
    s'.guard.active = s.guard.active - 1 ∧ s'.guard.state.isHalfOpen = false := by
  simp only [step, hpermit]
  have hres := UpstreamGuard.completeAttempt_result policy s.guard permit.probe
    permit.generation .success .other .other .returned (h.active_pos hpermit)
  generalize (s.guard.completeAttempt policy permit.probe permit.generation .success .other .other
    .returned).2 = guard' at hres
  cases hres with
  | stale hstale => exact ⟨rfl, by by_contra hhalf; exact hstale (hcurrent (by simpa using hhalf))⟩
  | reset | close => exact ⟨rfl, rfl⟩

/-- From every state that meets the invariant an admission can still come. -/
theorem Inv.recovers {policy : UpstreamGuardPolicy} {s : GuardSystem} (h : Inv policy s) :
    Recovers policy s := by
  have hcapacity := policy.capacity_bounds.1
  by_cases hready : s.guard.active < policy.capacity ∧ s.guard.state.isHalfOpen = false
  · obtain ⟨deadline, clock, permit, hclock, hadmit⟩ := exists_admission hready.1 hready.2
    exact ⟨[], deadline, clock, permit, hclock, hadmit⟩
  -- a permit to finish first: the probe, or any one where every place is taken
  obtain ⟨index, permit, hpermit, hcurrent⟩ : ∃ (index : ℕ) (permit : AttemptPermit),
      s.outstanding[index]? = some permit ∧
        (s.guard.state.isHalfOpen = true → permit.generation = s.guard.generation) := by
    by_cases hhalf : s.guard.state.isHalfOpen = true
    · have hone := h.halfOpen_iff.1 hhalf
      obtain ⟨permit, hmem, hprobe⟩ := List.countP_pos_iff.1 (by omega :
        0 < s.outstanding.countP s.isCurrentProbe)
      obtain ⟨index, hindex⟩ := List.getElem?_of_mem hmem
      refine ⟨index, permit, hindex, fun _ => ?_⟩
      simp only [isCurrentProbe, isCurrent, Bool.and_eq_true, decide_eq_true_eq] at hprobe
      exact hprobe.1
    · have hfull : ¬ s.guard.active < policy.capacity := fun hfree =>
        hready ⟨hfree, by simpa using hhalf⟩
      have hlength : 0 < s.outstanding.length := by have := h.active_eq; omega
      exact ⟨0, s.outstanding[0], List.getElem?_eq_getElem hlength, fun hyes => absurd hyes hhalf⟩
  obtain ⟨hactive, hstate⟩ := complete_success h hpermit hcurrent
  have hle := h.active_le
  obtain ⟨deadline, clock, permit, hclock, hadmit⟩ :=
    @exists_admission policy _ (by omega) hstate
  exact ⟨[.complete index .success .other .other .returned], deadline, clock, permit, hclock, hadmit⟩

end GuardSystem

namespace PdfCircuitSystem

/-- Some continuation ends in an admitted attempt with an accepted clock. -/
def Recovers (policy : PdfCircuitPolicy) (s : PdfCircuitSystem) : Prop :=
  ∃ (rest : List PdfCircuitAction) (clock : FloatSample), let s' := rest.foldl (step policy) s
    s'.attempting = false ∧ s'.breaker.AcceptsClock clock ∧
      (s'.breaker.beforeAttempt clock).1 = .ok ()

end PdfCircuitSystem

/-! ## Both breakers -/

/-- Three failures, an admitted probe, and a probe that is cancelled while the clock returns a
`nan`. -/
def strandedRun : List GuardAction :=
  GuardSystem.tripAndRecover.take 7 ++ [.complete 0 .excluded .nan (.finite 0) .returned]

/-- One failure opens the PDF circuit for a second; its probe fails while the clock returns a
`nan`. -/
def stuckRun : List PdfCircuitAction :=
  [.begin (.finite 0), .finish .operationalFailure (.finite 0), .begin (.finite 1),
    .finish .operationalFailure .nan]

/-- A policy that opens on the first failure. -/
def firstFailurePolicy : PdfCircuitPolicy := 
  ⟨1, 1, by decide, GuardSystem.defaultPolicy.baseOpenSeconds_bounds⟩

end NplgMcp
