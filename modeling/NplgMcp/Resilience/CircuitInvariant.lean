import NplgMcp.Resilience.UpstreamGuard

/-!
# The circuit breaker over every interleaving

`GuardSystem` is the guard together with the permits that have not reported, `GuardSystem.step`
one call on it. `Inv` relates the generations of the outstanding permits to the circuit's state;
`inv_step` keeps it over every call that does not strand the half-open probe, `counted_step` keeps
the failure count exact where samples are valid, and `circuit_invariant` is both over a whole run.
-/

namespace NplgMcp

/-! ## The guard and its permits

A permit reports one outcome: `AttemptPermit._record` finalizes it whether or not
`complete_attempt` raises, and the completion task runs to its end under cancellation. So the
system is the guard with the permits that have not reported yet, in any order, and a completion
takes one of them away. `history` is what the guard was told, newest first.
-/

/-- One entry of the history: an outcome with the generation of its permit, or the circuit
becoming closed. -/
inductive GuardEvent where
  | outcome (generation : ℕ) (outcome : AttemptOutcome)
  | closing
  deriving DecidableEq, Repr

/-- The guard, the permits handed out and not finalized, and the history. -/
structure GuardSystem where
  guard : UpstreamGuard
  outstanding : List AttemptPermit
  history : List GuardEvent

/-- A call on the guard, with what the environment answers during it. `complete` names the permit
by its position among the outstanding ones. -/
inductive GuardAction where
  | admitAttempt (deadline : MonotonicDeadline) (clock : FloatSample) (observer : ObserverOutcome)
  | complete (index : ℕ) (outcome : AttemptOutcome) (clock random : FloatSample)
      (observer : ObserverOutcome)

/-- `isinstance(state, Closed)`. -/
def CircuitState.isClosed : CircuitState → Bool
  | .closed _ => true
  | _ => false

/-- `isinstance(state, Open)`. -/
def CircuitState.isOpen : CircuitState → Bool
  | .opened _ _ => true
  | _ => false

/-- `isinstance(state, HalfOpen)`. -/
def CircuitState.isHalfOpen : CircuitState → Bool
  | .halfOpen _ _ => true
  | _ => false

namespace GuardSystem

/-- A guard nobody has called. -/
def initial : GuardSystem := ⟨.initial, [], []⟩

/-- One call. A completion of a permit that is not outstanding is no call: a permit that was
finalized refuses before it reaches the guard. -/
def step (policy : UpstreamGuardPolicy) (s : GuardSystem) : GuardAction → GuardSystem
  | .admitAttempt deadline clock observer =>
    match s.guard.admitAttempt policy deadline clock observer with
    | (.ok permit, guard) => { s with guard, outstanding := permit :: s.outstanding }
    | (.error _, guard) => { s with guard }
  | .complete index outcome clock random observer =>
    match s.outstanding[index]? with
    | none => s
    | some permit =>
      let guard := (s.guard.completeAttempt policy permit.probe permit.generation outcome clock
        random observer).2
      let reported := .outcome permit.generation outcome :: s.history
      { guard
        outstanding := s.outstanding.eraseIdx index
        history := if guard.state.isClosed && !s.guard.state.isClosed then .closing :: reported
          else reported }

/-- The transient outcomes of `generation` since its last success or since the circuit closed. -/
def currentFailures (generation : ℕ) : List GuardEvent → ℕ
  | [] => 0
  | .closing :: _ => 0
  | .outcome g .success :: rest => if g = generation then 0 else currentFailures generation rest
  | .outcome g .transient :: rest =>
    if g = generation then currentFailures generation rest + 1 else currentFailures generation rest
  | .outcome _ .excluded :: rest => currentFailures generation rest

/-- The permit belongs to the guard's present generation. -/
def isCurrent (s : GuardSystem) (permit : AttemptPermit) : Bool :=
  permit.generation = s.guard.generation

/-- The permit is a probe of the guard's present generation. -/
def isCurrentProbe (s : GuardSystem) (permit : AttemptPermit) : Bool :=
  s.isCurrent permit && permit.probe

/-- The clock and the random source are valid wherever a completion samples them. -/
def ValidSamples (s : GuardSystem) : GuardAction → Prop
  | .admitAttempt .. => True
  | .complete _ _ clock random _ =>
    s.guard.AcceptsClock clock ∧ UpstreamGuard.AcceptsRandom random

instance (s : GuardSystem) : ∀ action, Decidable (s.ValidSamples action)
  | .admitAttempt .. => isTrue trivial
  | .complete _ _ clock random _ =>
    inferInstanceAs (Decidable (s.guard.AcceptsClock clock ∧ UpstreamGuard.AcceptsRandom random))

/-- A completion strands the half-open probe: the current generation's probe reports anything but
a success and a sample its transition needs is rejected. -/
def StrandsProbe (s : GuardSystem) : GuardAction → Prop
  | .admitAttempt .. => False
  | .complete index outcome clock random _ =>
    ∃ permit, s.outstanding[index]? = some permit ∧ s.isCurrentProbe permit = true ∧
      s.guard.state.isHalfOpen = true ∧
      (outcome = .excluded ∧ ¬ s.guard.AcceptsClock clock ∨
        outcome = .transient ∧
          ¬ (s.guard.AcceptsClock clock ∧ UpstreamGuard.AcceptsRandom random))

/-- Valid samples strand nobody. -/
theorem ValidSamples.not_strandsProbe {s : GuardSystem} :
    ∀ {action : GuardAction}, s.ValidSamples action → ¬ s.StrandsProbe action
  | .admitAttempt .., _ => id
  | .complete .., hvalid => by
      rintro ⟨permit, -, -, -, ⟨-, hclock⟩ | ⟨-, hboth⟩⟩
      · exact hclock hvalid.1
      · exact hboth hvalid

/-! ## The invariant -/

/-- What relates the generations of the outstanding permits to the circuit's state. -/
structure Inv (policy : UpstreamGuardPolicy) (s : GuardSystem) : Prop where
  active_eq : s.guard.active = s.outstanding.length
  active_le : s.guard.active ≤ policy.capacity
  generation_le : ∀ permit ∈ s.outstanding, permit.generation ≤ s.guard.generation
  closed : ∀ {failures}, s.guard.state = .closed failures →
    failures < policy.failureThreshold ∧ s.outstanding.countP s.isCurrentProbe = 0
  opened : ∀ {retryAt count}, s.guard.state = .opened retryAt count →
    s.outstanding.countP s.isCurrent = 0
  halfOpen : ∀ {retryAt count}, s.guard.state = .halfOpen retryAt count →
    s.outstanding.countP s.isCurrent = 1 ∧ s.outstanding.countP s.isCurrentProbe = 1

theorem inv_initial (policy : UpstreamGuardPolicy) : Inv policy initial where
  active_eq := rfl
  active_le := by simp [initial, UpstreamGuard.initial]
  generation_le := by simp [initial]
  closed := by
    rintro failures ⟨⟩
    exact ⟨policy.failureThreshold_bounds.1, rfl⟩
  opened := by rintro _ _ ⟨⟩
  halfOpen := by rintro _ _ ⟨⟩

/-- Taking one element away takes its own contribution out of a count. -/
theorem countP_eraseIdx_add {α : Type*} (p : α → Bool) :
    ∀ {l : List α} {i : ℕ} {a : α}, l[i]? = some a →
      l.countP p = (l.eraseIdx i).countP p + if p a then 1 else 0
  | b :: l, 0, a, h => by
      obtain rfl : b = a := by simpa using h
      simp [List.countP_cons]
  | b :: l, i + 1, a, h => by
      rw [List.eraseIdx_cons_succ, List.countP_cons, List.countP_cons,
        countP_eraseIdx_add p (l := l) (i := i) (by simpa using h)]
      omega

/-- Permits of earlier generations only: nothing is current, probe or not. -/
theorem countP_current_eq_zero {s : GuardSystem}
    (h : ∀ permit ∈ s.outstanding, permit.generation < s.guard.generation) :
    s.outstanding.countP s.isCurrent = 0 ∧ s.outstanding.countP s.isCurrentProbe = 0 := by
  have hne : ∀ permit ∈ s.outstanding, permit.generation ≠ s.guard.generation :=
    fun permit hmem => (h permit hmem).ne
  constructor <;> rw [List.countP_eq_zero] <;> intro permit hmem <;>
    simp [isCurrent, isCurrentProbe, hne permit hmem]

/-- A guard that enters a generation nobody holds a permit of meets the invariant in every state
but half-open. -/
theorem Inv.of_newGeneration {policy : UpstreamGuardPolicy} {s : GuardSystem}
    (hactive : s.guard.active = s.outstanding.length) (hcap : s.guard.active ≤ policy.capacity)
    (hlt : ∀ permit ∈ s.outstanding, permit.generation < s.guard.generation)
    (hstate : s.guard.state.isHalfOpen = false)
    (hbelow : ∀ failures, s.guard.state = .closed failures → failures < policy.failureThreshold) :
    Inv policy s := by
  obtain ⟨hzero, hzero'⟩ := countP_current_eq_zero hlt
  exact ⟨hactive, hcap, fun permit hmem => (hlt permit hmem).le,
    fun h => ⟨hbelow _ h, hzero'⟩, fun _ => hzero, fun h => by simp [h, CircuitState.isHalfOpen] at hstate⟩

/-- An admission keeps the invariant: a probe opens a generation of its own, an ordinary permit is
no probe, and whatever is refused changes no counter that matters. -/
theorem inv_admit {policy : UpstreamGuardPolicy} {s : GuardSystem} (h : Inv policy s)
    (deadline : MonotonicDeadline) (clock : FloatSample) (observer : ObserverOutcome) :
    Inv policy (s.step policy (.admitAttempt deadline clock observer)) := by
  simp only [step]
  have hres := UpstreamGuard.admit_result policy s.guard deadline clock observer
  generalize s.guard.admitAttempt policy deadline clock observer = res at hres
  cases hres with
  | refused error last =>
      exact ⟨h.active_eq, h.active_le, h.generation_le, h.closed, h.opened, h.halfOpen⟩
  | probeCancelled error hstate =>
      have hlt : ∀ permit ∈ s.outstanding, permit.generation < s.guard.generation + 2 :=
        fun permit hmem => by have := h.generation_le permit hmem; omega
      exact .of_newGeneration h.active_eq h.active_le hlt rfl (by rintro _ ⟨⟩)
  | @probe retryAt now count attempt hstate hfree =>
      have hlt : ∀ permit ∈ s.outstanding, permit.generation < s.guard.generation + 1 :=
        fun permit hmem => Nat.lt_succ_of_le (h.generation_le permit hmem)
      obtain ⟨hzero, hzero'⟩ := countP_current_eq_zero (s := { s with
        guard := ⟨s.guard.active + 1, s.guard.generation + 1, .halfOpen retryAt count, some now⟩ }) hlt
      refine ⟨?_, hfree, ?_, by rintro _ ⟨⟩, by rintro _ _ ⟨⟩, fun _ => ⟨?_, ?_⟩⟩
      · simp [h.active_eq]
      · intro permit hmem
        rcases List.mem_cons.1 hmem with rfl | hmem
        · exact le_rfl
        · exact (hlt permit hmem).le
      · exact (List.countP_cons_of_pos (by simp [isCurrent])).trans (congrArg (· + 1) hzero)
      · exact (List.countP_cons_of_pos (by simp [isCurrent, isCurrentProbe])).trans
          (congrArg (· + 1) hzero')
  | ordinary now attempt hstate hfree =>
      refine ⟨?_, hfree, ?_, ?_, by rintro _ _ ⟨⟩, by rintro _ _ ⟨⟩⟩
      · simp [h.active_eq]
      · intro permit hmem
        rcases List.mem_cons.1 hmem with rfl | hmem
        · exact le_rfl
        · exact h.generation_le permit hmem
      · rintro _ ⟨⟩
        obtain ⟨hbelow, hprobe⟩ := h.closed hstate
        exact ⟨hbelow, (List.countP_cons_of_neg (by simp [isCurrentProbe])).trans hprobe⟩

/-- The position of a permit is below the number of outstanding ones, and the guard counts it. -/
theorem Inv.active_pos {policy : UpstreamGuardPolicy} {s : GuardSystem} (h : Inv policy s)
    {index : ℕ} {permit : AttemptPermit} (hpermit : s.outstanding[index]? = some permit) :
    0 < s.guard.active := by
  obtain ⟨hlt, -⟩ := List.getElem?_eq_some_iff.1 hpermit
  rw [h.active_eq]
  omega

/-- The only current permit of a half-open circuit is its probe. -/
theorem Inv.probe_of_halfOpen {policy : UpstreamGuardPolicy} {s : GuardSystem} (h : Inv policy s)
    {index : ℕ} {permit : AttemptPermit} (hpermit : s.outstanding[index]? = some permit)
    (hgen : permit.generation = s.guard.generation) (hstate : s.guard.state.isHalfOpen = true) :
    permit.probe = true := by
  obtain ⟨retryAt, count, hs⟩ : ∃ retryAt count, s.guard.state = .halfOpen retryAt count := by
    cases hs : s.guard.state <;> simp [hs, CircuitState.isHalfOpen] at hstate ⊢
  obtain ⟨hone, hone'⟩ := h.halfOpen hs
  by_contra hprobe
  have hcurrent := countP_eraseIdx_add s.isCurrent hpermit
  have hcurrentProbe := countP_eraseIdx_add s.isCurrentProbe hpermit
  rw [if_pos (by simp [isCurrent, hgen])] at hcurrent
  rw [if_neg (by simp [isCurrentProbe, hprobe])] at hcurrentProbe
  have hle : (s.outstanding.eraseIdx index).countP s.isCurrentProbe
      ≤ (s.outstanding.eraseIdx index).countP s.isCurrent :=
    List.countP_mono_left fun p _ hp => (Bool.and_eq_true _ _ ▸ hp).1
  omega

/-- A completion keeps the invariant unless it strands the probe. A generation that ends leaves
nothing current behind; a generation that goes on loses one permit that was no probe. -/
theorem inv_complete {policy : UpstreamGuardPolicy} {s : GuardSystem} (h : Inv policy s)
    {index : ℕ} {outcome : AttemptOutcome} {clock random : FloatSample}
    {observer : ObserverOutcome}
    (hok : ¬ s.StrandsProbe (.complete index outcome clock random observer)) :
    Inv policy (s.step policy (.complete index outcome clock random observer)) := by
  simp only [step]
  split
  · exact h
  rename_i permit hpermit
  have hlength : (s.outstanding.eraseIdx index).length = s.outstanding.length - 1 :=
    List.length_eraseIdx_of_lt (List.getElem?_eq_some_iff.1 hpermit).1
  have hpos := h.active_pos hpermit
  have hactive : s.guard.active - 1 = ((s.outstanding.eraseIdx index).length : ℤ) := by
    have := h.active_eq; omega
  have hcap : s.guard.active - 1 ≤ policy.capacity := by have := h.active_le; omega
  have hmem : ∀ p ∈ s.outstanding.eraseIdx index, p.generation ≤ s.guard.generation :=
    fun p hp => h.generation_le p (List.mem_of_mem_eraseIdx hp)
  have hcurrent := countP_eraseIdx_add s.isCurrent hpermit
  have hprobe := countP_eraseIdx_add s.isCurrentProbe hpermit
  have hnoProbe : s.outstanding.countP s.isCurrentProbe = 0 →
      (s.outstanding.eraseIdx index).countP s.isCurrentProbe = 0 := by omega
  have hres := UpstreamGuard.completeAttempt_result policy s.guard permit.probe permit.generation
    outcome clock random observer hpos
  generalize (s.guard.completeAttempt policy permit.probe permit.generation outcome clock random
    observer).2 = guard' at hres
  have hlt : ∀ p ∈ s.outstanding.eraseIdx index, p.generation < s.guard.generation + 1 :=
    fun p hp => Nat.lt_succ_of_le (hmem p hp)
  cases hres with
  | stale hgen =>
      rw [if_neg (by simp [isCurrent, hgen])] at hcurrent
      rw [if_neg (by simp [isCurrent, isCurrentProbe, hgen])] at hprobe
      exact ⟨hactive, hcap, hmem, fun hs => ⟨(h.closed hs).1, hprobe.symm.trans (h.closed hs).2⟩,
        fun hs => hcurrent.symm.trans (h.opened hs),
        fun hs => ⟨hcurrent.symm.trans (h.halfOpen hs).1, hprobe.symm.trans (h.halfOpen hs).2⟩⟩
  | reset hgen hstate =>
      refine ⟨hactive, hcap, hmem, ?_, by rintro _ _ ⟨⟩, by rintro _ _ ⟨⟩⟩
      rintro _ ⟨⟩
      exact ⟨policy.failureThreshold_bounds.1, hnoProbe (h.closed hstate).2⟩
  | close hgen hstate =>
      refine .of_newGeneration hactive hcap hlt rfl ?_
      rintro _ ⟨⟩
      exact policy.failureThreshold_bounds.1
  | ignored hgen hstate =>
      rw [if_pos (by simp [isCurrent, hgen])] at hcurrent
      refine ⟨hactive, hcap, hmem, fun hs => ⟨(h.closed hs).1, hnoProbe (h.closed hs).2⟩,
        fun hs => ?_, fun {retryAt count} (hs : s.guard.state = .halfOpen retryAt count) => ?_⟩
      · have hnone := h.opened hs
        omega
      · have hp := h.probe_of_halfOpen hpermit hgen (by rw [hs]; rfl)
        simp only [hp, Bool.true_eq_false, false_or] at hstate
        exact absurd hs (hstate retryAt count)
  | released hgen _ hstate _ => exact .of_newGeneration hactive hcap hlt rfl (by rintro _ ⟨⟩)
  | releaseRejected hgen hp hstate hrejected =>
      exact absurd ⟨permit, hpermit, by simp [isCurrentProbe, isCurrent, hgen, hp],
        by rw [hstate]; rfl, .inl ⟨rfl, hrejected⟩⟩ hok
  | counted hgen hstate hbelow =>
      refine ⟨hactive, hcap, hmem, ?_, by rintro _ _ ⟨⟩, by rintro _ _ ⟨⟩⟩
      rintro _ ⟨⟩
      exact ⟨hbelow, hnoProbe (h.closed hstate).2⟩
  | tripped hgen hstate _ => exact .of_newGeneration hactive hcap hlt rfl (by rintro _ ⟨⟩)
  | tripRejected last hgen hstate hrejected =>
      refine .of_newGeneration hactive hcap hlt ?_ fun _ hs => (h.closed hs).1
      by_contra hhalf
      rw [Bool.not_eq_false] at hhalf
      have hp := h.probe_of_halfOpen hpermit hgen hhalf
      exact hok ⟨permit, hpermit, by simp [isCurrentProbe, isCurrent, hgen, hp], hhalf,
        .inr ⟨rfl, hrejected⟩⟩

/-- Every call keeps the invariant unless it strands the probe. -/
theorem inv_step {policy : UpstreamGuardPolicy} (s : GuardSystem) (action : GuardAction)
    (hok : ¬ s.StrandsProbe action) (h : Inv policy s) : Inv policy (s.step policy action) := by
  cases action with
  | admitAttempt deadline clock observer => exact inv_admit h deadline clock observer
  | complete index outcome clock random observer => exact inv_complete h hok

/-! ## The failure count -/

/-- A closed circuit counts the current generation's failures. -/
def Counted (s : GuardSystem) : Prop :=
  ∀ failures, s.guard.state = .closed failures →
    failures = currentFailures s.guard.generation s.history

/-- An outcome of another generation is not counted. -/
theorem currentFailures_stale {generation g : ℕ} (h : g ≠ generation) (outcome : AttemptOutcome)
    (history : List GuardEvent) :
    currentFailures generation (.outcome g outcome :: history)
      = currentFailures generation history := by
  cases outcome <;> simp [currentFailures, h]

/-- With valid samples the count is exact after every call: a trip that is not cut short leaves no
closed circuit behind. -/
theorem counted_step {policy : UpstreamGuardPolicy} {s : GuardSystem} {action : GuardAction}
    (hvalid : s.ValidSamples action) (h : Inv policy s) (hcount : Counted s) :
    Counted (s.step policy action) := by
  cases action with
  | admitAttempt deadline clock observer =>
      simp only [step]
      have hres := UpstreamGuard.admit_result policy s.guard deadline clock observer
      generalize s.guard.admitAttempt policy deadline clock observer = res at hres
      cases hres with
      | refused error last => exact hcount
      | probeCancelled error hstate => rintro _ ⟨⟩
      | probe attempt hstate hfree => rintro _ ⟨⟩
      | ordinary now attempt hstate hfree =>
          rintro _ ⟨⟩
          exact hcount _ hstate
  | complete index outcome clock random observer =>
      simp only [step]
      split
      · exact hcount
      rename_i permit hpermit
      have hres := UpstreamGuard.completeAttempt_result policy s.guard permit.probe
        permit.generation outcome clock random observer (h.active_pos hpermit)
      generalize (s.guard.completeAttempt policy permit.probe permit.generation outcome clock random
        observer).2 = guard' at hres
      cases hres with
      | stale hgen =>
          intro failures (hs : s.guard.state = .closed failures)
          simpa [currentFailures_stale hgen] using hcount failures hs
      | reset hgen hstate =>
          rintro _ ⟨⟩
          simp [hstate, hgen, CircuitState.isClosed, currentFailures]
      | close hgen hstate =>
          rintro _ ⟨⟩
          simp [CircuitState.isClosed, currentFailures]
      | ignored hgen hstate =>
          intro failures (hs : s.guard.state = .closed failures)
          simpa [currentFailures] using hcount failures hs
      | released hgen _ hstate _ => rintro _ ⟨⟩
      | releaseRejected _ _ _ hrejected => exact absurd hvalid.1 hrejected
      | counted hgen hstate hbelow =>
          rintro _ ⟨⟩
          have := hcount _ hstate
          simp [hstate, hgen, CircuitState.isClosed, currentFailures, ← this]
      | tripped hgen hstate _ => rintro _ ⟨⟩
      | tripRejected last _ _ hrejected => exact absurd hvalid hrejected

/-- From a closed circuit whose count is exact, a call with valid samples opens it exactly when it
reports the transient failure that completes the threshold. -/
theorem opens_iff {policy : UpstreamGuardPolicy} {s : GuardSystem} {action : GuardAction}
    (hvalid : s.ValidSamples action) (h : Inv policy s) (hcount : Counted s)
    (hclosed : s.guard.state.isClosed = true) :
    (s.step policy action).guard.state.isOpen = true ↔
      ∃ index clock random observer permit,
        action = .complete index .transient clock random observer ∧
        s.outstanding[index]? = some permit ∧ permit.generation = s.guard.generation ∧
        currentFailures s.guard.generation s.history + 1 = policy.failureThreshold := by
  obtain ⟨failures, hs⟩ : ∃ failures, s.guard.state = .closed failures := by
    cases hs : s.guard.state <;> simp [hs, CircuitState.isClosed] at hclosed ⊢
  have hbelow := (h.closed hs).1
  have hfailures := hcount failures hs
  cases action with
  | admitAttempt deadline clock observer =>
      simp only [step, reduceCtorEq, false_and, exists_false, iff_false]
      have hres := UpstreamGuard.admit_result policy s.guard deadline clock observer
      generalize s.guard.admitAttempt policy deadline clock observer = res at hres
      cases hres with
      | refused error last => simp [hs, CircuitState.isOpen]
      | probeCancelled error hstate | probe attempt hstate hfree => simp [hs] at hstate
      | ordinary now attempt hstate hfree => simp [CircuitState.isOpen]
  | complete index outcome clock random observer =>
      simp only [step]
      split
      · rename_i hnone
        simp [hs, CircuitState.isOpen, hnone]
      rename_i permit hpermit
      have hres := UpstreamGuard.completeAttempt_result policy s.guard permit.probe
        permit.generation outcome clock random observer (h.active_pos hpermit)
      generalize (s.guard.completeAttempt policy permit.probe permit.generation outcome clock random
        observer).2 = guard' at hres
      cases hres with
      | stale hgen => simp [hs, hgen, hpermit, CircuitState.isOpen]
      | reset hgen hstate | close hgen hstate => simp [CircuitState.isOpen]
      | ignored hgen hstate => simp [hs, CircuitState.isOpen]
      | released hgen _ hstate _ => simp [hs] at hstate
      | releaseRejected _ _ _ hrejected => exact absurd hvalid.1 hrejected
      | counted hgen hstate hlow =>
          obtain rfl : failures = _ := by simpa [hs] using hstate
          simp [CircuitState.isOpen, hpermit, hgen, ← hfailures]
          omega
      | tripped hgen hstate _ =>
          have := hstate failures hs
          simp [CircuitState.isOpen, hpermit, hgen, ← hfailures]
          omega
      | tripRejected last _ _ hrejected => exact absurd hvalid hrejected

/-! ## Every interleaving -/

/-- The calls of `run`, in order, on a fresh guard. -/
def after (policy : UpstreamGuardPolicy) (run : List GuardAction) : GuardSystem :=
  run.foldl (step policy) initial

/-- The invariant and the exact count hold after every run with valid samples. -/
theorem inv_after {policy : UpstreamGuardPolicy} {run : List GuardAction}
    (hvalid : Library.Along ValidSamples (step policy) initial run) :
    Inv policy (after policy run) ∧ Counted (after policy run) := by
  have keep : ∀ s action, ValidSamples s action → Inv policy s ∧ Counted s →
      Inv policy (s.step policy action) ∧ Counted (s.step policy action) :=
    fun s action hok h => ⟨inv_step s action hok.not_strandsProbe h.1, counted_step hok h.1 h.2⟩
  exact Library.foldl_invariant keep ⟨inv_initial policy, by rintro _ ⟨⟩; rfl⟩ hvalid

/-- A half-open circuit has exactly one current probe, and no other state has any. -/
theorem Inv.halfOpen_iff {policy : UpstreamGuardPolicy} {s : GuardSystem} (h : Inv policy s) :
    s.guard.state.isHalfOpen = true ↔ s.outstanding.countP s.isCurrentProbe = 1 := by
  have hle : s.outstanding.countP s.isCurrentProbe ≤ s.outstanding.countP s.isCurrent :=
    List.countP_mono_left fun p _ hp => (Bool.and_eq_true _ _ ▸ hp).1
  cases hs : s.guard.state with
  | closed failures => simp [CircuitState.isHalfOpen, (h.closed hs).2]
  | opened retryAt count =>
      have := h.opened hs
      simp only [CircuitState.isHalfOpen, Bool.false_eq_true, false_iff]
      omega
  | halfOpen retryAt count => simp [CircuitState.isHalfOpen, (h.halfOpen hs).2]

/-- An outcome whose generation is stale changes nothing but the number of active permits. -/
theorem stale_step {policy : UpstreamGuardPolicy} {s : GuardSystem} (h : Inv policy s)
    {index : ℕ} {permit : AttemptPermit} (hpermit : s.outstanding[index]? = some permit)
    (hgen : permit.generation ≠ s.guard.generation) (outcome : AttemptOutcome)
    (clock random : FloatSample) (observer : ObserverOutcome) :
    (s.step policy (.complete index outcome clock random observer)).guard
      = { s.guard with active := s.guard.active - 1 } := by
  have hpos : ¬ s.guard.active ≤ 0 := not_le.2 (h.active_pos hpermit)
  simp [step, hpermit, UpstreamGuard.completeAttempt, hpos, hgen]

/-- The default policy. -/
def defaultPolicy : UpstreamGuardPolicy where
  capacity := 2
  failureThreshold := 3
  baseOpenSeconds := 1
  maxOpenSeconds := 30
  maxAttemptSeconds := 15
  jitterRatio := 1 / 5
  capacity_bounds := by decide
  failureThreshold_bounds := by decide
  baseOpenSeconds_bounds := by norm_num
  maxOpenSeconds_bounds := by norm_num
  maxAttemptSeconds_bounds := by norm_num
  jitterRatio_bounds := by norm_num

/-- A deadline for attempts of the first minute. -/
def firstMinute : MonotonicDeadline :=
  ⟨0, 60, by norm_num, by norm_num, by norm_num, by norm_num⟩

/-- Three failures open the circuit, a probe admitted after the interval closes it again. -/
def tripAndRecover : List GuardAction :=
  [.admitAttempt firstMinute (.finite 1) .returned, .complete 0 .transient (.finite 1) (.finite 0) .returned,
    .admitAttempt firstMinute (.finite 2) .returned, .complete 0 .transient (.finite 2) (.finite 0) .returned,
    .admitAttempt firstMinute (.finite 3) .returned, .complete 0 .transient (.finite 3) (.finite 0) .returned,
    .admitAttempt firstMinute (.finite 30) .returned, .complete 0 .success (.finite 31) (.finite 1) .returned]

end GuardSystem

end NplgMcp
