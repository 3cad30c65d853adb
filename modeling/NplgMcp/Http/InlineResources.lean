import Mathlib.Algebra.BigOperators.Group.List.Basic
import Mathlib.Algebra.Order.BigOperators.Group.List
import Mathlib.Data.List.Perm.Subperm
import Mathlib.Tactic.Linarith
import Mathlib.Tactic.Ring
import NplgMcp.Library.Run

/-!
# The budget of inline resources

`InlineResourceReservation` and `InlineResourceAdmission` of `resource_admission.py`. A call has no
await in it and is one step; the loop at the end of a request scope is one step for each release, so
that a task which inherited the scope may come in between. Reservations and scopes are numbered in
the order they are made. `inline_budget_iff` says when no byte stays reserved for good.
-/

namespace NplgMcp

/-! ## The model -/

/-- What the admission and its reservations raise. -/
inductive ResourceError where
  | invalidRequest
  | invalidRetained
  | invalidReturn
  | unbalancedAccounting
  | unbalancedRelease
  | resizedAfterRelease
  deriving DecidableEq, Repr

/-- The text the error is raised with. -/
def ResourceError.message : ResourceError → String
  | .invalidRequest => "inline resource reservation must be a positive integer"
  | .invalidRetained => "inline resource reservation may only shrink to a positive size"
  | .invalidReturn => "inline resource return must be a positive integer"
  | .unbalancedAccounting => "inline resource admission accounting is unbalanced"
  | .unbalancedRelease => "inline resource reservation release is unbalanced"
  | .resizedAfterRelease => "released inline resource reservation cannot be resized"

/-- `InlineResourceReservation`. -/
structure InlineResourceReservation where
  reservedBytes : ℤ
  requestScoped : Bool
  released : Bool := false
  deriving DecidableEq, Repr

/-- Where a request scope is: entered, in the loop of its `finally` clause with these reservations
left to release, or left. -/
inductive ScopePhase where
  | entered
  | releasing (remaining : List ℕ)
  | left
  deriving DecidableEq, Repr

/-- `_InlineResourceRequestScope`. -/
structure InlineResourceRequestScope where
  reservations : List ℕ := []
  phase : ScopePhase := .entered
  deriving DecidableEq, Repr

/-- `InlineResourceAdmission` with the reservations and the scopes made so far. -/
structure InlineResourceAdmission where
  capacityBytes : ℤ
  capacityBytes_pos : 0 < capacityBytes
  activeBytes : ℤ := 0
  reservations : List InlineResourceReservation := []
  scopes : List InlineResourceRequestScope := []
  deriving DecidableEq, Repr

namespace InlineResourceAdmission

/-- What a call returns or raises, with the admission it leaves. -/
abbrev Outcome (α : Type) := Except ResourceError α × InlineResourceAdmission

variable (admission : InlineResourceAdmission)

/-- `return_reserved_bytes`. -/
def returnReservedBytes (reservedBytes : ℤ) : Outcome Unit :=
  if reservedBytes ≤ 0 then (.error .invalidReturn, admission)
  else if reservedBytes > admission.activeBytes then (.error .unbalancedAccounting, admission)
  else (.ok (), { admission with activeBytes := admission.activeBytes - reservedBytes })

/-- The admission with a reservation in another state. -/
def setReservation (number : ℕ) (reservation : InlineResourceReservation) :
    InlineResourceAdmission :=
  { admission with reservations := admission.reservations.set number reservation }

/-- The admission with a scope in another state. -/
def setScope (number : ℕ) (scope : InlineResourceRequestScope) : InlineResourceAdmission :=
  { admission with scopes := admission.scopes.set number scope }

/-- `try_reserve` of a task whose context has this scope, if any. -/
def tryReserve (requestScope : Option ℕ) (requestedBytes : ℤ) : Outcome (Option ℕ) :=
  if requestedBytes ≤ 0 then (.error .invalidRequest, admission)
  else if requestedBytes > admission.capacityBytes - admission.activeBytes then
    (.ok none, admission)
  else
    let number := admission.reservations.length
    let scope := requestScope.bind fun scope => (admission.scopes[scope]?).map (scope, ·)
    let reserved : InlineResourceAdmission :=
      { admission with
        activeBytes := admission.activeBytes + requestedBytes
        reservations := admission.reservations ++
          [{ reservedBytes := requestedBytes, requestScoped := scope.isSome }] }
    match scope with
    | none => (.ok number, reserved)
    | some (index, scope) => (.ok number, reserved.setScope index
        { scope with reservations := scope.reservations ++ [number] })

/-- `shrink`. -/
def shrink (number : ℕ) (retainedBytes : ℤ) : Outcome Unit :=
  match admission.reservations[number]? with
  | none => (.ok (), admission)
  | some reservation =>
    if reservation.released then (.error .resizedAfterRelease, admission)
    else if retainedBytes ≤ 0 ∨ retainedBytes > reservation.reservedBytes then
      (.error .invalidRetained, admission)
    else if reservation.reservedBytes - retainedBytes = 0 then (.ok (), admission)
    else
      match admission.returnReservedBytes (reservation.reservedBytes - retainedBytes) with
      | (.error error, admission) => (.error error, admission)
      | (.ok _, admission) => (.ok (), admission.setReservation number
          { reservation with reservedBytes := retainedBytes })

/-- `release`. -/
def release (number : ℕ) : Outcome Unit :=
  match admission.reservations[number]? with
  | none => (.ok (), admission)
  | some reservation =>
    if reservation.released then (.error .unbalancedRelease, admission)
    else
      match admission.returnReservedBytes reservation.reservedBytes with
      | (.error error, admission) => (.error error, admission)
      | (.ok _, admission) =>
        (.ok (), admission.setReservation number { reservation with released := true })

/-- The `finally` clause of a caller: it leaves a reservation that is request-scoped alone. -/
def releaseUnscoped (number : ℕ) : Outcome Unit :=
  match admission.reservations[number]? with
  | none => (.ok (), admission)
  | some reservation =>
    if reservation.requestScoped then (.ok (), admission) else admission.release number

/-- `request_scope` up to its `yield`. -/
def enterScope : InlineResourceAdmission :=
  { admission with scopes := admission.scopes ++ [{}] }

/-- The start of its `finally` clause: `reversed` has the length the list has now. -/
def leaveScope (number : ℕ) : InlineResourceAdmission :=
  match admission.scopes[number]? with
  | none => admission
  | some scope =>
    match scope.phase with
    | .entered =>
      admission.setScope number { scope with phase := .releasing scope.reservations.reverse }
    | .releasing _ | .left => admission

/-- One pass of the loop. What a release raises ends it. -/
def releaseNext (number : ℕ) : Outcome Unit :=
  match admission.scopes[number]? with
  | none => (.ok (), admission)
  | some scope =>
    match scope.phase with
    | .entered | .left => (.ok (), admission)
    | .releasing [] => (.ok (), admission.setScope number { scope with phase := .left })
    | .releasing (reservation :: rest) =>
      match admission.release reservation with
      | (.error error, admission) =>
        (.error error, admission.setScope number { scope with phase := .left })
      | (.ok _, admission) =>
        (.ok (), admission.setScope number { scope with phase := .releasing rest })

/-- One step of one task. -/
inductive Action where
  | tryReserve (requestScope : Option ℕ) (requestedBytes : ℤ)
  | shrink (number : ℕ) (retainedBytes : ℤ)
  | releaseUnscoped (number : ℕ)
  | enterScope
  | leaveScope (number : ℕ)
  | releaseNext (number : ℕ)
  deriving DecidableEq, Repr

/-- The admission after one step. -/
def step (admission : InlineResourceAdmission) : Action → InlineResourceAdmission
  | .tryReserve requestScope requestedBytes =>
    (admission.tryReserve requestScope requestedBytes).2
  | .shrink number retainedBytes => (admission.shrink number retainedBytes).2
  | .releaseUnscoped number => (admission.releaseUnscoped number).2
  | .enterScope => admission.enterScope
  | .leaveScope number => admission.leaveScope number
  | .releaseNext number => (admission.releaseNext number).2

/-- A new admission. -/
def new (capacityBytes : ℤ) (h : 0 < capacityBytes) : InlineResourceAdmission where
  capacityBytes := capacityBytes
  capacityBytes_pos := h

/-! ## The budget -/

/-- The bytes a reservation retains. -/
def retained (reservation : InlineResourceReservation) : ℤ :=
  if reservation.released then 0 else reservation.reservedBytes

/-- The bytes that live reservations retain. -/
def retainedBytes : ℤ := (admission.reservations.map retained).sum

/-- No request is in flight and every unscoped reservation is released. -/
def Idle : Prop :=
  (∀ scope ∈ admission.scopes, scope.phase = .left) ∧
    ∀ reservation ∈ admission.reservations, reservation.requestScoped = false →
      reservation.released = true

/-- The active bytes are those of the live reservations and within the capacity, and there are none
when the admission is idle. -/
structure Budgeted : Prop where
  active_eq : admission.activeBytes = admission.retainedBytes
  active_le : admission.activeBytes ≤ admission.capacityBytes
  idle : admission.Idle → admission.activeBytes = 0

/-- The step reserves bytes that are free through a scope whose loop has begun. -/
def ReservesLate : Action → Prop
  | .tryReserve requestScope requestedBytes =>
    0 < requestedBytes ∧ requestedBytes ≤ admission.capacityBytes - admission.activeBytes ∧
      ∃ number scope, requestScope = some number ∧ admission.scopes[number]? = some scope ∧
        scope.phase ≠ .entered
  | _ => False

/-! ## The invariant -/

end InlineResourceAdmission

/-- The reservations that a scope is still going to release. -/
def InlineResourceRequestScope.pending (scope : InlineResourceRequestScope) : List ℕ :=
  match scope.phase with
  | .entered => scope.reservations
  | .releasing remaining => remaining
  | .left => []

/-- A scope that is entered is going to release what is made in it. -/
theorem InlineResourceRequestScope.pending_append_entered (scope : InlineResourceRequestScope)
    (h : scope.phase = .entered) (number : ℕ) :
    (InlineResourceRequestScope.pending { scope with
      reservations := scope.reservations ++ [number] }).Perm ([number] ++ scope.pending) := by
  simp only [pending, h]
  exact List.perm_append_comm

/-- A scope whose loop has begun is not. -/
theorem InlineResourceRequestScope.pending_append_late (scope : InlineResourceRequestScope)
    (h : scope.phase ≠ .entered) (number : ℕ) :
    InlineResourceRequestScope.pending { scope with
      reservations := scope.reservations ++ [number] } = scope.pending := by
  cases hphase : scope.phase with
  | entered => exact absurd hphase h
  | releasing remaining => simp only [pending, hphase]
  | left => simp only [pending, hphase]

namespace InlineResourceAdmission

variable (admission : InlineResourceAdmission)

/-- The reservations that some scope is still going to release. -/
def pending : List ℕ := admission.scopes.flatMap InlineResourceRequestScope.pending

/-- A reservation that is live and request-scoped. -/
def IsHeld (number : ℕ) : Prop :=
  ∃ reservation, admission.reservations[number]? = some reservation ∧
    reservation.requestScoped = true ∧ reservation.released = false

/-- The counter is the sum of what is retained, which is within the capacity. -/
structure Balanced : Prop where
  active_eq : admission.activeBytes = admission.retainedBytes
  active_le : admission.activeBytes ≤ admission.capacityBytes
  positive : ∀ reservation ∈ admission.reservations, 0 < reservation.reservedBytes

/-- What the scopes are going to release is held, each reservation once. -/
structure Owned : Prop where
  pending_nodup : admission.pending.Nodup
  pending_held : ∀ number ∈ admission.pending, admission.IsHeld number

/-- A held reservation that nobody is going to release. -/
def Strands : Prop := ∃ number, admission.IsHeld number ∧ number ∉ admission.pending

variable {admission : InlineResourceAdmission}

theorem IsHeld.lt {number : ℕ} (h : admission.IsHeld number) :
    number < admission.reservations.length := by
  obtain ⟨reservation, hreservation, -⟩ := h
  exact (List.getElem?_eq_some_iff.1 hreservation).1

theorem retained_nonneg (h : ∀ reservation ∈ admission.reservations, 0 < reservation.reservedBytes) :
    ∀ bytes ∈ admission.reservations.map retained, 0 ≤ bytes := by
  intro bytes hmem
  obtain ⟨reservation, hreservation, rfl⟩ := List.mem_map.1 hmem
  have hpositive := h reservation hreservation
  unfold retained
  split <;> omega

/-- What one reservation retains is within the sum. -/
theorem retained_le (h : ∀ reservation ∈ admission.reservations, 0 < reservation.reservedBytes)
    {number : ℕ} {reservation : InlineResourceReservation}
    (hreservation : admission.reservations[number]? = some reservation) :
    retained reservation ≤ admission.retainedBytes :=
  List.single_le_sum (retained_nonneg h) _
    (List.mem_map_of_mem (List.mem_of_getElem? hreservation))

/-- Changing one reservation changes the sum by as much. -/
theorem retainedBytes_setReservation {number : ℕ} {reservation reservation' :
    InlineResourceReservation} (h : admission.reservations[number]? = some reservation) :
    (admission.setReservation number reservation').retainedBytes =
      admission.retainedBytes - retained reservation + retained reservation' := by
  unfold retainedBytes setReservation
  dsimp only
  generalize admission.reservations = reservations at h
  induction reservations generalizing number with
  | nil => cases h
  | cons first rest ih =>
      cases number with
      | zero =>
          cases h
          simp only [List.set_cons_zero, List.map_cons, List.sum_cons]
          ring
      | succ number =>
          simp only [List.set_cons_succ, List.map_cons, List.sum_cons]
          rw [ih h]
          ring

/-- Putting a scope in another state exchanges what it is going to release. -/
theorem pending_setScope {number : ℕ} {scope scope' : InlineResourceRequestScope}
    (h : admission.scopes[number]? = some scope) :
    (scope.pending ++ (admission.setScope number scope').pending).Perm
      (scope'.pending ++ admission.pending) := by
  unfold pending setScope
  dsimp only
  generalize admission.scopes = scopes at h
  induction scopes generalizing number with
  | nil => cases h
  | cons first rest ih =>
      cases number with
      | zero =>
          cases h
          simp only [List.set_cons_zero, List.flatMap_cons, ← List.append_assoc]
          exact List.perm_append_comm.append_right _
      | succ number =>
          simp only [List.set_cons_succ, List.flatMap_cons]
          calc (scope.pending ++ (first.pending ++
                (rest.set number scope').flatMap InlineResourceRequestScope.pending)).Perm
                (first.pending ++ (scope.pending ++
                (rest.set number scope').flatMap InlineResourceRequestScope.pending)) :=
                List.perm_append_comm_assoc ..
            _ |>.Perm (first.pending ++ (scope'.pending ++
                rest.flatMap InlineResourceRequestScope.pending)) := (ih h).append_left _
            _ |>.Perm (scope'.pending ++ (first.pending ++
                rest.flatMap InlineResourceRequestScope.pending)) :=
                List.perm_append_comm_assoc ..

/-! ## The bytes -/

/-- The admission with one more reservation. -/
def reserve (admission : InlineResourceAdmission) (bytes : ℤ) (inScope : Bool) :
    InlineResourceAdmission :=
  { admission with
    activeBytes := admission.activeBytes + bytes
    reservations := admission.reservations ++
      [{ reservedBytes := bytes, requestScoped := inScope }] }

/-- The admission with bytes of a reservation returned and the reservation in another state. -/
def giveBack (admission : InlineResourceAdmission) (number : ℕ) (bytes : ℤ)
    (reservation : InlineResourceReservation) : InlineResourceAdmission :=
  { admission with
    activeBytes := admission.activeBytes - bytes
    reservations := admission.reservations.set number reservation }

theorem returnReservedBytes_cases (bytes : ℤ) :
    (∃ error, admission.returnReservedBytes bytes = (.error error, admission)) ∨
      0 < bytes ∧ bytes ≤ admission.activeBytes ∧ admission.returnReservedBytes bytes =
        (.ok (), { admission with activeBytes := admission.activeBytes - bytes }) := by
  unfold returnReservedBytes
  split_ifs with hpos hle
  · exact .inl ⟨_, rfl⟩
  · exact .inl ⟨_, rfl⟩
  · exact .inr ⟨by omega, by omega, rfl⟩

/-- A reservation is refused, or made outside of every scope, or made in a scope. -/
theorem tryReserve_cases (requestScope : Option ℕ) (requestedBytes : ℤ) :
    ¬ (0 < requestedBytes ∧ requestedBytes ≤ admission.capacityBytes - admission.activeBytes) ∧
        (admission.tryReserve requestScope requestedBytes).2 = admission ∨
      0 < requestedBytes ∧ requestedBytes ≤ admission.capacityBytes - admission.activeBytes ∧
        ((∀ number scope, requestScope = some number → admission.scopes[number]? ≠ some scope) ∧
            (admission.tryReserve requestScope requestedBytes).2 =
              admission.reserve requestedBytes false ∨
          ∃ number scope, requestScope = some number ∧ admission.scopes[number]? = some scope ∧
            (admission.tryReserve requestScope requestedBytes).2 =
              (admission.reserve requestedBytes true).setScope number { scope with
                reservations := scope.reservations ++ [admission.reservations.length] }) := by
  unfold tryReserve
  split_ifs with hpos hle
  · exact .inl ⟨fun h => absurd h.1 (not_lt.2 hpos), rfl⟩
  · exact .inl ⟨fun h => absurd h.2 (not_le.2 hle), rfl⟩
  · refine .inr ⟨by omega, by omega, ?_⟩
    cases requestScope with
    | none => exact .inl ⟨nofun, rfl⟩
    | some number =>
        cases hscope : admission.scopes[number]? with
        | none =>
            refine .inl ⟨?_, by simp [hscope, reserve]⟩
            intro _ scope hnumber h
            obtain rfl := Option.some.inj hnumber
            rw [hscope] at h
            cases h
        | some scope => exact .inr ⟨number, scope, rfl, hscope, by simp [hscope, reserve]⟩

/-- A reservation is not resized, or a live one is made smaller. -/
theorem shrink_cases (number : ℕ) (bytes : ℤ) :
    (admission.shrink number bytes).2 = admission ∨
      ∃ reservation, admission.reservations[number]? = some reservation ∧
        reservation.released = false ∧ 0 < bytes ∧ bytes < reservation.reservedBytes ∧
        (admission.shrink number bytes).2 =
          admission.giveBack number (reservation.reservedBytes - bytes)
            { reservation with reservedBytes := bytes } := by
  unfold shrink
  cases hreservation : admission.reservations[number]? with
  | none => exact .inl rfl
  | some reservation =>
      dsimp only
      split_ifs with hreleased hrange hzero
      · exact .inl rfl
      · exact .inl rfl
      · exact .inl rfl
      · rcases @returnReservedBytes_cases admission
          (reservation.reservedBytes - bytes) with ⟨error, hreturn⟩ | ⟨hpos, hle, hreturn⟩
        · exact .inl (by rw [hreturn])
        · rw [hreturn]
          exact .inr ⟨reservation, rfl, by simpa using hreleased, by omega, by omega, rfl⟩

/-- A release raises, or a live reservation is released. -/
theorem release_cases {number : ℕ} {reservation : InlineResourceReservation}
    (h : admission.reservations[number]? = some reservation) :
    (∃ error, admission.release number = (.error error, admission) ∧
        (reservation.released = true ∨ reservation.reservedBytes ≤ 0 ∨
          admission.activeBytes < reservation.reservedBytes)) ∨
      reservation.released = false ∧ 0 < reservation.reservedBytes ∧ admission.release number =
        (.ok (), admission.giveBack number reservation.reservedBytes
          { reservation with released := true }) := by
  unfold release
  rw [h]
  dsimp only
  split_ifs with hreleased
  · exact .inl ⟨_, rfl, .inl hreleased⟩
  · unfold returnReservedBytes
    split_ifs with hpos hle
    · exact .inl ⟨_, rfl, .inr (.inl hpos)⟩
    · exact .inl ⟨_, rfl, .inr (.inr (by omega))⟩
    · exact .inr ⟨by simpa using hreleased, by omega, rfl⟩

theorem Balanced.reserve {bytes : ℤ} {inScope : Bool} (h : admission.Balanced) (hpos : 0 < bytes)
    (hle : bytes ≤ admission.capacityBytes - admission.activeBytes) :
    (admission.reserve bytes inScope).Balanced where
  active_eq := by
    have hactive := h.active_eq
    simp only [InlineResourceAdmission.reserve, retainedBytes, List.map_append, List.map_cons,
      List.map_nil, List.sum_append, List.sum_cons, List.sum_nil, retained, Bool.false_eq_true,
      if_false, add_zero] at hactive ⊢
    rw [hactive]
  active_le := by
    change admission.activeBytes + bytes ≤ admission.capacityBytes
    omega
  positive := by
    intro reservation hmem
    rcases List.mem_append.1 hmem with hmem | hmem
    · exact h.positive reservation hmem
    · obtain rfl := List.mem_singleton.1 hmem
      exact hpos

/-- Giving back what a reservation retains no longer keeps the balance. -/
theorem Balanced.giveBack {number : ℕ} {bytes : ℤ} {reservation reservation' :
    InlineResourceReservation} (h : admission.Balanced)
    (hreservation : admission.reservations[number]? = some reservation) (hpos : 0 < bytes)
    (hretained : retained reservation' = retained reservation - bytes)
    (hreserved : 0 < reservation'.reservedBytes) :
    (admission.giveBack number bytes reservation').Balanced where
  active_eq := by
    have hset := @retainedBytes_setReservation admission number reservation reservation'
      hreservation
    change admission.activeBytes - bytes =
      (admission.setReservation number reservation').retainedBytes
    rw [hset, hretained, h.active_eq]
    ring
  active_le := by
    have hle := h.active_le
    change admission.activeBytes - bytes ≤ admission.capacityBytes
    omega
  positive := by
    intro other hmem
    rcases List.mem_or_eq_of_mem_set hmem with hmem | rfl
    · exact h.positive other hmem
    · exact hreserved

/-- Only the reservations and the counter matter to the balance. -/
theorem Balanced.setScope {number : ℕ} {scope : InlineResourceRequestScope}
    (h : admission.Balanced) : (admission.setScope number scope).Balanced :=
  ⟨h.active_eq, h.active_le, h.positive⟩

theorem Balanced.release {number : ℕ} (h : admission.Balanced) :
    (admission.release number).2.Balanced := by
  cases hreservation : admission.reservations[number]? with
  | none =>
      unfold InlineResourceAdmission.release
      rw [hreservation]
      exact h
  | some reservation =>
      rcases release_cases hreservation with ⟨error, hrelease, -⟩ | ⟨hlive, hpos, hrelease⟩
      · rw [hrelease]
        exact h
      · rw [hrelease]
        exact h.giveBack hreservation hpos (by simp [retained, hlive]) hpos

/-- In a balanced admission a live reservation is released. -/
theorem Balanced.release_eq {number : ℕ} {reservation : InlineResourceReservation}
    (h : admission.Balanced) (hreservation : admission.reservations[number]? = some reservation)
    (hlive : reservation.released = false) : admission.release number =
      (.ok (), admission.giveBack number reservation.reservedBytes
        { reservation with released := true }) := by
  have hpos := h.positive reservation (List.mem_of_getElem? hreservation)
  have hle := retained_le h.positive hreservation
  rw [← h.active_eq, retained, if_neg (by simp [hlive])] at hle
  rcases release_cases hreservation with ⟨error, -, hwrong⟩ | ⟨-, -, hrelease⟩
  · rcases hwrong with hreleased | hnonpos | hless
    · rw [hlive] at hreleased
      cases hreleased
    · omega
    · omega
  · exact hrelease

/-- What one pass of the loop at the end of a scope does. -/
theorem releaseNext_cases (number : ℕ) :
    (admission.releaseNext number).2 = admission ∨
      ∃ scope, admission.scopes[number]? = some scope ∧
        (scope.phase = .releasing [] ∧
            (admission.releaseNext number).2 =
              admission.setScope number { scope with phase := .left } ∨
          ∃ reservation rest phase, scope.phase = .releasing (reservation :: rest) ∧
            ((∃ error, (admission.release reservation).1 = .error error) ∨
              phase = .releasing rest) ∧
            (admission.releaseNext number).2 = (admission.release reservation).2.setScope number
              { scope with phase := phase }) := by
  unfold releaseNext
  cases hscope : admission.scopes[number]? with
  | none => exact .inl rfl
  | some scope =>
      dsimp only
      split
      · exact .inl rfl
      · exact .inl rfl
      next hphase => exact .inr ⟨scope, rfl, .inl ⟨hphase, rfl⟩⟩
      next reservation rest hphase =>
        refine .inr ⟨scope, rfl, .inr ?_⟩
        split
        next error after hrelease =>
          exact ⟨reservation, rest, .left, hphase, .inl ⟨error, by rw [hrelease]⟩, by rw [hrelease]⟩
        next after hrelease =>
          exact ⟨reservation, rest, .releasing rest, hphase, .inr rfl, by rw [hrelease]⟩

/-- Every step keeps the balance. -/
theorem Balanced.step (h : admission.Balanced) (action : Action) :
    (admission.step action).Balanced := by
  cases action with
  | tryReserve requestScope requestedBytes =>
      change (admission.tryReserve requestScope requestedBytes).2.Balanced
      rcases @tryReserve_cases admission requestScope requestedBytes with
        ⟨-, hsame⟩ | ⟨hpos, hle, ⟨-, hreserve⟩ | ⟨number, scope, -, -, hreserve⟩⟩
      · rw [hsame]
        exact h
      · rw [hreserve]
        exact h.reserve hpos hle
      · rw [hreserve]
        exact (h.reserve hpos hle).setScope
  | shrink number bytes =>
      change (admission.shrink number bytes).2.Balanced
      rcases @shrink_cases admission number bytes with
        hsame | ⟨reservation, hreservation, hlive, hpos, hless, hshrink⟩
      · rw [hsame]
        exact h
      · rw [hshrink]
        exact h.giveBack hreservation (by omega) (by simp [retained, hlive]) hpos
  | releaseUnscoped number =>
      change (admission.releaseUnscoped number).2.Balanced
      unfold releaseUnscoped
      split
      · exact h
      · split_ifs
        · exact h
        · exact h.release
  | enterScope => exact ⟨h.active_eq, h.active_le, h.positive⟩
  | leaveScope number =>
      change (admission.leaveScope number).Balanced
      unfold leaveScope
      split
      · exact h
      · split
        · exact h.setScope
        · exact h
        · exact h
  | releaseNext number =>
      change (admission.releaseNext number).2.Balanced
      rcases @releaseNext_cases admission number with
        hsame | ⟨scope, -, ⟨-, hleft⟩ | ⟨reservation, rest, phase, -, -, hnext⟩⟩
      · rw [hsame]
        exact h
      · rw [hleft]
        exact h.setScope
      · rw [hnext]
        exact h.release.setScope

/-! ## Who releases what -/

/-- What a step does to the held reservations and to those that a scope is going to release: nothing,
or a new one is held and going to be released, or one is released, or, if the step reserves late, a
new one is held only. -/
inductive Effect (late : Prop) (before after : InlineResourceAdmission) : Prop where
  | same (early : ¬ late) (held : ∀ number, after.IsHeld number ↔ before.IsHeld number)
      (pending : after.pending.Perm before.pending)
  | takes (early : ¬ late) (number : ℕ) (fresh : ∀ other, before.IsHeld other → other ≠ number)
      (held : ∀ other, after.IsHeld other ↔ before.IsHeld other ∨ other = number)
      (pending : after.pending.Perm (number :: before.pending))
  | strands (late : late) (number : ℕ) (fresh : ∀ other, before.IsHeld other → other ≠ number)
      (held : ∀ other, after.IsHeld other ↔ before.IsHeld other ∨ other = number)
      (pending : after.pending.Perm before.pending)
  | gives (early : ¬ late) (number : ℕ)
      (held : ∀ other, after.IsHeld other ↔ before.IsHeld other ∧ other ≠ number)
      (pending : before.pending.Perm (number :: after.pending))

theorem Owned.of_effect {late : Prop} {before after : InlineResourceAdmission}
    (h : before.Owned) (heffect : Effect late before after) : after.Owned := by
  cases heffect with
  | same early held pending =>
      exact ⟨pending.nodup_iff.2 h.pending_nodup, fun number hmem =>
        (held number).2 (h.pending_held number (pending.mem_iff.1 hmem))⟩
  | takes early number fresh held pending =>
      have hnew : number ∉ before.pending := fun hmem =>
        fresh number (h.pending_held number hmem) rfl
      refine ⟨pending.nodup_iff.2 (List.nodup_cons.2 ⟨hnew, h.pending_nodup⟩), ?_⟩
      intro other hmem
      rcases List.mem_cons.1 (pending.mem_iff.1 hmem) with rfl | hother
      · exact (held other).2 (.inr rfl)
      · exact (held other).2 (.inl (h.pending_held other hother))
  | strands hlate number fresh held pending =>
      exact ⟨pending.nodup_iff.2 h.pending_nodup, fun other hmem =>
        (held other).2 (.inl (h.pending_held other (pending.mem_iff.1 hmem)))⟩
  | gives early number held pending =>
      obtain ⟨hout, hnodup⟩ := List.nodup_cons.1 (pending.nodup_iff.1 h.pending_nodup)
      refine ⟨hnodup, fun other hmem => (held other).2 ⟨?_, ?_⟩⟩
      · exact h.pending_held other (pending.mem_iff.2 (List.mem_cons_of_mem number hmem))
      · rintro rfl
        exact hout hmem

/-- A stranded reservation stays stranded. -/
theorem Strands.of_effect {late : Prop} {before after : InlineResourceAdmission}
    (h : before.Strands) (heffect : Effect late before after) : after.Strands := by
  obtain ⟨lost, hheld, hlost⟩ := h
  refine ⟨lost, ?_⟩
  cases heffect with
  | same early held pending => exact ⟨(held lost).2 hheld, fun hmem => hlost (pending.mem_iff.1 hmem)⟩
  | takes early number fresh held pending =>
      refine ⟨(held lost).2 (.inl hheld), fun hmem => ?_⟩
      rcases List.mem_cons.1 (pending.mem_iff.1 hmem) with rfl | hbefore
      · exact fresh lost hheld rfl
      · exact hlost hbefore
  | strands hlate number fresh held pending =>
      exact ⟨(held lost).2 (.inl hheld), fun hmem => hlost (pending.mem_iff.1 hmem)⟩
  | gives early number held pending =>
      have hne : lost ≠ number := by
        rintro rfl
        exact hlost (pending.mem_iff.2 List.mem_cons_self)
      exact ⟨(held lost).2 ⟨hheld, hne⟩, fun hmem =>
        hlost (pending.mem_iff.2 (List.mem_cons_of_mem number hmem))⟩

/-- A step strands a reservation, where none is stranded, exactly when it reserves late. -/
theorem strands_iff_of_effect {late : Prop} {before after : InlineResourceAdmission}
    (howned : before.Owned) (h : ¬ before.Strands) (heffect : Effect late before after) :
    after.Strands ↔ late := by
  have hpending : ∀ number, before.IsHeld number → number ∈ before.pending := fun number hheld =>
    not_not.1 fun hout => h ⟨number, hheld, hout⟩
  cases heffect with
  | same early held pending =>
      refine iff_of_false ?_ early
      rintro ⟨lost, hheld, hlost⟩
      exact hlost (pending.mem_iff.2 (hpending lost ((held lost).1 hheld)))
  | takes early number fresh held pending =>
      refine iff_of_false ?_ early
      rintro ⟨lost, hheld, hlost⟩
      rcases (held lost).1 hheld with hbefore | rfl
      · exact hlost (pending.mem_iff.2 (List.mem_cons_of_mem number (hpending lost hbefore)))
      · exact hlost (pending.mem_iff.2 List.mem_cons_self)
  | strands hlate number fresh held pending =>
      refine iff_of_true ⟨number, (held number).2 (.inr rfl), fun hmem => ?_⟩ hlate
      exact fresh number (howned.pending_held number (pending.mem_iff.1 hmem)) rfl
  | gives early number held pending =>
      refine iff_of_false ?_ early
      rintro ⟨lost, hheld, hlost⟩
      obtain ⟨hbefore, hne⟩ := (held lost).1 hheld
      rcases List.mem_cons.1 (pending.mem_iff.1 (hpending lost hbefore)) with rfl | hmem
      · exact hne rfl
      · exact hlost hmem

theorem isHeld_congr {before after : InlineResourceAdmission}
    (h : after.reservations = before.reservations) (number : ℕ) :
    after.IsHeld number ↔ before.IsHeld number := by
  unfold IsHeld
  rw [h]

/-- A new reservation is held if it is made in a scope. -/
theorem isHeld_reserve {bytes : ℤ} {inScope : Bool} (number : ℕ) :
    (admission.reserve bytes inScope).IsHeld number ↔
      admission.IsHeld number ∨ number = admission.reservations.length ∧ inScope = true := by
  unfold IsHeld reserve
  dsimp only
  constructor
  · rintro ⟨reservation, hreservation, hscoped, hlive⟩
    rcases Nat.lt_trichotomy number admission.reservations.length with hlt | heq | hgt
    · rw [List.getElem?_append_left hlt] at hreservation
      exact .inl ⟨reservation, hreservation, hscoped, hlive⟩
    · subst heq
      simp only [List.getElem?_concat_length, Option.some.injEq] at hreservation
      subst hreservation
      exact .inr ⟨rfl, hscoped⟩
    · rw [List.getElem?_eq_none (by simp; omega)] at hreservation
      cases hreservation
  · rintro (⟨reservation, hreservation, hscoped, hlive⟩ | ⟨rfl, hscoped⟩)
    · have hlt := (List.getElem?_eq_some_iff.1 hreservation).1
      exact ⟨reservation, by rw [List.getElem?_append_left hlt]; exact hreservation, hscoped, hlive⟩
    · exact ⟨_, List.getElem?_concat_length, hscoped, rfl⟩

/-- Only the reservation that is given back changes, and it is held as its flags say. -/
theorem isHeld_giveBack {number : ℕ} {bytes : ℤ} {reservation reservation' :
    InlineResourceReservation} (h : admission.reservations[number]? = some reservation)
    (other : ℕ) : (admission.giveBack number bytes reservation').IsHeld other ↔
      admission.IsHeld other ∧ other ≠ number ∨
        other = number ∧ reservation'.requestScoped = true ∧ reservation'.released = false := by
  unfold IsHeld giveBack
  dsimp only
  by_cases hother : other = number
  · subst hother
    simp [List.getElem?_set_self (List.getElem?_eq_some_iff.1 h).1]
  · rw [List.getElem?_set_ne (Ne.symm hother)]
    simp [hother]

theorem pending_setScope_of_perm {number : ℕ} {scope scope' : InlineResourceRequestScope}
    {added : List ℕ} (h : admission.scopes[number]? = some scope)
    (hperm : scope'.pending.Perm (added ++ scope.pending)) :
    (admission.setScope number scope').pending.Perm (added ++ admission.pending) := by
  refine (List.perm_append_left_iff scope.pending).1 ?_
  calc (scope.pending ++ (admission.setScope number scope').pending).Perm
        (scope'.pending ++ admission.pending) := pending_setScope h
    _ |>.Perm ((added ++ scope.pending) ++ admission.pending) := hperm.append_right _
    _ |>.Perm ((scope.pending ++ added) ++ admission.pending) :=
        List.perm_append_comm.append_right _
    _ |>.Perm (scope.pending ++ (added ++ admission.pending)) := by rw [List.append_assoc]

theorem pending_of_setScope_of_perm {number : ℕ} {scope scope' : InlineResourceRequestScope}
    {dropped : List ℕ} (h : admission.scopes[number]? = some scope)
    (hperm : scope.pending.Perm (dropped ++ scope'.pending)) :
    admission.pending.Perm (dropped ++ (admission.setScope number scope').pending) := by
  refine (List.perm_append_left_iff scope'.pending).1 ?_
  calc (scope'.pending ++ admission.pending).Perm
        (scope.pending ++ (admission.setScope number scope').pending) := (pending_setScope h).symm
    _ |>.Perm ((dropped ++ scope'.pending) ++ (admission.setScope number scope').pending) :=
        hperm.append_right _
    _ |>.Perm ((scope'.pending ++ dropped) ++ (admission.setScope number scope').pending) :=
        List.perm_append_comm.append_right _
    _ |>.Perm (scope'.pending ++ (dropped ++ (admission.setScope number scope').pending)) := by
        rw [List.append_assoc]

/-- A step that changes nothing reserves nothing late. -/
theorem Effect.rfl {late : Prop} (early : ¬ late) : Effect late admission admission :=
  .same early (fun _ => Iff.rfl) (.refl _)

/-- A scope in another state that releases the same changes nothing. -/
theorem effect_setScope {late : Prop} {number : ℕ} {scope scope' : InlineResourceRequestScope}
    (early : ¬ late) (h : admission.scopes[number]? = some scope)
    (hperm : scope'.pending.Perm scope.pending) :
    Effect late admission (admission.setScope number scope') :=
  .same early (fun other => isHeld_congr rfl other)
    (@pending_setScope_of_perm admission number scope scope' [] h hperm)

theorem effect_tryReserve (requestScope : Option ℕ) (requestedBytes : ℤ) :
    Effect (admission.ReservesLate (.tryReserve requestScope requestedBytes)) admission
      (admission.tryReserve requestScope requestedBytes).2 := by
  rcases @tryReserve_cases admission requestScope requestedBytes with
    ⟨hrefused, hsame⟩ | ⟨hpos, hle, ⟨hnone, hreserve⟩ | ⟨index, scope, hindex, hscope, hreserve⟩⟩
  · rw [hsame]
    exact .rfl fun ⟨hpos, hle, _⟩ => hrefused ⟨hpos, hle⟩
  · rw [hreserve]
    refine .same ?_ (fun number => ?_) (.refl _)
    · rintro ⟨-, -, number, scope, hnumber, hscope, -⟩
      exact hnone number scope hnumber hscope
    · rw [isHeld_reserve]
      simp
  · rw [hreserve]
    have hfresh : ∀ other, admission.IsHeld other → other ≠ admission.reservations.length :=
      fun other hheld => hheld.lt.ne
    have hheld : ∀ other, ((admission.reserve requestedBytes true).setScope index
        { scope with reservations := scope.reservations ++ [admission.reservations.length]
          }).IsHeld other ↔ admission.IsHeld other ∨ other = admission.reservations.length := by
      intro other
      refine (@isHeld_congr (admission.reserve requestedBytes true) _ rfl other).trans ?_
      rw [isHeld_reserve]
      simp
    by_cases hphase : scope.phase = .entered
    · have hperm := scope.pending_append_entered hphase admission.reservations.length
      refine .takes ?_ admission.reservations.length hfresh hheld
        (@pending_setScope_of_perm (admission.reserve requestedBytes true) index scope _ _ hscope
          hperm)
      rintro ⟨-, -, number, scope', hnumber, hscope', hlate⟩
      obtain rfl := Option.some.inj (hindex.symm.trans hnumber)
      obtain rfl := Option.some.inj (hscope.symm.trans hscope')
      exact hlate hphase
    · have hpending := scope.pending_append_late hphase admission.reservations.length
      refine .strands ⟨hpos, hle, index, scope, hindex, hscope, hphase⟩
        admission.reservations.length hfresh hheld
        (@pending_setScope_of_perm (admission.reserve requestedBytes true) index scope _ [] hscope
          ?_)
      rw [hpending]
      exact .refl _

theorem effect_shrink {late : Prop} (early : ¬ late) (number : ℕ) (bytes : ℤ) :
    Effect late admission (admission.shrink number bytes).2 := by
  rcases @shrink_cases admission number bytes with
    hsame | ⟨reservation, hreservation, hlive, -, -, hshrink⟩
  · rw [hsame]
    exact .rfl early
  · rw [hshrink]
    refine .same early (fun other => ?_) (.refl _)
    rw [isHeld_giveBack hreservation]
    refine ⟨?_, fun hheld => ?_⟩
    · rintro (⟨hheld, -⟩ | ⟨rfl, hscoped, -⟩)
      · exact hheld
      · exact ⟨reservation, hreservation, hscoped, hlive⟩
    · by_cases hother : other = number
      · subst hother
        obtain ⟨reservation', hreservation', hscoped, -⟩ := hheld
        obtain rfl := Option.some.inj (hreservation.symm.trans hreservation')
        exact .inr ⟨rfl, hscoped, hlive⟩
      · exact .inl ⟨hheld, hother⟩

/-- A caller releases what is not request-scoped, so nothing that is held. -/
theorem effect_releaseUnscoped {late : Prop} (early : ¬ late) (number : ℕ) :
    Effect late admission (admission.releaseUnscoped number).2 := by
  unfold releaseUnscoped
  split
  · exact .rfl early
  next reservation hreservation =>
    split_ifs with hscoped
    · exact .rfl early
    · rcases release_cases hreservation with ⟨error, hrelease, -⟩ | ⟨-, -, hrelease⟩
      · rw [hrelease]
        exact .rfl early
      · rw [hrelease]
        refine .same early (fun other => ?_) (.refl _)
        rw [isHeld_giveBack hreservation]
        refine ⟨?_, fun hheld => .inl ⟨hheld, ?_⟩⟩
        · rintro (⟨hheld, -⟩ | ⟨-, -, hreleased⟩)
          · exact hheld
          · cases hreleased
        · rintro rfl
          obtain ⟨reservation', hreservation', hscoped', -⟩ := hheld
          obtain rfl := Option.some.inj (hreservation.symm.trans hreservation')
          exact hscoped hscoped'

theorem effect_leaveScope {late : Prop} (early : ¬ late) (number : ℕ) :
    Effect late admission (admission.leaveScope number) := by
  unfold leaveScope
  split
  · exact .rfl early
  next scope hscope =>
    split
    next hphase =>
      refine effect_setScope early hscope ?_
      simp only [InlineResourceRequestScope.pending, hphase]
      exact List.reverse_perm _
    · exact .rfl early
    · exact .rfl early

/-- A pass of the loop releases what the scope is going to release next. -/
theorem effect_releaseNext {late : Prop} (early : ¬ late) (hbalanced : admission.Balanced)
    (howned : admission.Owned) (number : ℕ) :
    Effect late admission (admission.releaseNext number).2 := by
  rcases @releaseNext_cases admission number with
    hsame | ⟨scope, hscope, ⟨hphase, hleft⟩ | ⟨first, rest, phase, hphase, hresult, hnext⟩⟩
  · rw [hsame]
    exact .rfl early
  · rw [hleft]
    refine effect_setScope early hscope ?_
    simp only [InlineResourceRequestScope.pending, hphase]
    exact .refl _
  · have hmem : first ∈ admission.pending :=
      List.mem_flatMap.2 ⟨scope, List.mem_of_getElem? hscope, by
        simp [InlineResourceRequestScope.pending, hphase]⟩
    obtain ⟨reservation, hreservation, hscoped, hlive⟩ := howned.pending_held first hmem
    have hrelease := hbalanced.release_eq hreservation hlive
    rw [hrelease] at hresult hnext
    rw [hnext]
    obtain rfl : phase = .releasing rest := by
      rcases hresult with ⟨error, herror⟩ | hrest
      · cases herror
      · exact hrest
    have hperm : scope.pending.Perm ([first] ++ InlineResourceRequestScope.pending
        { scope with phase := .releasing rest }) := by
      simp only [InlineResourceRequestScope.pending, hphase]
      exact .refl _
    refine .gives early first (fun other => ?_)
      (@pending_of_setScope_of_perm (admission.giveBack first _ _) number scope _ _ hscope hperm)
    have hgive := @isHeld_giveBack admission first reservation.reservedBytes reservation
      { reservation with released := true } hreservation other
    refine (isHeld_congr (by rfl) other).trans (hgive.trans ?_)
    simp

/-- What each step does to what is held and to what is going to be released. -/
theorem effect_step (hbalanced : admission.Balanced) (howned : admission.Owned) (action : Action) :
    Effect (admission.ReservesLate action) admission (admission.step action) := by
  cases action with
  | tryReserve requestScope requestedBytes => exact effect_tryReserve requestScope requestedBytes
  | shrink number bytes => exact effect_shrink not_false number bytes
  | releaseUnscoped number => exact effect_releaseUnscoped not_false number
  | enterScope =>
      refine .same not_false (fun other => isHeld_congr rfl other) ?_
      simp [pending, step, enterScope, InlineResourceRequestScope.pending]
  | leaveScope number => exact effect_leaveScope not_false number
  | releaseNext number => exact effect_releaseNext not_false hbalanced howned number

/-! ## Runs -/

/-- The counter is balanced and what is going to be released is held, once. -/
def Inv (admission : InlineResourceAdmission) : Prop := admission.Balanced ∧ admission.Owned

theorem Inv.step (h : admission.Inv) (action : Action) : (admission.step action).Inv :=
  ⟨h.1.step action, h.2.of_effect (effect_step h.1 h.2 action)⟩

theorem inv_new {capacityBytes : ℤ} (h : 0 < capacityBytes) : (new capacityBytes h).Inv :=
  ⟨⟨rfl, h.le, nofun⟩, ⟨List.nodup_nil, nofun⟩⟩

theorem not_strands_new {capacityBytes : ℤ} (h : 0 < capacityBytes) :
    ¬ (new capacityBytes h).Strands := by
  rintro ⟨number, ⟨reservation, hreservation, -⟩, -⟩
  cases hreservation

/-- When the admission is idle, no byte is active exactly when nothing is stranded. -/
theorem active_eq_zero_iff (h : admission.Inv) (hidle : admission.Idle) :
    admission.activeBytes = 0 ↔ ¬ admission.Strands := by
  obtain ⟨hbalanced, howned⟩ := h
  have hpending : admission.pending = [] := by
    refine List.flatMap_eq_nil_iff.2 fun scope hscope => ?_
    simp [InlineResourceRequestScope.pending, hidle.1 scope hscope]
  rw [hbalanced.active_eq]
  constructor
  · rintro hzero ⟨number, ⟨reservation, hreservation, -, hlive⟩, -⟩
    have hpos := hbalanced.positive reservation (List.mem_of_getElem? hreservation)
    have hle := retained_le hbalanced.positive hreservation
    rw [hzero, retained, if_neg (by simp [hlive])] at hle
    omega
  · intro hkept
    refine List.sum_eq_zero fun bytes hmem => ?_
    obtain ⟨reservation, hreservation, rfl⟩ := List.mem_map.1 hmem
    obtain ⟨number, hnumber⟩ := List.getElem?_of_mem hreservation
    have hreleased : reservation.released = true := by
      by_contra hlive
      rw [Bool.not_eq_true] at hlive
      by_cases hscoped : reservation.requestScoped = true
      · refine hkept ⟨number, ⟨reservation, hnumber, hscoped, hlive⟩, ?_⟩
        rw [hpending]
        exact List.not_mem_nil
      · have := hidle.2 reservation hreservation (by simpa using hscoped)
        rw [hlive] at this
        cases this
    rw [retained, if_pos hreleased]

/-- **The exact condition of the budget.** Over every interleaving of the steps of any number of
requests, the active bytes are those of the live reservations and within the capacity; and where the
admission is idle they are zero exactly when no step so far has reserved through a scope whose loop
had begun. -/
theorem inline_budget_iff {capacityBytes : ℤ} (h : 0 < capacityBytes) (run : List Action) :
    (run.foldl step (new capacityBytes h)).Budgeted ↔
      ((run.foldl step (new capacityBytes h)).Idle →
        Library.Along (fun admission action => ¬ admission.ReservesLate action) step
          (new capacityBytes h) run) := by
  have hinv : (run.foldl step (new capacityBytes h)).Inv :=
    List.foldlRecOn run step (inv_new h) fun _ hinv action _ => hinv.step action
  have hstrands : ¬ (run.foldl step (new capacityBytes h)).Strands ↔
      Library.Along (fun admission action => ¬ admission.ReservesLate action) step
        (new capacityBytes h) run := by
    refine @Library.foldl_iff_along _ _ _ step Inv Strands (fun _ action hinv => hinv.step action)
      ?_ ?_ _ _ (inv_new h) (not_strands_new h)
    · intro admission action hinv hkept
      rw [not_not]
      exact strands_iff_of_effect hinv.2 hkept (effect_step hinv.1 hinv.2 action)
    · intro admission action hinv hlost
      exact hlost.of_effect (effect_step hinv.1 hinv.2 action)
  constructor
  · intro hbudgeted hidle
    exact hstrands.1 ((active_eq_zero_iff hinv hidle).1 (hbudgeted.idle hidle))
  · intro hnever
    exact ⟨hinv.1.active_eq, hinv.1.active_le, fun hidle =>
      (active_eq_zero_iff hinv hidle).2 (hstrands.2 (hnever hidle))⟩

/-- A reservation made in a request and released with it. -/
theorem inline_budget_iff_request :
    ([.enterScope, .tryReserve (some 0) 3, .shrink 0 2, .leaveScope 0, .releaseNext 0,
      .releaseNext 0].foldl step (new 4 (by decide))).Budgeted :=
  (inline_budget_iff (by decide) _).2 fun _ => by
    simp [ReservesLate, step, enterScope, new, InlineResourceAdmission.tryReserve, setScope]

/-- **A byte that stays reserved.** A task that outlives its request reserves through its scope. -/
theorem inline_budget_iff_late :
    ¬ ∀ (capacityBytes : ℤ) (h : 0 < capacityBytes) (run : List Action),
      (run.foldl step (new capacityBytes h)).Budgeted := by
  intro h
  have hbudgeted := h 4 (by decide)
    [.enterScope, .leaveScope 0, .releaseNext 0, .tryReserve (some 0) 1]
  have hactive := hbudgeted.idle ⟨by decide, by decide⟩
  revert hactive
  decide

end InlineResourceAdmission

end NplgMcp
