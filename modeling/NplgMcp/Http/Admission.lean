import Mathlib.Data.List.Basic
import Mathlib.Data.Nat.Notation

/-!
# Zero-waiter admission

`AdmissionGate` and `PrincipalAdmission` of `admission.py`, and `_try_acquire_admission` of
`http_security.py`, which takes one permit of each. Every method holds its gate's lock throughout
and the callers run on one event loop, so each is one atomic function of the gate.
-/

namespace NplgMcp

/-- What the gates raise. -/
inductive AdmissionError where
  /-- `RuntimeError("admission gate release is unbalanced")`. -/
  | unbalanced
  /-- `ValueError("principal admission identifier is not configured")`. -/
  | notConfigured
  deriving DecidableEq, Repr

/-- `AdmissionGate`: the constructor refuses a capacity that is not positive. -/
structure AdmissionGate where
  capacity : ℕ
  active : ℕ := 0
  capacity_pos : 0 < capacity

namespace AdmissionGate

variable {gate gate' : AdmissionGate}

/-- `try_acquire`. -/
def tryAcquire (gate : AdmissionGate) : Bool × AdmissionGate :=
  if gate.active ≥ gate.capacity then (false, gate)
  else (true, { gate with active := gate.active + 1 })

/-- `release`. -/
def release (gate : AdmissionGate) : Except AdmissionError AdmissionGate :=
  if gate.active = 0 then .error .unbalanced
  else .ok { gate with active := gate.active - 1 }

/-- A refused permit changes nothing. -/
theorem tryAcquire_false (h : gate.tryAcquire = (false, gate')) : gate' = gate := by
  unfold tryAcquire at h
  split at h
  · exact (Prod.mk.inj h).2.symm
  · cases h

/-- A permit that is granted fits, and is counted. -/
theorem tryAcquire_true (h : gate.tryAcquire = (true, gate')) :
    gate.active < gate.capacity ∧ gate' = { gate with active := gate.active + 1 } := by
  unfold tryAcquire at h
  split at h
  · cases h
  · next hroom => exact ⟨Nat.lt_of_not_le hroom, (Prod.mk.inj h).2.symm⟩

/-- Where a permit is held, one can be given back. -/
theorem release_of_pos (h : 0 < gate.active) :
    gate.release = .ok { gate with active := gate.active - 1 } :=
  if_neg (Nat.pos_iff_ne_zero.1 h)

/-- What has just been granted can be given back, and leaves the gate as it was. -/
theorem release_of_tryAcquire (h : gate.tryAcquire = (true, gate')) :
    gate'.release = .ok gate := by
  obtain ⟨-, rfl⟩ := tryAcquire_true h
  exact release_of_pos (Nat.succ_pos _)

end AdmissionGate

/-- `PrincipalAdmission`: one gate for each of the identifiers, of which there is at least one and
no two are equal. A gate under any other name is never looked at. -/
structure PrincipalAdmission where
  principalIds : List String
  gates : String → AdmissionGate
  nonempty : principalIds ≠ []
  nodup : principalIds.Nodup

namespace PrincipalAdmission

variable {admission admission' : PrincipalAdmission} {principalId : String}

/-- `self._gates.get(principal_id)`. -/
def get (admission : PrincipalAdmission) (principalId : String) : Option AdmissionGate :=
  if principalId ∈ admission.principalIds then some (admission.gates principalId) else none

/-- The gates after one of them has changed. -/
def set (admission : PrincipalAdmission) (principalId : String) (gate : AdmissionGate) :
    PrincipalAdmission :=
  { admission with gates := Function.update admission.gates principalId gate }

/-- `PrincipalAdmission.__init__`: every gate is new and has the same capacity. -/
def create (principalIds : List String) (capacity : ℕ) (hpos : 0 < capacity)
    (hnonempty : principalIds ≠ []) (hnodup : principalIds.Nodup) : PrincipalAdmission where
  principalIds := principalIds
  gates := fun _ => { capacity := capacity, capacity_pos := hpos }
  nonempty := hnonempty
  nodup := hnodup

/-- `PrincipalAdmission.try_acquire`. -/
def tryAcquire (admission : PrincipalAdmission) (principalId : String) :
    Except AdmissionError (Bool × PrincipalAdmission) :=
  match admission.get principalId with
  | none => .error .notConfigured
  | some gate => .ok (gate.tryAcquire.1, admission.set principalId gate.tryAcquire.2)

/-- `PrincipalAdmission.release`. -/
def release (admission : PrincipalAdmission) (principalId : String) :
    Except AdmissionError PrincipalAdmission :=
  match admission.get principalId with
  | none => .error .notConfigured
  | some gate => gate.release.map (admission.set principalId)

@[simp] theorem set_principalIds {gate : AdmissionGate} :
    (admission.set principalId gate).principalIds = admission.principalIds := rfl

/-- The gate that is set is the one that is found. -/
@[simp] theorem set_gates_self {gate : AdmissionGate} :
    (admission.set principalId gate).gates principalId = gate := Function.update_self ..

/-- The other gates stay as they are. -/
theorem set_gates_of_ne {gate : AdmissionGate} {other : String} (h : other ≠ principalId) :
    (admission.set principalId gate).gates other = admission.gates other :=
  Function.update_of_ne h ..

/-- Setting a gate to what it is changes nothing. -/
theorem set_self : admission.set principalId (admission.gates principalId) = admission := by
  unfold set
  rw [Function.update_eq_self]

/-- The last gate that is set stands. -/
theorem set_set {gate gate' : AdmissionGate} :
    (admission.set principalId gate).set principalId gate' =
      admission.set principalId gate' := by
  simp only [set, Function.update_idem]

theorem get_of_mem (h : principalId ∈ admission.principalIds) :
    admission.get principalId = some (admission.gates principalId) := if_pos h

end PrincipalAdmission

/-- The two gates of `McpSecurityMiddleware`. -/
structure RequestGates where
  admission : AdmissionGate
  principalAdmission : Option PrincipalAdmission

namespace RequestGates

variable {gates gates' : RequestGates} {principalId : String}

/-- The part of `_try_acquire_admission` for a principal with a gate of its own: that gate comes
first, and its permit is given back if the server is full. -/
def tryAcquirePrincipal (gates : RequestGates) (principalAdmission : PrincipalAdmission)
    (principalId : String) : Except AdmissionError ((Bool × Bool) × RequestGates) := do
  let (taken, principalAdmission) ← principalAdmission.tryAcquire principalId
  if !taken then
    return ((false, false), { gates with principalAdmission := some principalAdmission })
  let (granted, admission) := gates.admission.tryAcquire
  if granted then
    return ((true, true),
      { admission := admission, principalAdmission := some principalAdmission })
  let principalAdmission ← principalAdmission.release principalId
  return ((false, false),
    { admission := admission, principalAdmission := some principalAdmission })

/-- `_try_acquire_admission`: whether a permit was granted, and whether the principal holds one of
its own gate. The anonymous principal has no gate of its own. -/
def tryAcquireAdmission (gates : RequestGates) (principalId : String) :
    Except AdmissionError ((Bool × Bool) × RequestGates) :=
  if principalId = "anonymous" then
    .ok ((gates.admission.tryAcquire.1, false),
      { gates with admission := gates.admission.tryAcquire.2 })
  else
    match gates.principalAdmission with
    | none => .ok ((false, false), gates)
    | some principalAdmission => gates.tryAcquirePrincipal principalAdmission principalId

/-- The `finally` of `_admitted_call`: the global permit first, then the principal's. -/
def releaseAdmission (gates : RequestGates) (principalId : String) (holdsPrincipal : Bool) :
    Except (AdmissionError × RequestGates) RequestGates :=
  match gates.admission.release with
  | .error error => .error (error, gates)
  | .ok admission =>
    match holdsPrincipal, gates.principalAdmission with
    | true, some principalAdmission =>
      match principalAdmission.release principalId with
      | .error error => .error (error, { gates with admission := admission })
      | .ok principalAdmission =>
        .ok { admission := admission, principalAdmission := some principalAdmission }
    | _, _ => .ok { gates with admission := admission }

/-- What the gates may be after a permit has been asked for. -/
inductive Asked (gates : RequestGates) (principalId : String) : (Bool × Bool) × RequestGates → Prop
  /-- A full gate changes neither. -/
  | refused : Asked gates principalId ((false, false), gates)
  /-- The anonymous principal takes a global permit. -/
  | anonymous : principalId = "anonymous" → gates.admission.active < gates.admission.capacity →
      Asked gates principalId ((true, false),
        { gates with
          admission := { gates.admission with active := gates.admission.active + 1 } })
  /-- Any other takes one of each. -/
  | principal {principalAdmission : PrincipalAdmission} : principalId ≠ "anonymous" →
      gates.principalAdmission = some principalAdmission →
      gates.admission.active < gates.admission.capacity →
      (principalAdmission.gates principalId).active <
        (principalAdmission.gates principalId).capacity →
      Asked gates principalId ((true, true),
        { admission := { gates.admission with active := gates.admission.active + 1 }
          principalAdmission := some (principalAdmission.set principalId
            { principalAdmission.gates principalId with
              active := (principalAdmission.gates principalId).active + 1 }) })

/-- A configured principal takes one of each or nothing. -/
theorem tryAcquirePrincipal_asked {principalAdmission : PrincipalAdmission}
    (hname : principalId ≠ "anonymous")
    (hprincipal : gates.principalAdmission = some principalAdmission)
    (hmem : principalId ∈ principalAdmission.principalIds) :
    ∃ asked, gates.tryAcquirePrincipal principalAdmission principalId = .ok asked ∧
      gates.Asked principalId asked := by
  have hself : some (principalAdmission.set principalId (principalAdmission.gates principalId)) =
      gates.principalAdmission := by
    rw [PrincipalAdmission.set_self, hprincipal]
  unfold tryAcquirePrincipal PrincipalAdmission.tryAcquire
  rw [PrincipalAdmission.get_of_mem hmem]
  obtain ⟨⟨taken, own⟩, hown⟩ : ∃ r, (principalAdmission.gates principalId).tryAcquire = r :=
    ⟨_, rfl⟩
  obtain ⟨⟨granted, gate⟩, hgate⟩ : ∃ r, gates.admission.tryAcquire = r := ⟨_, rfl⟩
  simp only [hown, hgate, bind, Except.bind]
  cases taken with
  | false =>
      refine ⟨_, rfl, ?_⟩
      rw [AdmissionGate.tryAcquire_false hown, hself]
      exact .refused
  | true =>
      cases granted with
      | true =>
          obtain ⟨hroom, rfl⟩ := AdmissionGate.tryAcquire_true hgate
          obtain ⟨hroom', rfl⟩ := AdmissionGate.tryAcquire_true hown
          exact ⟨_, rfl, .principal hname hprincipal hroom hroom'⟩
      | false =>
          have hback : (principalAdmission.set principalId own).release principalId =
              .ok principalAdmission := by
            unfold PrincipalAdmission.release
            rw [PrincipalAdmission.get_of_mem (by exact hmem), PrincipalAdmission.set_gates_self]
            simp only [AdmissionGate.release_of_tryAcquire hown, Except.map,
              PrincipalAdmission.set_set, PrincipalAdmission.set_self]
          refine ⟨((false, false), gates), ?_, .refused⟩
          rw [AdmissionGate.tryAcquire_false hgate]
          simp only [Bool.not_true, Bool.false_eq_true, if_false, hback,
            ← hprincipal]
          rfl

/-- **Asking for a permit.** A principal whose gate is configured gets permits or leaves the gates
as they were: a permit of its own gate does not stay behind when the server is full. -/
theorem tryAcquireAdmission_asked
    (h : principalId = "anonymous" ∨
      ∀ principalAdmission ∈ gates.principalAdmission,
        principalId ∈ principalAdmission.principalIds) :
    ∃ asked, gates.tryAcquireAdmission principalId = .ok asked ∧ gates.Asked principalId asked := by
  unfold tryAcquireAdmission
  split_ifs with hanonymous
  · refine ⟨_, rfl, ?_⟩
    obtain ⟨⟨granted, gate⟩, hgate⟩ : ∃ r, gates.admission.tryAcquire = r := ⟨_, rfl⟩
    rw [hgate]
    cases granted with
    | false =>
        rw [AdmissionGate.tryAcquire_false hgate]
        exact .refused
    | true =>
        obtain ⟨hroom, rfl⟩ := AdmissionGate.tryAcquire_true hgate
        exact .anonymous hanonymous hroom
  · cases hprincipal : gates.principalAdmission with
    | none => exact ⟨_, rfl, .refused⟩
    | some principalAdmission =>
        have hmem : principalId ∈ principalAdmission.principalIds :=
          h.resolve_left hanonymous _ hprincipal
        exact tryAcquirePrincipal_asked hanonymous hprincipal hmem

end RequestGates

end NplgMcp
