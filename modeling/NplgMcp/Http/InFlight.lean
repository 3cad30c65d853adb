import Mathlib.Data.List.Count
import NplgMcp.Http.Principals
import NplgMcp.Http.Responses

/-!
# Requests in flight

`__call__` and `_admitted_call` of `McpSecurityMiddleware` with any number of requests at once. All
requests run on one event loop, so what a request does between two awaits is one step; at an await
it may be resumed with a result, an exception, its deadline or a cancellation, in any order among
the requests. `admission_never_leaks` says that the gates count the requests in flight.
-/

namespace NplgMcp

/-- How a request may end other than by returning. -/
inductive CallError where
  /-- An exception of the application, of a `send`, or of the request scope. -/
  | downstream
  /-- `CancelledError`. -/
  | cancelled
  /-- An exception of the gates. -/
  | admission (error : AdmissionError)
  deriving DecidableEq

/-- Where a request is. -/
inductive Phase where
  /-- Awaiting its answer without a permit: the server is not accepting or is full, or no principal
  is known and `_security_call` rejects it. -/
  | answering
  /-- Awaiting `_security_call` with a permit, before its deadline. -/
  | running (principalId : String) (holdsPrincipal : Bool) (flags : ResponseFlags)
  /-- Awaiting a `send` of the `TimeoutError` handler. -/
  | closing (principalId : String) (holdsPrincipal : Bool)
  | finished (raised : Option CallError)
  deriving DecidableEq

/-- The permit of a request that was admitted and is still in flight: its principal, and whether
that principal's own gate is held. -/
def Phase.permit : Phase → Option (String × Bool)
  | .running principalId holdsPrincipal _ => some (principalId, holdsPrincipal)
  | .closing principalId holdsPrincipal => some (principalId, holdsPrincipal)
  | .answering | .finished _ => none

/-- The middleware and its requests, in the order of their arrival. -/
structure HttpServer where
  accepting : Bool := false
  gates : RequestGates
  tasks : List Phase := []

/-- A new middleware. -/
def AppConfig.server (config : AppConfig) : HttpServer where
  gates := config.gates

namespace HttpServer

/-- What may happen. The last five resume the request of that number where it awaits. -/
inductive Action where
  | start
  | shutdown
  | call (headers : List (Bytes × Bytes))
  | sends (task : ℕ) (message : Message)
  /-- The awaited call returns; the request scope may then raise. -/
  | returns (task : ℕ) (scopeRaises : Bool)
  | raises (task : ℕ)
  /-- The deadline, or a `TimeoutError` of the application. -/
  | timesOut (task : ℕ) (scopeRaises : Bool)
  | cancel (task : ℕ)

variable (config : AppConfig)

/-- The server with one more request. -/
def spawn (server : HttpServer) (phase : Phase) : HttpServer :=
  { server with tasks := server.tasks ++ [phase] }

/-- The server with a request in another phase. -/
def setTask (server : HttpServer) (task : ℕ) (phase : Phase) : HttpServer :=
  { server with tasks := server.tasks.set task phase }

/-- `__call__`, up to its first await. -/
def call (server : HttpServer) (headers : List (Bytes × Bytes)) : HttpServer :=
  if !server.accepting then server.spawn .answering
  else
    match authenticatedPrincipal config headers with
    | none => server.spawn .answering
    | some principalId =>
      match server.gates.tryAcquireAdmission principalId with
      | .error error => server.spawn (.finished (some (.admission error)))
      | .ok ((false, _), gates) => { server with gates := gates }.spawn .answering
      | .ok ((true, holdsPrincipal), gates) =>
        { server with gates := gates }.spawn (.running principalId holdsPrincipal {})

/-- The `finally` of `_admitted_call`, which every way out of it takes. What it raises replaces what
was raised before. -/
def leave (server : HttpServer) (task : ℕ) (permit : String × Bool) (raised : Option CallError) :
    HttpServer :=
  match server.gates.releaseAdmission permit.1 permit.2 with
  | .ok gates => { server with gates := gates }.setTask task (.finished raised)
  | .error (error, gates) =>
    { server with gates := gates }.setTask task (.finished (some (.admission error)))

/-- A request ends where it awaits: with its permit if it has one. -/
def finish (server : HttpServer) (task : ℕ) (phase : Phase) (raised : Option CallError) :
    HttpServer :=
  match phase with
  | .answering => server.setTask task (.finished raised)
  | .running principalId holdsPrincipal _ | .closing principalId holdsPrincipal =>
    server.leave task (principalId, holdsPrincipal) raised
  | .finished _ => server

/-- The `TimeoutError` handler: it returns at once where the response is complete, and otherwise
awaits its own messages. -/
def timeOut (server : HttpServer) (task : ℕ) (phase : Phase) (raised : Option CallError) :
    HttpServer :=
  match phase with
  | .running principalId holdsPrincipal flags =>
    if flags.responseStarted && flags.responseComplete then
      server.leave task (principalId, holdsPrincipal) raised
    else server.setTask task (.closing principalId holdsPrincipal)
  -- Outside of the handler's `try` a timeout is an exception like any other.
  | phase => server.finish task phase (some .downstream)

/-- What the request scope leaves. -/
def scopeResult (scopeRaises : Bool) : Option CallError :=
  if scopeRaises then some .downstream else none

/-- One step of the server. A request that is not there does nothing. -/
def step (server : HttpServer) : Action → HttpServer
  | .start => { server with accepting := true }
  | .shutdown => { server with accepting := false }
  | .call headers => server.call config headers
  | .sends task message =>
    match server.tasks[task]? with
    | some (.running principalId holdsPrincipal flags) =>
      server.setTask task (.running principalId holdsPrincipal (flags.track message))
    | _ => server
  | .returns task scopeRaises =>
    (server.tasks[task]?).elim server fun phase =>
      server.finish task phase (scopeResult scopeRaises)
  | .raises task =>
    (server.tasks[task]?).elim server fun phase => server.finish task phase (some .downstream)
  | .timesOut task scopeRaises =>
    (server.tasks[task]?).elim server fun phase =>
      server.timeOut task phase (scopeResult scopeRaises)
  | .cancel task =>
    (server.tasks[task]?).elim server fun phase => server.finish task phase (some .cancelled)

/-! ## What the gates have to count -/

/-- The admitted requests in flight. -/
def inFlight (server : HttpServer) : ℕ := server.tasks.countP fun phase => phase.permit.isSome

/-- The admitted requests of a principal in flight. -/
def inFlightAs (server : HttpServer) (principalId : String) : ℕ :=
  server.tasks.countP fun phase => phase.permit.any (·.1 == principalId)

/-- The gates count the requests in flight, and no request has ended with an exception of theirs. -/
structure Accounted (config : AppConfig) (server : HttpServer) : Prop where
  active : server.gates.admission.active = server.inFlight
  active_le : server.inFlight ≤ config.maxConcurrentMcpRequests
  principals : ∀ principalId ∈ config.principalIds,
    ∃ principalAdmission ∈ server.gates.principalAdmission,
      ∃ gate ∈ principalAdmission.get principalId,
        gate.active = server.inFlightAs principalId ∧
          server.inFlightAs principalId ≤ config.maxConcurrentMcpRequestsPerPrincipal
  balanced : ∀ error, .finished (some (.admission error)) ∉ server.tasks

/-! ## Permits

The gates are related to the list of the permits in flight: taking a permit adds it, and giving one
back removes it.
-/

/-- The permits of the requests in flight. -/
def permits (tasks : List Phase) : List (String × Bool) := tasks.filterMap Phase.permit

end HttpServer

/-- The gates count the permits, and a permit of a principal's own gate is a configured one's. -/
structure RequestGates.Counts (config : AppConfig) (gates : RequestGates)
    (permits : List (String × Bool)) : Prop where
  capacity : gates.admission.capacity = config.maxConcurrentMcpRequests
  active : gates.admission.active = permits.length
  active_le : gates.admission.active ≤ gates.admission.capacity
  configured : ∀ principalAdmission ∈ gates.principalAdmission,
    principalAdmission.principalIds = config.principalIds
  present : config.principalIds ≠ [] → gates.principalAdmission ≠ none
  principals : ∀ principalAdmission ∈ gates.principalAdmission,
    ∀ principalId ∈ config.principalIds,
      (principalAdmission.gates principalId).capacity =
        config.maxConcurrentMcpRequestsPerPrincipal ∧
      (principalAdmission.gates principalId).active = permits.countP (·.1 == principalId) ∧
      (principalAdmission.gates principalId).active ≤
        (principalAdmission.gates principalId).capacity
  holders : ∀ permit ∈ permits,
    if permit.2 then permit.1 ∈ config.principalIds else permit.1 = "anonymous"

namespace RequestGates.Counts

variable {config : AppConfig} {gates gates' : RequestGates} {permits permits' : List (String × Bool)}
  {principalId : String} {holdsPrincipal : Bool}

/-- The order of the permits does not matter. -/
theorem perm (h : gates.Counts config permits) (hperm : permits.Perm permits') :
    gates.Counts config permits' where
  capacity := h.capacity
  active := h.active.trans hperm.length_eq
  active_le := h.active_le
  configured := h.configured
  present := h.present
  principals principalAdmission hsome principalId hmem := by
    rw [← hperm.countP_eq]
    exact h.principals principalAdmission hsome principalId hmem
  holders permit hpermit := h.holders permit (hperm.mem_iff.2 hpermit)

/-- A new middleware has given no permits. -/
theorem new : config.gates.Counts config [] where
  capacity := rfl
  active := rfl
  active_le := Nat.zero_le _
  configured principalAdmission hsome := by
    unfold AppConfig.gates at hsome
    split at hsome
    · cases hsome
    · obtain rfl := Option.some.inj hsome
      rfl
  present hne := by
    unfold AppConfig.gates
    rw [dif_neg hne]
    exact Option.some_ne_none _
  principals principalAdmission hsome principalId _ := by
    unfold AppConfig.gates at hsome
    split at hsome
    · cases hsome
    · obtain rfl := Option.some.inj hsome
      exact ⟨rfl, rfl, Nat.zero_le _⟩
  holders permit hpermit := by cases hpermit

/-- A permit that is granted is counted. -/
theorem acquire (h : gates.Counts config permits)
    (hasked : gates.Asked principalId ((true, holdsPrincipal), gates'))
    (hconfigured : principalId = "anonymous" ∨ principalId ∈ config.principalIds) :
    gates'.Counts config ((principalId, holdsPrincipal) :: permits) := by
  have hactive : gates.admission.active + 1 =
      ((principalId, holdsPrincipal) :: permits).length := by
    rw [h.active, List.length_cons]
  cases hasked with
  | anonymous hanonymous hroom =>
      refine ⟨h.capacity, hactive, hroom, h.configured, h.present, ?_, ?_⟩
      · intro principalAdmission hsome other hother
        have hne : principalId ≠ other := fun heq => AppConfig.anonymous_notMem
          (hanonymous ▸ heq ▸ hother)
        rw [List.countP_cons_of_neg (by simpa using hne)]
        exact h.principals principalAdmission hsome other hother
      · exact List.forall_mem_cons.2 ⟨by simpa using hanonymous, h.holders⟩
  | @principal own hname hsome hroom hown =>
      have hids : own.principalIds = config.principalIds := h.configured own hsome
      refine ⟨h.capacity, hactive, hroom, ?_, fun _ => Option.some_ne_none _, ?_, ?_⟩
      · rintro _ ⟨⟩
        exact hids
      · rintro _ ⟨⟩ other hother
        obtain ⟨hcapacity, hcount, hle⟩ := h.principals own hsome other hother
        rcases eq_or_ne other principalId with rfl | hne
        · rw [PrincipalAdmission.set_gates_self, List.countP_cons_of_pos (by simp)]
          exact ⟨hcapacity, congrArg (· + 1) hcount, hown⟩
        · rw [PrincipalAdmission.set_gates_of_ne hne,
            List.countP_cons_of_neg (by simpa using hne.symm)]
          exact ⟨hcapacity, hcount, hle⟩
      · refine List.forall_mem_cons.2 ⟨?_, h.holders⟩
        rw [if_pos rfl]
        exact hconfigured.resolve_left hname

/-- A permit that is held can be given back. -/
theorem release (h : gates.Counts config ((principalId, holdsPrincipal) :: permits)) :
    ∃ gates', gates.releaseAdmission principalId holdsPrincipal = .ok gates' ∧
      gates'.Counts config permits := by
  obtain ⟨hholder, hholders⟩ := List.forall_mem_cons.1 h.holders
  have hactive : gates.admission.active = permits.length + 1 := h.active
  have hle : gates.admission.active - 1 ≤ gates.admission.capacity :=
    Nat.le_trans (Nat.sub_le _ _) h.active_le
  unfold releaseAdmission
  rw [AdmissionGate.release_of_pos (by omega)]
  cases holdsPrincipal with
  | false =>
      refine ⟨{ gates with
        admission := { gates.admission with active := gates.admission.active - 1 } }, ?_, ?_⟩
      · cases gates.principalAdmission <;> rfl
      · refine ⟨h.capacity, Nat.sub_eq_of_eq_add hactive, hle, h.configured, h.present, ?_, hholders⟩
        intro principalAdmission hsome other hother
        have hanonymous : principalId = "anonymous" := by simpa using hholder
        have hne : principalId ≠ other := fun heq => AppConfig.anonymous_notMem
          (hanonymous ▸ heq ▸ hother)
        rw [← List.countP_cons_of_neg (l := permits) (a := (principalId, false))
          (by simpa using hne)]
        exact h.principals principalAdmission hsome other hother
  | true =>
      have hmem : principalId ∈ config.principalIds := by simpa using hholder
      obtain ⟨own, hsome⟩ := Option.ne_none_iff_exists'.1 (h.present (List.ne_nil_of_mem hmem))
      have hids : own.principalIds = config.principalIds := h.configured own hsome
      obtain ⟨-, hcount, -⟩ := h.principals own hsome principalId hmem
      rw [List.countP_cons_of_pos (by simp)] at hcount
      have hrelease : own.release principalId = .ok (own.set principalId
          { own.gates principalId with active := (own.gates principalId).active - 1 }) := by
        unfold PrincipalAdmission.release
        rw [PrincipalAdmission.get_of_mem (hids ▸ hmem)]
        simp only [AdmissionGate.release_of_pos (show 0 < (own.gates principalId).active by omega),
          Except.map]
      refine ⟨{ admission := { gates.admission with active := gates.admission.active - 1 }
                principalAdmission := some (own.set principalId
                  { own.gates principalId with active := (own.gates principalId).active - 1 }) },
        by simp only [hsome, hrelease], ?_⟩
      refine ⟨h.capacity, Nat.sub_eq_of_eq_add hactive, hle, ?_, fun _ => Option.some_ne_none _, ?_, hholders⟩
      · rintro _ ⟨⟩
        exact hids
      · rintro _ ⟨⟩ other hother
        obtain ⟨hcapacity, hcount', hle'⟩ := h.principals own hsome other hother
        rcases eq_or_ne other principalId with rfl | hne
        · rw [PrincipalAdmission.set_gates_self]
          exact ⟨hcapacity, Nat.sub_eq_of_eq_add hcount, Nat.le_trans (Nat.sub_le _ _) hle'⟩
        · rw [List.countP_cons_of_neg (by simpa using hne.symm)] at hcount'
          rw [PrincipalAdmission.set_gates_of_ne hne]
          exact ⟨hcapacity, hcount', hle'⟩

end RequestGates.Counts

namespace HttpServer

variable {config : AppConfig} {server : HttpServer} {task : ℕ} {phase : Phase}

/-- The gates count the permits of the requests, none of which the gates have failed. -/
structure Invariant (config : AppConfig) (server : HttpServer) : Prop where
  counts : server.gates.Counts config (permits server.tasks)
  balanced : ∀ error, .finished (some (.admission error)) ∉ server.tasks

/-- What a request's phase contributes to the permits. -/
theorem permits_set {tasks : List Phase} (h : tasks[task]? = some phase) :
    ∃ others, (permits tasks).Perm (phase.permit.toList ++ others) ∧
      ∀ phase' : Phase, (permits (tasks.set task phase')).Perm (phase'.permit.toList ++ others) := by
  obtain ⟨hlt, rfl⟩ := List.getElem?_eq_some_iff.1 h
  have hpermits : ∀ (front back : List Phase) (phase : Phase),
      permits (front ++ phase :: back) =
        permits front ++ (phase.permit.toList ++ permits back) := by
    intro front back phase
    unfold permits
    rw [List.filterMap_append, List.filterMap_cons]
    cases phase.permit <;> rfl
  refine ⟨permits (tasks.take task) ++ permits (tasks.drop (task + 1)), ?_, fun phase' => ?_⟩
  · have hsplit : tasks = tasks.take task ++ tasks[task] :: tasks.drop (task + 1) := by
      rw [List.getElem_cons_drop, List.take_append_drop]
    conv_lhs => rw [hsplit, hpermits]
    exact List.perm_append_comm_assoc ..
  · rw [List.set_eq_take_append_cons_drop, if_pos hlt, hpermits]
    exact List.perm_append_comm_assoc ..

/-- A request that is replaced by one that the gates have not failed. -/
theorem balanced_set {tasks : List Phase} {phase' : Phase}
    (h : ∀ error, .finished (some (.admission error)) ∉ tasks)
    (hphase : ∀ error, phase' ≠ .finished (some (.admission error))) :
    ∀ error, .finished (some (.admission error)) ∉ tasks.set task phase' := by
  intro error hmem
  rcases List.mem_or_eq_of_mem_set hmem with hmem | heq
  · exact h error hmem
  · exact hphase error heq.symm

/-- A new request. -/
theorem Invariant.spawn (h : server.gates.Counts config (phase.permit.toList ++ permits server.tasks))
    (hbalanced : ∀ error, .finished (some (.admission error)) ∉ server.tasks)
    (hphase : ∀ error, phase ≠ .finished (some (.admission error))) :
    Invariant config (server.spawn phase) where
  counts := by
    refine h.perm ?_
    change List.Perm _ (permits (server.tasks ++ [phase]))
    have hlast : permits (server.tasks ++ [phase]) = permits server.tasks ++ phase.permit.toList := by
      unfold permits
      rw [List.filterMap_append, List.filterMap_cons]
      cases phase.permit <;> rfl
    rw [hlast]
    exact List.perm_append_comm
  balanced error hmem := by
    rcases List.mem_append.1 hmem with hmem | hmem
    · exact hbalanced error hmem
    · exact hphase error (List.mem_singleton.1 hmem).symm

/-- A request that keeps its permit, or goes on without one. -/
theorem Invariant.setTask (h : Invariant config server) (htask : server.tasks[task]? = some phase)
    {phase' : Phase} (hpermit : phase'.permit = phase.permit)
    (hphase : ∀ error, phase' ≠ .finished (some (.admission error))) :
    Invariant config (server.setTask task phase') where
  counts := by
    obtain ⟨others, hbefore, hafter⟩ := permits_set htask
    have hsame := hafter phase'
    rw [hpermit] at hsame
    exact h.counts.perm (hbefore.trans hsame.symm)
  balanced := balanced_set h.balanced hphase

/-- **Leaving.** A request that has a permit gives it back, however it leaves. -/
theorem Invariant.leave (h : Invariant config server) (htask : server.tasks[task]? = some phase)
    {permit : String × Bool} (hpermit : phase.permit = some permit) {raised : Option CallError}
    (hraised : ∀ error, raised ≠ some (.admission error)) :
    Invariant config (server.leave task permit raised) := by
  obtain ⟨others, hbefore, hafter⟩ := permits_set htask
  rw [hpermit] at hbefore
  obtain ⟨gates, hrelease, hcounts⟩ := (h.counts.perm hbefore).release
  unfold HttpServer.leave
  rw [hrelease]
  refine ⟨hcounts.perm (hafter (.finished raised)).symm, balanced_set h.balanced ?_⟩
  rintro error ⟨⟩
  exact hraised error rfl

/-- A request that ends where it awaits leaves no permit behind. -/
theorem Invariant.finish (h : Invariant config server) (htask : server.tasks[task]? = some phase)
    {raised : Option CallError} (hraised : ∀ error, raised ≠ some (.admission error)) :
    Invariant config (server.finish task phase raised) := by
  cases phase with
  | answering =>
      refine h.setTask htask rfl ?_
      rintro error ⟨⟩
      exact hraised error rfl
  | running => exact h.leave htask rfl hraised
  | closing => exact h.leave htask rfl hraised
  | finished => exact h

/-- A request that times out keeps its permit while the handler awaits, or leaves. -/
theorem Invariant.timeOut (h : Invariant config server) (htask : server.tasks[task]? = some phase)
    {raised : Option CallError} (hraised : ∀ error, raised ≠ some (.admission error)) :
    Invariant config (server.timeOut task phase raised) := by
  cases phase with
  | running principalId holdsPrincipal flags =>
      unfold HttpServer.timeOut
      dsimp only
      split
      · exact h.leave htask rfl hraised
      · exact h.setTask htask rfl (by simp)
  | answering => exact h.finish htask (by simp)
  | closing => exact h.finish htask (by simp)
  | finished => exact h

/-- A request that arrives is counted if it is admitted, and changes no gate if it is refused. -/
theorem Invariant.call (h : Invariant config server) {headers : List (Bytes × Bytes)} :
    Invariant config (server.call config headers) := by
  have hanswering : Invariant config (server.spawn .answering) :=
    .spawn h.counts h.balanced (by simp)
  unfold HttpServer.call
  split_ifs
  · exact hanswering
  · cases hprincipal : authenticatedPrincipal config headers with
    | none => exact hanswering
    | some principalId =>
        have hconfigured := mem_of_authenticatedPrincipal hprincipal
        obtain ⟨⟨⟨granted, holdsPrincipal⟩, gates⟩, hasked, hgates⟩ :=
          @RequestGates.tryAcquireAdmission_asked server.gates _ (hconfigured.imp_right
            fun hmem own hown => h.counts.configured own hown ▸ hmem)
        simp only [hasked]
        cases granted with
        | false =>
            cases hgates
            exact hanswering
        | true =>
            exact .spawn (h.counts.acquire hgates hconfigured) h.balanced (by simp)

/-- What a step leaves of a request that is there. -/
theorem Invariant.elim (h : Invariant config server) {resume : Phase → HttpServer}
    (hresume : ∀ phase, server.tasks[task]? = some phase → Invariant config (resume phase)) :
    Invariant config ((server.tasks[task]?).elim server resume) := by
  cases htask : server.tasks[task]? with
  | none => exact h
  | some phase => exact hresume phase htask

/-- **One step.** -/
theorem Invariant.step (h : Invariant config server) (action : Action) :
    Invariant config (server.step config action) := by
  have hscope : ∀ (scopeRaises : Bool) error,
      scopeResult scopeRaises ≠ some (.admission error) := by
    intro scopeRaises error
    cases scopeRaises <;> simp [scopeResult]
  cases action with
  | start => exact ⟨h.counts, h.balanced⟩
  | shutdown => exact ⟨h.counts, h.balanced⟩
  | call headers => exact h.call
  | sends task message =>
      unfold HttpServer.step
      dsimp only
      split
      · next htask => exact h.setTask htask rfl (by simp)
      · exact h
  | returns task scopeRaises => exact h.elim fun _ htask => h.finish htask (hscope scopeRaises)
  | raises task => exact h.elim fun _ htask => h.finish htask (by simp)
  | timesOut task scopeRaises => exact h.elim fun _ htask => h.timeOut htask (hscope scopeRaises)
  | cancel task => exact h.elim fun _ htask => h.finish htask (by simp)

/-- Every run keeps the invariant. -/
theorem invariant_run {run : List Action} :
    Invariant config (run.foldl (step config) config.server) := by
  have hnew : Invariant config config.server := ⟨.new, by intro error hmem; cases hmem⟩
  exact List.foldlRecOn run _ hnew fun _ h action _ => h.step action

/-- What the gates count is what is in flight. -/
theorem Invariant.accounted (h : Invariant config server) : Accounted config server := by
  have hflight : (permits server.tasks).length = server.inFlight :=
    List.length_filterMap_eq_countP
  have hflightAs : ∀ principalId, (permits server.tasks).countP (·.1 == principalId) =
      server.inFlightAs principalId := by
    intro principalId
    unfold permits inFlightAs
    rw [List.countP_filterMap]
    refine List.countP_congr fun phase _ => ?_
    cases phase.permit <;> simp
  refine ⟨h.counts.active.trans hflight, ?_, fun principalId hmem => ?_, h.balanced⟩
  · rw [← hflight, ← h.counts.active, ← h.counts.capacity]
    exact h.counts.active_le
  · obtain ⟨own, hown⟩ := Option.ne_none_iff_exists'.1 (h.counts.present (List.ne_nil_of_mem hmem))
    obtain ⟨hcapacity, hcount, hle⟩ := h.counts.principals own hown principalId hmem
    rw [hcapacity, hcount, hflightAs] at hle
    refine ⟨own, hown, own.gates principalId, ?_, hcount.trans (hflightAs principalId), hle⟩
    exact PrincipalAdmission.get_of_mem (h.counts.configured own hown ▸ hmem)

end HttpServer

/-- A refusal leaves both gates as they were. -/
theorem RequestGates.tryAcquireAdmission_refused {gates gates' : RequestGates}
    {principalId : String} {holdsPrincipal : Bool}
    (h : gates.tryAcquireAdmission principalId = .ok ((false, holdsPrincipal), gates')) :
    gates' = gates := by
  have hasked : principalId = "anonymous" ∨ ∀ principalAdmission ∈ gates.principalAdmission,
      principalId ∈ principalAdmission.principalIds := by
    by_contra hno
    obtain ⟨hname, hno⟩ := not_or.1 hno
    push Not at hno
    obtain ⟨own, hown, hmem⟩ := hno
    unfold RequestGates.tryAcquireAdmission at h
    rw [if_neg hname, Option.mem_def.1 hown] at h
    have hget : own.get principalId = none := if_neg hmem
    simp only [RequestGates.tryAcquirePrincipal, PrincipalAdmission.tryAcquire, hget, bind,
      Except.bind] at h
    cases h
  obtain ⟨asked, heq, hgates⟩ := RequestGates.tryAcquireAdmission_asked hasked
  obtain rfl := Except.ok.inj (h.symm.trans heq)
  cases hgates
  rfl

/-- **Admission does not leak.** After any run of the server, with any number of requests that
arrive, return, raise, time out or are cancelled in any order, the gates count the admitted requests
in flight and keep to their capacities, no release has been unbalanced, and a request that is refused
would leave them as they are. -/
theorem HttpServer.admission_never_leaks {config : AppConfig} {run : List HttpServer.Action} :
    HttpServer.Accounted config (run.foldl (HttpServer.step config) config.server) ∧
      ∀ principalId holdsPrincipal gates,
        (run.foldl (HttpServer.step config) config.server).gates.tryAcquireAdmission principalId =
          .ok ((false, holdsPrincipal), gates) →
        gates = (run.foldl (HttpServer.step config) config.server).gates :=
  ⟨HttpServer.invariant_run.accounted, fun _ _ _ => RequestGates.tryAcquireAdmission_refused⟩

end NplgMcp
