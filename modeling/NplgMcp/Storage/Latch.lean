import NplgMcp.Storage.Registry

/-!
# The admission latch

`_close_admission` keeps the first blocker it is given, `begin_publication_reservation` refuses
everything while there is one, and a satisfied prune clears it. `LatchStep` says what any step of the
store does to the latch and to the alerts; from it follow what holds of every history: nothing is
admitted between a closing and the next satisfied prune, and every closing is one alert.
-/

open Library

namespace NplgMcp

namespace Store

variable {env : Encoding} {s s' : Store} {action : Action} {token : Token}

/-! ## The events of a history -/

/-- A begin or a commit that is denied, or a prune that returns unsatisfied. -/
def Denies (s : Store) : Action → Prop
  | .beginPublication token sample =>
    ∃ blocker, (s.beginPublication token sample).1 = .error (.publicationRejected blocker)
  | .commitPublication token actual sample =>
    ∃ blocker, (s.commitPublication token actual sample).1 = .error (.publicationRejected blocker)
  | .prune policy sample =>
    ∃ report, (s.prune policy sample).1 = .ok report ∧ report.blockers ≠ []
  | _ => False

/-- A prune that returns satisfied. -/
def Reopens (s : Store) : Action → Prop
  | .prune policy sample =>
    ∃ report, (s.prune policy sample).1 = .ok report ∧ report.blockers = []
  | _ => False

/-- A prune whose report breaks a bound of its schema. -/
def RejectsReport (s : Store) : Action → Prop
  | .prune policy sample => (s.prune policy sample).1 = .error .invalidReport
  | _ => False

/-- The blocker that an open admission is closed with by the action. -/
def ClosesWith (s : Store) (blocker : PublicationBlocker) : Action → Prop
  | .beginPublication token sample =>
    (s.beginPublication token sample).1 = .error (.publicationRejected blocker)
  | .commitPublication token actual sample =>
    (s.commitPublication token actual sample).1 = .error (.publicationRejected blocker)
  | .prune policy sample =>
    ∃ report, (s.prune policy sample).1 = .ok report ∧ blocker = latchedBlocker report.blockers
  | _ => False

/-- The admission is open before the action and closed after it. -/
def Closes (env : Encoding) (s : Store) (action : Action) : Prop :=
  s.admissionClosedBlocker = none ∧ (s.step env action).admissionClosedBlocker ≠ none

instance (env : Encoding) (s : Store) (action : Action) : Decidable (s.Closes env action) :=
  inferInstanceAs (Decidable (_ ∧ _))

/-- The root and the capacity can be looked at, and the reservation has not been entered before. -/
def CanEnter (s : Store) (token : Token) (sample : PublicationSample) : Prop :=
  s.retentionPolicy.isSome ∧ sample.capacity.isSome ∧
    ∃ reservation, s.reservations.lookup token = some reservation ∧
      reservation.active = false ∧ reservation.closed = false

/-- The counters and the set of the active reservations. -/
def activeReservations (s : Store) : Finset Token × ℤ × ℤ × ℤ :=
  (s.publicationReservations, s.publicationReservedBytes, s.publicationReservedObjects,
    s.publicationReservedInodes)

/-! ## What a step does to the latch -/

/-- What an action can do to the latch and to the alerts: leave both, close an open latch with one
alert, or open it, which only a satisfied prune does. -/
inductive LatchStep (s : Store) (action : Action) (s' : Store) : Prop where
  | same (blocker : s'.admissionClosedBlocker = s.admissionClosedBlocker)
      (alerts : s'.alerts = s.alerts)
  | closes (blocker : PublicationBlocker) (alert : LifecycleAlert)
      (opened : s.admissionClosedBlocker = none)
      (closed : s'.admissionClosedBlocker = some blocker) (alerts : s'.alerts = s.alerts ++ [alert])
  | reopens (prunes : s.Reopens action ∨ s.RejectsReport action)
      (opened : s'.admissionClosedBlocker = none) (alerts : s'.alerts = s.alerts)

theorem LatchStep.of_authority (h : s'.authority = s.authority) : LatchStep s action s' := by
  have hblocker := congrArg Store.admissionClosedBlocker h
  have halerts := congrArg Store.alerts h
  exact .same hblocker halerts

theorem LatchStep.of_core (h : s'.core = s.core) : LatchStep s action s' :=
  .of_authority (authority_of_core h)

theorem LatchStep.publicationDenial {blocker : PublicationBlocker} :
    LatchStep s action (s.publicationDenial blocker).2 := by
  unfold Store.publicationDenial
  split
  · exact .same rfl rfl
  · rename_i hopened
    exact .closes blocker _ hopened rfl rfl

theorem LatchStep.transactionStep {f : DeleteFaults} (h : TransactionStep s token f s') :
    LatchStep s action s' := by
  rcases h with rfl | ⟨transaction, -, -, middle, hmiddle, hs⟩
  · exact .same rfl rfl
  · have hdeleted : middle.authority = s.authority := by
      rcases hmiddle with rfl | rfl
      · rfl
      · exact authority_deleteRenderSubtreeLocked
    have hblocker := congrArg Store.admissionClosedBlocker hdeleted
    have halerts := congrArg Store.alerts hdeleted
    rcases hs with rfl | ⟨complete, status, -, rfl⟩ <;> exact .same hblocker halerts

theorem LatchStep.beginPublication {sample : PublicationSample} :
    LatchStep s action (s.beginPublication token sample).2 := by
  rcases @beginPublication_cases s token sample with
    ⟨error, heq⟩ | ⟨blocker, heq⟩ | ⟨policy, reservation, objects, capacity, hadmits, heq⟩ <;>
    rw [heq]
  · exact .same rfl rfl
  · exact .publicationDenial
  · exact .same rfl rfl

theorem LatchStep.commitPublication {actual : ActualPublication} {sample : PublicationSample} :
    LatchStep s action (s.commitPublication token actual sample).2 := by
  rcases @commitPublication_cases s token actual sample with
    ⟨error, -, heq⟩ | ⟨-, heq⟩ |
    ⟨policy, reservation, objects, capacity, hreaches, ⟨blocker, -, heq⟩ | ⟨-, heq⟩⟩ <;> rw [heq]
  · exact .same rfl rfl
  · exact .publicationDenial
  · exact .publicationDenial
  · exact .same rfl rfl

theorem LatchStep.abortPublication : LatchStep s action (s.abortPublication token).2 := by
  rcases @abortPublication_cases s token with ⟨error, heq⟩ | ⟨reservation, -, -, -, heq⟩ <;> rw [heq]
  · exact .same rfl rfl
  · exact .same rfl rfl

/-- How far a prune comes: it raises and leaves the latch alone, or it sets the latch by the blockers
of its report. -/
theorem prune_result {policy : RetentionPolicy} {sample : PruneSample} :
    ((∃ error, (s.prune policy sample).1 = .error error) ∧
        (s.prune policy sample).2.authority = s.authority) ∨
      ∃ (report : PruneReport) (middle : Store), middle.authority = s.authority ∧
        s.prune policy sample =
          (if report.IsValid then .ok report else .error .invalidReport,
            middle.latchPrune report.blockers) := by
  unfold prune
  split
  · exact .inl ⟨⟨_, rfl⟩, rfl⟩
  · split
    · exact .inl ⟨⟨_, rfl⟩, rfl⟩
    · exact .inl ⟨⟨_, rfl⟩, rfl⟩
    · rename_i capacity objects _ _
      dsimp only
      have hpruned := authority_of_withoutDisk (@withoutDisk_pruneUnleased s policy capacity
        (sample.nowNs - policy.maximumAgeSeconds * 1000000000)
        (sample.trusted && !objects.any (·.modifiedNs > sample.nowNs)) sample
        (objects.insertionSort storedObjectOrder) objects (0, 0))
      split <;> rename_i heq <;> rw [heq] at hpruned
      · exact .inl ⟨⟨_, rfl⟩, hpruned⟩
      · split
        · exact .inl ⟨⟨_, rfl⟩, hpruned⟩
        · split
          · exact .inl ⟨⟨_, rfl⟩, hpruned⟩
          · unfold finishPrune
            split
            · exact .inl ⟨⟨_, rfl⟩, hpruned⟩
            · split
              · exact .inl ⟨⟨_, rfl⟩, hpruned⟩
              · refine .inr ⟨_, Store.rescan (Store.rescan _), ?_, rfl⟩
                exact hpruned

theorem LatchStep.prune {policy : RetentionPolicy} {sample : PruneSample} :
    LatchStep s (.prune policy sample) (s.prune policy sample).2 := by
  rcases @prune_result s policy sample with ⟨-, hsame⟩ | ⟨report, middle, hmiddle, heq⟩
  · exact .of_authority hsame
  · have hblocker : middle.admissionClosedBlocker = s.admissionClosedBlocker := by
      have hfields := congrArg Store.admissionClosedBlocker hmiddle
      exact hfields
    have halerts : middle.alerts = s.alerts := by
      have hfields := congrArg Store.alerts hmiddle
      exact hfields
    have hresult := congrArg Prod.fst heq
    rw [heq]
    change LatchStep s _ (middle.latchPrune report.blockers)
    unfold latchPrune
    split_ifs with hnone
    · refine .reopens ?_ rfl halerts
      by_cases hvalid : report.IsValid
      · exact .inl ⟨report, hresult.trans (if_pos hvalid), hnone⟩
      · exact .inr (hresult.trans (if_neg hvalid))
    · cases hclosed : middle.admissionClosedBlocker with
      | none =>
          refine .closes _ (.pruneUnsatisfied report.blockers) (hblocker.symm.trans hclosed) rfl ?_
          rw [← halerts]
      | some blocker => exact .same hblocker halerts

/-- What a step does to the latch. -/
theorem latchStep_step : LatchStep s action (s.step env action) := by
  cases action with
  | stage transaction caller root opened =>
      obtain ⟨next, -, hcore⟩ := @core_stage s transaction caller root opened
      have hblocker := congrArg Store.admissionClosedBlocker hcore
      have halerts := congrArg Store.alerts hcore
      exact .same hblocker halerts
  | startWrite => exact .of_core core_startWrite
  | finishWrite => exact .of_core core_finishWrite
  | discard => exact .of_core core_discard
  | prepareFileCommit => exact .of_authority authority_prepareFileCommit
  | publishFile => exact .of_authority authority_publishFile
  | commitRender => exact .of_authority authority_commitRender
  | replaceRender => exact .of_authority authority_replaceRender
  | deleteRenderSubtree path f =>
      simp only [Store.step, perform, discardValue_snd, Store.deleteRenderSubtree]
      split
      · exact .same rfl rfl
      · exact .of_authority authority_deleteRenderSubtreeLocked
  | registerRenderTransaction caller subtree completionFile root =>
      simp only [Store.step, perform, discardValue_snd, Store.registerRenderTransaction]
      split_ifs <;> exact .same rfl rfl
  | recoverRenderTransaction => exact .transactionStep transactionStep_recover
  | commitRenderTransaction => exact .transactionStep transactionStep_commit
  | rollbackRenderTransaction => exact .transactionStep transactionStep_rollback
  | resetRenderTransaction => exact .transactionStep transactionStep_reset
  | releaseRenderTransaction token =>
      simp only [Store.step, perform, Store.releaseRenderTransaction]
      split
      · exact .same rfl rfl
      · split
        · exact .same rfl rfl
        · split <;> exact .same rfl rfl
  | acquireAssetLease path resolved =>
      simp only [Store.step, perform, discardValue_snd, Store.acquireAssetLease]
      split_ifs <;> exact .same rfl rfl
  | releaseAssetLease lease =>
      simp only [Store.step, perform, Store.releaseAssetLease]
      split
      · exact .same rfl rfl
      · split <;> exact .same rfl rfl
  | reservePublication policy bytes objects inodes =>
      simp only [Store.step, perform, discardValue_snd, Store.reservePublication]
      split_ifs <;> exact .same rfl rfl
  | beginPublication => exact .beginPublication
  | commitPublication => exact .commitPublication
  | abortPublication => exact .abortPublication
  | exitPublication token =>
      simp only [Store.step, perform, Store.exitPublication]
      split
      · exact .same rfl rfl
      · exact .abortPublication
  | prune => exact .prune

/-! ## A closed admission -/

/-- A closed admission refuses every begin, with its blocker if the reservation can be entered. -/
theorem beginPublication_of_closed {sample : PublicationSample} {blocker : PublicationBlocker}
    (h : s.admissionClosedBlocker = some blocker) :
    ∃ error, s.beginPublication token sample = (.error error, s) ∧
      (s.CanEnter token sample → error = .publicationRejected blocker) := by
  unfold beginPublication
  split
  · split
    · rename_i policy reservation capacity hpolicy hreservation hcapacity hentered
      refine ⟨_, rfl, ?_⟩
      rintro ⟨-, -, reservation', hreservation', hactive, hclosed⟩
      obtain rfl := Option.some.inj (hreservation.symm.trans hreservation')
      simp [hactive, hclosed] at hentered
    · rw [h]
      exact ⟨_, rfl, fun _ => rfl⟩
  · rename_i hraises
    refine ⟨_, rfl, ?_⟩
    rintro ⟨hpolicy, hcapacity, reservation, hreservation, -, -⟩
    obtain ⟨policy, hpolicy⟩ := Option.isSome_iff_exists.1 hpolicy
    obtain ⟨capacity, hcapacity⟩ := Option.isSome_iff_exists.1 hcapacity
    exact absurd hcapacity (hraises policy reservation capacity hpolicy hreservation)

/-- A begin that is refused changes no counter and no active reservation. -/
theorem activeReservations_of_refused {sample : PublicationSample} {error : StoreError}
    (h : (s.beginPublication token sample).1 = .error error) :
    (s.beginPublication token sample).2.activeReservations = s.activeReservations := by
  rcases @beginPublication_cases s token sample with
    ⟨error', heq⟩ | ⟨blocker, heq⟩ | ⟨policy, reservation, objects, capacity, -, heq⟩
  · rw [heq]
  · rw [heq]
    unfold publicationDenial
    split <;> rfl
  · rw [heq] at h
    cases h

/-- What holds as long as the admission stays closed: its blocker, no further alert, and no active
reservation that was not active when it was closed. -/
structure StaysClosed (closed : Store) (blocker : PublicationBlocker) (s : Store) : Prop where
  latched : s.admissionClosedBlocker = some blocker
  alerts : s.alerts = closed.alerts
  active : s.publicationReservations ⊆ closed.publicationReservations

theorem StaysClosed.step {closed : Store} {blocker : PublicationBlocker}
    (h : StaysClosed closed blocker s) (hshut : ¬ s.Reopens action ∧ ¬ s.RejectsReport action) :
    StaysClosed closed blocker (s.step env action) := by
  have hactive : (s.step env action).publicationReservations ⊆ s.publicationReservations := by
    cases @publicationStep_step env s action with
    | keep same =>
        have hset : _ = s.publicationReservations := congrArg (·.2.1) same
        exact hset.subset
    | reserve reservation fresh same =>
        have hset : _ = s.publicationReservations := congrArg (·.2.1) same
        exact hset.subset
    | activate token sample policy reservation objects capacity begins admits =>
        have hopened := admits.opened
        rw [h.latched] at hopened
        cases hopened
    | release token reservation reserved opened active eq =>
        rw [eq]
        exact Finset.erase_subset token s.publicationReservations
  cases @latchStep_step env s action with
  | same hblocker halerts =>
      exact ⟨hblocker.trans h.latched, halerts.trans h.alerts, hactive.trans h.active⟩
  | closes blocker' alert hopened =>
      rw [h.latched] at hopened
      cases hopened
  | reopens hprunes =>
      rcases hprunes with hreopens | hrejects
      · exact absurd hreopens hshut.1
      · exact absurd hrejects hshut.2

/-- A denial closes an open admission with the blocker it raises. -/
theorem publicationDenial_of_open {blocker : PublicationBlocker}
    (h : s.admissionClosedBlocker = none) :
    (s.publicationDenial blocker).1 = .error (.publicationRejected blocker) ∧
      (s.publicationDenial blocker).2.admissionClosedBlocker = some blocker := by
  unfold publicationDenial
  rw [h]
  exact ⟨rfl, rfl⟩

/-- An open admission refuses a begin as it is, denies it, or admits it. -/
theorem beginPublication_of_open {sample : PublicationSample}
    (h : s.admissionClosedBlocker = none) :
    (∃ error, (∀ blocker, error ≠ .publicationRejected blocker) ∧
        s.beginPublication token sample = (.error error, s)) ∨
      (∃ blocker, s.beginPublication token sample = s.publicationDenial blocker) ∨
      (s.beginPublication token sample).1 = .ok () := by
  unfold beginPublication
  split
  · split
    · exact .inl ⟨.reservationEntered, nofun, rfl⟩
    · rw [h]
      dsimp only
      split
      · exact .inr (.inl ⟨_, rfl⟩)
      · split
        · rename_i error hlisted
          exact .inl ⟨error, ne_publicationRejected_of_storedObjects hlisted, rfl⟩
        · split
          · exact .inr (.inl ⟨_, rfl⟩)
          · exact .inr (.inr rfl)
  · exact .inl ⟨.os, nofun, rfl⟩

/-- A denial is no reopening. -/
theorem Denies.not_reopens (h : s.Denies action) : ¬ s.Reopens action ∧ ¬ s.RejectsReport action := by
  cases action with
  | prune policy sample =>
      obtain ⟨report, hresult, hblockers⟩ := h
      constructor
      · rintro ⟨report', hresult', hnone⟩
        obtain rfl := Except.ok.inj (hresult.symm.trans hresult')
        exact hblockers hnone
      · intro hrejected
        cases hresult.symm.trans hrejected
  | _ => exact ⟨id, id⟩

/-- A denial finds the admission closed, or closes it. -/
theorem Denies.closed (h : s.Denies action) : ∃ blocker,
    (s.step env action).admissionClosedBlocker = some blocker ∧
      (s.admissionClosedBlocker = some blocker ∨
        s.admissionClosedBlocker = none ∧ s.ClosesWith blocker action) := by
  cases hlatch : s.admissionClosedBlocker with
  | some blocker =>
      have hstays : StaysClosed s blocker s := ⟨hlatch, rfl, Finset.Subset.refl _⟩
      exact ⟨blocker, (@StaysClosed.step env s action s blocker hstays h.not_reopens).latched,
        .inl rfl⟩
  | none =>
      cases action with
      | beginPublication token sample =>
          obtain ⟨blocker, hresult⟩ := h
          refine ⟨blocker, ?_, .inr ⟨rfl, hresult⟩⟩
          change (s.beginPublication token sample).2.admissionClosedBlocker = some blocker
          rcases @beginPublication_of_open s token sample hlatch with
            ⟨error, hother, heq⟩ | ⟨blocker', heq⟩ | hok
          · rw [heq] at hresult
            exact absurd (Except.error.inj hresult) (hother blocker)
          · have hdenial := @publicationDenial_of_open s blocker' hlatch
            rw [heq, hdenial.1] at hresult
            cases hresult
            rw [heq, hdenial.2]
          · cases hok.symm.trans hresult
      | commitPublication token actual sample =>
          obtain ⟨blocker, hresult⟩ := h
          refine ⟨blocker, ?_, .inr ⟨rfl, hresult⟩⟩
          change (s.commitPublication token actual sample).2.admissionClosedBlocker = some blocker
          have hdenied : ∀ blocker', s.commitPublication token actual sample =
              s.publicationDenial blocker' →
              (s.commitPublication token actual sample).2.admissionClosedBlocker = some blocker := by
            intro blocker' heq
            have hdenial := @publicationDenial_of_open s blocker' hlatch
            rw [heq, hdenial.1] at hresult
            cases hresult
            rw [heq, hdenial.2]
          rcases @commitPublication_cases s token actual sample with
            ⟨error, hother, heq⟩ | ⟨-, heq⟩ |
            ⟨policy, reservation, objects, capacity, -, ⟨blocker', -, heq⟩ | ⟨-, heq⟩⟩
          · rw [heq] at hresult
            exact absurd (Except.error.inj hresult) (hother blocker)
          · exact hdenied _ heq
          · exact hdenied _ heq
          · rw [heq] at hresult
            cases hresult
      | prune policy sample =>
          obtain ⟨report, hresult, hblockers⟩ := h
          refine ⟨latchedBlocker report.blockers, ?_, .inr ⟨rfl, report, hresult, rfl⟩⟩
          change (s.prune policy sample).2.admissionClosedBlocker = _
          rcases @prune_result s policy sample with
            ⟨⟨error, herror⟩, -⟩ | ⟨report', middle, hmiddle, heq⟩
          · cases hresult.symm.trans herror
          · have hopened : middle.admissionClosedBlocker = none := by
              have hfields := congrArg Store.admissionClosedBlocker hmiddle
              exact hfields.trans hlatch
            rw [heq] at hresult
            dsimp only at hresult
            split_ifs at hresult
            cases hresult
            rw [heq]
            simp only [latchPrune, hblockers, if_false, hopened]
      | _ => exact h.elim

/-! ## Histories -/

/-- Every closing is one alert, and there are no others. -/
theorem length_alerts_step :
    (s.step env action).alerts.length =
      s.alerts.length + if s.Closes env action then 1 else 0 := by
  cases @latchStep_step env s action with
  | same hblocker halerts =>
      have hnot : ¬ s.Closes env action := fun h => h.2 (hblocker.trans h.1)
      rw [halerts, if_neg hnot, add_zero]
  | closes blocker alert hopened hclosed halerts =>
      have hcloses : s.Closes env action := ⟨hopened, by rw [hclosed]; exact nofun⟩
      rw [halerts, if_pos hcloses, List.length_append]
      rfl
  | reopens hprunes hopened halerts =>
      have hnot : ¬ s.Closes env action := fun h => h.2 hopened
      rw [halerts, if_neg hnot, add_zero]

theorem length_alerts_run {run : List Action} :
    (run.foldl (step env) s).alerts.length =
      s.alerts.length + countAlong (Closes env) (step env) s run := by
  induction run generalizing s with
  | nil => rfl
  | cons action rest ih =>
      rw [List.foldl_cons, ih, length_alerts_step, countAlong, add_assoc]

/-- **The admission latch.** From a denied begin or commit or an unsatisfied prune on, as long as no
prune returns satisfied and none has a report that breaks its schema, the admission keeps one
blocker, the one it was closed with; nothing becomes active; no alert is produced; and every begin
fails and changes no counter, with that blocker if the reservation can be entered. Over any run there
are as many new alerts as closings. -/
theorem admission_latch {closing : Action} {between : List Action} (hdenied : s.Denies closing)
    (hshut : Along (fun s action => ¬ s.Reopens action ∧ ¬ s.RejectsReport action) (step env)
      (s.step env closing) between) :
    (∃ blocker, (s.admissionClosedBlocker = some blocker ∨
        s.admissionClosedBlocker = none ∧ s.ClosesWith blocker closing) ∧
      StaysClosed (s.step env closing) blocker (between.foldl (step env) (s.step env closing)) ∧
      ∀ token sample, ∃ error,
        (between.foldl (step env) (s.step env closing)).beginPublication token sample =
          (.error error, between.foldl (step env) (s.step env closing)) ∧
        ((between.foldl (step env) (s.step env closing)).CanEnter token sample →
          error = .publicationRejected blocker)) ∧
    (∀ run : List Action, (run.foldl (step env) s).alerts.length =
      s.alerts.length + countAlong (Closes env) (step env) s run) ∧
    ∀ token sample error, (s.beginPublication token sample).1 = .error error →
      (s.beginPublication token sample).2.activeReservations = s.activeReservations := by
  obtain ⟨blocker, hclosed, hcloses⟩ := hdenied.closed
  have hstays : StaysClosed (s.step env closing) blocker
      (between.foldl (step env) (s.step env closing)) :=
    foldl_invariant (fun _ _ hok hinv => hinv.step hok) ⟨hclosed, rfl, Finset.Subset.refl _⟩ hshut
  refine ⟨⟨blocker, hcloses, hstays, fun token sample => ?_⟩, fun run => length_alerts_run,
    fun token sample error => activeReservations_of_refused⟩
  exact beginPublication_of_closed hstays.latched

/-- A file system with room, and a clock that is trusted or not. -/
def sampled (trusted : Bool) : PublicationSample := ⟨some ⟨100000000, 1000⟩, trusted, {}⟩

/-- Two reservations, of which the first is entered. -/
def reservedTwice : Store :=
  [.reservePublication samplePolicy 5 1 4, .reservePublication samplePolicy 5 1 4,
    .beginPublication 0 (sampled true)].foldl (step sampleDigest) (empty 100 (some samplePolicy))

theorem admission_latch_clock :
    (reservedTwice.step sampleDigest (.beginPublication 1 (sampled false))).StaysClosed .clockAnomaly
      ([.beginPublication 1 (sampled true), .abortPublication 0].foldl (step sampleDigest)
        (reservedTwice.step sampleDigest (.beginPublication 1 (sampled false)))) := by
  have hdenied : reservedTwice.Denies (.beginPublication 1 (sampled false)) :=
    ⟨.clockAnomaly, by rfl⟩
  obtain ⟨⟨blocker, hcloses, hstays, -⟩, -, -⟩ := @admission_latch sampleDigest reservedTwice _
    [.beginPublication 1 (sampled true), .abortPublication 0] hdenied
    ⟨⟨id, id⟩, ⟨id, id⟩, trivial⟩
  rcases hcloses with hclosed | ⟨-, hclosing⟩
  · have hopened : reservedTwice.admissionClosedBlocker = none := by rfl
    cases hopened.symm.trans hclosed
  · obtain rfl : blocker = .clockAnomaly := by
      have hraised : (reservedTwice.beginPublication 1 (sampled false)).1 =
        .error (.publicationRejected .clockAnomaly) := by rfl
      cases hclosing.symm.trans hraised
      rfl
    exact hstays

/-- **A begin that fails otherwise.** A reservation that has been entered is refused as that, whatever
the latch says. -/
theorem admission_latch_entered :
    ¬ ∀ (env : Encoding) (s : Store) (before between : List Action) (closing : Action),
      s.Constructed → (before.foldl (step env) s).Denies closing →
      Along (fun s action => ¬ s.Reopens action) (step env)
        ((before.foldl (step env) s).step env closing) between →
      ∃ blocker, ∀ token sample,
        ((between.foldl (step env) ((before.foldl (step env) s).step env closing)).beginPublication
          token sample).1 = .error (.publicationRejected blocker) := by
  intro h
  obtain ⟨blocker, hrefused⟩ := h sampleDigest (empty 100 (some samplePolicy))
    [.reservePublication samplePolicy 5 1 4, .reservePublication samplePolicy 5 1 4,
      .beginPublication 0 (sampled true)] [] (.beginPublication 1 (sampled false))
    (constructed_empty samplePolicy_covered) ⟨.clockAnomaly, by rfl⟩ trivial
  have hentered : ((reservedTwice.step sampleDigest
      (.beginPublication 1 (sampled false))).beginPublication 0 (sampled true)).1 =
      .error .reservationEntered := by rfl
  cases hentered.symm.trans (hrefused 0 (sampled true))

end Store

end NplgMcp
