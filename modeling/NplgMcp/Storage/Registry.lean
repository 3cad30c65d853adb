import NplgMcp.Library.Ledger
import NplgMcp.Storage.Footprint

/-!
# The registry of reservations

`PublicationStep` says what any step of the store can do to its reservations: keep them, add one that
is not entered, activate one that all checks admit, or release an active one. From it follow the
invariant `Registered`, which makes the three counters the sums over the active reservations, and
that a reservation is entered at most once and released exactly once.
-/

open Library

namespace NplgMcp

/-- What a publication consumes. -/
inductive Resource where
  | bytes
  | objects
  | inodes
  deriving DecidableEq, Repr

/-- The maximum of a reservation. -/
def PublicationReservation.reserved (reservation : PublicationReservation) : Resource → ℕ
  | .bytes => reservation.reservedBytes
  | .objects => reservation.reservedObjects
  | .inodes => reservation.reservedInodes

namespace Store

variable {env : Encoding} {s s' : Store} {action : Action} {token : Token}
  {resource : Resource} {reservation : PublicationReservation}

/-- The counter of what all active reservations may publish. -/
def publicationReserved (s : Store) : Resource → ℤ
  | .bytes => s.publicationReservedBytes
  | .objects => s.publicationReservedObjects
  | .inodes => s.publicationReservedInodes

/-- What a reservation may publish. -/
def promised (s : Store) (resource : Resource) (token : Token) : ℤ :=
  (((s.reservations.lookup token).map (·.reserved resource)).getD 0 : ℕ)

theorem promised_of_lookup (h : s.reservations.lookup token = some reservation) :
    s.promised resource token = reservation.reserved resource := by
  simp [promised, h]

theorem promised_nonneg : 0 ≤ s.promised resource token := Int.natCast_nonneg _

/-! ## What a step does to the reservations -/

/-- The policy and the reservations of a store, with their counters. -/
def publication (s : Store) :
    Option RetentionPolicy × Finset Token × Dict Token PublicationReservation × ℤ × ℤ × ℤ :=
  (s.retentionPolicy, s.publicationReservations, s.reservations, s.publicationReservedBytes,
    s.publicationReservedObjects, s.publicationReservedInodes)

/-- What an action can do to the reservations. -/
inductive PublicationStep (s : Store) (action : Action) (s' : Store) : Prop where
  | keep (same : s'.publication = s.publication) (names : s.nextToken ≤ s'.nextToken)
  | reserve (reservation : PublicationReservation)
      (fresh : reservation.active = false ∧ reservation.closed = false)
      (same : s'.publication = { s with
        reservations := s.reservations.insert s.nextToken reservation }.publication)
      (names : s'.nextToken = s.nextToken + 1) (material : KeepsMaterial s s')
  | activate (token : Token) (sample : PublicationSample) (policy : RetentionPolicy)
      (reservation : PublicationReservation) (objects : List StoredObject)
      (capacity : StorageCapacity) (begins : action = .beginPublication token sample)
      (admits : s.Admits token sample policy reservation objects capacity)
      (eq : s' = s.activateReservation token reservation objects.length capacity)
  | release (token : Token) (reservation : PublicationReservation)
      (reserved : s.reservations.lookup token = some reservation)
      (opened : reservation.closed = false) (active : token ∈ s.publicationReservations)
      (eq : s' = s.releasePublication token reservation)

namespace PublicationStep

theorem refl : PublicationStep s action s := .keep rfl le_rfl

theorem of_authority (h : s'.authority = s.authority) : PublicationStep s action s' := by
  have hsame := congrArg publication h
  have hnames := congrArg Store.nextToken h
  exact .keep hsame (ge_of_eq hnames)

theorem stage {transaction : Option Token} {caller : Context} {root opened : Bool} :
    PublicationStep s action (s.stage transaction caller root opened).2 := by
  obtain ⟨next, hnext, hcore⟩ := @core_stage s transaction caller root opened
  have hsame := congrArg publication hcore
  have hnames := congrArg Store.nextToken hcore
  exact .keep hsame (hnext.trans (ge_of_eq hnames))

theorem publicationDenial {blocker : PublicationBlocker} :
    PublicationStep s action (s.publicationDenial blocker).2 := by
  unfold Store.publicationDenial
  split
  · exact .refl
  · exact .keep rfl le_rfl

theorem transactionStep {f : DeleteFaults} (h : TransactionStep s token f s') :
    PublicationStep s action s' := by
  rcases h with rfl | ⟨transaction, -, -, middle, hmiddle, hs⟩
  · exact .refl
  · have hdeleted : middle.authority = s.authority := by
      rcases hmiddle with rfl | rfl
      · rfl
      · exact authority_deleteRenderSubtreeLocked
    rcases hs with rfl | ⟨complete, status, -, rfl⟩
    · exact .of_authority hdeleted
    · have hsame := congrArg publication hdeleted
      have hnames := congrArg Store.nextToken hdeleted
      exact .keep hsame (ge_of_eq hnames)

theorem reservePublication {policy : RetentionPolicy} {bytes objects inodes : ℕ} :
    PublicationStep s action (s.reservePublication policy bytes objects inodes).2 := by
  have hmaterial := @keepsMaterial_reservePublication s policy bytes objects inodes
  unfold Store.reservePublication at hmaterial ⊢
  split
  · exact .refl
  · rename_i hpolicy
    split
    · exact .refl
    · rename_i hamounts
      rw [if_neg hpolicy, if_neg hamounts] at hmaterial
      exact .reserve _ ⟨rfl, rfl⟩ rfl rfl hmaterial

theorem beginPublication {sample : PublicationSample} :
    PublicationStep s (.beginPublication token sample) (s.beginPublication token sample).2 := by
  rcases @beginPublication_cases s token sample with
    ⟨error, heq⟩ | ⟨blocker, heq⟩ | ⟨policy, reservation, objects, capacity, hadmits, heq⟩ <;>
    rw [heq]
  · exact .refl
  · exact publicationDenial
  · exact .activate token sample policy reservation objects capacity rfl hadmits rfl

theorem commitPublication {actual : ActualPublication} {sample : PublicationSample} :
    PublicationStep s action (s.commitPublication token actual sample).2 := by
  rcases @commitPublication_cases s token actual sample with
    ⟨error, -, heq⟩ | ⟨-, heq⟩ |
    ⟨policy, reservation, objects, capacity, hreaches, ⟨blocker, -, heq⟩ | ⟨-, heq⟩⟩ <;> rw [heq]
  · exact .refl
  · exact publicationDenial
  · exact publicationDenial
  · exact .release token reservation hreaches.reserved hreaches.opened hreaches.active rfl

theorem abortPublication : PublicationStep s action (s.abortPublication token).2 := by
  rcases @abortPublication_cases s token with
    ⟨error, heq⟩ | ⟨reservation, hreserved, hopened, hactive, heq⟩ <;> rw [heq]
  · exact .refl
  · exact .release token reservation hreserved hopened hactive rfl

theorem prune {policy : RetentionPolicy} {sample : PruneSample} :
    PublicationStep s action (s.prune policy sample).2 := by
  rcases @prune_cases s policy sample with heq | ⟨_, _, _, _, _, pruned, hpruned, heq⟩
  · rw [heq]
    exact .refl
  · have hsame := congrArg publication (authority_of_withoutDisk (hpruned ▸
      (withoutDisk_pruneUnleased : _ = s.withoutDisk)))
    have hnames := congrArg Store.nextToken (authority_of_withoutDisk (hpruned ▸
      (withoutDisk_pruneUnleased : _ = s.withoutDisk)))
    rcases heq with heq | heq | ⟨blockers, heq⟩ <;> rw [heq]
    · exact .keep hsame (ge_of_eq hnames)
    · exact .keep hsame (ge_of_eq hnames)
    · unfold latchPrune
      split
      · exact .keep hsame (ge_of_eq hnames)
      · split <;> exact .keep hsame (ge_of_eq hnames)

end PublicationStep

/-- What a step does to the reservations. -/
theorem publicationStep_step : PublicationStep s action (s.step env action) := by
  cases action with
  | stage => exact .stage
  | startWrite => exact .of_authority (authority_of_core core_startWrite)
  | finishWrite => exact .of_authority (authority_of_core core_finishWrite)
  | discard => exact .of_authority (authority_of_core core_discard)
  | prepareFileCommit => exact .of_authority authority_prepareFileCommit
  | publishFile => exact .of_authority authority_publishFile
  | commitRender => exact .of_authority authority_commitRender
  | replaceRender => exact .of_authority authority_replaceRender
  | deleteRenderSubtree path f =>
      simp only [Store.step, perform, discardValue_snd, Store.deleteRenderSubtree]
      split
      · exact .refl
      · exact .of_authority authority_deleteRenderSubtreeLocked
  | registerRenderTransaction caller subtree completionFile root =>
      simp only [Store.step, perform, discardValue_snd, Store.registerRenderTransaction]
      split
      · exact .refl
      · split
        · exact .refl
        · split
          · exact .refl
          · split
            · exact .refl
            · exact .keep rfl (Nat.le_succ _)
  | recoverRenderTransaction => exact .transactionStep transactionStep_recover
  | commitRenderTransaction => exact .transactionStep transactionStep_commit
  | rollbackRenderTransaction => exact .transactionStep transactionStep_rollback
  | resetRenderTransaction => exact .transactionStep transactionStep_reset
  | releaseRenderTransaction token =>
      simp only [Store.step, perform, Store.releaseRenderTransaction]
      split
      · exact .refl
      · split
        · exact .refl
        · split <;> exact .keep rfl le_rfl
  | acquireAssetLease path resolved =>
      simp only [Store.step, perform, discardValue_snd, Store.acquireAssetLease]
      split
      · exact .refl
      · split
        · exact .refl
        · split
          · exact .refl
          · exact .keep rfl (Nat.le_succ _)
  | releaseAssetLease lease =>
      simp only [Store.step, perform, Store.releaseAssetLease]
      split
      · exact .refl
      · split <;> exact .keep rfl le_rfl
  | reservePublication => exact .reservePublication
  | beginPublication => exact .beginPublication
  | commitPublication => exact .commitPublication
  | abortPublication => exact .abortPublication
  | exitPublication token =>
      simp only [Store.step, perform, Store.exitPublication]
      split
      · exact .refl
      · exact .abortPublication
  | prune => exact .prune

section Changes

variable {other : Token} {objects : ℕ} {capacity : StorageCapacity}

theorem publicationReserved_activate :
    (s.activateReservation token reservation objects capacity).publicationReserved resource =
      s.publicationReserved resource + reservation.reserved resource := by
  cases resource <;> rfl

theorem promised_activate_self :
    (s.activateReservation token reservation objects capacity).promised resource token =
      reservation.reserved resource := by
  simp only [promised, activateReservation, Finmap.lookup_insert]
  cases resource <;> rfl

theorem promised_activate_of_ne (h : other ≠ token) :
    (s.activateReservation token reservation objects capacity).promised resource other =
      s.promised resource other := by
  simp only [promised, activateReservation, Finmap.lookup_insert_of_ne _ h]

theorem publicationReserved_release :
    (s.releasePublication token reservation).publicationReserved resource =
      s.publicationReserved resource - reservation.reserved resource := by
  cases resource <;> rfl

theorem promised_release_of_ne (h : other ≠ token) :
    (s.releasePublication token reservation).promised resource other =
      s.promised resource other := by
  simp only [promised, releasePublication, Finmap.lookup_insert_of_ne _ h]

end Changes

/-! ## The invariant -/

/-- The active reservations have been entered and not closed, and the counters are their sums. -/
structure Registered (s : Store) : Prop where
  entered : ∀ token ∈ s.publicationReservations, ∃ reservation,
    s.reservations.lookup token = some reservation ∧ reservation.active = true ∧
      reservation.closed = false
  counted : ∀ resource, s.publicationReserved resource =
    ∑ token ∈ s.publicationReservations, s.promised resource token
  fresh : ∀ token ∈ s.reservations, token < s.nextToken

namespace Registered

theorem of_constructed (h : s.Constructed) : s.Registered where
  entered := by simp [h.publications]
  counted resource := by
    rw [h.publications, Finset.sum_empty]
    cases resource with
    | bytes => exact h.publicationBytes
    | objects => exact h.publicationObjects
    | inodes => exact h.publicationInodes
  fresh := fun token htoken => absurd (h.reservations ▸ htoken) Finmap.notMem_empty

/-- A counter that is a sum of maxima is not negative. -/
theorem publicationReserved_nonneg (h : s.Registered) : 0 ≤ s.publicationReserved resource := by
  rw [h.counted]
  exact Finset.sum_nonneg fun token _ => promised_nonneg

/-- The name of the next reservation is not in use. -/
theorem lookup_insert_next (h : s.Registered) {reservation : PublicationReservation}
    (htoken : token ∈ s.publicationReservations) :
    (s.reservations.insert s.nextToken reservation).lookup token = s.reservations.lookup token := by
  obtain ⟨entered, hlookup, -⟩ := h.entered token htoken
  refine Finmap.lookup_insert_of_ne _ ?_
  rintro rfl
  exact lt_irrefl _ (h.fresh _ (Finmap.mem_of_lookup_eq_some hlookup))

theorem of_same (h : s.Registered) (hsame : s'.publication = s.publication)
    (hnames : s.nextToken ≤ s'.nextToken) : s'.Registered := by
  simp only [publication, Prod.mk.injEq] at hsame
  obtain ⟨-, hactive, hreservations, hbytes, hobjects, hinodes⟩ := hsame
  refine ⟨?_, fun resource => ?_, ?_⟩
  · rw [hactive, hreservations]
    exact h.entered
  · have hcounted := h.counted resource
    simp only [promised] at hcounted ⊢
    rw [hactive, hreservations, ← hcounted]
    cases resource with
    | bytes => exact hbytes
    | objects => exact hobjects
    | inodes => exact hinodes
  · rw [hreservations]
    exact fun token htoken => lt_of_lt_of_le (h.fresh token htoken) hnames

/-- A new reservation is not active. -/
theorem reserve (h : s.Registered) :
    { s with
      reservations := s.reservations.insert s.nextToken reservation
      nextToken := s.nextToken + 1 }.Registered where
  entered token htoken := by
    obtain ⟨entered, hlookup, hactive⟩ := h.entered token htoken
    exact ⟨entered, (h.lookup_insert_next htoken).trans hlookup, hactive⟩
  counted resource := by
    refine Eq.trans (b := s.publicationReserved resource) (by cases resource <;> rfl) ?_
    rw [h.counted]
    exact Finset.sum_congr rfl fun token htoken => by
      simp only [promised, h.lookup_insert_next htoken]
  fresh token htoken := by
    rcases Finmap.mem_insert.1 htoken with rfl | hold
    · exact Nat.lt_succ_self _
    · exact Nat.lt_succ_of_lt (h.fresh token hold)

/-- A reservation that may be entered is not active. -/
theorem notMem_of_fresh (h : s.Registered) (hlookup : s.reservations.lookup token = some reservation)
    (hfresh : reservation.active = false) : token ∉ s.publicationReservations := by
  intro hmem
  obtain ⟨entered, hentered, hactive, -⟩ := h.entered token hmem
  rw [hlookup] at hentered
  cases hentered
  rw [hfresh] at hactive
  cases hactive

theorem activate (h : s.Registered) {objects : ℕ} {capacity : StorageCapacity}
    (hlookup : s.reservations.lookup token = some reservation)
    (hfresh : reservation.active = false ∧ reservation.closed = false) :
    (s.activateReservation token reservation objects capacity).Registered where
  entered other hother := by
    simp only [activateReservation] at hother ⊢
    rcases Finset.mem_insert.1 hother with rfl | hold
    · exact ⟨_, Finmap.lookup_insert _, rfl, hfresh.2⟩
    · have hne : other ≠ token := by
        rintro rfl
        exact h.notMem_of_fresh hlookup hfresh.1 hold
      rw [Finmap.lookup_insert_of_ne _ hne]
      exact h.entered other hold
  counted resource := by
    have hnew := h.notMem_of_fresh hlookup hfresh.1
    rw [publicationReserved_activate, h.counted, add_comm]
    refine Eq.trans ?_ (Finset.sum_insert hnew).symm
    rw [promised_activate_self]
    refine congrArg (_ + ·) (Finset.sum_congr rfl fun other hother => ?_)
    exact (promised_activate_of_ne (ne_of_mem_of_not_mem hother hnew)).symm
  fresh other hother := by
    rcases Finmap.mem_insert.1 hother with rfl | hold
    · exact h.fresh _ (Finmap.mem_of_lookup_eq_some hlookup)
    · exact h.fresh other hold

theorem release (h : s.Registered) (hlookup : s.reservations.lookup token = some reservation)
    (hactive : token ∈ s.publicationReservations) :
    (s.releasePublication token reservation).Registered where
  entered other hother := by
    obtain ⟨hne, hold⟩ := Finset.mem_erase.1 hother
    simp only [releasePublication, Finmap.lookup_insert_of_ne _ hne]
    exact h.entered other hold
  counted resource := by
    have hsum := Finset.sum_erase_add _ (fun other => s.promised resource other) hactive
    rw [← h.counted, promised_of_lookup hlookup] at hsum
    rw [publicationReserved_release, ← eq_sub_of_add_eq hsum]
    refine Finset.sum_congr rfl fun other hother => ?_
    exact (promised_release_of_ne (Finset.mem_erase.1 hother).1).symm
  fresh other hother := by
    rcases Finmap.mem_insert.1 hother with rfl | hold
    · exact h.fresh _ (Finmap.mem_of_lookup_eq_some hlookup)
    · exact h.fresh other hold

theorem publicationStep (h : s.Registered) (hs : PublicationStep s action s') : s'.Registered := by
  cases hs with
  | keep hsame hnames => exact h.of_same hsame hnames
  | reserve reservation _ hsame hnames _ =>
      exact h.reserve.of_same hsame (ge_of_eq hnames)
  | activate token sample policy reservation objects capacity _ hadmits heq =>
      rw [heq]
      exact h.activate hadmits.reserved hadmits.fresh
  | release token reservation hreserved _ hactive heq =>
      rw [heq]
      exact h.release hreserved hactive

end Registered

/-! ## Entered once and released once -/

/-- The reservation is active or has been closed. -/
def Used (s : Store) (token : Token) : Prop :=
  token ∈ s.publicationReservations ∨
    ∃ reservation, s.reservations.lookup token = some reservation ∧ reservation.closed = true

/-- A reservation that is used stays so. -/
theorem Used.publicationStep (hused : s.Used token) (h : s.Registered) (hs : PublicationStep s action s') :
    s'.Used token := by
  cases hs with
  | keep hsame _ =>
      simp only [publication, Prod.mk.injEq] at hsame
      unfold Used
      rw [hsame.2.1, hsame.2.2.1]
      exact hused
  | reserve reservation _ hsame _ _ =>
      simp only [publication, Prod.mk.injEq] at hsame
      unfold Used
      rw [hsame.2.1, hsame.2.2.1]
      refine hused.imp_right ?_
      rintro ⟨closed, hlookup, hclosed⟩
      refine ⟨closed, ?_, hclosed⟩
      rw [Finmap.lookup_insert_of_ne _ ?_, hlookup]
      rintro rfl
      exact lt_irrefl _ (h.fresh _ (Finmap.mem_of_lookup_eq_some hlookup))
  | activate other _ _ reservation _ _ _ hadmits heq =>
      subst heq
      by_cases hother : token = other
      · exact .inl (hother ▸ Finset.mem_insert_self _ _)
      · refine hused.imp (fun hmem => Finset.mem_insert_of_mem hmem) ?_
        rintro ⟨closed, hlookup, hclosed⟩
        exact ⟨closed, (Finmap.lookup_insert_of_ne _ hother).trans hlookup, hclosed⟩
  | release other reservation _ _ _ heq =>
      subst heq
      by_cases hother : token = other
      · subst hother
        exact .inr ⟨_, Finmap.lookup_insert _, rfl⟩
      · refine hused.imp (fun hmem => Finset.mem_erase.2 ⟨hother, hmem⟩) ?_
        rintro ⟨closed, hlookup, hclosed⟩
        exact ⟨closed, (Finmap.lookup_insert_of_ne _ hother).trans hlookup, hclosed⟩

/-- A reservation that is used is not entered again. -/
theorem Used.not_entered (hused : s.Used token) (hs : PublicationStep s action s') :
    ¬ (token ∉ s.publicationReservations ∧ token ∈ s'.publicationReservations) := by
  rintro ⟨hbefore, hafter⟩
  cases hs with
  | keep hsame _ =>
      simp only [publication, Prod.mk.injEq] at hsame
      exact hbefore (hsame.2.1 ▸ hafter)
  | reserve reservation _ hsame _ _ =>
      simp only [publication, Prod.mk.injEq] at hsame
      exact hbefore (hsame.2.1 ▸ hafter)
  | activate other _ _ reservation _ _ _ hadmits heq =>
      subst heq
      rcases Finset.mem_insert.1 hafter with rfl | hold
      · obtain ⟨closed, hlookup, hclosed⟩ := hused.resolve_left hbefore
        rw [hadmits.reserved] at hlookup
        cases hlookup
        rw [hadmits.fresh.2] at hclosed
        cases hclosed
      · exact hbefore hold
  | release other reservation _ _ _ heq =>
      subst heq
      exact hbefore (Finset.mem_of_mem_erase hafter)

/-- A commit that raises, denied or not, leaves every reservation active and counted. -/
theorem publication_commit_error {actual : ActualPublication} {sample : PublicationSample}
    {error : StoreError} (h : (s.commitPublication token actual sample).1 = .error error) :
    (s.commitPublication token actual sample).2.publication = s.publication := by
  have hdenial (blocker : PublicationBlocker) :
      (s.publicationDenial blocker).2.publication = s.publication := by
    unfold publicationDenial
    split <;> rfl
  rcases @commitPublication_cases s token actual sample with
    ⟨error', -, heq⟩ | ⟨-, heq⟩ | ⟨_, _, _, _, -, ⟨blocker, -, heq⟩ | ⟨-, heq⟩⟩
  · rw [heq]
  · rw [heq]
    exact hdenial _
  · rw [heq]
    exact hdenial _
  · rw [heq] at h
    cases h

/-- A commit that returns releases the reservation. -/
theorem notMem_of_commit_ok {actual : ActualPublication} {sample : PublicationSample}
    (h : (s.commitPublication token actual sample).1 = .ok ()) :
    token ∉ (s.commitPublication token actual sample).2.publicationReservations := by
  have hdenial (blocker : PublicationBlocker) : (s.publicationDenial blocker).1 ≠ .ok () := by
    unfold publicationDenial
    split <;> nofun
  rcases @commitPublication_cases s token actual sample with
    ⟨error', -, heq⟩ | ⟨-, heq⟩ | ⟨_, _, _, _, -, ⟨blocker, -, heq⟩ | ⟨-, heq⟩⟩ <;> rw [heq] at h ⊢
  · cases h
  · exact absurd h (hdenial _)
  · exact absurd h (hdenial _)
  · exact Finset.notMem_erase _ _

/-- An abort of an active reservation returns and releases it. -/
theorem Registered.abort (h : s.Registered) (hactive : token ∈ s.publicationReservations) :
    (s.abortPublication token).1 = .ok () ∧
      token ∉ (s.abortPublication token).2.publicationReservations := by
  obtain ⟨reservation, hlookup, -, hclosed⟩ := h.entered token hactive
  unfold abortPublication
  rw [hlookup]
  simp only [hclosed, hactive, not_true_eq_false, if_false, Bool.false_eq_true]
  exact ⟨trivial, Finset.notMem_erase _ _⟩

/-- The end of the context releases whatever was entered. -/
theorem Registered.exit (h : s.Registered) :
    token ∉ (s.exitPublication token).2.publicationReservations := by
  by_cases hactive : token ∈ s.publicationReservations
  · obtain ⟨reservation, hlookup, -, hclosed⟩ := h.entered token hactive
    unfold exitPublication
    rw [if_neg (by simp [hlookup, hclosed])]
    exact (h.abort hactive).2
  · unfold exitPublication
    split
    · exact hactive
    · rcases @abortPublication_cases s token with ⟨error, heq⟩ | ⟨_, -, -, -, heq⟩ <;> rw [heq]
      · exact hactive
      · exact Finset.notMem_erase _ _

end Store

end NplgMcp
