import NplgMcp.Storage.Quota
import NplgMcp.Storage.Registry

/-!
# The byte budget

A run of the store in which each step may belong to the holder of a reservation. The `Ledger` beside
the store records, for every active reservation, how much the store has grown in the steps of its
holder. The invariant that keeps the budget is nowhere in the code: the used bytes and what the
active reservations have been promised and have not published fit `maximum_bytes` together. Begin
establishes it, a publication of the holder moves bytes from the one part to the other, and deletions
and prunes only make it easier. It needs holders that never publish less than nothing: one that
replaces a file by a shorter one gives back bytes that another reservation is then promised.
-/

open Library

namespace NplgMcp

/-- A step, and the reservation whose holder takes it. -/
structure Event where
  holder : Option Token
  action : Action

/-- The action makes a staged file a stored one. -/
def Action.publishes : Action → Bool
  | .publishFile .. | .commitRender .. | .replaceRender .. => true
  | _ => false

/-- What the store holds of a resource under documents/ and renders/. -/
def Store.stored (s : Store) : Resource → ℤ
  | .bytes => s.usedBytes
  | .objects => s.children.card
  | .inodes => s.directories.card + s.files.keys.card

/-- A store with what the holders of its reservations have published since they began. -/
structure Ledger where
  store : Store
  published : Token → Resource → ℤ

namespace Ledger

/-- Nothing has been published. -/
def start (s : Store) : Ledger := ⟨s, fun _ _ => 0⟩

/-- How much the store grows in a step. -/
def grown (env : Encoding) (l : Ledger) (e : Event) (resource : Resource) : ℤ :=
  (l.store.step env e.action).stored resource - l.store.stored resource

/-- One step, its growth counted for the holder. A reservation that is not active has published
nothing. -/
def step (env : Encoding) (l : Ledger) (e : Event) : Ledger where
  store := l.store.step env e.action
  published token resource :=
    if token ∉ l.store.publicationReservations then 0
    else if e.holder = some token then l.published token resource + l.grown env e resource
    else l.published token resource

/-- What the active reservations have been promised and have not published. -/
def unspent (l : Ledger) (resource : Resource) : ℤ :=
  Library.unspent l.store.publicationReservations (l.store.promised resource)
    (l.published · resource)

/-- The holder publishes for an active reservation, at most what it has reserved. -/
def AtMostReserved (env : Encoding) (l : Ledger) (e : Event) (resource : Resource) : Prop :=
  ∀ token ∈ e.holder, token ∈ l.store.publicationReservations ∧
    l.published token resource + l.grown env e resource ≤ l.store.promised resource token

/-- The holder has not given back more than it has published. -/
def NotBelowZero (env : Encoding) (l : Ledger) (e : Event) (resource : Resource) : Prop :=
  ∀ token ∈ e.holder, 0 ≤ l.published token resource + l.grown env e resource

/-- Every active reservation has published something between nothing and its maximum. -/
def Bounded (l : Ledger) (resource : Resource) : Prop :=
  ∀ token ∈ l.store.publicationReservations,
    0 ≤ l.published token resource ∧ l.published token resource ≤ l.store.promised resource token

variable {env : Encoding} {l : Ledger} {e : Event} {resource : Resource}

/-- A step that only activates or releases a reservation, or adds one, stores nothing. -/
theorem grown_of_material (h : Store.KeepsMaterial l.store (l.store.step env e.action)) :
    l.grown env e resource = 0 := by
  have hused := congrArg Store.usedBytes h.same
  have hfiles := congrArg Store.files h.same
  have hdirectories := congrArg Store.directories h.same
  simp only [Store.material] at hused hfiles hdirectories
  unfold grown
  cases resource <;>
    simp only [Store.stored, Store.children, Store.objectKeys, hused, hfiles, hdirectories, sub_self]

/-- What an active reservation has published after the step. -/
theorem published_step {token : Token} (h : token ∈ l.store.publicationReservations) :
    (l.step env e).published token resource =
      if e.holder = some token then l.published token resource + l.grown env e resource
      else l.published token resource :=
  if_neg (not_not.2 h)

/-- Without growth nothing is published. -/
theorem published_step_of_grown {token : Token} (h : token ∈ l.store.publicationReservations)
    (hgrown : l.grown env e resource = 0) :
    (l.step env e).published token resource = l.published token resource := by
  rw [published_step h, hgrown, add_zero, ite_self]

/-- The growth that is counted for a holder. -/
def attributed (env : Encoding) (l : Ledger) (e : Event) (resource : Resource) : ℤ :=
  if e.holder.isSome then l.grown env e resource else 0

/-- Where the reservations stay, the holder's growth is taken from what is left. -/
theorem unspent_kept (hheld : ∀ token ∈ e.holder, token ∈ l.store.publicationReservations)
    (hactive : (l.store.step env e.action).publicationReservations = l.store.publicationReservations)
    (hpromised : ∀ token ∈ l.store.publicationReservations,
      (l.store.step env e.action).promised resource token = l.store.promised resource token) :
    (l.step env e).unspent resource = l.unspent resource - l.attributed env e resource := by
  unfold unspent
  change Library.unspent (l.store.step env e.action).publicationReservations _ _ = _
  rw [hactive]
  refine (unspent_congr hpromised fun _ _ => rfl).trans ?_
  cases hholder : e.holder with
  | none =>
      rw [attributed, hholder]
      refine (unspent_congr (fun _ _ => rfl) fun token htoken => ?_).trans (sub_zero _).symm
      rw [published_step htoken, hholder, if_neg nofun]
  | some holder =>
      rw [attributed, hholder]
      refine unspent_spend (hheld holder hholder) ?_ fun token htoken hne => ?_
      · rw [published_step (hheld holder hholder), if_pos hholder]
        rfl
      · rw [published_step htoken, hholder, if_neg fun heq => hne (Option.some.inj heq).symm]

/-- The reservation that a step adds is not one of the active ones. -/
theorem promised_reserve (h : l.store.Registered) {s' : Store} {reservation : PublicationReservation}
    (hsame : s'.publication = { l.store with
      reservations := l.store.reservations.insert l.store.nextToken reservation }.publication)
    {token : Token} (htoken : token ∈ l.store.publicationReservations) :
    s'.promised resource token = l.store.promised resource token := by
  simp only [Store.publication, Prod.mk.injEq] at hsame
  simp only [Store.promised, hsame.2.2.1, h.lookup_insert_next htoken]

/-- **One step of a bound.** A total that grows by no more than what holders publish stays, together
with what is unspent, within a bound that does not fall, if a reservation is activated only where all
maxima fit. `g` is what the bound is conditional on. -/
theorem fits_step {g : Finset Token → Prop}
    (hguard : ∀ active active', active ⊆ active' → g active → g active')
    (hreg : l.store.Registered)
    (hheld : ∀ token ∈ e.holder, token ∈ l.store.publicationReservations)
    (hbounded : l.Bounded resource) {total total' bound bound' : ℤ}
    (hfits : g l.store.publicationReservations → total + l.unspent resource ≤ bound)
    (htotal : total' ≤ total + l.attributed env e resource) (hbound : bound ≤ bound')
    (hopen : ∀ token sample policy reservation objects capacity,
      e.action = .beginPublication token sample →
      l.store.Admits token sample policy reservation objects capacity →
      total + l.store.publicationReserved resource + reservation.reserved resource ≤ bound') :
    g (l.store.step env e.action).publicationReservations →
      total' + (l.step env e).unspent resource ≤ bound' := by
  intro hholds
  have hattributed (hgrown : l.grown env e resource = 0) : l.attributed env e resource = 0 := by
    rw [attributed, hgrown, ite_self]
  rcases @Store.publicationStep_step env l.store e.action with
    ⟨hsame, -⟩ | ⟨reservation, -, hsame, -, hmaterial⟩ |
    ⟨token, sample, policy, reservation, objects, capacity, hbegins, hadmits, heq⟩ |
    ⟨token, reservation, hreserved, -, hactive, heq⟩
  · simp only [Store.publication, Prod.mk.injEq] at hsame
    have hleft := @unspent_kept env l e resource hheld hsame.2.1 fun token _ => by
      simp only [Store.promised, hsame.2.2.1]
    have hbefore := hfits (hsame.2.1 ▸ hholds)
    omega
  · have hactive := (Prod.mk.inj (Prod.mk.inj hsame).2).1
    have hleft := @unspent_kept env l e resource hheld hactive fun token htoken =>
      promised_reserve hreg hsame htoken
    have hbefore := hfits (hactive ▸ hholds)
    omega
  · -- the new reservation has published nothing, and all others at least nothing
    have hgrown : l.grown env e resource = 0 :=
      grown_of_material (heq ▸ (⟨rfl, le_rfl⟩ : Store.KeepsMaterial l.store
        (l.store.activateReservation token reservation objects.length capacity)))
    have hnew := hreg.notMem_of_fresh hadmits.reserved hadmits.fresh.1
    have hall : (l.step env e).unspent resource =
        l.unspent resource + reservation.reserved resource := by
      unfold unspent
      change Library.unspent (l.store.step env e.action).publicationReservations
        ((l.store.step env e.action).promised resource) _ = _
      rw [heq]
      refine (unspent_open hnew (if_pos hnew)).trans ?_
      rw [Store.promised_activate_self]
      refine congrArg (· + _) (unspent_congr (fun other hother => ?_) fun other hother => ?_)
      · exact Store.promised_activate_of_ne (ne_of_mem_of_not_mem hother hnew)
      · exact published_step_of_grown hother hgrown
    have hle : l.unspent resource ≤ l.store.publicationReserved resource := by
      rw [hreg.counted]
      exact unspent_le_sum fun other hother => (hbounded other hother).1
    have hadmitted := hopen token sample policy reservation objects capacity hbegins hadmits
    have hzero := hattributed hgrown
    omega
  · -- a released reservation gives back what it has not published
    have hgrown : l.grown env e resource = 0 :=
      grown_of_material (heq ▸ (⟨rfl, le_rfl⟩ : Store.KeepsMaterial l.store
        (l.store.releasePublication token reservation)))
    have hall : (l.step env e).unspent resource =
        l.unspent resource - (l.store.promised resource token - l.published token resource) := by
      unfold unspent
      change Library.unspent (l.store.step env e.action).publicationReservations
        ((l.store.step env e.action).promised resource) _ = _
      rw [heq, ← unspent_close hactive]
      refine unspent_congr (fun other hother => ?_) fun other hother => ?_
      · exact Store.promised_release_of_ne (Finset.mem_erase.1 hother).1
      · exact published_step_of_grown (Finset.mem_of_mem_erase hother) hgrown
    have hbefore := hfits (hguard _ _ (Finset.erase_subset token _) (by rw [heq] at hholds; exact hholds))
    have hown := (hbounded token hactive).2
    have hzero := hattributed hgrown
    omega

/-- What the holders have published stays between nothing and their maxima. -/
theorem Bounded.step (h : l.Bounded resource) (hreg : l.store.Registered)
    (hupper : l.AtMostReserved env e resource) (hlower : l.NotBelowZero env e resource) :
    (l.step env e).Bounded resource := by
  have hpublished {token : Token} (htoken : token ∈ l.store.publicationReservations) :
      0 ≤ (l.step env e).published token resource ∧
        (l.step env e).published token resource ≤ l.store.promised resource token := by
    rw [published_step htoken]
    split_ifs with hholder
    · exact ⟨hlower token hholder, (hupper token hholder).2⟩
    · exact h token htoken
  intro token htoken
  change token ∈ (l.store.step env e.action).publicationReservations at htoken
  change 0 ≤ (l.step env e).published token resource ∧
    (l.step env e).published token resource ≤ (l.store.step env e.action).promised resource token
  rcases @Store.publicationStep_step env l.store e.action with
    ⟨hsame, -⟩ | ⟨reservation, -, hsame, -, -⟩ |
    ⟨entered, sample, policy, reservation, objects, capacity, -, hadmits, heq⟩ |
    ⟨released, reservation, -, -, -, heq⟩
  · simp only [Store.publication, Prod.mk.injEq] at hsame
    rw [hsame.2.1] at htoken
    have hpromised : (l.store.step env e.action).promised resource token =
        l.store.promised resource token := by
      simp only [Store.promised, hsame.2.2.1]
    rw [hpromised]
    exact hpublished htoken
  · have hactive := (Prod.mk.inj (Prod.mk.inj hsame).2).1
    rw [hactive] at htoken
    rw [promised_reserve hreg hsame htoken]
    exact hpublished htoken
  · have hnew := hreg.notMem_of_fresh hadmits.reserved hadmits.fresh.1
    rw [heq] at htoken ⊢
    rcases Finset.mem_insert.1 htoken with rfl | hold
    · have hzero : (l.step env e).published token resource = 0 := if_pos hnew
      rw [hzero, Store.promised_activate_self]
      exact ⟨le_rfl, Int.natCast_nonneg _⟩
    · rw [Store.promised_activate_of_ne (ne_of_mem_of_not_mem hold hnew)]
      exact hpublished hold
  · rw [heq] at htoken ⊢
    obtain ⟨hne, hold⟩ := Finset.mem_erase.1 htoken
    rw [Store.promised_release_of_ne hne]
    exact hpublished hold

end Ledger

/-! ## Steps that publish nothing -/

namespace Store

variable {env : Encoding} {s s' : Store} {action : Action}

theorem usedBytes_of_core (h : s'.core = s.core) : s'.usedBytes = s.usedBytes := by
  have hused := congrArg Store.usedBytes h
  exact hused

theorem usedBytes_of_withoutDisk (h : s'.withoutDisk = s.withoutDisk) :
    s'.usedBytes = s.usedBytes := (quota_of_withoutDisk h).1

theorem usedBytes_of_material (h : KeepsMaterial s s') : s'.usedBytes = s.usedBytes := by
  have hused := congrArg Store.usedBytes h.same
  exact hused

/-- A scan finds no more than was counted. -/
theorem Accounted.usedBytes_rescan (h : s.Accounted) : s.rescan.usedBytes ≤ s.usedBytes := h.covered

theorem Accounted.usedBytes_deleteRenderSubtreeLocked (h : s.Accounted) {path : Path}
    {token : Option Token} {f : DeleteFaults} :
    (s.deleteRenderSubtreeLocked path token f).2.usedBytes ≤ s.usedBytes := by
  have hremoved : Shrinks s (s.removed path f.removal) := by
    unfold removed
    split
    · exact shrinks_rmtree.trans shrinks_forgetSequence
    · exact shrinks_rmtree
  have hused := usedBytes_of_withoutDisk hremoved.same
  rcases @deleteRenderSubtreeLocked_cases s path token f with heq | ⟨-, -, -, heq | heq⟩ <;> rw [heq]
  · exact ge_of_eq hused.symm
  · exact (h.shrinks hremoved).usedBytes_rescan.trans (ge_of_eq hused.symm)

theorem Accounted.usedBytes_transactionStep (h : s.Accounted) {token : Token} {f : DeleteFaults}
    (hs : TransactionStep s token f s') : s'.usedBytes ≤ s.usedBytes := by
  rcases hs with rfl | ⟨transaction, -, -, middle, hmiddle, hs⟩
  · exact le_rfl
  · have hdeleted : middle.usedBytes ≤ s.usedBytes := by
      rcases hmiddle with rfl | rfl
      · exact le_rfl
      · exact h.usedBytes_deleteRenderSubtreeLocked
    rcases hs with rfl | ⟨complete, status, -, rfl⟩ <;> exact hdeleted

theorem Accounted.usedBytes_prune (h : s.Accounted) {policy : RetentionPolicy}
    {sample : PruneSample} : (s.prune policy sample).2.usedBytes ≤ s.usedBytes := by
  rcases @prune_cases s policy sample with heq | ⟨_, _, _, _, _, pruned, hpruned, heq⟩
  · rw [heq]
  · have hevicted : Shrinks s pruned := hpruned ▸ shrinks_pruneUnleased
    have hused := usedBytes_of_withoutDisk hevicted.same
    have hscanned := (h.shrinks hevicted).usedBytes_rescan.trans (ge_of_eq hused.symm)
    rcases heq with heq | heq | ⟨blockers, heq⟩ <;> rw [heq]
    · exact ge_of_eq hused.symm
    · exact hscanned
    · unfold Store.latchPrune
      split
      · exact hscanned
      · split <;> exact hscanned

/-- A step that publishes nothing does not use more bytes. -/
theorem Accounted.usedBytes_step (h : s.Accounted) (haction : action.publishes = false) :
    (s.step env action).usedBytes ≤ s.usedBytes := by
  cases action with
  | stage transaction caller root opened =>
      obtain ⟨next, -, hcore⟩ := @core_stage s transaction caller root opened
      have hused := congrArg Store.usedBytes hcore
      exact ge_of_eq hused.symm
  | startWrite => exact ge_of_eq (usedBytes_of_core core_startWrite).symm
  | finishWrite => exact ge_of_eq (usedBytes_of_core core_finishWrite).symm
  | discard => exact ge_of_eq (usedBytes_of_core core_discard).symm
  | prepareFileCommit => exact ge_of_eq (usedBytes_of_withoutDisk prepareFileCommit_cases.2).symm
  | publishFile => cases haction
  | commitRender => cases haction
  | replaceRender => cases haction
  | deleteRenderSubtree path f =>
      simp only [Store.step, perform, discardValue_snd, Store.deleteRenderSubtree]
      split
      · exact le_rfl
      · exact h.usedBytes_deleteRenderSubtreeLocked
  | registerRenderTransaction =>
      exact ge_of_eq (usedBytes_of_material keepsMaterial_registerRenderTransaction).symm
  | recoverRenderTransaction => exact h.usedBytes_transactionStep transactionStep_recover
  | commitRenderTransaction => exact h.usedBytes_transactionStep transactionStep_commit
  | rollbackRenderTransaction => exact h.usedBytes_transactionStep transactionStep_rollback
  | resetRenderTransaction => exact h.usedBytes_transactionStep transactionStep_reset
  | releaseRenderTransaction =>
      exact ge_of_eq (usedBytes_of_material keepsMaterial_releaseRenderTransaction).symm
  | acquireAssetLease =>
      exact ge_of_eq (usedBytes_of_material keepsMaterial_acquireAssetLease).symm
  | releaseAssetLease =>
      exact ge_of_eq (usedBytes_of_material keepsMaterial_releaseAssetLease).symm
  | reservePublication =>
      exact ge_of_eq (usedBytes_of_material keepsMaterial_reservePublication).symm
  | beginPublication => exact ge_of_eq (usedBytes_of_material keepsMaterial_beginPublication).symm
  | commitPublication =>
      exact ge_of_eq (usedBytes_of_material keepsMaterial_commitPublication).symm
  | abortPublication => exact ge_of_eq (usedBytes_of_material keepsMaterial_abortPublication).symm
  | exitPublication => exact ge_of_eq (usedBytes_of_material keepsMaterial_exitPublication).symm
  | prune => exact h.usedBytes_prune

end Store

/-! ## Runs -/

namespace Ledger

variable {env : Encoding} {s : Store} {l : Ledger} {e : Event}

/-- The steps of a run with reservations: only holders publish, for an active reservation and in
sum at most the bytes it has reserved, and no commit leaves a file uncounted. -/
def PublishesWithin (env : Encoding) (l : Ledger) (e : Event) : Prop :=
  (e.action.publishes = true → e.holder.isSome) ∧ l.AtMostReserved env e .bytes ∧
    l.store.CountsMoved e.action

/-- What keeps the budget. -/
structure Budgeted (policy : RetentionPolicy) (l : Ledger) : Prop where
  registered : l.store.Registered
  accounted : l.store.Accounted
  configured : l.store.retentionPolicy = some policy
  bounded : l.Bounded .bytes
  fits : l.store.usedBytes + l.unspent .bytes ≤ policy.maximumBytes

theorem Budgeted.of_constructed {policy : RetentionPolicy} (hs : s.Constructed)
    (hpolicy : s.retentionPolicy = some policy) (hfit : s.usedBytes ≤ policy.maximumBytes) :
    Budgeted policy (.start s) where
  registered := .of_constructed hs
  accounted := by
    refine .of_constructed hs ?_
    change s.usedBytes + s.reservedBytes ≤ s.maxBytes
    have hcovers := hs.covers policy hpolicy
    have hreserved := hs.reserved
    omega
  configured := hpolicy
  bounded token htoken := by
    rw [start, hs.publications] at htoken
    cases htoken
  fits := by
    simp only [unspent, start, hs.publications, unspent_empty, add_zero]
    exact hfit

theorem configured_step {policy : RetentionPolicy} (h : l.store.retentionPolicy = some policy) :
    (l.store.step env e.action).retentionPolicy = some policy := by
  rw [← h]
  rcases @Store.publicationStep_step env l.store e.action with
    ⟨hsame, -⟩ | ⟨reservation, -, hsame, -, -⟩ | ⟨_, _, _, _, _, _, -, -, heq⟩ | ⟨_, _, -, -, -, heq⟩
  · exact (Prod.mk.inj hsame).1
  · exact (Prod.mk.inj hsame).1
  · rw [heq]
    rfl
  · rw [heq]
    rfl

/-- One step keeps the budget. -/
theorem Budgeted.step {policy : RetentionPolicy} (h : Budgeted policy l)
    (hwithin : l.PublishesWithin env e) (hforward : l.NotBelowZero env e .bytes) :
    Budgeted policy (l.step env e) where
  registered := h.registered.publicationStep Store.publicationStep_step
  accounted := h.accounted.step hwithin.2.2
  configured := configured_step h.configured
  bounded := h.bounded.step h.registered hwithin.2.1 hforward
  fits := by
    refine fits_step (g := fun _ => True) (fun _ _ _ _ => trivial) h.registered
      (fun token htoken => (hwithin.2.1 token htoken).1) h.bounded (fun _ => h.fits) ?_ le_rfl ?_
      trivial
    · unfold attributed
      split_ifs with hholder
      · rw [grown]
        exact ge_of_eq (add_sub_cancel _ _)
      · have haction : e.action.publishes = false := by
          by_contra hpublishes
          exact hholder (hwithin.1 (by simpa using hpublishes))
        rw [add_zero]
        exact h.accounted.usedBytes_step haction
    · intro token sample policy' reservation objects capacity _ hadmits
      have hreserved := h.accounted.reserved_nonneg
      have hbytes := (Store.publicationBlocker_eq_none_iff.1 hadmits.unblocked).1
      obtain rfl : policy' = policy :=
        Option.some.inj (hadmits.configured.symm.trans h.configured)
      simp only [Store.publicationReserved, PublicationReservation.reserved]
      omega

/-- The store a run reaches. -/
def reached (env : Encoding) (s : Store) (run : List Event) : Store :=
  (run.foldl (Ledger.step env) (.start s)).store

/-- How often the reservation becomes active. -/
def entries (env : Encoding) (s : Store) (token : Token) (run : List Event) : ℕ :=
  countAlong (fun l e => token ∉ l.store.publicationReservations ∧
    token ∈ (Ledger.step env l e).store.publicationReservations) (Ledger.step env) (.start s) run

/-- How often the reservation is released. -/
def releases (env : Encoding) (s : Store) (token : Token) (run : List Event) : ℕ :=
  countAlong (fun l e => token ∈ l.store.publicationReservations ∧
    token ∉ (Ledger.step env l e).store.publicationReservations) (Ledger.step env) (.start s) run

/-- What the reservations promise after a run. -/
structure KeepsReservations (env : Encoding) (policy : RetentionPolicy) (s : Store)
    (run : List Event) : Prop where
  /-- the counters are the sums over the active reservations, so not negative -/
  counted : ∀ resource, (reached env s run).publicationReserved resource =
      ∑ token ∈ (reached env s run).publicationReservations,
        (reached env s run).promised resource token ∧
    0 ≤ (reached env s run).publicationReserved resource
  /-- a reservation is entered at most once, and has been released once if it is not active -/
  once : ∀ token, entries env s token run ≤ 1 ∧ entries env s token run =
    releases env s token run + if token ∈ (reached env s run).publicationReservations then 1 else 0
  /-- a commit that is denied, or raises otherwise, leaves the reservations and their counters -/
  denied : ∀ token actual sample error,
    ((reached env s run).commitPublication token actual sample).1 = .error error →
    ((reached env s run).commitPublication token actual sample).2.publication =
      (reached env s run).publication
  /-- a commit that returns, an abort and the end of the context release -/
  ended : ∀ token ∈ (reached env s run).publicationReservations,
    (∀ actual sample, ((reached env s run).commitPublication token actual sample).1 = .ok () →
      token ∉ ((reached env s run).commitPublication token actual sample).2.publicationReservations) ∧
    ((reached env s run).abortPublication token).1 = .ok () ∧
    token ∉ ((reached env s run).abortPublication token).2.publicationReservations ∧
    token ∉ ((reached env s run).exitPublication token).2.publicationReservations
  within : (reached env s run).usedBytes ≤ policy.maximumBytes

/-- A reservation is entered at most once in a run. -/
theorem entries_le_one (hs : s.Constructed) {token : Token} {run : List Event} :
    entries env s token run ≤ 1 := by
  refine @countAlong_le_one _ _ _ _ _ (fun l : Ledger => l.store.Registered)
    (fun l => l.store.Registered ∧ l.store.Used token) (fun l e h => ?_) (fun l e h hp => ?_)
    (fun l e h => ?_) (fun l e h => ?_) _ _ (.of_constructed hs)
  · exact h.publicationStep Store.publicationStep_step
  · exact ⟨h.publicationStep Store.publicationStep_step, .inl hp.2⟩
  · exact ⟨h.1.publicationStep Store.publicationStep_step,
      h.2.publicationStep h.1 Store.publicationStep_step⟩
  · exact h.2.not_entered Store.publicationStep_step

/-- **Publication reservations over every run.** From a store whose used bytes fit the policy, in
every state reached by a run in which only holders publish, between nothing and what they have
reserved, the counters are the sums over the active reservations, each reservation is entered and
released once, and the used bytes fit the policy. -/
theorem publication_reservations {policy : RetentionPolicy} {run : List Event}
    (hs : s.Constructed) (hpolicy : s.retentionPolicy = some policy)
    (hfit : s.usedBytes ≤ policy.maximumBytes)
    (hrun : Along (fun l e => l.PublishesWithin env e ∧ l.NotBelowZero env e .bytes)
      (Ledger.step env) (.start s) run) :
    ∀ front, front <+: run → KeepsReservations env policy s front := by
  rintro front ⟨back, rfl⟩
  have h : Budgeted policy (front.foldl (Ledger.step env) (.start s)) :=
    foldl_invariant (fun _ _ hok hinv => hinv.step hok.1 hok.2)
      (.of_constructed hs hpolicy hfit) (along_append.1 hrun).1
  refine ⟨fun resource => ?_, fun token => ⟨entries_le_one hs, ?_⟩, ?_, fun token htoken => ?_, ?_⟩
  · exact ⟨h.registered.counted resource, h.registered.publicationReserved_nonneg⟩
  · have hstart : token ∉ (Ledger.start s).store.publicationReservations := by
      rw [start, hs.publications]
      exact Finset.notMem_empty token
    have hcount := @countAlong_enter_eq_leave _ _
      (fun l : Ledger => token ∈ l.store.publicationReservations) _ (Ledger.step env) (.start s) front
    rw [if_neg hstart, add_zero] at hcount
    exact hcount
  · exact fun token actual sample error herror => Store.publication_commit_error herror
  · exact ⟨fun actual sample hok => Store.notMem_of_commit_ok hok, (h.registered.abort htoken).1,
      (h.registered.abort htoken).2, h.registered.exit⟩
  · have hleft : 0 ≤ (front.foldl (Ledger.step env) (.start s)).unspent .bytes :=
      unspent_nonneg fun token htoken => (h.bounded token htoken).2
    have hfits := h.fits
    change (front.foldl (Ledger.step env) (.start s)).store.usedBytes ≤ policy.maximumBytes
    omega

/-- A policy of ten bytes. -/
def tenBytes : RetentionPolicy :=
  { Store.samplePolicy with maximumBytes := 10, bytes_bounds := by decide }

/-- The digests of the files of the run below and of its one insertion sequence. -/
def budgetDigest : Encoding := .ofTable
  [([], "e3b0c44298fc1c149afbf4c8996fb92427ae41e4649b934ca495991b7852b855"),
    ([1, 1, 1, 1, 1], "377a23f52c6b357696238c3318f677a082dd3430bb6691042bd550a5cda28ebb"),
    ([1, 1, 1, 1, 1, 1, 1, 1, 1, 1],
      "ffadf8d89d37b3b55fe1847b513cf92e3be87e4c168708c7851845df96fb36be"),
    (sequenceJson Store.samplePage.key 1 none,
      "38b31a56e0d0fd744279b049e8de54e05872656d117b45c4480dfe95dfd14c88")]

/-- A file system with room. -/
def roomy : PublicationSample := ⟨some ⟨100000000, 1000⟩, true, {}⟩

/-- Five bytes are reserved, published and committed. -/
def publicationRun : List Event :=
  [⟨none, .reservePublication tenBytes 5 1 4⟩, ⟨none, .beginPublication 0 roomy⟩,
    ⟨none, .stage none 0 true true⟩, ⟨none, .startWrite 1 0 true [1, 1, 1, 1, 1]⟩,
    ⟨none, .finishWrite 1 (.returned 5)⟩, ⟨some 0, .commitRender 1 0 Store.samplePage {}⟩,
    ⟨none, .commitPublication 0 ⟨5, 1, 4⟩ roomy⟩]

/-- The page beside the first one. -/
def otherPage (name : String) : Path := ⟨Store.samplePage.key, [name]⟩

/-- A second holder replaces the five bytes by none; a third reservation is admitted for them; the
second holder then publishes ten bytes, five in sum, and the third five. -/
def overdrawnRun : List Event := publicationRun ++
  [⟨none, .reservePublication tenBytes 5 1 4⟩, ⟨none, .beginPublication 2 roomy⟩,
    ⟨none, .stage none 0 true true⟩,
    ⟨some 2, .replaceRender 3 0 Store.samplePage (budgetDigest.sha256 [1, 1, 1, 1, 1]) {}⟩,
    ⟨none, .reservePublication tenBytes 5 1 4⟩, ⟨none, .beginPublication 4 roomy⟩,
    ⟨none, .stage none 0 true true⟩,
    ⟨none, .startWrite 5 0 true [1, 1, 1, 1, 1, 1, 1, 1, 1, 1]⟩,
    ⟨none, .finishWrite 5 (.returned 10)⟩,
    ⟨some 2, .commitRender 5 0 (otherPage "page-0002.png") {}⟩,
    ⟨none, .stage none 0 true true⟩, ⟨none, .startWrite 6 0 true [1, 1, 1, 1, 1]⟩,
    ⟨none, .finishWrite 6 (.returned 5)⟩,
    ⟨some 4, .commitRender 6 0 (otherPage "page-0003.png") {}⟩]

instance {resource : Resource} : Decidable (l.AtMostReserved env e resource) :=
  inferInstanceAs (Decidable (∀ _ ∈ e.holder, _))

instance {resource : Resource} : Decidable (l.NotBelowZero env e resource) :=
  inferInstanceAs (Decidable (∀ _ ∈ e.holder, _))

theorem tenBytes_covered : ∀ policy, some tenBytes = some policy → policy.maximumBytes ≤ 100 := by
  rintro policy ⟨⟩
  decide

theorem publication_reservations_publicationRun :
    (Store.empty 100 (some tenBytes)).Constructed ∧
      KeepsReservations budgetDigest tenBytes (.empty 100 (some tenBytes)) publicationRun := by
  have hs : (Store.empty 100 (some tenBytes)).Constructed := Store.constructed_empty tenBytes_covered
  refine ⟨hs, publication_reservations hs rfl (by decide) ?_ _ (List.prefix_refl _)⟩
  exact ⟨⟨⟨nofun, nofun, trivial⟩, nofun⟩, ⟨⟨nofun, nofun, trivial⟩, nofun⟩,
    ⟨⟨nofun, nofun, trivial⟩, nofun⟩, ⟨⟨nofun, nofun, trivial⟩, nofun⟩,
    ⟨⟨nofun, nofun, trivial⟩, nofun⟩,
    ⟨⟨fun _ => rfl, by decide +kernel, rfl, .inl rfl⟩, by decide +kernel⟩,
    ⟨⟨nofun, nofun, trivial⟩, nofun⟩, trivial⟩

/-- Net publications within the reservations do not keep the used bytes within the policy. -/
theorem publication_overdrawn :
    (Store.empty 100 (some tenBytes)).Constructed ∧
      (Store.empty 100 (some tenBytes)).usedBytes ≤ tenBytes.maximumBytes ∧
      Along (PublishesWithin budgetDigest) (Ledger.step budgetDigest)
        (.start (.empty 100 (some tenBytes))) overdrawnRun ∧
      ¬ (reached budgetDigest (.empty 100 (some tenBytes)) overdrawnRun).usedBytes ≤
        tenBytes.maximumBytes := by
  refine ⟨Store.constructed_empty tenBytes_covered, by decide, ?_, by decide +kernel⟩
  exact ⟨⟨nofun, nofun, trivial⟩, ⟨nofun, nofun, trivial⟩, ⟨nofun, nofun, trivial⟩,
    ⟨nofun, nofun, trivial⟩, ⟨nofun, nofun, trivial⟩,
    ⟨fun _ => rfl, by decide +kernel, rfl, .inl rfl⟩, ⟨nofun, nofun, trivial⟩,
    ⟨nofun, nofun, trivial⟩, ⟨nofun, nofun, trivial⟩, ⟨nofun, nofun, trivial⟩,
    ⟨fun _ => rfl, by decide +kernel, ⟨rfl, .inl rfl⟩, fun _ _ _ _ => .inl (by decide)⟩,
    ⟨nofun, nofun, trivial⟩, ⟨nofun, nofun, trivial⟩, ⟨nofun, nofun, trivial⟩,
    ⟨nofun, nofun, trivial⟩, ⟨nofun, nofun, trivial⟩,
    ⟨fun _ => rfl, by decide +kernel, rfl, .inl rfl⟩, ⟨nofun, nofun, trivial⟩,
    ⟨nofun, nofun, trivial⟩, ⟨nofun, nofun, trivial⟩,
    ⟨fun _ => rfl, by decide +kernel, rfl, .inl rfl⟩, trivial⟩

end Ledger

end NplgMcp
