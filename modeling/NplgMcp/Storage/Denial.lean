import NplgMcp.Storage.Budget

/-!
# Commits that are denied

`_commit_publication_reservation_locked` repeats the four checks of begin with what has become
visible since. It adds the full maxima of the other reservations to totals in which what they have
published is already counted, and the staged bytes to a free space from which they are already gone.
So what begin admitted commit may deny, near the budget. `CoversTwice` says that what is counted
twice fits what is promised to nobody, and under it no commit is denied.
-/

open Library

namespace NplgMcp

namespace Store

variable {env : Encoding} {s s' : Store} {staged : StagedPath} {path : Path} {action : Action}

/-! ## The staged bytes -/

/-- The counter of the staged bytes is the sum of the reservations. -/
structure Balanced (s : Store) : Prop where
  reserved : s.reservedBytes = s.stagingTotal
  fresh : ∀ staged ∈ s.stagingReservations, staged < s.nextToken

namespace Balanced

theorem of_constructed (h : s.Constructed) : s.Balanced where
  reserved := by simp [h.reserved, stagingTotal, h.staging]
  fresh := by simp [h.staging, Finmap.notMem_empty]

theorem reserved_nonneg (h : s.Balanced) : 0 ≤ s.reservedBytes := by
  rw [h.reserved]
  exact Int.natCast_nonneg _

theorem of_same (h : s.Balanced) (hreserved : s'.reservedBytes = s.reservedBytes)
    (hstaging : s'.stagingReservations = s.stagingReservations)
    (hnames : s.nextToken ≤ s'.nextToken) : s'.Balanced where
  reserved := by
    rw [hreserved, stagingTotal, hstaging]
    exact h.reserved
  fresh := by
    rw [hstaging]
    exact fun staged hstaged => lt_of_lt_of_le (h.fresh staged hstaged) hnames

theorem of_withoutDisk (h : s.Balanced) (hs : s'.withoutDisk = s.withoutDisk) : s'.Balanced := by
  obtain ⟨-, hreserved, hstaging, -, hnames⟩ := quota_of_withoutDisk hs
  exact h.of_same hreserved hstaging (ge_of_eq hnames)

theorem of_material (h : s.Balanced) (hs : KeepsMaterial s s') : s'.Balanced := by
  have hreserved := congrArg Store.reservedBytes hs.same
  have hstaging := congrArg Store.stagingReservations hs.same
  exact h.of_same hreserved hstaging hs.tokens

/-- One reservation is set to a new amount, and the counter follows. -/
theorem set (h : s.Balanced) {current amount : ℕ}
    (hcurrent : s.stagingReservations.lookup staged = some current) {reserved : ℤ}
    (hreserved : reserved = s.reservedBytes + amount - current) :
    { s with
      stagingReservations := s.stagingReservations.insert staged amount
      reservedBytes := reserved }.Balanced where
  reserved := by
    have hinsert := Dict.total_insert (w := fun _ amount => amount) (m := s.stagingReservations)
      (k := staged) (v := amount)
    have htotal := h.reserved
    rw [hcurrent, Option.elim_some] at hinsert
    simp only [stagingTotal] at htotal ⊢
    omega
  fresh := by
    intro other hother
    rcases Finmap.mem_insert.1 hother with rfl | hold
    · exact h.fresh _ (Finmap.mem_of_lookup_eq_some hcurrent)
    · exact h.fresh _ hold

/-- One reservation is dropped, and the counter follows. -/
theorem drop (h : s.Balanced) {size : ℕ}
    (hsize : s.stagingReservations.lookup staged = some size) :
    (s.releaseStagedReservation staged size).Balanced where
  reserved := by
    have htotal := h.reserved
    have herase := Dict.total_erase_add (w := fun _ amount => amount) hsize
    simp only [releaseStagedReservation, stagingTotal] at htotal ⊢
    omega
  fresh := fun other hother => h.fresh _ (Finmap.mem_erase.1 hother).2

theorem pop (h : s.Balanced) : (s.popStagingReservation staged).Balanced := by
  cases hcurrent : s.stagingReservations.lookup staged with
  | none =>
      refine h.of_same ?_ (Dict.erase_of_lookup_none hcurrent) le_rfl
      simp [popStagingReservation, hcurrent]
  | some current =>
      have hdropped := h.drop hcurrent
      simpa only [popStagingReservation, releaseStagedReservation, hcurrent, Option.getD_some]
        using hdropped

theorem reserveStagingBytes (h : s.Balanced) {amount : ℕ} :
    (s.reserveStagingBytes staged amount).2.Balanced := by
  unfold Store.reserveStagingBytes
  split
  · exact h
  · split
    · exact h
    · rename_i current hcurrent
      split
      · exact h
      · exact h.set hcurrent (by omega)

theorem releaseStagingBytes (h : s.Balanced) {amount : ℕ} :
    (s.releaseStagingBytes staged amount).2.Balanced := by
  unfold Store.releaseStagingBytes
  split
  · exact h
  · split
    · exact h
    · rename_i current hcurrent
      split
      · exact h
      · exact h.set hcurrent (by omega)

theorem reconcileStagedSize (h : s.Balanced) {size : ℕ} :
    (s.reconcileStagedSize staged size).2.Balanced := by
  unfold Store.reconcileStagedSize
  split
  · exact h
  · rename_i reserved hreserved
    split
    · split
      · exact h
      · exact h.set hreserved (by omega)
    · split
      · exact h.set hreserved (by omega)
      · exact h

theorem stage (h : s.Balanced) {transaction : Option Token} {caller : Context}
    {root opened : Bool} : (s.stage transaction caller root opened).2.Balanced := by
  unfold Store.stage
  split
  · exact h
  · split_ifs
    · exact h
    · exact h
    · refine ⟨?_, ?_⟩
      · have hnew : s.nextToken ∉ s.stagingReservations := fun hmem => lt_irrefl _ (h.fresh _ hmem)
        have hreserved := h.reserved
        simp only [stagingTotal] at hreserved ⊢
        rw [Dict.total_insert_of_notMem hnew, zero_add]
        exact hreserved
      · intro other hother
        rcases Finmap.mem_insert.1 hother with rfl | hold
        · exact Nat.lt_succ_self _
        · exact Nat.lt_succ_of_lt (h.fresh _ hold)

theorem startWrite (h : s.Balanced) {caller : Context} {root : Bool} {data : Bytes} :
    (s.startWrite staged caller root data).2.Balanced := by
  have hreserve := @reserveStagingBytes s staged h data.length
  unfold Store.startWrite
  split
  · exact h
  · split
    · exact h
    · split_ifs
      · exact h
      · split <;> rename_i heq <;> rw [heq] at hreserve
        · exact hreserve
        · exact hreserve.of_withoutDisk withoutDisk_modifyWriter

theorem finishWrite (h : s.Balanced) {outcome : WriteOutcome} :
    (s.finishWrite staged outcome).2.Balanced := by
  unfold Store.finishWrite
  split
  · exact h
  · rename_i data _
    have happend (taken : Bytes) :
        ((s.modifyWriter staged ({ · with pending := none })).appendStaged staged taken).Balanced :=
      (h.of_withoutDisk withoutDisk_modifyWriter).of_withoutDisk withoutDisk_appendStaged
    cases outcome with
    | raised flushed => exact (happend _).releaseStagingBytes
    | returned written =>
        have hrelease := @releaseStagingBytes _ staged (happend (data.take written))
          (data.length - (data.take written).length)
        dsimp only
        split <;> rename_i heq <;> rw [heq] at hrelease
        · exact hrelease
        · exact hrelease.of_withoutDisk withoutDisk_modifyWriter

theorem discard (h : s.Balanced) {caller : Context} {root unlink : Bool} :
    (s.discard staged caller root unlink).2.Balanced := by
  have hclosed : (s.closeWriter staged).Balanced := h.of_withoutDisk withoutDisk_closeWriter
  unfold Store.discard
  split
  · exact h
  · split_ifs
    · exact h
    · exact hclosed.pop
    · exact hclosed
    · have hunlinked : ((s.closeWriter staged).unlinkStaged staged).Balanced :=
        hclosed.of_withoutDisk rfl
      exact hunlinked.pop

theorem consumeExisting (h : s.Balanced) {snapshot : StagedSnapshot} {mismatch : StoreError}
    {f : CommitFaults} (hsize : s.stagingReservations.lookup staged = some snapshot.size) :
    (s.consumeExisting env staged path snapshot mismatch f).2.Balanced := by
  have hsame : (s.ensured env path f).withoutDisk = s.withoutDisk :=
    withoutDisk_ensureInsertionSequence
  have hensured := h.of_withoutDisk hsame
  have hstaging := (quota_of_withoutDisk hsame).2.2.1
  unfold Store.consumeExisting
  split
  · exact h
  · split
    · exact h
    · split
      · exact h
      · split <;> rename_i heq <;> simp only [ensured, heq] at hensured hstaging
        · exact hensured
        · split
          · exact hensured
          · split
            · exact hensured
            · have hunlinked := hensured.of_withoutDisk (@withoutDisk_unlinkStaged _ staged)
              exact hunlinked.drop ((congrArg (Finmap.lookup staged) hstaging).trans hsize)

/-- A published file takes its reservation with it. -/
theorem countPublished (h : s.Balanced) {size replaced : ℕ}
    (hsize : s.stagingReservations.lookup staged = some size) {moved : Store}
    (hmoved : moved.withoutDisk = s.withoutDisk) :
    (moved.countPublished staged size replaced).Balanced := by
  have hbalanced := h.of_withoutDisk hmoved
  have hstaging := (quota_of_withoutDisk hmoved).2.2.1
  have hdropped := hbalanced.drop ((congrArg (Finmap.lookup staged) hstaging).trans hsize)
  exact hdropped.of_same rfl rfl le_rfl

theorem publishFile (h : s.Balanced) {f : CommitFaults} :
    (s.publishFile env staged f).2.Balanced := by
  have hclosed : (s.closeWriter staged).Balanced := h.of_withoutDisk withoutDisk_closeWriter
  rcases @publishFile_cases env s staged f with heq | ⟨commit, -, heq⟩ <;> rw [heq]
  · exact h
  · have hreconciled := @reconcileStagedSize _ staged hclosed commit.snapshot.size
    unfold commitStagedFileLocked
    split
    · exact hclosed
    · split <;> rename_i made heq <;> rw [heq] at hreconciled
      · exact hreconciled
      · obtain ⟨hsize, -⟩ := reconcileStagedSize_ok heq
        dsimp only
        split
        · exact hreconciled.consumeExisting hsize
        · rcases @publishNewDocument_cases env made staged ⟨commit.key, [commit.filename]⟩
            commit.snapshot f with ⟨-, error, heq⟩ | ⟨-, -, error, heq⟩ | ⟨-, -, heq⟩ <;> rw [heq]
          · exact hreconciled.of_withoutDisk
              (withoutDisk_undoPublication.trans withoutDisk_ensureInsertionSequence)
          · exact hreconciled.of_withoutDisk
              (withoutDisk_undoPublication.trans withoutDisk_ensureInsertionSequence)
          · exact hreconciled.countPublished hsize withoutDisk_ensureInsertionSequence

theorem commitRender (h : s.Balanced) {caller : Context} {f : CommitFaults} :
    (s.commitRender env staged caller path f).2.Balanced := by
  have hclosed : (s.closeWriter staged).Balanced := h.of_withoutDisk withoutDisk_closeWriter
  rcases @commitRender_cases env s staged path caller f with heq | heq | ⟨snapshot, -, heq⟩ <;>
    rw [heq]
  · exact h
  · exact hclosed
  · have hmade := hclosed.of_withoutDisk
      (@withoutDisk_ensurePrivateDirectories _ path.parents f.directories)
    unfold commitStagedRenderLocked
    split <;> rename_i made heq <;> rw [heq] at hmade
    · exact hmade
    · split
      · exact hmade
      · rename_i hchecked
        obtain ⟨hsize, -⟩ := stagedRenderError_eq_none hchecked
        split
        · exact hmade.consumeExisting hsize
        · rcases @publishNewRender_cases env made staged path snapshot f with
            ⟨-, error, heq⟩ | ⟨-, -, error, heq⟩ | ⟨-, -, error, heq⟩ | ⟨-, -, heq⟩ <;> rw [heq]
          · exact hmade.of_withoutDisk withoutDisk_ensureInsertionSequence
          · exact hmade.of_withoutDisk withoutDisk_ensureInsertionSequence
          · exact hmade.of_withoutDisk withoutDisk_ensureInsertionSequence
          · exact hmade.countPublished hsize withoutDisk_ensureInsertionSequence

theorem replaceRender (h : s.Balanced) {caller : Context} {expected : String} {f : CommitFaults} :
    (s.replaceRender env staged caller path expected f).2.Balanced := by
  have hclosed : (s.closeWriter staged).Balanced := h.of_withoutDisk withoutDisk_closeWriter
  rcases @replaceRender_cases env s staged path caller expected f with
    heq | heq | ⟨snapshot, -, heq⟩ <;> rw [heq]
  · exact h
  · exact hclosed
  · unfold replaceStagedRenderLocked
    split
    · exact hclosed
    · rename_i hchecked
      obtain ⟨hsize, -⟩ := stagedRenderError_eq_none hchecked
      split
      · exact hclosed
      · rename_i replaced _
        split
        · exact hclosed
        · split
          · exact hclosed
          · rcases @replaceExisting_cases (s.closeWriter staged) staged path snapshot f replaced
              with ⟨-, heq⟩ | ⟨-, ⟨-, heq⟩ | ⟨-, -, heq⟩ | ⟨-, -, heq⟩⟩ <;> rw [heq]
            · exact hclosed
            · exact hclosed.of_withoutDisk rfl
            · unfold replacementUndone
              dsimp only
              split <;> split <;> exact hclosed.of_same rfl rfl le_rfl
            · exact hclosed.countPublished hsize rfl

theorem deleteRenderSubtreeLocked (h : s.Balanced) {token : Option Token} {f : DeleteFaults} :
    (s.deleteRenderSubtreeLocked path token f).2.Balanced := by
  have hremoved : (s.removed path f.removal).Balanced := by
    unfold removed
    split
    · exact h.of_withoutDisk (withoutDisk_forgetSequence.trans withoutDisk_rmtree)
    · exact h.of_withoutDisk withoutDisk_rmtree
  rcases @deleteRenderSubtreeLocked_cases s path token f with heq | ⟨-, -, -, heq | heq⟩ <;> rw [heq]
  · exact h
  · exact hremoved
  · exact hremoved.of_same rfl rfl le_rfl

theorem transactionStep (h : s.Balanced) {token : Token} {f : DeleteFaults}
    (hs : TransactionStep s token f s') : s'.Balanced := by
  rcases hs with rfl | ⟨transaction, -, -, middle, hmiddle, hs⟩
  · exact h
  · have hdeleted : middle.Balanced := by
      rcases hmiddle with rfl | rfl
      · exact h
      · exact h.deleteRenderSubtreeLocked
    rcases hs with rfl | ⟨complete, status, -, rfl⟩
    · exact hdeleted
    · exact hdeleted.of_same rfl rfl le_rfl

theorem prune (h : s.Balanced) {policy : RetentionPolicy} {sample : PruneSample} :
    (s.prune policy sample).2.Balanced := by
  rcases @prune_cases s policy sample with heq | ⟨_, _, _, _, _, pruned, hpruned, heq⟩
  · rw [heq]
    exact h
  · have hevicted : pruned.Balanced := h.of_withoutDisk (hpruned ▸ withoutDisk_pruneUnleased)
    rcases heq with heq | heq | ⟨blockers, heq⟩ <;> rw [heq]
    · exact hevicted
    · exact hevicted.of_same rfl rfl le_rfl
    · unfold Store.latchPrune
      split
      · exact hevicted.of_same rfl rfl le_rfl
      · split <;> exact hevicted.of_same rfl rfl le_rfl

/-- One step keeps the balance, whatever fails in it. -/
theorem step (h : s.Balanced) : (s.step env action).Balanced := by
  cases action with
  | stage => exact h.stage
  | startWrite => exact h.startWrite
  | finishWrite => exact h.finishWrite
  | discard => exact h.discard
  | prepareFileCommit => exact h.of_withoutDisk prepareFileCommit_cases.2
  | publishFile => exact h.publishFile
  | commitRender => exact h.commitRender
  | replaceRender => exact h.replaceRender
  | deleteRenderSubtree path f =>
      simp only [Store.step, perform, discardValue_snd, Store.deleteRenderSubtree]
      split
      · exact h
      · exact h.deleteRenderSubtreeLocked
  | registerRenderTransaction => exact h.of_material keepsMaterial_registerRenderTransaction
  | recoverRenderTransaction => exact h.transactionStep transactionStep_recover
  | commitRenderTransaction => exact h.transactionStep transactionStep_commit
  | rollbackRenderTransaction => exact h.transactionStep transactionStep_rollback
  | resetRenderTransaction => exact h.transactionStep transactionStep_reset
  | releaseRenderTransaction => exact h.of_material keepsMaterial_releaseRenderTransaction
  | acquireAssetLease => exact h.of_material keepsMaterial_acquireAssetLease
  | releaseAssetLease => exact h.of_material keepsMaterial_releaseAssetLease
  | reservePublication => exact h.of_material keepsMaterial_reservePublication
  | beginPublication => exact h.of_material keepsMaterial_beginPublication
  | commitPublication => exact h.of_material keepsMaterial_commitPublication
  | abortPublication => exact h.of_material keepsMaterial_abortPublication
  | exitPublication => exact h.of_material keepsMaterial_exitPublication
  | prune => exact h.prune

end Balanced

/-- The inventory lists every object once. -/
theorem length_of_storedObjects {listing : Listing} {objects : List StoredObject}
    (h : s.storedObjects listing = .ok objects) : objects.length = s.children.card := by
  unfold storedObjects at h
  split at h
  · cases h
  · split at h
    · cases h
    · rename_i found hfound
      split at h
      · cases h
      · obtain rfl := Except.ok.inj h
        rw [length_of_mapM_ok hfound, length_inOrder]

end Store

/-! ## What the file system has left -/

/-- What begin and commit are told of the file system. -/
def Action.sample : Action → Option PublicationSample
  | .beginPublication _ sample | .commitPublication _ _ sample => some sample
  | _ => none

/-- The reservation that is committed, and the sample. -/
def Action.commit : Action → Option (Token × PublicationSample)
  | .commitPublication token _ sample => some (token, sample)
  | _ => none

/-- What the file system has free. -/
def StorageCapacity.available (capacity : StorageCapacity) : Resource → ℤ
  | .bytes => capacity.availableBytes
  | .objects => 0
  | .inodes => capacity.availableInodes

instance : Fintype Resource := ⟨{.bytes, .objects, .inodes}, fun resource => by cases resource <;> simp⟩

/-- What has to stay free. -/
def RetentionPolicy.minimumFree (policy : RetentionPolicy) : Resource → ℤ
  | .bytes => policy.minimumFreeBytes
  | .objects => 0
  | .inodes => policy.minimumFreeInodes

/-- What the staged files take of the file system. -/
def Store.staged (s : Store) : Resource → ℤ
  | .bytes => (Dict.total (fun _ contents => contents.length) s.stagedFiles : ℕ)
  | .objects => 0
  | .inodes => s.stagedFiles.keys.card

theorem Store.staged_nonneg {s : Store} {resource : Resource} : 0 ≤ s.staged resource := by
  cases resource <;> simp [Store.staged]

/-- A ledger with what all holders have published since the start, and the last sample of the file
system: what was free, were nothing published or staged. -/
structure Survey where
  ledger : Ledger
  consumed : Resource → ℤ
  level : Resource → ℤ

namespace Survey

variable {env : Encoding} {s : Store} {v : Survey} {e : Event} {resource : Resource}
  {policy : RetentionPolicy} {token : Token}

/-- Nothing has been published, and this much is free. -/
def start (s : Store) (level : Resource → ℤ) : Survey := ⟨.start s, fun _ => 0, level⟩

/-- What would be free, were nothing published or staged. -/
def free (v : Survey) (capacity : StorageCapacity) (resource : Resource) : ℤ :=
  capacity.available resource + v.consumed resource + v.ledger.store.staged resource

/-- One step, with its sample. -/
def step (env : Encoding) (v : Survey) (e : Event) : Survey where
  ledger := v.ledger.step env e
  consumed resource := v.consumed resource + v.ledger.attributed env e resource
  level := ((e.action.sample.bind (·.capacity)).map v.free).getD v.level

/-- The clock is trusted, holders publish for an active reservation at most what it has reserved and
nobody else publishes, and what is free shrinks only by what holders publish and stage. -/
@[mk_iff]
structure Cooperates (env : Encoding) (v : Survey) (e : Event) : Prop where
  trusted : ∀ sample ∈ e.action.sample, sample.trusted = true
  within : ∀ resource, v.ledger.AtMostReserved env e resource
  held : e.holder = none → ∀ resource, v.ledger.grown env e resource ≤ 0
  shrinks : ∀ sample ∈ e.action.sample, ∀ capacity ∈ sample.capacity, ∀ resource,
    resource ≠ .objects → v.level resource ≤ v.free capacity resource

/-- What the other active reservations have published. -/
def publishedByOthers (v : Survey) (token : Token) (resource : Resource) : ℤ :=
  ∑ other ∈ v.ledger.store.publicationReservations.erase token, v.ledger.published other resource

/-- Nothing is counted twice, or what is fits what nobody has been promised. -/
def Covered (twice spare : ℤ) : Prop := twice = 0 ∨ twice ≤ spare

/-- **When a commit does not count too much.** What the reservation itself has published is still
visible beside its baselines, and each of the four checks has room for what it counts twice: what the
others have published, for it is in the totals and in their maxima, and the staged bytes, for they
are in the other writers' maxima and gone from the free space. -/
@[mk_iff]
structure CoversTwice (policy : RetentionPolicy) (v : Survey) (token : Token)
    (reservation : PublicationReservation) (capacity : StorageCapacity) : Prop where
  visibleBytes : v.ledger.published token .bytes ≤
    v.ledger.store.usedBytes - reservation.baselineUsedBytes
  visibleObjects : v.ledger.published token .objects ≤
    v.ledger.store.children.card - reservation.baselineStoredObjects
  visibleInodes : v.ledger.published token .inodes ≤
    reservation.baselineAvailableInodes - capacity.availableInodes
  bytes : Covered (v.ledger.store.reservedBytes + v.publishedByOthers token .bytes)
    (policy.maximumBytes - v.ledger.store.usedBytes - v.ledger.unspent .bytes)
  objects : Covered (v.publishedByOthers token .objects)
    (policy.maximumObjects - v.ledger.store.children.card - v.ledger.unspent .objects)
  headroomBytes : Covered
    (v.ledger.store.reservedBytes + v.ledger.store.staged .bytes + v.publishedByOthers token .bytes)
    (capacity.availableBytes + v.ledger.store.staged .bytes - policy.minimumFreeBytes -
      v.ledger.unspent .bytes)
  headroomInodes : Covered (v.ledger.store.staged .inodes + v.publishedByOthers token .inodes)
    (capacity.availableInodes + v.ledger.store.staged .inodes - policy.minimumFreeInodes -
      v.ledger.unspent .inodes)

/-- The step gives back no more than its holder has published, and if it commits an active
reservation, that commit does not count too much. -/
@[mk_iff]
structure Spares (env : Encoding) (policy : RetentionPolicy) (v : Survey) (e : Event) : Prop where
  forward : ∀ resource, v.ledger.NotBelowZero env e resource
  covers : ∀ commit ∈ e.action.commit, commit.1 ∈ v.ledger.store.publicationReservations →
    ∀ reservation ∈ v.ledger.store.reservations.lookup commit.1, ∀ capacity ∈ commit.2.capacity,
      v.CoversTwice policy commit.1 reservation capacity

instance {twice spare : ℤ} : Decidable (Covered twice spare) := inferInstanceAs (Decidable (_ ∨ _))

instance {reservation : PublicationReservation} {capacity : StorageCapacity} :
    Decidable (v.CoversTwice policy token reservation capacity) :=
  decidable_of_iff' _ (coversTwice_iff ..)

instance : Decidable (v.Cooperates env e) := decidable_of_iff' _ (cooperates_iff ..)

instance : Decidable (v.Spares env policy e) := decidable_of_iff' _ (spares_iff ..)

/-- What admission has made sure of while a reservation is active: the totals, what holders have
consumed and what is still promised fit together. -/
structure Surveyed (policy : RetentionPolicy) (v : Survey) : Prop where
  registered : v.ledger.store.Registered
  balanced : v.ledger.store.Balanced
  configured : v.ledger.store.retentionPolicy = some policy
  bounded : ∀ resource, v.ledger.Bounded resource
  bytes : v.ledger.store.publicationReservations.Nonempty →
    v.ledger.store.usedBytes + v.ledger.unspent .bytes ≤ policy.maximumBytes
  objects : v.ledger.store.publicationReservations.Nonempty →
    v.ledger.store.children.card + v.ledger.unspent .objects ≤ policy.maximumObjects
  free : ∀ resource, resource ≠ .objects → v.ledger.store.publicationReservations.Nonempty →
    v.consumed resource + v.ledger.unspent resource ≤ v.level resource - policy.minimumFree resource

namespace Surveyed

theorem of_constructed (hs : s.Constructed) (hpolicy : s.retentionPolicy = some policy)
    {level : Resource → ℤ} : Surveyed policy (.start s level) := by
  have hempty : ¬ (start s level).ledger.store.publicationReservations.Nonempty := by
    rw [start, Ledger.start, hs.publications]
    exact Finset.not_nonempty_empty
  exact
    { registered := .of_constructed hs
      balanced := .of_constructed hs
      configured := hpolicy
      bounded := fun resource token htoken => absurd ⟨token, htoken⟩ hempty
      bytes := fun hactive => absurd hactive hempty
      objects := fun hactive => absurd hactive hempty
      free := fun _ _ hactive => absurd hactive hempty }

/-- What nobody publishes for does not grow, and holders grow it by what is counted for them. -/
theorem stored_step (hheld : e.holder = none → ∀ resource, v.ledger.grown env e resource ≤ 0) :
    (v.ledger.store.step env e.action).stored resource ≤
      v.ledger.store.stored resource + v.ledger.attributed env e resource := by
  unfold Ledger.attributed
  split_ifs with hholder
  · rw [Ledger.grown]
    exact ge_of_eq (add_sub_cancel _ _)
  · have hgrown := hheld (by simpa using hholder) resource
    rw [Ledger.grown] at hgrown
    omega

/-- What is free does not fall below the last sample. -/
theorem level_step (hcooperates : v.Cooperates env e) (hresource : resource ≠ .objects) :
    v.level resource ≤ (v.step env e).level resource := by
  simp only [Survey.step]
  cases hsample : e.action.sample with
  | none => exact le_rfl
  | some sample =>
      cases hcapacity : sample.capacity with
      | none => simp [hcapacity]
      | some capacity =>
          simpa [hcapacity] using
            hcooperates.shrinks sample hsample capacity hcapacity resource hresource

/-- One step keeps what admission has made sure of. -/
theorem step (h : Surveyed policy v) (hcooperates : v.Cooperates env e)
    (hspares : v.Spares env policy e) : Surveyed policy (v.step env e) := by
  have hheld : ∀ token ∈ e.holder, token ∈ v.ledger.store.publicationReservations :=
    fun token htoken => (hcooperates.within .bytes token htoken).1
  have hguard : ∀ active active' : Finset Token, active ⊆ active' → active.Nonempty →
      active'.Nonempty := fun _ _ hsub hne => hne.mono hsub
  have hreserved := h.balanced.reserved_nonneg
  exact
    { registered := h.registered.publicationStep Store.publicationStep_step
      balanced := h.balanced.step
      configured := Ledger.configured_step h.configured
      bounded := fun resource =>
        (h.bounded resource).step h.registered (hcooperates.within resource) (hspares.forward resource)
      bytes := by
        refine Ledger.fits_step hguard h.registered hheld (h.bounded .bytes) h.bytes
          (@stored_step env v e .bytes hcooperates.held) le_rfl ?_
        intro token sample policy' reservation objects capacity _ hadmits
        have hbytes := (Store.publicationBlocker_eq_none_iff.1 hadmits.unblocked).1
        obtain rfl : policy' = policy :=
          Option.some.inj (hadmits.configured.symm.trans h.configured)
        simp only [Store.publicationReserved, PublicationReservation.reserved]
        omega
      objects := by
        refine Ledger.fits_step hguard h.registered hheld (h.bounded .objects) h.objects
          (@stored_step env v e .objects hcooperates.held) le_rfl ?_
        intro token sample policy' reservation objects capacity _ hadmits
        have hobjects := (Store.publicationBlocker_eq_none_iff.1 hadmits.unblocked).2.1
        have hlength := Store.length_of_storedObjects hadmits.listed
        obtain rfl : policy' = policy :=
          Option.some.inj (hadmits.configured.symm.trans h.configured)
        simp only [Store.publicationReserved, PublicationReservation.reserved]
        omega
      free := by
        intro resource hresource
        refine Ledger.fits_step hguard h.registered hheld (h.bounded resource)
          (h.free resource hresource) le_rfl
          (sub_le_sub_right (level_step hcooperates hresource) _) ?_
        intro token sample policy' reservation objects capacity hbegins hadmits
        obtain ⟨-, -, hfree, hinodes⟩ := Store.publicationBlocker_eq_none_iff.1 hadmits.unblocked
        obtain rfl : policy' = policy :=
          Option.some.inj (hadmits.configured.symm.trans h.configured)
        have hlevel : (v.step env e).level resource = v.free capacity resource := by
          simp [Survey.step, hbegins, Action.sample, hadmits.sampled]
        have hstaged := @Store.staged_nonneg v.ledger.store resource
        rw [hlevel, Survey.free]
        cases resource with
        | bytes =>
            simp only [Store.publicationReserved, PublicationReservation.reserved,
              StorageCapacity.available, RetentionPolicy.minimumFree]
            omega
        | objects => exact absurd rfl hresource
        | inodes =>
            simp only [Store.publicationReserved, PublicationReservation.reserved,
              StorageCapacity.available, RetentionPolicy.minimumFree]
            omega }

/-- The full maxima of the others are what is still promised, less what the reservation itself is,
and what the others have published. -/
theorem otherReserved (h : Surveyed policy v) {reservation : PublicationReservation}
    (hactive : token ∈ v.ledger.store.publicationReservations)
    (hreserved : v.ledger.store.reservations.lookup token = some reservation) :
    v.ledger.store.publicationReserved resource - reservation.reserved resource =
      v.ledger.unspent resource -
        (reservation.reserved resource - v.ledger.published token resource) +
        v.publishedByOthers token resource := by
  have hothers := Finset.sum_erase_add v.ledger.store.publicationReservations
    (v.ledger.store.promised resource) hactive
  have htwice := @sum_promised_erase _ _ (v.ledger.store.promised resource)
    (v.ledger.published · resource) _ _ hactive
  have hcounted := h.registered.counted resource
  rw [Store.promised_of_lookup hreserved] at hothers htwice
  rw [publishedByOthers, Ledger.unspent]
  omega

/-- No check of a commit that does not count too much denies it. -/
theorem commitBlocker_eq_none (h : Surveyed policy v) {actual : Store.ActualPublication}
    {sample : PublicationSample} {reservation : PublicationReservation}
    {objects : List StoredObject} {capacity : StorageCapacity}
    (hreaches : v.ledger.store.ReachesChecks token actual sample policy reservation objects capacity)
    (hlevel : ∀ resource, resource ≠ .objects → v.level resource ≤ v.free capacity resource)
    (hcovers : v.CoversTwice policy token reservation capacity) :
    v.ledger.store.commitBlocker policy reservation actual objects.length capacity = none := by
  have hactive : v.ledger.store.publicationReservations.Nonempty := ⟨token, hreaches.active⟩
  have hothers resource :=
    @otherReserved v resource policy token h reservation hreaches.active hreaches.reserved
  have hbounded resource := (h.bounded resource token hreaches.active).2
  simp only [Store.promised_of_lookup hreaches.reserved] at hbounded
  have hlength := Store.length_of_storedObjects hreaches.listed
  obtain ⟨hactualBytes, hactualObjects, hactualInodes⟩ := hreaches.within
  refine Store.publicationBlocker_eq_none_iff.2 ⟨?_, ?_, ?_, ?_⟩
  · have hfits := h.bytes hactive
    have hbytes := hothers .bytes
    have hown := hbounded .bytes
    have hvisible := hcovers.visibleBytes
    simp only [Store.publicationReserved, PublicationReservation.reserved] at hbytes hown
    rcases hcovers.bytes with htwice | htwice <;> omega
  · have hfits := h.objects hactive
    have hobjects := hothers .objects
    have hown := hbounded .objects
    have hvisible := hcovers.visibleObjects
    simp only [Store.publicationReserved, PublicationReservation.reserved] at hobjects hown
    rcases hcovers.objects with htwice | htwice <;> omega
  · have hdisk : Resource.bytes ≠ .objects := by decide
    have hfits := h.free .bytes hdisk hactive
    have hfree := hlevel .bytes hdisk
    have hbytes := hothers .bytes
    have hown := hbounded .bytes
    have hvisible := hcovers.visibleBytes
    simp only [Store.publicationReserved, PublicationReservation.reserved, Survey.free,
      StorageCapacity.available, RetentionPolicy.minimumFree] at hbytes hown hfits hfree
    rcases hcovers.headroomBytes with htwice | htwice <;> omega
  · have hdisk : Resource.inodes ≠ .objects := by decide
    have hfits := h.free .inodes hdisk hactive
    have hfree := hlevel .inodes hdisk
    have hinodes := hothers .inodes
    have hown := hbounded .inodes
    have hvisible := hcovers.visibleInodes
    simp only [Store.publicationReserved, PublicationReservation.reserved, Survey.free,
      StorageCapacity.available, RetentionPolicy.minimumFree] at hinodes hown hfits hfree
    rcases hcovers.headroomInodes with htwice | htwice <;> omega

end Surveyed

/-! ## Runs -/

/-- A commit that comes to its checks returns, no commit is denied, and none closes admission. -/
def Accepts (v : Survey) (e : Event) : Prop :=
  ∀ token actual sample, e.action = .commitPublication token actual sample →
    (∀ policy reservation objects capacity,
      v.ledger.store.ReachesChecks token actual sample policy reservation objects capacity →
      (v.ledger.store.commitPublication token actual sample).1 = .ok ()) ∧
    (∀ blocker, (v.ledger.store.commitPublication token actual sample).1 ≠
      .error (.publicationRejected blocker)) ∧
    (v.ledger.store.commitPublication token actual sample).2.admissionClosedBlocker =
      v.ledger.store.admissionClosedBlocker

/-- One commit is accepted. -/
theorem Surveyed.accepts (h : Surveyed policy v) (hcooperates : v.Cooperates env e)
    (hspares : v.Spares env policy e) : v.Accepts e := by
  intro token actual sample haction
  have hsample : e.action.sample = some sample := by rw [haction, Action.sample]
  have hpasses {policy' reservation objects capacity} (hreaches : v.ledger.store.ReachesChecks
      token actual sample policy' reservation objects capacity) :
      v.ledger.store.commitBlocker policy' reservation actual objects.length capacity = none := by
    obtain rfl : policy' = policy :=
      Option.some.inj (hreaches.configured.symm.trans h.configured)
    exact h.commitBlocker_eq_none hreaches
      (hcooperates.shrinks sample hsample capacity hreaches.sampled)
      (hspares.covers (token, sample) (by rw [haction, Action.commit]; rfl) hreaches.active
        reservation hreaches.reserved capacity hreaches.sampled)
  refine ⟨fun policy' reservation objects capacity hreaches => ?_, ?_⟩
  · rw [hreaches.commitPublication_eq (hpasses hreaches)]
  · rcases @Store.commitPublication_cases v.ledger.store token actual sample with
      ⟨error, hrefused, heq⟩ | ⟨huntrusted, -⟩ |
      ⟨policy', reservation, objects, capacity, hreaches, ⟨blocker, hblocker, -⟩ | ⟨-, heq⟩⟩
    · rw [heq]
      exact ⟨fun blocker hdenied => hrefused blocker (Except.error.inj hdenied), rfl⟩
    · rw [hcooperates.trusted sample hsample] at huntrusted
      cases huntrusted
    · rw [hpasses hreaches] at hblocker
      cases hblocker
    · rw [heq]
      exact ⟨nofun, rfl⟩

/-- **No false denials.** In every run in which the clock is trusted, holders publish at most what
they have reserved, the file system shrinks only by what they publish and stage, and no commit counts
more twice than nobody has been promised, every commit is accepted. -/
theorem commits_accepted {level : Resource → ℤ} {run : List Event} (hs : s.Constructed)
    (hpolicy : s.retentionPolicy = some policy)
    (hrun : Along (fun v e => v.Cooperates env e ∧ v.Spares env policy e) (Survey.step env)
      (.start s level) run) :
    Along Accepts (Survey.step env) (.start s level) run :=
  .of_invariant (fun _ _ hok hinv => Surveyed.step hinv hok.1 hok.2)
    (fun _ _ hok hinv => Surveyed.accepts hinv hok.1 hok.2) (Surveyed.of_constructed hs hpolicy) hrun

/-- A file system that has lost so many bytes and inodes. -/
def shrunk (bytes inodes : ℕ) : PublicationSample :=
  ⟨some ⟨100000000 - bytes, 1000 - inodes⟩, true, {}⟩

/-- What is free at the start of the runs below. -/
def ample : Resource → ℤ := StorageCapacity.available ⟨100000000, 1000⟩

/-- Two reservations of five bytes are admitted. -/
def twoReservations : List Event :=
  [⟨none, .reservePublication Ledger.tenBytes 5 1 4⟩, ⟨none, .reservePublication Ledger.tenBytes 5 1 4⟩,
    ⟨none, .beginPublication 0 (shrunk 0 0)⟩, ⟨none, .beginPublication 1 (shrunk 0 0)⟩]

/-- The holder of a reservation publishes five bytes. -/
def publishFive (holder : Token) (staged : StagedPath) (page : Path) : List Event :=
  [⟨none, .stage none 0 true true⟩, ⟨none, .startWrite staged 0 true [1, 1, 1, 1, 1]⟩,
    ⟨none, .finishWrite staged (.returned 5)⟩, ⟨some holder, .commitRender staged 0 page {}⟩]

/-- The first holder publishes and commits before the second has published. -/
def firstCommits : List Event :=
  twoReservations ++ publishFive 0 2 Store.samplePage ++
    [⟨none, .commitPublication 0 ⟨5, 1, 4⟩ (shrunk 5 3)⟩]

/-- Both holders publish, then the first commits. -/
def firstDenied : List Event :=
  twoReservations ++ publishFive 0 2 Store.samplePage ++
    publishFive 1 3 (Ledger.otherPage "page-0002.png") ++
    [⟨none, .commitPublication 0 ⟨5, 1, 4⟩ (shrunk 10 4)⟩]

theorem commits_accepted_firstCommits :
    (Store.empty 100 (some Ledger.tenBytes)).Constructed ∧
      Along Accepts (Survey.step Ledger.budgetDigest)
        (.start (.empty 100 (some Ledger.tenBytes)) ample) firstCommits := by
  have hs : (Store.empty 100 (some Ledger.tenBytes)).Constructed :=
    Store.constructed_empty Ledger.tenBytes_covered
  exact ⟨hs, commits_accepted hs rfl (by decide +kernel)⟩

/-- What begin has admitted commit may deny, though all holders keep to their reservations. -/
theorem commit_denied :
    (Store.empty 100 (some Ledger.tenBytes)).Constructed ∧
      Along (Cooperates Ledger.budgetDigest) (Survey.step Ledger.budgetDigest)
        (.start (.empty 100 (some Ledger.tenBytes)) ample) firstDenied ∧
      ¬ Along Accepts (Survey.step Ledger.budgetDigest)
        (.start (.empty 100 (some Ledger.tenBytes)) ample) firstDenied := by
  refine ⟨Store.constructed_empty Ledger.tenBytes_covered, by decide +kernel, fun haccepts => ?_⟩
  rw [firstDenied, along_append] at haccepts
  have hcommit := haccepts.2.1 0 ⟨5, 1, 4⟩ (shrunk 10 4) rfl
  exact hcommit.2.1 .byteBudget (by decide +kernel)

end Survey

end NplgMcp
