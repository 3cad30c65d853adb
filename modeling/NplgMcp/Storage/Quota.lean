import NplgMcp.Storage.Frame

/-!
# The quota

`Accounted` is the invariant of the two byte counters: the reserved bytes are the sum of the staging
reservations, used and reserved bytes together stay within the quota, and the bytes on disk never
exceed the used ones. Most operations only shrink the disk (`Shrinks`) or move bytes between the
counters. The exceptions are a commit whose file stays at its destination without being counted, and
a replacement of an insertion-sequence record, which the byte scan never counted.
-/

open Library

namespace NplgMcp

namespace Store

variable {env : Encoding} {s s' s'' : Store} {staged : StagedPath} {key : ObjectKey} {path : Path}

/-! ## Operations that only shrink the disk -/

/-- Nothing but the disk changes, and no byte is added to it. -/
structure Shrinks (s s' : Store) : Prop where
  same : s'.withoutDisk = s.withoutDisk
  scan : s'.scanExistingBytes ≤ s.scanExistingBytes

theorem Shrinks.refl : Shrinks s s := ⟨rfl, le_rfl⟩

theorem Shrinks.trans (h : Shrinks s s') (h' : Shrinks s' s'') : Shrinks s s'' :=
  ⟨h'.same.trans h.same, h'.scan.trans h.scan⟩

theorem shrinks_modifyWriter {f : StagedWriter → StagedWriter} :
    Shrinks s (s.modifyWriter staged f) := by
  refine ⟨withoutDisk_modifyWriter, le_of_eq ?_⟩
  unfold modifyWriter
  split <;> rfl

theorem shrinks_closeWriter : Shrinks s (s.closeWriter staged) := shrinks_modifyWriter

theorem shrinks_appendStaged {data : Bytes} : Shrinks s (s.appendStaged staged data) := by
  refine ⟨withoutDisk_appendStaged, le_of_eq ?_⟩
  unfold appendStaged
  split <;> rfl

theorem shrinks_ensurePrivateDirectories {directories : List Path} {failAt : Option ℕ} :
    Shrinks s (s.ensurePrivateDirectories directories failAt).2 := by
  refine ⟨withoutDisk_ensurePrivateDirectories, le_of_eq ?_⟩
  fun_induction ensurePrivateDirectories s directories failAt with
  | case1 | case2 | case3 => rfl
  | case4 s directory rest failAt _ _ ih => exact ih

/-- An insertion-sequence record has no weight. -/
@[simp] theorem weight_sequenceFile {contents : Bytes} :
    key.sequenceFile.weight contents = 0 := by
  simp [Path.weight, Path.IsArtifact, Path.name, ObjectKey.sequenceFile]

theorem scan_insert_sequenceFile {record : Bytes} :
    Dict.total Path.weight (s.files.insert key.sequenceFile record) = s.scanExistingBytes :=
  Dict.total_insert_of_weightless fun _ => weight_sequenceFile

theorem shrinks_ensureInsertionSequence {fault : SequenceFault} :
    Shrinks s (s.ensureInsertionSequence env key fault).2 := by
  refine ⟨withoutDisk_ensureInsertionSequence, le_of_eq ?_⟩
  unfold ensureInsertionSequence allocateSequence
  split_ifs
  · rfl
  · rfl
  · rfl
  · rfl
  · rcases fault with _ | _ | _ | _
    · exact scan_insert_sequenceFile
    · rfl
    · rfl
    · exact scan_insert_sequenceFile

theorem shrinks_forgetSequence : Shrinks s (s.forgetSequence key) := by
  refine ⟨withoutDisk_forgetSequence, le_of_eq ?_⟩
  unfold forgetSequence
  split_ifs <;> rfl

theorem shrinks_unlinkFile : Shrinks s (s.unlinkFile path) :=
  ⟨rfl, Dict.total_erase_le⟩

theorem shrinks_rmtree {removal : Removal} : Shrinks s (s.rmtree path removal).2 := by
  refine ⟨withoutDisk_rmtree, ?_⟩
  cases removal <;> exact Dict.total_restrict_le

theorem shrinks_removeStoragePath {removal : Removal} :
    Shrinks s (s.removeStoragePath path removal).2 := by
  unfold removeStoragePath
  split_ifs
  · exact shrinks_rmtree
  · cases removal with
    | complete => exact shrinks_unlinkFile
    | interrupted kept => exact .refl

/-- The cleanup of a content-addressed commit, once it has unlinked the destination. -/
theorem shrinks_undoPublication_unlinked {error : StoreError} {f : CommitFaults}
    (hunlink : f.unlink = true) :
    Shrinks (s.unlinkFile path) (s.undoPublication path error f).2 := by
  have hremove := shrinks_forgetSequence.trans (@shrinks_removeStoragePath
    ((s.unlinkFile path).forgetSequence path.key) path.key.root f.removal)
  unfold undoPublication
  rw [if_neg (by simp [hunlink])]
  split <;> rename_i heq <;> rw [heq] at hremove <;> exact hremove

theorem shrinks_undoPublication {error : StoreError} {f : CommitFaults} :
    Shrinks s (s.undoPublication path error f).2 := by
  cases hunlink : f.unlink with
  | true => exact shrinks_unlinkFile.trans (shrinks_undoPublication_unlinked hunlink)
  | false =>
      have hsame : (s.undoPublication path error f).2 = s := by simp [undoPublication, hunlink]
      rw [hsame]
      exact .refl

/-! ## The file a rename brings -/

/-- A moved file adds at most its length. -/
theorem scan_renameStaged_le {swapped : Option Bytes} :
    (s.renameStaged staged path swapped).scanExistingBytes ≤ s.scanExistingBytes +
      (swapped.getD ((s.stagedFiles.lookup staged).getD [])).length := by
  have hinsert := Dict.total_insert (w := Path.weight) (m := s.files) (k := path)
    (v := swapped.getD ((s.stagedFiles.lookup staged).getD []))
  have hweight : path.weight (swapped.getD ((s.stagedFiles.lookup staged).getD [])) ≤
      (swapped.getD ((s.stagedFiles.lookup staged).getD [])).length := by
    unfold Path.weight
    split_ifs <;> omega
  simp only [scanExistingBytes, renameStaged]
  omega

/-- A moved file that is unlinked again leaves at most what was there without it. -/
theorem shrinks_unlinkFile_renameStaged {swapped : Option Bytes} :
    Shrinks s ((s.renameStaged staged path swapped).unlinkFile path) := by
  refine ⟨rfl, ?_⟩
  have hsame : ((s.renameStaged staged path swapped).unlinkFile path).files = s.files.erase path :=
    Dict.erase_insert
  simp only [scanExistingBytes, hsame]
  exact Dict.total_erase_le

/-! ## The invariant -/

/-- The counters agree with the reservations, with the quota and with the disk. The names of staged
files come from the counter, so the next one is new. -/
structure Accounted (s : Store) : Prop where
  reserved : s.reservedBytes = s.stagingTotal
  fits : s.usedBytes + s.reservedBytes ≤ s.maxBytes
  covered : (s.scanExistingBytes : ℤ) ≤ s.usedBytes
  fresh : ∀ staged ∈ s.stagingReservations, staged < s.nextToken

namespace Accounted

theorem of_constructed (h : s.Constructed) (hfit : s.usedBytes + s.reservedBytes ≤ s.maxBytes) :
    s.Accounted where
  reserved := by simp [h.reserved, stagingTotal, h.staging]
  fits := hfit
  covered := le_of_eq h.used.symm
  fresh := by simp [h.staging, Finmap.notMem_empty]

theorem reserved_nonneg (h : s.Accounted) : 0 ≤ s.reservedBytes := by
  rw [h.reserved]
  exact Int.natCast_nonneg _

theorem shrinks (h : s.Accounted) (hs : Shrinks s s') : s'.Accounted := by
  obtain ⟨hused, hreserved, hstaging, hmax, htoken⟩ := quota_of_withoutDisk hs.same
  have hscan := hs.scan
  have hcovered := h.covered
  refine ⟨?_, ?_, by omega, ?_⟩
  · rw [hreserved, stagingTotal, hstaging]
    exact h.reserved
  · rw [hused, hreserved, hmax]
    exact h.fits
  · rw [hstaging, htoken]
    exact h.fresh

/-- Scanning again only lowers the used bytes. -/
theorem rescan (h : s.Accounted) : s.rescan.Accounted where
  reserved := h.reserved
  fits := by
    have hcovered := h.covered
    have hfits := h.fits
    simp only [Store.rescan]
    omega
  covered := le_rfl
  fresh := h.fresh

/-- One reservation is set to a new amount, and the counter follows. -/
theorem set_reservation (h : s.Accounted) {current amount : ℕ}
    (hcurrent : s.stagingReservations.lookup staged = some current) {reserved : ℤ}
    (hreserved : reserved = s.reservedBytes + amount - current)
    (hfits : s.usedBytes + reserved ≤ s.maxBytes) :
    { s with
      stagingReservations := s.stagingReservations.insert staged amount
      reservedBytes := reserved }.Accounted where
  reserved := by
    have hinsert := Dict.total_insert (w := fun _ amount => amount) (m := s.stagingReservations)
      (k := staged) (v := amount)
    have htotal := h.reserved
    rw [hcurrent, Option.elim_some] at hinsert
    simp only [stagingTotal] at htotal ⊢
    omega
  fits := hfits
  covered := h.covered
  fresh := by
    intro other hother
    rcases Finmap.mem_insert.1 hother with rfl | hold
    · exact h.fresh _ (Finmap.mem_of_lookup_eq_some hcurrent)
    · exact h.fresh _ hold

/-- One reservation is dropped, and the counter follows. -/
theorem drop_reservation (h : s.Accounted) :
    (s.popStagingReservation staged).Accounted := by
  have htotal := h.reserved
  have hfits := h.fits
  refine ⟨?_, ?_, h.covered, fun other hother => h.fresh _ (Finmap.mem_erase.1 hother).2⟩
  · cases hcurrent : s.stagingReservations.lookup staged with
    | none => simpa [popStagingReservation, stagingTotal, hcurrent,
        Dict.erase_of_lookup_none hcurrent] using htotal
    | some current =>
        have herase := Dict.total_erase_add (w := fun _ amount => amount) hcurrent
        simp only [popStagingReservation, stagingTotal, hcurrent, Option.getD_some] at htotal ⊢
        omega
  · simp only [popStagingReservation]
    omega

/-- A staged file that is at its destination, with its reservation turned into used bytes: the
counters move by the same amount, and the disk must have gained no more than what is counted. -/
theorem countPublished (h : s.Accounted) {size replaced : ℕ}
    (hsize : s.stagingReservations.lookup staged = some size) {moved : Store}
    (hmoved : moved.withoutDisk = s.withoutDisk)
    (hscan : (moved.scanExistingBytes : ℤ) ≤ s.usedBytes + (size - replaced)) :
    (moved.countPublished staged size replaced).Accounted := by
  obtain ⟨hused, hres, hstaging, hmax, htoken⟩ := quota_of_withoutDisk hmoved
  have htotal := h.reserved
  have hfits := h.fits
  have herase := Dict.total_erase_add (w := fun _ amount => amount) hsize
  simp only [stagingTotal] at htotal
  refine ⟨?_, ?_, ?_, ?_⟩
  · simp only [Store.countPublished, releaseStagedReservation, stagingTotal, hstaging, hres]
    omega
  · simp only [Store.countPublished, releaseStagedReservation, hused, hres, hmax]
    omega
  · simp only [Store.countPublished, releaseStagedReservation, hused]
    exact hscan
  · simp only [Store.countPublished, releaseStagedReservation, hstaging, htoken]
    exact fun other hother => h.fresh _ (Finmap.mem_erase.1 hother).2

/-! ## Staging -/

theorem reserveStagingBytes (h : s.Accounted) {amount : ℕ} :
    (s.reserveStagingBytes staged amount).2.Accounted := by
  unfold Store.reserveStagingBytes
  split
  · exact h
  · split
    · exact h
    · rename_i current hcurrent
      split
      · exact h
      · exact h.set_reservation hcurrent (by omega) (by omega)

theorem releaseStagingBytes (h : s.Accounted) {amount : ℕ} :
    (s.releaseStagingBytes staged amount).2.Accounted := by
  have hfits := h.fits
  unfold Store.releaseStagingBytes
  split
  · exact h
  · split
    · exact h
    · rename_i current hcurrent
      split
      · exact h
      · exact h.set_reservation hcurrent (by omega) (by omega)

theorem stage (h : s.Accounted) {transaction : Option Token} {caller : Context}
    {root opened : Bool} : (s.stage transaction caller root opened).2.Accounted := by
  unfold Store.stage
  split
  · exact h
  · split_ifs
    · exact h
    · exact h
    · refine ⟨?_, h.fits, h.covered, ?_⟩
      · have hnew : s.nextToken ∉ s.stagingReservations := fun hmem => lt_irrefl _ (h.fresh _ hmem)
        have hreserved := h.reserved
        simp only [stagingTotal] at hreserved ⊢
        rw [Dict.total_insert_of_notMem hnew, zero_add]
        exact hreserved
      · intro other hother
        rcases Finmap.mem_insert.1 hother with rfl | hold
        · exact Nat.lt_succ_self _
        · exact Nat.lt_succ_of_lt (h.fresh _ hold)

theorem startWrite (h : s.Accounted) {caller : Context} {root : Bool} {data : Bytes} :
    (s.startWrite staged caller root data).2.Accounted := by
  have hreserve := @reserveStagingBytes s staged h data.length
  unfold Store.startWrite
  split
  · exact h
  · split
    · exact h
    · split_ifs
      · exact h
      · split <;> rename_i heq <;> rw [heq] at hreserve
        · exact hreserve
        · exact hreserve.shrinks shrinks_modifyWriter

theorem finishWrite (h : s.Accounted) {outcome : WriteOutcome} :
    (s.finishWrite staged outcome).2.Accounted := by
  unfold Store.finishWrite
  split
  · exact h
  · rename_i data _
    have happend (taken : Bytes) :
        ((s.modifyWriter staged ({ · with pending := none })).appendStaged staged taken).Accounted :=
      (h.shrinks shrinks_modifyWriter).shrinks shrinks_appendStaged
    cases outcome with
    | raised flushed => exact (happend _).releaseStagingBytes
    | returned written =>
        have hrelease := @releaseStagingBytes _ staged (happend (data.take written))
          (data.length - (data.take written).length)
        dsimp only
        split <;> rename_i heq <;> rw [heq] at hrelease
        · exact hrelease
        · exact hrelease.shrinks shrinks_modifyWriter

theorem discard (h : s.Accounted) {caller : Context} {root unlink : Bool} :
    (s.discard staged caller root unlink).2.Accounted := by
  have hclosed : (s.closeWriter staged).Accounted := h.shrinks shrinks_closeWriter
  unfold Store.discard
  split
  · exact h
  · split_ifs
    · exact h
    · exact hclosed.drop_reservation
    · exact hclosed
    · have hunlinked : ((s.closeWriter staged).unlinkStaged staged).Accounted :=
        hclosed.shrinks ⟨rfl, le_rfl⟩
      exact hunlinked.drop_reservation

/-! ## Commits -/

theorem reconcileStagedSize (h : s.Accounted) {size : ℕ} :
    (s.reconcileStagedSize staged size).2.Accounted := by
  have hfits := h.fits
  unfold Store.reconcileStagedSize
  split
  · exact h
  · rename_i reserved hreserved
    split
    · split
      · exact h
      · exact h.set_reservation hreserved (by omega) (by omega)
    · split
      · exact h.set_reservation hreserved (by omega) (by omega)
      · exact h

theorem consumeExisting (h : s.Accounted) {snapshot : StagedSnapshot} {mismatch : StoreError}
    {f : CommitFaults} (hsize : s.stagingReservations.lookup staged = some snapshot.size) :
    (s.consumeExisting env staged path snapshot mismatch f).2.Accounted := by
  have hensure := h.shrinks (@shrinks_ensureInsertionSequence env s path.key f.sequence)
  have hsame := @withoutDisk_ensureInsertionSequence env s path.key f.sequence
  unfold Store.consumeExisting
  split
  · exact h
  · split
    · exact h
    · split
      · exact h
      · split <;> rename_i s' heq <;> rw [heq] at hensure hsame
        · exact hensure
        · split_ifs
          · exact hensure
          · exact hensure
          · have hlookup : (s'.unlinkStaged staged).stagingReservations.lookup staged =
                some snapshot.size := by
              rw [← hsize]
              exact congrArg _ (quota_of_withoutDisk hsame).2.2.1
            have hunlinked : (s'.unlinkStaged staged).Accounted := hensure.shrinks ⟨rfl, le_rfl⟩
            have hdropped := @drop_reservation _ staged hunlinked
            simpa [popStagingReservation, releaseStagedReservation, hlookup] using hdropped

/-- A new file, published and counted. -/
theorem published (h : s.Accounted) {size : ℕ} {contents : Bytes}
    (hsize : s.stagingReservations.lookup staged = some size)
    (hcontents : s.stagedFiles.lookup staged = some contents) (hlength : contents.length = size)
    (hs : Shrinks s s') (hstaged : s'.stagedFiles = s.stagedFiles) :
    ((s'.renameStaged staged path none).countPublished staged size 0).Accounted := by
  refine h.countPublished hsize hs.same ?_
  have hmoved := @scan_renameStaged_le s' staged path none
  have hscan := hs.scan
  have hcovered := h.covered
  rw [hstaged, hcontents, Option.getD_none, Option.getD_some, hlength] at hmoved
  omega

theorem publishNewDocument (h : s.Accounted) {snapshot : StagedSnapshot} {f : CommitFaults}
    {contents : Bytes} (hsize : s.stagingReservations.lookup staged = some snapshot.size)
    (hcontents : s.stagedFiles.lookup staged = some contents)
    (hlength : contents.length = snapshot.size)
    (hf : f.unlink = true ∨ f.lstat = true ∧ f.swapped = none) :
    (s.publishNewDocument env staged path snapshot f).2.Accounted := by
  have hensure := @shrinks_ensureInsertionSequence env s path.key f.sequence
  have hstaged := @stagedFiles_ensureInsertionSequence env s path.key f.sequence
  unfold Store.publishNewDocument
  split <;> rename_i s' heq <;> rw [heq] at hensure hstaged
  · exact h.shrinks (hensure.trans shrinks_undoPublication)
  · -- once the file is at its destination, only the unlink takes it back
    have hundo (hunlink : f.unlink = true) (error : StoreError) :
        ((s'.renameStaged staged path f.swapped).undoPublication path error f).2.Accounted :=
      h.shrinks (hensure.trans (shrinks_unlinkFile_renameStaged.trans
        (shrinks_undoPublication_unlinked hunlink)))
    split
    · exact h.shrinks (hensure.trans shrinks_undoPublication)
    · dsimp only
      split_ifs with hlstat hswapped
      · exact hundo (hf.resolve_right fun hgood => by simp [hgood.1] at hlstat) _
      · exact hundo (hf.resolve_right fun hgood => by simp [hgood.2] at hswapped) _
      · rw [Option.not_isSome_iff_eq_none.1 hswapped]
        exact h.published hsize hcontents hlength hensure hstaged

theorem commitStagedFileLocked (h : s.Accounted) {commit : StagedFileCommit} {f : CommitFaults}
    (hf : f.unlink = true ∨ f.lstat = true ∧ f.swapped = none) :
    (s.commitStagedFileLocked env staged commit f).2.Accounted := by
  have hreconcile := @reconcileStagedSize s staged h commit.snapshot.size
  unfold Store.commitStagedFileLocked
  split
  · exact h
  · rename_i hidentity
    obtain ⟨-, contents, hcontents, hlength⟩ :=
      hasStagedIdentity_iff.1 (by simpa using hidentity)
    split <;> rename_i heq <;> rw [heq] at hreconcile
    · exact hreconcile
    · obtain ⟨hsize, hsame⟩ := reconcileStagedSize_ok heq
      have hstaged := congrArg Store.stagedFiles hsame
      dsimp only
      split
      · exact hreconcile.consumeExisting hsize
      · exact hreconcile.publishNewDocument hsize (hstaged ▸ hcontents) hlength hf

theorem prepareFileCommit (h : s.Accounted) {caller : Context} {top : Namespace}
    {filename : String} {f : CommitFaults} :
    (s.prepareFileCommit env staged caller top filename f).2.Accounted := by
  unfold Store.prepareFileCommit
  split
  · exact h
  · rename_i snapshot _
    have hdirectories := h.shrinks (@shrinks_ensurePrivateDirectories s
      [(⟨top, top.label ++ "_" ++ snapshot.sha256⟩ : ObjectKey).root] f.directories)
    split
    · exact h.shrinks shrinks_closeWriter
    · split
      · exact h.shrinks shrinks_closeWriter
      · split
        · exact h.shrinks shrinks_closeWriter
        · dsimp only
          split <;> rename_i heq <;> rw [heq] at hdirectories
          · exact hdirectories.shrinks shrinks_closeWriter
          · exact hdirectories.shrinks shrinks_modifyWriter

theorem publishFile (h : s.Accounted) {f : CommitFaults}
    (hf : f.unlink = true ∨ f.lstat = true ∧ f.swapped = none) :
    (s.publishFile env staged f).2.Accounted := by
  unfold Store.publishFile
  split
  · exact h
  · rw [synchronized_snd]
    exact (h.shrinks shrinks_closeWriter).commitStagedFileLocked hf

/-- What a render commit or a replacement needs of the operating system: it can look at the file it
moved, and can remove it when another file had been put in its place. -/
theorem publishNewRender (h : s.Accounted) {snapshot : StagedSnapshot} {f : CommitFaults}
    {contents : Bytes} (hsize : s.stagingReservations.lookup staged = some snapshot.size)
    (hcontents : s.stagedFiles.lookup staged = some contents)
    (hlength : contents.length = snapshot.size)
    (hf : f.lstat = true ∧ (f.swapped = none ∨ f.unlink = true)) :
    (s.publishNewRender env staged path snapshot f).2.Accounted := by
  have hensure := @shrinks_ensureInsertionSequence env s path.key f.sequence
  have hstaged := @stagedFiles_ensureInsertionSequence env s path.key f.sequence
  unfold Store.publishNewRender
  split <;> rename_i s' heq <;> rw [heq] at hensure hstaged
  · exact h.shrinks hensure
  · split
    · exact h.shrinks hensure
    · dsimp only
      split_ifs with hlstat hswapped hunlink
      · simp [hf.1] at hlstat
      · rcases hf.2 with hnone | htrue
        · simp [hnone] at hswapped
        · simp [htrue] at hunlink
      · exact h.shrinks (hensure.trans shrinks_unlinkFile_renameStaged)
      · rw [Option.not_isSome_iff_eq_none.1 hswapped]
        exact h.published hsize hcontents hlength hensure hstaged

theorem commitStagedRenderLocked (h : s.Accounted) {snapshot : StagedSnapshot} {f : CommitFaults}
    (hf : f.lstat = true ∧ (f.swapped = none ∨ f.unlink = true)) :
    (s.commitStagedRenderLocked env staged path snapshot f).2.Accounted := by
  have hdirectories := h.shrinks (@shrinks_ensurePrivateDirectories s path.parents f.directories)
  unfold Store.commitStagedRenderLocked
  split <;> rename_i heq <;> rw [heq] at hdirectories
  · exact hdirectories
  · split
    · exact hdirectories
    · rename_i hchecked
      obtain ⟨hsize, contents, hcontents, hlength⟩ := stagedRenderError_eq_none hchecked
      split
      · exact hdirectories.consumeExisting hsize
      · exact hdirectories.publishNewRender hsize hcontents hlength hf

theorem commitRender (h : s.Accounted) {caller : Context} {f : CommitFaults}
    (hf : f.lstat = true ∧ (f.swapped = none ∨ f.unlink = true)) :
    (s.commitRender env staged caller path f).2.Accounted := by
  have hclosed : (s.closeWriter staged).Accounted := h.shrinks shrinks_closeWriter
  unfold Store.commitRender
  split
  · exact h
  · dsimp only
    split
    · exact hclosed
    · rw [synchronized_snd]
      exact hclosed.commitStagedRenderLocked hf

/-- A replacement moves the counter by the difference of the sizes, and the byte scan by the
difference of the weights. -/
theorem replaceExisting (h : s.Accounted) {snapshot : StagedSnapshot} {f : CommitFaults}
    {replaced : Bytes} (hreplaced : s.files.lookup path = some replaced)
    (hsize : s.stagingReservations.lookup staged = some snapshot.size)
    (hf : f.lstat = true ∧ (f.swapped = none ∨ f.unlink = true))
    (hrecord : path.IsArtifact ∨ replaced.length ≤ snapshot.size) :
    (s.replaceExisting staged path replaced snapshot f).2.Accounted := by
  unfold Store.replaceExisting
  split_ifs with hidentity hrename hlstat hswapped hunlink hscan hscan
  · exact h
  · exact h
  · simp [hf.1] at hlstat
  · exact h.shrinks shrinks_unlinkFile_renameStaged
  · exact (h.shrinks shrinks_unlinkFile_renameStaged).rescan
  · exact absurd (hf.2.resolve_left fun hnone => by simp [hnone] at hswapped) hunlink
  · exact absurd (hf.2.resolve_left fun hnone => by simp [hnone] at hswapped) hunlink
  · obtain ⟨-, contents, hcontents, hlength⟩ :=
      hasStagedIdentity_iff.1 (by simpa using hidentity)
    refine h.countPublished hsize rfl ?_
    have hcovered := h.covered
    have hinsert := Dict.total_insert (w := Path.weight) (m := s.files) (k := path)
      (v := contents)
    rw [hreplaced, Option.elim_some] at hinsert
    have hmoved : (s.renameStaged staged path f.swapped).scanExistingBytes =
        Dict.total Path.weight (s.files.insert path contents) := by
      simp [scanExistingBytes, renameStaged, Option.not_isSome_iff_eq_none.1 hswapped, hcontents]
    rw [hmoved]
    simp only [scanExistingBytes] at hcovered
    by_cases hartifact : path.IsArtifact
    · have hold : path.weight replaced = replaced.length := if_pos hartifact
      have hnew : path.weight contents = contents.length := if_pos hartifact
      omega
    · have hshorter := hrecord.resolve_left hartifact
      have hold : path.weight replaced = 0 := if_neg hartifact
      have hnew : path.weight contents = 0 := if_neg hartifact
      omega

theorem replaceStagedRenderLocked (h : s.Accounted) {expected : String}
    {snapshot : StagedSnapshot} {f : CommitFaults}
    (hf : f.lstat = true ∧ (f.swapped = none ∨ f.unlink = true))
    (hrecord : ∀ replaced, s.files.lookup path = some replaced →
      path.IsArtifact ∨ replaced.length ≤ snapshot.size) :
    (s.replaceStagedRenderLocked env staged path expected snapshot f).2.Accounted := by
  unfold Store.replaceStagedRenderLocked
  split
  · exact h
  · rename_i hchecked
    obtain ⟨hsize, -⟩ := stagedRenderError_eq_none hchecked
    split
    · exact h
    · rename_i replaced hreplaced
      split_ifs
      · exact h
      · exact h
      · exact h.replaceExisting hreplaced hsize hf (hrecord replaced hreplaced)

theorem replaceRender (h : s.Accounted) {caller : Context} {expected : String} {f : CommitFaults}
    (hf : f.lstat = true ∧ (f.swapped = none ∨ f.unlink = true))
    (hrecord : ∀ replaced writer, s.files.lookup path = some replaced →
      s.writers.lookup staged = some writer →
      path.IsArtifact ∨ replaced.length ≤ writer.recorded.length) :
    (s.replaceRender env staged caller path expected f).2.Accounted := by
  have hclosed : (s.closeWriter staged).Accounted := h.shrinks shrinks_closeWriter
  unfold Store.replaceRender
  split
  · exact h
  · rename_i snapshot hsnapshot
    dsimp only
    split
    · exact hclosed
    · rw [synchronized_snd]
      refine hclosed.replaceStagedRenderLocked hf fun replaced hreplaced => ?_
      obtain ⟨writer, hwriter, hsize⟩ := snapshot_ok hsnapshot
      rw [hsize]
      exact hrecord replaced writer (by rwa [files_closeWriter] at hreplaced) hwriter

/-! ## Deletions, transactions and publication -/

theorem deleteRenderSubtreeLocked (h : s.Accounted) {token : Option Token} {f : DeleteFaults} :
    (s.deleteRenderSubtreeLocked path token f).2.Accounted := by
  unfold Store.deleteRenderSubtreeLocked
  split
  · exact h
  · split
    · exact h
    · split
      · exact h
      · split
        · exact h
        · have hremoved : (if path.parts = [] then
              (s.rmtree path f.removal).2.forgetSequence path.key
              else (s.rmtree path f.removal).2).Accounted := by
            split_ifs
            · exact h.shrinks (shrinks_rmtree.trans shrinks_forgetSequence)
            · exact h.shrinks shrinks_rmtree
          dsimp only [afterRemoval]
          split
          · exact hremoved
          · exact hremoved.rescan

theorem setTransaction (h : s.Accounted) {token : Token} {transaction : RenderTransaction} :
    (s.setTransaction token transaction).Accounted :=
  ⟨h.reserved, h.fits, h.covered, h.fresh⟩

theorem transactionStep (h : s.Accounted) {token : Token} {f : DeleteFaults}
    (hs : TransactionStep s token f s') : s'.Accounted := by
  rcases hs with rfl | ⟨transaction, -, -, middle, hmiddle, hs⟩
  · exact h
  · have hdeleted : middle.Accounted := by
      rcases hmiddle with rfl | rfl
      · exact h
      · exact h.deleteRenderSubtreeLocked
    rcases hs with rfl | ⟨complete, status, -, rfl⟩
    · exact hdeleted
    · exact hdeleted.setTransaction

end Accounted

theorem shrinks_pruneUnleased {policy : RetentionPolicy} {capacity : StorageCapacity}
    {cutoffNs : ℤ} {clockTrusted : Bool} {sample : PruneSample} {candidates objects : List StoredObject}
    {freed : ℕ × ℕ} :
    Shrinks s (pruneUnleased policy capacity cutoffNs clockTrusted sample s candidates objects
      freed).2 := by
  induction candidates generalizing s objects freed with
  | nil => exact .refl
  | cons candidate rest ih =>
      have hremoved := @shrinks_removeStoragePath s candidate.key.root
        (sample.removal candidate.key)
      unfold pruneUnleased
      dsimp only
      split
      · exact ih
      · split
        · exact ih
        · split <;> rename_i heq <;> rw [heq] at hremoved
          · exact hremoved
          · split
            · exact hremoved.trans shrinks_forgetSequence
            · exact (hremoved.trans shrinks_forgetSequence).trans ih

namespace Accounted

theorem latchPrune (h : s.Accounted) {blockers : List PruneBlocker} :
    (s.latchPrune blockers).Accounted := by
  unfold Store.latchPrune
  split
  · exact ⟨h.reserved, h.fits, h.covered, h.fresh⟩
  · split
    · exact h
    · exact ⟨h.reserved, h.fits, h.covered, h.fresh⟩

theorem prune (h : s.Accounted) {policy : RetentionPolicy} {sample : PruneSample} :
    (s.prune policy sample).2.Accounted := by
  rcases @prune_cases s policy sample with heq | ⟨_, _, _, _, _, pruned, hpruned, heq⟩
  · rw [heq]
    exact h
  · have hevicted : pruned.Accounted := hpruned ▸ h.shrinks shrinks_pruneUnleased
    rcases heq with heq | heq | ⟨blockers, heq⟩ <;> rw [heq]
    · exact hevicted
    · exact hevicted.rescan
    · exact hevicted.rescan.rescan.latchPrune

/-- An operation on the reservations, the leases or the transactions leaves what is accounted
for. -/
theorem keepsMaterial (h : s.Accounted) (hs : KeepsMaterial s s') : s'.Accounted where
  reserved := by
    have hreserved := congrArg Store.reservedBytes hs.same
    have hstaging := congrArg Store.stagingReservations hs.same
    simp only [material] at hreserved hstaging
    rw [hreserved, stagingTotal, hstaging]
    exact h.reserved
  fits := by
    have hused := congrArg Store.usedBytes hs.same
    have hreserved := congrArg Store.reservedBytes hs.same
    have hmax := congrArg Store.maxBytes hs.same
    simp only [material] at hused hreserved hmax
    rw [hused, hreserved, hmax]
    exact h.fits
  covered := by
    have hused := congrArg Store.usedBytes hs.same
    have hfiles := congrArg Store.files hs.same
    simp only [material] at hused hfiles
    rw [hused, scanExistingBytes, hfiles]
    exact h.covered
  fresh := by
    have hstaging := congrArg Store.stagingReservations hs.same
    simp only [material] at hstaging
    rw [hstaging]
    exact fun staged hstaged => lt_of_lt_of_le (h.fresh staged hstaged) hs.tokens

end Accounted

/-! ## Runs -/

/-- The step leaves no moved file uncounted: where a file may have to be taken back after the rename
the call that does so succeeds, a render commit or a replacement can look at the file it moved, and
no replacement puts a shorter file in the place of an insertion-sequence record. -/
def CountsMoved (s : Store) : Action → Prop
  | .publishFile _ f => f.unlink = true ∨ f.lstat = true ∧ f.swapped = none
  | .commitRender _ _ _ f => f.lstat = true ∧ (f.swapped = none ∨ f.unlink = true)
  | .replaceRender staged _ destination _ f =>
    (f.lstat = true ∧ (f.swapped = none ∨ f.unlink = true)) ∧
      ∀ replaced writer, s.files.lookup destination = some replaced →
        s.writers.lookup staged = some writer →
        destination.IsArtifact ∨ replaced.length ≤ writer.recorded.length
  | _ => True

/-- One step keeps the account. -/
theorem Accounted.step (h : s.Accounted) {action : Action} (hok : s.CountsMoved action) :
    (s.step env action).Accounted := by
  cases action with
  | stage => exact h.stage
  | startWrite => exact h.startWrite
  | finishWrite => exact h.finishWrite
  | discard => exact h.discard
  | prepareFileCommit => exact h.prepareFileCommit
  | publishFile => exact h.publishFile hok
  | commitRender => exact h.commitRender hok
  | replaceRender => exact h.replaceRender hok.1 hok.2
  | deleteRenderSubtree path f =>
      simp only [Store.step, perform, discardValue_snd, Store.deleteRenderSubtree]
      split
      · exact h
      · exact h.deleteRenderSubtreeLocked
  | registerRenderTransaction => exact h.keepsMaterial keepsMaterial_registerRenderTransaction
  | recoverRenderTransaction => exact h.transactionStep transactionStep_recover
  | commitRenderTransaction => exact h.transactionStep transactionStep_commit
  | rollbackRenderTransaction => exact h.transactionStep transactionStep_rollback
  | resetRenderTransaction => exact h.transactionStep transactionStep_reset
  | releaseRenderTransaction => exact h.keepsMaterial keepsMaterial_releaseRenderTransaction
  | acquireAssetLease => exact h.keepsMaterial keepsMaterial_acquireAssetLease
  | releaseAssetLease => exact h.keepsMaterial keepsMaterial_releaseAssetLease
  | reservePublication => exact h.keepsMaterial keepsMaterial_reservePublication
  | beginPublication => exact h.keepsMaterial keepsMaterial_beginPublication
  | commitPublication => exact h.keepsMaterial keepsMaterial_commitPublication
  | abortPublication => exact h.keepsMaterial keepsMaterial_abortPublication
  | exitPublication => exact h.keepsMaterial keepsMaterial_exitPublication
  | prune => exact h.prune

/-- Seven bytes are given to a writer that takes five of them, and the five are committed. -/
def shortWriteRun (f : CommitFaults) : List Action :=
  [.stage none 0 true true, .startWrite 0 0 true [1, 1, 1, 1, 1, 1, 1],
    .finishWrite 0 (.returned 5), .commitRender 0 0 samplePage f, .discard 0 0 true true]

end Store

end NplgMcp
