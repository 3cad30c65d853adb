import NplgMcp.Storage.Atomicity

/-!
# The footprint of an operation

What a commit, a deletion or a prune may touch. None of them changes the `authority`: leases,
transactions, reservations and names. `ChangesOnly p` confines the files whose contents differ: a
content-addressed commit and its cleanup to their object, a render commit to its destination and the
insertion-sequence record, a replacement to its destination, a deletion to the subtree. The `_cases`
lemmas invert the calls that are refused before they look at the staged file.
-/

open Library

namespace NplgMcp

namespace Store

variable {env : Encoding} {s s' s'' : Store} {staged : StagedPath} {key : ObjectKey} {path : Path}

/-! ## Calls that are refused -/

/-- A render commit is refused, or works under the lock. -/
theorem commitRender_cases {caller : Context} {f : CommitFaults} :
    (s.commitRender env staged caller path f).2 = s ∨
      (s.commitRender env staged caller path f).2 = s.closeWriter staged ∨
      ∃ snapshot, s.AdmitsRender env staged caller path none f snapshot ∧
        (s.commitRender env staged caller path f).2 =
          ((s.closeWriter staged).commitStagedRenderLocked env staged path snapshot f).2 := by
  unfold commitRender
  split
  · exact .inl rfl
  · rename_i snapshot htaken
    dsimp only
    split
    · exact .inr (.inl rfl)
    · rename_i hadmitted
      exact .inr (.inr ⟨snapshot, ⟨htaken, hadmitted⟩, synchronized_snd⟩)

/-- A replacement is refused, or works under the lock. -/
theorem replaceRender_cases {caller : Context} {expected : String} {f : CommitFaults} :
    (s.replaceRender env staged caller path expected f).2 = s ∨
      (s.replaceRender env staged caller path expected f).2 = s.closeWriter staged ∨
      ∃ snapshot, s.AdmitsRender env staged caller path (digestError expected) f snapshot ∧
        (s.replaceRender env staged caller path expected f).2 =
          ((s.closeWriter staged).replaceStagedRenderLocked env staged path expected snapshot
            f).2 := by
  unfold replaceRender
  split
  · exact .inl rfl
  · rename_i snapshot htaken
    dsimp only
    split
    · exact .inr (.inl rfl)
    · rename_i hadmitted
      exact .inr (.inr ⟨snapshot, ⟨htaken, hadmitted⟩, synchronized_snd⟩)

/-- The second part of a content-addressed commit has nothing to commit, or works under the lock. -/
theorem publishFile_cases {f : CommitFaults} :
    (s.publishFile env staged f).2 = s ∨
      ∃ commit, (s.writers.lookup staged).bind (·.committing) = some commit ∧
        (s.publishFile env staged f).2 =
          ((s.closeWriter staged).commitStagedFileLocked env staged commit f).2 := by
  unfold publishFile
  split
  · exact .inl rfl
  · rename_i commit hcommit
    exact .inr ⟨commit, hcommit, synchronized_snd⟩

/-- The store in which a subtree has been deleted as far as the deletion came, and the sequence of
an object root forgotten. -/
def removed (s : Store) (path : Path) (removal : Removal) : Store :=
  if path.parts = [] then (s.rmtree path removal).2.forgetSequence path.key
  else (s.rmtree path removal).2

/-- What `_delete_render_subtree_locked` does: nothing, or with the authority for it a deletion that
is or is not followed by a scan. -/
theorem deleteRenderSubtreeLocked_cases {token : Option Token} {f : DeleteFaults} :
    (s.deleteRenderSubtreeLocked path token f).2 = s ∨
      s.deletionError path.key token = none ∧ path ∉ s.files ∧ path ∈ s.directories ∧
        ((s.deleteRenderSubtreeLocked path token f).2 = s.removed path f.removal ∨
          (s.deleteRenderSubtreeLocked path token f).2 = (s.removed path f.removal).rescan) := by
  unfold deleteRenderSubtreeLocked
  split
  · exact .inl rfl
  · split
    · exact .inl rfl
    · rename_i hauthority
      split
      · exact .inl rfl
      · rename_i hfile
        simp only [Bool.or_eq_true, decide_eq_true_eq, not_or] at hfile
        split
        · exact .inl rfl
        · rename_i hdirectory
          refine .inr ⟨hauthority, hfile.1, not_not.1 hdirectory, ?_⟩
          dsimp only [afterRemoval]
          split
          · exact .inl rfl
          · exact .inr rfl

/-! ## The authority -/

theorem authority_consumeExisting {snapshot : StagedSnapshot} {mismatch : StoreError}
    {f : CommitFaults} :
    (s.consumeExisting env staged path snapshot mismatch f).2.authority = s.authority := by
  have hensured : (s.ensured env path f).authority = s.authority :=
    authority_of_withoutDisk withoutDisk_ensureInsertionSequence
  unfold consumeExisting
  split
  · rfl
  · split
    · rfl
    · split
      · rfl
      · split <;> rename_i heq <;> simp only [ensured, heq] at hensured
        · exact hensured
        · split
          · exact hensured
          · split <;> exact hensured

theorem authority_moved {f : CommitFaults} :
    (s.moved env staged path f).authority = s.authority :=
  authority_of_withoutDisk withoutDisk_ensureInsertionSequence

theorem authority_undoPublication {error : StoreError} {f : CommitFaults} :
    (s.undoPublication path error f).2.authority = s.authority :=
  authority_of_withoutDisk withoutDisk_undoPublication

theorem authority_publishNewDocument {snapshot : StagedSnapshot} {f : CommitFaults} :
    (s.publishNewDocument env staged path snapshot f).2.authority = s.authority := by
  have hensured : (s.ensured env path f).authority = s.authority :=
    authority_of_withoutDisk withoutDisk_ensureInsertionSequence
  rcases @publishNewDocument_cases env s staged path snapshot f with
    ⟨-, error, heq⟩ | ⟨-, -, error, heq⟩ | ⟨-, -, heq⟩ <;> rw [heq]
  · exact authority_undoPublication.trans hensured
  · exact authority_undoPublication.trans authority_moved
  · exact @authority_moved env s staged path f

theorem authority_publishNewRender {snapshot : StagedSnapshot} {f : CommitFaults} :
    (s.publishNewRender env staged path snapshot f).2.authority = s.authority := by
  have hmoved := @authority_moved env s staged path f
  rcases @publishNewRender_cases env s staged path snapshot f with
    ⟨-, error, heq⟩ | ⟨-, -, error, heq⟩ | ⟨-, -, error, heq⟩ | ⟨-, -, heq⟩ <;> rw [heq]
  · exact authority_of_withoutDisk withoutDisk_ensureInsertionSequence
  · exact hmoved
  · exact hmoved
  · exact hmoved

theorem authority_closeWriter : (s.closeWriter staged).authority = s.authority :=
  authority_of_core core_closeWriter

theorem authority_prepareFileCommit {caller : Context} {top : Namespace} {filename : String}
    {f : CommitFaults} :
    (s.prepareFileCommit env staged caller top filename f).2.authority = s.authority :=
  authority_of_withoutDisk prepareFileCommit_cases.2

theorem authority_publishFile {f : CommitFaults} :
    (s.publishFile env staged f).2.authority = s.authority := by
  rcases @publishFile_cases env s staged f with heq | ⟨commit, -, heq⟩ <;> rw [heq]
  refine Eq.trans ?_ (@authority_closeWriter s staged)
  have hreconcile := authority_of_core
    (@core_reconcileStagedSize (s.closeWriter staged) staged commit.snapshot.size)
  unfold commitStagedFileLocked
  split
  · rfl
  · split <;> rename_i heq <;> rw [heq] at hreconcile
    · exact hreconcile
    · dsimp only
      split
      · exact authority_consumeExisting.trans hreconcile
      · exact authority_publishNewDocument.trans hreconcile

theorem authority_commitRender {caller : Context} {f : CommitFaults} :
    (s.commitRender env staged caller path f).2.authority = s.authority := by
  rcases @commitRender_cases env s staged path caller f with heq | heq | ⟨snapshot, -, heq⟩ <;>
    rw [heq]
  · exact authority_closeWriter
  · refine Eq.trans ?_ (@authority_closeWriter s staged)
    have hmade := authority_of_withoutDisk
      (@withoutDisk_ensurePrivateDirectories (s.closeWriter staged) path.parents f.directories)
    unfold commitStagedRenderLocked
    split <;> rename_i heq <;> rw [heq] at hmade
    · exact hmade
    · split
      · exact hmade
      · split
        · exact authority_consumeExisting.trans hmade
        · exact authority_publishNewRender.trans hmade

theorem authority_replaceRender {caller : Context} {expected : String} {f : CommitFaults} :
    (s.replaceRender env staged caller path expected f).2.authority = s.authority := by
  rcases @replaceRender_cases env s staged path caller expected f with
    heq | heq | ⟨snapshot, -, heq⟩ <;> rw [heq]
  · exact authority_closeWriter
  · refine Eq.trans ?_ (@authority_closeWriter s staged)
    unfold replaceStagedRenderLocked
    split
    · rfl
    · split
      · rfl
      · split
        · rfl
        · split
          · rfl
          · unfold replaceExisting
            dsimp only
            split_ifs <;> rfl

theorem authority_removed {removal : Removal} :
    (s.removed path removal).authority = s.authority := by
  unfold removed
  split
  · exact authority_of_withoutDisk (withoutDisk_forgetSequence.trans withoutDisk_rmtree)
  · exact authority_of_withoutDisk withoutDisk_rmtree

theorem authority_deleteRenderSubtreeLocked {token : Option Token} {f : DeleteFaults} :
    (s.deleteRenderSubtreeLocked path token f).2.authority = s.authority := by
  rcases @deleteRenderSubtreeLocked_cases s path token f with heq | ⟨-, -, -, heq | heq⟩ <;>
    rw [heq]
  · exact authority_removed
  · exact @authority_removed s path f.removal

theorem withoutDisk_pruneUnleased {policy : RetentionPolicy} {capacity : StorageCapacity}
    {cutoffNs : ℤ} {clockTrusted : Bool} {sample : PruneSample}
    {candidates objects : List StoredObject} {freed : ℕ × ℕ} :
    (pruneUnleased policy capacity cutoffNs clockTrusted sample s candidates objects
      freed).2.withoutDisk = s.withoutDisk := by
  induction candidates generalizing s objects freed with
  | nil => rfl
  | cons candidate rest ih =>
      have hremoved := @withoutDisk_removeStoragePath s candidate.key.root
        (sample.removal candidate.key)
      unfold pruneUnleased
      dsimp only
      split
      · exact ih
      · split
        · exact ih
        · split <;> rename_i heq <;> rw [heq] at hremoved
          · exact hremoved
          · split
            · exact withoutDisk_forgetSequence.trans hremoved
            · exact ih.trans (withoutDisk_forgetSequence.trans hremoved)

/-! ## The files -/

/-- The files in which the two stores differ are all in the set. -/
def ChangesOnly (p : Path → Prop) (s s' : Store) : Prop :=
  ∀ path, ¬ p path → s'.files.lookup path = s.files.lookup path

theorem changesOnly_of_files {p : Path → Prop} (h : s'.files = s.files) : ChangesOnly p s s' :=
  fun _ _ => by rw [h]

theorem ChangesOnly.trans {p : Path → Prop} (h : ChangesOnly p s s') (h' : ChangesOnly p s' s'') :
    ChangesOnly p s s'' :=
  fun path hpath => (h' path hpath).trans (h path hpath)

theorem ChangesOnly.mono {p q : Path → Prop} (h : ChangesOnly p s s') (himp : ∀ path, p path → q path) :
    ChangesOnly q s s' :=
  fun path hpath => h path fun hp => hpath (himp path hp)

theorem changesOnly_ensureInsertionSequence {fault : SequenceFault} :
    ChangesOnly (· = key.sequenceFile) s (s.ensureInsertionSequence env key fault).2 := by
  unfold ensureInsertionSequence allocateSequence
  split_ifs
  · exact changesOnly_of_files rfl
  · exact changesOnly_of_files rfl
  · exact changesOnly_of_files rfl
  · exact changesOnly_of_files rfl
  · rcases fault with _ | _ | _ | _
    · exact fun path hpath => Finmap.lookup_insert_of_ne _ hpath
    · exact changesOnly_of_files rfl
    · exact changesOnly_of_files rfl
    · exact fun path hpath => Finmap.lookup_insert_of_ne _ hpath

theorem changesOnly_unlinkFile : ChangesOnly (· = path) s (s.unlinkFile path) :=
  fun _ hother => Finmap.lookup_erase_ne hother

theorem changesOnly_renameStaged {swapped : Option Bytes} :
    ChangesOnly (· = path) s (s.renameStaged staged path swapped) :=
  fun _ hother => lookup_renameStaged_of_ne hother

theorem changesOnly_rmtree {removal : Removal} :
    ChangesOnly (·.Within path) s (s.rmtree path removal).2 := by
  intro other hother
  have hkeeps : removal.Keeps path other := .inl hother
  cases removal <;> simp [rmtree, hkeeps]

theorem changesOnly_removed {removal : Removal} :
    ChangesOnly (·.Within path) s (s.removed path removal) := by
  unfold removed
  split
  · exact changesOnly_rmtree.trans (changesOnly_of_files files_forgetSequence)
  · exact changesOnly_rmtree

theorem changesOnly_removeStoragePath {removal : Removal} :
    ChangesOnly (·.key = key) s (s.removeStoragePath key.root removal).2 := by
  unfold removeStoragePath
  split
  · exact changesOnly_rmtree.mono fun _ hwithin => hwithin.1
  · cases removal with
    | complete => exact changesOnly_unlinkFile.mono fun _ hroot => hroot ▸ rfl
    | interrupted kept => exact changesOnly_of_files rfl

theorem changesOnly_undoPublication {error : StoreError} {f : CommitFaults} :
    ChangesOnly (·.key = path.key) s (s.undoPublication path error f).2 := by
  cases hunlink : f.unlink with
  | false =>
      rw [undoPublication_of_not_unlink hunlink]
      exact changesOnly_of_files rfl
  | true =>
      rw [undoPublication_of_unlink hunlink]
      have hunlinked : ChangesOnly (·.key = path.key) s
          ((s.unlinkFile path).forgetSequence path.key) :=
        (changesOnly_unlinkFile.mono fun _ hpath => hpath ▸ rfl).trans
          (changesOnly_of_files files_forgetSequence)
      exact hunlinked.trans changesOnly_removeStoragePath

theorem changesOnly_consumeExisting {snapshot : StagedSnapshot} {mismatch : StoreError}
    {f : CommitFaults} :
    ChangesOnly (· = path.key.sequenceFile) s
      (s.consumeExisting env staged path snapshot mismatch f).2 := by
  have hensured := @changesOnly_ensureInsertionSequence env s path.key f.sequence
  unfold consumeExisting
  split
  · exact changesOnly_of_files rfl
  · split
    · exact changesOnly_of_files rfl
    · split
      · exact changesOnly_of_files rfl
      · split <;> rename_i heq <;> rw [heq] at hensured
        · exact hensured
        · split
          · exact hensured
          · split <;> exact hensured

theorem changesOnly_moved {f : CommitFaults} :
    ChangesOnly (fun other => other = path ∨ other = path.key.sequenceFile) s
      (s.moved env staged path f) :=
  (changesOnly_ensureInsertionSequence.mono fun _ hother => .inr hother).trans
    (changesOnly_renameStaged.mono fun _ hother => .inl hother)

theorem changesOnly_publishNewRender {snapshot : StagedSnapshot} {f : CommitFaults} :
    ChangesOnly (fun other => other = path ∨ other = path.key.sequenceFile) s
      (s.publishNewRender env staged path snapshot f).2 := by
  have hmoved := @changesOnly_moved env s staged path f
  rcases @publishNewRender_cases env s staged path snapshot f with
    ⟨-, error, heq⟩ | ⟨-, -, error, heq⟩ | ⟨-, -, error, heq⟩ | ⟨-, -, heq⟩ <;> rw [heq]
  · exact changesOnly_ensureInsertionSequence.mono fun _ hother => .inr hother
  · exact hmoved
  · exact hmoved.trans (changesOnly_unlinkFile.mono fun _ hother => .inl hother)
  · exact hmoved

theorem changesOnly_publishNewDocument {snapshot : StagedSnapshot} {f : CommitFaults} :
    ChangesOnly (·.key = path.key) s (s.publishNewDocument env staged path snapshot f).2 := by
  have hmoved : ChangesOnly (·.key = path.key) s (s.moved env staged path f) :=
    changesOnly_moved.mono fun other hother => by rcases hother with rfl | rfl <;> rfl
  have hensured : ChangesOnly (·.key = path.key) s (s.ensured env path f) :=
    changesOnly_ensureInsertionSequence.mono fun other hother => hother ▸ rfl
  rcases @publishNewDocument_cases env s staged path snapshot f with
    ⟨-, error, heq⟩ | ⟨-, -, error, heq⟩ | ⟨-, -, heq⟩ <;> rw [heq]
  · exact hensured.trans changesOnly_undoPublication
  · exact hmoved.trans changesOnly_undoPublication
  · exact hmoved

/-- A content-addressed commit stays within its object. -/
theorem changesOnly_commitStagedFileLocked {commit : StagedFileCommit} {f : CommitFaults} :
    ChangesOnly (·.key = commit.key) s (s.commitStagedFileLocked env staged commit f).2 := by
  unfold commitStagedFileLocked
  split
  · exact changesOnly_of_files rfl
  · split <;> rename_i heq
    · rw [reconcileStagedSize_error heq]
      exact changesOnly_of_files rfl
    · have hreconciled := congrArg Store.files (reconcileStagedSize_ok heq).2
      dsimp only
      split
      · exact (changesOnly_of_files hreconciled).trans
          (changesOnly_consumeExisting.mono fun other hother => hother ▸ rfl)
      · exact (changesOnly_of_files hreconciled).trans (@changesOnly_publishNewDocument env _
          staged ⟨commit.key, [commit.filename]⟩ commit.snapshot f)

/-- A render commit changes its destination and the record. -/
theorem changesOnly_commitStagedRenderLocked {snapshot : StagedSnapshot} {f : CommitFaults} :
    ChangesOnly (fun other => other = path ∨ other = path.key.sequenceFile) s
      (s.commitStagedRenderLocked env staged path snapshot f).2 := by
  have hmade := @files_ensurePrivateDirectories s path.parents f.directories
  unfold commitStagedRenderLocked
  split <;> rename_i heq <;> rw [heq] at hmade
  · exact changesOnly_of_files hmade
  · split
    · exact changesOnly_of_files hmade
    · split
      · exact (changesOnly_of_files hmade).trans
          (changesOnly_consumeExisting.mono fun other hother => .inr hother)
      · exact (changesOnly_of_files hmade).trans changesOnly_publishNewRender

/-- A replacement changes its destination. -/
theorem changesOnly_replaceStagedRenderLocked {expected : String} {snapshot : StagedSnapshot}
    {f : CommitFaults} :
    ChangesOnly (· = path) s
      (s.replaceStagedRenderLocked env staged path expected snapshot f).2 := by
  unfold replaceStagedRenderLocked
  split
  · exact changesOnly_of_files rfl
  · split
    · exact changesOnly_of_files rfl
    · rename_i replaced _
      split
      · exact changesOnly_of_files rfl
      · split
        · exact changesOnly_of_files rfl
        · rcases @replaceExisting_cases s staged path snapshot f replaced with
            ⟨-, heq⟩ | ⟨-, ⟨-, heq⟩ | ⟨-, -, heq⟩ | ⟨-, -, heq⟩⟩ <;> rw [heq]
          · exact changesOnly_of_files rfl
          · exact changesOnly_renameStaged
          · exact lookup_replacementUndone_of_ne
          · exact changesOnly_renameStaged

end Store

end NplgMcp
