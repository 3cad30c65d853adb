import NplgMcp.Storage.Frame

/-!
# Commits that raise

A commit that raises should leave everything but its own staged file as it was. `Atomic` says so of
the published artifacts, of the other writers' reservations and of the used bytes, and
`commit_atomic_iff` when it is so. Two things go wrong. The cleanup of a content-addressed
commit removes the whole object directory, which other files with the same bytes share. And a file
that was moved to its destination and neither counted nor taken back makes the counter disagree with
the disk.
-/

open Library

namespace NplgMcp

namespace Store

variable {env : Encoding} {s s' s'' : Store} {staged : StagedPath} {key : ObjectKey} {path : Path}

/-- What a commit that raises should leave: every published artifact (a replacement's destination
only as long as nothing has been renamed to it), every other reservation, and used bytes that agree
with the disk if they did before. -/
structure Atomic (s s' : Store) (staged : StagedPath) (replaced : Option Path) : Prop where
  artifacts : ∀ path contents, path.IsArtifact → s.files.lookup path = some contents →
    (replaced = some path → s'.stagedFiles.lookup staged = s.stagedFiles.lookup staged) →
    s'.files.lookup path = some contents
  reservations : ∀ other, other ≠ staged →
    s'.stagingReservations.lookup other = s.stagingReservations.lookup other
  used : s.usedBytes = s.scanExistingBytes → s'.usedBytes = s'.scanExistingBytes

/-! ## When it does -/

/-- The sequence is there or can be allocated, and the rename succeeds. -/
def renames (env : Encoding) (s : Store) (destination : Path) (f : CommitFaults) : Bool :=
  (s.ensureInsertionSequence env destination.key f.sequence).1.isOk && f.rename &&
    (s.ensureInsertionSequence env destination.key f.sequence).2.hasParent destination

/-- The bytes that the rename puts at the destination. -/
def movedBytes (s : Store) (staged : StagedPath) (f : CommitFaults) : Bytes :=
  f.swapped.getD ((s.stagedFiles.lookup staged).getD [])

/-- The path outlives the deletion of the object directory. -/
def SurvivesCleanup (s : Store) (key : ObjectKey) (removal : Removal) (path : Path) : Prop :=
  if key.root ∈ s.directories then removal.Keeps key.root path
  else path = key.root → ∃ kept, removal = .interrupted kept

/-- What a content-addressed commit that raises leaves is harmless: a file that stays uncounted has
no weight, a file that is counted and only not synchronized is one that the byte scan counts, and
otherwise the cleanup finds no artifact in the object directory but its own. -/
def DocumentLeavesNoTrace (env : Encoding) (s : Store) (staged : StagedPath) (destination : Path)
    (snapshot : StagedSnapshot) (f : CommitFaults) : Prop :=
  if s.renames env destination f = true ∧ f.lstat = true ∧ f.swapped = none then
    s.usedBytes = s.scanExistingBytes → destination.IsArtifact ∨ snapshot.size = 0
  else if f.unlink = true then
    ∀ path contents, path.IsArtifact → s.files.lookup path = some contents →
      s.SurvivesCleanup destination.key f.removal path
  else s.renames env destination f = true → s.usedBytes = s.scanExistingBytes →
    destination.weight (s.movedBytes staged f) = 0

/-- The same for a render commit, which cleans up nothing but its own file. -/
def RenderLeavesNoTrace (env : Encoding) (s : Store) (staged : StagedPath) (destination : Path)
    (snapshot : StagedSnapshot) (f : CommitFaults) : Prop :=
  s.renames env destination f = true → s.usedBytes = s.scanExistingBytes →
    if f.lstat = true ∧ f.swapped = none then destination.IsArtifact ∨ snapshot.size = 0
    else (f.lstat = true ∧ f.unlink = true) ∨ destination.weight (s.movedBytes staged f) = 0

/-- The same for a replacement, which scans the bytes again when it finds another file. -/
def ReplacementLeavesNoTrace (s : Store) (staged : StagedPath) (destination : Path)
    (replaced : Bytes) (snapshot : StagedSnapshot) (f : CommitFaults) : Prop :=
  s.hasStagedIdentity staged snapshot f.identityAgain = true → f.rename = true →
    s.usedBytes = s.scanExistingBytes →
    if f.lstat = false then
      destination.weight (s.movedBytes staged f) = destination.weight replaced
    else if f.swapped = none then destination.IsArtifact ∨ snapshot.size = replaced.length
    else f.scan = true ∨ (if f.unlink then 0 else destination.weight (s.movedBytes staged f)) =
      destination.weight replaced

/-! ## Files that stay -/

/-- Every artifact is where it was, with the same bytes. -/
def SameArtifacts (s s' : Store) : Prop :=
  ∀ path, path.IsArtifact → s'.files.lookup path = s.files.lookup path

theorem SameArtifacts.refl : SameArtifacts s s := fun _ _ => rfl

theorem SameArtifacts.trans (h : SameArtifacts s s') (h' : SameArtifacts s' s'') :
    SameArtifacts s s'' :=
  fun path hpath => (h' path hpath).trans (h path hpath)

theorem sameArtifacts_of_files (h : s'.files = s.files) : SameArtifacts s s' :=
  fun _ _ => by rw [h]

/-- The byte scan sees nothing but artifacts. -/
theorem SameArtifacts.scan (h : SameArtifacts s s') :
    s'.scanExistingBytes = s.scanExistingBytes := by
  refine Dict.total_congr fun path => ?_
  by_cases hpath : path.IsArtifact
  · rw [h path hpath]
  · have hweight : ∀ contents, path.weight contents = 0 := fun _ => if_neg hpath
    cases s'.files.lookup path <;> cases s.files.lookup path <;> simp [hweight]

theorem not_isArtifact_sequenceFile : ¬ key.sequenceFile.IsArtifact := by
  simp [Path.IsArtifact, Path.name, ObjectKey.sequenceFile]

theorem sameArtifacts_insert_sequenceFile {record : Bytes} (hfiles : s'.files =
    s.files.insert key.sequenceFile record) : SameArtifacts s s' := by
  intro path hpath
  rw [hfiles, Finmap.lookup_insert_of_ne]
  rintro rfl
  exact not_isArtifact_sequenceFile hpath

theorem sameArtifacts_ensureInsertionSequence {fault : SequenceFault} :
    SameArtifacts s (s.ensureInsertionSequence env key fault).2 := by
  unfold ensureInsertionSequence allocateSequence
  split_ifs
  · exact .refl
  · exact .refl
  · exact .refl
  · exact .refl
  · rcases fault with _ | _ | _ | _
    · exact sameArtifacts_insert_sequenceFile rfl
    · exact .refl
    · exact .refl
    · exact sameArtifacts_insert_sequenceFile rfl

theorem directories_ensureInsertionSequence {fault : SequenceFault} :
    (s.ensureInsertionSequence env key fault).2.directories = s.directories := by
  unfold ensureInsertionSequence allocateSequence
  split_ifs
  · rfl
  · rfl
  · rfl
  · rfl
  · rcases fault with _ | _ | _ | _ <;> rfl

/-- A rename onto a free path: the artifacts are those from before and the moved file. -/
theorem lookup_renameStaged_of_ne {swapped : Option Bytes} {other : Path} (h : other ≠ path) :
    (s.renameStaged staged path swapped).files.lookup other = s.files.lookup other :=
  Finmap.lookup_insert_of_ne _ h

/-- A rename exchanges the weight at its destination. -/
theorem scan_renameStaged {f : CommitFaults} :
    (s.renameStaged staged path f.swapped).scanExistingBytes +
      (s.files.lookup path).elim 0 path.weight =
      s.scanExistingBytes + path.weight (s.movedBytes staged f) :=
  Dict.total_insert

/-! ## The cleanup of a content-addressed commit -/

/-- A cleanup whose first unlink raises does nothing. -/
theorem undoPublication_of_not_unlink {error : StoreError} {f : CommitFaults}
    (hunlink : f.unlink = false) : (s.undoPublication path error f).2 = s := by
  simp [undoPublication, hunlink]

/-- A cleanup that goes on removes the destination, the sequence and the object directory. -/
theorem undoPublication_of_unlink {error : StoreError} {f : CommitFaults}
    (hunlink : f.unlink = true) : (s.undoPublication path error f).2 =
      (((s.unlinkFile path).forgetSequence path.key).removeStoragePath path.key.root
        f.removal).2 := by
  unfold undoPublication
  rw [if_neg (by simp [hunlink])]
  split <;> rename_i heq <;> rw [heq]

/-- The deletion of an object directory keeps what survives it and nothing else. -/
theorem lookup_removeStoragePath {removal : Removal} {other : Path} :
    (s.removeStoragePath key.root removal).2.files.lookup other = s.files.lookup other ∧
        s.SurvivesCleanup key removal other ∨
      (s.removeStoragePath key.root removal).2.files.lookup other = none ∧
        ¬ s.SurvivesCleanup key removal other := by
  unfold removeStoragePath SurvivesCleanup
  split_ifs with hdirectory
  · by_cases hkeeps : removal.Keeps key.root other <;> cases removal <;> simp [rmtree, hkeeps]
  · cases removal with
    | complete =>
        by_cases hroot : other = key.root
        · subst hroot
          simp [unlinkFile]
        · simp [unlinkFile, hroot, Finmap.lookup_erase_ne hroot]
    | interrupted kept => simp

theorem directories_forgetSequence : (s.forgetSequence key).directories = s.directories := by
  unfold forgetSequence
  split_ifs <;> rfl

theorem files_forgetSequence : (s.forgetSequence key).files = s.files := by
  unfold forgetSequence
  split_ifs <;> rfl

/-- A cleanup that goes on removes the destination, and keeps of the rest what survives the deletion
of the object directory. -/
theorem lookup_undoPublication {error : StoreError} {f : CommitFaults} (hunlink : f.unlink = true)
    {other : Path} :
    (s.undoPublication path error f).2.files.lookup other =
          (s.unlinkFile path).files.lookup other ∧ s.SurvivesCleanup path.key f.removal other ∨
      (s.undoPublication path error f).2.files.lookup other = none ∧
        ¬ s.SurvivesCleanup path.key f.removal other := by
  have hsurvives : ((s.unlinkFile path).forgetSequence path.key).SurvivesCleanup path.key f.removal
      other ↔ s.SurvivesCleanup path.key f.removal other := by
    simp only [SurvivesCleanup, directories_forgetSequence]
    rfl
  have hremoved := @lookup_removeStoragePath ((s.unlinkFile path).forgetSequence path.key) path.key
    f.removal other
  rw [files_forgetSequence, hsurvives] at hremoved
  rw [undoPublication_of_unlink hunlink]
  exact hremoved

/-- The published artifacts stay, and so does the agreement of the used bytes with the disk. -/
structure Preserves (s s' : Store) : Prop where
  artifacts : ∀ path contents, path.IsArtifact → s.files.lookup path = some contents →
    s'.files.lookup path = some contents
  used : s.usedBytes = s.scanExistingBytes → s'.usedBytes = s'.scanExistingBytes

theorem SameArtifacts.preserves (h : SameArtifacts s s') (hused : s'.usedBytes = s.usedBytes) :
    Preserves s s' where
  artifacts path contents hpath hcontents := by rw [h path hpath, hcontents]
  used hequal := by rw [hused, h.scan, hequal]

/-- A cleanup that goes on, from a store that differs from the first one only at the destination,
preserves it exactly when no artifact goes with the object directory. -/
theorem preserves_undoPublication_iff {moved : Store} {error : StoreError} {f : CommitFaults}
    (hunlink : f.unlink = true) (hfree : s.files.lookup path = none)
    (hsame : ∀ other, other ≠ path → other.IsArtifact →
      moved.files.lookup other = s.files.lookup other)
    (hdirectories : moved.directories = s.directories) (hused : moved.usedBytes = s.usedBytes) :
    Preserves s (moved.undoPublication path error f).2 ↔
      ∀ other contents, other.IsArtifact → s.files.lookup other = some contents →
        s.SurvivesCleanup path.key f.removal other := by
  have hsurvives (other : Path) : moved.SurvivesCleanup path.key f.removal other ↔
      s.SurvivesCleanup path.key f.removal other := by simp only [SurvivesCleanup, hdirectories]
  have hunlinked (other : Path) (hother : other.IsArtifact) :
      (moved.unlinkFile path).files.lookup other = s.files.lookup other := by
    by_cases hpath : other = path
    · subst hpath
      rw [hfree]
      exact Finmap.lookup_erase _ _
    · exact (Finmap.lookup_erase_ne hpath).trans (hsame other hpath hother)
  constructor
  · intro h other contents hother hcontents
    rcases @lookup_undoPublication moved path error f hunlink other with ⟨-, hgood⟩ | ⟨hgone, -⟩
    · exact (hsurvives other).1 hgood
    · rw [h.artifacts other contents hother hcontents] at hgone
      cases hgone
  · intro h
    refine SameArtifacts.preserves (fun other hother => ?_) ?_
    · rcases @lookup_undoPublication moved path error f hunlink other with ⟨hkept, -⟩ | ⟨hgone, hbad⟩
      · rw [hkept, hunlinked other hother]
      · rw [hgone]
        cases hcontents : s.files.lookup other with
        | none => rfl
        | some contents => exact absurd ((hsurvives other).2 (h other contents hother hcontents)) hbad
    · exact (quota_of_withoutDisk withoutDisk_undoPublication).1.trans hused

/-! ## A file at a free destination -/

/-- The store in which the insertion sequence has been asked for. -/
def ensured (env : Encoding) (s : Store) (path : Path) (f : CommitFaults) : Store :=
  (s.ensureInsertionSequence env path.key f.sequence).2

/-- The store in which the staged file is at its destination. -/
def moved (env : Encoding) (s : Store) (staged : StagedPath) (path : Path) (f : CommitFaults) :
    Store :=
  (s.ensured env path f).renameStaged staged path f.swapped

/-- What `_publish_new_document_locked` does. -/
theorem publishNewDocument_cases {snapshot : StagedSnapshot} {f : CommitFaults} :
    (s.renames env path f = false ∧ ∃ error, s.publishNewDocument env staged path snapshot f =
        (s.ensured env path f).undoPublication path error f) ∨
      (s.renames env path f = true ∧ ¬ (f.lstat = true ∧ f.swapped = none) ∧
        ∃ error, s.publishNewDocument env staged path snapshot f =
          (s.moved env staged path f).undoPublication path error f) ∨
      (s.renames env path f = true ∧ (f.lstat = true ∧ f.swapped = none) ∧
        s.publishNewDocument env staged path snapshot f =
          (.ok (), (s.moved env staged path f).countPublished staged snapshot.size 0)) := by
  unfold publishNewDocument renames moved ensured
  rcases hensure : s.ensureInsertionSequence env path.key f.sequence with ⟨result, e⟩
  cases result with
  | error error => exact .inl ⟨by simp [Except.isOk, Except.toBool], error, rfl⟩
  | ok value =>
      by_cases hrename : f.rename = true ∧ e.hasParent path = true
      · refine .inr ?_
        by_cases hlstat : f.lstat = true
        · cases hswapped : f.swapped with
          | none => exact .inr (by simp [Except.isOk, Except.toBool, hrename, hlstat])
          | some found =>
              exact .inl ⟨by simp [Except.isOk, Except.toBool, hrename], by simp,
                .identityDuringCommit, by simp [hrename, hlstat]⟩
        · exact .inl ⟨by simp [Except.isOk, Except.toBool, hrename], by simp [hlstat],
            .os, by simp [hrename, hlstat]⟩
      · refine .inl ⟨?_, .os, ?_⟩
        · simpa [Except.isOk, Except.toBool, and_assoc] using hrename
        · by_cases h : f.rename = true <;> simp_all

/-- What `_commit_staged_render` does to a free destination. -/
theorem publishNewRender_cases {snapshot : StagedSnapshot} {f : CommitFaults} :
    (s.renames env path f = false ∧ ∃ error, s.publishNewRender env staged path snapshot f =
        (.error error, s.ensured env path f)) ∨
      (s.renames env path f = true ∧ ¬ (f.lstat = true ∧ (f.swapped = none ∨ f.unlink = true)) ∧
        ∃ error, s.publishNewRender env staged path snapshot f =
          (.error error, s.moved env staged path f)) ∨
      (s.renames env path f = true ∧ (f.lstat = true ∧ f.swapped ≠ none ∧ f.unlink = true) ∧
        ∃ error, s.publishNewRender env staged path snapshot f =
          (.error error, (s.moved env staged path f).unlinkFile path)) ∨
      (s.renames env path f = true ∧ (f.lstat = true ∧ f.swapped = none) ∧
        s.publishNewRender env staged path snapshot f =
          (.ok (), (s.moved env staged path f).countPublished staged snapshot.size 0)) := by
  unfold publishNewRender renames moved ensured
  rcases hensure : s.ensureInsertionSequence env path.key f.sequence with ⟨result, e⟩
  cases result with
  | error error => exact .inl ⟨by simp [Except.isOk, Except.toBool], error, rfl⟩
  | ok value =>
      by_cases hrename : f.rename = true ∧ e.hasParent path = true
      · refine .inr ?_
        by_cases hlstat : f.lstat = true
        · cases hswapped : f.swapped with
          | none => exact .inr (.inr (by simp [Except.isOk, Except.toBool, hrename, hlstat]))
          | some found =>
              by_cases hunlink : f.unlink = true
              · exact .inr (.inl (by simp [Except.isOk, Except.toBool, hrename, hlstat, hunlink]))
              · exact .inl (by simp [Except.isOk, Except.toBool, hrename, hlstat, hunlink])
        · exact .inl (by simp [Except.isOk, Except.toBool, hrename, hlstat])
      · refine .inl ⟨?_, .os, ?_⟩
        · simpa [Except.isOk, Except.toBool, and_assoc] using hrename
        · by_cases h : f.rename = true <;> simp_all

section FreeDestination

variable {f : CommitFaults}

/-- The moved file adds its weight. -/
theorem scan_moved (hfree : s.files.lookup path = none) :
    (s.moved env staged path f).scanExistingBytes =
      s.scanExistingBytes + path.weight (s.movedBytes staged f) := by
  have hsame : SameArtifacts s (s.ensured env path f) := sameArtifacts_ensureInsertionSequence
  have hmoved := @scan_renameStaged (s.ensured env path f) staged path f
  have hbytes : (s.ensured env path f).movedBytes staged f = s.movedBytes staged f := by
    simp [movedBytes, ensured]
  have hold : ((s.ensured env path f).files.lookup path).elim 0 path.weight = 0 := by
    by_cases hpath : path.IsArtifact
    · rw [hsame path hpath, hfree, Option.elim_none]
    · cases (s.ensured env path f).files.lookup path with
      | none => rfl
      | some contents => exact if_neg hpath
  rw [hold, hsame.scan, hbytes] at hmoved
  exact hmoved

theorem lookup_moved {other : Path} (hother : other ≠ path) (hartifact : other.IsArtifact) :
    (s.moved env staged path f).files.lookup other = s.files.lookup other := by
  have hsame : SameArtifacts s (s.ensured env path f) := sameArtifacts_ensureInsertionSequence
  exact (lookup_renameStaged_of_ne hother).trans (hsame other hartifact)

theorem usedBytes_moved : (s.moved env staged path f).usedBytes = s.usedBytes :=
  (quota_of_withoutDisk (withoutDisk_renameStaged.trans withoutDisk_ensureInsertionSequence)).1

theorem directories_moved : (s.moved env staged path f).directories = s.directories :=
  directories_ensureInsertionSequence

/-- At a free destination only the used bytes can be wrong. -/
theorem preserves_iff_used (hfree : s.files.lookup path = none)
    (hsame : ∀ other, other ≠ path → other.IsArtifact →
      s'.files.lookup other = s.files.lookup other) :
    Preserves s s' ↔ (s.usedBytes = s.scanExistingBytes → s'.usedBytes = s'.scanExistingBytes) := by
  refine ⟨fun h => h.used, fun h => ⟨fun other contents hother hcontents => ?_, h⟩⟩
  have hne : other ≠ path := by
    rintro rfl
    rw [hfree] at hcontents
    cases hcontents
  rw [hsame other hne hother, hcontents]

/-- A file that stays without being counted must have no weight. -/
theorem preserves_moved_iff (hfree : s.files.lookup path = none) :
    Preserves s (s.moved env staged path f) ↔
      (s.usedBytes = s.scanExistingBytes → path.weight (s.movedBytes staged f) = 0) := by
  rw [preserves_iff_used hfree fun other hne hother => lookup_moved hne hother, usedBytes_moved,
    scan_moved hfree]
  refine forall_congr' fun hused => ?_
  omega

/-- A file that is counted must be one the byte scan counts. -/
theorem preserves_countPublished_iff {snapshot : StagedSnapshot}
    (hfree : s.files.lookup path = none) (hsize : (s.movedBytes staged f).length = snapshot.size) :
    Preserves s ((s.moved env staged path f).countPublished staged snapshot.size 0) ↔
      (s.usedBytes = s.scanExistingBytes → path.IsArtifact ∨ snapshot.size = 0) := by
  have hused : ((s.moved env staged path f).countPublished staged snapshot.size 0).usedBytes =
      s.usedBytes + snapshot.size := by
    have hmoved := @usedBytes_moved env s staged path f
    simp only [countPublished, releaseStagedReservation]
    omega
  have hscan : ((s.moved env staged path f).countPublished staged snapshot.size 0).scanExistingBytes =
      s.scanExistingBytes + path.weight (s.movedBytes staged f) := scan_moved hfree
  have hsame : ∀ other, other ≠ path → other.IsArtifact →
      ((s.moved env staged path f).countPublished staged snapshot.size 0).files.lookup other =
        s.files.lookup other := fun other hne hother => lookup_moved hne hother
  rw [preserves_iff_used hfree hsame, hused, hscan]
  refine forall_congr' fun hequal => ?_
  by_cases hpath : path.IsArtifact
  · have hweight : path.weight (s.movedBytes staged f) = snapshot.size := by
      rw [← hsize]
      exact if_pos hpath
    simp only [hpath, true_or, iff_true]
    omega
  · have hweight : path.weight (s.movedBytes staged f) = 0 := if_neg hpath
    simp only [hpath, false_or]
    omega

end FreeDestination

/-! ## What each commit preserves -/

theorem preserves_ensured {f : CommitFaults} : Preserves s (s.ensured env path f) :=
  SameArtifacts.preserves sameArtifacts_ensureInsertionSequence
    (quota_of_withoutDisk withoutDisk_ensureInsertionSequence).1

theorem preserves_publishNewDocument_iff {snapshot : StagedSnapshot} {f : CommitFaults}
    (hfree : s.files.lookup path = none)
    (hsize : f.swapped = none → (s.movedBytes staged f).length = snapshot.size) :
    Preserves s (s.publishNewDocument env staged path snapshot f).2 ↔
      s.DocumentLeavesNoTrace env staged path snapshot f := by
  unfold DocumentLeavesNoTrace
  rcases @publishNewDocument_cases env s staged path snapshot f with
    ⟨hrename, error, heq⟩ | ⟨hrename, hfound, error, heq⟩ | ⟨hrename, hfound, heq⟩
  · rw [heq, if_neg (by simp [hrename])]
    by_cases hunlink : f.unlink = true
    · rw [if_pos hunlink]
      exact preserves_undoPublication_iff hunlink hfree
        (fun other _ hother => sameArtifacts_ensureInsertionSequence other hother)
        directories_ensureInsertionSequence
        (quota_of_withoutDisk withoutDisk_ensureInsertionSequence).1
    · rw [if_neg hunlink, undoPublication_of_not_unlink (by simpa using hunlink)]
      simp [hrename, preserves_ensured]
  · rw [heq, if_neg fun h => hfound h.2]
    by_cases hunlink : f.unlink = true
    · rw [if_pos hunlink]
      exact preserves_undoPublication_iff hunlink hfree
        (fun other hne hother => lookup_moved hne hother) directories_moved usedBytes_moved
    · rw [if_neg hunlink, undoPublication_of_not_unlink (by simpa using hunlink),
        preserves_moved_iff hfree]
      simp [hrename]
  · rw [heq, if_pos ⟨hrename, hfound⟩]
    exact preserves_countPublished_iff hfree (hsize hfound.2)

theorem preserves_publishNewRender_iff {snapshot : StagedSnapshot} {f : CommitFaults}
    (hfree : s.files.lookup path = none)
    (hsize : f.swapped = none → (s.movedBytes staged f).length = snapshot.size) :
    Preserves s (s.publishNewRender env staged path snapshot f).2 ↔
      s.RenderLeavesNoTrace env staged path snapshot f := by
  unfold RenderLeavesNoTrace
  rcases @publishNewRender_cases env s staged path snapshot f with
    ⟨hrename, error, heq⟩ | ⟨hrename, hfound, error, heq⟩ | ⟨hrename, hfound, error, heq⟩ |
    ⟨hrename, hfound, heq⟩
  · simp [heq, hrename, preserves_ensured]
  · have hnot : ¬ (f.lstat = true ∧ f.swapped = none) := fun h => hfound ⟨h.1, .inl h.2⟩
    have hnot' : ¬ (f.lstat = true ∧ f.unlink = true) := fun h => hfound ⟨h.1, .inr h.2⟩
    rw [heq, preserves_moved_iff hfree]
    simp only [hrename, hnot, hnot', if_false, false_or, forall_const]
  · -- the file is taken back from a destination that was free
    have hnot : ¬ (f.lstat = true ∧ f.swapped = none) := fun h => hfound.2.1 h.2
    have hsame : SameArtifacts s ((s.moved env staged path f).unlinkFile path) := by
      intro other hother
      by_cases hpath : other = path
      · subst hpath
        rw [hfree]
        exact Finmap.lookup_erase _ _
      · exact (Finmap.lookup_erase_ne hpath).trans (lookup_moved hpath hother)
    rw [heq]
    have hused : ((s.moved env staged path f).unlinkFile path).usedBytes = s.usedBytes :=
      @usedBytes_moved env s staged path f
    refine iff_of_true (hsame.preserves hused) fun _ _ => ?_
    rw [if_neg hnot]
    exact .inl ⟨hfound.1, hfound.2.2⟩
  · rw [heq, preserves_countPublished_iff hfree (hsize hfound.2)]
    simp only [hrename, hfound, and_self, if_true, forall_const]

/-- A consumed commit changes no artifact. -/
theorem preserves_consumeExisting {snapshot : StagedSnapshot} {mismatch : StoreError}
    {f : CommitFaults} : Preserves s (s.consumeExisting env staged path snapshot mismatch f).2 := by
  have hsame := @sameArtifacts_ensureInsertionSequence env s path.key f.sequence
  have hused := (quota_of_withoutDisk (@withoutDisk_ensureInsertionSequence env s path.key
    f.sequence)).1
  unfold consumeExisting
  split
  · exact SameArtifacts.refl.preserves rfl
  · split
    · exact SameArtifacts.refl.preserves rfl
    · split
      · exact SameArtifacts.refl.preserves rfl
      · split <;> rename_i heq <;> rw [heq] at hsame hused
        · exact hsame.preserves hused
        · split
          · exact hsame.preserves hused
          · split
            · exact hsame.preserves hused
            · exact SameArtifacts.preserves hsame hused

/-! ## Reservations of the others -/

/-- No reservation but the writer's own changes. -/
def OthersKept (staged : StagedPath) (s s' : Store) : Prop :=
  ∀ other, other ≠ staged →
    s'.stagingReservations.lookup other = s.stagingReservations.lookup other

theorem OthersKept.refl : OthersKept staged s s := fun _ _ => rfl

theorem OthersKept.trans (h : OthersKept staged s s') (h' : OthersKept staged s' s'') :
    OthersKept staged s s'' :=
  fun other hother => (h' other hother).trans (h other hother)

theorem othersKept_of_withoutDisk (h : s'.withoutDisk = s.withoutDisk) : OthersKept staged s s' :=
  fun _ _ => by rw [(quota_of_withoutDisk h).2.2.1]

theorem othersKept_releaseStagedReservation {size : ℕ} :
    OthersKept staged s (s.releaseStagedReservation staged size) :=
  fun _ hother => Finmap.lookup_erase_ne hother

theorem othersKept_countPublished {size replaced : ℕ} :
    OthersKept staged s (s.countPublished staged size replaced) :=
  fun _ hother => Finmap.lookup_erase_ne hother

theorem othersKept_reconcileStagedSize {size : ℕ} :
    OthersKept staged s (s.reconcileStagedSize staged size).2 := by
  intro other hother
  unfold reconcileStagedSize
  split
  · rfl
  · split_ifs
    · rfl
    · exact Finmap.lookup_insert_of_ne _ hother
    · exact Finmap.lookup_insert_of_ne _ hother
    · rfl

theorem othersKept_consumeExisting {snapshot : StagedSnapshot} {mismatch : StoreError}
    {f : CommitFaults} :
    OthersKept staged s (s.consumeExisting env staged path snapshot mismatch f).2 := by
  have hensure : OthersKept staged s (s.ensureInsertionSequence env path.key f.sequence).2 :=
    othersKept_of_withoutDisk withoutDisk_ensureInsertionSequence
  unfold consumeExisting
  split
  · exact .refl
  · split
    · exact .refl
    · split
      · exact .refl
      · split <;> rename_i heq <;> rw [heq] at hensure
        · exact hensure
        · split
          · exact hensure
          · split
            · exact hensure
            · refine hensure.trans (.trans ?_ othersKept_releaseStagedReservation)
              exact othersKept_of_withoutDisk withoutDisk_unlinkStaged

theorem othersKept_moved {f : CommitFaults} : OthersKept staged s (s.moved env staged path f) :=
  othersKept_of_withoutDisk (withoutDisk_renameStaged.trans withoutDisk_ensureInsertionSequence)

theorem othersKept_publishNewDocument {snapshot : StagedSnapshot} {f : CommitFaults} :
    OthersKept staged s (s.publishNewDocument env staged path snapshot f).2 := by
  rcases @publishNewDocument_cases env s staged path snapshot f with
    ⟨-, error, heq⟩ | ⟨-, -, error, heq⟩ | ⟨-, -, heq⟩ <;> rw [heq]
  · exact othersKept_of_withoutDisk
      (withoutDisk_undoPublication.trans withoutDisk_ensureInsertionSequence)
  · exact othersKept_moved.trans (othersKept_of_withoutDisk withoutDisk_undoPublication)
  · exact othersKept_moved.trans othersKept_countPublished

theorem othersKept_publishNewRender {snapshot : StagedSnapshot} {f : CommitFaults} :
    OthersKept staged s (s.publishNewRender env staged path snapshot f).2 := by
  rcases @publishNewRender_cases env s staged path snapshot f with
    ⟨-, error, heq⟩ | ⟨-, -, error, heq⟩ | ⟨-, -, error, heq⟩ | ⟨-, -, heq⟩ <;> rw [heq]
  · exact othersKept_of_withoutDisk withoutDisk_ensureInsertionSequence
  · exact othersKept_moved
  · exact othersKept_moved.trans (othersKept_of_withoutDisk withoutDisk_unlinkFile)
  · exact othersKept_moved.trans othersKept_countPublished

/-! ## Replacements -/

/-- A store that differs from the first one at the renamed destination alone. -/
theorem atomic_renamed_iff (hsame : ∀ other, other ≠ path →
      s'.files.lookup other = s.files.lookup other)
    (hothers : OthersKept staged s s')
    (hgone : s'.stagedFiles.lookup staged ≠ s.stagedFiles.lookup staged) :
    Atomic s s' staged (some path) ↔
      (s.usedBytes = s.scanExistingBytes → s'.usedBytes = s'.scanExistingBytes) := by
  refine ⟨fun h => h.used, fun h => ⟨fun other contents hother hcontents hkept => ?_, hothers, h⟩⟩
  have hne : other ≠ path := fun heq => hgone (hkept (congrArg some heq.symm))
  rw [hsame other hne, hcontents]

/-- A replacement that found another file: the file is removed if that succeeds, and the bytes are
scanned again if that succeeds. -/
def replacementUndone (s : Store) (staged : StagedPath) (path : Path) (f : CommitFaults) : Store :=
  let undone := if f.unlink then (s.renameStaged staged path f.swapped).unlinkFile path
    else s.renameStaged staged path f.swapped
  if f.scan then undone.rescan else undone

/-- What `_replace_staged_render` does to a file with the expected digest. -/
theorem replaceExisting_cases {snapshot : StagedSnapshot} {f : CommitFaults} {replaced : Bytes} :
    (¬ (s.hasStagedIdentity staged snapshot f.identityAgain = true ∧ f.rename = true) ∧
        (s.replaceExisting staged path replaced snapshot f).2 = s) ∨
      ((s.hasStagedIdentity staged snapshot f.identityAgain = true ∧ f.rename = true) ∧
        ((f.lstat = false ∧ (s.replaceExisting staged path replaced snapshot f).2 =
            s.renameStaged staged path f.swapped) ∨
          (f.lstat = true ∧ f.swapped ≠ none ∧
            (s.replaceExisting staged path replaced snapshot f).2 =
              s.replacementUndone staged path f) ∨
          (f.lstat = true ∧ f.swapped = none ∧
            (s.replaceExisting staged path replaced snapshot f).2 =
              (s.renameStaged staged path f.swapped).countPublished staged snapshot.size
                replaced.length))) := by
  unfold replaceExisting
  by_cases hidentity : s.hasStagedIdentity staged snapshot f.identityAgain = true
  swap
  · exact .inl (by simp [hidentity])
  by_cases hrename : f.rename = true
  swap
  · exact .inl (by simp [hidentity, hrename])
  refine .inr ⟨⟨hidentity, hrename⟩, ?_⟩
  by_cases hlstat : f.lstat = true
  swap
  · exact .inl (by simp [hidentity, hrename, hlstat])
  cases hswapped : f.swapped with
  | none => exact .inr (.inr (by simp [hidentity, hrename, hlstat]))
  | some found =>
      refine .inr (.inl ⟨hlstat, by simp, ?_⟩)
      unfold replacementUndone
      cases hunlink : f.unlink <;> cases hscan : f.scan <;>
        simp [hidentity, hrename, hlstat, hswapped]

section Undone

variable {f : CommitFaults}

theorem lookup_replacementUndone_of_ne (other : Path) (hother : other ≠ path) :
    (s.replacementUndone staged path f).files.lookup other = s.files.lookup other := by
  have hrenamed : (s.renameStaged staged path f.swapped).files.lookup other =
      s.files.lookup other := lookup_renameStaged_of_ne hother
  unfold replacementUndone
  cases f.unlink <;> cases f.scan <;>
    simp [rescan, unlinkFile, Finmap.lookup_erase_ne hother, hrenamed]

theorem stagedFiles_replacementUndone : (s.replacementUndone staged path f).stagedFiles =
    (s.renameStaged staged path f.swapped).stagedFiles := by
  unfold replacementUndone
  cases f.unlink <;> cases f.scan <;> rfl

theorem othersKept_replacementUndone : OthersKept staged s (s.replacementUndone staged path f) := by
  unfold replacementUndone
  cases f.unlink <;> cases f.scan <;> exact fun _ _ => rfl

/-- The weight of the replaced file is exchanged for that of the file that stays, if one does. -/
theorem scan_replacementUndone {replaced : Bytes} (hreplaced : s.files.lookup path = some replaced) :
    (s.replacementUndone staged path f).scanExistingBytes + path.weight replaced =
      s.scanExistingBytes + if f.unlink then 0 else path.weight (s.movedBytes staged f) := by
  have hrescan : (s.replacementUndone staged path f).scanExistingBytes =
      (if f.unlink then (s.renameStaged staged path f.swapped).unlinkFile path
        else s.renameStaged staged path f.swapped).scanExistingBytes := by
    unfold replacementUndone
    cases f.scan <;> rfl
  rw [hrescan]
  cases f.unlink with
  | true =>
      have herased : ((s.renameStaged staged path f.swapped).unlinkFile path).files =
          s.files.erase path := Dict.erase_insert
      have htotal := Dict.total_erase_add (w := Path.weight) hreplaced
      simp only [if_true, scanExistingBytes, herased]
      omega
  | false =>
      have hmoved := @scan_renameStaged s staged path f
      rwa [hreplaced, Option.elim_some] at hmoved

end Undone

theorem atomic_replaceExisting_iff {snapshot : StagedSnapshot} {f : CommitFaults}
    {replaced : Bytes} (hreplaced : s.files.lookup path = some replaced) :
    Atomic s (s.replaceExisting staged path replaced snapshot f).2 staged (some path) ↔
      s.ReplacementLeavesNoTrace staged path replaced snapshot f := by
  unfold ReplacementLeavesNoTrace
  rcases @replaceExisting_cases s staged path snapshot f replaced with
    ⟨hnot, heq⟩ | ⟨⟨hidentity, hrename⟩, hafter⟩
  · rw [heq]
    refine iff_of_true ⟨fun _ _ _ hcontents _ => hcontents, fun _ _ => rfl, id⟩ ?_
    exact fun hidentity hrename => absurd ⟨hidentity, hrename⟩ hnot
  obtain ⟨-, contents, hcontents, hlength⟩ := hasStagedIdentity_iff.1 hidentity
  have hscan : (s.renameStaged staged path f.swapped).scanExistingBytes + path.weight replaced =
      s.scanExistingBytes + path.weight (s.movedBytes staged f) := by
    have hmoved := @scan_renameStaged s staged path f
    rwa [hreplaced, Option.elim_some] at hmoved
  have hgone : (s.renameStaged staged path f.swapped).stagedFiles.lookup staged ≠
      s.stagedFiles.lookup staged := by
    rw [hcontents]
    simp [renameStaged]
  have hrenamed (other : Path) (hother : other ≠ path) :
      (s.renameStaged staged path f.swapped).files.lookup other = s.files.lookup other :=
    lookup_renameStaged_of_ne hother
  have hothers : OthersKept staged s (s.renameStaged staged path f.swapped) :=
    othersKept_of_withoutDisk withoutDisk_renameStaged
  simp only [hidentity, hrename, forall_const]
  rcases hafter with ⟨hlstat, heq⟩ | ⟨hlstat, hswapped, heq⟩ | ⟨hlstat, hswapped, heq⟩ <;> rw [heq]
  · rw [if_pos hlstat, atomic_renamed_iff hrenamed hothers hgone]
    refine forall_congr' fun hused => ?_
    have hsame : (s.renameStaged staged path f.swapped).usedBytes = s.usedBytes := rfl
    omega
  · rw [if_neg (by simp [hlstat]), if_neg hswapped,
      atomic_renamed_iff (lookup_replacementUndone_of_ne) othersKept_replacementUndone (by
        rw [stagedFiles_replacementUndone]; exact hgone)]
    refine forall_congr' fun hused => ?_
    have hundone := @scan_replacementUndone s staged path f replaced hreplaced
    cases hrescan : f.scan with
    | true => simp [replacementUndone, hrescan, rescan, scanExistingBytes]
    | false =>
        have hsame : (s.replacementUndone staged path f).usedBytes = s.usedBytes := by
          unfold replacementUndone
          cases f.unlink <;> simp [hrescan] <;> rfl
        simp only [Bool.false_eq_true, false_or]
        omega
  · have hiff := @atomic_renamed_iff s ((s.renameStaged staged path f.swapped).countPublished staged
      snapshot.size replaced.length) staged path hrenamed
      (hothers.trans othersKept_countPublished) hgone
    rw [if_neg (by simp [hlstat]), if_pos hswapped, hiff]
    refine forall_congr' fun hused => ?_
    have hcounted : ((s.renameStaged staged path f.swapped).countPublished staged snapshot.size
        replaced.length).usedBytes = s.usedBytes + (snapshot.size - replaced.length) := rfl
    have hdisk : ((s.renameStaged staged path f.swapped).countPublished staged snapshot.size
        replaced.length).scanExistingBytes =
        (s.renameStaged staged path f.swapped).scanExistingBytes := rfl
    have hbytes : s.movedBytes staged f = contents := by simp [movedBytes, hswapped, hcontents]
    rw [hbytes] at hscan
    by_cases hpath : path.IsArtifact
    · have hold : path.weight replaced = replaced.length := if_pos hpath
      have hnew : path.weight contents = contents.length := if_pos hpath
      simp only [hpath, true_or, iff_true]
      omega
    · have hold : path.weight replaced = 0 := if_neg hpath
      have hnew : path.weight contents = 0 := if_neg hpath
      simp only [hpath, false_or]
      omega

/-! ## The calls -/

/-- A call that publishes a staged file, from the point of view of one thread: the two parts of a
content-addressed commit, a render commit, or a replacement. -/
inductive CommitCall where
  | prepareFile (staged : StagedPath) (caller : Context) (top : Namespace) (filename : String)
      (f : CommitFaults)
  | publishFile (staged : StagedPath) (f : CommitFaults)
  | commitRender (staged : StagedPath) (caller : Context) (destination : Path) (f : CommitFaults)
  | replaceRender (staged : StagedPath) (caller : Context) (destination : Path)
      (expectedSha256 : String) (f : CommitFaults)

namespace CommitCall

/-- The step of the system that the call is. -/
def action : CommitCall → Action
  | prepareFile staged caller top filename f => .prepareFileCommit staged caller top filename f
  | publishFile staged f => .publishFile staged f
  | commitRender staged caller destination f => .commitRender staged caller destination f
  | replaceRender staged caller destination expected f =>
    .replaceRender staged caller destination expected f

/-- The staged file. -/
def stagedPath : CommitCall → StagedPath
  | prepareFile staged .. | publishFile staged .. | commitRender staged ..
  | replaceRender staged .. => staged

/-- The file a replacement is about to replace. -/
def replacedPath : CommitCall → Option Path
  | replaceRender _ _ destination _ _ => some destination
  | _ => none

end CommitCall

/-- The content-addressed commit finds its destination free, in the store whose reservation it has
reconciled. -/
structure EntersDocument (s : Store) (staged : StagedPath) (commit : StagedFileCommit)
    (f : CommitFaults) (s' : Store) : Prop where
  identity : s.hasStagedIdentity staged commit.snapshot f.identity = true
  reconciled : s.reconcileStagedSize staged commit.snapshot.size = (.ok (), s')
  free : s'.pathExists ⟨commit.key, [commit.filename]⟩ = false

/-- The render commit finds its destination free, in the store in which its directories stand. -/
structure EntersRender (s : Store) (staged : StagedPath) (destination : Path)
    (snapshot : StagedSnapshot) (f : CommitFaults) (s' : Store) : Prop where
  directories : s.ensurePrivateDirectories destination.parents f.directories = (.ok (), s')
  checked : s'.stagedRenderError staged snapshot f.identity = none
  free : s'.pathExists destination = false

/-- The replacement finds a file with the expected digest at its destination. -/
structure EntersReplacement (env : Encoding) (s : Store) (staged : StagedPath) (destination : Path)
    (expected : String) (snapshot : StagedSnapshot) (f : CommitFaults) (replaced : Bytes) :
    Prop where
  checked : s.stagedRenderError staged snapshot f.identity = none
  found : s.files.lookup destination = some replaced
  readable : f.digest = true
  matched : env.sha256 replaced = expected

/-- The writer's snapshot is taken, and the checks that come before the staged file is looked at
pass. -/
structure AdmitsRender (env : Encoding) (s : Store) (staged : StagedPath) (caller : Context)
    (destination : Path) (request : Option StoreError) (f : CommitFaults)
    (snapshot : StagedSnapshot) : Prop where
  taken : s.snapshot env staged caller f.access f.stable = .ok snapshot
  admitted : (s.closeWriter staged).renderMutationError destination
    ((s.writers.lookup staged).bind (·.transaction)) caller request f = none

/-- The condition under which a commit leaves everything but its own staged file as it was. -/
def LeavesNoTrace (env : Encoding) (s : Store) : CommitCall → Prop
  | .prepareFile .. => True
  | .publishFile staged f => ∀ commit, (s.writers.lookup staged).bind (·.committing) = some commit →
      ∀ s', (s.closeWriter staged).EntersDocument staged commit f s' →
        s'.DocumentLeavesNoTrace env staged ⟨commit.key, [commit.filename]⟩ commit.snapshot f
  | .commitRender staged caller destination f =>
      ∀ snapshot, s.AdmitsRender env staged caller destination none f snapshot →
      ∀ s', (s.closeWriter staged).EntersRender staged destination snapshot f s' →
        s'.RenderLeavesNoTrace env staged destination snapshot f
  | .replaceRender staged caller destination expected f =>
      ∀ snapshot, s.AdmitsRender env staged caller destination (digestError expected) f snapshot →
      ∀ replaced,
        (s.closeWriter staged).EntersReplacement env staged destination expected snapshot f replaced →
        (s.closeWriter staged).ReplacementLeavesNoTrace staged destination replaced snapshot f

theorem lookup_eq_none_of_not_pathExists (h : ¬ s.pathExists path = true) :
    s.files.lookup path = none := by
  rw [Finmap.lookup_eq_none]
  intro hmem
  simp [pathExists, hmem] at h

/-- Where the commit has not yet touched what is published, only what comes after counts. -/
theorem atomic_iff_preserves {middle : Store} (hfiles : middle.files = s.files)
    (hused : middle.usedBytes = s.usedBytes) (hothers : OthersKept staged s s') :
    Atomic s s' staged none ↔ Preserves middle s' := by
  constructor
  · intro h
    refine ⟨fun path contents hpath hcontents => ?_, fun hequal => h.used ?_⟩
    · exact h.artifacts path contents hpath (hfiles ▸ hcontents) nofun
    · rw [← hused, hequal, scanExistingBytes, hfiles]
      rfl
  · intro h
    refine ⟨fun path contents hpath hcontents _ => ?_, hothers, fun hequal => h.used ?_⟩
    · exact h.artifacts path contents hpath (hfiles.symm ▸ hcontents)
    · rw [hused, hequal, scanExistingBytes, scanExistingBytes, hfiles]

/-- A call that stops before it touches a file or a counter. -/
theorem atomic_of_same {replaced : Option Path} (hfiles : s'.files = s.files)
    (hquota : s'.withoutDisk = s.withoutDisk) : Atomic s s' staged replaced where
  artifacts path contents _ hcontents _ := by rw [hfiles, hcontents]
  reservations := othersKept_of_withoutDisk hquota
  used hequal := by
    rw [(quota_of_withoutDisk hquota).1, scanExistingBytes, hfiles]
    exact hequal

theorem files_ensurePrivateDirectories {directories : List Path} {failAt : Option ℕ} :
    (s.ensurePrivateDirectories directories failAt).2.files = s.files := by
  rw [ensurePrivateDirectories_snd]

theorem files_modifyWriter {g : StagedWriter → StagedWriter} :
    (s.modifyWriter staged g).files = s.files := by
  unfold modifyWriter
  split <;> rfl

/-- Preparing a commit only makes a directory. -/
theorem prepareFileCommit_cases {caller : Context} {top : Namespace} {filename : String}
    {f : CommitFaults} :
    (s.prepareFileCommit env staged caller top filename f).2.files = s.files ∧
      (s.prepareFileCommit env staged caller top filename f).2.withoutDisk = s.withoutDisk := by
  unfold prepareFileCommit
  split
  · exact ⟨rfl, rfl⟩
  · rename_i snapshot _
    have hfiles := @files_ensurePrivateDirectories s
      [(⟨top, top.label ++ "_" ++ snapshot.sha256⟩ : ObjectKey).root] f.directories
    have hquota := @withoutDisk_ensurePrivateDirectories s
      [(⟨top, top.label ++ "_" ++ snapshot.sha256⟩ : ObjectKey).root] f.directories
    split
    · exact ⟨files_closeWriter, withoutDisk_closeWriter⟩
    · split
      · exact ⟨files_closeWriter, withoutDisk_closeWriter⟩
      · split
        · exact ⟨files_closeWriter, withoutDisk_closeWriter⟩
        · dsimp only
          split <;> rename_i heq <;> rw [heq] at hfiles hquota
          · exact ⟨files_closeWriter.trans hfiles, withoutDisk_closeWriter.trans hquota⟩
          · exact ⟨files_modifyWriter.trans hfiles, withoutDisk_modifyWriter.trans hquota⟩

theorem atomic_commitStagedFileLocked_iff {commit : StagedFileCommit} {f : CommitFaults} :
    Atomic s (s.commitStagedFileLocked env staged commit f).2 staged none ↔
      ∀ s', s.EntersDocument staged commit f s' →
        s'.DocumentLeavesNoTrace env staged ⟨commit.key, [commit.filename]⟩ commit.snapshot f := by
  unfold commitStagedFileLocked
  split
  · rename_i hidentity
    refine iff_of_true (atomic_of_same rfl rfl) fun s' henter => ?_
    simp [henter.identity] at hidentity
  · rename_i hidentity
    rcases hreconcile : s.reconcileStagedSize staged commit.snapshot.size with ⟨result, s'⟩
    cases result with
    | error error =>
        obtain rfl := reconcileStagedSize_error hreconcile
        refine iff_of_true (atomic_of_same rfl rfl) fun s'' henter => ?_
        have hok := henter.reconciled
        rw [hreconcile] at hok
        cases hok
    | ok value =>
        obtain ⟨hsize, hsame⟩ := reconcileStagedSize_ok hreconcile
        have hfiles : s'.files = s.files := by rw [hsame]
        have hused : s'.usedBytes = s.usedBytes := by rw [hsame]
        have hstaged : s'.stagedFiles = s.stagedFiles := by rw [hsame]
        have hothers : OthersKept staged s s' := by
          have hkept := @othersKept_reconcileStagedSize s staged commit.snapshot.size
          rwa [hreconcile] at hkept
        have hunique {s'' : Store} (henter : s.EntersDocument staged commit f s'') : s'' = s' := by
          have hok := henter.reconciled
          rw [hreconcile] at hok
          exact (congrArg Prod.snd hok).symm
        dsimp only
        split
        · rename_i hexists
          refine iff_of_true ((atomic_iff_preserves hfiles hused
            (hothers.trans othersKept_consumeExisting)).2 preserves_consumeExisting)
            fun s'' henter => ?_
          obtain rfl := hunique henter
          simp [henter.free] at hexists
        · rename_i hfree
          obtain ⟨-, contents, hcontents, hlength⟩ :=
            hasStagedIdentity_iff.1 (by simpa using hidentity)
          have hbytes (hswapped : f.swapped = none) :
              (s'.movedBytes staged f).length = commit.snapshot.size := by
            simp [movedBytes, hswapped, hstaged, hcontents, hlength]
          rw [atomic_iff_preserves hfiles hused (hothers.trans othersKept_publishNewDocument),
            preserves_publishNewDocument_iff (lookup_eq_none_of_not_pathExists hfree) hbytes]
          refine ⟨fun h s'' henter => hunique henter ▸ h, fun h => h s' ⟨?_, hreconcile, ?_⟩⟩
          · simpa using hidentity
          · simpa using hfree

theorem atomic_commitStagedRenderLocked_iff {snapshot : StagedSnapshot} {f : CommitFaults} :
    Atomic s (s.commitStagedRenderLocked env staged path snapshot f).2 staged none ↔
      ∀ s', s.EntersRender staged path snapshot f s' →
        s'.RenderLeavesNoTrace env staged path snapshot f := by
  have hfiles := @files_ensurePrivateDirectories s path.parents f.directories
  have hquota := @withoutDisk_ensurePrivateDirectories s path.parents f.directories
  unfold commitStagedRenderLocked
  rcases hdirectories : s.ensurePrivateDirectories path.parents f.directories with ⟨result, s'⟩
  rw [hdirectories] at hfiles hquota
  have hunique {s'' : Store} (henter : s.EntersRender staged path snapshot f s'') : s'' = s' := by
    have hok := henter.directories
    rw [hdirectories] at hok
    exact (congrArg Prod.snd hok).symm
  cases result with
  | error error =>
      refine iff_of_true (atomic_of_same hfiles hquota) fun s'' henter => ?_
      have hok := henter.directories
      rw [hdirectories] at hok
      cases hok
  | ok value =>
      have hused := (quota_of_withoutDisk hquota).1
      have hothers : OthersKept staged s s' := othersKept_of_withoutDisk hquota
      dsimp only at hfiles hused ⊢
      cases hchecked : s'.stagedRenderError staged snapshot f.identity with
      | some error =>
          refine iff_of_true (atomic_of_same hfiles hquota) fun s'' henter => ?_
          obtain rfl := hunique henter
          rw [henter.checked] at hchecked
          cases hchecked
      | none =>
          dsimp only
          split
          · rename_i hexists
            refine iff_of_true ((atomic_iff_preserves hfiles hused
              (hothers.trans othersKept_consumeExisting)).2 preserves_consumeExisting)
              fun s'' henter => ?_
            obtain rfl := hunique henter
            simp [henter.free] at hexists
          · rename_i hfree
            obtain ⟨-, contents, hcontents, hlength⟩ := stagedRenderError_eq_none hchecked
            have hbytes (hswapped : f.swapped = none) :
                (s'.movedBytes staged f).length = snapshot.size := by
              simp [movedBytes, hswapped, hcontents, hlength]
            rw [atomic_iff_preserves hfiles hused (hothers.trans othersKept_publishNewRender),
              preserves_publishNewRender_iff (lookup_eq_none_of_not_pathExists hfree) hbytes]
            exact ⟨fun h s'' henter => hunique henter ▸ h,
              fun h => h s' ⟨hdirectories, hchecked, by simpa using hfree⟩⟩

theorem atomic_replaceStagedRenderLocked_iff {expected : String} {snapshot : StagedSnapshot}
    {f : CommitFaults} :
    Atomic s (s.replaceStagedRenderLocked env staged path expected snapshot f).2 staged
        (some path) ↔
      ∀ replaced, s.EntersReplacement env staged path expected snapshot f replaced →
        s.ReplacementLeavesNoTrace staged path replaced snapshot f := by
  unfold replaceStagedRenderLocked
  cases hchecked : s.stagedRenderError staged snapshot f.identity with
  | some error =>
      refine iff_of_true (atomic_of_same rfl rfl) fun replaced henter => ?_
      rw [henter.checked] at hchecked
      cases hchecked
  | none =>
      cases hfound : s.files.lookup path with
      | none =>
          refine iff_of_true (atomic_of_same rfl rfl) fun replaced henter => ?_
          rw [henter.found] at hfound
          cases hfound
      | some replaced =>
          have hunique {replaced' : Bytes}
              (henter : s.EntersReplacement env staged path expected snapshot f replaced') :
              replaced' = replaced := by simpa [hfound] using henter.found.symm
          dsimp only
          split_ifs with hdigest hmatched
          · refine iff_of_true (atomic_of_same rfl rfl) fun replaced' henter => ?_
            simp [henter.readable] at hdigest
          · refine iff_of_true (atomic_of_same rfl rfl) fun replaced' henter => ?_
            exact absurd (hunique henter ▸ henter.matched) hmatched
          · rw [atomic_replaceExisting_iff hfound]
            refine ⟨fun h replaced' henter => hunique henter ▸ h, fun h => h replaced ?_⟩
            exact ⟨hchecked, hfound, by simpa using hdigest, not_not.1 hmatched⟩

/-- A writer that is closed first changes nothing that matters here. -/
theorem atomic_closeWriter_iff {replaced : Option Path} :
    Atomic (s.closeWriter staged) s' staged replaced ↔ Atomic s s' staged replaced := by
  have hquota := quota_of_withoutDisk (@withoutDisk_closeWriter s staged)
  have hscan : (s.closeWriter staged).scanExistingBytes = s.scanExistingBytes := by
    rw [scanExistingBytes, files_closeWriter]
    rfl
  constructor
  · intro h
    refine ⟨fun path contents hpath hcontents hkept => ?_, fun other hother => ?_, fun hequal => ?_⟩
    · exact h.artifacts path contents hpath (by rwa [files_closeWriter])
        (by rwa [stagedFiles_closeWriter])
    · rw [h.reservations other hother, hquota.2.2.1]
    · exact h.used (by rw [hquota.1, hscan, hequal])
  · intro h
    refine ⟨fun path contents hpath hcontents hkept => ?_, fun other hother => ?_, fun hequal => ?_⟩
    · exact h.artifacts path contents hpath (by rwa [files_closeWriter] at hcontents)
        (by rwa [stagedFiles_closeWriter] at hkept)
    · rw [h.reservations other hother, hquota.2.2.1]
    · exact h.used (by rw [← hquota.1, ← hscan, hequal])

theorem atomic_publishFile_iff {f : CommitFaults} :
    Atomic s (s.publishFile env staged f).2 staged none ↔
      s.LeavesNoTrace env (.publishFile staged f) := by
  unfold publishFile LeavesNoTrace
  cases hcommitting : (s.writers.lookup staged).bind (·.committing) with
  | none =>
      refine iff_of_true (atomic_of_same rfl rfl) fun commit hsome => ?_
      rw [hcommitting] at hsome
      cases hsome
  | some commit =>
      dsimp only
      rw [synchronized_snd, ← atomic_closeWriter_iff, atomic_commitStagedFileLocked_iff]
      refine ⟨fun h commit' hsome => ?_, fun h => h commit hcommitting⟩
      obtain rfl : commit = commit' := Option.some.inj (hcommitting.symm.trans hsome)
      exact h

/-- A render call that is refused before it looks at the staged file changes nothing. -/
theorem atomic_admission_iff {caller : Context} {request : Option StoreError} {f : CommitFaults}
    {replaced : Option Path} {locked : StagedSnapshot → Outcome Unit}
    {condition : StagedSnapshot → Prop}
    (hlocked : ∀ snapshot, Atomic (s.closeWriter staged) (locked snapshot).2 staged replaced ↔
      condition snapshot) :
    Atomic s (match s.snapshot env staged caller f.access f.stable with
        | .error error => ((.error error, s) : Outcome Unit)
        | .ok snapshot =>
          match (s.closeWriter staged).renderMutationError path
              ((s.writers.lookup staged).bind (·.transaction)) caller request f with
          | some error => (.error error, s.closeWriter staged)
          | none => synchronized f.sync (locked snapshot)).2 staged replaced ↔
      ∀ snapshot, s.AdmitsRender env staged caller path request f snapshot →
        condition snapshot := by
  cases htaken : s.snapshot env staged caller f.access f.stable with
  | error error =>
      refine iff_of_true (atomic_of_same rfl rfl) fun snapshot hadmits => ?_
      rw [hadmits.taken] at htaken
      cases htaken
  | ok snapshot =>
      have hunique {snapshot' : StagedSnapshot}
          (hadmits : s.AdmitsRender env staged caller path request f snapshot') :
          snapshot' = snapshot := by simpa [htaken] using hadmits.taken.symm
      dsimp only
      cases hadmitted : (s.closeWriter staged).renderMutationError path
          ((s.writers.lookup staged).bind (·.transaction)) caller request f with
      | some error =>
          refine iff_of_true (atomic_of_same files_closeWriter withoutDisk_closeWriter)
            fun snapshot' hadmits => ?_
          rw [hadmits.admitted] at hadmitted
          cases hadmitted
      | none =>
          dsimp only
          rw [synchronized_snd, ← atomic_closeWriter_iff, hlocked]
          exact ⟨fun h snapshot' hadmits => hunique hadmits ▸ h, fun h => h snapshot ⟨htaken, hadmitted⟩⟩

theorem atomic_commitRender_iff {caller : Context} {f : CommitFaults} :
    Atomic s (s.commitRender env staged caller path f).2 staged none ↔
      s.LeavesNoTrace env (.commitRender staged caller path f) :=
  atomic_admission_iff fun _ => atomic_commitStagedRenderLocked_iff

theorem atomic_replaceRender_iff {caller : Context} {expected : String} {f : CommitFaults} :
    Atomic s (s.replaceRender env staged caller path expected f).2 staged (some path) ↔
      s.LeavesNoTrace env (.replaceRender staged caller path expected f) :=
  atomic_admission_iff fun _ => atomic_replaceStagedRenderLocked_iff

/-- The digest of five bytes. -/
def documentDigest : Encoding :=
  .ofTable [([1, 1, 1, 1, 1], "377a23f52c6b357696238c3318f677a082dd3430bb6691042bd550a5cda28ebb")]

/-- Five bytes are published as `first.pdf`, and the same five bytes staged for `second.pdf`. -/
def sharedObjectRun : List Action :=
  [.stage none 0 true true] ++ Action.write 0 0 [1, 1, 1, 1, 1] ++
    [.prepareFileCommit 0 0 .documents "first.pdf" {}, .publishFile 0 {}, .stage none 0 true true] ++
    Action.write 1 0 [1, 1, 1, 1, 1] ++ [.prepareFileCommit 1 0 .documents "second.pdf" {}]

/-- The file that is already published. -/
def firstPdf : Path :=
  ⟨⟨.documents, "doc_377a23f52c6b357696238c3318f677a082dd3430bb6691042bd550a5cda28ebb"⟩,
    ["first.pdf"]⟩

end Store

end NplgMcp
