import NplgMcp.Storage.Staging

/-!
# Commits and replacements

`_commit_staged_file`, `_commit_staged_render` and `_replace_staged_render`. A content-addressed
commit makes its object directory before it takes the lock, so it is two steps: `prepareFileCommit`
and `publishFile`. The other two make their directories, or need none, under the lock.
-/

open Library

namespace NplgMcp

/-- What the operating system answers during a commit. By default every call succeeds. -/
structure CommitFaults where
  /-- `verify_access`, and `_verify_store_root_identity` -/
  access : Bool := true
  root : Bool := true
  /-- the fingerprints of `_snapshot` agree -/
  stable : Bool := true
  /-- `_validate_media_type` accepts -/
  mediaType : Bool := true
  directories : Option ℕ := none
  /-- `_validate_staged_identity`, and where it is repeated -/
  identity : Bool := true
  identityAgain : Bool := true
  /-- `_sha256_path(destination)` returns -/
  digest : Bool := true
  sequence : Store.SequenceFault := .none
  rename : Bool := true
  /-- what had been put under the staged name before the rename -/
  swapped : Option Bytes := none
  /-- `destination.lstat()` returns -/
  lstat : Bool := true
  unlinkStaged : Bool := true
  unlink : Bool := true
  removal : Store.Removal := .complete
  scan : Bool := true
  /-- the directories are synchronized after the lock is released -/
  sync : Bool := true

namespace Store

/-- `_validate_staged_identity`: `same` says that `lstat` finds the snapshot's device, inode and
times. -/
def hasStagedIdentity (s : Store) (staged : StagedPath) (snapshot : StagedSnapshot)
    (same : Bool) : Bool :=
  same && (s.stagedFiles.lookup staged).any (·.length = snapshot.size)

/-- The directory the rename puts its file in stands. -/
def hasParent (s : Store) (path : Path) : Bool :=
  path.parts = [] || ⟨path.key, path.parts.dropLast⟩ ∈ s.directories

/-- The staged file becomes a stored one and its reservation used bytes. -/
def countPublished (s : Store) (staged : StagedPath) (size : ℕ) (replaced : ℕ) : Store :=
  let s := s.releaseStagedReservation staged size
  { s with usedBytes := s.usedBytes + (size - replaced) }

/-- `_consume_existing_document_locked`, which is also the branch of `_commit_staged_render` for a
destination that exists: the same bytes are already published. -/
def consumeExisting (env : Encoding) (s : Store) (staged : StagedPath) (destination : Path)
    (snapshot : StagedSnapshot) (mismatch : StoreError) (f : CommitFaults) : Outcome Unit :=
  match s.files.lookup destination with
  | none => (.error .os, s)
  | some contents =>
    if !f.digest then (.error .os, s)
    else if env.sha256 contents ≠ snapshot.sha256 then (.error mismatch, s)
    else match s.ensureInsertionSequence env destination.key f.sequence with
      | (.error error, s') => (.error error, s')
      | (.ok _, s') =>
        if !s'.hasStagedIdentity staged snapshot f.identityAgain then
          (.error .identityBeforeCommit, s')
        else if !f.unlinkStaged then (.error .os, s')
        else (.ok (), (s'.unlinkStaged staged).releaseStagedReservation staged snapshot.size)

/-! ## Content-addressed commits -/

/-- The `except` clause of `_publish_new_document_locked`: the destination, the sequence and the
whole object directory are removed. What it raises itself replaces the first exception. -/
def undoPublication (s : Store) (destination : Path) (error : StoreError) (f : CommitFaults) :
    Outcome Unit :=
  if !f.unlink then (.error .os, s)
  else match ((s.unlinkFile destination).forgetSequence destination.key).removeStoragePath
      destination.key.root f.removal with
    | (.error error', s') => (.error error', s')
    | (.ok _, s') => (.error error, s')

/-- `_publish_new_document_locked`. -/
def publishNewDocument (env : Encoding) (s : Store) (staged : StagedPath) (destination : Path)
    (snapshot : StagedSnapshot) (f : CommitFaults) : Outcome Unit :=
  match s.ensureInsertionSequence env destination.key f.sequence with
  | (.error error, s') => s'.undoPublication destination error f
  | (.ok _, s') =>
    if !f.rename || !s'.hasParent destination then s'.undoPublication destination .os f
    else
      let moved := s'.renameStaged staged destination f.swapped
      if !f.lstat then moved.undoPublication destination .os f
      else if f.swapped.isSome then moved.undoPublication destination .identityDuringCommit f
      else (.ok (), moved.countPublished staged snapshot.size 0)

/-- The part of `_commit_staged_file` under the lock. -/
def commitStagedFileLocked (env : Encoding) (s : Store) (staged : StagedPath)
    (commit : StagedFileCommit) (f : CommitFaults) : Outcome Unit :=
  if !s.hasStagedIdentity staged commit.snapshot f.identity then (.error .identityBeforeCommit, s)
  else match s.reconcileStagedSize staged commit.snapshot.size with
    | (.error error, s') => (.error error, s')
    | (.ok _, s') =>
      let destination : Path := ⟨commit.key, [commit.filename]⟩
      if s'.pathExists destination then
        s'.consumeExisting env staged destination commit.snapshot .collision f
      else s'.publishNewDocument env staged destination commit.snapshot f

/-- An exception of the final `_fsync_directory` leaves what the commit has done. -/
def synchronized (sync : Bool) (outcome : Outcome Unit) : Outcome Unit :=
  match outcome.1 with
  | .error _ => outcome
  | .ok _ => (if sync then .ok () else .error .os, outcome.2)

/-- `_StagedWriter.commit` and `_commit_staged_file` up to the lock. -/
def prepareFileCommit (env : Encoding) (s : Store) (staged : StagedPath) (caller : Context)
    (top : Namespace) (filename : String) (f : CommitFaults) : Outcome Unit :=
  match s.snapshot env staged caller f.access f.stable with
  | .error error => (.error error, s)
  | .ok snapshot =>
    if !f.root then (.error .rootIdentity, s.closeWriter staged)
    else if !isComponent filename then (.error .invalidFilename, s.closeWriter staged)
    else if !f.mediaType then (.error .invalidMediaType, s.closeWriter staged)
    else
      let key : ObjectKey := ⟨top, top.label ++ "_" ++ snapshot.sha256⟩
      match s.ensurePrivateDirectories [key.root] f.directories with
      | (.error error, s') => (.error error, s'.closeWriter staged)
      | (.ok _, s') => (.ok (), s'.modifyWriter staged
          ({ · with committing := some ⟨key, filename, snapshot⟩ }))

/-- `_commit_staged_file` from the lock on. -/
def publishFile (env : Encoding) (s : Store) (staged : StagedPath) (f : CommitFaults) :
    Outcome Unit :=
  match (s.writers.lookup staged).bind (·.committing) with
  | none => (.error .writerClosed, s)
  | some commit =>
    synchronized f.sync ((s.closeWriter staged).commitStagedFileLocked env staged commit f)

/-! ## Render commits -/

/-- `_require_render_transaction_destination`: a transaction's writer stays strictly below its
subtree. -/
def destinationError (s : Store) (destination : Path) (transaction : Option Token) :
    Option StoreError :=
  match transaction.bind s.transactions.lookup with
  | none => none
  | some transaction =>
    if destination.Within transaction.subtree ∧ destination ≠ transaction.subtree then none
    else some .outsideSubtree

/-- `_require_render_mutation_authority_locked`. -/
def authorityError (s : Store) (key : ObjectKey) (transaction : Option Token) :
    Option StoreError :=
  if 0 < s.assetLeaseCount key then some .inUse
  else match transaction with
    | none => if s.transactionTokens key ≠ ∅ then some .inUse else none
    | some token => if s.transactionTokens key ≠ {token} then some .noAuthority else none

/-- The checks of `_commit_staged_render` and `_replace_staged_render` that come before the staged
file is looked at. `request` is what a replacement checks of its own arguments. -/
def renderMutationError (s : Store) (destination : Path) (transaction : Option Token)
    (caller : Context) (request : Option StoreError) (f : CommitFaults) : Option StoreError :=
  (s.accessError transaction caller f.access).or <|
  (if !f.root then some .rootIdentity else none).or <|
  request.or <|
  (if destination.key.top ≠ .renders ∨ !destination.isValid then some .invalidRenderPath
    else none).or <|
  (s.destinationError destination transaction).or <|
  s.authorityError destination.key transaction

/-- The checks of the staged file: its identity, and a reservation of exactly its size. -/
def stagedRenderError (s : Store) (staged : StagedPath) (snapshot : StagedSnapshot)
    (identity : Bool) : Option StoreError :=
  if !s.hasStagedIdentity staged snapshot identity then some .identityBeforeCommit
  else match s.stagingReservations.lookup staged with
    | none => some .notManaged
    | some reserved => if snapshot.size ≠ reserved then some .inconsistentAccounting else none

/-- `_commit_staged_render` for a destination that does not exist. -/
def publishNewRender (env : Encoding) (s : Store) (staged : StagedPath) (destination : Path)
    (snapshot : StagedSnapshot) (f : CommitFaults) : Outcome Unit :=
  match s.ensureInsertionSequence env destination.key f.sequence with
  | (.error error, s') => (.error error, s')
  | (.ok _, s') =>
    if !f.rename || !s'.hasParent destination then (.error .os, s')
    else
      let moved := s'.renameStaged staged destination f.swapped
      -- nothing undoes the rename when `lstat` raises
      if !f.lstat then (.error .os, moved)
      else if f.swapped.isSome then
        if !f.unlink then (.error .os, moved)
        else (.error .identityDuringCommit, moved.unlinkFile destination)
      else (.ok (), moved.countPublished staged snapshot.size 0)

/-- The part of `_commit_staged_render` under the lock, after the authority checks. -/
def commitStagedRenderLocked (env : Encoding) (s : Store) (staged : StagedPath)
    (destination : Path) (snapshot : StagedSnapshot) (f : CommitFaults) : Outcome Unit :=
  match s.ensurePrivateDirectories destination.parents f.directories with
  | (.error error, s') => (.error error, s')
  | (.ok _, s') =>
    match s'.stagedRenderError staged snapshot f.identity with
    | some error => (.error error, s')
    | none =>
      if s'.pathExists destination then
        s'.consumeExisting env staged destination snapshot .renderCollision f
      else s'.publishNewRender env staged destination snapshot f

/-- `_StagedWriter.commit_render` with `_commit_staged_render`. -/
def commitRender (env : Encoding) (s : Store) (staged : StagedPath) (caller : Context)
    (destination : Path) (f : CommitFaults) : Outcome Unit :=
  match s.snapshot env staged caller f.access f.stable with
  | .error error => (.error error, s)
  | .ok snapshot =>
    let transaction := (s.writers.lookup staged).bind (·.transaction)
    let s := s.closeWriter staged
    match s.renderMutationError destination transaction caller none f with
    | some error => (.error error, s)
    | none => synchronized f.sync (s.commitStagedRenderLocked env staged destination snapshot f)

/-! ## Replacements -/

/-- The part of `_replace_staged_render` that runs once the destination is known to be a file with
the expected digest. -/
def replaceExisting (s : Store) (staged : StagedPath) (destination : Path) (replaced : Bytes)
    (snapshot : StagedSnapshot) (f : CommitFaults) : Outcome Unit :=
  if !s.hasStagedIdentity staged snapshot f.identityAgain then (.error .identityBeforeCommit, s)
  else if !f.rename then (.error .os, s)
  else
    let moved := s.renameStaged staged destination f.swapped
    if !f.lstat then (.error .os, moved)
    else if f.swapped.isSome then
      let undone := if f.unlink then moved.unlinkFile destination else moved
      if !f.scan then (.error .os, undone)
      else (.error (if f.unlink then .identityDuringCommit else .os), undone.rescan)
    else (.ok (), moved.countPublished staged snapshot.size replaced.length)

/-- The part of `_replace_staged_render` under the lock, after the authority checks. -/
def replaceStagedRenderLocked (env : Encoding) (s : Store) (staged : StagedPath)
    (destination : Path) (expectedSha256 : String) (snapshot : StagedSnapshot)
    (f : CommitFaults) : Outcome Unit :=
  match s.stagedRenderError staged snapshot f.identity with
  | some error => (.error error, s)
  | none =>
    match s.files.lookup destination with
    | none => (.error .replacementPrecondition, s)
    | some replaced =>
      if !f.digest then (.error .os, s)
      else if env.sha256 replaced ≠ expectedSha256 then (.error .replacementPrecondition, s)
      else s.replaceExisting staged destination replaced snapshot f

/-- The expected digest is 64 hexadecimal digits. -/
def digestError (expectedSha256 : String) : Option StoreError :=
  if expectedSha256.length ≠ 64 || !expectedSha256.toList.all isHexDigit then some .invalidDigest
  else none

/-- `_StagedWriter.replace_render` with `_replace_staged_render`. -/
def replaceRender (env : Encoding) (s : Store) (staged : StagedPath) (caller : Context)
    (destination : Path) (expectedSha256 : String) (f : CommitFaults) : Outcome Unit :=
  match s.snapshot env staged caller f.access f.stable with
  | .error error => (.error error, s)
  | .ok snapshot =>
    let transaction := (s.writers.lookup staged).bind (·.transaction)
    let s := s.closeWriter staged
    match s.renderMutationError destination transaction caller (digestError expectedSha256) f with
    | some error => (.error error, s)
    | none => synchronized f.sync
        (s.replaceStagedRenderLocked env staged destination expectedSha256 snapshot f)

end Store

end NplgMcp
