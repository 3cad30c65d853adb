import NplgMcp.Storage.State

/-!
# Staged writers and the calls on the disk

`stage`, `_StagedWriter.write`, `_StagedWriter._snapshot` and `_discard_staged_file`, the byte
reservations they move, and the steps the commits are made of: directories, the insertion sequence,
the rename and the recursive deletion.
-/

open Library

namespace NplgMcp

/-- What an operation returns or raises, with the store it leaves. -/
abbrev Outcome (α : Type) := Except StoreError α × Store

namespace Store

/-! ## Reservations of staged bytes -/

/-- `_reserve_staging_bytes`. -/
def reserveStagingBytes (s : Store) (staged : StagedPath) (amount : ℕ) : Outcome Unit :=
  if amount = 0 then (.ok (), s)
  else match s.stagingReservations.lookup staged with
    | none => (.error .notManaged, s)
    | some current =>
      if s.usedBytes + s.reservedBytes + amount > s.maxBytes then (.error .cacheFull, s)
      else (.ok (), { s with
        stagingReservations := s.stagingReservations.insert staged (current + amount)
        reservedBytes := s.reservedBytes + amount })

/-- `_release_staging_bytes`. -/
def releaseStagingBytes (s : Store) (staged : StagedPath) (amount : ℕ) : Outcome Unit :=
  if amount = 0 then (.ok (), s)
  else match s.stagingReservations.lookup staged with
    | none => (.error .unbalancedRelease, s)
    | some current =>
      if current < amount then (.error .unbalancedRelease, s)
      else (.ok (), { s with
        stagingReservations := s.stagingReservations.insert staged (current - amount)
        reservedBytes := s.reservedBytes - amount })

/-- `_staging_reservations.pop(path, 0)`, subtracted from the counter. -/
def popStagingReservation (s : Store) (staged : StagedPath) : Store :=
  { s with
    stagingReservations := s.stagingReservations.erase staged
    reservedBytes := s.reservedBytes - ((s.stagingReservations.lookup staged).getD 0 : ℕ) }

/-- `_reconcile_staged_size_locked`. -/
def reconcileStagedSize (s : Store) (staged : StagedPath) (size : ℕ) : Outcome Unit :=
  match s.stagingReservations.lookup staged with
  | none => (.error .notManaged, s)
  | some reserved =>
    if reserved < size then
      if s.usedBytes + s.reservedBytes + (size - reserved : ℕ) > s.maxBytes then
        (.error .cacheFull, s)
      else (.ok (), { s with
        stagingReservations := s.stagingReservations.insert staged (reserved + (size - reserved))
        reservedBytes := s.reservedBytes + (size - reserved : ℕ) })
    else if size < reserved then
      (.ok (), { s with
        stagingReservations := s.stagingReservations.insert staged size
        reservedBytes := s.reservedBytes - (reserved - size : ℕ) })
    else (.ok (), s)

/-- `_release_staged_reservation_locked`. -/
def releaseStagedReservation (s : Store) (staged : StagedPath) (reserved : ℕ) : Store :=
  { s with
    stagingReservations := s.stagingReservations.erase staged
    reservedBytes := s.reservedBytes - reserved }

/-! ## Writers -/

/-- `_require_active_owner_context` of the writer's transaction. An ordinary writer has no guard. -/
def accessError (s : Store) (transaction : Option Token) (caller : Context) (root : Bool) :
    Option StoreError :=
  match transaction with
  | none => none
  | some token =>
    match s.transactions.lookup token with
    | none => some .transactionClosed
    | some transaction =>
      if transaction.status ≠ .live then some .transactionClosed
      else if transaction.owner ≠ caller then some .foreignContext
      else if !root then some .rootIdentity
      else none

/-- Change the writer of a staged file. -/
def modifyWriter (s : Store) (staged : StagedPath) (f : StagedWriter → StagedWriter) : Store :=
  match s.writers.lookup staged with
  | none => s
  | some writer => { s with writers := s.writers.insert staged (f writer) }

/-- A commit leaves its stream closed, whatever it raised. -/
def closeWriter (s : Store) (staged : StagedPath) : Store :=
  s.modifyWriter staged fun writer => { writer with isOpen := false, committing := none }

/-- Bytes the stream has taken. -/
def appendStaged (s : Store) (staged : StagedPath) (data : Bytes) : Store :=
  match s.stagedFiles.lookup staged with
  | none => s
  | some contents => { s with stagedFiles := s.stagedFiles.insert staged (contents ++ data) }

/-- `stage`: `opened` says that the root was verified and the file created. -/
def stage (s : Store) (transaction : Option Token) (caller : Context) (root opened : Bool) :
    Outcome StagedPath :=
  match s.accessError transaction caller root with
  | some error => (.error error, s)
  | none =>
    if !root then (.error .rootIdentity, s)
    else if !opened then (.error .os, s)
    else (.ok s.nextToken, { s with
      nextToken := s.nextToken + 1
      stagedFiles := s.stagedFiles.insert s.nextToken []
      stagingReservations := s.stagingReservations.insert s.nextToken 0
      writers := s.writers.insert s.nextToken
        { recorded := [], pending := none, committing := none, transaction, isOpen := true } })

/-- The first half of `_StagedWriter.write`, to the stream's own `write`. -/
def startWrite (s : Store) (staged : StagedPath) (caller : Context) (root : Bool) (data : Bytes) :
    Outcome Unit :=
  match s.writers.lookup staged with
  | none => (.error .writerClosed, s)
  | some writer =>
    match s.accessError writer.transaction caller root with
    | some error => (.error error, s)
    | none =>
      if !writer.isOpen then (.error .writerClosed, s)
      else match s.reserveStagingBytes staged data.length with
        | (.error error, s') => (.error error, s')
        | (.ok _, s') => (.ok (), s'.modifyWriter staged ({ · with pending := some data }))

/-- What the stream's `write` did: it returned the number of bytes written, or raised after some of
them reached the file. -/
inductive WriteOutcome where
  | returned (written : ℕ)
  | raised (flushed : ℕ)
  deriving DecidableEq, Repr

/-- The second half of `_StagedWriter.write`: what was not written is released. -/
def finishWrite (s : Store) (staged : StagedPath) (outcome : WriteOutcome) : Outcome ℕ :=
  match (s.writers.lookup staged).bind (·.pending) with
  | none => (.error .writerClosed, s)
  | some data =>
    let s := s.modifyWriter staged ({ · with pending := none })
    match outcome with
    | .raised flushed =>
      (.error .os, ((s.appendStaged staged (data.take flushed)).releaseStagingBytes staged
        data.length).2)
    | .returned written =>
      let taken := data.take written
      match (s.appendStaged staged taken).releaseStagingBytes staged
          (data.length - taken.length) with
      | (.error error, s') => (.error error, s')
      | (.ok _, s') => (.ok taken.length,
          s'.modifyWriter staged fun writer => { writer with recorded := writer.recorded ++ taken })

/-- `_StagedWriter._snapshot`: `stable` says that the two `fstat` fingerprints agree. -/
def snapshot (env : Encoding) (s : Store) (staged : StagedPath) (caller : Context)
    (root stable : Bool) : Except StoreError StagedSnapshot :=
  match s.writers.lookup staged with
  | none => .error .writerClosed
  | some writer =>
    if !writer.isOpen then .error .writerClosed
    else match s.accessError writer.transaction caller root with
      | some error => .error error
      | none =>
        match s.stagedFiles.lookup staged with
        | none => .error .stagedChanged
        | some contents =>
          if !stable || contents.length ≠ writer.recorded.length ||
              env.sha256 contents ≠ env.sha256 writer.recorded then .error .stagedChanged
          else .ok ⟨env.sha256 contents, writer.recorded.length⟩

/-- `staged.unlink(missing_ok=True)`. -/
def unlinkStaged (s : Store) (staged : StagedPath) : Store :=
  { s with stagedFiles := s.stagedFiles.erase staged }

/-- `_StagedWriter.__exit__` with `_discard_staged_file`. -/
def discard (s : Store) (staged : StagedPath) (caller : Context) (root unlink : Bool) :
    Outcome Unit :=
  match s.writers.lookup staged with
  | none => (.error .writerClosed, s)
  | some writer =>
    -- `verify_cleanup` asks for the owner's context and not for a live transaction
    if (writer.transaction.bind s.transactions.lookup).any (·.owner ≠ caller) then
      (.error .foreignContext, s)
    else
      let s := s.closeWriter staged
      if !root then (.error .rootIdentity, s.popStagingReservation staged)
      else if !unlink then (.error .os, s)
      else (.ok (), (s.unlinkStaged staged).popStagingReservation staged)

/-! ## The disk -/

/-- `path.exists()`. -/
def pathExists (s : Store) (path : Path) : Bool := path ∈ s.files || path ∈ s.directories

/-- `_ensure_private_directory_path` for one directory after another. `failAt` counts the
directories that stand when a call raises; a directory whose mode cannot be set stands. -/
def ensurePrivateDirectories (s : Store) : List Path → Option ℕ → Outcome Unit
  | _, some 0 => (.error .os, s)
  | [], _ => (.ok (), s)
  | directory :: rest, failAt =>
    if directory ∈ s.files then (.error .os, s)
    else { s with directories := insert directory s.directories }.ensurePrivateDirectories rest
      (failAt.map (· - 1))

/-- Where the allocation of an insertion sequence fails: writing the high-water record, or writing
the object's record, which may be in place when the call raises. -/
inductive SequenceFault where
  | none
  | highWater
  | record (inPlace : Bool)
  deriving DecidableEq, Repr

/-- `_MAX_FILESYSTEM_COUNT`. -/
def maxFilesystemCount : ℕ := 9223372036854775807

/-- `_allocate`. -/
def allocateSequence (env : Encoding) (s : Store) (key : ObjectKey) (fault : SequenceFault) :
    Outcome Unit :=
  if s.nextSequence ≥ maxFilesystemCount then (.error .sequenceExhausted, s)
  else
    let record := env.sequenceRecord key s.nextSequence
    let advanced := { s with nextSequence := s.nextSequence + 1 }
    match fault with
    | .highWater => (.error .os, s)
    | .record false => (.error .os, advanced)
    | .record true =>
      (.error .os, { advanced with files := s.files.insert key.sequenceFile record })
    | .none => (.ok (), { advanced with
        files := s.files.insert key.sequenceFile record
        sequences := s.sequences.insert key s.nextSequence })

/-- `_ensure_insertion_sequence` with `PersistentInsertionOrder.ensure`. -/
def ensureInsertionSequence (env : Encoding) (s : Store) (key : ObjectKey)
    (fault : SequenceFault) : Outcome Unit :=
  if s.retentionPolicy.isNone then (.ok (), s)
  else if !key.isInsertionKey || key.root ∉ s.directories then (.error .insertionPath, s)
  else if key ∈ s.sequences then (.ok (), s)
  else s.allocateSequence env key fault

/-- `PersistentInsertionOrder.remove`. -/
def forgetSequence (s : Store) (key : ObjectKey) : Store :=
  if s.retentionPolicy.isNone then s else { s with sequences := s.sequences.erase key }

/-- `staged.replace(destination)`: `swapped` is what another process had put under the staged
name. -/
def renameStaged (s : Store) (staged : StagedPath) (destination : Path) (swapped : Option Bytes) :
    Store :=
  { s with
    stagedFiles := s.stagedFiles.erase staged
    files := s.files.insert destination
      (swapped.getD ((s.stagedFiles.lookup staged).getD [])) }

/-- `destination.unlink(missing_ok=True)`. -/
def unlinkFile (s : Store) (path : Path) : Store := { s with files := s.files.erase path }

/-- `self._used_bytes = self._scan_existing_bytes()`. -/
def rescan (s : Store) : Store := { s with usedBytes := s.scanExistingBytes }

/-- How far a recursive deletion comes. One that raises has not removed its root. -/
inductive Removal where
  | complete
  | interrupted (kept : Finset Path)

/-- The path outlives the deletion of the directory. -/
def Removal.Keeps (removal : Removal) (directory path : Path) : Prop :=
  ¬ path.Within directory ∨
    match removal with
    | .complete => False
    | .interrupted kept => path ∈ kept

instance (removal : Removal) (directory path : Path) : Decidable (removal.Keeps directory path) :=
  match removal with
  | .complete => inferInstanceAs (Decidable (_ ∨ False))
  | .interrupted _ => inferInstanceAs (Decidable (_ ∨ _ ∈ _))

/-- `shutil.rmtree`. -/
def rmtree (s : Store) (directory : Path) (removal : Removal) : Outcome Unit :=
  let files := s.files.restrict (removal.Keeps directory)
  match removal with
  | .complete => (.ok (), { s with
      files
      directories := s.directories.filter (removal.Keeps directory) })
  | .interrupted _ => (.error .os, { s with
      files
      directories := s.directories.filter fun d => removal.Keeps directory d ∨ d = directory })

/-- `_remove_storage_path`. -/
def removeStoragePath (s : Store) (path : Path) (removal : Removal) : Outcome Unit :=
  if path ∈ s.directories then s.rmtree path removal
  else match removal with
    | .complete => (.ok (), s.unlinkFile path)
    | .interrupted _ => (.error .os, s)

end Store

end NplgMcp
