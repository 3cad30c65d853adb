import NplgMcp.Library.Dict
import NplgMcp.Library.Effect

/-!
# Recovery of orphaned staging

`_cleanup_stale_staging` of `storage.py`: what is found in `.staging` at the start is taken down in an
inventory, and is removed only when the whole of it has passed. Between any two calls of the operating
system other processes may change the file system, and any call may be refused.
-/

open Library

namespace NplgMcp

/-- The name of a directory entry, as the bytes that `os.fsencode` gives. -/
abbrev FileName := List (Fin 256)

/-- `_DirectoryIdentity`. -/
structure FileIdentity where
  device : ℕ
  inode : ℕ
  deriving DecidableEq, Repr

/-- What there is of a kind: regular files with their links and size, directories with their entries,
and links and special files. -/
inductive Inode where
  | regular (links size : ℕ)
  | directory (entries : Dict FileName FileIdentity)
  | other
  deriving DecidableEq

/-- The file system, as far as it is seen. -/
abbrev FileSystem := FileIdentity → Option Inode

/-- `os.stat_result`. -/
structure FileStatus where
  identity : FileIdentity
  inode : Inode

/-- The file system, how many calls have been made, and what they have removed. -/
structure RecoveryState where
  fs : FileSystem
  calls : ℕ := 0
  removed : List FileIdentity := []

/-- What is raised: `ValueError`, `OSError`, and the `AppError` for the root. -/
inductive RecoveryError where
  | valueError (message : String)
  | osError
  | rootIdentity
  deriving DecidableEq, Repr

/-- A part of the recovery. -/
abbrev Recovery (α : Type) := Effect RecoveryState RecoveryError α

/-- What goes on beside the recovery: which of its calls are refused, and what becomes of the file
system before each of them; the calls that remove something are told apart. -/
structure Others where
  refuses : ℕ → Bool
  before : Bool → ℕ → FileSystem → FileSystem

/-- `_MAX_ORPHAN_STAGING_ENTRIES`. -/
def maxOrphanStagingEntries : ℕ := 4096

/-- `_MAX_ORPHAN_STAGING_DEPTH`. -/
def maxOrphanStagingDepth : ℕ := 8

/-- `_MAX_STAGING_ENTRY_NAME_BYTES`. -/
def maxStagingEntryNameBytes : ℕ := 255

/-- `.staging`. -/
def stagingName : FileName := [46, 115, 116, 97, 103, 105, 110, 103]

namespace FileSystem

variable (fs : FileSystem)

/-- What a name in a directory is bound to. -/
def entry (directory : FileIdentity) (name : FileName) : Option FileIdentity :=
  match fs directory with
  | some (.directory entries) => entries.lookup name
  | _ => none

/-- The status of what there is. -/
def status (identity : FileIdentity) : Option FileStatus := (fs identity).map (⟨identity, ·⟩)

/-- The file system without an entry of a directory. -/
def unbind (directory : FileIdentity) (name : FileName) : FileSystem :=
  match fs directory with
  | some (.directory entries) => Function.update fs directory (some (.directory (entries.erase name)))
  | _ => fs

end FileSystem

/-! ## Calls of the operating system -/

section Calls

variable (others : Others)

/-- A call: the file system it finds, unless it is refused. -/
def call (removes : Bool) : Recovery FileSystem where
  run s :=
    let fs := others.before removes s.calls s.fs
    (if others.refuses s.calls then .error .osError else .ok fs, { s with fs, calls := s.calls + 1 })

/-- What is found, or else the error of a call. -/
def found {α : Type} : Option α → Recovery α
  | none => Effect.raise .osError
  | some a => pure a

/-- `os.stat(name, dir_fd=directory, follow_symlinks=False)`. -/
def statAt (directory : FileIdentity) (name : FileName) : Recovery FileStatus := do
  let fs ← call others false
  found ((fs.entry directory name).bind fs.status)

/-- `os.fstat(descriptor)`. -/
def fstat (descriptor : FileIdentity) : Recovery FileStatus := do
  let fs ← call others false
  found (fs.status descriptor)

/-- `os.open(name, O_PATH | O_NOFOLLOW, dir_fd=directory)`: a descriptor stands for what it was opened
on. -/
def openPath (directory : FileIdentity) (name : FileName) : Recovery FileIdentity := do
  let fs ← call others false
  found ((fs.entry directory name).filter fun identity => (fs identity).isSome)

/-- `os.open(name, O_RDONLY | O_NOFOLLOW | O_DIRECTORY, dir_fd=directory)`. -/
def openDirectory (directory : FileIdentity) (name : FileName) : Recovery FileIdentity := do
  let fs ← call others false
  found ((fs.entry directory name).filter fun identity => fs identity matches some (.directory _))

/-- The entries of an open directory. -/
def readEntries (descriptor : FileIdentity) : Recovery (Dict FileName FileIdentity) := do
  let fs ← call others false
  match fs descriptor with
  | some (.directory entries) => pure entries
  | _ => Effect.raise .osError

/-- `sorted(os.listdir(descriptor))`. -/
def sortedNames (descriptor : FileIdentity) : Recovery (List FileName) := do
  let entries ← readEntries others descriptor
  return inOrder entries.keys

/-- Whether `os.scandir(descriptor)` has no entry. -/
def isEmptyDirectory (descriptor : FileIdentity) : Recovery Bool := do
  let entries ← readEntries others descriptor
  return entries.keys = ∅

/-- `os.fsync(descriptor)`. -/
def fsync : Recovery Unit := do
  let _ ← call others false

/-- The file system after a removal. -/
def remove (identity : FileIdentity) (fs : FileSystem) : Recovery Unit where
  run s := (.ok (), { s with fs, removed := s.removed ++ [identity] })

/-- `os.unlink(name, dir_fd=directory)`. -/
def unlink (directory : FileIdentity) (name : FileName) : Recovery Unit := do
  let fs ← call others true
  let identity ← found (fs.entry directory name)
  match fs identity with
  | some (.regular links size) =>
    remove identity (Function.update (fs.unbind directory name) identity
      (some (.regular (links - 1) size)))
  | some .other => remove identity (fs.unbind directory name)
  | _ => Effect.raise .osError

/-- `os.rmdir(name, dir_fd=directory)`: only what is empty is removed. -/
def rmdir (directory : FileIdentity) (name : FileName) : Recovery Unit := do
  let fs ← call others true
  let identity ← found (fs.entry directory name)
  match fs identity with
  | some (.directory entries) =>
    if entries.keys = ∅ then
      remove identity (Function.update (fs.unbind directory name) identity none)
    else Effect.raise .osError
  | _ => Effect.raise .osError

/-! ## Opening -/

/-- `_directory_identity`. -/
def directoryIdentity (status : FileStatus) : Recovery FileIdentity := do
  Effect.require (status.inode matches .directory _)
    (.valueError "storage path must identify a directory")
  return status.identity

/-- `_open_verified_directory`; the descriptor and the identity it returns are one here. -/
def openVerifiedDirectory (directory : FileIdentity) (name : FileName) : Recovery FileIdentity := do
  let expected ← directoryIdentity (← statAt others directory name)
  let descriptor ← openDirectory others directory name
  let opened ← directoryIdentity (← fstat others descriptor)
  Effect.require (opened = expected) (.valueError "directory identity changed while opening")
  return opened

/-- `_regular_file_identity`. -/
def regularFileIdentity (status : FileStatus) : Recovery FileIdentity := do
  Effect.require (status.inode matches .regular 1 _)
    (.valueError "cache staging recovery rejects non-regular entries")
  return status.identity

/-- `_open_verified_regular_file`. -/
def openVerifiedRegularFile (directory : FileIdentity) (name : FileName) :
    Recovery FileIdentity := do
  let expected ← regularFileIdentity (← statAt others directory name)
  let descriptor ← openPath others directory name
  let opened ← regularFileIdentity (← fstat others descriptor)
  Effect.require (opened = expected)
    (.valueError "cache staging recovery file identity changed while opening")
  return opened

end Calls

/-! ## The inventory -/

/-- `_OrphanStagingEntry`: only directories have children. -/
inductive OrphanStagingEntry where
  | file (name : FileName) (identity : FileIdentity)
  | directory (name : FileName) (identity : FileIdentity) (children : List OrphanStagingEntry)

/-- `_StagingRecoveryBudget`. -/
structure StagingRecoveryBudget where
  rootDevice : ℕ
  maximumBytes : ℕ
  entries : ℕ := 0
  bytes : ℕ := 0
  deriving DecidableEq, Repr

/-- `_StagingRecoveryBudget.consume`. -/
def StagingRecoveryBudget.consume (budget : StagingRecoveryBudget) (status : FileStatus) :
    Recovery StagingRecoveryBudget := do
  let entries := budget.entries + 1
  Effect.require (entries ≤ maxOrphanStagingEntries)
    (.valueError "cache staging recovery inventory exceeds its entry bound")
  match status.inode with
  | .regular _ size => do
    let bytes := budget.bytes + size
    Effect.require (bytes ≤ budget.maximumBytes)
      (.valueError "cache staging recovery byte inventory exceeds max_bytes")
    return { budget with entries, bytes }
  | _ => return { budget with entries }

/-- A name that `_validate_staging_entry_name` accepts. -/
def IsSafeName (name : FileName) : Prop :=
  name ≠ [] ∧ name ≠ [46] ∧ name ≠ [46, 46] ∧ name.length ≤ maxStagingEntryNameBytes ∧
    ∀ c ∈ name, 0x20 ≤ c ∧ c < 0x7F

instance (name : FileName) : Decidable (IsSafeName name) :=
  inferInstanceAs (Decidable (_ ∧ _))

section Inventory

variable (others : Others)

/-- One turn of the loop of `_inventory_orphan_staging`; `below` takes the inventory of a directory,
where the depth has not reached its bound. -/
def inventoryEntry
    (below : Option (FileIdentity → StagingRecoveryBudget →
      Recovery (List OrphanStagingEntry × StagingRecoveryBudget)))
    (directory : FileIdentity) (name : FileName) (budget : StagingRecoveryBudget) :
    Recovery (OrphanStagingEntry × StagingRecoveryBudget) := do
  Effect.require (IsSafeName name) (.valueError "cache staging recovery entry name is unsafe")
  let status ← statAt others directory name
  Effect.require (status.identity.device = budget.rootDevice)
    (.valueError "cache staging recovery entry crossed its filesystem boundary")
  let budget ← budget.consume status
  match status.inode with
  | .regular _ _ => do
    let identity ← regularFileIdentity status
    let opened ← openVerifiedRegularFile others directory name
    Effect.require (opened = identity)
      (.valueError "cache staging recovery file identity changed")
    return (.file name identity, budget)
  | .other => Effect.raise (.valueError "cache staging recovery rejects non-regular entries")
  | .directory _ =>
    match below with
    | none => Effect.raise (.valueError "cache staging recovery depth exceeds its bound")
    | some below => do
      let opened ← openVerifiedDirectory others directory name
      Effect.require (opened = status.identity)
        (.valueError "cache staging recovery directory identity changed")
      let (children, budget) ← below opened budget
      return (.directory name status.identity children, budget)

/-- The loop of `_inventory_orphan_staging`. -/
def inventoryEntries
    (visit : FileName → StagingRecoveryBudget → Recovery (OrphanStagingEntry × StagingRecoveryBudget)) :
    List FileName → StagingRecoveryBudget →
      Recovery (List OrphanStagingEntry × StagingRecoveryBudget)
  | [], budget => pure ([], budget)
  | name :: names, budget => do
    let (entry, budget) ← visit name budget
    let (entries, budget) ← inventoryEntries visit names budget
    return (entry :: entries, budget)

/-- `_inventory_orphan_staging`, where `remaining` levels of directories may still be below. -/
def inventoryOrphanStaging :
    ℕ → FileIdentity → StagingRecoveryBudget →
      Recovery (List OrphanStagingEntry × StagingRecoveryBudget)
  | 0, descriptor, budget => do
    let names ← sortedNames others descriptor
    inventoryEntries (inventoryEntry others none descriptor) names budget
  | remaining + 1, descriptor, budget => do
    let names ← sortedNames others descriptor
    inventoryEntries (inventoryEntry others (some (inventoryOrphanStaging remaining)) descriptor)
      names budget

end Inventory

/-! ## The deletion -/

/-- `_same_staging_entry`, for a file. -/
def IsSameFile (status : FileStatus) (identity : FileIdentity) : Prop :=
  status.identity = identity ∧ status.inode matches .regular _ _

/-- `_same_staging_entry`, for a directory. -/
def IsSameDirectory (status : FileStatus) (identity : FileIdentity) : Prop :=
  status.identity = identity ∧ status.inode matches .directory _

instance (status : FileStatus) (identity : FileIdentity) : Decidable (IsSameFile status identity) :=
  inferInstanceAs (Decidable (_ ∧ _))

instance (status : FileStatus) (identity : FileIdentity) :
    Decidable (IsSameDirectory status identity) :=
  inferInstanceAs (Decidable (_ ∧ _))

section Deletion

variable (others : Others)

/-- The last check of a file and its removal. -/
def unlinkChecked (directory : FileIdentity) (name : FileName) (identity opened : FileIdentity) :
    Recovery Unit := do
  let current ← statAt others directory name
  Effect.require (opened = identity ∧ IsSameFile current identity)
    (.valueError "cache staging recovery entry identity changed before unlink")
  unlink others directory name

/-- The last check of a directory and its removal. -/
def rmdirChecked (directory : FileIdentity) (name : FileName) (identity : FileIdentity) :
    Recovery Unit := do
  let current ← statAt others directory name
  Effect.require (IsSameDirectory current identity)
    (.valueError "cache staging recovery directory identity changed before removal")
  rmdir others directory name

mutual

/-- One turn of the loop of `_delete_orphan_staging_inventory`. -/
def deleteOrphanStagingEntry (descriptor : FileIdentity) : OrphanStagingEntry → Recovery Unit
  | .file name identity => do
    let before ← statAt others descriptor name
    Effect.require (IsSameFile before identity)
      (.valueError "cache staging recovery entry identity changed before deletion")
    let opened ← openVerifiedRegularFile others descriptor name
    unlinkChecked others descriptor name identity opened
    let unlinked ← fstat others opened
    Effect.require (unlinked.identity = identity ∧ unlinked.inode matches .regular 0 _)
      (.valueError "cache staging recovery path changed during unlink")
  | .directory name identity children => do
    let before ← statAt others descriptor name
    Effect.require (IsSameDirectory before identity)
      (.valueError "cache staging recovery entry identity changed before deletion")
    let opened ← openVerifiedDirectory others descriptor name
    Effect.require (opened = identity)
      (.valueError "cache staging recovery directory identity changed before deletion")
    deleteOrphanStagingEntries opened children
    let empty ← isEmptyDirectory others opened
    Effect.require (empty = true)
      (.valueError "cache staging recovery directory changed during deletion")
    fsync others
    rmdirChecked others descriptor name identity

/-- `_delete_orphan_staging_inventory`. -/
def deleteOrphanStagingEntries (descriptor : FileIdentity) : List OrphanStagingEntry → Recovery Unit
  | [] => pure ()
  | entry :: entries => do
    deleteOrphanStagingEntry descriptor entry
    deleteOrphanStagingEntries descriptor entries

end

end Deletion

/-! ## The recovery -/

section Cleanup

variable (others : Others) (root : FileIdentity)

/-- What becomes of an `OSError` in the body of `_cleanup_stale_staging`. -/
def withoutOsError {α : Type} (x : Recovery α) : Recovery α where
  run s :=
    match x.run s with
    | (.error .osError, s) =>
      (.error (.valueError "cache staging recovery encountered an unsafe filesystem state"), s)
    | outcome => outcome

/-- `_verify_store_root_identity`, for the descriptor of the root: what its path leads to is of no
account here. -/
def verifyStoreRootIdentity : Recovery Unit where
  run s :=
    match (fstat others root).run s with
    | (.ok status, s) =>
      if status.inode matches .directory _ then (.ok (), s) else (.error .rootIdentity, s)
    | (.error _, s) => (.error .rootIdentity, s)

/-- What `_cleanup_stale_staging` does before it removes anything: the descriptor of `.staging` and the
inventory. -/
def takeInventory (maximumBytes : ℕ) : Recovery (FileIdentity × List OrphanStagingEntry) := do
  verifyStoreRootIdentity others root
  let staging ← openVerifiedDirectory others root stagingName
  Effect.require (staging.device = root.device)
    (.valueError "cache staging recovery crossed its filesystem boundary")
  let (entries, _) ← withoutOsError (inventoryOrphanStaging others maxOrphanStagingDepth staging
    { rootDevice := root.device, maximumBytes })
  return (staging, entries)

/-- What it does then. -/
def deleteInventory (staging : FileIdentity) (entries : List OrphanStagingEntry) : Recovery Unit :=
  withoutOsError do
    deleteOrphanStagingEntries others staging entries
    let empty ← isEmptyDirectory others staging
    Effect.require (empty = true)
      (.valueError "cache staging recovery did not reach an empty post-state")
    fsync others

/-- `_cleanup_stale_staging`. -/
def cleanupStaleStaging (maximumBytes : ℕ) : Recovery Unit := do
  let (staging, entries) ← takeInventory others root maximumBytes
  deleteInventory others staging entries

end Cleanup

end NplgMcp
