import NplgMcp.Encoding
import NplgMcp.Library.Dict
import Mathlib.Data.Prod.Lex
import Mathlib.Data.String.Basic

/-!
# The state of the content-addressed store

The model of `ContentAddressedStore` in `storage.py`: the files and directories below `documents/`
and `renders/`, the staging directory, the insertion order of `storage_lifecycle.py`, the two byte
counters, the publication reservations, and the leases. Every section the code runs under
`self._lock` is one function from a store to an outcome and a store, and what the operating system
answers during it is an argument: any call may fail, and what has been done by then stays done.

The striped render locks are left out: they only remove interleavings. There are no symbolic links,
and names come from a counter where the code draws a random token or makes a fresh `object()`.
-/

open Library

namespace NplgMcp

/-! ## Paths -/

/-- The keys of `_ALLOWED_NAMESPACES`. -/
inductive Namespace where
  | documents
  | renders
  deriving DecidableEq, Repr

/-- The directory of a namespace. -/
def Namespace.directory : Namespace → String
  | .documents => "documents"
  | .renders => "renders"

/-- The values of `_ALLOWED_NAMESPACES`. -/
def Namespace.label : Namespace → String
  | .documents => "doc"
  | .renders => "rnd"

/-- An object key `namespace/name`. -/
structure ObjectKey where
  top : Namespace
  name : String
  deriving DecidableEq, Repr

/-- The order of object keys as strings: the namespaces already differ in their first letter. -/
def ObjectKey.sortKey (key : ObjectKey) : String ×ₗ String := toLex (key.top.directory, key.name)

theorem ObjectKey.sortKey_injective : Function.Injective ObjectKey.sortKey := by
  rintro ⟨top, name⟩ ⟨top', name'⟩ h
  have hpair := Prod.mk.inj (congrArg ofLex h)
  cases top <;> cases top' <;> simp_all [Namespace.directory]

instance : LinearOrder ObjectKey := LinearOrder.lift' _ ObjectKey.sortKey_injective

/-- A path at or below an object: the object and the components below it. -/
structure Path where
  key : ObjectKey
  parts : List String
  deriving DecidableEq, Repr

/-- `INSERTION_SEQUENCE_FILENAME`. -/
def insertionSequenceFilename : String := ".lifecycle-insertion-sequence.json"

/-- The directory of an object. -/
def ObjectKey.root (key : ObjectKey) : Path := ⟨key, []⟩

/-- The file that holds an object's insertion sequence. -/
def ObjectKey.sequenceFile (key : ObjectKey) : Path := ⟨key, [insertionSequenceFilename]⟩

/-- The last component. -/
def Path.name (path : Path) : String := path.parts.getLastD path.key.name

/-- The directories between the namespace and a path, outermost first. -/
def Path.parents (path : Path) : List Path :=
  match path.parts with
  | [] => []
  | parts => parts.dropLast.inits.map (⟨path.key, ·⟩)

/-- The path lies at or below the directory: `path.relative_to(directory)` does not raise. -/
def Path.Within (path directory : Path) : Prop :=
  path.key = directory.key ∧ directory.parts <+: path.parts

instance (path directory : Path) : Decidable (path.Within directory) :=
  inferInstanceAs (Decidable (_ ∧ _))

/-- The file is no insertion-sequence record: the byte scan counts it. -/
def Path.IsArtifact (path : Path) : Prop := path.name ≠ insertionSequenceFilename

instance (path : Path) : Decidable path.IsArtifact := inferInstanceAs (Decidable (_ ≠ _))

/-- What the byte scan counts for a file. -/
def Path.weight (path : Path) (contents : Bytes) : ℕ :=
  if path.IsArtifact then contents.length else 0

/-- `character in "0123456789abcdef"`. -/
def isHexDigit (c : Char) : Bool := ('0' ≤ c && c ≤ '9') || ('a' ≤ c && c ≤ 'f')

/-- The string is the label, an underscore and one of the given numbers of hexadecimal digits. -/
def isLabelledHex (label : String) (lengths : List ℕ) (value : String) : Bool :=
  let digits := value.toList.drop (label.length + 1)
  value.toList.take (label.length + 1) = label.toList ++ ['_'] && digits.length ∈ lengths &&
    digits.all isHexDigit

/-- The pattern of `InsertionObjectKey`. -/
def ObjectKey.isInsertionKey (key : ObjectKey) : Bool :=
  match key.top with
  | .documents => isLabelledHex "doc" [64] key.name
  | .renders => isLabelledHex "rnd" [32, 64] key.name

/-- `_is_render_id`. -/
def isRenderId (value : String) : Bool := isLabelledHex "rnd" [32] value

/-- One component that `_validate_filename` and the path validators accept. -/
def isComponent (part : String) : Bool :=
  part ∉ ["", ".", ".."] && part.toList.all (· ∉ ['/', '\\', '\x00'])

/-- The components a render path may have. -/
def Path.isValid (path : Path) : Bool := isComponent path.key.name && path.parts.all isComponent

/-! ## Errors -/

/-- `PublicationBlocker`. -/
inductive PublicationBlocker where
  | byteBudget
  | objectBudget
  | byteHeadroom
  | inodeHeadroom
  | clockAnomaly
  deriving DecidableEq, Repr

/-- What an operation raises. -/
inductive StoreError where
  | rootIdentity
  | invalidFilename
  | invalidMediaType
  | invalidRenderPath
  | invalidSubtree
  | invalidDigest
  | outsideSubtree
  | cacheFull
  | notManaged
  | unbalancedRelease
  | writerClosed
  | stagedChanged
  | identityBeforeCommit
  | identityDuringCommit
  | collision
  | renderCollision
  | inconsistentAccounting
  | replacementPrecondition
  | corruptedStorage
  | missingAsset
  | inUse
  | inUseForReading
  | noAuthority
  | noLeaseAuthority
  | transactionActive
  | transactionClosed
  | foreignContext
  | incompleteRender
  | unbalancedLease
  | unbalancedTransactionLease
  | insertionPath
  | sequenceExhausted
  | noInsertionSequence
  | inventoryBound
  | reservationEntered
  | reservationInactive
  | reservationClosed
  | invalidAmount
  | wrongPolicy
  | publicationRejected (blocker : PublicationBlocker)
  | invalidReport
  | os
  deriving DecidableEq, Repr

/-- The text the error is raised with. -/
def StoreError.message : StoreError → String
  | .rootIdentity => "Artifact storage root identity is invalid."
  | .invalidFilename => "Artifact filename is invalid."
  | .invalidMediaType => "Artifact media type is invalid."
  | .invalidRenderPath => "Render asset path is invalid."
  | .invalidSubtree => "Render subtree path is invalid."
  | .invalidDigest => "Expected render digest is invalid."
  | .outsideSubtree => "Render asset path is outside its transaction subtree."
  | .cacheFull => "The local artifact cache has reached its configured capacity."
  | .notManaged => "Staged artifact is not managed by this store."
  | .unbalancedRelease => "staging reservation release is unbalanced"
  | .writerClosed => "staged writer is not open"
  | .stagedChanged => "Staged artifact changed before commit."
  | .identityBeforeCommit => "Staged artifact identity changed before commit."
  | .identityDuringCommit => "Staged artifact identity changed during commit."
  | .collision => "A content-address collision was detected."
  | .renderCollision => "A deterministic render collision was detected."
  | .inconsistentAccounting => "Staged render accounting is inconsistent."
  | .replacementPrecondition => "Render replacement precondition failed."
  | .corruptedStorage => "Artifact storage is corrupted."
  | .missingAsset => "The requested artifact was not found."
  | .inUse => "The render is currently in use and cannot be modified."
  | .inUseForReading => "The render is currently in use and cannot be read."
  | .noAuthority => "render transaction mutation authority is unavailable"
  | .noLeaseAuthority => "render transaction lease authority is unavailable"
  | .transactionActive => "render transaction is already active"
  | .transactionClosed => "render transaction is already closed"
  | .foreignContext => "render transaction belongs to another execution context"
  | .incompleteRender => "A render transaction did not publish its completion manifest."
  | .unbalancedLease => "asset lease release is unbalanced"
  | .unbalancedTransactionLease => "render transaction lease release is unbalanced"
  | .insertionPath => "insertion-order object path does not match its key"
  | .sequenceExhausted => "insertion-order sequence space is exhausted"
  | .noInsertionSequence => "artifact object has no initialized insertion sequence"
  | .inventoryBound => "Artifact object inventory exceeds its safety bound."
  | .reservationEntered => "publication reservation cannot be entered twice"
  | .reservationInactive => "publication reservation is not active"
  | .reservationClosed => "publication reservation is already closed"
  | .invalidAmount => "must be an exact integer within its reservation"
  | .wrongPolicy => "publication must use the configured retention policy"
  | .publicationRejected _ => "The local artifact lifecycle policy rejected publication."
  | .invalidReport => "validation errors"
  | .os => "an operating-system call raised"

/-! ## The store -/

/-- `RetentionPolicy`, with the bounds of its fields. -/
structure RetentionPolicy where
  maximumAgeSeconds : ℕ
  maximumBytes : ℕ
  maximumObjects : ℕ
  minimumFreeBytes : ℕ
  minimumFreeInodes : ℕ
  age_bounds : 60 ≤ maximumAgeSeconds ∧ maximumAgeSeconds ≤ 31536000
  bytes_bounds : 1 ≤ maximumBytes ∧ maximumBytes ≤ 1099511627776
  objects_bounds : 1 ≤ maximumObjects ∧ maximumObjects ≤ 10000000
  free_bytes_bounds : 67108864 ≤ minimumFreeBytes ∧ minimumFreeBytes ≤ 1099511627776
  free_inodes_bounds : 128 ≤ minimumFreeInodes ∧ minimumFreeInodes ≤ 10000000
  deriving DecidableEq

/-- The counts of `StorageCapacity` that the store reads. -/
structure StorageCapacity where
  availableBytes : ℕ
  availableInodes : ℕ
  deriving DecidableEq, Repr

/-- The name of a staged file, `stage-<token>`. -/
abbrev StagedPath := ℕ

/-- The identity of an `object()` or of an object of one of the private classes. -/
abbrev Token := ℕ

/-- A thread together with the task running on it. -/
abbrev Context := ℕ

/-- `_StagedSnapshot`; whether the device, the inode and the times still agree is what `lstat`
answers later. -/
structure StagedSnapshot where
  sha256 : String
  size : ℕ
  deriving DecidableEq, Repr

/-- A content-addressed commit that has made its object directory and not yet taken the lock. -/
structure StagedFileCommit where
  key : ObjectKey
  filename : String
  snapshot : StagedSnapshot
  deriving DecidableEq, Repr

/-- `_StagedWriter`: what its digest and size record, the data of a `write` that has reserved and
not returned, a commit that has not taken the lock, and the transaction that staged it. -/
structure StagedWriter where
  recorded : Bytes
  pending : Option Bytes
  committing : Option StagedFileCommit
  transaction : Option Token
  isOpen : Bool
  deriving DecidableEq, Repr

/-- Where a render transaction is in its life. Between `starting` and `live` the constructor may
delete the subtree; a `closing` transaction has set `_closed` and not yet released its lease. -/
inductive TransactionStatus where
  | starting
  | live
  | closing
  | closed
  deriving DecidableEq, Repr

/-- `_RenderTransaction`. -/
structure RenderTransaction where
  subtree : Path
  completion : Path
  complete : Bool
  status : TransactionStatus
  owner : Context
  deriving DecidableEq, Repr

/-- `_PublicationReservation`. The policy is the configured one. -/
structure PublicationReservation where
  reservedBytes : ℕ
  reservedObjects : ℕ
  reservedInodes : ℕ
  active : Bool
  closed : Bool
  baselineUsedBytes : ℤ
  baselineStoredObjects : ℕ
  baselineAvailableInodes : ℕ
  deriving DecidableEq, Repr

/-- `PruneBlocker`, in the order of the class. -/
inductive PruneBlocker where
  | leasedObjects
  | byteHeadroom
  | inodeHeadroom
  | clockAnomaly
  deriving DecidableEq, Repr

/-- `LifecycleAlert`: the event with its blockers. -/
inductive LifecycleAlert where
  | admissionClosed (blocker : PublicationBlocker)
  | pruneUnsatisfied (blockers : List PruneBlocker)
  deriving DecidableEq, Repr

/-- `ContentAddressedStore` with what it keeps on disk. -/
structure Store where
  maxBytes : ℕ
  retentionPolicy : Option RetentionPolicy
  -- `documents/`, `renders/` and `.staging/`
  files : Dict Path Bytes
  directories : Finset Path
  stagedFiles : Dict StagedPath Bytes
  -- `PersistentInsertionOrder`
  sequences : Dict ObjectKey ℕ
  nextSequence : ℕ
  -- the quota
  usedBytes : ℤ
  reservedBytes : ℤ
  stagingReservations : Dict StagedPath ℕ
  writers : Dict StagedPath StagedWriter
  -- publication
  publicationReservations : Finset Token
  reservations : Dict Token PublicationReservation
  publicationReservedBytes : ℤ
  publicationReservedObjects : ℤ
  publicationReservedInodes : ℤ
  admissionClosedBlocker : Option PublicationBlocker
  alerts : List LifecycleAlert
  -- leases
  assetLeases : Dict ObjectKey ℕ
  leaseHolders : Dict Token ObjectKey
  renderTransactionLeases : Dict ObjectKey (Finset Token)
  transactions : Dict Token RenderTransaction
  nextToken : ℕ

namespace Store

variable (s : Store)

/-- `_scan_existing_bytes`. -/
def scanExistingBytes : ℕ := Dict.total Path.weight s.files

/-- The sum of `_staging_reservations`. -/
def stagingTotal : ℕ := Dict.total (fun _ amount => amount) s.stagingReservations

/-- `self._asset_leases.get(key, 0)`. -/
def assetLeaseCount (key : ObjectKey) : ℕ := (s.assetLeases.lookup key).getD 0

/-- `self._render_transaction_leases.get(key, set())`. -/
def transactionTokens (key : ObjectKey) : Finset Token :=
  (s.renderTransactionLeases.lookup key).getD ∅

/-- The directories directly below a namespace. -/
def objectKeys : Finset ObjectKey := (s.directories.filter (·.parts = [])).image Path.key

/-- `self._asset_leases.get(key, 0) > 0 or self._render_transaction_leases.get(key)`. -/
def isLeased (key : ObjectKey) : Bool :=
  0 < s.assetLeaseCount key || s.transactionTokens key ≠ ∅

end Store

/-- The one library call the store does not look into: `hashlib.sha256(...).hexdigest()`. -/
structure Encoding where
  sha256 : Bytes → String

/-- `namespace/name`. -/
def ObjectKey.text (key : ObjectKey) : String := key.top.directory ++ "/" ++ key.name

/-- `_canonical_json_bytes` of the record's fields, its digest only once it has one. -/
def sequenceJson (key : ObjectKey) (sequence : ℕ) (digest : Option String) : Bytes :=
  encodeUtf8 <| "\x7b\"object_key\":\"" ++ key.text ++ "\"," ++
    (match digest with
      | none => ""
      | some digest => "\"record_digest\":\"" ++ digest ++ "\",") ++
    "\"schema_version\":\"1.0\",\"sequence\":" ++ toString sequence ++ "\x7d"

/-- `InsertionSequenceRecord.build`, as it is written to disk. -/
def Encoding.sequenceRecord (env : Encoding) (key : ObjectKey) (sequence : ℕ) : Bytes :=
  sequenceJson key sequence (some (env.sha256 (sequenceJson key sequence none)))

end NplgMcp
