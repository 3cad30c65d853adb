import NplgMcp.Library.Run
import NplgMcp.Storage.Publication

/-!
# The store as a system

An `Action` is one step of one thread: a call, or the part of a call between two points at which
another thread may run, with what the operating system and the samplers answer during it. A run is
a list of actions, so it interleaves any number of threads. `authority` is everything but the disk
and the quota, which most actions leave alone.
-/

open Library

namespace NplgMcp

/-- One step of one thread. -/
inductive Action where
  | stage (transaction : Option Token) (caller : Context) (root opened : Bool)
  | startWrite (staged : StagedPath) (caller : Context) (root : Bool) (data : Bytes)
  | finishWrite (staged : StagedPath) (outcome : Store.WriteOutcome)
  | discard (staged : StagedPath) (caller : Context) (root unlink : Bool)
  | prepareFileCommit (staged : StagedPath) (caller : Context) (top : Namespace)
      (filename : String) (f : CommitFaults)
  | publishFile (staged : StagedPath) (f : CommitFaults)
  | commitRender (staged : StagedPath) (caller : Context) (destination : Path) (f : CommitFaults)
  | replaceRender (staged : StagedPath) (caller : Context) (destination : Path)
      (expectedSha256 : String) (f : CommitFaults)
  | deleteRenderSubtree (path : Path) (f : DeleteFaults)
  | registerRenderTransaction (caller : Context) (subtree : Path) (completionFile : String)
      (root : Bool)
  | recoverRenderTransaction (token : Token) (f : DeleteFaults)
  | commitRenderTransaction (token : Token) (caller : Context) (root rootAgain : Bool)
      (f : DeleteFaults)
  | rollbackRenderTransaction (token : Token) (caller : Context) (root : Bool) (f : DeleteFaults)
  | resetRenderTransaction (token : Token) (caller : Context) (root : Bool) (f : DeleteFaults)
  | releaseRenderTransaction (token : Token)
  | acquireAssetLease (path : Path) (resolved : Bool)
  | releaseAssetLease (lease : Token)
  | reservePublication (policy : RetentionPolicy) (bytes objects inodes : ℕ)
  | beginPublication (token : Token) (sample : PublicationSample)
  | commitPublication (token : Token) (actual : Store.ActualPublication)
      (sample : PublicationSample)
  | abortPublication (token : Token)
  | exitPublication (token : Token)
  | prune (policy : RetentionPolicy) (sample : PruneSample)

namespace Store

/-- The outcome of an action without the value it returns. -/
def discardValue {α : Type} (outcome : Outcome α) : Outcome Unit :=
  (outcome.1.map fun _ => (), outcome.2)

@[simp] theorem discardValue_snd {α : Type} {outcome : Outcome α} :
    (discardValue outcome).2 = outcome.2 := rfl

/-- What one action raises and leaves. -/
def perform (env : Encoding) (s : Store) : Action → Outcome Unit
  | .stage transaction caller root opened => discardValue (s.stage transaction caller root opened)
  | .startWrite staged caller root data => s.startWrite staged caller root data
  | .finishWrite staged outcome => discardValue (s.finishWrite staged outcome)
  | .discard staged caller root unlink => s.discard staged caller root unlink
  | .prepareFileCommit staged caller top filename f =>
    s.prepareFileCommit env staged caller top filename f
  | .publishFile staged f => s.publishFile env staged f
  | .commitRender staged caller destination f => s.commitRender env staged caller destination f
  | .replaceRender staged caller destination expected f =>
    s.replaceRender env staged caller destination expected f
  | .deleteRenderSubtree path f => discardValue (s.deleteRenderSubtree path f)
  | .registerRenderTransaction caller subtree completionFile root =>
    discardValue (s.registerRenderTransaction caller subtree completionFile root)
  | .recoverRenderTransaction token f => s.recoverRenderTransaction token f
  | .commitRenderTransaction token caller root rootAgain f =>
    s.commitRenderTransaction token caller root rootAgain f
  | .rollbackRenderTransaction token caller root f =>
    s.rollbackRenderTransaction token caller root f
  | .resetRenderTransaction token caller root f => s.resetRenderTransaction token caller root f
  | .releaseRenderTransaction token => s.releaseRenderTransaction token
  | .acquireAssetLease path resolved => discardValue (s.acquireAssetLease path resolved)
  | .releaseAssetLease lease => s.releaseAssetLease lease
  | .reservePublication policy bytes objects inodes =>
    discardValue (s.reservePublication policy bytes objects inodes)
  | .beginPublication token sample => s.beginPublication token sample
  | .commitPublication token actual sample => s.commitPublication token actual sample
  | .abortPublication token => s.abortPublication token
  | .exitPublication token => s.exitPublication token
  | .prune policy sample => discardValue (s.prune policy sample)

/-- The store after one action. -/
def step (env : Encoding) (s : Store) (action : Action) : Store := (s.perform env action).2

/-- The store as its constructor leaves it: nothing staged, reserved or leased, the used bytes
scanned, a sequence for every object when a lifecycle is configured, and a policy that the quota
covers (`validate_retention_capacity`). -/
structure Constructed (s : Store) : Prop where
  covers : ∀ policy, s.retentionPolicy = some policy → policy.maximumBytes ≤ s.maxBytes
  used : s.usedBytes = s.scanExistingBytes
  reserved : s.reservedBytes = 0
  stagedFiles : s.stagedFiles = ∅
  staging : s.stagingReservations = ∅
  writers : s.writers = ∅
  publications : s.publicationReservations = ∅
  reservations : s.reservations = ∅
  publicationBytes : s.publicationReservedBytes = 0
  publicationObjects : s.publicationReservedObjects = 0
  publicationInodes : s.publicationReservedInodes = 0
  admission : s.admissionClosedBlocker = none
  assetLeases : s.assetLeases = ∅
  leaseHolders : s.leaseHolders = ∅
  transactionLeases : s.renderTransactionLeases = ∅
  transactions : s.transactions = ∅
  sequences : s.retentionPolicy.isSome → ∀ key ∈ s.objectKeys, key ∈ s.sequences

/-- The store on an empty root. -/
def empty (maxBytes : ℕ) (retentionPolicy : Option RetentionPolicy) : Store where
  maxBytes := maxBytes
  retentionPolicy := retentionPolicy
  files := ∅
  directories := ∅
  stagedFiles := ∅
  sequences := ∅
  nextSequence := 1
  usedBytes := 0
  reservedBytes := 0
  stagingReservations := ∅
  writers := ∅
  publicationReservations := ∅
  reservations := ∅
  publicationReservedBytes := 0
  publicationReservedObjects := 0
  publicationReservedInodes := 0
  admissionClosedBlocker := none
  alerts := []
  assetLeases := ∅
  leaseHolders := ∅
  renderTransactionLeases := ∅
  transactions := ∅
  nextToken := 0

theorem constructed_empty {maxBytes : ℕ} {retentionPolicy : Option RetentionPolicy}
    (covers : ∀ policy, retentionPolicy = some policy → policy.maximumBytes ≤ maxBytes) :
    (empty maxBytes retentionPolicy).Constructed where
  covers := covers
  used := rfl
  reserved := rfl
  stagedFiles := rfl
  staging := rfl
  writers := rfl
  publications := rfl
  reservations := rfl
  publicationBytes := rfl
  publicationObjects := rfl
  publicationInodes := rfl
  admission := rfl
  assetLeases := rfl
  leaseHolders := rfl
  transactionLeases := rfl
  transactions := rfl
  sequences := by simp [empty, objectKeys]

theorem constructed_empty_none {maxBytes : ℕ} : (empty maxBytes none).Constructed :=
  constructed_empty nofun

end Store

/-- SHA-256 by the digests of finitely many inputs, for runs that hash nothing else. -/
def Encoding.ofTable (table : List (Bytes × String)) : Encoding :=
  ⟨fun data => ((table.find? (·.1 = data)).map (·.2)).getD ""⟩

/-- One whole `write`, as a thread that is not interrupted makes it. -/
def Action.write (staged : StagedPath) (caller : Context) (data : Bytes) : List Action :=
  [.startWrite staged caller true data, .finishWrite staged (.returned data.length)]

namespace Store

/-- A page of a render. -/
def samplePage : Path := ⟨⟨.renders, "rnd_00000000000000000000000000000000"⟩, ["page-0001.png"]⟩

/-- The digests of five bytes and of the first insertion sequence of the page's render. -/
def sampleDigest : Encoding := .ofTable
  [([1, 1, 1, 1, 1], "377a23f52c6b357696238c3318f677a082dd3430bb6691042bd550a5cda28ebb"),
    (sequenceJson samplePage.key 1 none,
      "38b31a56e0d0fd744279b049e8de54e05872656d117b45c4480dfe95dfd14c88")]

/-- A policy of a hundred bytes and ten objects. -/
def samplePolicy : RetentionPolicy where
  maximumAgeSeconds := 60
  maximumBytes := 100
  maximumObjects := 10
  minimumFreeBytes := 67108864
  minimumFreeInodes := 128
  age_bounds := by decide
  bytes_bounds := by decide
  objects_bounds := by decide
  free_bytes_bounds := by decide
  free_inodes_bounds := by decide

theorem samplePolicy_covered :
    ∀ policy, some samplePolicy = some policy → policy.maximumBytes ≤ 100 := by
  rintro policy ⟨⟩
  decide

end Store

end NplgMcp
