import NplgMcp.Storage.Footprint

/-!
# Leases exclude writers

Who may change a render is spread over the lease counter, the table of transaction tokens, the
status and the owner of a transaction and the subtree check. `step_changes` collects what the six
operations that change files ask for: no reader, and either no transaction or the one that acts,
strictly below its subtree. Two invariants connect the tables with what is held: the counter of an
object is the number of its leases, and an object has at most one token. The content-addressed
commit of a render, which asks for no lease, is not among the operations here.
-/

open Library

namespace NplgMcp

/-- The path lies strictly below the directory. -/
def Path.StrictlyWithin (path directory : Path) : Prop := path.Within directory ∧ path ≠ directory

/-- A commit or a replacement by a writer that the live transaction staged, called by its owner. -/
def Action.IsWriteOf (s : Store) (token : Token) : Action → Prop
  | .commitRender staged caller _ _ | .replaceRender staged caller _ _ _ =>
    ∃ writer transaction, s.writers.lookup staged = some writer ∧
      writer.transaction = some token ∧ s.transactions.lookup token = some transaction ∧
      transaction.status = .live ∧ transaction.owner = caller
  | _ => False

/-- A step of the transaction itself. -/
def Action.IsStepOf (token : Token) : Action → Prop
  | .recoverRenderTransaction own _ | .commitRenderTransaction own _ _ _ _
  | .rollbackRenderTransaction own _ _ _ | .resetRenderTransaction own _ _ _ => own = token
  | _ => False

namespace Store

variable {env : Encoding} {s s' : Store} {staged : StagedPath} {key : ObjectKey} {path : Path}
  {action : Action} {token : Token}

/-- The action changes the file for the transaction: one of its writers does so strictly below its
subtree, or gives the render its insertion-sequence record, or the transaction itself deletes it
strictly below the subtree. -/
def MutatesFor (s : Store) (action : Action) (token : Token) (path : Path) : Prop :=
  ∃ transaction, s.transactions.lookup token = some transaction ∧
    (action.IsWriteOf s token ∧
        (path.StrictlyWithin transaction.subtree ∨ path = path.key.sequenceFile) ∨
      action.IsStepOf token ∧ path.StrictlyWithin transaction.subtree)

/-- What a change of a render's file takes. -/
def Authorized (s : Store) (action : Action) (path : Path) : Prop :=
  s.assetLeaseCount path.key = 0 ∧ (s.transactionTokens path.key = ∅ ∨
    ∃ token ∈ s.transactionTokens path.key, s.MutatesFor action token path)

/-- Every content-addressed commit that publishes is a document's. -/
def Listed (s : Store) : Action → Prop
  | .publishFile staged _ => ∀ commit, (s.writers.lookup staged).bind (·.committing) = some commit →
      commit.key.top = .documents
  | _ => True

/-! ## The tables of leases -/

/-- The leases and the transactions stay, and names are only used up. -/
structure KeepsLeases (s s' : Store) : Prop where
  assetLeases : s'.assetLeases = s.assetLeases
  leaseHolders : s'.leaseHolders = s.leaseHolders
  tokens : s'.renderTransactionLeases = s.renderTransactionLeases
  transactions : s'.transactions = s.transactions
  names : s.nextToken ≤ s'.nextToken

theorem KeepsLeases.refl : KeepsLeases s s := ⟨rfl, rfl, rfl, rfl, le_rfl⟩

theorem keepsLeases_of_authority (h : s'.authority = s.authority) : KeepsLeases s s' := by
  have hleases := congrArg Store.assetLeases h
  have hholders := congrArg Store.leaseHolders h
  have htokens := congrArg Store.renderTransactionLeases h
  have htransactions := congrArg Store.transactions h
  have hnames := congrArg Store.nextToken h
  exact ⟨hleases, hholders, htokens, htransactions, ge_of_eq hnames⟩

theorem keepsLeases_publicationDenial {blocker : PublicationBlocker} :
    KeepsLeases s (s.publicationDenial blocker).2 := by
  unfold publicationDenial
  split
  · exact .refl
  · exact ⟨rfl, rfl, rfl, rfl, le_rfl⟩

theorem keepsLeases_reservePublication {policy : RetentionPolicy} {bytes objects inodes : ℕ} :
    KeepsLeases s (s.reservePublication policy bytes objects inodes).2 := by
  unfold reservePublication
  split
  · exact .refl
  · split
    · exact .refl
    · exact ⟨rfl, rfl, rfl, rfl, Nat.le_succ _⟩

theorem keepsLeases_beginPublication {sample : PublicationSample} :
    KeepsLeases s (s.beginPublication token sample).2 := by
  rcases @beginPublication_cases s token sample with
    ⟨error, heq⟩ | ⟨blocker, heq⟩ | ⟨_, _, _, _, -, heq⟩ <;> rw [heq]
  · exact .refl
  · exact keepsLeases_publicationDenial
  · exact ⟨rfl, rfl, rfl, rfl, le_rfl⟩

theorem keepsLeases_commitPublication {actual : ActualPublication} {sample : PublicationSample} :
    KeepsLeases s (s.commitPublication token actual sample).2 := by
  rcases @commitPublication_cases s token actual sample with
    ⟨error, -, heq⟩ | ⟨-, heq⟩ | ⟨_, _, _, _, -, ⟨blocker, -, heq⟩ | ⟨-, heq⟩⟩ <;> rw [heq]
  · exact .refl
  · exact keepsLeases_publicationDenial
  · exact keepsLeases_publicationDenial
  · exact ⟨rfl, rfl, rfl, rfl, le_rfl⟩

theorem keepsLeases_abortPublication : KeepsLeases s (s.abortPublication token).2 := by
  rcases @abortPublication_cases s token with ⟨error, heq⟩ | ⟨_, -, -, -, heq⟩ <;> rw [heq]
  · exact .refl
  · exact ⟨rfl, rfl, rfl, rfl, le_rfl⟩

theorem keepsLeases_exitPublication : KeepsLeases s (s.exitPublication token).2 := by
  unfold exitPublication
  split
  · exact .refl
  · exact keepsLeases_abortPublication

/-! ## What a change takes -/

theorem authorityError_eq_none {transaction : Option Token}
    (h : s.authorityError key transaction = none) :
    s.assetLeaseCount key = 0 ∧ (s.transactionTokens key = ∅ ∨
      ∃ token, transaction = some token ∧ s.transactionTokens key = {token}) := by
  unfold authorityError at h
  split at h
  · cases h
  · rename_i hlease
    refine ⟨by omega, ?_⟩
    cases transaction with
    | none =>
        dsimp only at h
        split_ifs at h with htokens
        exact .inl (not_not.1 htokens)
    | some token =>
        dsimp only at h
        split_ifs at h with htokens
        exact .inr ⟨token, rfl, not_not.1 htokens⟩

theorem deletionError_eq_none {transaction : Option Token}
    (h : s.deletionError key transaction = none) :
    s.assetLeaseCount key = 0 ∧ (∀ token ∈ transaction, token ∈ s.transactionTokens key) ∧
      s.transactionTokens key \ transaction.toFinset = ∅ := by
  unfold deletionError at h
  split_ifs at h with hany huse
  rw [not_or, not_not] at huse
  refine ⟨by omega, fun token htoken => ?_, huse.2⟩
  by_contra hnot
  exact hany (by rw [Option.mem_def.1 htoken]; simpa using hnot)

theorem accessError_eq_none {caller : Context} {root : Bool}
    (h : s.accessError (some token) caller root = none) :
    ∃ transaction, s.transactions.lookup token = some transaction ∧
      transaction.status = .live ∧ transaction.owner = caller := by
  unfold accessError at h
  dsimp only at h
  split at h
  · cases h
  · rename_i transaction hlookup
    split_ifs at h with hstatus howner hroot
    exact ⟨transaction, hlookup, not_not.1 hstatus, not_not.1 howner⟩

/-- What the checks before the staged file is looked at give. -/
theorem AdmitsRender.authorized {caller : Context} {request : Option StoreError}
    {f : CommitFaults} {snapshot : StagedSnapshot}
    (h : s.AdmitsRender env staged caller path request f snapshot) :
    s.assetLeaseCount path.key = 0 ∧ (s.transactionTokens path.key = ∅ ∨
      ∃ token ∈ s.transactionTokens path.key, ∃ writer transaction,
        s.writers.lookup staged = some writer ∧ writer.transaction = some token ∧
        s.transactions.lookup token = some transaction ∧ transaction.status = .live ∧
        transaction.owner = caller ∧ path.StrictlyWithin transaction.subtree) := by
  have hadmitted := h.admitted
  obtain ⟨hleases, -, htokens, htransactions, -⟩ :=
    keepsLeases_of_authority (@authority_closeWriter s staged)
  unfold renderMutationError at hadmitted
  simp only [Option.or_eq_none_iff] at hadmitted
  obtain ⟨haccess, -, -, -, hdestination, hauthority⟩ := hadmitted
  obtain ⟨hcount, hheld⟩ := authorityError_eq_none hauthority
  simp only [assetLeaseCount, transactionTokens, hleases, htokens] at hcount hheld
  refine ⟨hcount, hheld.imp_right ?_⟩
  rintro ⟨token, htransaction, hsingle⟩
  obtain ⟨writer, hwriter, hstaged⟩ := Option.bind_eq_some_iff.1 htransaction
  rw [htransaction] at haccess hdestination
  obtain ⟨transaction, hlookup, hlive, howner⟩ := accessError_eq_none haccess
  refine ⟨token, ?_, writer, transaction, hwriter, hstaged, htransactions ▸ hlookup, hlive, howner, ?_⟩
  · rw [transactionTokens, hsingle]
    exact Finset.mem_singleton_self token
  · unfold destinationError at hdestination
    rw [Option.bind_some, hlookup] at hdestination
    dsimp only at hdestination
    split_ifs at hdestination with hwithin
    exact hwithin

/-- A writer's commit of one of its files, or of the record that goes with it. -/
theorem AdmitsRender.changes {caller : Context} {request : Option StoreError}
    {f : CommitFaults} {snapshot : StagedSnapshot} {other : Path}
    (h : s.AdmitsRender env staged caller path request f snapshot)
    (hwrite : ∀ token, action.IsWriteOf s token ↔ ∃ writer transaction,
      s.writers.lookup staged = some writer ∧ writer.transaction = some token ∧
      s.transactions.lookup token = some transaction ∧ transaction.status = .live ∧
      transaction.owner = caller)
    (hother : other = path ∨ other = path.key.sequenceFile) : s.Authorized action other := by
  have hkey : other.key = path.key := by
    rcases hother with rfl | rfl <;> rfl
  obtain ⟨hcount, hheld⟩ := h.authorized
  unfold Authorized
  rw [hkey]
  refine ⟨hcount, hheld.imp_right ?_⟩
  rintro ⟨token, htoken, writer, transaction, hwriter, hstaged, hlookup, hlive, howner, hwithin⟩
  refine ⟨token, htoken, transaction, hlookup, .inl ⟨?_, ?_⟩⟩
  · exact (hwrite token).2 ⟨writer, transaction, hwriter, hstaged, hlookup, hlive, howner⟩
  · rcases hother with rfl | rfl
    · exact .inl hwithin
    · exact .inr rfl

theorem changes_commitRender {caller : Context} {f : CommitFaults} {other : Path}
    (h : (s.commitRender env staged caller path f).2.files.lookup other ≠ s.files.lookup other) :
    s.Authorized (.commitRender staged caller path f) other := by
  rcases @commitRender_cases env s staged path caller f with heq | heq | ⟨snapshot, hadmits, heq⟩
  · exact absurd (by rw [heq]) h
  · exact absurd (by rw [heq, files_closeWriter]) h
  · refine hadmits.changes (fun token => Iff.rfl) ?_
    by_contra hother
    rw [heq, changesOnly_commitStagedRenderLocked other hother, files_closeWriter] at h
    exact h rfl

theorem changes_replaceRender {caller : Context} {expected : String} {f : CommitFaults}
    {other : Path} (h : (s.replaceRender env staged caller path expected f).2.files.lookup other ≠
      s.files.lookup other) :
    s.Authorized (.replaceRender staged caller path expected f) other := by
  rcases @replaceRender_cases env s staged path caller expected f with
    heq | heq | ⟨snapshot, hadmits, heq⟩
  · exact absurd (by rw [heq]) h
  · exact absurd (by rw [heq, files_closeWriter]) h
  · refine hadmits.changes (fun token => Iff.rfl) (.inl ?_)
    by_contra hother
    rw [heq, changesOnly_replaceStagedRenderLocked other hother, files_closeWriter] at h
    exact h rfl

/-- A deletion changes files strictly below its path, with the authority for it. -/
theorem changes_deleteRenderSubtreeLocked {transaction : Option Token} {f : DeleteFaults}
    {other : Path} (h : (s.deleteRenderSubtreeLocked path transaction f).2.files.lookup other ≠
      s.files.lookup other) :
    other.StrictlyWithin path ∧ s.assetLeaseCount other.key = 0 ∧
      (∀ token ∈ transaction, token ∈ s.transactionTokens other.key) ∧
      s.transactionTokens other.key \ transaction.toFinset = ∅ := by
  rcases @deleteRenderSubtreeLocked_cases s path transaction f with
    heq | ⟨hauthority, hfile, -, heq⟩
  · exact absurd (by rw [heq]) h
  · have hfiles : (s.deleteRenderSubtreeLocked path transaction f).2.files =
        (s.removed path f.removal).files := by
      rcases heq with heq | heq
      · rw [heq]
      · rw [heq]
        rfl
    rw [hfiles] at h
    have hwithin : other.Within path := by
      by_contra hnot
      exact h (changesOnly_removed other hnot)
    have hne : other ≠ path := by
      -- a path that is no file before the deletion is none after it
      rintro rfl
      have hnone := Finmap.lookup_eq_none.2 hfile
      refine h ?_
      rw [hnone]
      have hremoved : (s.rmtree other f.removal).2.files.lookup other = none := by
        cases f.removal <;> simp [rmtree, hnone]
      unfold removed
      split
      · rw [files_forgetSequence]
        exact hremoved
      · exact hremoved
    rw [hwithin.1]
    exact ⟨⟨hwithin, hne⟩, deletionError_eq_none hauthority⟩

/-- A transaction deletes strictly below its subtree. -/
theorem TransactionStep.changes {f : DeleteFaults} {other : Path}
    (h : TransactionStep s token f s') (hstep : action.IsStepOf token)
    (hchanged : s'.files.lookup other ≠ s.files.lookup other) : s.Authorized action other := by
  rcases h with rfl | ⟨transaction, hlookup, -, middle, hmiddle, hs⟩
  · exact absurd rfl hchanged
  · have hfiles : s'.files = middle.files := by
      rcases hs with rfl | ⟨complete, status, -, rfl⟩ <;> rfl
    rw [hfiles] at hchanged
    rcases hmiddle with rfl | rfl
    · exact absurd rfl hchanged
    · obtain ⟨hwithin, hcount, htoken, -⟩ := changes_deleteRenderSubtreeLocked hchanged
      exact ⟨hcount, .inr ⟨token, htoken token rfl, transaction, hlookup, .inr ⟨hstep, hwithin⟩⟩⟩

theorem isLeased_of_authority (h : s'.authority = s.authority) : s'.isLeased key = s.isLeased key := by
  obtain ⟨hleases, -, htokens, -, -⟩ := keepsLeases_of_authority h
  unfold isLeased assetLeaseCount transactionTokens
  rw [hleases, htokens]

/-- A file or a directory of the object is there exactly when it was, with the same bytes. -/
structure SameObject (key : ObjectKey) (s s' : Store) : Prop where
  files : ∀ path, path.key = key → s'.files.lookup path = s.files.lookup path
  directories : ∀ path, path.key = key → (path ∈ s'.directories ↔ path ∈ s.directories)

theorem SameObject.refl : SameObject key s s := ⟨fun _ _ => rfl, fun _ _ => Iff.rfl⟩

theorem SameObject.trans {s'' : Store} (h : SameObject key s s') (h' : SameObject key s' s'') :
    SameObject key s s'' :=
  ⟨fun path hpath => (h'.files path hpath).trans (h.files path hpath),
    fun path hpath => (h'.directories path hpath).trans (h.directories path hpath)⟩

/-- The eviction of one object leaves every other as it was. -/
theorem sameObject_evict {other : ObjectKey} {removal : Removal} (hne : key ≠ other) :
    SameObject key s ((s.removeStoragePath other.root removal).2.forgetSequence other) := by
  refine ⟨fun path hpath => ?_, fun path hpath => ?_⟩
  · rw [files_forgetSequence]
    exact changesOnly_removeStoragePath path fun hkey => hne (hpath.symm.trans hkey)
  · have hkeeps : removal.Keeps other.root path := .inl fun hwithin => hne (hpath ▸ hwithin.1)
    rw [directories_forgetSequence]
    unfold removeStoragePath
    split
    · cases removal <;> simp [rmtree, hkeeps]
    · cases removal <;> rfl

/-- A prune evicts nothing that is leased. -/
theorem sameObject_pruneUnleased {policy : RetentionPolicy} {capacity : StorageCapacity}
    {cutoffNs : ℤ} {clockTrusted : Bool} {sample : PruneSample}
    {candidates objects : List StoredObject} {freed : ℕ × ℕ} (hleased : s.isLeased key = true) :
    SameObject key s (pruneUnleased policy capacity cutoffNs clockTrusted sample s candidates objects
      freed).2 := by
  induction candidates generalizing s objects freed with
  | nil => exact .refl
  | cons candidate rest ih =>
      unfold pruneUnleased
      dsimp only
      split
      · exact ih hleased
      · split
        · exact ih hleased
        · rename_i hfree
          have hne : key ≠ candidate.key := by
            rintro rfl
            exact hfree hleased
          have hevicted := @sameObject_evict s key candidate.key (sample.removal candidate.key) hne
          have hauthority := authority_of_withoutDisk ((@withoutDisk_forgetSequence _
            candidate.key).trans (@withoutDisk_removeStoragePath s candidate.key.root
              (sample.removal candidate.key)))
          split <;> rename_i heq <;> rw [heq] at hevicted hauthority
          · exact ⟨fun path hpath => (files_forgetSequence ▸ hevicted.files path hpath :),
              fun path hpath => (directories_forgetSequence ▸ hevicted.directories path hpath :)⟩
          · split
            · exact hevicted
            · exact hevicted.trans (ih (isLeased_of_authority hauthority ▸ hleased))

theorem sameObject_prune {policy : RetentionPolicy} {sample : PruneSample}
    (hleased : s.isLeased key = true) : SameObject key s (s.prune policy sample).2 := by
  rcases @prune_cases s policy sample with heq | ⟨_, _, _, _, _, pruned, hpruned, heq⟩
  · rw [heq]
    exact .refl
  · have hevicted : SameObject key s pruned := hpruned ▸ sameObject_pruneUnleased hleased
    rcases heq with heq | heq | ⟨blockers, heq⟩ <;> rw [heq]
    · exact hevicted
    · exact ⟨hevicted.files, hevicted.directories⟩
    · unfold latchPrune
      split
      · exact ⟨hevicted.files, hevicted.directories⟩
      · split <;> exact ⟨hevicted.files, hevicted.directories⟩

/-- **What a change of a render's file takes**: no reader, and either no transaction or the one that
acts, strictly below its subtree. -/
theorem step_changes (hlisted : s.Listed action) (hrender : path.key.top = .renders)
    (h : (s.step env action).files.lookup path ≠ s.files.lookup path) : s.Authorized action path := by
  have hcore {s' : Store} (hsame : s'.core = s.core) : s'.files = s.files := by
    have hfiles := congrArg Store.files hsame
    exact hfiles
  have hmaterial {s' : Store} (hkeeps : KeepsMaterial s s') : s'.files = s.files := by
    have hfiles := congrArg Store.files hkeeps.same
    exact hfiles
  have hnone {s' : Store} (hsame : s'.files = s.files)
      (hchanged : s'.files.lookup path ≠ s.files.lookup path) : s.Authorized action path :=
    absurd (by rw [hsame]) hchanged
  cases action with
  | stage transaction caller root opened =>
      obtain ⟨next, -, hsame⟩ := @core_stage s transaction caller root opened
      have hfiles := congrArg Store.files hsame
      exact hnone hfiles h
  | startWrite => exact hnone (hcore core_startWrite) h
  | finishWrite => exact hnone (hcore core_finishWrite) h
  | discard => exact hnone (hcore core_discard) h
  | prepareFileCommit => exact hnone prepareFileCommit_cases.1 h
  | publishFile staged f =>
      simp only [Store.step, perform] at h
      rcases @publishFile_cases env s staged f with heq | ⟨commit, hcommit, heq⟩
      · exact absurd (by rw [heq]) h
      · -- a document is not a render
        refine absurd ?_ h
        rw [heq, changesOnly_commitStagedFileLocked path, files_closeWriter]
        intro hkey
        rw [hkey, hlisted commit hcommit] at hrender
        cases hrender
  | commitRender => exact changes_commitRender h
  | replaceRender => exact changes_replaceRender h
  | deleteRenderSubtree subtree f =>
      simp only [Store.step, perform, discardValue_snd, deleteRenderSubtree] at h
      split at h
      · exact absurd rfl h
      · obtain ⟨-, hcount, -, htokens⟩ := changes_deleteRenderSubtreeLocked h
        exact ⟨hcount, .inl (by simpa using htokens)⟩
  | registerRenderTransaction => exact hnone (hmaterial keepsMaterial_registerRenderTransaction) h
  | recoverRenderTransaction => exact transactionStep_recover.changes rfl h
  | commitRenderTransaction => exact transactionStep_commit.changes rfl h
  | rollbackRenderTransaction => exact transactionStep_rollback.changes rfl h
  | resetRenderTransaction => exact transactionStep_reset.changes rfl h
  | releaseRenderTransaction => exact hnone (hmaterial keepsMaterial_releaseRenderTransaction) h
  | acquireAssetLease => exact hnone (hmaterial keepsMaterial_acquireAssetLease) h
  | releaseAssetLease => exact hnone (hmaterial keepsMaterial_releaseAssetLease) h
  | reservePublication => exact hnone (hmaterial keepsMaterial_reservePublication) h
  | beginPublication => exact hnone (hmaterial keepsMaterial_beginPublication) h
  | commitPublication => exact hnone (hmaterial keepsMaterial_commitPublication) h
  | abortPublication => exact hnone (hmaterial keepsMaterial_abortPublication) h
  | exitPublication => exact hnone (hmaterial keepsMaterial_exitPublication) h
  | prune policy sample =>
      by_cases hleased : s.isLeased path.key = true
      · exact absurd ((sameObject_prune hleased).files path rfl) h
      · simp only [isLeased, Bool.or_eq_true, decide_eq_true_eq, not_or, not_lt, not_not] at hleased
        exact ⟨Nat.le_zero.1 hleased.1, .inl hleased.2⟩

/-! ## The invariant -/

/-- The leases held on the object. -/
def leaseHolderCount (s : Store) (key : ObjectKey) : ℕ :=
  Dict.total (fun _ held => if held = key then 1 else 0) s.leaseHolders

/-- The counter of an object is the number of its leases, and only renders have a token, and at most
one. -/
structure Exclusive (s : Store) : Prop where
  counted : ∀ key, s.assetLeaseCount key = s.leaseHolderCount key
  fresh : ∀ lease ∈ s.leaseHolders, lease < s.nextToken
  single : ∀ key, ∀ token ∈ s.transactionTokens key,
    s.transactionTokens key = {token} ∧ key.top = .renders

namespace Exclusive

theorem of_constructed (h : s.Constructed) : s.Exclusive where
  counted := by simp [assetLeaseCount, leaseHolderCount, h.assetLeases, h.leaseHolders]
  fresh := fun lease hlease => absurd (h.leaseHolders ▸ hlease) Finmap.notMem_empty
  single := by simp [transactionTokens, h.transactionLeases]

/-- A lease that is held is counted. -/
theorem count_pos (h : s.Exclusive) {lease : Token} (hlease : s.leaseHolders.lookup lease = some key) :
    0 < s.assetLeaseCount key := by
  have hone := Dict.le_total (w := fun _ held => if held = key then 1 else 0) hlease
  rw [if_pos rfl] at hone
  rw [h.counted]
  exact hone

/-- What keeps the leases, their counters and the tokens keeps the invariant. -/
theorem of_tables (h : s.Exclusive) (hleases : s'.assetLeases = s.assetLeases)
    (hholders : s'.leaseHolders = s.leaseHolders)
    (htokens : s'.renderTransactionLeases = s.renderTransactionLeases)
    (hnames : s.nextToken ≤ s'.nextToken) : s'.Exclusive where
  counted := by
    simp only [assetLeaseCount, leaseHolderCount, hleases, hholders]
    exact h.counted
  fresh := by
    rw [hholders]
    exact fun lease hlease => lt_of_lt_of_le (h.fresh lease hlease) hnames
  single := by
    simp only [transactionTokens, htokens]
    exact h.single

theorem keepsLeases (h : s.Exclusive) (hs : KeepsLeases s s') : s'.Exclusive :=
  h.of_tables hs.assetLeases hs.leaseHolders hs.tokens hs.names

theorem of_authority (h : s.Exclusive) (hs : s'.authority = s.authority) : s'.Exclusive :=
  h.keepsLeases (keepsLeases_of_authority hs)

theorem stage (h : s.Exclusive) {transaction : Option Token} {caller : Context}
    {root opened : Bool} : (s.stage transaction caller root opened).2.Exclusive := by
  obtain ⟨next, hnext, hsame⟩ := @core_stage s transaction caller root opened
  have hleases := congrArg Store.assetLeases hsame
  have hholders := congrArg Store.leaseHolders hsame
  have htokens := congrArg Store.renderTransactionLeases hsame
  have hnames := congrArg Store.nextToken hsame
  exact h.of_tables hleases hholders htokens (hnext.trans (ge_of_eq hnames))

theorem acquireAssetLease (h : s.Exclusive) {resolved : Bool} :
    (s.acquireAssetLease path resolved).2.Exclusive := by
  unfold Store.acquireAssetLease
  split
  · exact h
  · split
    · exact h
    · split
      · exact h
      · have hnew : s.nextToken ∉ s.leaseHolders := fun hmem => lt_irrefl _ (h.fresh _ hmem)
        refine ⟨fun key => ?_, fun lease hlease => ?_, h.single⟩
        · have hcount := h.counted key
          have htotal := Dict.total_insert_of_notMem (w := fun _ held => if held = key then 1 else 0)
            (v := path.key) hnew
          simp only [leaseHolderCount, assetLeaseCount] at hcount ⊢
          rw [htotal, ← hcount]
          by_cases hkey : path.key = key
          · subst hkey
            simp [Nat.add_comm]
          · rw [Finmap.lookup_insert_of_ne _ (Ne.symm hkey)]
            simp [hkey]
        · rcases Finmap.mem_insert.1 hlease with rfl | hold
          · exact Nat.lt_succ_self _
          · exact Nat.lt_succ_of_lt (h.fresh lease hold)

theorem releaseAssetLease (h : s.Exclusive) {lease : Token} :
    (s.releaseAssetLease lease).2.Exclusive := by
  unfold Store.releaseAssetLease
  split
  · exact h
  · rename_i key hlease
    have hfresh : ∀ other ∈ s.leaseHolders.erase lease, other < s.nextToken :=
      fun other hother => h.fresh other (Finmap.mem_erase.1 hother).2
    have hheld (other : ObjectKey) : s.assetLeaseCount other =
        Dict.total (fun _ held => if held = other then 1 else 0) (s.leaseHolders.erase lease) +
          if key = other then 1 else 0 := by
      rw [h.counted, leaseHolderCount, add_comm]
      exact (Dict.total_erase_add hlease).symm
    have hkey := hheld key
    dsimp only
    split
    · rename_i hlookup
      simp [assetLeaseCount, hlookup] at hkey
    · rename_i hlookup
      simp [assetLeaseCount, hlookup] at hkey
    · rename_i hlookup
      refine ⟨fun other => ?_, hfresh, h.single⟩
      have hother := hheld other
      simp only [assetLeaseCount, leaseHolderCount] at hother ⊢
      by_cases hsame : other = key
      · subst hsame
        rw [hlookup, Option.getD_some, if_pos rfl] at hother
        rw [Finmap.lookup_erase, Option.getD_none]
        omega
      · rw [Finmap.lookup_erase_ne hsame, hother, if_neg (Ne.symm hsame), Nat.add_zero]
    · rename_i count hlookup
      refine ⟨fun other => ?_, hfresh, h.single⟩
      have hother := hheld other
      simp only [assetLeaseCount, leaseHolderCount] at hother ⊢
      by_cases hsame : other = key
      · subst hsame
        rw [hlookup, Option.getD_some, if_pos rfl] at hother
        rw [Finmap.lookup_insert, Option.getD_some]
        omega
      · rw [Finmap.lookup_insert_of_ne _ hsame, hother, if_neg (Ne.symm hsame), Nat.add_zero]

theorem setTransaction (h : s.Exclusive) {transaction : RenderTransaction} :
    (s.setTransaction token transaction).Exclusive := h.of_tables rfl rfl rfl le_rfl

theorem registerRenderTransaction (h : s.Exclusive) {caller : Context} {completionFile : String}
    {root : Bool} : (s.registerRenderTransaction caller path completionFile root).2.Exclusive := by
  unfold Store.registerRenderTransaction
  dsimp only
  split
  · exact h
  · split
    · exact h
    · rename_i hsubtree
      split
      · exact h
      · split
        · exact h
        · refine ⟨h.counted, fun lease hlease => Nat.lt_succ_of_lt (h.fresh lease hlease), ?_⟩
          intro key token htoken
          simp only [transactionTokens] at htoken ⊢
          by_cases hkey : key = path.key
          · subst hkey
            rw [Finmap.lookup_insert, Option.getD_some] at htoken ⊢
            rw [Finset.mem_singleton.1 htoken]
            simp only [isRenderSubtree, Bool.and_eq_true, decide_eq_true_eq, Bool.not_eq_true',
              Bool.not_eq_false] at hsubtree
            exact ⟨rfl, hsubtree.1.1⟩
          · rw [Finmap.lookup_insert_of_ne _ hkey] at htoken ⊢
            exact h.single key token htoken

theorem transactionStep (h : s.Exclusive) {f : DeleteFaults}
    (hs : TransactionStep s token f s') : s'.Exclusive := by
  rcases hs with rfl | ⟨transaction, -, -, middle, hmiddle, hs⟩
  · exact h
  · have hdeleted : middle.Exclusive := by
      rcases hmiddle with rfl | rfl
      · exact h
      · exact h.of_authority authority_deleteRenderSubtreeLocked
    rcases hs with rfl | ⟨complete, status, -, rfl⟩
    · exact hdeleted
    · exact hdeleted.setTransaction

theorem releaseRenderTransaction (h : s.Exclusive) :
    (s.releaseRenderTransaction token).2.Exclusive := by
  unfold Store.releaseRenderTransaction
  split
  · exact h
  · rename_i transaction _
    split
    · exact h
    · dsimp only
      split
      · exact h.setTransaction
      · refine ⟨h.counted, h.fresh, fun key other hother => ?_⟩
        simp only [transactionTokens] at hother ⊢
        by_cases hkey : key = transaction.subtree.key
        · subst hkey
          simp [Store.setTransaction] at hother
        · rw [Finmap.lookup_erase_ne hkey] at hother ⊢
          exact h.single key other hother

theorem prune (h : s.Exclusive) {policy : RetentionPolicy} {sample : PruneSample} :
    (s.prune policy sample).2.Exclusive := by
  rcases @prune_cases s policy sample with heq | ⟨_, _, _, _, _, pruned, hpruned, heq⟩
  · rw [heq]
    exact h
  · have hevicted : pruned.Exclusive :=
      h.of_authority (hpruned ▸ authority_of_withoutDisk withoutDisk_pruneUnleased)
    rcases heq with heq | heq | ⟨blockers, heq⟩ <;> rw [heq]
    · exact hevicted
    · exact hevicted.of_tables rfl rfl rfl le_rfl
    · unfold latchPrune
      split
      · exact hevicted.of_tables rfl rfl rfl le_rfl
      · split <;> exact hevicted.of_tables rfl rfl rfl le_rfl

/-- One step keeps the invariant. -/
theorem step (h : s.Exclusive) : (s.step env action).Exclusive := by
  cases action with
  | stage => exact h.stage
  | startWrite => exact h.of_authority (authority_of_core core_startWrite)
  | finishWrite => exact h.of_authority (authority_of_core core_finishWrite)
  | discard => exact h.of_authority (authority_of_core core_discard)
  | prepareFileCommit => exact h.of_authority authority_prepareFileCommit
  | publishFile => exact h.of_authority authority_publishFile
  | commitRender => exact h.of_authority authority_commitRender
  | replaceRender => exact h.of_authority authority_replaceRender
  | deleteRenderSubtree path f =>
      simp only [Store.step, perform, discardValue_snd, Store.deleteRenderSubtree]
      split
      · exact h
      · exact h.of_authority authority_deleteRenderSubtreeLocked
  | registerRenderTransaction => exact h.registerRenderTransaction
  | recoverRenderTransaction => exact h.transactionStep transactionStep_recover
  | commitRenderTransaction => exact h.transactionStep transactionStep_commit
  | rollbackRenderTransaction => exact h.transactionStep transactionStep_rollback
  | resetRenderTransaction => exact h.transactionStep transactionStep_reset
  | releaseRenderTransaction => exact h.releaseRenderTransaction
  | acquireAssetLease => exact h.acquireAssetLease
  | releaseAssetLease => exact h.releaseAssetLease
  | reservePublication => exact h.keepsLeases keepsLeases_reservePublication
  | beginPublication => exact h.keepsLeases keepsLeases_beginPublication
  | commitPublication => exact h.keepsLeases keepsLeases_commitPublication
  | abortPublication => exact h.keepsLeases keepsLeases_abortPublication
  | exitPublication => exact h.keepsLeases keepsLeases_exitPublication
  | prune => exact h.prune

end Exclusive

/-! ## Runs -/

/-- What the leases exclude when the store takes a step. -/
structure ExcludesAt (env : Encoding) (s : Store) (action : Action) : Prop where
  /-- no file of a render is deleted, replaced or committed while a reader holds a lease on it -/
  readers : ∀ lease key, s.leaseHolders.lookup lease = some key → key.top = .renders →
    ∀ path, path.key = key → (s.step env action).files.lookup path = s.files.lookup path
  /-- a render has at most one transaction token -/
  single : ∀ key, (s.transactionTokens key).card ≤ 1
  /-- while it has one, no lease can be acquired on it -/
  unreadable : ∀ key, ∀ token ∈ s.transactionTokens key, ∀ path resolved, path.key = key →
    s.acquireAssetLease path resolved = (.error .inUseForReading, s)
  /-- and only the transaction changes its files -/
  owned : ∀ key, ∀ token ∈ s.transactionTokens key, ∀ path, path.key = key →
    (s.step env action).files.lookup path ≠ s.files.lookup path → s.MutatesFor action token path
  /-- a prune leaves an object alone that a reader or a transaction holds -/
  pruned : ∀ policy sample, action = .prune policy sample → ∀ key,
    (∃ lease, s.leaseHolders.lookup lease = some key) ∨ s.transactionTokens key ≠ ∅ →
    SameObject key s (s.step env action)

/-- The invariant gives what the leases exclude. -/
theorem Exclusive.excludesAt (h : s.Exclusive) (hlisted : s.Listed action) :
    s.ExcludesAt env action where
  readers lease key hlease hrender path hpath := by
    by_contra hchanged
    obtain ⟨hcount, -⟩ := step_changes hlisted (hpath ▸ hrender) hchanged
    rw [hpath] at hcount
    exact absurd (h.count_pos hlease) (by omega)
  single key := by
    rcases (s.transactionTokens key).eq_empty_or_nonempty with hempty | ⟨token, htoken⟩
    · simp [hempty]
    · simp [(h.single key token htoken).1]
  unreadable key token htoken path resolved hpath := by
    unfold Store.acquireAssetLease
    rw [if_pos]
    rw [hpath]
    exact Finset.ne_empty_of_mem htoken
  owned key token htoken path hpath hchanged := by
    obtain ⟨hsingle, hrender⟩ := h.single key token htoken
    obtain ⟨-, hauthorized⟩ := step_changes hlisted (hpath ▸ hrender) hchanged
    rw [hpath, hsingle] at hauthorized
    rcases hauthorized with hempty | ⟨other, hother, hmutates⟩
    · exact absurd hempty (Finset.singleton_ne_empty token)
    · exact Finset.mem_singleton.1 hother ▸ hmutates
  pruned policy sample haction key hheld := by
    subst haction
    refine sameObject_prune ?_
    rcases hheld with ⟨lease, hlease⟩ | htokens
    · simp [isLeased, h.count_pos hlease]
    · simp [isLeased, htokens]

/-- A render is published and leased, and a transaction, a deletion and a replacement follow. -/
def leasedRun : List Action :=
  .stage none 0 true true :: Action.write 0 0 [1, 1, 1, 1, 1] ++
    [.commitRender 0 0 samplePage {}, .acquireAssetLease samplePage true,
      .registerRenderTransaction 0 samplePage.key.root "manifest.json" true,
      .recoverRenderTransaction 2 {}, .deleteRenderSubtree samplePage.key.root {}]

end Store

end NplgMcp
