import NplgMcp.Storage.Exclusion

/-!
# What a render transaction delivers

A transaction that works in a subtree nobody reads adds files below it and touches no other
artifact: a commit through one of its writers puts the staged bytes at their destination, and a
rollback leaves no artifact in the subtree.
-/

open Library

namespace NplgMcp

/-- A file or directory directly below a directory. -/
def Path.child (directory : Path) (name : String) : Path :=
  ⟨directory.key, directory.parts ++ [name]⟩

theorem Path.parents_eq {path : Path} (h : path.parts ≠ []) :
    path.parents = path.parts.dropLast.inits.map (⟨path.key, ·⟩) := by
  unfold Path.parents
  split
  · contradiction
  · rfl

/-- A directory strictly above a path is one of its parents. -/
theorem Path.StrictlyWithin.mem_parents {path directory : Path} (h : path.StrictlyWithin directory) :
    directory ∈ path.parents := by
  obtain ⟨⟨hkey, tail, htail⟩, hne⟩ := h
  have hnonempty : tail ≠ [] := by
    rintro rfl
    rw [List.append_nil] at htail
    obtain ⟨key, parts⟩ := path
    exact hne (congrArg₂ Path.mk hkey htail.symm)
  rw [Path.parents_eq (htail ▸ List.append_ne_nil_of_right_ne_nil _ hnonempty), ← htail,
    List.dropLast_append_of_ne_nil hnonempty]
  exact List.mem_map.2 ⟨directory.parts, (List.mem_inits _ _).2 (List.prefix_append _ _),
    congrArg (Path.mk · directory.parts) hkey⟩

/-- Every file lies in directories, as in a file system. -/
def Store.IsTree (s : Store) : Prop :=
  ∀ path ∈ s.files, ∀ directory ∈ path.parents, directory ∈ s.directories

namespace Store

variable {env : Encoding} {s s' s'' : Store} {staged : StagedPath} {token : Token}
  {caller : Context} {path subtree : Path}

/-! ## Adding files -/

/-- Artifacts are added at some of these paths, in directories that stand; no other changes. -/
structure Adds (p : Path → Prop) (s s' : Store) : Prop where
  kept : ∀ path contents, path.IsArtifact → s.files.lookup path = some contents →
    s'.files.lookup path = some contents
  added : ∀ path, path.IsArtifact → path ∈ s'.files →
    path ∈ s.files ∨ p path ∧ ∀ directory ∈ path.parents, directory ∈ s'.directories
  standing : s.directories ⊆ s'.directories

theorem adds_of_files {p : Path → Prop} (hfiles : s'.files = s.files)
    (hdirectories : s.directories ⊆ s'.directories) : Adds p s s' where
  kept _ _ _ hcontents := by rw [hfiles, hcontents]
  added _ _ hmem := .inl (hfiles ▸ hmem)
  standing := hdirectories

theorem Adds.refl {p : Path → Prop} : Adds p s s := adds_of_files rfl subset_rfl

theorem Adds.trans {p : Path → Prop} (h : Adds p s s') (h' : Adds p s' s'') : Adds p s s'' where
  kept path contents hpath hcontents := h'.kept path contents hpath (h.kept path contents hpath hcontents)
  added path hpath hmem := by
    rcases h'.added path hpath hmem with hbefore | hnew
    · rcases h.added path hpath hbefore with hold | ⟨hp, hparents⟩
      · exact .inl hold
      · exact .inr ⟨hp, fun directory hdirectory => h'.standing (hparents directory hdirectory)⟩
    · exact .inr hnew
  standing := h.standing.trans h'.standing

theorem Adds.mono {p q : Path → Prop} (h : Adds p s s') (himp : ∀ path, p path → q path) :
    Adds q s s' where
  kept := h.kept
  added path hpath hmem := (h.added path hpath hmem).imp_right fun hnew => ⟨himp path hnew.1, hnew.2⟩
  standing := h.standing

/-- Outside the paths at which files are added nothing changes. -/
theorem Adds.lookup_eq {p : Path → Prop} (h : Adds p s s') (hpath : path.IsArtifact)
    (hp : ¬ p path) : s'.files.lookup path = s.files.lookup path := by
  cases hcontents : s.files.lookup path with
  | some contents => exact h.kept path contents hpath hcontents
  | none =>
      refine Finmap.lookup_eq_none.2 fun hmem => ?_
      rcases h.added path hpath hmem with hold | hnew
      · exact Finmap.lookup_eq_none.1 hcontents hold
      · exact hp hnew.1

/-- A call that changes a free path and the record of its object adds a file. -/
theorem adds_of_changesOnly (h : ChangesOnly (fun other => other = path ∨
    other = path.key.sequenceFile) s s') (hfree : s.files.lookup path = none)
    (hparents : ∀ directory ∈ path.parents, directory ∈ s'.directories)
    (hstanding : s.directories ⊆ s'.directories) : Adds (· = path) s s' := by
  have hsame (other : Path) (hother : other.IsArtifact) (hne : other ≠ path) :
      s'.files.lookup other = s.files.lookup other := by
    refine h other ?_
    rintro (rfl | rfl)
    · exact hne rfl
    · exact not_isArtifact_sequenceFile hother
  refine ⟨fun other contents hother hcontents => ?_, fun other hother hmem => ?_, hstanding⟩
  · rw [hsame other hother ?_, hcontents]
    rintro rfl
    rw [hfree] at hcontents
    cases hcontents
  · by_cases hpath : other = path
    · exact .inr ⟨hpath, hpath ▸ hparents⟩
    · refine .inl ?_
      rw [← Finmap.lookup_isSome] at hmem ⊢
      rwa [hsame other hother hpath] at hmem

/-! ## Commits -/

/-- Directories that stand are not taken away by making others. -/
theorem directories_subset_ensurePrivateDirectories {directories : List Path} {failAt : Option ℕ} :
    s.directories ⊆ (s.ensurePrivateDirectories directories failAt).2.directories := by
  fun_induction ensurePrivateDirectories s directories failAt with
  | case1 | case2 | case3 => exact subset_rfl
  | case4 s directory rest failAt _ _ ih => exact (Finset.subset_insert _ _).trans ih

/-- Directories that are made stand. -/
theorem mem_directories_of_ok {directories : List Path} {failAt : Option ℕ}
    (h : (s.ensurePrivateDirectories directories failAt).1 = .ok ()) {directory : Path}
    (hmem : directory ∈ directories) :
    directory ∈ (s.ensurePrivateDirectories directories failAt).2.directories := by
  fun_induction ensurePrivateDirectories s directories failAt with
  | case1 | case3 => cases h
  | case2 => cases hmem
  | case4 s head rest failAt _ _ ih =>
      rcases List.mem_cons.1 hmem with rfl | hrest
      · exact directories_subset_ensurePrivateDirectories (Finset.mem_insert_self _ _)
      · exact ih h hrest

theorem directories_consumeExisting {snapshot : StagedSnapshot} {mismatch : StoreError}
    {f : CommitFaults} :
    (s.consumeExisting env staged path snapshot mismatch f).2.directories = s.directories := by
  have hensured := @directories_ensureInsertionSequence env s path.key f.sequence
  unfold consumeExisting
  split
  · rfl
  · split
    · rfl
    · split
      · rfl
      · split <;> rename_i heq <;> rw [heq] at hensured
        · exact hensured
        · split
          · exact hensured
          · split <;> exact hensured

theorem directories_publishNewRender {snapshot : StagedSnapshot} {f : CommitFaults} :
    (s.publishNewRender env staged path snapshot f).2.directories = s.directories := by
  have hmoved := @directories_moved env s staged path f
  rcases @publishNewRender_cases env s staged path snapshot f with
    ⟨-, error, heq⟩ | ⟨-, -, error, heq⟩ | ⟨-, -, error, heq⟩ | ⟨-, -, heq⟩ <;> rw [heq]
  · exact directories_ensureInsertionSequence
  · exact hmoved
  · exact hmoved
  · exact hmoved

/-- A render commit adds its destination. -/
theorem adds_commitStagedRenderLocked {snapshot : StagedSnapshot} {f : CommitFaults} :
    Adds (· = path) s (s.commitStagedRenderLocked env staged path snapshot f).2 := by
  have hmade := @files_ensurePrivateDirectories s path.parents f.directories
  have hstanding := @directories_subset_ensurePrivateDirectories s path.parents f.directories
  unfold commitStagedRenderLocked
  split <;> rename_i heq
  · rw [heq] at hmade hstanding
    exact adds_of_files hmade hstanding
  · have hparents (directory : Path) (hmem : directory ∈ path.parents) :=
      mem_directories_of_ok (congrArg Prod.fst heq) hmem
    rw [heq] at hmade hstanding hparents
    split
    · exact adds_of_files hmade hstanding
    · refine (adds_of_files hmade hstanding).trans ?_
      split
      · refine ⟨fun other contents hother hcontents => ?_, fun other hother hmem => .inl ?_,
          directories_consumeExisting.ge⟩
        · rw [changesOnly_consumeExisting other, hcontents]
          rintro rfl
          exact not_isArtifact_sequenceFile hother
        · rw [← Finmap.lookup_isSome] at hmem ⊢
          rwa [changesOnly_consumeExisting other] at hmem
          rintro rfl
          exact not_isArtifact_sequenceFile hother
      · rename_i hfree
        refine adds_of_changesOnly changesOnly_publishNewRender
          (lookup_eq_none_of_not_pathExists hfree) ?_ directories_publishNewRender.ge
        rw [directories_publishNewRender]
        exact hparents

/-- The destination of a transaction's writer is strictly below its subtree, and the transaction
alone holds the object. -/
theorem AdmitsRender.within {request : Option StoreError} {f : CommitFaults}
    {snapshot : StagedSnapshot} {transaction : RenderTransaction}
    (h : s.AdmitsRender env staged caller path request f snapshot)
    (hwriter : (s.writers.lookup staged).bind (·.transaction) = some token)
    (htransaction : s.transactions.lookup token = some transaction) :
    path.StrictlyWithin transaction.subtree := by
  have hadmitted := h.admitted
  obtain ⟨-, -, -, htransactions, -⟩ :=
    keepsLeases_of_authority (@authority_closeWriter s staged)
  unfold renderMutationError at hadmitted
  simp only [Option.or_eq_none_iff] at hadmitted
  obtain ⟨-, -, -, -, hdestination, -⟩ := hadmitted
  unfold destinationError at hdestination
  rw [hwriter, Option.bind_some, htransactions, htransaction] at hdestination
  dsimp only at hdestination
  split_ifs at hdestination with hwithin
  exact hwithin

/-- A commit through a transaction's writer adds its destination, which is below the subtree. -/
theorem adds_commitRender {f : CommitFaults} {transaction : RenderTransaction}
    (hwriter : (s.writers.lookup staged).bind (·.transaction) = some token)
    (htransaction : s.transactions.lookup token = some transaction) :
    Adds (fun other => other = path ∧ other.StrictlyWithin transaction.subtree) s
      (s.commitRender env staged caller path f).2 := by
  have hclosed : Adds (fun other => other = path ∧ other.StrictlyWithin transaction.subtree) s
      (s.closeWriter staged) := by
    refine adds_of_files files_closeWriter ?_
    unfold closeWriter modifyWriter
    split <;> exact subset_rfl
  rcases @commitRender_cases env s staged path caller f with heq | heq | ⟨snapshot, hadmits, heq⟩
  · rw [heq]
    exact .refl
  · rw [heq]
    exact hclosed
  · rw [heq]
    refine hclosed.trans (adds_commitStagedRenderLocked.mono ?_)
    rintro other rfl
    exact ⟨rfl, hadmits.within hwriter htransaction⟩

/-- A snapshot has the digest of the staged file. -/
theorem sha256_of_snapshot {root stable : Bool} {snapshot : StagedSnapshot} {data : Bytes}
    (h : s.snapshot env staged caller root stable = .ok snapshot)
    (hdata : s.stagedFiles.lookup staged = some data) : snapshot.sha256 = env.sha256 data := by
  unfold Store.snapshot at h
  split at h
  · cases h
  · split at h
    · cases h
    · split at h
      · cases h
      · rw [hdata] at h
        dsimp only at h
        split at h
        · cases h
        · cases h
          rfl

/-- The destination of a commit that is consumed has the digest of the snapshot. -/
theorem consumeExisting_ok {snapshot : StagedSnapshot} {mismatch : StoreError} {f : CommitFaults}
    (hpath : path.IsArtifact)
    (h : (s.consumeExisting env staged path snapshot mismatch f).1 = .ok ()) :
    ∃ contents, (s.consumeExisting env staged path snapshot mismatch f).2.files.lookup path =
        some contents ∧ env.sha256 contents = snapshot.sha256 ∧ path ∈ s.files := by
  have hsame : (s.consumeExisting env staged path snapshot mismatch f).2.files.lookup path =
      s.files.lookup path := by
    refine changesOnly_consumeExisting path fun heq => ?_
    rw [heq] at hpath
    exact not_isArtifact_sequenceFile hpath
  rw [hsame]
  unfold consumeExisting at h
  split at h
  · cases h
  · rename_i contents hcontents
    split at h
    · cases h
    · split at h
      · cases h
      · rename_i hdigest
        exact ⟨contents, hcontents, not_not.1 hdigest, Finmap.mem_of_lookup_eq_some hcontents⟩

/-- The destination of a commit that is moved has the staged bytes. -/
theorem publishNewRender_ok {snapshot : StagedSnapshot} {f : CommitFaults} {data : Bytes}
    (hdata : s.stagedFiles.lookup staged = some data)
    (h : (s.publishNewRender env staged path snapshot f).1 = .ok ()) :
    (s.publishNewRender env staged path snapshot f).2.files.lookup path = some data := by
  rcases @publishNewRender_cases env s staged path snapshot f with
    ⟨-, error, heq⟩ | ⟨-, -, error, heq⟩ | ⟨-, -, error, heq⟩ | ⟨-, ⟨-, hswapped⟩, heq⟩ <;>
    rw [heq] at h ⊢
  · cases h
  · cases h
  · cases h
  · have hstaged := congrArg (·.lookup staged)
      (@stagedFiles_ensureInsertionSequence env s path.key f.sequence)
    show ((s.ensured env path f).renameStaged staged path f.swapped).files.lookup path = some data
    unfold renameStaged ensured
    rw [hswapped, Finmap.lookup_insert, hstaged, hdata]
    rfl

/-- The part of a commit under the lock leaves the staged bytes at the destination, or found a file
with the snapshot's digest there. -/
theorem commitStagedRenderLocked_ok {snapshot : StagedSnapshot} {f : CommitFaults} {data : Bytes}
    (hpath : path.IsArtifact) (hdata : s.stagedFiles.lookup staged = some data)
    (hsha : snapshot.sha256 = env.sha256 data)
    (h : (s.commitStagedRenderLocked env staged path snapshot f).1 = .ok ()) :
    ∃ contents,
      (s.commitStagedRenderLocked env staged path snapshot f).2.files.lookup path = some contents ∧
      env.sha256 contents = env.sha256 data ∧ (path ∉ s.files → contents = data) := by
  have hmade := @files_ensurePrivateDirectories s path.parents f.directories
  have hstaged := @stagedFiles_ensurePrivateDirectories s path.parents f.directories
  unfold commitStagedRenderLocked at h ⊢
  split at h <;> rename_i heq <;> rw [heq] at hmade hstaged
  · cases h
  · split at h
    · cases h
    · rename_i hchecked
      split at h <;> rename_i hexists
      · obtain ⟨contents, hcontents, hdigest, hmem⟩ := consumeExisting_ok hpath h
        refine ⟨contents, ?_, hdigest.trans hsha, fun hfree => absurd (hmade ▸ hmem) hfree⟩
        rw [if_pos hexists]
        exact hcontents
      · refine ⟨data, ?_, rfl, fun _ => rfl⟩
        rw [if_neg hexists]
        exact publishNewRender_ok (hstaged ▸ hdata) h

/-- A commit that returns leaves its staged bytes at its destination, or found a file of the same
digest there. -/
theorem commitRender_ok {f : CommitFaults} {data : Bytes} (hpath : path.IsArtifact)
    (hdata : s.stagedFiles.lookup staged = some data)
    (h : (s.commitRender env staged caller path f).1 = .ok ()) :
    ∃ contents, (s.commitRender env staged caller path f).2.files.lookup path = some contents ∧
      env.sha256 contents = env.sha256 data ∧ (path ∉ s.files → contents = data) := by
  unfold commitRender at h ⊢
  split at h
  · cases h
  · rename_i snapshot htaken
    dsimp only at h ⊢
    split at h
    · cases h
    · rw [synchronized_snd]
      have hlocked : ((s.closeWriter staged).commitStagedRenderLocked env staged path snapshot
          f).1 = .ok () := by
        unfold synchronized at h
        split at h
        · rename_i heq
          rw [heq] at h
          cases h
        · assumption
      have hclosed := (@stagedFiles_closeWriter s staged).symm ▸ hdata
      have hdelivered := commitStagedRenderLocked_ok hpath hclosed
        (sha256_of_snapshot htaken hdata) hlocked
      rwa [files_closeWriter] at hdelivered

/-! ## A transaction at work -/

/-- A call that adds artifacts at some of these paths and keeps the leases. -/
structure Advances (p : Path → Prop) (s s' : Store) : Prop where
  adds : Adds p s s'
  keeps : KeepsLeases s s'

theorem Advances.refl {p : Path → Prop} : Advances p s s := ⟨.refl, .refl⟩

theorem Advances.trans {p : Path → Prop} (h : Advances p s s') (h' : Advances p s' s'') :
    Advances p s s'' where
  adds := h.adds.trans h'.adds
  keeps :=
    { assetLeases := h'.keeps.assetLeases.trans h.keeps.assetLeases
      leaseHolders := h'.keeps.leaseHolders.trans h.keeps.leaseHolders
      tokens := h'.keeps.tokens.trans h.keeps.tokens
      transactions := h'.keeps.transactions.trans h.keeps.transactions
      names := h.keeps.names.trans h'.keeps.names }

theorem Advances.mono {p q : Path → Prop} (h : Advances p s s') (himp : ∀ path, p path → q path) :
    Advances q s s' := ⟨h.adds.mono himp, h.keeps⟩

/-- The subtree is a directory if there is an artifact in it. -/
def Rooted (s : Store) (subtree : Path) : Prop :=
  ∀ path ∈ s.files, path.IsArtifact → path.StrictlyWithin subtree → subtree ∈ s.directories

theorem IsTree.rooted (h : s.IsTree) : s.Rooted subtree :=
  fun path hmem _ hwithin => h path hmem subtree hwithin.mem_parents

/-- The live transaction of a subtree, which alone holds its object. -/
structure Holds (s : Store) (token : Token) (caller : Context) (subtree : Path)
    (complete : Bool) : Prop where
  live : s.transactions.lookup token = some
    { subtree, completion := subtree.child "manifest.json", complete, status := .live,
      owner := caller }
  held : s.transactionTokens subtree.key = {token}

/-- The transaction works in its subtree: nobody reads it, and it is a directory if there is an
artifact in it. -/
structure Working (s : Store) (token : Token) (caller : Context) (subtree : Path) : Prop extends
    Holds s token caller subtree false where
  unread : s.assetLeaseCount subtree.key = 0
  isArtifact : subtree.IsArtifact
  free : subtree ∉ s.files
  rooted : s.Rooted subtree

/-- No artifact is left in the subtree, and no other changes. -/
structure Clears (subtree : Path) (s s' : Store) : Prop where
  cleared : ∀ path, path.IsArtifact → path.Within subtree → path ∉ s'.files
  others : ∀ path, path.IsArtifact → ¬ path.Within subtree →
    s'.files.lookup path = s.files.lookup path

/-- What is added below a subtree between two deletions is gone. -/
theorem Clears.of_added {t t' : Store} {p : Path → Prop} (h : Clears subtree s t)
    (hadds : Adds (fun path => p path ∧ path.StrictlyWithin subtree) t t')
    (h' : Clears subtree t' s') : Clears subtree s s' where
  cleared := h'.cleared
  others path hpath hnot := by
    rw [h'.others path hpath hnot, hadds.lookup_eq hpath fun hp => hnot hp.2.1,
      h.others path hpath hnot]

theorem Holds.keepsLeases {complete : Bool} (h : s.Holds token caller subtree complete)
    (hs : KeepsLeases s s') : s'.Holds token caller subtree complete where
  live := by rw [hs.transactions, h.live]
  held := by
    unfold transactionTokens
    rw [hs.tokens]
    exact h.held

/-- A transaction that adds files strictly below its subtree stays at work. -/
theorem Working.advances (h : s.Working token caller subtree) {p : Path → Prop}
    (hs : Advances (fun path => p path ∧ path.StrictlyWithin subtree) s s') :
    s'.Working token caller subtree where
  toHolds := h.toHolds.keepsLeases hs.keeps
  unread := by
    unfold assetLeaseCount
    rw [hs.keeps.assetLeases]
    exact h.unread
  isArtifact := h.isArtifact
  free hmem := by
    rcases hs.adds.added subtree h.isArtifact hmem with hold | ⟨⟨-, hwithin⟩, -⟩
    · exact h.free hold
    · exact hwithin.2 rfl
  rooted path hmem hpath hwithin := by
    rcases hs.adds.added path hpath hmem with hold | ⟨⟨-, hbelow⟩, hparents⟩
    · exact hs.adds.standing (h.rooted path hold hpath hwithin)
    · exact hparents subtree hbelow.mem_parents

/-- Who may delete: the transaction that holds the object, when nobody reads it. -/
theorem deletionError_of_held (hheld : s.transactionTokens subtree.key = {token})
    (hunread : s.assetLeaseCount subtree.key = 0) :
    s.deletionError subtree.key (some token) = none := by
  simp [deletionError, hheld, hunread]

/-- A deletion that meets no fault returns and clears the subtree, or leaves the store as it is. -/
theorem deleteRenderSubtreeLocked_faultless {transaction : Option Token}
    (hrooted : s.Rooted subtree) :
    (∃ error, s.deleteRenderSubtreeLocked subtree transaction {} = (.error error, s) ∧
        (s.deletionError subtree.key transaction = none → subtree ∈ s.files)) ∨
      ∃ deleted s', s.deleteRenderSubtreeLocked subtree transaction {} = (.ok deleted, s') ∧
        s.deletionError subtree.key transaction = none ∧ subtree ∉ s'.files ∧ Clears subtree s s' := by
  unfold deleteRenderSubtreeLocked
  simp only [Bool.not_true, Bool.false_eq_true, if_false]
  split
  · rename_i error herror
    exact .inl ⟨error, rfl, fun h => absurd (herror.symm.trans h) nofun⟩
  · rename_i hauthority
    split
    · rename_i hfile
      exact .inl ⟨_, rfl, fun _ => by simpa using hfile⟩
    · rename_i hfile
      have hnot : subtree ∉ s.files := by simpa using hfile
      refine .inr ?_
      split
      · rename_i hdirectory
        refine ⟨_, _, rfl, hauthority, hnot, fun path hpath hwithin hmem => ?_, fun _ _ _ => rfl⟩
        exact hdirectory (hrooted path hmem hpath ⟨hwithin, fun heq => hnot (heq ▸ hmem)⟩)
      · have hfiles : ((s.rmtree subtree .complete).2.afterRemoval subtree (.ok ())
            {}).2.files = s.files.restrict (Removal.Keeps .complete subtree) := by
          unfold afterRemoval
          simp only [Bool.not_true, Bool.or_self, Bool.false_eq_true, if_false]
          show (if subtree.parts = [] then (s.rmtree subtree .complete).2.forgetSequence subtree.key
            else (s.rmtree subtree .complete).2).files = _
          split
          · exact files_forgetSequence
          · rfl
        have hwithin (path : Path) (h : path.Within subtree) :
            ¬ Removal.Keeps .complete subtree path := fun hkeeps => hkeeps.elim (· h) id
        have hgone (path : Path) (h : path.Within subtree) :
            path ∉ s.files.restrict (Removal.Keeps .complete subtree) := by
          rw [← Finmap.lookup_eq_none, Dict.lookup_restrict, if_neg (hwithin path h)]
        refine ⟨true, _, rfl, hauthority, ?_, fun path _ h => ?_, fun path _ h => ?_⟩
        · exact hfiles ▸ hgone subtree ⟨rfl, List.prefix_refl _⟩
        · exact hfiles ▸ hgone path h
        · exact hfiles ▸ by rw [Dict.lookup_restrict, if_pos (.inl h)]

/-! ## The calls of a transaction -/

/-- The transaction is not live any more. -/
def Ended (s : Store) (token : Token) : Prop :=
  ∀ transaction, s.transactions.lookup token = some transaction → transaction.status ≠ .live

theorem files_releaseRenderTransaction : (s.releaseRenderTransaction token).2.files = s.files := by
  unfold releaseRenderTransaction
  split
  · rfl
  · split
    · rfl
    · dsimp only
      split <;> rfl

/-- A transaction is registered with its token alone. -/
theorem registerRenderTransaction_ok {root : Bool}
    (h : s.registerRenderTransaction caller subtree "manifest.json" root = (.ok token, s')) :
    s'.files = s.files ∧ s'.directories = s.directories ∧
      s'.transactionTokens subtree.key = {token} ∧
      s'.transactions.lookup token = some
        { subtree, completion := subtree.child "manifest.json"
          complete := decide (subtree.child "manifest.json" ∈ s.files)
          status := if decide (subtree.child "manifest.json" ∈ s.files) then .live else .starting
          owner := caller } := by
  unfold registerRenderTransaction at h
  split at h
  · cases h
  · split at h
    · cases h
    · split at h
      · cases h
      · split at h
        · cases h
        · cases h
          exact ⟨rfl, rfl, by simp [transactionTokens], Finmap.lookup_insert _⟩

/-- Deleting its subtree, a transaction of this subtree is at work. -/
theorem Working.of_deletion (hartifact : subtree.IsArtifact)
    (hheld : s.transactionTokens subtree.key = {token})
    (hauthority : s.deletionError subtree.key (some token) = none)
    (hleases : KeepsLeases s s') (hfree : subtree ∉ s'.files) (hclears : Clears subtree s s') :
    (s'.setTransaction token
      { subtree, completion := subtree.child "manifest.json", complete := false, status := .live,
        owner := caller }).Working token caller subtree where
  live := Finmap.lookup_insert _
  held := by
    show (s'.renderTransactionLeases.lookup subtree.key).getD ∅ = {token}
    rw [hleases.tokens]
    exact hheld
  unread := by
    show (s'.assetLeases.lookup subtree.key).getD 0 = 0
    rw [hleases.assetLeases]
    exact (deletionError_eq_none hauthority).1
  isArtifact := hartifact
  free := hfree
  rooted path hmem hpath hwithin := absurd hmem (hclears.cleared path hpath hwithin.1)

/-- A transaction that begins finds its subtree complete, or clears it and is at work. -/
theorem beginRenderTransaction_cases (hartifact : subtree.IsArtifact)
    (hrooted : s.Rooted subtree) :
    (∃ error s', s.beginRenderTransaction caller subtree "manifest.json" = (.error error, s') ∧
        s'.files = s.files) ∨
      (∃ token s', s.beginRenderTransaction caller subtree "manifest.json" = (.ok token, s') ∧
        s'.files = s.files ∧ s'.directories = s.directories ∧
        s'.Holds token caller subtree true ∧ subtree.child "manifest.json" ∈ s'.files) ∨
      ∃ token s', s.beginRenderTransaction caller subtree "manifest.json" = (.ok token, s') ∧
        s'.Working token caller subtree ∧ Clears subtree s s' := by
  unfold beginRenderTransaction
  split
  · rename_i error s' heq
    have hsame : (s.registerRenderTransaction caller subtree "manifest.json" true).2.files =
        s.files := by
      unfold registerRenderTransaction
      dsimp only
      split_ifs <;> rfl
    rw [heq] at hsame
    exact .inl ⟨error, s', rfl, hsame⟩
  · rename_i token s' heq
    obtain ⟨hfiles, hdirectories, hheld, hlookup⟩ := registerRenderTransaction_ok heq
    by_cases hcomplete : subtree.child "manifest.json" ∈ s.files
    · simp only [hcomplete, decide_true, if_true] at hlookup
      rw [hlookup, Option.any_some, if_pos rfl]
      exact .inr (.inl ⟨token, s', rfl, hfiles, hdirectories, ⟨hlookup, hheld⟩, hfiles ▸ hcomplete⟩)
    · simp only [hcomplete, decide_false, Bool.false_eq_true, if_false] at hlookup
      rw [hlookup, Option.any_some, if_neg Bool.false_ne_true]
      unfold recoverRenderTransaction
      rw [hlookup]
      simp only [ne_eq, not_true_eq_false, if_false]
      have hrooted' : s'.Rooted subtree := by
        unfold Rooted
        rw [hfiles, hdirectories]
        exact hrooted
      have hleases := keepsLeases_of_authority
        (@authority_deleteRenderSubtreeLocked s' subtree (some token) {})
      rcases @deleteRenderSubtreeLocked_faultless _ subtree (some token) hrooted' with
        ⟨error, heq', -⟩ | ⟨deleted, t, heq', hauthority, hfree, hclears⟩
      · rw [heq']
        exact .inl ⟨error, _, rfl, files_releaseRenderTransaction.trans hfiles⟩
      · rw [heq'] at hleases ⊢
        refine .inr (.inr ⟨token, _, rfl, .of_deletion hartifact hheld hauthority hleases hfree
          hclears, hclears.cleared, fun path hpath hnot => ?_⟩)
        rw [← hfiles]
        exact hclears.others path hpath hnot

/-- A reset that meets no fault is refused, or clears the subtree and the transaction is at work. -/
theorem resetRenderTransaction_cases (hholds : s.Holds token caller subtree true)
    (hartifact : subtree.IsArtifact)
    (hrooted : s.Rooted subtree) :
    (∃ error, s.resetRenderTransaction token caller true {} = (.error error, s)) ∨
      ∃ s', s.resetRenderTransaction token caller true {} = (.ok (), s') ∧
        s'.Working token caller subtree ∧ Clears subtree s s' := by
  unfold resetRenderTransaction
  rw [hholds.live]
  simp only [ne_eq, not_true_eq_false, if_false, Bool.not_true, Bool.false_eq_true]
  have hleases := keepsLeases_of_authority
    (@authority_deleteRenderSubtreeLocked s subtree (some token) {})
  rcases @deleteRenderSubtreeLocked_faultless _ subtree (some token) hrooted with
    ⟨error, heq, -⟩ | ⟨deleted, t, heq, hauthority, hfree, hclears⟩
  · rw [heq]
    exact .inl ⟨error, rfl⟩
  · rw [heq] at hleases ⊢
    exact .inr ⟨_, rfl, .of_deletion hartifact hholds.held hauthority hleases hfree hclears,
      hclears.cleared, hclears.others⟩

/-- A transaction with its completion file is committed. -/
theorem commitTransaction_ok {complete : Bool} (hholds : s.Holds token caller subtree complete)
    (hcompletion : subtree.child "manifest.json" ∈ s.files) :
    ∃ s', s.commitTransaction token caller = (.ok (), s') ∧ s'.files = s.files ∧ s'.Ended token := by
  unfold commitTransaction commitRenderTransaction
  rw [hholds.live]
  simp only [ne_eq, not_true_eq_false, if_false, Bool.not_true, Bool.false_eq_true, hcompletion]
  unfold releaseRenderTransaction
  simp only [setTransaction, Finmap.lookup_insert, ne_eq, not_true_eq_false, if_false]
  have hheld := hholds.held
  unfold transactionTokens at hheld ⊢
  simp only [hheld, not_true_eq_false, if_false]
  refine ⟨_, rfl, rfl, fun transaction hlookup => ?_⟩
  rw [Finmap.lookup_insert] at hlookup
  cases hlookup
  intro hlive
  cases hlive

/-- Rolling back a transaction that is over does nothing to the files. -/
theorem rollbackTransaction_of_ended (h : s.Ended token) :
    ∃ s', s.rollbackTransaction token caller = (.ok (), s') ∧ s'.files = s.files := by
  have hrolled : s.rollbackRenderTransaction token caller true {} = (.ok (), s) := by
    unfold rollbackRenderTransaction
    split
    · rfl
    · rename_i transaction hlookup
      rw [if_pos (h transaction hlookup)]
  unfold rollbackTransaction
  rw [hrolled]
  exact ⟨_, rfl, files_releaseRenderTransaction⟩

/-- Rolling back a transaction that found its subtree complete does nothing to the files. -/
theorem rollbackTransaction_of_complete (h : s.Holds token caller subtree true) :
    ∃ s', s.rollbackTransaction token caller = (.ok (), s') ∧ s'.files = s.files := by
  unfold rollbackTransaction rollbackRenderTransaction
  rw [h.live]
  simp only [ne_eq, not_true_eq_false, if_false]
  exact ⟨_, rfl, files_releaseRenderTransaction⟩

/-- Rolling back a transaction at work clears its subtree. -/
theorem rollbackTransaction_of_working (h : s.Working token caller subtree) :
    ∃ s', s.rollbackTransaction token caller = (.ok (), s') ∧ Clears subtree s s' := by
  unfold rollbackTransaction rollbackRenderTransaction
  rw [h.live]
  simp only [ne_eq, not_true_eq_false, if_false]
  unfold rollbackLive
  simp only [Bool.not_true, Bool.false_eq_true, if_false]
  rcases @deleteRenderSubtreeLocked_faultless s subtree (some token) h.rooted with
    ⟨error, heq, hfile⟩ | ⟨deleted, t, heq, -, -, hclears⟩
  · exact absurd (hfile (deletionError_of_held h.held h.unread)) h.free
  · rw [heq]
    refine ⟨_, rfl, fun path hpath hwithin => ?_, fun path hpath hnot => ?_⟩
    · rw [files_releaseRenderTransaction]
      exact hclears.cleared path hpath hwithin
    · rw [files_releaseRenderTransaction]
      exact hclears.others path hpath hnot

/-! ## Staged bytes -/

/-- What keeps all but the staging area adds nothing. -/
theorem Advances.of_core {p : Path → Prop} (h : s'.core = s.core) : Advances p s s' :=
  have hfiles := congrArg Store.files h
  have hdirectories := congrArg Store.directories h
  ⟨adds_of_files hfiles hdirectories.ge, keepsLeases_of_authority (authority_of_core h)⟩

/-- Staging a file adds nothing. -/
theorem advances_stage {p : Path → Prop} {transaction : Option Token} {root opened : Bool} :
    Advances p s (s.stage transaction caller root opened).2 := by
  unfold stage
  split
  · exact .refl
  · split
    · exact .refl
    · split
      · exact .refl
      · exact ⟨adds_of_files rfl subset_rfl, ⟨rfl, rfl, rfl, rfl, Nat.le_succ _⟩⟩

/-- A writer of the transaction has put these bytes in the staged file. -/
structure StagedFor (s : Store) (staged : StagedPath) (token : Token) (data : Bytes) : Prop where
  writer : (s.writers.lookup staged).bind (·.transaction) = some token
  contents : s.stagedFiles.lookup staged = some data

/-- A new staged file is empty. -/
theorem stage_ok {root opened : Bool}
    (h : s.stage (some token) caller root opened = (.ok staged, s')) :
    s'.StagedFor staged token [] := by
  unfold stage at h
  split at h
  · cases h
  · split at h
    · cases h
    · split at h
      · cases h
      · cases h
        exact ⟨by rw [Finmap.lookup_insert]; rfl, Finmap.lookup_insert _⟩

/-- Changing a writer keeps its transaction when the change does. -/
theorem StagedFor.modifyWriter {data : Bytes} (h : s.StagedFor staged token data)
    {g : StagedWriter → StagedWriter} (hg : ∀ writer, (g writer).transaction = writer.transaction) :
    (s.modifyWriter staged g).StagedFor staged token data := by
  obtain ⟨writer, hwriter, htransaction⟩ := Option.bind_eq_some_iff.1 h.writer
  unfold Store.modifyWriter
  rw [hwriter]
  refine ⟨?_, h.contents⟩
  rw [Finmap.lookup_insert, Option.bind_some, hg, htransaction]

theorem staging_reserveStagingBytes {amount : ℕ} :
    (s.reserveStagingBytes staged amount).2.writers = s.writers ∧
      (s.reserveStagingBytes staged amount).2.stagedFiles = s.stagedFiles := by
  unfold reserveStagingBytes
  split
  · exact ⟨rfl, rfl⟩
  · split
    · exact ⟨rfl, rfl⟩
    · split <;> exact ⟨rfl, rfl⟩

/-- A write that has been started left its data pending, and the staged file as it was. -/
theorem StagedFor.startWrite {data chunk : Bytes} {root : Bool} (h : s.StagedFor staged token data)
    (hstart : s.startWrite staged caller root chunk = (.ok (), s')) :
    s'.StagedFor staged token data ∧ (s'.writers.lookup staged).bind (·.pending) = some chunk := by
  unfold Store.startWrite at hstart
  split at hstart
  · cases hstart
  · rename_i writer hwriter
    split at hstart
    · cases hstart
    · split at hstart
      · cases hstart
      · split at hstart
        · cases hstart
        · rename_i value reserved heq
          have hsame := @staging_reserveStagingBytes s staged chunk.length
          rw [heq] at hsame
          have hreserved : reserved.StagedFor staged token data :=
            ⟨by rw [hsame.1]; exact h.writer, by rw [hsame.2]; exact h.contents⟩
          cases hstart
          refine ⟨hreserved.modifyWriter fun _ => rfl, ?_⟩
          unfold Store.modifyWriter
          rw [hsame.1, hwriter]
          dsimp only
          rw [Finmap.lookup_insert]
          rfl

/-- A write that took everything has appended its data. -/
theorem StagedFor.finishWrite {data chunk : Bytes} {outcome : WriteOutcome} {written : ℕ}
    (h : s.StagedFor staged token data)
    (hpending : (s.writers.lookup staged).bind (·.pending) = some chunk)
    (hfinish : s.finishWrite staged outcome = (.ok written, s')) (hall : written = chunk.length) :
    s'.StagedFor staged token (data ++ chunk) := by
  have hcleared := h.modifyWriter (g := ({ · with pending := none })) fun _ => rfl
  unfold Store.finishWrite at hfinish
  rw [hpending] at hfinish
  dsimp only at hfinish
  cases outcome with
  | raised flushed => cases hfinish
  | returned count =>
      dsimp only at hfinish
      split at hfinish
      · cases hfinish
      · rename_i released heq
        obtain ⟨hwritten, hs⟩ := Prod.mk.inj hfinish
        have htaken : chunk.take count = chunk := by
          refine List.take_of_length_le ?_
          have hlength := (Except.ok.inj hwritten).trans hall
          rw [List.length_take] at hlength
          omega
        rw [htaken] at heq hs
        have happended : ((s.modifyWriter staged ({ · with pending := none })).appendStaged staged
            chunk).StagedFor staged token (data ++ chunk) := by
          unfold appendStaged
          rw [hcleared.contents]
          exact ⟨hcleared.writer, Finmap.lookup_insert _⟩
        rw [Nat.sub_self] at heq
        cases heq
        rw [← hs]
        exact happended.modifyWriter fun _ => rfl

end Store

end NplgMcp
