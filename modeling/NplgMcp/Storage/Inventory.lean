import NplgMcp.Storage.Atomicity

/-!
# The inventory of objects

`_stored_objects` raises when a directory directly below a namespace has no insertion sequence in
memory, and with it every begin and commit of a reservation, every prune and the readiness check. A
store is `Inventoried` when none is without. A content-addressed commit makes its directory before it
takes the lock; a render commit makes its directory under the lock and may raise before it allocates
the sequence; a deletion and a cleanup forget the sequence even when the directory outlives them.
Every other step keeps the inventory, and these do when they meet `AllocatesInTime`.
-/

open Library

namespace NplgMcp

namespace Store

variable {env : Encoding} {s s' s'' : Store} {staged : StagedPath} {key : ObjectKey} {path : Path}

/-- Every object directory has its sequence in memory. -/
def Inventoried (s : Store) : Prop :=
  s.retentionPolicy.isSome → ∀ key : ObjectKey, key.root ∈ s.directories → key ∈ s.sequences

/-- What the inventory depends on. -/
def inventory (s : Store) : Option RetentionPolicy × Finset Path × Dict ObjectKey ℕ :=
  (s.retentionPolicy, s.directories, s.sequences)

theorem inventoried_of_inventory (h : s.Inventoried) (hsame : s'.inventory = s.inventory) :
    s'.Inventoried := by
  simp only [inventory, Prod.mk.injEq] at hsame
  unfold Inventoried
  rw [hsame.1, hsame.2.1, hsame.2.2]
  exact h

/-! ## Steps that do not touch it -/

/-- What keeps all but the staging area keeps the inventory. -/
theorem inventory_of_core (h : s'.core = s.core) : s'.inventory = s.inventory := by
  have hinventory := congrArg inventory h
  exact hinventory

theorem inventory_closeWriter : (s.closeWriter staged).inventory = s.inventory :=
  inventory_of_core core_closeWriter

theorem inventory_keepsMaterial (h : KeepsMaterial s s') : s'.inventory = s.inventory := by
  have hpolicy := congrArg Store.retentionPolicy h.same
  have hdirectories := congrArg Store.directories h.same
  have hsequences := congrArg Store.sequences h.same
  exact Prod.ext hpolicy (Prod.ext hdirectories hsequences)

theorem inventory_replaceRender {caller : Context} {expected : String} {f : CommitFaults} :
    (s.replaceRender env staged caller path expected f).2.inventory = s.inventory := by
  have hclosed := @inventory_closeWriter s staged
  unfold replaceRender
  split
  · rfl
  · dsimp only
    split
    · exact hclosed
    · rw [synchronized_snd]
      unfold replaceStagedRenderLocked
      split
      · exact hclosed
      · split
        · exact hclosed
        · split
          · exact hclosed
          · split
            · exact hclosed
            · unfold replaceExisting
              dsimp only
              split_ifs <;> exact hclosed

/-! ## Directories, sequences and deletions -/

/-- No object directory appears, and no sequence is forgotten. -/
structure KeepsRoots (s s' : Store) : Prop where
  policy : s'.retentionPolicy = s.retentionPolicy
  roots : ∀ key : ObjectKey, key.root ∈ s'.directories → key.root ∈ s.directories
  sequences : ∀ key : ObjectKey, key ∈ s.sequences → key ∈ s'.sequences

theorem KeepsRoots.refl : KeepsRoots s s := ⟨rfl, fun _ h => h, fun _ h => h⟩

theorem KeepsRoots.trans (h : KeepsRoots s s') (h' : KeepsRoots s' s'') : KeepsRoots s s'' :=
  ⟨h'.policy.trans h.policy, fun key hkey => h.roots key (h'.roots key hkey),
    fun key hkey => h'.sequences key (h.sequences key hkey)⟩

theorem Inventoried.keepsRoots (h : s.Inventoried) (hs : KeepsRoots s s') : s'.Inventoried := by
  intro hpolicy key hroot
  rw [hs.policy] at hpolicy
  exact hs.sequences key (h hpolicy key (hs.roots key hroot))

theorem keepsRoots_of_inventory (h : s'.inventory = s.inventory) : KeepsRoots s s' := by
  simp only [inventory, Prod.mk.injEq] at h
  exact ⟨h.1, fun key hkey => h.2.1 ▸ hkey, fun key hkey => h.2.2.symm ▸ hkey⟩

theorem keepsRoots_ensureInsertionSequence {fault : SequenceFault} :
    KeepsRoots s (s.ensureInsertionSequence env key fault).2 := by
  unfold ensureInsertionSequence allocateSequence
  split_ifs
  · exact .refl
  · exact .refl
  · exact .refl
  · exact .refl
  · rcases fault with _ | _ | _ | _
    · exact ⟨rfl, fun _ h => h, fun _ h => Finmap.mem_insert.2 (.inr h)⟩
    · exact .refl
    · exact ⟨rfl, fun _ h => h, fun _ h => h⟩
    · exact ⟨rfl, fun _ h => h, fun _ h => h⟩

/-- A sequence that could be ensured is there. -/
theorem mem_sequences_of_ensure_ok {fault : SequenceFault} {value : Unit}
    (hpolicy : s.retentionPolicy.isSome)
    (h : s.ensureInsertionSequence env key fault = (.ok value, s')) : key ∈ s'.sequences := by
  unfold ensureInsertionSequence allocateSequence at h
  split_ifs at h with hnone hpath hmem hfull
  · simp [Option.isNone_iff_eq_none.1 hnone] at hpolicy
  · cases h
  · cases h
    exact hmem
  · cases h
  · rcases fault with _ | _ | _ | _ <;> cases h
    exact Finmap.mem_insert.2 (.inl rfl)

/-- A deletion removes object directories at most. -/
theorem keepsRoots_rmtree {removal : Removal} :
    KeepsRoots s (s.rmtree path removal).2 := by
  refine ⟨?_, fun key hkey => ?_, ?_⟩
  · cases removal <;> rfl
  · cases removal with
    | complete => exact (Finset.mem_filter.1 hkey).1
    | interrupted kept => exact (Finset.mem_filter.1 hkey).1
  · cases removal <;> exact fun _ h => h

/-- The deletion does not fail. -/
def Removal.IsComplete : Removal → Prop
  | .complete => True
  | .interrupted _ => False

/-- A deletion that does not fail removes its directory. -/
theorem notMem_rmtree {removal : Removal} (h : removal.IsComplete) :
    path ∉ (s.rmtree path removal).2.directories := by
  cases removal with
  | complete =>
      intro hmem
      have hkeeps := (Finset.mem_filter.1 hmem).2
      simp [Removal.Keeps, Path.Within] at hkeeps
  | interrupted kept => exact h.elim

theorem keepsRoots_removeStoragePath {removal : Removal} :
    KeepsRoots s (s.removeStoragePath path removal).2 := by
  unfold removeStoragePath
  split_ifs
  · exact keepsRoots_rmtree
  · cases removal <;> exact ⟨rfl, fun _ h => h, fun _ h => h⟩

theorem notMem_removeStoragePath {removal : Removal} (h : removal.IsComplete) :
    path ∉ (s.removeStoragePath path removal).2.directories := by
  unfold removeStoragePath
  split_ifs with hdirectory
  · exact notMem_rmtree h
  · cases removal with
    | complete => exact hdirectory
    | interrupted kept => exact h.elim

/-- A deletion that returns has not failed. -/
theorem isComplete_of_removeStoragePath_ok {removal : Removal} {value : Unit}
    (h : s.removeStoragePath path removal = (.ok value, s')) : removal.IsComplete := by
  cases removal with
  | complete => trivial
  | interrupted kept =>
      unfold removeStoragePath at h
      split_ifs at h <;> cases h

/-- Forgetting the sequence of an object whose directory is gone. -/
theorem Inventoried.forgetSequence (h : s.Inventoried) (hgone : key.root ∉ s.directories) :
    (s.forgetSequence key).Inventoried := by
  intro hpolicy other hroot
  rw [directories_forgetSequence] at hroot
  have hpolicy' : s.retentionPolicy.isSome := by
    unfold Store.forgetSequence at hpolicy
    split_ifs at hpolicy <;> exact hpolicy
  have hne : other ≠ key := by
    rintro rfl
    exact hgone hroot
  have hmem := h hpolicy' other hroot
  unfold Store.forgetSequence
  split_ifs
  · exact hmem
  · exact Finmap.mem_erase.2 ⟨hne, hmem⟩

/-! ## Content-addressed commits -/

theorem removeStoragePath_forgetSequence {removal : Removal} :
    ((s.forgetSequence key).removeStoragePath path removal).2 =
      (s.removeStoragePath path removal).2.forgetSequence key := by
  unfold removeStoragePath rmtree Store.forgetSequence
  by_cases hdirectory : path ∈ s.directories <;> cases hpolicy : s.retentionPolicy <;>
    cases removal <;> simp [hdirectory, hpolicy, unlinkFile]

theorem Inventoried.undoPublication (h : s.Inventoried) {error : StoreError} {f : CommitFaults}
    (hf : f.unlink = false ∨ f.removal.IsComplete) :
    (s.undoPublication path error f).2.Inventoried := by
  cases hunlink : f.unlink with
  | false =>
      rw [undoPublication_of_not_unlink hunlink]
      exact h
  | true =>
      have hcomplete := hf.resolve_left (by simp [hunlink])
      have hunlinked : (s.unlinkFile path).Inventoried := h
      rw [undoPublication_of_unlink hunlink, removeStoragePath_forgetSequence]
      exact (hunlinked.keepsRoots keepsRoots_removeStoragePath).forgetSequence
        (notMem_removeStoragePath hcomplete)

theorem keepsRoots_consumeExisting {snapshot : StagedSnapshot} {mismatch : StoreError}
    {f : CommitFaults} :
    KeepsRoots s (s.consumeExisting env staged path snapshot mismatch f).2 := by
  have hensure := @keepsRoots_ensureInsertionSequence env s path.key f.sequence
  unfold consumeExisting
  split
  · exact .refl
  · split
    · exact .refl
    · split
      · exact .refl
      · split <;> rename_i heq <;> rw [heq] at hensure
        · exact hensure
        · split
          · exact hensure
          · split
            · exact hensure
            · exact hensure.trans (keepsRoots_of_inventory rfl)

theorem keepsRoots_moved {f : CommitFaults} : KeepsRoots s (s.moved env staged path f) :=
  keepsRoots_ensureInsertionSequence.trans (keepsRoots_of_inventory rfl)

theorem Inventoried.publishNewDocument (h : s.Inventoried) {snapshot : StagedSnapshot}
    {f : CommitFaults} (hf : f.unlink = false ∨ f.removal.IsComplete) :
    (s.publishNewDocument env staged path snapshot f).2.Inventoried := by
  have hensured : (s.ensured env path f).Inventoried :=
    h.keepsRoots keepsRoots_ensureInsertionSequence
  have hmoved : (s.moved env staged path f).Inventoried := h.keepsRoots keepsRoots_moved
  rcases @publishNewDocument_cases env s staged path snapshot f with
    ⟨-, error, heq⟩ | ⟨-, -, error, heq⟩ | ⟨-, -, heq⟩ <;> rw [heq]
  · exact hensured.undoPublication hf
  · exact hmoved.undoPublication hf
  · exact inventoried_of_inventory hmoved rfl

theorem Inventoried.publishFile (h : s.Inventoried) {f : CommitFaults}
    (hf : f.unlink = false ∨ f.removal.IsComplete) :
    (s.publishFile env staged f).2.Inventoried := by
  have hclosed : (s.closeWriter staged).Inventoried :=
    inventoried_of_inventory h inventory_closeWriter
  unfold Store.publishFile
  split
  · exact h
  · rename_i commit _
    rw [synchronized_snd]
    have hreconcile := inventoried_of_inventory hclosed
      (inventory_of_core (@core_reconcileStagedSize (s.closeWriter staged) staged
        commit.snapshot.size))
    unfold commitStagedFileLocked
    split
    · exact hclosed
    · split <;> rename_i heq <;> rw [heq] at hreconcile
      · exact hreconcile
      · dsimp only
        split
        · exact hreconcile.keepsRoots keepsRoots_consumeExisting
        · exact hreconcile.publishNewDocument hf

/-- The directories that stand afterwards are the old ones and some of those asked for. -/
theorem mem_ensurePrivateDirectories {directories : List Path} {failAt : Option ℕ}
    {directory : Path} (h : directory ∈ (s.ensurePrivateDirectories directories failAt).2.directories) :
    directory ∈ s.directories ∨ directory ∈ directories ∧ failAt ≠ some 0 ∧
      ∀ first ∈ directories.head?, first ∉ s.files := by
  fun_induction ensurePrivateDirectories s directories failAt with
  | case1 | case2 | case3 => exact .inl h
  | case4 s head rest failAt hfail hfile ih =>
      rcases ih h with hold | hnew
      · rcases Finset.mem_insert.1 hold with rfl | hbefore
        · exact .inr ⟨List.mem_cons_self, by simpa using hfail, by simpa using hfile⟩
        · exact .inl hbefore
      · exact .inr ⟨List.mem_cons_of_mem _ hnew.1, by simpa using hfail, by simpa using hfile⟩

/-- The object directory a content-addressed commit makes before it takes the lock. -/
theorem Inventoried.prepareFileCommit (h : s.Inventoried) {caller : Context} {top : Namespace}
    {filename : String} {f : CommitFaults}
    (hf : ∀ snapshot, s.snapshot env staged caller f.access f.stable = .ok snapshot →
      f.root = true → isComponent filename = true → f.mediaType = true →
      f.directories ≠ some 0 →
      (⟨top, top.label ++ "_" ++ snapshot.sha256⟩ : ObjectKey).root ∉ s.files →
      (⟨top, top.label ++ "_" ++ snapshot.sha256⟩ : ObjectKey) ∈ s.sequences) :
    (s.prepareFileCommit env staged caller top filename f).2.Inventoried := by
  have hclosed : (s.closeWriter staged).Inventoried :=
    inventoried_of_inventory h inventory_closeWriter
  unfold Store.prepareFileCommit
  split
  · exact h
  · rename_i snapshot htaken
    split
    · exact hclosed
    · split
      · exact hclosed
      · split
        · exact hclosed
        · rename_i hroot hcomponent hmedia
          dsimp only
          have hmade : (s.ensurePrivateDirectories
              [(⟨top, top.label ++ "_" ++ snapshot.sha256⟩ : ObjectKey).root]
              f.directories).2.Inventoried := by
            intro hsome key hkey
            rw [ensurePrivateDirectories_snd] at hsome ⊢
            rcases mem_ensurePrivateDirectories hkey with hold | ⟨hnew, hfail, hfile⟩
            · exact h hsome key hold
            · obtain rfl : key = ⟨top, top.label ++ "_" ++ snapshot.sha256⟩ :=
                congrArg Path.key (List.mem_singleton.1 hnew)
              exact hf snapshot htaken (by simpa using hroot) (by simpa using hcomponent)
                (by simpa using hmedia) hfail (hfile _ rfl)
          split <;> rename_i heq <;> rw [heq] at hmade
          · exact inventoried_of_inventory hmade inventory_closeWriter
          · exact inventoried_of_inventory hmade (inventory_of_core core_modifyWriter)

/-! ## Render commits -/

/-- Every object directory but the one of `key` has its sequence in memory. -/
def InventoriedBut (s : Store) (key : ObjectKey) : Prop :=
  s.retentionPolicy.isSome →
    ∀ other : ObjectKey, other ≠ key → other.root ∈ s.directories → other ∈ s.sequences

theorem InventoriedBut.keepsRoots (h : s.InventoriedBut key) (hs : KeepsRoots s s') :
    s'.InventoriedBut key := by
  intro hpolicy other hne hroot
  rw [hs.policy] at hpolicy
  exact hs.sequences other (h hpolicy other hne (hs.roots other hroot))

/-- The missing sequence completes the inventory. -/
theorem InventoriedBut.inventoried (h : s.InventoriedBut key)
    (hkey : s.retentionPolicy.isSome → key ∈ s.sequences) : s.Inventoried := by
  intro hpolicy other hroot
  by_cases hother : other = key
  · rw [hother]
    exact hkey hpolicy
  · exact h hpolicy other hother hroot

theorem key_of_mem_parents {directory : Path} (h : directory ∈ path.parents) :
    directory.key = path.key := by
  unfold Path.parents at h
  split at h
  · cases h
  · obtain ⟨parts, -, rfl⟩ := List.mem_map.1 h
    rfl

/-- A path below its object has the object's directory as its first parent. -/
theorem head?_parents (h : path.parts ≠ []) : path.parents.head? = some path.key.root := by
  obtain ⟨key, parts⟩ := path
  cases parts with
  | nil => exact absurd rfl h
  | cons part rest =>
      unfold Path.parents
      cases hlast : (part :: rest).dropLast <;> simp [ObjectKey.root, hlast]

theorem notMem_parents : path ∉ path.parents := by
  obtain ⟨key, parts⟩ := path
  cases parts with
  | nil => simp [Path.parents]
  | cons part rest =>
      intro h
      obtain ⟨front, hfront, heq⟩ := List.mem_map.1 h
      have hlength := ((List.mem_inits _ _).1 hfront).length_le
      rw [(Path.mk.inj heq).2] at hlength
      simp at hlength

/-- Making the directories of a file leaves at most its own object without a sequence. -/
theorem Inventoried.ensureParents (h : s.Inventoried) {failAt : Option ℕ} :
    (s.ensurePrivateDirectories path.parents failAt).2.InventoriedBut path.key := by
  intro hsome other hne hroot
  rw [ensurePrivateDirectories_snd] at hsome ⊢
  rcases mem_ensurePrivateDirectories hroot with hold | ⟨hnew, -⟩
  · exact h hsome other hold
  · exact absurd (key_of_mem_parents hnew) hne

/-- Where the object has a sequence, or its directory is not made, none is left without. -/
theorem Inventoried.ensureParents_of_old (h : s.Inventoried) {failAt : Option ℕ}
    (hold : path.key ∈ s.sequences ∨ path.parts = [] ∨ failAt = some 0 ∨
      path.key.root ∈ s.files) :
    (s.ensurePrivateDirectories path.parents failAt).2.Inventoried := by
  intro hsome other hroot
  rw [ensurePrivateDirectories_snd] at hsome ⊢
  rcases mem_ensurePrivateDirectories hroot with hmem | ⟨hnew, hfail, hfile⟩
  · exact h hsome other hmem
  · have hkey : other = path.key := key_of_mem_parents hnew
    rcases hold with hsequence | hparts | hzero | hblocked
    · exact hkey ▸ hsequence
    · simp [Path.parents, hparts] at hnew
    · exact absurd hzero hfail
    · have hparts : path.parts ≠ [] := by
        intro hparts
        simp [Path.parents, hparts] at hnew
      exact absurd hblocked (hfile _ (head?_parents hparts))

/-- Directories that could all be made stand. -/
theorem mem_ensurePrivateDirectories_ok {directories : List Path} {failAt : Option ℕ}
    {value : Unit} (h : s.ensurePrivateDirectories directories failAt = (.ok value, s')) :
    s.directories ⊆ s'.directories ∧ ∀ directory ∈ directories, directory ∈ s'.directories := by
  fun_induction ensurePrivateDirectories s directories failAt with
  | case1 => cases h
  | case2 =>
      cases h
      exact ⟨Finset.Subset.refl _, by simp⟩
  | case3 => cases h
  | case4 s directory rest failAt _ _ ih =>
      obtain ⟨hold, hrest⟩ := ih h
      refine ⟨(Finset.subset_insert _ _).trans hold, fun d hd => ?_⟩
      rcases List.mem_cons.1 hd with rfl | hd
      · exact hold (Finset.mem_insert_self _ _)
      · exact hrest d hd

/-- Directories that no file is in the way of, and whose calls all succeed, can be made. -/
theorem ensurePrivateDirectories_eq_ok {directories : List Path} {failAt : Option ℕ}
    (hcalls : ∀ count ∈ failAt, directories.length < count)
    (hfiles : ∀ directory ∈ directories, directory ∉ s.files) :
    (s.ensurePrivateDirectories directories failAt).1 = .ok () := by
  fun_induction ensurePrivateDirectories s directories failAt with
  | case1 => exact absurd (hcalls 0 rfl) (Nat.not_lt_zero _)
  | case2 => rfl
  | case3 s directory rest failAt _ hfile => exact absurd hfile (hfiles directory (by simp))
  | case4 s directory rest failAt _ _ ih =>
      refine ih (fun count hcount => ?_) fun d hd => hfiles d (List.mem_cons_of_mem _ hd)
      obtain ⟨before, hbefore, rfl⟩ := Option.mem_map.1 hcount
      have hlt := hcalls before hbefore
      simp only [List.length_cons] at hlt
      omega

/-- What a render commit that makes the directory of a new render needs in order to come as far as
allocating its sequence, and to allocate it. -/
structure ReachesSequence (env : Encoding) (s : Store) (staged : StagedPath) (destination : Path)
    (snapshot : StagedSnapshot) (f : CommitFaults) : Prop where
  calls : ∀ count ∈ f.directories, destination.parents.length < count
  parents : ∀ directory ∈ destination.parents, directory ∉ s.files
  staged : s.stagedRenderError staged snapshot f.identity = none
  existing : s.pathExists destination = true → f.digest = true ∧
    (s.files.lookup destination).map env.sha256 = some snapshot.sha256
  key : destination.key.isInsertionKey = true
  room : s.nextSequence < maxFilesystemCount
  written : f.sequence = .none

/-- A valid key with a directory, a number left and a record that can be written. -/
theorem ensureInsertionSequence_eq_ok {fault : SequenceFault} (hkey : key.isInsertionKey = true)
    (hroot : key.root ∈ s.directories) (hroom : s.nextSequence < maxFilesystemCount)
    (hfault : fault = .none) : (s.ensureInsertionSequence env key fault).1 = .ok () := by
  subst hfault
  unfold ensureInsertionSequence allocateSequence
  split_ifs with hnone hpath hmem hfull
  · rfl
  · simp [hkey, hroot] at hpath
  · rfl
  · exact absurd hroom (by omega)
  · rfl

theorem keepsRoots_publishNewRender {snapshot : StagedSnapshot} {f : CommitFaults} :
    KeepsRoots s (s.publishNewRender env staged path snapshot f).2 := by
  have hmoved : KeepsRoots s (s.moved env staged path f) := keepsRoots_moved
  rcases @publishNewRender_cases env s staged path snapshot f with
    ⟨-, error, heq⟩ | ⟨-, -, error, heq⟩ | ⟨-, -, error, heq⟩ | ⟨-, -, heq⟩ <;> rw [heq]
  · exact keepsRoots_ensureInsertionSequence
  · exact hmoved
  · exact hmoved.trans (keepsRoots_of_inventory rfl)
  · exact hmoved.trans (keepsRoots_of_inventory rfl)

theorem mem_sequences_ensured {f : CommitFaults} (hpolicy : s.retentionPolicy.isSome)
    (hensure : (s.ensureInsertionSequence env path.key f.sequence).1 = .ok ()) :
    path.key ∈ (s.ensured env path f).sequences :=
  mem_sequences_of_ensure_ok hpolicy (Prod.ext hensure rfl)

theorem mem_sequences_publishNewRender {snapshot : StagedSnapshot} {f : CommitFaults}
    (hpolicy : s.retentionPolicy.isSome)
    (hensure : (s.ensureInsertionSequence env path.key f.sequence).1 = .ok ()) :
    path.key ∈ (s.publishNewRender env staged path snapshot f).2.sequences := by
  have hmem : path.key ∈ (s.ensured env path f).sequences := mem_sequences_ensured hpolicy hensure
  rcases @publishNewRender_cases env s staged path snapshot f with
    ⟨-, error, heq⟩ | ⟨-, -, error, heq⟩ | ⟨-, -, error, heq⟩ | ⟨-, -, heq⟩ <;> rw [heq] <;>
    exact hmem

theorem mem_sequences_consumeExisting {snapshot : StagedSnapshot} {mismatch : StoreError}
    {f : CommitFaults} (hpolicy : s.retentionPolicy.isSome) (hdigest : f.digest = true)
    (hsame : (s.files.lookup path).map env.sha256 = some snapshot.sha256)
    (hensure : (s.ensureInsertionSequence env path.key f.sequence).1 = .ok ()) :
    path.key ∈ (s.consumeExisting env staged path snapshot mismatch f).2.sequences := by
  have hmem : path.key ∈ (s.ensured env path f).sequences := mem_sequences_ensured hpolicy hensure
  obtain ⟨contents, hcontents, hsha⟩ := Option.map_eq_some_iff.1 hsame
  unfold consumeExisting
  rw [hcontents]
  dsimp only
  split
  · simp_all
  · split
    · contradiction
    · split <;> rename_i heq <;> simp only [ensured, heq] at hmem
      · exact hmem
      · split
        · exact hmem
        · split <;> exact hmem

/-- The commit under the lock keeps the inventory of everything but its render. -/
theorem keepsRoots_commitStagedRenderLocked {snapshot : StagedSnapshot} {f : CommitFaults} :
    KeepsRoots (s.ensurePrivateDirectories path.parents f.directories).2
      (s.commitStagedRenderLocked env staged path snapshot f).2 := by
  unfold commitStagedRenderLocked
  split <;> rename_i heq <;> rw [heq]
  · exact .refl
  · split
    · exact .refl
    · split
      · exact keepsRoots_consumeExisting
      · exact keepsRoots_publishNewRender

theorem stagedRenderError_ensurePrivateDirectories {snapshot : StagedSnapshot} {identity : Bool}
    {directories : List Path} {failAt : Option ℕ} :
    (s.ensurePrivateDirectories directories failAt).2.stagedRenderError staged snapshot identity =
      s.stagedRenderError staged snapshot identity := by
  rw [ensurePrivateDirectories_snd]
  rfl

theorem pathExists_ensureParents {failAt : Option ℕ}
    (h : (s.ensurePrivateDirectories path.parents failAt).2.pathExists path = true) :
    s.pathExists path = true := by
  simp only [pathExists, files_ensurePrivateDirectories, Bool.or_eq_true, decide_eq_true_eq] at h ⊢
  refine h.imp_right fun hdirectory => ?_
  rcases mem_ensurePrivateDirectories hdirectory with hold | ⟨hnew, -⟩
  · exact hold
  · exact absurd hnew notMem_parents

/-- A render commit that comes as far as the sequence has it at its end. -/
theorem ReachesSequence.mem_sequences {snapshot : StagedSnapshot} {f : CommitFaults}
    (h : s.ReachesSequence env staged path snapshot f) (hparts : path.parts ≠ [])
    (hpolicy : s.retentionPolicy.isSome) :
    path.key ∈ (s.commitStagedRenderLocked env staged path snapshot f).2.sequences := by
  have hok := @ensurePrivateDirectories_eq_ok s path.parents f.directories h.calls h.parents
  have hsame := @ensurePrivateDirectories_snd s path.parents f.directories
  have hstaged := (@stagedRenderError_ensurePrivateDirectories s staged snapshot f.identity
    path.parents f.directories).trans h.staged
  have hexists := @pathExists_ensureParents s path f.directories
  unfold commitStagedRenderLocked
  rcases heq : s.ensurePrivateDirectories path.parents f.directories with ⟨result, made⟩
  rw [heq] at hok hsame hstaged hexists
  obtain rfl : result = .ok () := hok
  have hroot : path.key.root ∈ made.directories :=
    (mem_ensurePrivateDirectories_ok heq).2 _ (List.mem_of_mem_head? (head?_parents hparts))
  have hfiles := congrArg Store.files hsame
  have hnext := congrArg Store.nextSequence hsame
  have hsome := congrArg Store.retentionPolicy hsame
  dsimp only at hfiles hnext hsome
  have hensure := @ensureInsertionSequence_eq_ok env made path.key f.sequence h.key hroot
    (hnext ▸ h.room) h.written
  dsimp only at hstaged ⊢
  rw [hstaged]
  dsimp only
  split
  · rename_i hpath
    obtain ⟨hdigest, hsha⟩ := h.existing (hexists hpath)
    exact mem_sequences_consumeExisting (hsome ▸ hpolicy) hdigest (hfiles ▸ hsha) hensure
  · exact mem_sequences_publishNewRender (hsome ▸ hpolicy) hensure

/-- A render commit that makes the directory of a render without a sequence allocates one. -/
def AllocatesRender (env : Encoding) (s : Store) (staged : StagedPath) (caller : Context)
    (destination : Path) (f : CommitFaults) : Prop :=
  ∀ snapshot, s.snapshot env staged caller f.access f.stable = .ok snapshot →
    (s.closeWriter staged).renderMutationError destination
      ((s.writers.lookup staged).bind (·.transaction)) caller none f = none →
    (destination.key ∈ s.sequences ∨ destination.parts = [] ∨ f.directories = some 0 ∨
      destination.key.root ∈ s.files) ∨
      (s.closeWriter staged).ReachesSequence env staged destination snapshot f

theorem Inventoried.commitStagedRenderLocked (h : s.Inventoried) {snapshot : StagedSnapshot}
    {f : CommitFaults}
    (hf : (path.key ∈ s.sequences ∨ path.parts = [] ∨ f.directories = some 0 ∨
      path.key.root ∈ s.files) ∨ s.ReachesSequence env staged path snapshot f) :
    (s.commitStagedRenderLocked env staged path snapshot f).2.Inventoried := by
  have hkeeps := @keepsRoots_commitStagedRenderLocked env s staged path snapshot f
  rcases hf with hold | hreaches
  · exact (h.ensureParents_of_old hold).keepsRoots hkeeps
  · by_cases hparts : path.parts = []
    · exact (h.ensureParents_of_old (.inr (.inl hparts))).keepsRoots hkeeps
    · refine (h.ensureParents.keepsRoots hkeeps).inventoried fun hsome => ?_
      rw [hkeeps.policy, ensurePrivateDirectories_snd] at hsome
      exact hreaches.mem_sequences hparts hsome

theorem sequences_closeWriter : (s.closeWriter staged).sequences = s.sequences := by
  unfold closeWriter modifyWriter
  split <;> rfl

theorem Inventoried.commitRender (h : s.Inventoried) {caller : Context} {f : CommitFaults}
    (hf : s.AllocatesRender env staged caller path f) :
    (s.commitRender env staged caller path f).2.Inventoried := by
  have hclosed : (s.closeWriter staged).Inventoried :=
    inventoried_of_inventory h inventory_closeWriter
  unfold Store.commitRender
  split
  · exact h
  · rename_i snapshot hsnapshot
    dsimp only
    split
    · exact hclosed
    · rename_i hadmitted
      rw [synchronized_snd]
      refine hclosed.commitStagedRenderLocked ?_
      rw [files_closeWriter, sequences_closeWriter]
      exact hf snapshot hsnapshot hadmitted

/-! ## Deletions, transactions and prunes -/

theorem Inventoried.rescan (h : s.Inventoried) : s.rescan.Inventoried :=
  inventoried_of_inventory h rfl

theorem Inventoried.setTransaction (h : s.Inventoried) {token : Token}
    {transaction : RenderTransaction} : (s.setTransaction token transaction).Inventoried :=
  inventoried_of_inventory h rfl

/-- A deletion forgets the sequence of an object directory, so it has to remove the directory. -/
theorem Inventoried.deleteRenderSubtreeLocked (h : s.Inventoried) {token : Option Token}
    {f : DeleteFaults} (hf : path.parts = [] → f.removal.IsComplete) :
    (s.deleteRenderSubtreeLocked path token f).2.Inventoried := by
  have hremoved : (s.rmtree path f.removal).2.Inventoried := h.keepsRoots keepsRoots_rmtree
  unfold Store.deleteRenderSubtreeLocked
  split
  · exact h
  · split
    · exact h
    · split
      · exact h
      · split
        · exact h
        · have hforgotten : (if path.parts = [] then
              (s.rmtree path f.removal).2.forgetSequence path.key
              else (s.rmtree path f.removal).2).Inventoried := by
            split_ifs with hparts
            · refine hremoved.forgetSequence ?_
              have hroot : path.key.root = path := by
                rw [ObjectKey.root, ← hparts]
              rw [hroot]
              exact notMem_rmtree (hf hparts)
            · exact hremoved
          dsimp only [afterRemoval]
          split
          · exact hforgotten
          · exact hforgotten.rescan

/-- The transaction's deletions of an object directory do not fail. -/
def DeletesWhole (s : Store) (token : Token) (f : DeleteFaults) : Prop :=
  ∀ transaction, s.transactions.lookup token = some transaction →
    transaction.subtree.parts = [] → f.removal.IsComplete

theorem Inventoried.transactionStep (h : s.Inventoried) {token : Token} {f : DeleteFaults}
    (hf : s.DeletesWhole token f) (hs : TransactionStep s token f s') : s'.Inventoried := by
  rcases hs with rfl | ⟨transaction, hlookup, -, middle, hmiddle, hs⟩
  · exact h
  · have hdeleted : middle.Inventoried := by
      rcases hmiddle with rfl | rfl
      · exact h
      · exact h.deleteRenderSubtreeLocked (hf transaction hlookup)
    rcases hs with rfl | ⟨complete, status, -, rfl⟩
    · exact hdeleted
    · exact hdeleted.setTransaction

/-- A prune forgets a sequence only after the deletion of its object has returned. -/
theorem Inventoried.pruneUnleased (h : s.Inventoried) {policy : RetentionPolicy}
    {capacity : StorageCapacity} {cutoffNs : ℤ} {clockTrusted : Bool} {sample : PruneSample}
    {candidates objects : List StoredObject} {freed : ℕ × ℕ} :
    (pruneUnleased policy capacity cutoffNs clockTrusted sample s candidates objects
      freed).2.Inventoried := by
  induction candidates generalizing s objects freed with
  | nil => exact h
  | cons candidate rest ih =>
      have hremoved : (s.removeStoragePath candidate.key.root
          (sample.removal candidate.key)).2.Inventoried := h.keepsRoots keepsRoots_removeStoragePath
      unfold Store.pruneUnleased
      dsimp only
      split
      · exact ih h
      · split
        · exact ih h
        · split <;> rename_i heq
          · rw [heq] at hremoved
            exact hremoved
          · have hgone : candidate.key.root ∉ (s.removeStoragePath candidate.key.root
                (sample.removal candidate.key)).2.directories :=
              notMem_removeStoragePath (isComplete_of_removeStoragePath_ok heq)
            rw [heq] at hremoved hgone
            split
            · exact hremoved.forgetSequence hgone
            · exact ih (hremoved.forgetSequence hgone)

theorem Inventoried.latchPrune (h : s.Inventoried) {blockers : List PruneBlocker} :
    (s.latchPrune blockers).Inventoried := by
  unfold Store.latchPrune
  split
  · exact h
  · split <;> exact h

theorem Inventoried.prune (h : s.Inventoried) {policy : RetentionPolicy} {sample : PruneSample} :
    (s.prune policy sample).2.Inventoried := by
  rcases @prune_cases s policy sample with heq | ⟨_, _, _, _, _, pruned, hpruned, heq⟩
  · rw [heq]
    exact h
  · have hevicted : pruned.Inventoried := hpruned ▸ h.pruneUnleased
    rcases heq with heq | heq | ⟨blockers, heq⟩ <;> rw [heq]
    · exact hevicted
    · exact hevicted.rescan
    · exact hevicted.rescan.rescan.latchPrune

/-! ## Runs -/

/-- The step gives every object directory it leaves a sequence: a content-addressed commit makes no
directory without one, a render commit that makes one comes as far as allocating it, and no deletion
or cleanup of an object directory is interrupted. -/
def AllocatesInTime (env : Encoding) (s : Store) : Action → Prop
  | .prepareFileCommit staged caller top filename f =>
    ∀ snapshot, s.snapshot env staged caller f.access f.stable = .ok snapshot →
      f.root = true → isComponent filename = true → f.mediaType = true →
      f.directories ≠ some 0 →
      (⟨top, top.label ++ "_" ++ snapshot.sha256⟩ : ObjectKey).root ∉ s.files →
      (⟨top, top.label ++ "_" ++ snapshot.sha256⟩ : ObjectKey) ∈ s.sequences
  | .publishFile _ f => f.unlink = false ∨ f.removal.IsComplete
  | .commitRender staged caller destination f => s.AllocatesRender env staged caller destination f
  | .deleteRenderSubtree path f => path.parts = [] → f.removal.IsComplete
  | .recoverRenderTransaction token f => s.DeletesWhole token f
  | .commitRenderTransaction token _ _ _ f => s.DeletesWhole token f
  | .rollbackRenderTransaction token _ _ f => s.DeletesWhole token f
  | .resetRenderTransaction token _ _ f => s.DeletesWhole token f
  | _ => True

/-- One step keeps the inventory. -/
theorem Inventoried.step (h : s.Inventoried) {action : Action}
    (hok : s.AllocatesInTime env action) : (s.step env action).Inventoried := by
  cases action with
  | stage =>
      obtain ⟨next, -, hcore⟩ := core_stage
      have hinventory := congrArg inventory hcore
      exact inventoried_of_inventory h hinventory
  | startWrite => exact inventoried_of_inventory h (inventory_of_core core_startWrite)
  | finishWrite => exact inventoried_of_inventory h (inventory_of_core core_finishWrite)
  | discard => exact inventoried_of_inventory h (inventory_of_core core_discard)
  | prepareFileCommit => exact h.prepareFileCommit hok
  | publishFile => exact h.publishFile hok
  | commitRender => exact h.commitRender hok
  | replaceRender => exact inventoried_of_inventory h inventory_replaceRender
  | deleteRenderSubtree path f =>
      simp only [Store.step, perform, discardValue_snd, Store.deleteRenderSubtree]
      split
      · exact h
      · exact h.deleteRenderSubtreeLocked hok
  | registerRenderTransaction =>
      exact inventoried_of_inventory h
        (inventory_keepsMaterial keepsMaterial_registerRenderTransaction)
  | recoverRenderTransaction => exact h.transactionStep hok transactionStep_recover
  | commitRenderTransaction => exact h.transactionStep hok transactionStep_commit
  | rollbackRenderTransaction => exact h.transactionStep hok transactionStep_rollback
  | resetRenderTransaction => exact h.transactionStep hok transactionStep_reset
  | releaseRenderTransaction =>
      exact inventoried_of_inventory h
        (inventory_keepsMaterial keepsMaterial_releaseRenderTransaction)
  | acquireAssetLease =>
      exact inventoried_of_inventory h (inventory_keepsMaterial keepsMaterial_acquireAssetLease)
  | releaseAssetLease =>
      exact inventoried_of_inventory h (inventory_keepsMaterial keepsMaterial_releaseAssetLease)
  | reservePublication =>
      exact inventoried_of_inventory h (inventory_keepsMaterial keepsMaterial_reservePublication)
  | beginPublication =>
      exact inventoried_of_inventory h (inventory_keepsMaterial keepsMaterial_beginPublication)
  | commitPublication =>
      exact inventoried_of_inventory h (inventory_keepsMaterial keepsMaterial_commitPublication)
  | abortPublication =>
      exact inventoried_of_inventory h (inventory_keepsMaterial keepsMaterial_abortPublication)
  | exitPublication =>
      exact inventoried_of_inventory h (inventory_keepsMaterial keepsMaterial_exitPublication)
  | prune => exact h.prune

theorem mem_objectKeys : key ∈ s.objectKeys ↔ key.root ∈ s.directories := by
  simp only [objectKeys, Finset.mem_image, Finset.mem_filter]
  constructor
  · rintro ⟨⟨key', parts⟩, ⟨hmem, hparts⟩, rfl⟩
    obtain rfl : parts = [] := hparts
    exact hmem
  · exact fun hmem => ⟨key.root, ⟨hmem, rfl⟩, rfl⟩

theorem Inventoried.of_constructed (h : s.Constructed) : s.Inventoried :=
  fun hpolicy key hroot => h.sequences hpolicy key (mem_objectKeys.2 hroot)

/-- In an inventoried store the inventory finds every sequence. -/
theorem Inventoried.storedObjects_ne (h : s.Inventoried) {listing : Listing} :
    s.storedObjects listing ≠ .error .noInsertionSequence := by
  intro herror
  unfold storedObjects at herror
  split at herror
  · cases herror
  · rename_i hpolicy
    split at herror
    · rename_i error hmap
      obtain rfl : error = .noInsertionSequence := Except.error.inj herror
      obtain ⟨key, hkey, hdescribe⟩ := exists_mem_of_mapM_error hmap
      unfold describeObject at hdescribe
      split at hdescribe
      · cases hdescribe
      · rename_i hfile
        split at hdescribe
        · rename_i hnone
          -- a child that is not a file is a directory, so it has a sequence
          have hmem : key ∈ s.sequences := by
            refine h (by simpa [Option.isSome_iff_ne_none] using hpolicy) key ?_
            rcases Finset.mem_union.1 (mem_inOrder.1 hkey) with hdirectory | himage
            · exact mem_objectKeys.1 hdirectory
            · obtain ⟨⟨key', parts⟩, hfiltered, rfl⟩ := Finset.mem_image.1 himage
              obtain ⟨hkeys, rfl⟩ := Finset.mem_filter.1 hfiltered
              simp [ObjectKey.root, Finmap.mem_keys.1 hkeys] at hfile
          exact absurd hmem (Finmap.lookup_eq_none.1 hnone)
        · cases hdescribe
    · split at herror <;> cases herror

/-- **The inventory over every run.** In every state reached by a run whose steps allocate in time,
each directory directly below a namespace has its sequence in memory, and the inventory does not fail
for want of one. -/
theorem inventory_complete {run : List Action} (hs : s.Constructed)
    (hrun : Along (AllocatesInTime env) (Store.step env) s run) :
    ∀ front, front <+: run →
      ((front.foldl (Store.step env) s).retentionPolicy.isSome →
        ∀ key ∈ (front.foldl (Store.step env) s).objectKeys,
          key ∈ (front.foldl (Store.step env) s).sequences) ∧
      ∀ listing, (front.foldl (Store.step env) s).storedObjects listing ≠
        .error .noInsertionSequence := by
  rintro front ⟨back, rfl⟩
  have h : (front.foldl (Store.step env) s).Inventoried :=
    foldl_invariant (fun _ _ hok hinv => hinv.step hok) (.of_constructed hs)
      (along_append.1 hrun).1
  exact ⟨fun hpolicy key hkey => h hpolicy key (mem_objectKeys.1 hkey),
    fun listing => h.storedObjects_ne⟩

/-- Five bytes are staged. -/
def stagedPageRun : List Action :=
  .stage none 0 true true :: Action.write 0 0 [1, 1, 1, 1, 1]

/-- A render is committed and deleted. -/
def renderRun : List Action :=
  stagedPageRun ++ [.commitRender 0 0 samplePage {}, .deleteRenderSubtree samplePage.key.root {}]

theorem inventory_complete_render :
    (empty 100 (some samplePolicy)).Constructed ∧
      Along (AllocatesInTime sampleDigest) (Store.step sampleDigest) (empty 100 (some samplePolicy))
        renderRun ∧
      ∀ listing, (renderRun.foldl (Store.step sampleDigest)
        (empty 100 (some samplePolicy))).storedObjects listing ≠ .error .noInsertionSequence := by
  have hrun : Along (AllocatesInTime sampleDigest) (Store.step sampleDigest)
      (empty 100 (some samplePolicy)) renderRun := by
    refine ⟨trivial, trivial, trivial, fun snapshot hsnapshot _ => .inr ?_, fun _ => trivial,
      trivial⟩
    obtain rfl : ⟨sampleDigest.sha256 [1, 1, 1, 1, 1], 5⟩ = snapshot :=
      Except.ok.inj (.trans (by decide +kernel) hsnapshot)
    exact ⟨by decide +kernel, by decide +kernel, by decide +kernel, by decide +kernel,
      by decide +kernel, by decide +kernel, rfl⟩
  exact ⟨constructed_empty samplePolicy_covered, hrun,
    (inventory_complete (constructed_empty samplePolicy_covered) hrun _ (List.prefix_refl _)).2⟩

/-- A document commit that has made its directory and not yet taken the lock, and a reservation that
begins meanwhile. -/
def preparedRun : List Action :=
  stagedPageRun ++ [.prepareFileCommit 0 0 .documents "first.pdf" {},
    .reservePublication samplePolicy 1 1 1]

/-- While the lock is free between the two parts of a document commit, the object directory has no
sequence, and a reservation cannot begin. -/
theorem inventory_misses_prepared_document :
    (empty 100 (some samplePolicy)).Constructed ∧
      ¬ (∀ key ∈ (preparedRun.foldl (Store.step sampleDigest)
          (empty 100 (some samplePolicy))).objectKeys,
        key ∈ (preparedRun.foldl (Store.step sampleDigest)
          (empty 100 (some samplePolicy))).sequences) ∧
      ((preparedRun.foldl (Store.step sampleDigest) (empty 100 (some samplePolicy))).perform
        sampleDigest (.beginPublication 1 ⟨some ⟨67108865, 129⟩, true, {}⟩)).1 =
          .error .noInsertionSequence := by
  refine ⟨constructed_empty samplePolicy_covered, by decide +kernel, by decide +kernel⟩

end Store

end NplgMcp
