import NplgMcp.Storage.Delivery

/-!
# The inodes of a publication

What the publication of files does to the disk, one call of the operating system after another:
`stage`, the directories and the rename of `_commit_staged_render`, and the two records that
`PersistentInsertionOrder.ensure` writes for an object that has no sequence, each under a temporary
name first. The store of the other modules has the state after each of its own calls only; here are
the states between them, of which the most inodes matter. Main results: `created_le`, the bound on
the inodes that a publication has made at any time, `created_publish`, their number at its end, and
`Outputs.covers_iff` from the two.
-/

open Library

namespace NplgMcp

/-- What a publication can change on the disk: the directories and files below the namespaces, the
objects whose sequence is in memory, its own staged files, and whether a record is being written under
a temporary name. -/
structure Disk where
  directories : Finset Path
  files : Finset Path
  sequenced : Finset ObjectKey
  staged : ℕ := 0
  writing : Bool := false
  deriving DecidableEq

/-- The disk of a store, before a publication. -/
def Store.disk (s : Store) : Disk where
  directories := s.directories
  files := s.files.keys
  sequenced := s.sequences.keys

/-- The calls of a publication that make or remove an inode. -/
inductive DiskStep where
  | stage
  | makeDirectory (directory : Path)
  | openRecord (key : ObjectKey)
  | replaceHighWater (key : ObjectKey)
  | replaceRecord (key : ObjectKey)
  | publish (destination : Path)
  | discard
  | removeTree (directory : Path)
  deriving DecidableEq

namespace Disk

/-- What a call does. The records are written unless the sequence of the object is in memory; a
rename over a file that is there already frees the inode of one of the two. -/
def step (d : Disk) : DiskStep → Disk
  | .stage => { d with staged := d.staged + 1 }
  | .makeDirectory directory => { d with directories := insert directory d.directories }
  | .openRecord key => if key ∈ d.sequenced then d else { d with writing := true }
  | .replaceHighWater key => if key ∈ d.sequenced then d else { d with writing := false }
  | .replaceRecord key =>
    if key ∈ d.sequenced then d
    else { d with
      files := insert key.sequenceFile d.files
      sequenced := insert key d.sequenced
      writing := false }
  | .publish destination =>
    if d.staged = 0 then d
    else { d with files := insert destination d.files, staged := d.staged - 1 }
  | .discard => { d with staged := d.staged - 1 }
  | .removeTree directory => { d with
      directories := d.directories.filter fun path => ¬ path.Within directory
      files := d.files.filter fun path => ¬ path.Within directory
      sequenced :=
        if directory.parts = [] then d.sequenced.erase directory.key else d.sequenced }

/-- The calls of `ensure` for an object: the high-water record, which is there since the start, and
the record of the object. -/
def ensureSteps (key : ObjectKey) : List DiskStep :=
  [.openRecord key, .replaceHighWater key, .openRecord key, .replaceRecord key]

/-- The calls that publish a file: it is staged, its directories and the sequence of its object are
made, and it is renamed. -/
def publishSteps (destination : Path) : List DiskStep :=
  .stage :: destination.parents.map .makeDirectory ++ ensureSteps destination.key ++
    [.publish destination]

/-- The inodes that a disk has and another had not when a publication began. -/
def created (start d : Disk) : ℕ :=
  (d.directories \ start.directories).card + (d.files \ start.files).card + d.staged +
    d.writing.toNat

/-- The objects that a disk has and another had not. -/
def createdObjects (start d : Disk) : ℕ :=
  ((d.directories \ start.directories).filter (·.parts = [])).card

/-- The runs of a publication, each up to some call: the files are published one after another, and
what is staged is discarded and the subtree of a transaction removed where it is given up. -/
def IsRun (destinations : List Path) (subtree : Option Path) (run : List DiskStep) : Prop :=
  ∃ front cleanup, run = front ++ cleanup ∧ front <+: destinations.flatMap publishSteps ∧
    cleanup <+: .discard :: subtree.toList.map .removeTree

/-! ## The most inodes -/

/-- The directories that the files need. -/
def chain (destinations : List Path) : Finset Path := (destinations.flatMap Path.parents).toFinset

/-- The calls that publish files of one object in some directories. -/
def Publishes (directories : Finset Path) (key : ObjectKey) : DiskStep → Prop
  | .stage => True
  | .makeDirectory directory => directory ∈ directories
  | .openRecord key' | .replaceHighWater key' | .replaceRecord key' => key' = key
  | .publish _ => True
  | .discard | .removeTree _ => False

/-- What holds of a disk on which a publication has staged a number of files. As long as the object
has no sequence no record is counted with the files, and as soon as it has one none is being
written. -/
structure Bounded (start : Disk) (directories : Finset Path) (key : ObjectKey) (stages : ℕ)
    (d : Disk) : Prop where
  directories : d.directories ⊆ start.directories ∪ directories
  sequenced : start.sequenced ⊆ d.sequenced
  unwritten : key ∉ d.sequenced → (d.files \ start.files).card + d.staged ≤ stages
  written : key ∈ d.sequenced → d.writing = false ∧ (d.files \ start.files).card + d.staged ≤
    stages + if key ∈ start.sequenced then 0 else 1

variable {start d : Disk} {directories : Finset Path} {key : ObjectKey} {stages : ℕ}

/-- A new file adds at most one. -/
theorem card_insert_sdiff_le {files base : Finset Path} {path : Path} :
    (insert path files \ base).card ≤ (files \ base).card + 1 := by
  refine (Finset.card_le_card (t := insert path (files \ base)) ?_).trans (Finset.card_insert_le _ _)
  intro other hother
  rw [Finset.mem_sdiff, Finset.mem_insert] at hother
  rw [Finset.mem_insert, Finset.mem_sdiff]
  exact hother.1.imp_right fun h => ⟨h, hother.2⟩

/-- A call of a publication keeps the bound, which grows with what is staged. -/
theorem Bounded.step (h : Bounded start directories key stages d) {call : DiskStep}
    (hcall : Publishes directories key call) :
    Bounded start directories key (stages + [call].count .stage) (d.step call) := by
  cases call with
  | stage =>
      refine ⟨h.directories, h.sequenced, fun hkey => ?_, fun hkey => ?_⟩
      · have hcard := h.unwritten hkey
        change (d.files \ start.files).card + (d.staged + 1) ≤ stages + 1
        omega
      · obtain ⟨hwriting, hcard⟩ := h.written hkey
        refine ⟨hwriting, ?_⟩
        change (d.files \ start.files).card + (d.staged + 1) ≤ stages + 1 + _
        omega
  | makeDirectory directory =>
      refine ⟨?_, h.sequenced, h.unwritten, h.written⟩
      exact Finset.insert_subset (Finset.mem_union_right _ hcall) h.directories
  | openRecord key' =>
      obtain rfl : key' = key := hcall
      change Bounded start directories key' stages _
      rw [Disk.step]
      split
      · exact h
      · rename_i hkey
        exact ⟨h.directories, h.sequenced, h.unwritten, fun hmem => absurd hmem hkey⟩
  | replaceHighWater key' =>
      obtain rfl : key' = key := hcall
      change Bounded start directories key' stages _
      rw [Disk.step]
      split
      · exact h
      · rename_i hkey
        exact ⟨h.directories, h.sequenced, h.unwritten, fun hmem => absurd hmem hkey⟩
  | replaceRecord key' =>
      obtain rfl : key' = key := hcall
      change Bounded start directories key' stages _
      rw [Disk.step]
      split
      · exact h
      · rename_i hkey
        refine ⟨h.directories, h.sequenced.trans (Finset.subset_insert _ _), fun hmem => ?_,
          fun _ => ⟨rfl, ?_⟩⟩
        · exact absurd (Finset.mem_insert_self _ _) hmem
        · have hcard := h.unwritten hkey
          have hrecord := @card_insert_sdiff_le d.files start.files key'.sequenceFile
          rw [if_neg fun hstart => hkey (h.sequenced hstart)]
          change (insert key'.sequenceFile d.files \ start.files).card + d.staged ≤ _
          omega
  | publish destination =>
      change Bounded start directories key stages _
      rw [Disk.step]
      split
      · exact h
      · rename_i hstaged
        have hfile := @card_insert_sdiff_le d.files start.files destination
        refine ⟨h.directories, h.sequenced, fun hkey => ?_, fun hkey => ?_⟩
        · have hcard := h.unwritten hkey
          change (insert destination d.files \ start.files).card + (d.staged - 1) ≤ _
          omega
        · obtain ⟨hwriting, hcard⟩ := h.written hkey
          refine ⟨hwriting, ?_⟩
          change (insert destination d.files \ start.files).card + (d.staged - 1) ≤ _
          omega
  | discard | removeTree => exact hcall.elim

/-- A publication keeps the bound. -/
theorem Bounded.foldl (h : Bounded start directories key stages d) {run : List DiskStep}
    (hrun : ∀ call ∈ run, Publishes directories key call) :
    Bounded start directories key (stages + run.count .stage) (run.foldl Disk.step d) := by
  induction run generalizing stages d with
  | nil => exact h
  | cons call run ih =>
      have hnext := ih (h.step (hrun call List.mem_cons_self))
        fun other hother => hrun other (List.mem_cons_of_mem _ hother)
      rw [← List.singleton_append, List.count_append, ← Nat.add_assoc]
      exact hnext

/-- What the bound says of the inodes that were made. -/
theorem Bounded.created_le (h : Bounded start directories key stages d) :
    created start d ≤ (directories \ start.directories).card +
      (if key ∈ start.sequenced then 0 else 1) + stages := by
  have hdirectories : (d.directories \ start.directories).card ≤
      (directories \ start.directories).card := by
    refine Finset.card_le_card fun path hpath => ?_
    obtain ⟨hmem, hnew⟩ := Finset.mem_sdiff.1 hpath
    exact Finset.mem_sdiff.2
      ⟨(Finset.mem_union.1 (h.directories hmem)).resolve_left hnew, hnew⟩
  unfold created
  by_cases hkey : key ∈ d.sequenced
  · obtain ⟨hwriting, hcard⟩ := h.written hkey
    rw [hwriting, Bool.toNat_false]
    omega
  · have hcard := h.unwritten hkey
    have hwriting := Bool.toNat_le d.writing
    rw [if_neg fun hstart => hkey (h.sequenced hstart)]
    omega

/-- What the bound says of the objects that were made, where all directories are of one object. -/
theorem Bounded.createdObjects_le (h : Bounded start directories key stages d)
    (hobject : ∀ directory ∈ directories, directory.key = key) : createdObjects start d ≤ 1 := by
  have hroot : (d.directories \ start.directories).filter (·.parts = []) ⊆ {key.root} := by
    intro path hpath
    obtain ⟨hnew, hparts⟩ := Finset.mem_filter.1 hpath
    obtain ⟨hmem, hnew⟩ := Finset.mem_sdiff.1 hnew
    have hdirectory := (Finset.mem_union.1 (h.directories hmem)).resolve_left hnew
    rw [Finset.mem_singleton]
    exact congrArg₂ Path.mk (hobject path hdirectory) hparts
  exact Finset.card_le_card hroot

/-- Giving up takes away only. -/
theorem created_cleanup_le {subtree : Option Path} {cleanup : List DiskStep}
    (h : cleanup <+: .discard :: subtree.toList.map .removeTree) :
    created start (cleanup.foldl Disk.step d) ≤ created start d ∧
      createdObjects start (cleanup.foldl Disk.step d) ≤ createdObjects start d := by
  have hless {d' : Disk} (hdirectories : d'.directories ⊆ d.directories) (hfiles : d'.files ⊆ d.files)
      (hstaged : d'.staged ≤ d.staged) (hwriting : d'.writing = d.writing) :
      created start d' ≤ created start d ∧ createdObjects start d' ≤ createdObjects start d := by
    have hnew := Finset.sdiff_subset_sdiff hdirectories (Finset.Subset.refl start.directories)
    refine ⟨?_, Finset.card_le_card (Finset.filter_subset_filter _ hnew)⟩
    have hd := Finset.card_le_card hnew
    have hf := Finset.card_le_card
      (Finset.sdiff_subset_sdiff hfiles (Finset.Subset.refl start.files))
    unfold created
    rw [hwriting]
    omega
  rcases List.prefix_cons_iff.1 h with rfl | ⟨rest, rfl, hrest⟩
  · exact ⟨le_rfl, le_rfl⟩
  · cases subtree with
    | none =>
        obtain rfl := List.prefix_nil.1 hrest
        exact hless (Finset.Subset.refl _) (Finset.Subset.refl _) (Nat.sub_le _ _) rfl
    | some subtree =>
        rcases List.prefix_cons_iff.1 hrest with rfl | ⟨last, rfl, hlast⟩
        · exact hless (Finset.Subset.refl _) (Finset.Subset.refl _) (Nat.sub_le _ _) rfl
        · obtain rfl := List.prefix_nil.1 hlast
          exact hless (Finset.filter_subset _ _) (Finset.filter_subset _ _) (Nat.sub_le _ _) rfl

variable {destinations : List Path}

/-- The directories of the files are of their object. -/
theorem key_of_mem_chain (hkey : ∀ destination ∈ destinations, destination.key = key) :
    ∀ directory ∈ chain destinations, directory.key = key := by
  intro directory hdirectory
  obtain ⟨destination, hmem, hparent⟩ := List.mem_flatMap.1 (List.mem_toFinset.1 hdirectory)
  rw [← hkey destination hmem]
  unfold Path.parents at hparent
  split at hparent
  · cases hparent
  · obtain ⟨parts, -, rfl⟩ := List.mem_map.1 hparent
    rfl

/-- The calls that publish files of an object publish. -/
theorem publishes_of_mem (hkey : ∀ destination ∈ destinations, destination.key = key) :
    ∀ call ∈ destinations.flatMap publishSteps, Publishes (chain destinations) key call := by
  intro call hcall
  obtain ⟨destination, hmem, hcall⟩ := List.mem_flatMap.1 hcall
  have hown := hkey destination hmem
  rcases List.mem_append.1 hcall with hcall | hcall
  · rcases List.mem_append.1 hcall with hcall | hcall
    · rcases List.mem_cons.1 hcall with rfl | hcall
      · trivial
      · obtain ⟨directory, hdirectory, rfl⟩ := List.mem_map.1 hcall
        exact List.mem_toFinset.2 (List.mem_flatMap.2 ⟨destination, hmem, hdirectory⟩)
    · unfold ensureSteps at hcall
      simp only [List.mem_cons, List.not_mem_nil, or_false] at hcall
      rcases hcall with rfl | rfl | rfl | rfl <;> exact hown
  · obtain rfl := List.mem_singleton.1 hcall
    trivial

/-- Every file is staged once. -/
theorem count_stage : (destinations.flatMap publishSteps).count .stage = destinations.length := by
  induction destinations with
  | nil => rfl
  | cons destination destinations ih =>
      have hmake : (destination.parents.map DiskStep.makeDirectory).count .stage = 0 := by
        refine List.count_eq_zero.2 fun hmem => ?_
        obtain ⟨directory, -, heq⟩ := List.mem_map.1 hmem
        cases heq
      have hensure : (ensureSteps destination.key ++ [DiskStep.publish destination]).count .stage = 0 :=
        rfl
      rw [List.flatMap_cons, List.count_append, ih, publishSteps, List.append_assoc, List.cons_append,
        List.count_cons_self, List.count_append, hmake, hensure, List.length_cons]
      omega

/-- **The most inodes.** At no time has a publication made more inodes than there are missing
directories, one record if the object has no sequence, and files; and it makes one object at most. -/
theorem created_le {subtree : Option Path} {run : List DiskStep}
    (hkey : ∀ destination ∈ destinations, destination.key = key) (hstaged : start.staged = 0)
    (hwriting : start.writing = false) (hrun : IsRun destinations subtree run) :
    created start (run.foldl Disk.step start) ≤ (chain destinations \ start.directories).card +
        (if key ∈ start.sequenced then 0 else 1) + destinations.length ∧
      createdObjects start (run.foldl Disk.step start) ≤ 1 := by
  obtain ⟨front, cleanup, rfl, hfront, hcleanup⟩ := hrun
  have hstart : Bounded start (chain destinations) key 0 start := by
    have hnone : (start.files \ start.files).card + start.staged = 0 := by
      rw [Finset.sdiff_self, Finset.card_empty, hstaged]
    exact ⟨Finset.subset_union_left, Finset.Subset.refl _, fun _ => hnone.le,
      fun _ => ⟨hwriting, hnone.le.trans (Nat.zero_le _)⟩⟩
  have hbounded := hstart.foldl fun call hcall =>
    publishes_of_mem hkey call (hfront.subset hcall)
  have hcount : front.count .stage ≤ destinations.length := by
    rw [← count_stage]
    exact hfront.sublist.count_le _
  obtain ⟨hcreated, hobjects⟩ := @created_cleanup_le start (front.foldl Disk.step start) subtree
    cleanup hcleanup
  rw [List.foldl_append]
  refine ⟨hcreated.trans (hbounded.created_le.trans ?_),
    hobjects.trans (hbounded.createdObjects_le (key_of_mem_chain hkey))⟩
  omega

/-! ## The inodes at the end -/

/-- What the publication of a file comes to. -/
theorem foldl_publishSteps {destination : Path} (hwriting : d.writing = false) :
    (publishSteps destination).foldl Disk.step d = { d with
      directories := d.directories ∪ destination.parents.toFinset
      files := insert destination (if destination.key ∈ d.sequenced then d.files
        else insert destination.key.sequenceFile d.files)
      sequenced := insert destination.key d.sequenced } := by
  have hmake (directories : List Path) (d : Disk) :
      (directories.map DiskStep.makeDirectory).foldl Disk.step d =
        { d with directories := d.directories ∪ directories.toFinset } := by
    induction directories generalizing d with
    | nil => simp only [List.map_nil, List.foldl_nil, List.toFinset_nil, Finset.union_empty]
    | cons directory directories ih =>
        rw [List.map_cons, List.foldl_cons, ih]
        simp only [Disk.step, List.toFinset_cons, Finset.insert_union, Finset.union_insert]
  obtain ⟨directories, files, sequenced, staged, writing⟩ := d
  obtain rfl : writing = false := hwriting
  simp only [publishSteps, List.foldl_append, List.cons_append, List.foldl_cons, hmake]
  by_cases hkey : destination.key ∈ sequenced
  · simp only [ensureSteps, List.foldl_cons, List.foldl_nil, Disk.step, if_pos hkey,
      Nat.add_one_ne_zero, if_false, Nat.add_sub_cancel, Finset.insert_eq_of_mem hkey]
  · simp only [ensureSteps, List.foldl_cons, List.foldl_nil, Disk.step, if_neg hkey,
      Nat.add_one_ne_zero, if_false, Nat.add_sub_cancel]

/-- The directories of a file and of those after it. -/
theorem chain_cons {destination : Path} :
    chain (destination :: destinations) = destination.parents.toFinset ∪ chain destinations := by
  unfold chain
  rw [List.flatMap_cons, List.toFinset_append]

/-- What the publication of files of an object with a sequence comes to. -/
theorem foldl_publish (hkey : ∀ destination ∈ destinations, destination.key = key)
    (hwriting : d.writing = false) (hsequenced : key ∈ d.sequenced) :
    (destinations.flatMap publishSteps).foldl Disk.step d = { d with
      directories := d.directories ∪ chain destinations
      files := d.files ∪ destinations.toFinset } := by
  induction destinations generalizing d with
  | nil => simp only [chain, List.flatMap_nil, List.foldl_nil, List.toFinset_nil, Finset.union_empty]
  | cons destination destinations ih =>
      have hown : destination.key ∈ d.sequenced := hkey destination List.mem_cons_self ▸ hsequenced
      have hrest := @ih { d with
          directories := d.directories ∪ destination.parents.toFinset
          files := insert destination d.files }
        (fun other hother => hkey other (List.mem_cons_of_mem _ hother)) hwriting hsequenced
      rw [List.flatMap_cons, List.foldl_append, foldl_publishSteps hwriting, if_pos hown,
        Finset.insert_eq_of_mem hown, hrest, chain_cons, List.toFinset_cons]
      simp only [Finset.union_assoc, Finset.insert_union, Finset.union_insert]

/-- **The inodes at the end.** Where none of the directories and files is there and the object has no
sequence, a publication makes all of them and one record. -/
theorem created_publish (hkey : ∀ destination ∈ destinations, destination.key = key)
    (hnonempty : destinations ≠ []) (hnodup : destinations.Nodup) (hstaged : start.staged = 0)
    (hwriting : start.writing = false) (hsequenced : key ∉ start.sequenced)
    (hrecord : key.sequenceFile ∉ start.files) (hother : key.sequenceFile ∉ destinations)
    (hfiles : ∀ destination ∈ destinations, destination ∉ start.files)
    (hdirectories : ∀ directory ∈ chain destinations, directory ∉ start.directories) :
    created start ((destinations.flatMap publishSteps).foldl Disk.step start) =
      (chain destinations).card + 1 + destinations.length := by
  have hfinal : (destinations.flatMap publishSteps).foldl Disk.step start = { start with
      directories := start.directories ∪ chain destinations
      files := start.files ∪ insert key.sequenceFile destinations.toFinset
      sequenced := insert key start.sequenced } := by
    cases destinations with
    | nil => exact absurd rfl hnonempty
    | cons destination destinations =>
        obtain rfl := hkey destination List.mem_cons_self
        have hrest := @foldl_publish { start with
            directories := start.directories ∪ destination.parents.toFinset
            files := insert destination (insert destination.key.sequenceFile start.files)
            sequenced := insert destination.key start.sequenced } _ destinations
          (fun other hother => hkey other (List.mem_cons_of_mem _ hother)) hwriting
          (Finset.mem_insert_self _ _)
        rw [List.flatMap_cons, List.foldl_append, foldl_publishSteps hwriting, if_neg hsequenced, hrest,
          chain_cons, List.toFinset_cons]
        simp only [Finset.union_assoc, Finset.insert_union, Finset.union_insert,
          Finset.insert_comm destination]
  have hnewDirectories : ((start.directories ∪ chain destinations) \ start.directories) =
      chain destinations := by
    rw [Finset.union_sdiff_left]
    exact Finset.sdiff_eq_self_of_disjoint (Finset.disjoint_left.2 hdirectories)
  have hnewFiles : ((start.files ∪ insert key.sequenceFile destinations.toFinset) \ start.files) =
      insert key.sequenceFile destinations.toFinset := by
    rw [Finset.union_sdiff_left]
    refine Finset.sdiff_eq_self_of_disjoint (Finset.disjoint_left.2 fun path hpath => ?_)
    rcases Finset.mem_insert.1 hpath with rfl | hpath
    · exact hrecord
    · exact hfiles path (List.mem_toFinset.1 hpath)
  have hcard : (insert key.sequenceFile destinations.toFinset).card = destinations.length + 1 := by
    rw [Finset.card_insert_of_notMem fun hmem => hother (List.mem_toFinset.1 hmem),
      List.toFinset_card_of_nodup hnodup]
  rw [hfinal, created, hnewDirectories, hnewFiles, hcard, hstaged, hwriting, Bool.toNat_false]
  omega

/-! ## What is covered -/

/-- At no time has the publication of the files made more inodes and objects than these. -/
def Covers (inodes objects : ℕ) (start : Disk) (destinations : List Path) (subtree : Option Path) :
    Prop :=
  ∀ run, IsRun destinations subtree run →
    created start (run.foldl Disk.step start) ≤ inodes ∧
      createdObjects start (run.foldl Disk.step start) ≤ objects

/-- None of the directories of the files is there, and their object has no sequence. -/
def Absent (start : Disk) (destinations : List Path) (key : ObjectKey) : Prop :=
  (∀ directory ∈ chain destinations, directory ∉ start.directories) ∧ key ∉ start.sequenced

/-- Every file lies in directories, as in a file system. -/
def IsTree (d : Disk) : Prop :=
  ∀ path ∈ d.files, ∀ directory ∈ path.parents, directory ∈ d.directories

/-- Files of one object that can be published. -/
structure Outputs (destinations : List Path) (key : ObjectKey) : Prop where
  nonempty : destinations ≠ []
  nodup : destinations.Nodup
  key : ∀ destination ∈ destinations, destination.key = key
  below : ∀ destination ∈ destinations, destination.parts ≠ []
  isArtifact : ∀ destination ∈ destinations, destination.IsArtifact

/-- The directory of its object is a parent of a path below it. -/
theorem root_mem_parents {path : Path} (h : path.parts ≠ []) : path.key.root ∈ path.parents := by
  rw [Path.parents_eq h]
  exact List.mem_map.2 ⟨[], (List.mem_inits _ _).2 List.nil_prefix, rfl⟩

/-- Removing a directory leaves a file system. -/
theorem IsTree.removeTree (h : d.IsTree) (directory : Path) :
    (d.step (.removeTree directory)).IsTree := by
  intro path hpath parent hparent
  obtain ⟨hmem, hout⟩ := Finset.mem_filter.1 hpath
  refine Finset.mem_filter.2 ⟨h path hmem parent hparent, fun hwithin => hout ?_⟩
  unfold Path.parents at hparent
  split at hparent
  · cases hparent
  · obtain ⟨parts, hparts, rfl⟩ := List.mem_map.1 hparent
    exact ⟨hwithin.1, hwithin.2.trans
      (((List.mem_inits _ _).1 hparts).trans (List.dropLast_prefix _))⟩

/-- Where nothing is there, a publication that runs to its end makes everything it needs. -/
theorem Outputs.not_covers (h : Outputs destinations key) {inodes objects : ℕ} {subtree : Option Path}
    (htree : start.IsTree) (hstaged : start.staged = 0) (hwriting : start.writing = false)
    (habsent : Absent start destinations key)
    (hinodes : inodes < (chain destinations).card + 1 + destinations.length) :
    ¬ Covers inodes objects start destinations subtree := by
  intro hcovers
  have hroot : key.root ∉ start.directories := by
    obtain ⟨destination, hmem⟩ := List.exists_mem_of_ne_nil _ h.nonempty
    refine habsent.1 _ (List.mem_toFinset.2 (List.mem_flatMap.2 ⟨destination, hmem, ?_⟩))
    rw [← h.key destination hmem]
    exact root_mem_parents (h.below destination hmem)
  have hnone {path : Path} (hpath : path.key = key) (hbelow : path.parts ≠ []) :
      path ∉ start.files := by
    intro hmem
    refine hroot (htree path hmem _ ?_)
    rw [← hpath]
    exact root_mem_parents hbelow
  have hall := created_publish h.key h.nonempty h.nodup hstaged hwriting habsent.2
    (hnone rfl (List.cons_ne_nil _ _))
    (fun hmem => Store.not_isArtifact_sequenceFile (h.isArtifact _ hmem))
    (fun destination hmem => hnone (h.key destination hmem) (h.below destination hmem)) habsent.1
  have hrun : IsRun destinations subtree (destinations.flatMap publishSteps) :=
    ⟨_, [], (List.append_nil _).symm, List.prefix_rfl, List.nil_prefix⟩
  have hle := (hcovers _ hrun).1
  omega

/-- **What is covered.** A number of inodes that has room for the directories and the files covers
their publication, unless there is no room for the record too and nothing is there. -/
theorem Outputs.covers_iff (h : Outputs destinations key) {inodes objects : ℕ} {subtree : Option Path}
    (htree : start.IsTree) (hstaged : start.staged = 0) (hwriting : start.writing = false)
    (hinodes : (chain destinations).card + destinations.length ≤ inodes) (hobjects : 1 ≤ objects) :
    Covers inodes objects start destinations subtree ↔
      ¬ (inodes < (chain destinations).card + 1 + destinations.length ∧
        Absent start destinations key) := by
  constructor
  · rintro hcovers ⟨hroom, habsent⟩
    exact h.not_covers htree hstaged hwriting habsent hroom hcovers
  · intro hnot run hrun
    obtain ⟨hcreated, hone⟩ := created_le h.key hstaged hwriting hrun
    refine ⟨hcreated.trans ?_, hone.trans hobjects⟩
    have hall := Finset.card_le_card (Finset.sdiff_subset (s := chain destinations)
      (t := start.directories))
    by_cases hsequenced : key ∈ start.sequenced
    · rw [if_pos hsequenced]
      omega
    · rw [if_neg hsequenced]
      by_cases hmissing : ∀ directory ∈ chain destinations, directory ∉ start.directories
      · have hroom := not_lt.1 fun hroom => hnot ⟨hroom, hmissing, hsequenced⟩
        omega
      · simp only [not_forall, not_not] at hmissing
        obtain ⟨directory, hmem, hthere⟩ := hmissing
        have hfewer := Finset.card_lt_card (Finset.ssubset_iff_subset_ne.2
          ⟨Finset.sdiff_subset, fun heq => (Finset.mem_sdiff.1 (heq ▸ hmem)).2 hthere⟩ :
            chain destinations \ start.directories ⊂ chain destinations)
        omega

end Disk

/-! ## The store's commit -/

namespace Store

variable {env : Encoding} {s s' : Store} {staged : StagedPath} {key : ObjectKey} {destination : Path}

/-- An insertion adds a key. -/
theorem keys_insert {κ ν : Type} [DecidableEq κ] {m : Dict κ ν} {k : κ} {v : ν} :
    (m.insert k v).keys = insert k m.keys := by
  ext other
  rw [Finmap.mem_keys, Finmap.mem_insert, Finset.mem_insert, Finmap.mem_keys]

/-- Directories that are made are added. -/
theorem directories_of_ensurePrivateDirectories {directories : List Path} {failAt : Option ℕ}
    (h : s.ensurePrivateDirectories directories failAt = (.ok (), s')) :
    s' = { s with directories := s.directories ∪ directories.toFinset } := by
  fun_induction ensurePrivateDirectories s directories failAt with
  | case1 | case3 => cases h
  | case2 =>
      cases h
      rw [List.toFinset_nil, Finset.union_empty]
  | case4 s directory rest failAt _ _ ih =>
      rw [ih h, List.toFinset_cons, Finset.union_insert, Finset.insert_union]

/-- A sequence that is ensured is in memory, and a new one has a record. -/
theorem disk_ensureInsertionSequence {fault : SequenceFault} (hpolicy : s.retentionPolicy.isSome)
    (h : s.ensureInsertionSequence env key fault = (.ok (), s')) :
    s'.disk = { s.disk with
      files := if key ∈ s.disk.sequenced then s.disk.files
        else insert key.sequenceFile s.disk.files
      sequenced := insert key s.disk.sequenced } := by
  unfold ensureInsertionSequence at h
  split_ifs at h with hnone hkey hknown
  · rw [Option.isNone_iff_eq_none.1 hnone] at hpolicy
    cases hpolicy
  · cases h
  · cases h
    have hmem : key ∈ s.disk.sequenced := Finmap.mem_keys.2 hknown
    rw [if_pos hmem, Finset.insert_eq_of_mem hmem]
  · have hmem : key ∉ s.disk.sequenced := fun hmem => hknown (Finmap.mem_keys.1 hmem)
    unfold allocateSequence at h
    split at h
    · cases h
    · rcases fault with _ | _ | _ | _ <;> cases h
      rw [if_neg hmem]
      simp only [disk, keys_insert]

/-- The disk of a store whose files lie in directories is a file system. -/
theorem IsTree.disk (h : s.IsTree) : s.disk.IsTree :=
  fun path hpath => h path (Finmap.mem_keys.1 hpath)

/-- **The steps of a commit.** What a commit of a staged file to a render does to the disk is what its
steps do. -/
theorem disk_commitStagedRenderLocked {snapshot : StagedSnapshot} {f : CommitFaults}
    (hpolicy : s.retentionPolicy.isSome)
    (h : s.commitStagedRenderLocked env staged destination snapshot f = (.ok (), s')) :
    s'.disk = (Disk.publishSteps destination).foldl Disk.step s.disk := by
  rw [Disk.foldl_publishSteps rfl]
  unfold commitStagedRenderLocked at h
  split at h
  · cases h
  · rename_i made hmade
    have hmadeDisk : made.disk =
        { s.disk with directories := s.disk.directories ∪ destination.parents.toFinset } := by
      rw [directories_of_ensurePrivateDirectories hmade]
      rfl
    have hmadePolicy : made.retentionPolicy.isSome := by
      rw [directories_of_ensurePrivateDirectories hmade]
      exact hpolicy
    split at h
    · cases h
    · split_ifs at h with hexists
      · unfold consumeExisting at h
        split at h
        · cases h
        · rename_i contents hcontents
          split at h
          · cases h
          split at h
          · cases h
          split at h
          · cases h
          · rename_i ensured hensured
            split at h
            · cases h
            split at h
            · cases h
            cases h
            have hmem : destination ∈ s.disk.files := by
              have hmade : destination ∈ made.disk.files :=
                Finmap.mem_keys.2 (Finmap.mem_iff.2 ⟨contents, hcontents⟩)
              rwa [hmadeDisk] at hmade
            have hfiles : destination ∈ (if destination.key ∈ s.disk.sequenced then s.disk.files
                else insert destination.key.sequenceFile s.disk.files) := by
              split
              · exact hmem
              · exact Finset.mem_insert_of_mem hmem
            rw [Finset.insert_eq_of_mem hfiles]
            change ensured.disk = _
            rw [disk_ensureInsertionSequence hmadePolicy hensured, hmadeDisk]
      · unfold publishNewRender at h
        split at h
        · cases h
        · rename_i ensured hensured
          have hdisk := disk_ensureInsertionSequence hmadePolicy hensured
          rw [hmadeDisk] at hdisk
          split at h
          · cases h
          dsimp only at h
          split at h
          · cases h
          split at h
          · split at h <;> cases h
          cases h
          change Disk.mk ensured.disk.directories
            (((ensured.files.insert destination _).keys : Finset Path)) ensured.disk.sequenced 0 false = _
          rw [keys_insert]
          change { ensured.disk with files := insert destination ensured.disk.files } = _
          rw [hdisk]

end Store

end NplgMcp
