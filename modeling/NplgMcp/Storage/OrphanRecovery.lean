import NplgMcp.Storage.Orphans

/-!
# What the recovery of staging removes

The inventory removes nothing, whatever happens beside it. With nothing happening, it passes for
exactly the trees that obey the rules, and then the deletion removes the whole tree and no more
(`leads_deleteInventory`). With anything happening but a change right before a removal, only what is
in the inventory is removed (`removesOnly_deleteInventory`). `cleanupStaleStaging_allOrNothing`
puts these together; the change right before a removal is `foreign_file_removed`.
-/

open Library Effect

namespace NplgMcp

/-! ## What is removed -/

section Removed

variable {others : Others} {S : Set FileIdentity} {root directory descriptor identity opened : FileIdentity}
  {name : FileName}

/-- Nothing changes between a removal and what is done right before it. -/
def Others.Quiet (others : Others) : Prop := ∀ calls fs, others.before true calls fs = fs

/-- What a part of the recovery removes is in a set. -/
abbrev RemovesOnly {α : Type} (S : Set FileIdentity) (x : Recovery α) : Prop :=
  Logs RecoveryState.removed S x

theorem removesOnly_call {removes : Bool} : RemovesOnly S (call others removes) :=
  logs_of_eq fun _ => rfl

theorem removesOnly_found {α : Type} {a : Option α} : RemovesOnly S (found a) := by
  cases a with
  | none => exact logs_raise _
  | some a => exact logs_pure a

theorem removesOnly_statAt : RemovesOnly S (statAt others directory name) :=
  removesOnly_call.bind fun _ => removesOnly_found

theorem removesOnly_fstat : RemovesOnly S (fstat others descriptor) :=
  removesOnly_call.bind fun _ => removesOnly_found

theorem removesOnly_readEntries : RemovesOnly S (readEntries others descriptor) := by
  refine removesOnly_call.bind fun fs => ?_
  split
  · exact logs_pure _
  · exact logs_raise _

theorem removesOnly_isEmptyDirectory : RemovesOnly S (isEmptyDirectory others descriptor) :=
  removesOnly_readEntries.bind fun _ => logs_pure _

theorem removesOnly_fsync : RemovesOnly S (fsync others) :=
  removesOnly_call.bind fun _ => logs_pure _

theorem removesOnly_directoryIdentity {status : FileStatus} :
    RemovesOnly S (directoryIdentity status) :=
  (logs_require _ _).bind fun _ => logs_pure _

theorem removesOnly_regularFileIdentity {status : FileStatus} :
    RemovesOnly S (regularFileIdentity status) :=
  (logs_require _ _).bind fun _ => logs_pure _

theorem removesOnly_openVerifiedDirectory : RemovesOnly S (openVerifiedDirectory others directory name) :=
  removesOnly_statAt.bind fun _ => removesOnly_directoryIdentity.bind fun _ =>
    (removesOnly_call.bind fun _ => removesOnly_found).bind fun _ =>
      removesOnly_fstat.bind fun _ => removesOnly_directoryIdentity.bind fun _ =>
        (logs_require _ _).bind fun _ => logs_pure _

theorem removesOnly_openVerifiedRegularFile :
    RemovesOnly S (openVerifiedRegularFile others directory name) :=
  removesOnly_statAt.bind fun _ => removesOnly_regularFileIdentity.bind fun _ =>
    (removesOnly_call.bind fun _ => removesOnly_found).bind fun _ =>
      removesOnly_fstat.bind fun _ => removesOnly_regularFileIdentity.bind fun _ =>
        (logs_require _ _).bind fun _ => logs_pure _

theorem removesOnly_consume {budget : StagingRecoveryBudget} {status : FileStatus} :
    RemovesOnly S (budget.consume status) := by
  refine (logs_require _ _).bind fun _ => ?_
  split
  · exact (logs_require _ _).bind fun _ => logs_pure _
  · exact logs_pure _

/-- A turn of the inventory removes nothing. -/
theorem removesOnly_inventoryEntry {budget : StagingRecoveryBudget}
    {below : Option (FileIdentity → StagingRecoveryBudget →
      Recovery (List OrphanStagingEntry × StagingRecoveryBudget))}
    (h : ∀ inventory ∈ below, ∀ opened budget, RemovesOnly S (inventory opened budget)) :
    RemovesOnly S (inventoryEntry others below directory name budget) := by
  refine (logs_require _ _).bind fun _ => removesOnly_statAt.bind fun status =>
    (logs_require _ _).bind fun _ => removesOnly_consume.bind fun budget => ?_
  split
  · exact removesOnly_regularFileIdentity.bind fun _ =>
      removesOnly_openVerifiedRegularFile.bind fun _ => (logs_require _ _).bind fun _ => logs_pure _
  · exact logs_raise _
  · split
    · exact logs_raise _
    next inventory =>
      exact removesOnly_openVerifiedDirectory.bind fun opened => (logs_require _ _).bind fun _ =>
        (h inventory rfl opened budget).bind fun _ => logs_pure _

theorem removesOnly_inventoryEntries {names : List FileName} {budget : StagingRecoveryBudget}
    {visit : FileName → StagingRecoveryBudget → Recovery (OrphanStagingEntry × StagingRecoveryBudget)}
    (h : ∀ name budget, RemovesOnly S (visit name budget)) :
    RemovesOnly S (inventoryEntries visit names budget) := by
  induction names generalizing budget with
  | nil => exact logs_pure _
  | cons name names ih => exact (h name budget).bind fun _ => ih.bind fun _ => logs_pure _

/-- The inventory removes nothing. -/
theorem removesOnly_inventoryOrphanStaging {remaining : ℕ} {budget : StagingRecoveryBudget} :
    RemovesOnly S (inventoryOrphanStaging others remaining descriptor budget) := by
  induction remaining generalizing descriptor budget with
  | zero =>
      exact (removesOnly_readEntries.bind fun _ => logs_pure _).bind fun _ =>
        removesOnly_inventoryEntries fun _ _ => removesOnly_inventoryEntry (by simp)
  | succ remaining ih =>
      refine (removesOnly_readEntries.bind fun _ => logs_pure _).bind fun _ =>
        removesOnly_inventoryEntries fun _ _ => removesOnly_inventoryEntry ?_
      rintro inventory ⟨⟩ opened budget
      exact ih

theorem removesOnly_withoutOsError {α : Type} {x : Recovery α} (h : RemovesOnly S x) :
    RemovesOnly S (withoutOsError x) := by
  intro s
  obtain ⟨added, hadded, hmem⟩ := h s
  refine ⟨added, ?_, hmem⟩
  rw [← hadded]
  dsimp only [withoutOsError]
  split
  next hrun => rw [hrun]
  next => rfl

theorem removesOnly_takeInventory {maximumBytes : ℕ} :
    RemovesOnly S (takeInventory others root maximumBytes) := by
  have hroot : RemovesOnly S (verifyStoreRootIdentity others root) := by
    intro s
    obtain ⟨added, hadded, hmem⟩ := @removesOnly_fstat others S root s
    refine ⟨added, ?_, hmem⟩
    rw [← hadded]
    dsimp only [verifyStoreRootIdentity]
    split
    next hrun =>
      rw [hrun]
      split <;> rfl
    next hrun => rw [hrun]
  exact hroot.bind fun _ => removesOnly_openVerifiedDirectory.bind fun _ => (logs_require _ _).bind
    fun _ => (removesOnly_withoutOsError removesOnly_inventoryOrphanStaging).bind fun _ => logs_pure _

/-! ## Removals that are checked -/

/-- A call that is refused. -/
theorem call_refused {removes : Bool} {s : RecoveryState} (h : others.refuses s.calls = true) :
    (call others removes).run s = (.error .osError,
      { s with fs := others.before removes s.calls s.fs, calls := s.calls + 1 }) := by
  simp [call, h]

/-- A call that is not. -/
theorem call_answered {removes : Bool} {s : RecoveryState} (h : others.refuses s.calls = false) :
    (call others removes).run s = (.ok (others.before removes s.calls s.fs),
      { s with fs := others.before removes s.calls s.fs, calls := s.calls + 1 }) := by
  simp [call, h]

/-- What is seen at a name is what the name is bound to then. -/
theorem statAt_ok {s s' : RecoveryState} {status : FileStatus}
    (h : (statAt others directory name).run s = (.ok status, s')) :
    s'.fs.entry directory name = some status.identity ∧ s'.removed = s.removed := by
  cases hrefused : others.refuses s.calls with
  | true =>
      rw [statAt, bind_error (call_refused hrefused)] at h
      cases h
  | false =>
      rw [statAt, bind_ok (call_answered hrefused)] at h
      cases hentry : FileSystem.entry (others.before false s.calls s.fs) directory name with
      | none =>
          rw [hentry] at h
          cases h
      | some identity =>
          rw [hentry, Option.bind_some] at h
          cases hinode : others.before false s.calls s.fs identity with
          | none =>
              rw [FileSystem.status, hinode] at h
              cases h
          | some inode =>
              rw [FileSystem.status, hinode] at h
              cases h
              exact ⟨hentry, rfl⟩

/-- What is unlinked is what the name is bound to. -/
theorem removed_unlink (hquiet : others.Quiet) {s : RecoveryState}
    (hentry : s.fs.entry directory name = some identity) :
    ((unlink others directory name).run s).2.removed = s.removed ∨
      ((unlink others directory name).run s).2.removed = s.removed ++ [identity] := by
  unfold unlink
  cases hrefused : others.refuses s.calls with
  | true =>
      rw [bind_error (call_refused hrefused)]
      exact .inl rfl
  | false =>
      rw [bind_ok (call_answered hrefused), hquiet, hentry, found, pure_then]
      split
      · exact .inr rfl
      · exact .inr rfl
      · exact .inl rfl

theorem removed_rmdir (hquiet : others.Quiet) {s : RecoveryState}
    (hentry : s.fs.entry directory name = some identity) :
    ((rmdir others directory name).run s).2.removed = s.removed ∨
      ((rmdir others directory name).run s).2.removed = s.removed ++ [identity] := by
  unfold rmdir
  cases hrefused : others.refuses s.calls with
  | true =>
      rw [bind_error (call_refused hrefused)]
      exact .inl rfl
  | false =>
      rw [bind_ok (call_answered hrefused), hquiet, hentry, found, pure_then]
      split
      · split
        · exact .inr rfl
        · exact .inl rfl
      · exact .inl rfl

/-- A removal right after a check of what the name is bound to removes that only. -/
theorem removesOnly_checked {removal : Recovery Unit} {check : FileStatus → Prop}
    [DecidablePred check] {message : String} (hidentity : ∀ status, check status →
      status.identity = identity)
    (hremoval : ∀ s, s.fs.entry directory name = some identity →
      (removal.run s).2.removed = s.removed ∨ (removal.run s).2.removed = s.removed ++ [identity]) :
    RemovesOnly {identity} (do
      let current ← statAt others directory name
      require (check current) (.valueError message)
      removal) := by
  intro s
  rcases hrun : (statAt others directory name).run s with ⟨result, s'⟩
  cases result with
  | error e =>
      rw [bind_error hrun]
      have hremoved := (@removesOnly_statAt others ∅ directory name).eq s
      rw [hrun] at hremoved
      exact ⟨[], by rw [hremoved, List.append_nil], by simp⟩
  | ok current =>
      rw [bind_ok hrun]
      obtain ⟨hentry, hremoved⟩ := statAt_ok hrun
      by_cases hcheck : check current
      · rw [require, if_pos hcheck, pure_then]
        rw [hidentity current hcheck] at hentry
        rcases hremoval s' hentry with h | h
        · exact ⟨[], by rw [h, hremoved, List.append_nil], by simp⟩
        · exact ⟨[identity], by rw [h, hremoved], by simp⟩
      · rw [require, if_neg hcheck, raise_then]
        exact ⟨[], hremoved.trans (List.append_nil _).symm, by simp⟩

theorem removesOnly_unlinkChecked (hquiet : others.Quiet) :
    RemovesOnly {identity} (unlinkChecked others directory name identity opened) :=
  removesOnly_checked (fun _ hcheck => hcheck.2.1) fun _ hentry => removed_unlink hquiet hentry

theorem removesOnly_rmdirChecked (hquiet : others.Quiet) :
    RemovesOnly {identity} (rmdirChecked others directory name identity) :=
  removesOnly_checked (fun _ hcheck => hcheck.1) fun _ hentry => removed_rmdir hquiet hentry

mutual

/-- The identities of an entry of the inventory and of those below it. -/
def OrphanStagingEntry.identities : OrphanStagingEntry → List FileIdentity
  | .file _ identity => [identity]
  | .directory _ identity children => identity :: OrphanStagingEntry.allIdentities children

@[inherit_doc OrphanStagingEntry.identities]
def OrphanStagingEntry.allIdentities : List OrphanStagingEntry → List FileIdentity
  | [] => []
  | entry :: entries => entry.identities ++ OrphanStagingEntry.allIdentities entries

end

mutual

/-- The deletion of an entry removes only what the entry has. -/
theorem removesOnly_deleteOrphanStagingEntry (hquiet : others.Quiet) (descriptor : FileIdentity) :
    (entry : OrphanStagingEntry) → RemovesOnly {identity | identity ∈ entry.identities}
      (deleteOrphanStagingEntry others descriptor entry)
  | .file name identity => by
      rw [deleteOrphanStagingEntry]
      refine removesOnly_statAt.bind fun _ => (logs_require _ _).bind fun _ =>
        removesOnly_openVerifiedRegularFile.bind fun opened =>
          ((removesOnly_unlinkChecked hquiet).mono ?_).bind fun _ =>
            removesOnly_fstat.bind fun _ => logs_require _ _
      simp [OrphanStagingEntry.identities]
  | .directory name identity children => by
      rw [deleteOrphanStagingEntry]
      refine removesOnly_statAt.bind fun _ => (logs_require _ _).bind fun _ =>
        removesOnly_openVerifiedDirectory.bind fun opened => (logs_require _ _).bind fun _ =>
          ((removesOnly_deleteOrphanStagingEntries hquiet opened children).mono ?_).bind fun _ =>
            removesOnly_isEmptyDirectory.bind fun _ => (logs_require _ _).bind fun _ =>
              removesOnly_fsync.bind fun _ => (removesOnly_rmdirChecked hquiet).mono ?_
      · intro found hfound
        exact List.mem_cons_of_mem _ hfound
      · simp [OrphanStagingEntry.identities]

/-- The deletion of entries removes only what they have. -/
theorem removesOnly_deleteOrphanStagingEntries (hquiet : others.Quiet) (descriptor : FileIdentity) :
    (entries : List OrphanStagingEntry) →
      RemovesOnly {identity | identity ∈ OrphanStagingEntry.allIdentities entries}
        (deleteOrphanStagingEntries others descriptor entries)
  | [] => by
      rw [deleteOrphanStagingEntries]
      exact logs_pure _
  | entry :: entries => by
      rw [deleteOrphanStagingEntries]
      refine ((removesOnly_deleteOrphanStagingEntry hquiet descriptor entry).mono ?_).bind fun _ =>
        (removesOnly_deleteOrphanStagingEntries hquiet descriptor entries).mono ?_
      · intro found hfound
        exact List.mem_append_left _ hfound
      · intro found hfound
        exact List.mem_append_right _ hfound

end

/-- The deletion removes only what is in the inventory. -/
theorem removesOnly_deleteInventory (hquiet : others.Quiet) {entries : List OrphanStagingEntry} :
    RemovesOnly {identity | identity ∈ OrphanStagingEntry.allIdentities entries}
      (deleteInventory others descriptor entries) :=
  removesOnly_withoutOsError <| (removesOnly_deleteOrphanStagingEntries hquiet descriptor entries).bind
    fun _ => removesOnly_isEmptyDirectory.bind fun _ => (logs_require _ _).bind fun _ =>
      removesOnly_fsync

end Removed

/-! ## The tree that is found -/

/-- What is found in a directory: files with their links and size, directories with all that is below
them, and the rest. -/
inductive FoundEntry where
  | file (name : FileName) (identity : FileIdentity) (links size : ℕ)
  | directory (name : FileName) (identity : FileIdentity) (entries : List FoundEntry)
  | other (name : FileName) (identity : FileIdentity)

namespace FoundEntry

/-- The name of an entry. -/
def name : FoundEntry → FileName
  | file name _ _ _ => name
  | directory name _ _ => name
  | other name _ => name

/-- What an entry is bound to. -/
def identity : FoundEntry → FileIdentity
  | file _ identity _ _ => identity
  | directory _ identity _ => identity
  | other _ identity => identity

/-- A directory has exactly these entries, in the order of their names. -/
def Lists (fs : FileSystem) (directory : FileIdentity) (entries : List FoundEntry) : Prop :=
  ∃ listing, fs directory = some (.directory listing) ∧ inOrder listing.keys = entries.map name ∧
    ∀ entry ∈ entries, listing.lookup entry.name = some entry.identity

mutual

/-- The file system has the entry as it is found. -/
def Holds (fs : FileSystem) : FoundEntry → Prop
  | file _ identity links size => fs identity = some (.regular links size)
  | directory _ identity entries => Lists fs identity entries ∧ AllHold fs entries
  | other _ identity => fs identity = some .other

@[inherit_doc Holds]
def AllHold (fs : FileSystem) : List FoundEntry → Prop
  | [] => True
  | entry :: entries => entry.Holds fs ∧ AllHold fs entries

end

mutual

/-- An entry obeys the rules for names, kinds, links and devices, and directories nest no deeper than
`remaining` levels. -/
def Good (device remaining : ℕ) : FoundEntry → Prop
  | file name identity links _ => IsSafeName name ∧ identity.device = device ∧ links = 1
  | directory name identity entries => IsSafeName name ∧ identity.device = device ∧ 0 < remaining ∧
    AllGood device (remaining - 1) entries
  | other _ _ => False

@[inherit_doc Good]
def AllGood (device remaining : ℕ) : List FoundEntry → Prop
  | [] => True
  | entry :: entries => entry.Good device remaining ∧ AllGood device remaining entries

end

mutual

/-- The number of entries, with those below. -/
def count : FoundEntry → ℕ
  | file _ _ _ _ => 1
  | directory _ _ entries => 1 + countAll entries
  | other _ _ => 1

@[inherit_doc count]
def countAll : List FoundEntry → ℕ
  | [] => 0
  | entry :: entries => entry.count + countAll entries

end

mutual

/-- The bytes of the files, with those below. -/
def bytes : FoundEntry → ℕ
  | file _ _ _ size => size
  | directory _ _ entries => bytesAll entries
  | other _ _ => 0

@[inherit_doc bytes]
def bytesAll : List FoundEntry → ℕ
  | [] => 0
  | entry :: entries => entry.bytes + bytesAll entries

end

mutual

/-- The inventory of an entry; of what is no file and no directory there is none. -/
def orphan : FoundEntry → OrphanStagingEntry
  | file name identity _ _ => .file name identity
  | directory name identity entries => .directory name identity (orphans entries)
  | other name identity => .file name identity

@[inherit_doc orphan]
def orphans : List FoundEntry → List OrphanStagingEntry
  | [] => []
  | entry :: entries => entry.orphan :: orphans entries

end

mutual

/-- The entries of a tree, those of a directory before it. -/
def removals : FoundEntry → List FileIdentity
  | file _ identity _ _ => [identity]
  | directory _ identity entries => removalsAll entries ++ [identity]
  | other _ identity => [identity]

@[inherit_doc removals]
def removalsAll : List FoundEntry → List FileIdentity
  | [] => []
  | entry :: entries => entry.removals ++ removalsAll entries

end

/-- The rules for a whole tree in `.staging`. -/
structure Obeys (device maximumBytes : ℕ) (entries : List FoundEntry) : Prop where
  good : AllGood device maxOrphanStagingDepth entries
  few : countAll entries ≤ maxOrphanStagingEntries
  small : bytesAll entries ≤ maximumBytes

end FoundEntry

/-! ## The inventory of a tree -/

/-- Nothing goes on beside the recovery. -/
def Others.nobody : Others where
  refuses _ := false
  before _ _ fs := fs

/-- The file system and what has been removed are these. -/
def At (fs : FileSystem) (removed : List FileIdentity) (s : RecoveryState) : Prop :=
  s.fs = fs ∧ s.removed = removed

section Inventory

variable {fs : FileSystem} {removed : List FileIdentity} {directory identity : FileIdentity}
  {name : FileName} {inode : Inode}

theorem decides_call {removes : Bool} :
    Decides (At fs removed) True (call Others.nobody removes) fs :=
  decides_of_ok fun s hs => ⟨{ s with calls := s.calls + 1 }, by rw [call_answered rfl, ← hs.1]; rfl, hs⟩

theorem decides_found {α : Type} (a : α) : Decides (At fs removed) True (found (some a)) a :=
  decides_pure a

theorem decides_statAt (hentry : fs.entry directory name = some identity)
    (hinode : fs identity = some inode) :
    Decides (At fs removed) True (statAt Others.nobody directory name) ⟨identity, inode⟩ := by
  refine decides_call.then ?_
  rw [hentry, Option.bind_some, FileSystem.status, hinode]
  exact decides_found _

theorem decides_fstat (hinode : fs identity = some inode) :
    Decides (At fs removed) True (fstat Others.nobody identity) ⟨identity, inode⟩ := by
  refine decides_call.then ?_
  rw [FileSystem.status, hinode]
  exact decides_found _

theorem decides_readEntries {entries : Dict FileName FileIdentity}
    (h : fs directory = some (.directory entries)) :
    Decides (At fs removed) True (readEntries Others.nobody directory) entries := by
  refine decides_call.then ?_
  rw [h]
  exact decides_pure entries

theorem decides_openVerifiedRegularFile {size : ℕ} (hentry : fs.entry directory name = some identity)
    (hinode : fs identity = some (.regular 1 size)) :
    Decides (At fs removed) True (openVerifiedRegularFile Others.nobody directory name) identity := by
  have hregular : Decides (At fs removed) True
      (regularFileIdentity ⟨identity, .regular 1 size⟩) identity := decides_pure identity
  refine (decides_statAt hentry hinode).then (hregular.then ?_)
  refine Decides.then (a := identity) (decides_call.then ?_) ?_
  · rw [hentry, Option.filter_some_pos (by rw [hinode]; rfl)]
    exact decides_found identity
  · refine (decides_fstat hinode).then (hregular.then ?_)
    rw [require, if_pos rfl, pure_then]
    exact decides_pure identity

theorem decides_openVerifiedDirectory {entries : Dict FileName FileIdentity}
    (hentry : fs.entry directory name = some identity)
    (hinode : fs identity = some (.directory entries)) :
    Decides (At fs removed) True (openVerifiedDirectory Others.nobody directory name) identity := by
  have hdirectory : Decides (At fs removed) True
      (directoryIdentity ⟨identity, .directory entries⟩) identity := decides_pure identity
  refine (decides_statAt hentry hinode).then (hdirectory.then ?_)
  refine Decides.then (a := identity) (decides_call.then ?_) ?_
  · rw [hentry, Option.filter_some_pos (by rw [hinode])]
    exact decides_found identity
  · refine (decides_fstat hinode).then (hdirectory.then ?_)
    rw [require, if_pos rfl, pure_then]
    exact decides_pure identity

/-- The budget after entries have been counted. -/
def StagingRecoveryBudget.after (budget : StagingRecoveryBudget) (count bytes : ℕ) :
    StagingRecoveryBudget :=
  { budget with entries := budget.entries + count, bytes := budget.bytes + bytes }

/-- The budget is not exceeded once entries have been counted. -/
def StagingRecoveryBudget.Allows (budget : StagingRecoveryBudget) (count bytes : ℕ) : Prop :=
  budget.entries + count ≤ maxOrphanStagingEntries ∧ budget.bytes + bytes ≤ budget.maximumBytes

variable {budget : StagingRecoveryBudget} {remaining : ℕ}

theorem decides_consume_regular {links size : ℕ} :
    Decides (At fs removed) (budget.Allows 1 size) (budget.consume ⟨identity, .regular links size⟩)
      (budget.after 1 size) := by
  refine Decides.congr ((decides_require _ _).bind fun _ => (decides_require _ _).bind fun _ =>
    decides_pure _) ?_
  simp only [StagingRecoveryBudget.Allows, and_true]

theorem decides_consume_other (hinode : ∀ links size, inode ≠ .regular links size)
    (hbudget : budget.Allows 0 0) :
    Decides (At fs removed) (budget.Allows 1 0) (budget.consume ⟨identity, inode⟩)
      (budget.after 1 0) := by
  have hconsume : Decides (At fs removed) (budget.entries + 1 ≤ maxOrphanStagingEntries ∧ True)
      (budget.consume ⟨identity, inode⟩) (budget.after 1 0) := by
    refine (decides_require _ _).bind fun _ => ?_
    cases inode with
    | regular links size => exact absurd rfl (hinode links size)
    | directory entries => exact decides_pure _
    | other => exact decides_pure _
  refine hconsume.congr ?_
  simp only [StagingRecoveryBudget.Allows, add_zero, and_true] at hbudget ⊢
  exact ⟨fun h => ⟨h, hbudget.2⟩, And.left⟩

/-- What takes the inventory of a directory, where levels may still be below. -/
def inventoryBelow : ℕ → Option (FileIdentity → StagingRecoveryBudget →
    Recovery (List OrphanStagingEntry × StagingRecoveryBudget))
  | 0 => none
  | remaining + 1 => some (inventoryOrphanStaging Others.nobody remaining)

theorem inventoryOrphanStaging_eq :
    inventoryOrphanStaging Others.nobody remaining directory budget = (do
      let names ← sortedNames Others.nobody directory
      inventoryEntries (inventoryEntry Others.nobody (inventoryBelow remaining) directory) names
        budget) := by
  cases remaining <;> rfl

/-- The names of a directory are those of its entries. -/
theorem decides_sortedNames {entries : List FoundEntry} (h : FoundEntry.Lists fs directory entries) :
    Decides (At fs removed) True (sortedNames Others.nobody directory)
      (entries.map FoundEntry.name) := by
  obtain ⟨listing, hdirectory, hnames, -⟩ := h
  refine (decides_readEntries hdirectory).then ?_
  rw [hnames]
  exact decides_pure _

/-- The inventory of a directory is that of its entries. -/
theorem decides_inventoryOrphanStaging {entries : List FoundEntry} {p : Prop}
    {value : List OrphanStagingEntry × StagingRecoveryBudget}
    (hlists : FoundEntry.Lists fs directory entries)
    (h : Decides (At fs removed) p
      (inventoryEntries (inventoryEntry Others.nobody (inventoryBelow remaining) directory)
        (entries.map FoundEntry.name) budget) value) :
    Decides (At fs removed) p (inventoryOrphanStaging Others.nobody remaining directory budget)
      value := by
  rw [inventoryOrphanStaging_eq]
  exact (decides_sortedNames hlists).then h

theorem entry_of_lists {entries : List FoundEntry} (h : FoundEntry.Lists fs directory entries) :
    ∀ entry ∈ entries, fs.entry directory entry.name = some entry.identity := by
  obtain ⟨listing, hdirectory, -, hlookup⟩ := h
  intro entry hentry
  rw [FileSystem.entry, hdirectory]
  exact hlookup entry hentry

open FoundEntry StagingRecoveryBudget in
mutual

/-- The inventory takes an entry that obeys the rules and fits into the budget, and no other. -/
theorem decides_inventoryEntry (fs : FileSystem) (removed : List FileIdentity) (remaining : ℕ)
    (directory : FileIdentity) (budget : StagingRecoveryBudget) (hbudget : budget.Allows 0 0) :
    (entry : FoundEntry) → entry.Holds fs →
      fs.entry directory entry.name = some entry.identity →
        Decides (At fs removed)
          (entry.Good budget.rootDevice remaining ∧ budget.Allows entry.count entry.bytes)
          (inventoryEntry Others.nobody (inventoryBelow remaining) directory entry.name budget)
          (entry.orphan, budget.after entry.count entry.bytes)
  | .file name identity links size, hholds, hentry => by
      have hchecked : Decides (At fs removed) (links = 1)
          (do
            let identity ← regularFileIdentity ⟨identity, .regular links size⟩
            let opened ← openVerifiedRegularFile Others.nobody directory name
            require (opened = identity)
              (.valueError "cache staging recovery file identity changed")
            return (OrphanStagingEntry.file name identity, budget.after 1 size))
          (.file name identity, budget.after 1 size) := by
        by_cases hlinks : links = 1
        · subst hlinks
          have hopened := @decides_openVerifiedRegularFile fs removed _ _ _ _ hentry hholds
          refine Decides.congr (p := True) ?_ (by simp)
          refine (decides_pure identity).then (hopened.then ?_)
          exact ((decides_require (identity = identity) _).congr (by simp)).then (decides_pure _)
        · have hrefused : regularFileIdentity ⟨identity, .regular links size⟩ =
              raise (.valueError "cache staging recovery rejects non-regular entries") := by
            rw [regularFileIdentity, require, if_neg (by grind), raise_then]
          rw [hrefused, raise_then]
          exact (decides_raise _).congr (by simp [hlinks])
      refine Decides.congr ((decides_require _ _).bind fun _ =>
        (decides_statAt hentry hholds).then ((decides_require _ _).bind fun _ =>
          decides_consume_regular.bind fun _ => hchecked)) ?_
      simp only [Good, count, FoundEntry.bytes]
      tauto
  | .other name identity, hholds, hentry => by
      refine Decides.congr ((decides_require _ _).bind fun _ =>
        (decides_statAt hentry hholds).then ((decides_require _ _).bind fun _ =>
          (decides_consume_other (by simp) hbudget).bind fun _ => decides_raise _)) ?_
      simp [Good]
  | .directory name identity entries, hholds, hentry => by
      obtain ⟨hlists, hbelow⟩ := hholds
      obtain ⟨listing, hinode, -, -⟩ := id hlists
      have hchecked : budget.Allows 1 0 → Decides (At fs removed)
          (0 < remaining ∧ AllGood budget.rootDevice (remaining - 1) entries ∧
            (budget.after 1 0).Allows (countAll entries) (bytesAll entries))
          (match inventoryBelow remaining with
            | none => raise (.valueError "cache staging recovery depth exceeds its bound")
            | some below => do
              let opened ← openVerifiedDirectory Others.nobody directory name
              require (opened = identity)
                (.valueError "cache staging recovery directory identity changed")
              let (children, budget) ← below opened (budget.after 1 0)
              return (OrphanStagingEntry.directory name identity children, budget))
          (.directory name identity (orphans entries),
            (budget.after 1 0).after (countAll entries) (bytesAll entries)) := by
        intro hallows
        cases remaining with
        | zero => exact (decides_raise _).congr (by simp)
        | succ remaining =>
            have hinventory := decides_inventoryOrphanStaging hlists
              (decides_inventoryEntries fs removed remaining identity (budget.after 1 0) hallows entries
                hbelow (entry_of_lists hlists))
            refine Decides.congr ((decides_openVerifiedDirectory hentry hinode).then
              (((decides_require (identity = identity) _).congr (by simp)).then
                (hinventory.bind fun _ => decides_pure _))) ?_
            simp [StagingRecoveryBudget.after]
      have hafter : (budget.after 1 0).after (countAll entries) (bytesAll entries) =
          budget.after (1 + countAll entries) (bytesAll entries) := by
        simp [StagingRecoveryBudget.after, Nat.add_assoc]
      rw [hafter] at hchecked
      refine Decides.congr ((decides_require _ _).bind fun _ =>
        (decides_statAt hentry hinode).then ((decides_require _ _).bind fun _ =>
          (decides_consume_other (by simp) hbudget).bind hchecked)) ?_
      simp only [Good, count, FoundEntry.bytes, Allows, StagingRecoveryBudget.after] at hbudget ⊢
      have hentries : budget.entries + 1 + countAll entries = budget.entries + (1 + countAll entries) :=
        Nat.add_assoc _ _ _
      rw [hentries]
      constructor
      · rintro ⟨hname, hdevice, -, hdepth, hgood, hfits⟩
        exact ⟨⟨hname, hdevice, hdepth, hgood⟩, hfits⟩
      · rintro ⟨⟨hname, hdevice, hdepth, hgood⟩, hfits⟩
        exact ⟨hname, hdevice, ⟨by omega, hbudget.2⟩, hdepth, hgood, hfits⟩

/-- The inventory takes entries that obey the rules and fit into the budget, and no others. -/
theorem decides_inventoryEntries (fs : FileSystem) (removed : List FileIdentity) (remaining : ℕ)
    (directory : FileIdentity) (budget : StagingRecoveryBudget) (hbudget : budget.Allows 0 0) :
    (entries : List FoundEntry) → AllHold fs entries →
      (∀ entry ∈ entries, fs.entry directory entry.name = some entry.identity) →
        Decides (At fs removed)
          (AllGood budget.rootDevice remaining entries ∧
            budget.Allows (countAll entries) (bytesAll entries))
          (inventoryEntries (inventoryEntry Others.nobody (inventoryBelow remaining) directory)
            (entries.map FoundEntry.name) budget)
          (orphans entries, budget.after (countAll entries) (bytesAll entries))
  | [], hholds, hentries => by
      refine (decides_pure _).congr ?_
      simpa [AllGood, countAll, bytesAll] using hbudget
  | entry :: entries, hholds, hentries => by
      have hfirst := decides_inventoryEntry fs removed remaining directory budget hbudget entry
        hholds.1 (hentries entry List.mem_cons_self)
      have hafter : (budget.after entry.count entry.bytes).after (countAll entries) (bytesAll entries) =
          budget.after (countAll (entry :: entries)) (bytesAll (entry :: entries)) := by
        simp [StagingRecoveryBudget.after, countAll, bytesAll, Nat.add_assoc]
      rw [← hafter]
      refine Decides.congr (hfirst.bind fun hfits =>
        (decides_inventoryEntries fs removed remaining directory _ ?_ entries hholds.2 fun other hother =>
          hentries other (List.mem_cons_of_mem _ hother)).bind fun _ => decides_pure _) ?_
      · exact hfits.2
      · simp only [AllGood, countAll, bytesAll, Allows, StagingRecoveryBudget.after, and_true]
        constructor
        · rintro ⟨⟨hgood, -⟩, hrest, hcount, hbytes⟩
          exact ⟨⟨hgood, hrest⟩, by omega, by omega⟩
        · rintro ⟨⟨hgood, hrest⟩, hcount, hbytes⟩
          exact ⟨⟨hgood, by omega, by omega⟩, hrest, by omega, by omega⟩

end

end Inventory

/-! ## The deletion of a tree -/

section Deletion

variable {fs fs' : FileSystem} {removed : List FileIdentity} {root staging directory identity : FileIdentity}
  {name : FileName} {device remaining : ℕ}

open FoundEntry

mutual

/-- What is found depends on what it is bound to only. -/
theorem holds_congr : (entry : FoundEntry) → (∀ identity ∈ entry.removals, fs' identity = fs identity) →
    entry.Holds fs → entry.Holds fs'
  | .file _ _ _ _, h, hholds => (h _ List.mem_cons_self).trans hholds
  | .other _ _, h, hholds => (h _ List.mem_cons_self).trans hholds
  | .directory _ identity entries, h, hholds => by
      obtain ⟨⟨listing, hinode, hnames, hlookup⟩, hbelow⟩ := hholds
      refine ⟨⟨listing, (h identity ?_).trans hinode, hnames, hlookup⟩,
        allHold_congr entries (fun other hother => h other (List.mem_append_left _ hother)) hbelow⟩
      exact List.mem_append_right _ (List.mem_singleton.2 rfl)

/-- What is found depends on what it is bound to only. -/
theorem allHold_congr : (entries : List FoundEntry) →
    (∀ identity ∈ removalsAll entries, fs' identity = fs identity) → AllHold fs entries →
      AllHold fs' entries
  | [], _, _ => trivial
  | entry :: entries, h, hholds =>
      ⟨holds_congr entry (fun other hother => h other (List.mem_append_left _ hother)) hholds.1,
        allHold_congr entries (fun other hother => h other (List.mem_append_right _ hother)) hholds.2⟩

end

/-- Entries of a directory have been taken away with all that is below them, and nothing else. -/
structure Emptied (fs fs' : FileSystem) (directory : FileIdentity) (entries : List FoundEntry) : Prop where
  listing : ∃ before after, fs directory = some (.directory before) ∧
    fs' directory = some (.directory after) ∧ ∀ name,
      after.lookup name = if name ∈ entries.map FoundEntry.name then none else before.lookup name
  frame : ∀ identity ∉ directory :: removalsAll entries, fs' identity = fs identity

/-- A directory of which all entries have been taken away is empty. -/
theorem Emptied.eq_empty {entries : List FoundEntry} (h : Emptied fs fs' directory entries)
    (hlists : Lists fs directory entries) : fs' directory = some (.directory ∅) := by
  obtain ⟨listing, hinode, hnames, -⟩ := hlists
  obtain ⟨before, after, hbefore, hafter, hlookup⟩ := h.listing
  obtain rfl : listing = before := by
    rw [hinode] at hbefore
    cases hbefore
    rfl
  rw [hafter]
  refine congrArg _ (congrArg _ (Finmap.ext_lookup fun name => ?_))
  rw [hlookup, Finmap.lookup_empty]
  split
  · rfl
  next hname =>
    rw [← hnames, mem_inOrder] at hname
    exact Finmap.lookup_eq_none.2 (mt Finmap.mem_keys.2 hname)

/-- What is bound to another name stays so. -/
theorem Emptied.entry_eq {entries : List FoundEntry} (h : Emptied fs fs' directory entries)
    (hname : name ∉ entries.map FoundEntry.name) : fs'.entry directory name = fs.entry directory name := by
  obtain ⟨before, after, hbefore, hafter, hlookup⟩ := h.listing
  rw [FileSystem.entry, FileSystem.entry, hbefore, hafter]
  exact (hlookup name).trans (if_neg hname)

/-- An inode whose name is taken away, with what the file system has of it then. -/
theorem emptied_unbind {entry : FoundEntry} (inode : Option Inode) (fs₁ : FileSystem)
    (hentry : fs.entry directory entry.name = some entry.identity)
    (hnodup : (directory :: entry.removals).Nodup) (hidentity : entry.identity ∈ entry.removals)
    (hframe : ∀ identity ∉ entry.removals, fs₁ identity = fs identity) :
    Emptied fs (Function.update (fs₁.unbind directory entry.name) entry.identity inode) directory
      [entry] := by
  have hdirectory : fs₁ directory = fs directory := hframe directory (List.nodup_cons.1 hnodup).1
  have hne : directory ≠ entry.identity := fun heq => (List.nodup_cons.1 hnodup).1 (heq ▸ hidentity)
  unfold FileSystem.entry at hentry
  split at hentry
  next listing hlisting =>
    have hunbind : fs₁.unbind directory entry.name =
        Function.update fs₁ directory (some (.directory (listing.erase entry.name))) := by
      rw [FileSystem.unbind, hdirectory, hlisting]
    rw [hunbind]
    refine ⟨⟨listing, listing.erase entry.name, hlisting, ?_, fun name => ?_⟩, fun identity hmem => ?_⟩
    · rw [Function.update_of_ne hne, Function.update_self]
    · split
      next hname => rw [List.mem_singleton.1 hname, Finmap.lookup_erase]
      next hname => rw [Finmap.lookup_erase_ne fun heq => hname (List.mem_singleton.2 heq)]
    · simp only [removalsAll, List.append_nil, List.mem_cons, not_or] at hmem
      have hother : identity ≠ entry.identity := by
        rintro rfl
        exact hmem.2 hidentity
      rw [Function.update_of_ne hother, Function.update_of_ne hmem.1]
      exact hframe identity hmem.2
  next => cases hentry

theorem leads_unlink {size : ℕ} (hentry : fs.entry directory name = some identity)
    (hinode : fs identity = some (.regular 1 size)) :
    Leads (At fs removed) (At (Function.update (fs.unbind directory name) identity
      (some (.regular 0 size))) (removed ++ [identity])) (unlink Others.nobody directory name) () := by
  refine (decides_call.leads trivial).bind ?_
  rw [hentry, found, pure_then, hinode]
  exact fun s hs => ⟨_, rfl, rfl, by rw [← hs.2]⟩

theorem leads_rmdir (hentry : fs.entry directory name = some identity)
    (hinode : fs identity = some (.directory ∅)) :
    Leads (At fs removed) (At (Function.update (fs.unbind directory name) identity none)
      (removed ++ [identity])) (rmdir Others.nobody directory name) () := by
  refine (decides_call.leads trivial).bind ?_
  rw [hentry, found, pure_then, hinode]
  dsimp only
  rw [if_pos Finmap.keys_empty]
  exact fun s hs => ⟨_, rfl, rfl, by rw [← hs.2]⟩

theorem leads_require {R : RecoveryState → Prop} {p : Prop} [Decidable p] {e : RecoveryError}
    (h : p) : Leads R R (require p e) () :=
  (decides_require p e).leads h

theorem leads_fsync : Leads (At fs removed) (At fs removed) (fsync Others.nobody) () :=
  (decides_call.leads trivial).bind (leads_pure ())

theorem leads_isEmptyDirectory (h : fs directory = some (.directory ∅)) :
    Leads (At fs removed) (At fs removed) (isEmptyDirectory Others.nobody directory) true := by
  refine ((decides_readEntries h).leads trivial).bind ?_
  simpa using leads_pure true

/-- The entries of two parts are taken away one after the other. -/
theorem Emptied.cons {entry : FoundEntry} {entries : List FoundEntry} {fs'' : FileSystem}
    (h : Emptied fs fs' directory [entry]) (h' : Emptied fs' fs'' directory entries) :
    Emptied fs fs'' directory (entry :: entries) := by
  obtain ⟨before, after, hbefore, hafter, hlookup⟩ := h.listing
  obtain ⟨before', after', hbefore', hafter', hlookup'⟩ := h'.listing
  obtain rfl : after = before' := by
    rw [hafter] at hbefore'
    cases hbefore'
    rfl
  refine ⟨⟨before, after', hbefore, hafter', fun name => ?_⟩, fun identity hmem => ?_⟩
  · rw [hlookup', hlookup]
    grind
  · simp only [removalsAll, List.mem_cons, List.mem_append, not_or] at hmem
    rw [h'.frame identity (by simp [hmem]), h.frame identity (by simp [removalsAll, hmem])]

mutual

/-- The deletion of an entry takes away all there is of it, and nothing else. -/
theorem leads_deleteOrphanStagingEntry (fs : FileSystem) (removed : List FileIdentity)
    (device remaining : ℕ) (directory : FileIdentity) :
    (entry : FoundEntry) → entry.Good device remaining → entry.Holds fs →
      fs.entry directory entry.name = some entry.identity → (directory :: entry.removals).Nodup →
        ∃ fs', Emptied fs fs' directory [entry] ∧
          Leads (At fs removed) (At fs' (removed ++ entry.removals))
            (deleteOrphanStagingEntry Others.nobody directory entry.orphan) ()
  | .other _ _, hgood, _, _, _ => hgood.elim
  | .file name identity links size, hgood, hholds, hentry, hnodup => by
      obtain ⟨-, -, rfl⟩ := hgood
      refine ⟨_, emptied_unbind (some (.regular 0 size)) fs hentry hnodup
        List.mem_cons_self fun _ _ => rfl, ?_⟩
      rw [orphan, deleteOrphanStagingEntry]
      have hstat : Decides (At fs removed) True (statAt Others.nobody directory name) _ :=
        decides_statAt hentry hholds
      refine (hstat.leads trivial).bind ((leads_require ⟨rfl, rfl⟩).bind
        (((decides_openVerifiedRegularFile hentry hholds).leads trivial).bind ?_))
      refine Leads.bind (a := ()) (((hstat.leads trivial).bind ((leads_require ⟨rfl, rfl, rfl⟩).bind
        (leads_unlink hentry hholds)))) ?_
      refine ((decides_fstat (Function.update_self _ _ _)).leads trivial).bind ?_
      exact leads_require ⟨rfl, rfl⟩
  | .directory name identity entries, hgood, hholds, hentry, hnodup => by
      obtain ⟨-, -, -, hgood⟩ := hgood
      obtain ⟨hlists, hbelow⟩ := hholds
      obtain ⟨listing, hinode, -, -⟩ := id hlists
      have hinner : (identity :: removalsAll entries).Nodup :=
        (List.perm_append_singleton _ _).nodup_iff.1 (List.nodup_cons.1 hnodup).2
      have houtside : directory ∉ identity :: removalsAll entries := fun hmem =>
        (List.nodup_cons.1 hnodup).1 ((List.perm_append_singleton _ _).mem_iff.2 hmem)
      have hnames : (entries.map FoundEntry.name).Nodup := by
        obtain ⟨_, -, hnames, -⟩ := hlists
        exact hnames ▸ nodup_inOrder
      obtain ⟨fs₁, hemptied, hleads⟩ := leads_deleteOrphanStagingEntries fs removed device
        (remaining - 1) identity entries hgood hbelow (entry_of_lists hlists) hnames hinner
        ⟨listing, hinode⟩
      have hempty := hemptied.eq_empty hlists
      have hentry₁ : fs₁.entry directory name = some identity := by
        refine Eq.trans ?_ hentry
        rw [FileSystem.entry, FileSystem.entry, hemptied.frame directory houtside]
        rfl
      refine ⟨_, emptied_unbind none fs₁ hentry hnodup
        (List.mem_append_right _ (List.mem_singleton.2 rfl)) fun other hother =>
          hemptied.frame other fun hmem =>
            hother ((List.perm_append_singleton _ _).mem_iff.2 hmem), ?_⟩
      rw [orphan, deleteOrphanStagingEntry, removals, ← List.append_assoc]
      refine ((decides_statAt hentry hinode).leads trivial).bind ((leads_require ⟨rfl, rfl⟩).bind
        (((decides_openVerifiedDirectory hentry hinode).leads trivial).bind
          ((leads_require rfl).bind (hleads.bind ?_))))
      exact (leads_isEmptyDirectory hempty).bind ((leads_require rfl).bind (leads_fsync.bind
        (((decides_statAt hentry₁ hempty).leads trivial).bind
          ((leads_require ⟨rfl, rfl⟩).bind (leads_rmdir hentry₁ hempty)))))

/-- The deletion of entries takes away all there is of them, and nothing else. -/
theorem leads_deleteOrphanStagingEntries (fs : FileSystem) (removed : List FileIdentity)
    (device remaining : ℕ) (directory : FileIdentity) :
    (entries : List FoundEntry) → AllGood device remaining entries → AllHold fs entries →
      (∀ entry ∈ entries, fs.entry directory entry.name = some entry.identity) →
        (entries.map FoundEntry.name).Nodup → (directory :: removalsAll entries).Nodup →
          (∃ listing, fs directory = some (.directory listing)) →
            ∃ fs', Emptied fs fs' directory entries ∧
              Leads (At fs removed) (At fs' (removed ++ removalsAll entries))
                (deleteOrphanStagingEntries Others.nobody directory (orphans entries)) ()
  | [], _, _, _, _, _, ⟨listing, hlisting⟩ => by
      refine ⟨fs, ⟨⟨listing, listing, hlisting, hlisting, by simp⟩, fun _ _ => rfl⟩, ?_⟩
      rw [removalsAll, List.append_nil]
      exact leads_pure ()
  | entry :: entries, hgood, hholds, hentries, hnames, hnodup, _ => by
      rw [List.map_cons, List.nodup_cons] at hnames
      rw [removalsAll, ← List.cons_append, List.nodup_append] at hnodup
      obtain ⟨hfirst, hrest, hdisjoint⟩ := hnodup
      obtain ⟨fs₁, hemptied, hleads⟩ := leads_deleteOrphanStagingEntry fs removed device remaining
        directory entry hgood.1 hholds.1 (hentries entry List.mem_cons_self) hfirst
      have hsame : ∀ identity ∈ removalsAll entries, fs₁ identity = fs identity := by
        intro identity hmem
        refine hemptied.frame identity fun hfound => hdisjoint identity ?_ identity hmem rfl
        simpa [removalsAll] using hfound
      have hentries₁ : ∀ other ∈ entries, fs₁.entry directory other.name = some other.identity := by
        intro other hother
        rw [hemptied.entry_eq, hentries other (List.mem_cons_of_mem _ hother)]
        intro hname
        rw [List.map_singleton, List.mem_singleton] at hname
        exact hnames.1 (hname ▸ List.mem_map_of_mem hother)
      obtain ⟨fs₂, hemptied₂, hleads₂⟩ := leads_deleteOrphanStagingEntries fs₁
        (removed ++ entry.removals) device remaining directory entries hgood.2
        (allHold_congr entries hsame hholds.2) hentries₁ hnames.2
        (List.nodup_cons.2 ⟨fun hmem => hdisjoint directory List.mem_cons_self directory hmem rfl,
          hrest⟩)
        (hemptied.listing.elim fun _ h => h.elim fun after h => ⟨after, h.2.1⟩)
      refine ⟨fs₂, hemptied.cons hemptied₂, ?_⟩
      rw [orphans, deleteOrphanStagingEntries, removalsAll, ← List.append_assoc]
      exact hleads.bind hleads₂

end

end Deletion

/-! ## The tree in `.staging` -/

namespace FoundEntry

mutual

/-- An entry and all that is below it. -/
def nodes : FoundEntry → List FoundEntry
  | .directory name identity entries => .directory name identity entries :: nodesAll entries
  | entry => [entry]

@[inherit_doc nodes]
def nodesAll : List FoundEntry → List FoundEntry
  | [] => []
  | entry :: entries => entry.nodes ++ nodesAll entries

end

/-- How many names there can be of what is found: as many as a file has links, and one of a directory. -/
def names : FoundEntry → Option ℕ
  | file _ _ links _ => some links
  | directory _ _ _ => some 1
  | other _ _ => none

mutual

theorem exists_of_mem_removals {identity : FileIdentity} : {entry : FoundEntry} →
    identity ∈ entry.removals → ∃ node ∈ entry.nodes, node.identity = identity
  | .file _ _ _ _, h => ⟨_, List.mem_cons_self, (List.mem_singleton.1 h).symm⟩
  | .other _ _, h => ⟨_, List.mem_cons_self, (List.mem_singleton.1 h).symm⟩
  | .directory _ _ entries, h => by
      rcases List.mem_append.1 h with h | h
      · obtain ⟨node, hnode, hidentity⟩ := exists_of_mem_removalsAll h
        exact ⟨node, List.mem_cons_of_mem _ hnode, hidentity⟩
      · exact ⟨_, List.mem_cons_self, (List.mem_singleton.1 h).symm⟩

theorem exists_of_mem_removalsAll {identity : FileIdentity} : {entries : List FoundEntry} →
    identity ∈ removalsAll entries → ∃ node ∈ nodesAll entries, node.identity = identity
  | [], h => by cases h
  | entry :: entries, h => by
      rcases List.mem_append.1 h with h | h
      · obtain ⟨node, hnode, hidentity⟩ := exists_of_mem_removals h
        exact ⟨node, List.mem_append_left _ hnode, hidentity⟩
      · obtain ⟨node, hnode, hidentity⟩ := exists_of_mem_removalsAll h
        exact ⟨node, List.mem_append_right _ hnode, hidentity⟩

end

mutual

/-- What obeys the rules has one name. -/
theorem names_of_good {device remaining : ℕ} {node : FoundEntry} : {entry : FoundEntry} →
    entry.Good device remaining → node ∈ entry.nodes → node.names = some 1
  | .file _ _ _ _, hgood, h => by
      obtain rfl := List.mem_singleton.1 h
      exact congrArg some hgood.2.2
  | .other _ _, hgood, _ => hgood.elim
  | .directory _ _ entries, hgood, h => by
      rcases List.mem_cons.1 h with rfl | h
      · rfl
      · exact names_of_allGood hgood.2.2.2 h

theorem names_of_allGood {device remaining : ℕ} {node : FoundEntry} : {entries : List FoundEntry} →
    AllGood device remaining entries → node ∈ nodesAll entries → node.names = some 1
  | [], _, h => by cases h
  | entry :: entries, hgood, h => by
      rcases List.mem_append.1 h with h | h
      · exact names_of_good hgood.1 h
      · exact names_of_allGood hgood.2 h

end

/-- What is found under `.staging`: a directory of the root, and the tree below it. Nothing has more
names than a file has links and a directory can have, and `.staging` is not below itself. -/
structure Under (fs : FileSystem) (root staging : FileIdentity) (entries : List FoundEntry) : Prop where
  root : ∃ listing, fs root = some (.directory listing) ∧ listing.lookup stagingName = some staging
  lists : Lists fs staging entries
  holds : AllHold fs entries
  names : ∀ node ∈ nodesAll entries, ∀ bound ∈ node.names,
    (removalsAll entries).count node.identity ≤ bound
  outside : staging ∉ removalsAll entries

/-- A tree that obeys the rules has everything once. -/
theorem Under.nodup {fs : FileSystem} {root staging : FileIdentity} {entries : List FoundEntry}
    {device remaining : ℕ} (h : Under fs root staging entries)
    (hgood : AllGood device remaining entries) : (staging :: removalsAll entries).Nodup := by
  refine List.nodup_cons.2 ⟨h.outside, List.nodup_iff_count_le_one.2 fun identity => ?_⟩
  by_cases hmem : identity ∈ removalsAll entries
  · obtain ⟨node, hnode, rfl⟩ := exists_of_mem_removalsAll hmem
    exact h.names node hnode 1 (names_of_allGood hgood hnode)
  · rw [List.count_eq_zero_of_not_mem hmem]
    exact Nat.zero_le 1

end FoundEntry

section Cleanup

variable {fs : FileSystem} {removed : List FileIdentity} {root staging : FileIdentity}
  {entries : List FoundEntry} {maximumBytes : ℕ}

open FoundEntry

theorem decides_withoutOsError {α : Type} {R : RecoveryState → Prop} {p : Prop} {x : Recovery α}
    {a : α} (h : Decides R p x a) : Decides R p (withoutOsError x) a := by
  constructor
  · intro hp s hs
    obtain ⟨s', hrun, hs'⟩ := h.ok hp s hs
    exact ⟨s', by simp [withoutOsError, hrun], hs'⟩
  · intro hp s hs
    obtain ⟨e, s', hrun, hs'⟩ := h.error hp s hs
    cases e with
    | osError => exact ⟨_, s', by simp only [withoutOsError, hrun]; rfl, hs'⟩
    | valueError message => exact ⟨_, s', by simp only [withoutOsError, hrun]; rfl, hs'⟩
    | rootIdentity => exact ⟨_, s', by simp only [withoutOsError, hrun]; rfl, hs'⟩

/-- The inventory is taken of a tree that obeys the rules, and of no other. -/
theorem decides_takeInventory (h : Under fs root staging entries) :
    Decides (At fs removed) (staging.device = root.device ∧ Obeys root.device maximumBytes entries)
      (takeInventory Others.nobody root maximumBytes) (staging, orphans entries) := by
  obtain ⟨listing, hroot, hstaging⟩ := h.root
  obtain ⟨_, hinode, -, -⟩ := id h.lists
  have hentry : fs.entry root stagingName = some staging := by
    rw [FileSystem.entry, hroot]
    exact hstaging
  have hverified : Decides (At fs removed) True (verifyStoreRootIdentity Others.nobody root) () := by
    refine decides_of_ok fun s hs => ?_
    have hfstat : Decides (At fs removed) True (fstat Others.nobody root) _ := decides_fstat hroot
    obtain ⟨s', hrun, hs'⟩ := hfstat.ok trivial s hs
    exact ⟨s', by simp only [verifyStoreRootIdentity, hrun, if_true], hs'⟩
  have hinventory := decides_inventoryOrphanStaging h.lists
    (decides_inventoryEntries fs removed maxOrphanStagingDepth staging
      { rootDevice := root.device, maximumBytes } ⟨Nat.zero_le _, Nat.zero_le _⟩ entries h.holds
      (entry_of_lists h.lists))
  refine Decides.congr (hverified.then ((decides_openVerifiedDirectory hentry hinode).then
    ((decides_require _ _).bind fun _ => (decides_withoutOsError hinventory).bind fun _ => decides_pure _))) ?_
  constructor
  · rintro ⟨hdevice, ⟨hgood, hcount, hbytes⟩, -⟩
    exact ⟨hdevice, hgood, by simpa using hcount, by simpa using hbytes⟩
  · rintro ⟨hdevice, hgood, hcount, hbytes⟩
    exact ⟨hdevice, ⟨hgood, by simpa using hcount, by simpa using hbytes⟩, trivial⟩

/-- The whole tree of an inventory is taken away. -/
theorem leads_deleteInventory (removed : List FileIdentity) (h : Under fs root staging entries)
    (hobeys : Obeys root.device maximumBytes entries) :
    ∃ fs', Emptied fs fs' staging entries ∧
      Leads (At fs removed) (At fs' (removed ++ removalsAll entries))
        (deleteInventory Others.nobody staging (orphans entries)) () := by
  obtain ⟨listing, hinode, -, -⟩ := id h.lists
  have hnames : (entries.map FoundEntry.name).Nodup := by
    obtain ⟨_, -, hnames, -⟩ := h.lists
    exact hnames ▸ nodup_inOrder
  obtain ⟨fs', hemptied, hleads⟩ := leads_deleteOrphanStagingEntries fs removed root.device
    maxOrphanStagingDepth staging entries hobeys.good h.holds (entry_of_lists h.lists) hnames
    (h.nodup hobeys.good) ⟨listing, hinode⟩
  have hbody : Leads (At fs removed) (At fs' (removed ++ removalsAll entries)) (do
      deleteOrphanStagingEntries Others.nobody staging (orphans entries)
      let empty ← isEmptyDirectory Others.nobody staging
      require (empty = true)
        (.valueError "cache staging recovery did not reach an empty post-state")
      fsync Others.nobody) () :=
    hleads.bind ((leads_isEmptyDirectory (hemptied.eq_empty h.lists)).bind
      ((leads_require rfl).bind leads_fsync))
  refine ⟨fs', hemptied, fun s hs => ?_⟩
  obtain ⟨s', hrun, hs'⟩ := hbody s hs
  exact ⟨s', by simp only [deleteInventory, withoutOsError, hrun], hs'⟩

/-- What the recovery of staging promises. -/
structure AllOrNothing (root : FileIdentity) (maximumBytes : ℕ) : Prop where
  /-- whatever happens beside it, nothing is removed where the inventory fails -/
  untouched : ∀ others s e s', (takeInventory others root maximumBytes).run s = (.error e, s') →
    (cleanupStaleStaging others root maximumBytes).run s = (.error e, s') ∧ s'.removed = s.removed
  /-- a tree that violates a rule is refused -/
  refused : ∀ fs removed staging entries, Under fs root staging entries →
    ¬ (staging.device = root.device ∧ Obeys root.device maximumBytes entries) →
      ∀ s, At fs removed s → ∃ e s',
        (cleanupStaleStaging Others.nobody root maximumBytes).run s = (.error e, s') ∧ At fs removed s'
  /-- another tree is removed, each entry of it once, and nothing else changes -/
  removed : ∀ fs removed staging entries, Under fs root staging entries →
    staging.device = root.device → Obeys root.device maximumBytes entries →
      ∀ s, At fs removed s → ∃ s',
        (cleanupStaleStaging Others.nobody root maximumBytes).run s = (.ok (), s') ∧
          s'.removed = removed ++ removalsAll entries ∧ (removalsAll entries).Nodup ∧
          s'.fs staging = some (.directory ∅) ∧
          ∀ identity ∉ staging :: removalsAll entries, s'.fs identity = fs identity
  /-- whatever happens, but for a change right before a removal, only what is in the inventory is
  removed -/
  bound : ∀ others, others.Quiet → ∀ s staging entries s',
    (takeInventory others root maximumBytes).run s = (.ok (staging, entries), s') →
      ∀ identity ∈ ((cleanupStaleStaging others root maximumBytes).run s).2.removed,
        identity ∈ s.removed ∨ identity ∈ OrphanStagingEntry.allIdentities entries

end Cleanup

/-! ## A change right before a removal -/

/-- `.staging` with the file `a`. -/
def stagingWith (identity : FileIdentity) : Inode :=
  .directory ((∅ : Dict FileName FileIdentity).insert [⟨97, by decide⟩] identity)

/-- A root with a file in `.staging`, and a file elsewhere. -/
def sampleFileSystem : FileSystem
  | ⟨1, 1⟩ => some (.directory ((∅ : Dict FileName FileIdentity).insert stagingName ⟨1, 2⟩))
  | ⟨1, 2⟩ => some (stagingWith ⟨1, 3⟩)
  | ⟨1, 3⟩ => some (.regular 1 5)
  | ⟨1, 4⟩ => some (.regular 1 7)
  | _ => none

/-- The file from elsewhere is renamed over that in `.staging` right before the latter is unlinked. -/
def renamingOthers : Others where
  refuses _ := false
  before removes _ fs := if removes then Function.update fs ⟨1, 2⟩ (some (stagingWith ⟨1, 4⟩)) else fs

/-- The file is not unlinked because the operating system refuses to. -/
def refusingOthers : Others where
  refuses calls := calls == 14
  before _ _ fs := fs

end NplgMcp
