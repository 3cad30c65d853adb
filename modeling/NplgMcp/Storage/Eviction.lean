import NplgMcp.Library.Eviction
import NplgMcp.Storage.Exclusion
import NplgMcp.Storage.Inventory

/-!
# What a prune evicts

`_prune_unleased` is the loop of `Library.evict` over the inventory in insertion order: what is older
than the cutoff must go, what is not leased may go, and the pressure is that of the two budgets and
of the two headrooms of one sample. `Evicted` says what it leaves on the disk, and the inventory after
a prune is compared with the one before it.
-/

open Library

namespace NplgMcp

namespace Store

variable {s s' : Store} {policy : RetentionPolicy} {capacity : StorageCapacity} {cutoffNs : ℤ}
  {clockTrusted : Bool} {sample : PruneSample} {listing : Listing}
  {candidates objects : List StoredObject} {freed : ℕ × ℕ}

/-! ## The loop -/

/-- `expired`. -/
def isExpired (clockTrusted : Bool) (cutoffNs : ℤ) (object : StoredObject) : Bool :=
  clockTrusted && object.modifiedNs < cutoffNs

/-- What no reader and no transaction holds. -/
def mayEvict (s : Store) (object : StoredObject) : Bool := !s.isLeased object.key

/-- What the loop evicts if every deletion comes to its end. -/
def evictions (s : Store) (policy : RetentionPolicy) (capacity : StorageCapacity) (cutoffNs : ℤ)
    (clockTrusted : Bool) (candidates objects : List StoredObject) : List StoredObject :=
  evict (isExpired clockTrusted cutoffNs) s.mayEvict (prunePressure · policy capacity) candidates
    objects

/-- The store without an object. -/
def evictObject (s : Store) (object : StoredObject) : Store :=
  (s.removeStoragePath object.key.root .complete).2.forgetSequence object.key

/-- The store without the objects. -/
def evictObjects (s : Store) (evicted : List StoredObject) : Store := evicted.foldl evictObject s

theorem withoutDisk_evictObject {object : StoredObject} :
    (s.evictObject object).withoutDisk = s.withoutDisk :=
  withoutDisk_forgetSequence.trans withoutDisk_removeStoragePath

theorem withoutDisk_evictObjects {evicted : List StoredObject} :
    (s.evictObjects evicted).withoutDisk = s.withoutDisk := by
  induction evicted generalizing s with
  | nil => rfl
  | cons object rest ih => exact ih.trans withoutDisk_evictObject

theorem isLeased_of_withoutDisk (h : s'.withoutDisk = s.withoutDisk) : s'.isLeased = s.isLeased :=
  funext fun _ => isLeased_of_authority (authority_of_withoutDisk h)

theorem mayEvict_of_withoutDisk (h : s'.withoutDisk = s.withoutDisk) : s'.mayEvict = s.mayEvict := by
  funext object
  simp only [mayEvict, isLeased_of_withoutDisk h]

/-- Fewer objects are under no more pressure. -/
theorem monotonePressure_prunePressure : MonotonePressure (prunePressure · policy capacity) := by
  intro short long hsublist hshort
  have hbytes := (hsublist.map (·.size)).sum_le_sum fun _ _ => Nat.zero_le _
  have hlength := hsublist.length_le
  simp only [prunePressure, Bool.or_eq_true, decide_eq_true_eq] at hshort ⊢
  omega

theorem removeStoragePath_complete {path : Path} :
    s.removeStoragePath path .complete = (.ok (), (s.removeStoragePath path .complete).2) := by
  unfold removeStoragePath
  split <;> rfl

theorem removeStoragePath_interrupted {path : Path} {kept : Finset Path} :
    s.removeStoragePath path (.interrupted kept) =
      (.error .os, (s.removeStoragePath path (.interrupted kept)).2) := by
  unfold removeStoragePath
  split <;> rfl

/-- **What the loop does.** It evicts what `evictions` lists and returns what that frees, or it
raises after a first part of the list, in the middle of the next deletion or after it. -/
theorem pruneUnleased_result :
    pruneUnleased policy capacity cutoffNs clockTrusted sample s candidates objects freed =
        (.ok (freed.1 + ((s.evictions policy capacity cutoffNs clockTrusted candidates objects).map
            (·.size)).sum,
          freed.2 + (s.evictions policy capacity cutoffNs clockTrusted candidates objects).length),
        s.evictObjects (s.evictions policy capacity cutoffNs clockTrusted candidates objects)) ∨
      ∃ front object back error,
        s.evictions policy capacity cutoffNs clockTrusted candidates objects =
          front ++ object :: back ∧
        (pruneUnleased policy capacity cutoffNs clockTrusted sample s candidates objects freed).1 =
          .error error ∧
        ((∃ kept, sample.removal object.key = .interrupted kept ∧
            (pruneUnleased policy capacity cutoffNs clockTrusted sample s candidates objects
              freed).2 =
              ((s.evictObjects front).removeStoragePath object.key.root (.interrupted kept)).2) ∨
          sample.sync object.key = false ∧
            (pruneUnleased policy capacity cutoffNs clockTrusted sample s candidates objects
              freed).2 = s.evictObjects (front ++ [object])) := by
  induction candidates generalizing s objects freed with
  | nil => exact .inl rfl
  | cons candidate rest ih =>
      have hskip (hstays : ¬ ((isExpired clockTrusted cutoffNs candidate ||
          prunePressure objects policy capacity) && s.mayEvict candidate) = true) :
          s.evictions policy capacity cutoffNs clockTrusted (candidate :: rest) objects =
            s.evictions policy capacity cutoffNs clockTrusted rest objects := by
        rw [evictions, evict, if_neg hstays]
        rfl
      unfold pruneUnleased
      dsimp only
      split
      · rename_i hneither
        rw [← Bool.not_or, Bool.not_eq_true'] at hneither
        have hstays : (isExpired clockTrusted cutoffNs candidate ||
            prunePressure objects policy capacity) = false := hneither
        rw [hskip (by rw [hstays]; simp)]
        exact ih
      · split
        · rename_i hleased
          rw [hskip (by simp [mayEvict, hleased])]
          exact ih
        · rename_i hneeded hfree
          have hgoes : s.evictions policy capacity cutoffNs clockTrusted (candidate :: rest)
              objects = candidate :: (s.evictObject candidate).evictions policy capacity cutoffNs
                clockTrusted rest (objects.erase candidate) := by
            rw [← Bool.not_or, Bool.not_eq_true', Bool.not_eq_false] at hneeded
            have hmust : (isExpired clockTrusted cutoffNs candidate ||
                prunePressure objects policy capacity) = true := hneeded
            rw [evictions, evict, if_pos (by rw [hmust]; simpa [mayEvict] using hfree), evictions,
              mayEvict_of_withoutDisk withoutDisk_evictObject]
          rw [hgoes]
          cases hremoval : sample.removal candidate.key with
          | interrupted kept =>
              rw [removeStoragePath_interrupted]
              exact .inr ⟨[], candidate, _, .os, rfl, rfl, .inl ⟨kept, hremoval, rfl⟩⟩
          | complete =>
              rw [removeStoragePath_complete]
              dsimp only
              split
              · rename_i hsync
                exact .inr ⟨[], candidate, _, .os, rfl, rfl, .inr ⟨by simpa using hsync, rfl⟩⟩
              · rcases @ih (s.evictObject candidate) (objects.erase candidate)
                  (freed.1 + candidate.size, freed.2 + 1) with
                  hok | ⟨front, object, back, error, hlist, herror, hstate⟩
                · refine .inl (hok.trans ?_)
                  rw [List.map_cons, List.sum_cons, List.length_cons, add_assoc, add_assoc,
                    add_comm 1]
                  rfl
                · refine .inr ⟨candidate :: front, object, back, error, ?_, herror, hstate⟩
                  rw [hlist]
                  rfl

/-! ## The disk after it -/

/-- The disk without the objects of the keys. -/
structure Evicted (keys : List ObjectKey) (s s' : Store) : Prop where
  directories : ∀ path, path ∈ s'.directories ↔ path ∈ s.directories ∧ path.key ∉ keys
  files : ∀ path, s'.files.lookup path = if path.key ∈ keys then none else s.files.lookup path
  sequences : ∀ key, key ∉ keys → s'.sequences.lookup key = s.sequences.lookup key

theorem keeps_complete_root {key : ObjectKey} {path : Path} :
    Removal.Keeps .complete key.root path ↔ path.key ≠ key := by
  simp [Removal.Keeps, Path.Within, ObjectKey.root]

theorem evicted_evictObject {object : StoredObject} (h : object.key.root ∈ s.directories) :
    Evicted [object.key] s (s.evictObject object) where
  directories path := by
    rw [evictObject, directories_forgetSequence, removeStoragePath, if_pos h]
    simp [rmtree, keeps_complete_root]
  files path := by
    rw [evictObject, files_forgetSequence, removeStoragePath, if_pos h]
    simp only [rmtree, Dict.lookup_restrict, keeps_complete_root, List.mem_singleton, ne_eq]
    split_ifs <;> rfl
  sequences key hkey := by
    have hremoved : (s.removeStoragePath object.key.root .complete).2.sequences = s.sequences := by
      unfold removeStoragePath
      split <;> rfl
    rw [evictObject, forgetSequence]
    split
    · rw [hremoved]
    · rw [Finmap.lookup_erase_ne (by simpa using hkey), hremoved]

/-- Objects that are there are evicted one after the other. -/
theorem evicted_evictObjects {evicted : List StoredObject}
    (hroots : ∀ object ∈ evicted, object.key.root ∈ s.directories)
    (hnodup : (evicted.map (·.key)).Nodup) :
    Evicted (evicted.map (·.key)) s (s.evictObjects evicted) := by
  induction evicted generalizing s with
  | nil => exact ⟨by simp [evictObjects], by simp [evictObjects], by simp [evictObjects]⟩
  | cons object rest ih =>
      obtain ⟨hnew, hrest⟩ := List.nodup_cons.1 hnodup
      have hfirst := evicted_evictObject (hroots object List.mem_cons_self)
      have hroots' : ∀ other ∈ rest, other.key.root ∈ (s.evictObject object).directories := by
        intro other hother
        refine (hfirst.directories _).2 ⟨hroots other (List.mem_cons_of_mem object hother), ?_⟩
        intro hkey
        obtain hkey : other.key = object.key := List.mem_singleton.1 hkey
        exact hnew (List.mem_map.2 ⟨other, hother, hkey⟩)
      have hothers := ih hroots' hrest
      refine ⟨fun path => ?_, fun path => ?_, fun key hkey => ?_⟩
      · refine (hothers.directories path).trans ?_
        rw [hfirst.directories]
        simp [and_assoc]
      · refine (hothers.files path).trans ?_
        rw [hfirst.files]
        by_cases hobject : path.key = object.key
        · simp [hobject]
        · simp [hobject]
      · obtain ⟨hne, hkey⟩ := not_or.1 (mt List.mem_cons.2 hkey)
        exact (hothers.sequences key hkey).trans (hfirst.sequences key (by simpa using hne))

/-! ## The inventory -/

/-- The size of an object. -/
def objectSize (s : Store) (key : ObjectKey) : ℕ :=
  Dict.total (fun path contents => if path.key = key then path.weight contents else 0) s.files

theorem describeObject_ok {key : ObjectKey} {object : StoredObject}
    (h : s.describeObject listing key = .ok object) :
    object.key = key ∧ key.root ∉ s.files ∧ object.size = s.objectSize key ∧
      s.sequences.lookup key = some object.insertionSequence := by
  unfold describeObject at h
  split at h
  · cases h
  · rename_i hreadable
    split at h
    · cases h
    · rename_i sequence hsequence
      obtain rfl := Except.ok.inj h
      simp only [Bool.or_eq_true, decide_eq_true_eq, Bool.not_eq_true', not_or] at hreadable
      exact ⟨rfl, hreadable.1, rfl, hsequence⟩

/-- A list of described objects has the keys that were described. -/
theorem describe_of_mapM_ok : ∀ {keys : List ObjectKey} {objects : List StoredObject},
    keys.mapM (s.describeObject listing) = .ok objects →
      objects.map (·.key) = keys ∧
        ∀ object ∈ objects, s.describeObject listing object.key = .ok object
  | [], objects, h => by
      obtain rfl : [] = objects := Except.ok.inj h
      exact ⟨rfl, nofun⟩
  | key :: rest, objects, h => by
      rw [List.mapM_cons] at h
      cases hfirst : s.describeObject listing key with
      | error error =>
          rw [hfirst] at h
          cases h
      | ok first =>
          rw [hfirst] at h
          cases hrest : rest.mapM (s.describeObject listing) with
          | error error =>
              simp only [hrest] at h
              cases h
          | ok others =>
              simp only [hrest] at h
              obtain rfl : first :: others = objects := Except.ok.inj h
              obtain ⟨hkeys, hothers⟩ := describe_of_mapM_ok hrest
              obtain rfl := (describeObject_ok hfirst).1
              refine ⟨congrArg (first.key :: ·) hkeys, ?_⟩
              rintro object hobject
              rcases List.mem_cons.1 hobject with rfl | hobject
              · exact hfirst
              · exact hothers object hobject

/-- What the inventory says. -/
structure Lists (s : Store) (objects : List StoredObject) : Prop where
  keys : objects.map (·.key) = inOrder s.children
  sizes : ∀ object ∈ objects, object.size = s.objectSize object.key
  sequences : ∀ object ∈ objects, s.sequences.lookup object.key = some object.insertionSequence
  files : ∀ object ∈ objects, object.key.root ∉ s.files

theorem lists_of_storedObjects (h : s.storedObjects listing = .ok objects) : s.Lists objects := by
  unfold storedObjects at h
  split at h
  · cases h
  · split at h
    · cases h
    · rename_i found hfound
      split at h
      · cases h
      · obtain rfl := Except.ok.inj h
        obtain ⟨hkeys, hdescribed⟩ := describe_of_mapM_ok hfound
        exact ⟨hkeys, fun object hobject => (describeObject_ok (hdescribed object hobject)).2.2.1,
          fun object hobject => (describeObject_ok (hdescribed object hobject)).2.2.2,
          fun object hobject => (describeObject_ok (hdescribed object hobject)).2.1⟩

theorem mem_children {key : ObjectKey} :
    key ∈ s.children ↔ key.root ∈ s.directories ∨ key.root ∈ s.files := by
  unfold children
  rw [Finset.mem_union, mem_objectKeys]
  refine or_congr Iff.rfl ?_
  simp only [Finset.mem_image, Finset.mem_filter, Finmap.mem_keys]
  constructor
  · rintro ⟨⟨key', parts⟩, ⟨hfile, hparts⟩, rfl⟩
    obtain rfl : parts = [] := hparts
    exact hfile
  · exact fun hfile => ⟨key.root, ⟨hfile, rfl⟩, rfl⟩

theorem Lists.mem_children (h : s.Lists objects) {object : StoredObject} (hobject : object ∈ objects) :
    object.key ∈ s.children := by
  have hkey : object.key ∈ objects.map (·.key) := List.mem_map_of_mem hobject
  rw [h.keys, mem_inOrder] at hkey
  exact hkey

/-- An object that is listed is a directory. -/
theorem Lists.root_mem (h : s.Lists objects) {object : StoredObject} (hobject : object ∈ objects) :
    object.key.root ∈ s.directories :=
  (Store.mem_children.1 (h.mem_children hobject)).resolve_right (h.files object hobject)

theorem Lists.nodup_keys (h : s.Lists objects) : (objects.map (·.key)).Nodup := by
  rw [h.keys]
  exact nodup_inOrder

theorem Lists.length_eq (h : s.Lists objects) : objects.length = s.children.card := by
  rw [← length_inOrder, ← h.keys, List.length_map]

/-- The children of a store without some objects. -/
theorem children_of_evicted {keys : List ObjectKey} (h : Evicted keys s s') (key : ObjectKey) :
    key ∈ s'.children ↔ key ∈ s.children ∧ key ∉ keys := by
  have hfile : key.root ∈ s'.files ↔ key.root ∈ s.files ∧ key ∉ keys := by
    rw [← Finmap.lookup_isSome, h.files, ← Finmap.lookup_isSome]
    by_cases hkey : key ∈ keys <;> simp [hkey, ObjectKey.root]
  rw [mem_children, mem_children, h.directories, hfile]
  exact or_and_right.symm

/-- An object that is not evicted keeps its size. -/
theorem objectSize_of_evicted {keys : List ObjectKey} (h : Evicted keys s s') {key : ObjectKey}
    (hkey : key ∉ keys) : s'.objectSize key = s.objectSize key := by
  refine Dict.total_congr fun path => ?_
  by_cases hpath : path.key = key
  · rw [h.files, if_neg (hpath ▸ hkey)]
  · cases s'.files.lookup path <;> cases s.files.lookup path <;> simp [hpath]

/-- The sizes of an inventory add up to those of the children. -/
theorem Lists.sum_sizes (h : s.Lists objects) :
    (objects.map (·.size)).sum = ∑ key ∈ s.children, s.objectSize key := by
  have hsizes : objects.map (·.size) = (objects.map (·.key)).map s.objectSize := by
    rw [List.map_map]
    exact List.map_congr_left fun object hobject => h.sizes object hobject
  rw [hsizes, h.keys, sum_map_inOrder]

/-! ## A prune that returns -/

/-- `cutoff_ns`. -/
def pruneCutoff (policy : RetentionPolicy) (sample : PruneSample) : ℤ :=
  sample.nowNs - policy.maximumAgeSeconds * 1000000000

/-- `clock_trusted` of the working set. -/
def trustsClock (sample : PruneSample) (objects : List StoredObject) : Bool :=
  sample.trusted && !objects.any (·.modifiedNs > sample.nowNs)

/-- What a prune evicts if every deletion comes to its end. -/
def pruneEvictions (s : Store) (policy : RetentionPolicy) (sample : PruneSample)
    (capacity : StorageCapacity) (objects : List StoredObject) : List StoredObject :=
  s.evictions policy capacity (pruneCutoff policy sample) (trustsClock sample objects)
    (objects.insertionSort storedObjectOrder) objects

theorem perm_insertionOrder : (objects.insertionSort storedObjectOrder).Perm objects :=
  List.perm_insertionSort storedObjectOrder objects

theorem mem_of_mem_pruneEvictions {object : StoredObject}
    (h : object ∈ s.pruneEvictions policy sample capacity objects) : object ∈ objects :=
  perm_insertionOrder.subset (mem_of_mem_evict h)

theorem Lists.nodup_pruneEvictions (h : s.Lists objects) :
    ((s.pruneEvictions policy sample capacity objects).map (·.key)).Nodup := by
  have hsublist : (s.pruneEvictions policy sample capacity objects).Sublist
      (objects.insertionSort storedObjectOrder) := evict_sublist
  exact (hsublist.map _).nodup ((perm_insertionOrder.map _).nodup_iff.2 h.nodup_keys)

/-- What is evicted and what is kept make up the inventory. -/
theorem Lists.perm_diff (h : s.Lists objects) :
    (s.pruneEvictions policy sample capacity objects ++
      objects.diff (s.pruneEvictions policy sample capacity objects)).Perm objects := by
  refine List.subperm_append_diff_self_of_count_le fun object hobject => ?_
  have hnodup : (s.pruneEvictions policy sample capacity objects).Nodup :=
    h.nodup_pruneEvictions.of_map _
  rw [List.count_eq_one_of_mem hnodup hobject]
  exact List.count_pos_iff.2 (mem_of_mem_pruneEvictions hobject)

/-- What a prune has read and done when it returns. -/
structure Prunes (s : Store) (policy : RetentionPolicy) (sample : PruneSample)
    (report : PruneReport) (s' : Store) (before after : List StoredObject)
    (capacity capacityAfter : StorageCapacity) : Prop where
  listed : s.storedObjects sample.listing = .ok before
  sampled : sample.before = some capacity
  sampledAfter : sample.after = some capacityAfter
  listedAfter : s'.storedObjects sample.listingAfter = .ok after
  state : s' = ((s.evictObjects (s.pruneEvictions policy sample capacity before)).rescan.rescan
    ).latchPrune report.blockers
  reported : report =
    { blockers := pruneBlockers policy after (after.filter fun object => s'.isLeased object.key).length
        capacityAfter (trustsClock sample after)
      freedBytes := ((s.pruneEvictions policy sample capacity before).map (·.size)).sum
      freedObjects := (s.pruneEvictions policy sample capacity before).length
      retainedLeasedObjects := (after.filter fun object => s'.isLeased object.key).length
      postStoredBytes := (after.map (·.size)).sum
      postStoredObjects := after.length
      postAvailableBytes := capacityAfter.availableBytes
      postAvailableInodes := capacityAfter.availableInodes }

/-- The latch is not looked at by the inventory. -/
theorem storedObjects_latchPrune {blockers : List PruneBlocker} :
    (s.latchPrune blockers).storedObjects listing = s.storedObjects listing := by
  unfold latchPrune
  split
  · rfl
  · split <;> rfl

theorem isLeased_latchPrune {blockers : List PruneBlocker} :
    (s.latchPrune blockers).isLeased = s.isLeased := by
  unfold latchPrune
  split
  · rfl
  · split <;> rfl

/-- Neither the scans nor the latch are on the disk. -/
theorem Evicted.latchPrune {keys : List ObjectKey} {blockers : List PruneBlocker}
    (h : Evicted keys s s') : Evicted keys s (s'.rescan.rescan.latchPrune blockers) := by
  unfold Store.latchPrune
  split
  · exact ⟨h.directories, h.files, h.sequences⟩
  · split <;> exact ⟨h.directories, h.files, h.sequences⟩

theorem prunes_of_ok {report : PruneReport} (h : s.prune policy sample = (.ok report, s')) :
    ∃ before after capacity capacityAfter,
      s.Prunes policy sample report s' before after capacity capacityAfter := by
  unfold prune at h
  split at h
  · cases h
  · split at h
    · cases h
    · cases h
    · rename_i capacity before hsampled hlisted
      dsimp only at h
      rcases @pruneUnleased_result s policy capacity (pruneCutoff policy sample)
        (trustsClock sample before) sample (before.insertionSort storedObjectOrder) before (0, 0) with
        hloop | ⟨_, _, _, error, -, hloop, -⟩
      · simp only [pruneCutoff, trustsClock] at hloop
        rw [hloop] at h
        dsimp only at h
        split at h
        · cases h
        · split at h
          · cases h
          · rename_i capacityAfter hsampledAfter
            unfold finishPrune at h
            split at h
            · cases h
            · rename_i after hlistedAfter
              split at h
              · cases h
              · dsimp only at h
                obtain ⟨hreport, hstate⟩ := Prod.mk.inj h
                split at hreport
                · cases hreport
                  subst hstate
                  refine ⟨before, after, capacity, capacityAfter, hlisted, hsampled, hsampledAfter,
                    storedObjects_latchPrune.trans hlistedAfter, rfl, ?_⟩
                  simp only [isLeased_latchPrune, pruneEvictions, pruneCutoff, trustsClock, zero_add]
                · cases hreport
      · simp only [pruneCutoff, trustsClock] at hloop
        split at h <;> rename_i heq <;> rw [heq] at hloop
        · cases h
        · cases hloop

/-- A report names no blocker exactly when the budgets, the headrooms and the clock allow it. -/
theorem pruneBlockers_eq_nil_iff {retainedLeased : ℕ} :
    pruneBlockers policy objects retainedLeased capacity clockTrusted = [] ↔
      (objects.map (·.size)).sum ≤ policy.maximumBytes ∧ objects.length ≤ policy.maximumObjects ∧
        policy.minimumFreeBytes ≤ capacity.availableBytes ∧
        policy.minimumFreeInodes ≤ capacity.availableInodes ∧ clockTrusted = true := by
  unfold pruneBlockers
  dsimp only
  simp only [List.append_eq_nil_iff, ite_eq_right_iff, ite_eq_left_iff, List.cons_ne_nil, imp_false,
    not_lt, gt_iff_lt, Bool.not_eq_true, Bool.not_eq_false]
  constructor
  · rintro ⟨⟨⟨hleased, hbytes⟩, hinodes⟩, htrusted⟩
    exact ⟨by omega, by omega, by omega, hinodes, htrusted⟩
  · rintro ⟨hsize, hlength, hbytes, hinodes, htrusted⟩
    exact ⟨⟨⟨by omega, by omega⟩, hinodes⟩, htrusted⟩

namespace Prunes

variable {report : PruneReport} {before after : List StoredObject} {capacityAfter : StorageCapacity}

theorem evicted (h : s.Prunes policy sample report s' before after capacity capacityAfter) :
    Evicted ((s.pruneEvictions policy sample capacity before).map (·.key)) s s' := by
  have hlists := lists_of_storedObjects h.listed
  have hdisk := @evicted_evictObjects s (s.pruneEvictions policy sample capacity before)
    (fun object hobject => hlists.root_mem (mem_of_mem_pruneEvictions hobject))
    hlists.nodup_pruneEvictions
  rw [h.state]
  exact hdisk.latchPrune

theorem isLeased_eq (h : s.Prunes policy sample report s' before after capacity capacityAfter) :
    s'.isLeased = s.isLeased := by
  rw [h.state, isLeased_latchPrune]
  change (s.evictObjects (s.pruneEvictions policy sample capacity before)).isLeased = s.isLeased
  exact isLeased_of_withoutDisk withoutDisk_evictObjects

/-- An object is gone exactly when it has been evicted. -/
theorem notMem_after_iff (h : s.Prunes policy sample report s' before after capacity capacityAfter)
    {object : StoredObject} (hobject : object ∈ before) :
    object.key ∉ after.map (·.key) ↔ object ∈ s.pruneEvictions policy sample capacity before := by
  have hlists := lists_of_storedObjects h.listed
  rw [(lists_of_storedObjects h.listedAfter).keys, mem_inOrder, children_of_evicted h.evicted]
  have hchild := hlists.mem_children hobject
  constructor
  · intro hgone
    have hkey : object.key ∈ (s.pruneEvictions policy sample capacity before).map (·.key) := by
      by_contra hkept
      exact hgone ⟨hchild, hkept⟩
    obtain ⟨evicted, hevicted, hsame⟩ := List.mem_map.1 hkey
    obtain rfl := List.inj_on_of_nodup_map hlists.nodup_keys (mem_of_mem_pruneEvictions hevicted)
      hobject hsame
    exact hevicted
  · rintro hevicted ⟨-, hkept⟩
    exact hkept (List.mem_map_of_mem hevicted)

/-- What is left is what is not evicted. -/
theorem children_eq (h : s.Prunes policy sample report s' before after capacity capacityAfter) :
    s'.children = s.children \
      ((s.pruneEvictions policy sample capacity before).map (·.key)).toFinset := by
  ext key
  rw [children_of_evicted h.evicted, Finset.mem_sdiff, List.mem_toFinset]

theorem evicted_subset (h : s.Prunes policy sample report s' before after capacity capacityAfter) :
    ((s.pruneEvictions policy sample capacity before).map (·.key)).toFinset ⊆ s.children := by
  intro key hkey
  obtain ⟨object, hobject, rfl⟩ := List.mem_map.1 (List.mem_toFinset.1 hkey)
  exact (lists_of_storedObjects h.listed).mem_children (mem_of_mem_pruneEvictions hobject)

/-- The sizes before are those after and those of what has been evicted. -/
theorem sum_sizes (h : s.Prunes policy sample report s' before after capacity capacityAfter) :
    ((s.pruneEvictions policy sample capacity before).map (·.size)).sum +
      (after.map (·.size)).sum = (before.map (·.size)).sum := by
  have hlists := lists_of_storedObjects h.listed
  have hafter : ∑ key ∈ s'.children, s'.objectSize key = ∑ key ∈ s'.children, s.objectSize key := by
    refine Finset.sum_congr rfl fun key hkey => ?_
    exact objectSize_of_evicted h.evicted ((children_of_evicted h.evicted key).1 hkey).2
  have hevicted : ((s.pruneEvictions policy sample capacity before).map (·.size)).sum =
      ∑ key ∈ ((s.pruneEvictions policy sample capacity before).map (·.key)).toFinset,
        s.objectSize key := by
    rw [List.sum_toFinset _ hlists.nodup_pruneEvictions, List.map_map]
    exact congrArg List.sum (List.map_congr_left fun object hobject =>
      hlists.sizes object (mem_of_mem_pruneEvictions hobject))
  rw [hlists.sum_sizes, (lists_of_storedObjects h.listedAfter).sum_sizes, hafter, hevicted,
    h.children_eq, add_comm]
  exact Finset.sum_sdiff h.evicted_subset

theorem length_eq (h : s.Prunes policy sample report s' before after capacity capacityAfter) :
    (s.pruneEvictions policy sample capacity before).length + after.length = before.length := by
  have hlists := lists_of_storedObjects h.listed
  have hcard := Finset.card_sdiff_add_card_eq_card h.evicted_subset
  rw [← h.children_eq, List.toFinset_card_of_nodup hlists.nodup_pruneEvictions,
    List.length_map] at hcard
  rw [hlists.length_eq, (lists_of_storedObjects h.listedAfter).length_eq, ← hcard, add_comm]

/-- Kept without need, an object tells that the budgets are met. -/
theorem within_of_kept (h : s.Prunes policy sample report s' before after capacity capacityAfter)
    {object : StoredObject} (hobject : object ∈ before) (hmay : s.mayEvict object = true)
    (hkept : object ∉ s.pruneEvictions policy sample capacity before) :
    (after.map (·.size)).sum ≤ policy.maximumBytes ∧ after.length ≤ policy.maximumObjects := by
  have hended := not_pressure_of_kept monotonePressure_prunePressure
    (perm_insertionOrder.mem_iff.2 hobject) hmay hkept
  have hperm := @Lists.perm_diff s policy capacity sample before (lists_of_storedObjects h.listed)
  have hsizes := (hperm.map (·.size)).sum_eq
  have hlength := hperm.length_eq
  have hafter := h.sum_sizes
  have hafterLength := h.length_eq
  rw [List.map_append, List.sum_append] at hsizes
  rw [List.length_append] at hlength
  simp only [prunePressure, Bool.or_eq_false_iff, decide_eq_false_iff_not, not_lt, gt_iff_lt]
    at hended
  obtain ⟨⟨⟨hbytes, hobjects⟩, -⟩, -⟩ := hended
  change (((before.diff (s.pruneEvictions policy sample capacity before)).map (·.size)).sum ≤ _)
    at hbytes
  change ((before.diff (s.pruneEvictions policy sample capacity before)).length ≤ _) at hobjects
  omega

end Prunes

/-! ## The state after a prune -/

/-- What a prune that returns has done to the inventory, and what its report and the latch say. -/
structure PostState (s : Store) (policy : RetentionPolicy) (sample : PruneSample)
    (report : PruneReport) (s' : Store) (before after : List StoredObject)
    (capacityAfter : StorageCapacity) : Prop where
  leased : ∀ object ∈ before, s.isLeased object.key = true → object.key ∈ after.map (·.key)
  expired : sample.trusted = true → (∀ object ∈ before, object.modifiedNs ≤ sample.nowNs) →
    ∀ object ∈ before, s.isLeased object.key = false →
      object.modifiedNs < pruneCutoff policy sample → object.key ∉ after.map (·.key)
  inOrder : ∀ object ∈ before, object.key ∉ after.map (·.key) →
    isExpired (trustsClock sample before) (pruneCutoff policy sample) object = false →
    ∀ other ∈ before, s.isLeased other.key = false →
      other.insertionSequence < object.insertionSequence → other.key ∉ after.map (·.key)
  within : ((after.map (·.size)).sum ≤ policy.maximumBytes ∧
      after.length ≤ policy.maximumObjects) ∨
    ∀ object ∈ after, s'.isLeased object.key = true
  freedBytes : report.freedBytes + (after.map (·.size)).sum = (before.map (·.size)).sum
  freedObjects : report.freedObjects + after.length = before.length
  postStoredBytes : report.postStoredBytes = (after.map (·.size)).sum
  postStoredObjects : report.postStoredObjects = after.length
  used : s'.usedBytes = s'.scanExistingBytes
  satisfied : report.blockers = [] ↔
    (after.map (·.size)).sum ≤ policy.maximumBytes ∧ after.length ≤ policy.maximumObjects ∧
      policy.minimumFreeBytes ≤ capacityAfter.availableBytes ∧
      policy.minimumFreeInodes ≤ capacityAfter.availableInodes ∧
      sample.trusted = true ∧ ∀ object ∈ after, object.modifiedNs ≤ sample.nowNs
  latch : s'.admissionClosedBlocker = none ↔ report.blockers = []

theorem trustsClock_iff : trustsClock sample objects = true ↔
    sample.trusted = true ∧ ∀ object ∈ objects, object.modifiedNs ≤ sample.nowNs := by
  simp [trustsClock]

instance : Std.Total storedObjectOrder := ⟨fun _ _ => le_total _ _⟩

instance : IsTrans StoredObject storedObjectOrder := ⟨fun _ _ _ => le_trans⟩

/-- A smaller sequence comes first. -/
theorem exists_split_of_lt {object other : StoredObject} (hobject : object ∈ objects)
    (hother : other ∈ objects) (hlt : other.insertionSequence < object.insertionSequence) :
    ∃ front back, objects.insertionSort storedObjectOrder = front ++ object :: back ∧
      other ∈ front := by
  obtain ⟨front, back, hsplit⟩ := List.append_of_mem (perm_insertionOrder.mem_iff.2 hobject)
  refine ⟨front, back, hsplit, ?_⟩
  have hother' : other ∈ front ++ object :: back := hsplit ▸ perm_insertionOrder.mem_iff.2 hother
  have hsorted := List.pairwise_insertionSort storedObjectOrder objects
  rw [hsplit] at hsorted
  rcases List.mem_append.1 hother' with hfront | hback
  · exact hfront
  · rcases List.mem_cons.1 hback with rfl | hback
    · exact absurd hlt (lt_irrefl _)
    · have horder := List.rel_of_pairwise_cons (List.pairwise_append.1 hsorted).2.1 hback
      rcases Prod.Lex.toLex_le_toLex.1 horder with hless | ⟨hsame, -⟩
      · exact absurd hlt (lt_asymm hless)
      · exact absurd hlt (ne_of_gt · hsame)

/-- **The state after a prune.** -/
theorem prune_post_state {report : PruneReport} (h : s.prune policy sample = (.ok report, s')) :
    ∃ before after capacityAfter, s.storedObjects sample.listing = .ok before ∧
      s'.storedObjects sample.listingAfter = .ok after ∧ sample.after = some capacityAfter ∧
      s.PostState policy sample report s' before after capacityAfter := by
  obtain ⟨before, after, capacity, capacityAfter, hprunes⟩ := prunes_of_ok h
  have hlists := lists_of_storedObjects hprunes.listed
  have hreport := hprunes.reported
  refine ⟨before, after, capacityAfter, hprunes.listed, hprunes.listedAfter, hprunes.sampledAfter,
    ?_⟩
  constructor
  case leased =>
    intro object hobject hleased
    by_contra hgone
    have hmay := may_of_mem_evict ((hprunes.notMem_after_iff hobject).1 hgone)
    simp [mayEvict, hleased] at hmay
  case expired =>
    intro htrusted hpast object hobject hfree hold
    refine (hprunes.notMem_after_iff hobject).2 (mem_evict_of_must
      (perm_insertionOrder.mem_iff.2 hobject) ?_ (by simp [mayEvict, hfree]))
    simp [isExpired, trustsClock_iff.2 ⟨htrusted, hpast⟩, hold]
  case inOrder =>
    intro object hobject hgone hyoung other hother hfree hlt
    have hevicted := (hprunes.notMem_after_iff hobject).1 hgone
    obtain ⟨front, back, hsplit, hfront⟩ := exists_split_of_lt hobject hother hlt
    have hnodup : (front ++ object :: back).Nodup :=
      hsplit ▸ perm_insertionOrder.nodup_iff.2 (hlists.nodup_keys.of_map _)
    refine (hprunes.notMem_after_iff hother).2 ?_
    rw [pruneEvictions, evictions, hsplit] at hevicted ⊢
    exact mem_evict_of_before monotonePressure_prunePressure hnodup hevicted hyoung hfront
      (by simp [mayEvict, hfree])
  case within =>
    by_cases hall : ∀ object ∈ after, s'.isLeased object.key = true
    · exact .inr hall
    · obtain ⟨kept, hkept, hfree⟩ : ∃ kept ∈ after, ¬ s'.isLeased kept.key = true := by
        simpa using hall
      have hchild := (lists_of_storedObjects hprunes.listedAfter).mem_children hkept
      obtain ⟨hbefore, hnotEvicted⟩ := (children_of_evicted hprunes.evicted kept.key).1 hchild
      rw [← mem_inOrder, ← hlists.keys] at hbefore
      obtain ⟨object, hobject, hsame⟩ := List.mem_map.1 hbefore
      refine .inl (hprunes.within_of_kept hobject ?_ fun hevicted => ?_)
      · rw [mayEvict, hsame, ← hprunes.isLeased_eq]
        simpa using hfree
      · exact hnotEvicted (hsame ▸ List.mem_map_of_mem (f := (·.key)) hevicted)
  case freedBytes =>
    rw [hreport]
    exact hprunes.sum_sizes
  case freedObjects =>
    rw [hreport]
    exact hprunes.length_eq
  case postStoredBytes => rw [hreport]
  case postStoredObjects => rw [hreport]
  case used =>
    rw [hprunes.state]
    unfold latchPrune
    split
    · rfl
    · split <;> rfl
  case satisfied =>
    rw [hreport]
    refine pruneBlockers_eq_nil_iff.trans ?_
    rw [trustsClock_iff]
  case latch =>
    rw [hprunes.state]
    unfold latchPrune
    split
    · rename_i hnone
      simp [hnone]
    · rename_i hblockers
      refine iff_of_false ?_ hblockers
      split
      · rename_i hclosed
        rw [hclosed]
        exact nofun
      · exact nofun

/-- A render of one page of five bytes. -/
def onePage : Store :=
  (Action.stage none 0 true true :: Action.write 0 0 [1, 1, 1, 1, 1] ++
    [Action.commitRender 0 0 samplePage {}]).foldl (step sampleDigest) (empty 100 (some samplePolicy))

/-- A clock by which everything is a second too old. -/
def lateSample : PruneSample where
  before := some ⟨100000000, 1000⟩
  after := some ⟨100000005, 1003⟩
  nowNs := 61000000000

theorem prune_post_state_expired :
    (onePage.prune samplePolicy lateSample).1 = .ok ⟨[], 5, 1, 0, 0, 0, 100000005, 1003⟩ ∧
      ∃ before after capacityAfter, onePage.PostState samplePolicy lateSample
        ⟨[], 5, 1, 0, 0, 0, 100000005, 1003⟩ (onePage.prune samplePolicy lateSample).2 before after
          capacityAfter := by
  have hreport : (onePage.prune samplePolicy lateSample).1 =
      .ok ⟨[], 5, 1, 0, 0, 0, 100000005, 1003⟩ := by rfl
  obtain ⟨before, after, capacityAfter, -, -, -, hpost⟩ :=
    prune_post_state (Prod.ext hreport rfl : onePage.prune samplePolicy lateSample =
      (.ok ⟨[], 5, 1, 0, 0, 0, 100000005, 1003⟩, (onePage.prune samplePolicy lateSample).2))
  exact ⟨hreport, before, after, capacityAfter, hpost⟩

end Store

end NplgMcp
