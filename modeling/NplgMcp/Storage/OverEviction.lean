import NplgMcp.Storage.Eviction

/-!
# Evictions without need

`_prune_pressure` counts the objects that are left, but it judges both headrooms by the one sample
from before the prune. So what a deletion gives back is credited to the budgets and not to the
headrooms: where the sample falls short of a headroom, the loop evicts everything that is not leased.
`CreditedPressure` credits the headrooms too, and `prune_over_eviction_iff` says when every eviction
of an object that is not expired is made under it.
-/

open Library

namespace NplgMcp

namespace Store

variable {s s' : Store} {policy : RetentionPolicy} {capacity : StorageCapacity}
  {sample : PruneSample} {objects : List StoredObject} {object other : StoredObject}

/-! ## The statement -/

/-- The directories and the files of an object. -/
def tree (s : Store) (key : ObjectKey) : Finset Path × Finset Path :=
  (s.directories.filter (·.key = key), s.files.keys.filter (·.key = key))

/-- Something of the object is gone in the second store. -/
def Evicts (s s' : Store) (object : StoredObject) : Prop := s'.tree object.key ≠ s.tree object.key

instance : Decidable (Evicts s s' object) := inferInstanceAs (Decidable (_ ≠ _))

/-- The one object comes before the other in `_stored_object_order`. -/
def comesBefore (a b : StoredObject) : Prop :=
  toLex (a.insertionSequence, a.key) < toLex (b.insertionSequence, b.key)

instance (a b : StoredObject) : Decidable (comesBefore a b) := inferInstanceAs (Decidable (_ < _))

/-- Some bound is violated after the bytes and the inodes of the removed objects are credited. -/
def CreditedPressure (policy : RetentionPolicy) (capacity : StorageCapacity)
    (objects removed : List StoredObject) : Prop :=
  policy.maximumBytes + (removed.map (·.size)).sum < (objects.map (·.size)).sum ∨
    policy.maximumObjects + removed.length < objects.length ∨
    capacity.availableBytes + (removed.map (·.size)).sum < policy.minimumFreeBytes ∨
    capacity.availableInodes + (removed.map (·.inodes)).sum < policy.minimumFreeInodes

instance (policy : RetentionPolicy) (capacity : StorageCapacity)
    (objects removed : List StoredObject) :
    Decidable (CreditedPressure policy capacity objects removed) :=
  inferInstanceAs (Decidable (_ ∨ _))

/-- Every object that the prune evicts though it is not expired is evicted under pressure, with what
the prune has evicted before it credited. -/
def EvictsUnderPressure (s : Store) (policy : RetentionPolicy) (sample : PruneSample) : Prop :=
  ∀ objects capacity, s.storedObjects sample.listing = .ok objects →
    sample.before = some capacity → ∀ object ∈ objects,
    isExpired (trustsClock sample objects) (pruneCutoff policy sample) object = false →
    Evicts s (s.prune policy sample).2 object →
    CreditedPressure policy capacity objects
      (objects.filter fun other =>
        comesBefore other object ∧ Evicts s (s.prune policy sample).2 other)

/-- The samples differ only in how the deletions and what comes after them go. -/
structure AsksAlike (sample sample' : PruneSample) : Prop where
  before : sample'.before = sample.before
  trusted : sample'.trusted = sample.trusted
  nowNs : sample'.nowNs = sample.nowNs
  listing : sample'.listing = sample.listing

/-- The capacity meets both headrooms. -/
def MeetsHeadroom (policy : RetentionPolicy) (capacity : StorageCapacity) : Prop :=
  policy.minimumFreeBytes ≤ capacity.availableBytes ∧
    policy.minimumFreeInodes ≤ capacity.availableInodes

/-! ## The order of the evictions -/

theorem creditedPressure_of_perm {removed removed' : List StoredObject}
    (h : removed.Perm removed') : CreditedPressure policy capacity objects removed ↔
      CreditedPressure policy capacity objects removed' := by
  unfold CreditedPressure
  rw [(h.map _).sum_eq, h.length_eq, (h.map (·.inodes)).sum_eq]

/-- Among the evicted, what comes before an object is what is evicted before it. -/
theorem comesBefore_iff_mem_front (hlists : s.Lists objects) {front back : List StoredObject}
    (hsplit : s.pruneEvictions policy sample capacity objects = front ++ object :: back)
    (hother : other ∈ s.pruneEvictions policy sample capacity objects) :
    comesBefore other object ↔ other ∈ front := by
  have hsorted : (front ++ object :: back).Pairwise storedObjectOrder := by
    rw [← hsplit]
    exact (List.pairwise_insertionSort storedObjectOrder objects).sublist evict_sublist
  have hnodup := @Lists.nodup_pruneEvictions s policy capacity sample objects hlists
  rw [hsplit] at hother hnodup
  have hpairs := List.pairwise_append.1 hsorted
  constructor
  · intro hbefore
    rcases List.mem_append.1 hother with hfront | hback
    · exact hfront
    · rcases List.mem_cons.1 hback with rfl | hback
      · exact absurd hbefore (lt_irrefl _)
      · exact absurd hbefore (not_lt.2 (List.rel_of_pairwise_cons hpairs.2.1 hback))
  · intro hfront
    refine lt_of_le_of_ne (hpairs.2.2 other hfront object List.mem_cons_self) fun hsame => ?_
    have hkey : other.key = object.key := (Prod.mk.inj (toLex.injective hsame)).2
    rw [List.map_append, List.map_cons] at hnodup
    exact (List.nodup_append.1 hnodup).2.2 _ (List.mem_map_of_mem hfront) _ List.mem_cons_self hkey

/-- A condition that picks from the inventory what is evicted before an object. -/
theorem filter_perm_front (hlists : s.Lists objects) {p : StoredObject → Prop} [DecidablePred p]
    {front back : List StoredObject}
    (hsplit : s.pruneEvictions policy sample capacity objects = front ++ object :: back)
    (hmem : ∀ other ∈ objects, p other → other ∈ s.pruneEvictions policy sample capacity objects)
    (hfront : ∀ other ∈ front, p other) :
    (objects.filter fun other => comesBefore other object ∧ p other).Perm front := by
  have hnodup : (front ++ object :: back).Nodup := by
    rw [← hsplit]
    exact (@Lists.nodup_pruneEvictions s policy capacity sample objects hlists).of_map _
  refine (List.perm_ext_iff_of_nodup ((hlists.nodup_keys.of_map _).filter _)
    (List.nodup_append.1 hnodup).1).2 fun other => ?_
  rw [List.mem_filter, decide_eq_true_iff]
  constructor
  · rintro ⟨hobject, hbefore, hp⟩
    exact (comesBefore_iff_mem_front hlists hsplit (hmem other hobject hp)).1 hbefore
  · intro hother
    have hevicted : other ∈ s.pruneEvictions policy sample capacity objects := by
      rw [hsplit]
      exact List.mem_append_left _ hother
    exact ⟨mem_of_mem_pruneEvictions hevicted,
      (comesBefore_iff_mem_front hlists hsplit hevicted).2 hother, hfront other hother⟩

/-! ## The disk -/

theorem tree_of_evicted {keys : List ObjectKey} (h : Evicted keys s s') {key : ObjectKey}
    (hkey : key ∉ keys) : s'.tree key = s.tree key := by
  refine Prod.ext (Finset.ext fun path => ?_) (Finset.ext fun path => ?_)
  · simp only [tree, Finset.mem_filter, h.directories]
    constructor
    · rintro ⟨⟨hpath, -⟩, hsame⟩
      exact ⟨hpath, hsame⟩
    · rintro ⟨hpath, hsame⟩
      exact ⟨⟨hpath, hsame ▸ hkey⟩, hsame⟩
  · simp only [tree, Finset.mem_filter, Finmap.mem_keys, ← Finmap.lookup_isSome, h.files]
    refine and_congr_left fun hsame => ?_
    rw [if_neg (hsame ▸ hkey)]

theorem evicts_of_root_notMem (hroot : object.key.root ∈ s.directories)
    (hgone : object.key.root ∉ s'.directories) : Evicts s s' object := by
  intro hsame
  have hmem : object.key.root ∈ (s.tree object.key).1 := Finset.mem_filter.2 ⟨hroot, rfl⟩
  rw [← hsame] at hmem
  exact hgone (Finset.mem_filter.1 hmem).1

/-- A deletion changes the object it is about, and makes nothing. -/
theorem tree_removeStoragePath {key key' : ObjectKey} {removal : Removal} (h : key ≠ key') :
    (s.removeStoragePath key'.root removal).2.tree key = s.tree key := by
  have hkeeps (path : Path) (hpath : path.key = key) : removal.Keeps key'.root path :=
    .inl fun hwithin => h (hpath.symm.trans hwithin.1)
  unfold removeStoragePath
  split
  · refine Prod.ext (Finset.ext fun path => ?_) (Finset.ext fun path => ?_)
    · cases removal <;> simp only [tree, rmtree, Finset.mem_filter] <;>
        refine and_congr_left fun hpath => and_iff_left_of_imp fun _ => ?_
      · exact hkeeps path hpath
      · exact .inl (hkeeps path hpath)
    · cases removal <;> simp only [tree, rmtree, Finset.mem_filter, Finmap.mem_keys,
          ← Finmap.lookup_isSome, Dict.lookup_restrict] <;>
        refine and_congr_left fun hpath => ?_ <;> rw [if_pos (hkeeps path hpath)]
  · cases removal with
    | interrupted kept => rfl
    | complete =>
        refine Prod.ext rfl (Finset.ext fun path => ?_)
        simp only [tree, unlinkFile, Finset.mem_filter, Finmap.mem_keys, Finmap.mem_erase]
        refine and_congr_left fun hpath => and_iff_right_of_imp fun _ hroot => ?_
        exact h (hpath.symm.trans (congrArg Path.key hroot))

theorem directories_removeStoragePath_subset {path : Path} {removal : Removal} :
    (s.removeStoragePath path removal).2.directories ⊆ s.directories := by
  unfold removeStoragePath
  split
  · cases removal <;> exact Finset.filter_subset _ _
  · cases removal <;> exact Finset.Subset.refl _

theorem tree_latchPrune {blockers : List PruneBlocker} :
    (s.latchPrune blockers).tree = s.tree := by
  unfold latchPrune
  split
  · rfl
  · split <;> rfl

/-- What a prune does to the disk is what its loop does. -/
theorem tree_prune (hpolicy : s.retentionPolicy = some policy)
    (hlisted : s.storedObjects sample.listing = .ok objects)
    (hsampled : sample.before = some capacity) :
    (s.prune policy sample).2.tree =
      (pruneUnleased policy capacity (pruneCutoff policy sample) (trustsClock sample objects) sample s
        (objects.insertionSort storedObjectOrder) objects (0, 0)).2.tree := by
  unfold prune
  rw [if_neg (not_not.2 hpolicy), hlisted, hsampled]
  simp only [pruneCutoff, trustsClock]
  split <;> rename_i heq <;> rw [heq]
  split
  · rfl
  · split
    · rfl
    · unfold finishPrune
      split
      · rfl
      · split
        · rfl
        · exact tree_latchPrune

/-- What has been evicted has been, and nothing else is touched. -/
theorem evicts_iff_of_evicted {made : List StoredObject} (hlists : s.Lists objects)
    (h : Evicted (made.map (·.key)) s s') (hmade : ∀ object ∈ made, object ∈ objects)
    (hobject : object ∈ objects) : Evicts s s' object ↔ object ∈ made := by
  constructor
  · intro hevicts
    by_contra hkept
    refine hevicts (tree_of_evicted h fun hkey => hkept ?_)
    obtain ⟨other, hother, hsame⟩ := List.mem_map.1 hkey
    obtain rfl := List.inj_on_of_nodup_map hlists.nodup_keys (hmade other hother) hobject hsame
    exact hother
  · intro hmem
    refine evicts_of_root_notMem (hlists.root_mem hobject) fun hroot => ?_
    exact ((h.directories _).1 hroot).2 (List.mem_map_of_mem hmem)

/-- How far the evictions of a prune come: those of a first part are made, and of the rest at most
the first is begun. Where every deletion comes to its end, all are made. -/
theorem evicts_prune (hpolicy : s.retentionPolicy = some policy)
    (hlisted : s.storedObjects sample.listing = .ok objects)
    (hsampled : sample.before = some capacity) :
    ∃ made rest, s.pruneEvictions policy sample capacity objects = made ++ rest ∧
      (∀ object ∈ made, Evicts s (s.prune policy sample).2 object) ∧
      (∀ object ∈ objects, Evicts s (s.prune policy sample).2 object →
        object ∈ made ∨ ∃ back, rest = object :: back) ∧
      ((∀ key, sample.removal key = .complete ∧ sample.sync key = true) → rest = []) := by
  have hlists := lists_of_storedObjects hlisted
  have htree := tree_prune hpolicy hlisted hsampled
  have hmade {made rest : List StoredObject}
      (hsplit : s.pruneEvictions policy sample capacity objects = made ++ rest) :
      ∀ object ∈ made, object ∈ objects := by
    intro object hobject
    refine @mem_of_mem_pruneEvictions s policy capacity sample objects object ?_
    rw [hsplit]
    exact List.mem_append_left _ hobject
  have hevicted {made rest : List StoredObject}
      (hsplit : s.pruneEvictions policy sample capacity objects = made ++ rest) :
      Evicted (made.map (·.key)) s (s.evictObjects made) := by
    refine evicted_evictObjects (fun object hobject => hlists.root_mem (hmade hsplit _ hobject)) ?_
    have hnodup := @Lists.nodup_pruneEvictions s policy capacity sample objects hlists
    rw [hsplit, List.map_append] at hnodup
    exact (List.nodup_append.1 hnodup).1
  unfold Evicts
  rw [htree]
  rcases @pruneUnleased_result s policy capacity (pruneCutoff policy sample)
    (trustsClock sample objects) sample (objects.insertionSort storedObjectOrder) objects (0, 0) with
    hloop | ⟨front, object, back, error, hsplit, herror, ⟨kept, hkept, hstate⟩ | ⟨hsync, hstate⟩⟩
  · have hsplit := (List.append_nil (s.pruneEvictions policy sample capacity objects)).symm
    have hiff := fun object hobject =>
      @evicts_iff_of_evicted s _ objects object _ hlists (hevicted hsplit) (hmade hsplit) hobject
    rw [hloop]
    exact ⟨_, [], hsplit, fun object hobject => (hiff object (hmade hsplit _ hobject)).2 hobject,
      fun object hobject hchanged => .inl ((hiff object hobject).1 hchanged), fun _ => rfl⟩
  · rw [hstate]
    have hfront := hevicted hsplit
    refine ⟨front, object :: back, hsplit, fun other hother => ?_, fun other hother hchanged => ?_,
      fun hcomplete => ?_⟩
    · refine evicts_of_root_notMem (hlists.root_mem (hmade hsplit _ hother)) fun hroot => ?_
      exact ((hfront.directories _).1 (directories_removeStoragePath_subset hroot)).2
        (List.mem_map_of_mem hother)
    · by_cases hsame : other.key = object.key
      · have hobject : object ∈ objects := by
          refine @mem_of_mem_pruneEvictions s policy capacity sample objects object ?_
          rw [pruneEvictions, hsplit]
          exact List.mem_append_right _ List.mem_cons_self
        obtain rfl := List.inj_on_of_nodup_map hlists.nodup_keys hother hobject hsame
        exact .inr ⟨back, rfl⟩
      · refine .inl ((evicts_iff_of_evicted hlists hfront (hmade hsplit) hother).1 fun htree => ?_)
        exact hchanged ((tree_removeStoragePath hsame).trans htree)
    · rw [(hcomplete object.key).1] at hkept
      cases hkept
  · rw [hstate]
    have hsplit' : s.pruneEvictions policy sample capacity objects = (front ++ [object]) ++ back := by
      rw [List.append_assoc]
      exact hsplit
    have hiff := fun other hother =>
      @evicts_iff_of_evicted s _ objects other _ hlists (hevicted hsplit') (hmade hsplit') hother
    refine ⟨front ++ [object], back, hsplit',
      fun other hother => (hiff other (hmade hsplit' _ hother)).2 hother,
      fun other hother hchanged => .inl ((hiff other hother).1 hchanged), fun hcomplete => ?_⟩
    rw [(hcomplete object.key).2] at hsync
    cases hsync

/-! ## The condition -/

/-- An object that is evicted is evicted after those that are evicted and come before it. -/
theorem split_of_evicts (hpolicy : s.retentionPolicy = some policy)
    (hlisted : s.storedObjects sample.listing = .ok objects)
    (hsampled : sample.before = some capacity) (hobject : object ∈ objects)
    (hevicts : Evicts s (s.prune policy sample).2 object) :
    ∃ front back,
      s.pruneEvictions policy sample capacity objects = front ++ object :: back ∧
      (objects.filter fun other =>
        comesBefore other object ∧ Evicts s (s.prune policy sample).2 other).Perm front := by
  have hlists := lists_of_storedObjects hlisted
  obtain ⟨made, rest, hsplit, hmade, honly, -⟩ := evicts_prune hpolicy hlisted hsampled
  have hlisted' : ∀ other ∈ objects, Evicts s (s.prune policy sample).2 other →
      other ∈ s.pruneEvictions policy sample capacity objects := by
    intro other hother hchanged
    rw [hsplit]
    rcases honly other hother hchanged with hmem | ⟨back, rfl⟩
    · exact List.mem_append_left _ hmem
    · exact List.mem_append_right _ List.mem_cons_self
  rcases honly object hobject hevicts with hmem | ⟨back, rfl⟩
  · obtain ⟨front, back, rfl⟩ := List.append_of_mem hmem
    rw [List.append_assoc, List.cons_append] at hsplit
    exact ⟨front, back ++ rest, hsplit, filter_perm_front hlists hsplit hlisted' fun other hother =>
      hmade other (List.mem_append_left _ hother)⟩
  · exact ⟨made, back, hsplit, filter_perm_front hlists hsplit hlisted' hmade⟩

/-- Pressure on what is left without the evicted is credited pressure, where the headrooms are met. -/
theorem creditedPressure_of_prunePressure (hlists : s.Lists objects)
    (hmeets : MeetsHeadroom policy capacity) {front back : List StoredObject}
    (hsplit : s.pruneEvictions policy sample capacity objects = front ++ back)
    (h : prunePressure (objects.diff front) policy capacity = true) :
    CreditedPressure policy capacity objects front := by
  have hperm : (front ++ objects.diff front).Perm objects := by
    refine List.subperm_append_diff_self_of_count_le fun other hother => ?_
    have hmem : other ∈ s.pruneEvictions policy sample capacity objects :=
      hsplit ▸ List.mem_append_left back hother
    have hnodup : (front ++ back).Nodup := by
      rw [← hsplit]
      exact (@Lists.nodup_pruneEvictions s policy capacity sample objects hlists).of_map _
    rw [List.count_eq_one_of_mem (List.nodup_append.1 hnodup).1 hother]
    exact List.count_pos_iff.2 (mem_of_mem_pruneEvictions hmem)
  have hsizes := (hperm.map (·.size)).sum_eq
  have hlength := hperm.length_eq
  rw [List.map_append, List.sum_append] at hsizes
  rw [List.length_append] at hlength
  obtain ⟨hbytes, hinodes⟩ := hmeets
  simp only [prunePressure, Bool.or_eq_true, decide_eq_true_eq, gt_iff_lt] at h
  unfold CreditedPressure
  omega

/-- Where a headroom is not met, everything goes that is not leased. -/
theorem pruneEvictions_of_short (hshort : ¬ MeetsHeadroom policy capacity) :
    s.pruneEvictions policy sample capacity objects =
      (objects.insertionSort storedObjectOrder).filter s.mayEvict := by
  refine evict_of_pressure fun short => ?_
  have hheadroom : capacity.availableBytes < policy.minimumFreeBytes ∨
      capacity.availableInodes < policy.minimumFreeInodes := by
    unfold MeetsHeadroom at hshort
    omega
  simp only [prunePressure, Bool.or_eq_true, decide_eq_true_eq]
  rcases hheadroom with hbytes | hinodes
  · exact .inl (.inr hbytes)
  · exact .inr hinodes

theorem mem_pruneEvictions_of_short (hshort : ¬ MeetsHeadroom policy capacity)
    (hobject : object ∈ objects) : object ∈ s.pruneEvictions policy sample capacity objects ↔
      s.isLeased object.key = false := by
  rw [pruneEvictions_of_short hshort, List.mem_filter, perm_insertionOrder.mem_iff]
  simp [hobject, mayEvict]

/-- What is not leased and comes before an object is what is evicted before it. -/
theorem filter_unleased_perm (hlists : s.Lists objects) (hshort : ¬ MeetsHeadroom policy capacity)
    {front back : List StoredObject}
    (hsplit : s.pruneEvictions policy sample capacity objects = front ++ object :: back) :
    (objects.filter fun other =>
      comesBefore other object ∧ s.isLeased other.key = false).Perm front := by
  refine filter_perm_front hlists hsplit
    (fun other hother hfree => (mem_pruneEvictions_of_short hshort hother).2 hfree)
    fun other hother => ?_
  have hmem : other ∈ s.pruneEvictions policy sample capacity objects := by
    rw [hsplit]
    exact List.mem_append_left _ hother
  exact (mem_pruneEvictions_of_short hshort (mem_of_mem_pruneEvictions hmem)).1 hmem

/-- **When no eviction is without need.** However its deletions go, a prune evicts no object that is
not expired without credited pressure exactly when the sampled capacity meets both headrooms, or some
bound is still violated before every unleased object that is not expired, with all unleased objects
before it credited. -/
theorem prune_over_eviction_iff (s : Store) (policy : RetentionPolicy) (sample : PruneSample) :
    (∀ sample', AsksAlike sample sample' → s.EvictsUnderPressure policy sample') ↔
      (s.retentionPolicy = some policy → ∀ objects capacity,
        s.storedObjects sample.listing = .ok objects → sample.before = some capacity →
        MeetsHeadroom policy capacity ∨ ∀ object ∈ objects,
          isExpired (trustsClock sample objects) (pruneCutoff policy sample) object = false →
          s.isLeased object.key = false →
          CreditedPressure policy capacity objects
            (objects.filter fun other =>
              comesBefore other object ∧ s.isLeased other.key = false)) := by
  constructor
  · intro hneeded hpolicy objects capacity hlisted hsampled
    by_cases hmeets : MeetsHeadroom policy capacity
    · exact .inl hmeets
    · refine .inr fun object hobject hyoung hfree => ?_
      have hlists := lists_of_storedObjects hlisted
      let completed : PruneSample := { sample with removal := fun _ => .complete, sync := fun _ => true }
      have hevictions : object ∈ s.pruneEvictions policy completed capacity objects :=
        (mem_pruneEvictions_of_short hmeets hobject).2 hfree
      obtain ⟨made, rest, hsplit, hmade, -, hall⟩ :=
        @evicts_prune s policy capacity completed objects hpolicy hlisted hsampled
      obtain rfl := hall fun _ => ⟨rfl, rfl⟩
      rw [hsplit, List.append_nil] at hevictions
      have hevicts := hmade object hevictions
      obtain ⟨front, back, hfront, hperm⟩ :=
        @split_of_evicts s policy capacity completed objects object hpolicy hlisted hsampled hobject
          hevicts
      have hcredited := hneeded completed ⟨rfl, rfl, rfl, rfl⟩ objects capacity hlisted hsampled
        object hobject hyoung hevicts
      exact (creditedPressure_of_perm (filter_unleased_perm hlists hmeets hfront)).2
        ((creditedPressure_of_perm hperm).1 hcredited)
  · rintro hcondition sample' ⟨hbefore, htrusted, hnow, hlisting⟩ objects capacity hlisted hsampled
      object hobject hyoung hevicts
    by_cases hpolicy : s.retentionPolicy = some policy
    · have hlists := lists_of_storedObjects hlisted
      have hclock : trustsClock sample objects = trustsClock sample' objects := by
        rw [trustsClock, trustsClock, htrusted, hnow]
      have hcutoff : pruneCutoff policy sample = pruneCutoff policy sample' := by
        rw [pruneCutoff, pruneCutoff, hnow]
      obtain ⟨front, back, hsplit, hperm⟩ :=
        split_of_evicts hpolicy hlisted hsampled hobject hevicts
      refine (creditedPressure_of_perm hperm).2 ?_
      by_cases hmeets : MeetsHeadroom policy capacity
      · exact creditedPressure_of_prunePressure hlists hmeets hsplit (pressure_of_evict hsplit hyoung)
      · have hfree : s.isLeased object.key = false := by
          refine (@mem_pruneEvictions_of_short s policy capacity sample' objects object hmeets
            hobject).1 ?_
          rw [hsplit]
          exact List.mem_append_right _ List.mem_cons_self
        have hcredited := (hcondition hpolicy objects capacity (hlisting ▸ hlisted)
          (hbefore ▸ hsampled)).resolve_left hmeets object hobject (by rw [hclock, hcutoff, hyoung])
          hfree
        exact (creditedPressure_of_perm (filter_unleased_perm hlists hmeets hsplit)).1 hcredited
    · have hsame : (s.prune policy sample').2 = s := by
        unfold prune
        rw [if_pos hpolicy]
      rw [hsame] at hevicts
      exact absurd rfl hevicts

/-- A second render of one page of five bytes. -/
def secondPage : Path := ⟨⟨.renders, "rnd_11111111111111111111111111111111"⟩, ["page-0001.png"]⟩

/-- Two renders of one page of five bytes each. -/
def twoPages : List Action :=
  Action.stage none 0 true true :: Action.write 0 0 [1, 1, 1, 1, 1] ++
    Action.commitRender 0 0 samplePage {} :: Action.stage none 0 true true ::
      Action.write 1 0 [1, 1, 1, 1, 1] ++ [Action.commitRender 1 0 secondPage {}]

/-- A file system that misses its headroom by one byte. -/
def shortSample : PruneSample where
  before := some ⟨67108863, 1000⟩
  after := some ⟨67108873, 1006⟩
  nowNs := 0

/-- **An eviction without need.** The first render gives back more than the byte that is missing, and
the second is evicted all the same. -/
theorem prune_over_eviction_short :
    ¬ ∀ (env : Encoding) (s : Store) (run : List Action) (policy : RetentionPolicy)
        (sample : PruneSample), s.Constructed →
        (run.foldl (step env) s).EvictsUnderPressure policy sample := by
  intro h
  have hneeded := h sampleDigest (empty 100 (some samplePolicy)) twoPages samplePolicy shortSample
    (constructed_empty samplePolicy_covered)
    [⟨samplePage.key, 5, 3, 0, 1⟩, ⟨secondPage.key, 5, 3, 0, 2⟩] ⟨67108863, 1000⟩ (by rfl) rfl
    ⟨secondPage.key, 5, 3, 0, 2⟩ (by decide) (by rfl) (by decide +kernel)
  revert hneeded
  decide +kernel

end Store

end NplgMcp
