import Mathlib.Algebra.BigOperators.Group.Finset.Basic
import Mathlib.Algebra.GroupWithZero.Nat
import Mathlib.Algebra.Order.BigOperators.Group.Multiset
import Mathlib.Algebra.Order.Group.Nat
import Mathlib.Data.Finmap
import Mathlib.Data.Finset.Sort
import Mathlib.Data.List.Sort

/-!
# Totals over finite maps

A dictionary is Mathlib's `Finmap` at a constant family of types. `total w` sums a weight over its
entries, and `restrict p` keeps the entries whose key satisfies `p`. The lemmas say what one
insertion, erasure or restriction does to a lookup and to a total. `inOrder` lists a finite set in
increasing order by insertion sort, which the kernel evaluates where `Finset.sort` does not.
-/

namespace Library

/-- A finite map with one type of values. -/
abbrev Dict (κ ν : Type*) := Finmap fun _ : κ => ν

namespace Dict

variable {κ ν M : Type*} [AddCommMonoid M]

/-- The sum of a weight over the entries. -/
def total (w : κ → ν → M) (m : Dict κ ν) : M := (m.entries.map fun e => w e.1 e.2).sum

@[simp] theorem total_empty {w : κ → ν → M} : total w (∅ : Dict κ ν) = 0 := rfl

/-- The entries whose key satisfies `p`. -/
def restrict (p : κ → Prop) [DecidablePred p] (m : Dict κ ν) : Dict κ ν where
  entries := m.entries.filter fun e => p e.1
  nodupKeys := by
    refine Multiset.nodup_keys.1 ?_
    exact Multiset.nodup_of_le (Multiset.map_le_map (Multiset.filter_le _ _))
      (Multiset.nodup_keys.2 m.nodupKeys)

/-- What a restriction keeps and what it drops make up the total. -/
theorem total_restrict_add {w : κ → ν → M} {p : κ → Prop} [DecidablePred p] {m : Dict κ ν} :
    total w (m.restrict p) + total w (m.restrict fun k => ¬ p k) = total w m := by
  simp only [total, restrict]
  rw [← Multiset.sum_add, ← Multiset.map_add, Multiset.filter_add_not]

/-- A restriction is no larger than the whole. -/
theorem total_restrict_le {w : κ → ν → ℕ} {p : κ → Prop} [DecidablePred p] {m : Dict κ ν} :
    total w (m.restrict p) ≤ total w m := by
  rw [← total_restrict_add (p := p) (m := m)]
  exact Nat.le_add_right _ _

variable [DecidableEq κ]

/-- Inserting a new key adds its weight. -/
theorem total_insert_of_notMem {w : κ → ν → M} {m : Dict κ ν} {k : κ} {v : ν} (h : k ∉ m) :
    total w (m.insert k v) = w k v + total w m := by
  simp [total, Finmap.entries_insert_of_notMem h]

/-- An insertion replaces whatever the key had. -/
theorem insert_erase {m : Dict κ ν} {k : κ} {v : ν} :
    (m.erase k).insert k v = m.insert k v := by
  refine Finmap.ext_lookup fun x => ?_
  by_cases hx : x = k
  · subst hx; simp
  · rw [Finmap.lookup_insert_of_ne _ hx, Finmap.lookup_insert_of_ne _ hx,
      Finmap.lookup_erase_ne hx]

/-- A present entry can be taken out and put back. -/
theorem insert_erase_self {m : Dict κ ν} {k : κ} {v : ν} (h : m.lookup k = some v) :
    (m.erase k).insert k v = m := by
  rw [insert_erase]
  refine Finmap.ext_lookup fun x => ?_
  by_cases hx : x = k
  · subst hx; rw [Finmap.lookup_insert, h]
  · rw [Finmap.lookup_insert_of_ne _ hx]

/-- Erasing a present key removes its weight. -/
theorem total_erase_add {w : κ → ν → M} {m : Dict κ ν} {k : κ} {v : ν} (h : m.lookup k = some v) :
    w k v + total w (m.erase k) = total w m := by
  conv_rhs => rw [← insert_erase_self h]
  rw [total_insert_of_notMem Finmap.notMem_erase_self]

/-- Erasing an absent key changes nothing. -/
theorem erase_of_lookup_none {m : Dict κ ν} {k : κ} (h : m.lookup k = none) : m.erase k = m := by
  refine Finmap.ext_lookup fun x => ?_
  by_cases hx : x = k
  · subst hx; rw [Finmap.lookup_erase, h]
  · rw [Finmap.lookup_erase_ne hx]

/-- An inserted key that is erased again leaves the other entries. -/
theorem erase_insert {m : Dict κ ν} {k : κ} {v : ν} : (m.insert k v).erase k = m.erase k := by
  refine Finmap.ext_lookup fun x => ?_
  by_cases hx : x = k
  · subst hx; simp
  · rw [Finmap.lookup_erase_ne hx, Finmap.lookup_erase_ne hx, Finmap.lookup_insert_of_ne _ hx]

/-- Erasing never adds weight. -/
theorem total_erase_le {w : κ → ν → ℕ} {m : Dict κ ν} {k : κ} :
    total w (m.erase k) ≤ total w m := by
  cases h : m.lookup k with
  | none => rw [erase_of_lookup_none h]
  | some v =>
      rw [← total_erase_add h]
      exact Nat.le_add_left _ _

/-- Inserting a key exchanges the weight it had for the new one. -/
theorem total_insert {w : κ → ν → M} {m : Dict κ ν} {k : κ} {v : ν} :
    total w (m.insert k v) + (m.lookup k).elim 0 (w k) = total w m + w k v := by
  cases h : m.lookup k with
  | none =>
      rw [total_insert_of_notMem (Finmap.lookup_eq_none.1 h), Option.elim_none, add_zero, add_comm]
  | some v' =>
      rw [← insert_erase, total_insert_of_notMem Finmap.notMem_erase_self, Option.elim_some,
        ← total_erase_add h, add_comm (w k v), add_comm (w k v'), add_right_comm]

/-- Inserting a weightless entry where the old one was weightless keeps the total. -/
theorem total_insert_of_weightless {w : κ → ν → M} {m : Dict κ ν} {k : κ} {v : ν}
    (h : ∀ v, w k v = 0) : total w (m.insert k v) = total w m := by
  have hin := total_insert (w := w) (m := m) (k := k) (v := v)
  cases hk : m.lookup k with
  | none => simpa [hk, h] using hin
  | some v' => simpa [hk, h] using hin

theorem mem_iff_entry {m : Dict κ ν} {k : κ} {v : ν} :
    m.lookup k = some v ↔ (⟨k, v⟩ : Sigma fun _ => ν) ∈ m.entries := Finmap.lookup_eq_some_iff

/-- A restriction finds exactly the entries of the keys it keeps. -/
@[simp] theorem lookup_restrict {p : κ → Prop} [DecidablePred p] {m : Dict κ ν} {k : κ} :
    (m.restrict p).lookup k = if p k then m.lookup k else none := by
  refine Option.ext fun v => ?_
  by_cases hp : p k <;> simp [mem_iff_entry, restrict, hp]

/-- A weight is at most the total. -/
theorem le_total {w : κ → ν → ℕ} {m : Dict κ ν} {k : κ} {v : ν} (h : m.lookup k = some v) :
    w k v ≤ total w m := by
  rw [← total_erase_add h]
  exact Nat.le_add_right _ _

/-- A total of zero says that every entry is weightless. -/
theorem total_eq_zero {w : κ → ν → ℕ} {m : Dict κ ν} :
    total w m = 0 ↔ ∀ k v, m.lookup k = some v → w k v = 0 := by
  simp only [total, Multiset.sum_eq_zero_iff, Multiset.mem_map, forall_exists_index, and_imp,
    Sigma.forall, mem_iff_entry]
  exact ⟨fun h k v hk => h _ k v hk rfl, fun h _ k v hk hw => hw ▸ h k v hk⟩

/-- A total is the sum over any finite set that holds the keys. -/
theorem total_eq_sum {w : κ → ν → M} {m : Dict κ ν} {keys : Finset κ} (h : m.keys ⊆ keys) :
    total w m = ∑ k ∈ keys, (m.lookup k).elim 0 (w k) := by
  rw [← Finset.sum_subset h fun k _ hk => by
    rw [Finmap.lookup_eq_none.2 (Finmap.mem_keys.not.1 hk), Option.elim_none]]
  rw [Finset.sum_eq_multiset_sum]
  change _ = (Multiset.map _ m.entries.keys).sum
  rw [Multiset.keys, Multiset.map_map]
  refine congrArg Multiset.sum (Multiset.map_congr rfl fun e he => ?_)
  have hlookup : m.lookup e.1 = some e.2 := mem_iff_entry.2 he
  simp [hlookup]

/-- Entries that weigh the same give the same total. -/
theorem total_congr {w : κ → ν → M} {m m' : Dict κ ν}
    (h : ∀ k, (m.lookup k).elim 0 (w k) = (m'.lookup k).elim 0 (w k)) : total w m = total w m' := by
  have hleft : m.keys ⊆ m.keys ∪ m'.keys := Finset.subset_union_left
  have hright : m'.keys ⊆ m.keys ∪ m'.keys := Finset.subset_union_right
  rw [total_eq_sum hleft, total_eq_sum hright]
  exact Finset.sum_congr rfl fun k _ => h k

end Dict

/-- The elements of a finite set in increasing order. -/
def inOrder {α : Type*} [LinearOrder α] (s : Finset α) : List α :=
  Quot.lift (List.insertionSort (· ≤ ·)) (fun l l' h => by
    refine List.Perm.eq_of_pairwise (fun a b _ _ => le_antisymm)
      (List.pairwise_insertionSort _ l) (List.pairwise_insertionSort _ l') ?_
    exact (List.perm_insertionSort _ l).trans (h.trans (List.perm_insertionSort _ l').symm)) s.val

/-- Nothing is lost in listing. -/
@[simp] theorem mem_inOrder {α : Type*} [LinearOrder α] {s : Finset α} {a : α} :
    a ∈ inOrder s ↔ a ∈ s := by
  obtain ⟨⟨l⟩, hl⟩ := s
  exact List.mem_insertionSort (· ≤ ·)

/-- A listing is as long as the set is large. -/
@[simp] theorem length_inOrder {α : Type*} [LinearOrder α] {s : Finset α} :
    (inOrder s).length = s.card := by
  obtain ⟨⟨l⟩, hl⟩ := s
  exact List.length_insertionSort (· ≤ ·) l

/-- A listing names nothing twice. -/
theorem nodup_inOrder {α : Type*} [LinearOrder α] {s : Finset α} : (inOrder s).Nodup := by
  obtain ⟨⟨l⟩, hl⟩ := s
  exact (List.perm_insertionSort (· ≤ ·) l).nodup_iff.2 hl

/-- The sum over a listing is the sum over the set. -/
theorem sum_map_inOrder {α M : Type*} [LinearOrder α] [AddCommMonoid M] {s : Finset α} {f : α → M} :
    ((inOrder s).map f).sum = ∑ a ∈ s, f a := by
  obtain ⟨⟨l⟩, hl⟩ := s
  exact ((List.perm_insertionSort (· ≤ ·) l).map f).sum_eq

end Library
