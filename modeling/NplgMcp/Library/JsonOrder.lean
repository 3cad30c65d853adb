import Mathlib.Data.List.Lex
import NplgMcp.Library.JsonAscii

/-!
# JSON trees up to the order of their members

`SameUpToOrder` relates trees that differ only in the order of the members of their objects. Sorting
the members by a key of their names (`JsonTree.sorted`) gives related trees, and only these, one form
(`sorted_eq_iff`). A `Walk` goes through a tree with a state and drops some members on its way
(`JsonTree.prune`), whatever their order (`SameUpToOrder.prune`).
-/

namespace Library.JsonText

/-! ## Trees -/

/-- The tree has no parts. -/
def JsonTree.isLeaf : JsonTree → Bool
  | .arr _ | .obj _ => false
  | _ => true

/-- Induction on a tree, with the items of arrays and the values of members. -/
theorem JsonTree.structural {motive : JsonTree → Prop}
    (leaf : ∀ tree : JsonTree, tree.isLeaf = true → motive tree)
    (arr : ∀ items, (∀ item ∈ items, motive item) → motive (.arr items))
    (obj : ∀ members, (∀ member ∈ members, motive member.2) → motive (.obj members)) :
    ∀ tree, motive tree
  | .null => leaf _ rfl
  | .bool _ => leaf _ rfl
  | .int _ => leaf _ rfl
  | .float _ => leaf _ rfl
  | .str _ => leaf _ rfl
  | .arr items => arr items fun item hitem =>
      have := List.sizeOf_lt_of_mem hitem
      structural leaf arr obj item
  | .obj members => obj members fun (key, value) hmember =>
      have := List.sizeOf_lt_of_mem hmember
      structural leaf arr obj value
termination_by tree => sizeOf tree
decreasing_by
  · simp only [JsonTree.arr.sizeOf_spec]
    omega
  · simp only [JsonTree.obj.sizeOf_spec, Prod.mk.sizeOf_spec] at this ⊢
    omega

mutual

/-- The keys of every object are distinct. -/
def JsonTree.Dicts : JsonTree → Prop
  | .arr items => itemsDicts items
  | .obj members => (members.map Prod.fst).Nodup ∧ membersDicts members
  | _ => True

/-- The keys of every object of the items are distinct. -/
def itemsDicts : List JsonTree → Prop
  | [] => True
  | item :: items => item.Dicts ∧ itemsDicts items

/-- The keys of every object of the values are distinct. -/
def membersDicts : List (String × JsonTree) → Prop
  | [] => True
  | (_, value) :: members => value.Dicts ∧ membersDicts members

end

theorem itemsDicts_iff {items : List JsonTree} : itemsDicts items ↔ ∀ item ∈ items, item.Dicts := by
  induction items with
  | nil => simp [itemsDicts]
  | cons item items ih => simp [itemsDicts, ih]

theorem membersDicts_iff {members : List (String × JsonTree)} :
    membersDicts members ↔ ∀ member ∈ members, member.2.Dicts := by
  induction members with
  | nil => simp [membersDicts]
  | cons member members ih => simp [membersDicts, ih]

/-! ## Order -/

/-- The trees differ only in the order of the members of their objects. -/
inductive SameUpToOrder : JsonTree → JsonTree → Prop
  | refl (a : JsonTree) : SameUpToOrder a a
  | symm {a b : JsonTree} : SameUpToOrder a b → SameUpToOrder b a
  | trans {a b c : JsonTree} : SameUpToOrder a b → SameUpToOrder b c → SameUpToOrder a c
  | perm {members members' : List (String × JsonTree)} : (members.map Prod.fst).Nodup →
      members.Perm members' → SameUpToOrder (.obj members) (.obj members')
  | item {front back : List JsonTree} {a b : JsonTree} : SameUpToOrder a b →
      SameUpToOrder (.arr (front ++ a :: back)) (.arr (front ++ b :: back))
  | member {front back : List (String × JsonTree)} {key : String} {a b : JsonTree} :
      SameUpToOrder a b →
      SameUpToOrder (.obj (front ++ (key, a) :: back)) (.obj (front ++ (key, b) :: back))

/-- Items changed one after another. -/
theorem SameUpToOrder.items {f : JsonTree → JsonTree} {items : List JsonTree}
    (h : ∀ item ∈ items, SameUpToOrder item (f item)) :
    SameUpToOrder (.arr items) (.arr (items.map f)) := by
  suffices hfront : ∀ front, SameUpToOrder (.arr (front ++ items)) (.arr (front ++ items.map f)) from
    hfront []
  induction items with
  | nil => exact fun front => .refl _
  | cons item items ih =>
      intro front
      have hitem : SameUpToOrder (.arr (front ++ item :: items)) (.arr (front ++ f item :: items)) :=
        .item (h item (List.mem_cons_self ..))
      have hrest := ih (fun other hother => h other (List.mem_cons_of_mem _ hother)) (front ++ [f item])
      rw [List.append_assoc, List.append_assoc] at hrest
      exact .trans hitem hrest

/-- Values changed one after another. -/
theorem SameUpToOrder.members {f : String → JsonTree → JsonTree}
    {members : List (String × JsonTree)}
    (h : ∀ member ∈ members, SameUpToOrder member.2 (f member.1 member.2)) :
    SameUpToOrder (.obj members) (.obj (members.map fun member => (member.1, f member.1 member.2))) := by
  suffices hfront : ∀ front, SameUpToOrder (.obj (front ++ members))
      (.obj (front ++ members.map fun member => (member.1, f member.1 member.2))) from hfront []
  induction members with
  | nil => exact fun front => .refl _
  | cons member members ih =>
      intro front
      obtain ⟨key, value⟩ := member
      have hvalue : SameUpToOrder (.obj (front ++ (key, value) :: members))
          (.obj (front ++ (key, f key value) :: members)) :=
        .member (h (key, value) (List.mem_cons_self ..))
      have hrest := ih (fun other hother => h other (List.mem_cons_of_mem _ hother))
        (front ++ [(key, f key value)])
      rw [List.append_assoc, List.append_assoc] at hrest
      exact .trans hvalue hrest

section
variable (key : String → List ℕ)

/-- The order of members by a key of their names. -/
def ByKey (first second : String × JsonTree) : Prop := key first.1 ≤ key second.1

instance : DecidableRel (ByKey key) := fun first second =>
  inferInstanceAs (Decidable (key first.1 ≤ key second.1))

instance : Std.Total (ByKey key) := ⟨fun first second => le_total (key first.1) (key second.1)⟩

instance : IsTrans (String × JsonTree) (ByKey key) := ⟨fun _ _ _ => le_trans⟩

mutual

/-- The tree with the members of its objects sorted. -/
def JsonTree.sorted : JsonTree → JsonTree
  | .arr items => .arr (sortedItems items)
  | .obj members => .obj ((sortedMembers members).insertionSort (ByKey key))
  | tree => tree

/-- The items with the members of their objects sorted. -/
def sortedItems : List JsonTree → List JsonTree
  | [] => []
  | item :: items => item.sorted :: sortedItems items

/-- The members with the members of the objects in their values sorted. -/
def sortedMembers : List (String × JsonTree) → List (String × JsonTree)
  | [] => []
  | (name, value) :: members => (name, value.sorted) :: sortedMembers members

end

theorem sortedItems_eq {items : List JsonTree} :
    sortedItems key items = items.map (JsonTree.sorted key) := by
  induction items with
  | nil => rfl
  | cons item items ih => rw [sortedItems, ih, List.map_cons]

theorem sortedMembers_eq {members : List (String × JsonTree)} :
    sortedMembers key members = members.map fun member => (member.1, member.2.sorted key) := by
  induction members with
  | nil => rfl
  | cons member members ih => rw [sortedMembers, ih, List.map_cons]

theorem JsonTree.sorted_of_isLeaf {tree : JsonTree} (h : tree.isLeaf = true) :
    tree.sorted key = tree := by
  cases tree with
  | arr items => cases h
  | obj members => cases h
  | _ => rfl

variable {key}

theorem map_fst_sortedMembers {members : List (String × JsonTree)} :
    (sortedMembers key members).map Prod.fst = members.map Prod.fst := by
  rw [sortedMembers_eq, List.map_map]
  rfl

/-- Members with distinct names have one order. -/
theorem insertionSort_eq_of_perm {members members' : List (String × JsonTree)}
    (hkey : Function.Injective key) (hnames : (members.map Prod.fst).Nodup)
    (hperm : members.Perm members') :
    members.insertionSort (ByKey key) = members'.insertionSort (ByKey key) := by
  have hsorted := (List.perm_insertionSort (ByKey key) members).trans
    (hperm.trans (List.perm_insertionSort (ByKey key) members').symm)
  refine hsorted.eq_of_pairwise (fun first second hfirst hsecond hle hge => ?_)
    (List.pairwise_insertionSort _ _) (List.pairwise_insertionSort _ _)
  have hname : first.1 = second.1 := hkey (le_antisymm hle hge)
  have hfirst' : first ∈ members := (List.mem_insertionSort _).1 hfirst
  have hsecond' : second ∈ members := hperm.mem_iff.2 ((List.mem_insertionSort _).1 hsecond)
  exact List.inj_on_of_nodup_map hnames hfirst' hsecond' hname

/-- Trees that differ in order have one sorted form. -/
theorem SameUpToOrder.sorted_eq {a b : JsonTree} (hkey : Function.Injective key)
    (h : SameUpToOrder a b) : a.sorted key = b.sorted key := by
  induction h with
  | refl a => rfl
  | symm _ ih => exact ih.symm
  | trans _ _ ih ih' => exact ih.trans ih'
  | perm hnames hperm =>
      rename_i members members'
      have hsorted : (sortedMembers key members).Perm (sortedMembers key members') := by
        rw [sortedMembers_eq, sortedMembers_eq]
        exact hperm.map _
      have hsortedNames : ((sortedMembers key members).map Prod.fst).Nodup := by
        rwa [map_fst_sortedMembers]
      rw [JsonTree.sorted, JsonTree.sorted, insertionSort_eq_of_perm hkey hsortedNames hsorted]
  | item _ ih =>
      simp only [JsonTree.sorted, sortedItems_eq, List.map_append, List.map_cons, ih]
  | member _ ih =>
      simp only [JsonTree.sorted, sortedMembers_eq, List.map_append, List.map_cons, ih]

/-- Sorting changes the order only. -/
theorem sameUpToOrder_sorted {tree : JsonTree} (h : tree.Dicts) :
    SameUpToOrder tree (tree.sorted key) := by
  induction tree using JsonTree.structural with
  | leaf tree hleaf =>
      rw [JsonTree.sorted_of_isLeaf key hleaf]
      exact .refl tree
  | arr items ih =>
      rw [JsonTree.sorted, sortedItems_eq]
      exact .items fun item hitem => ih item hitem (itemsDicts_iff.1 h item hitem)
  | obj members ih =>
      obtain ⟨hnames, hvalues⟩ := h
      rw [JsonTree.sorted]
      refine .trans (.members (f := fun _ value => value.sorted key) fun member hmember =>
        ih member hmember (membersDicts_iff.1 hvalues member hmember)) ?_
      rw [← sortedMembers_eq]
      refine .perm ?_ (List.perm_insertionSort _ _).symm
      rwa [map_fst_sortedMembers]

/-- The sorted form tells trees apart that differ in more than order. -/
theorem sorted_eq_iff {a b : JsonTree} (hkey : Function.Injective key) (ha : a.Dicts) (hb : b.Dicts) :
    a.sorted key = b.sorted key ↔ SameUpToOrder a b := by
  constructor
  · intro h
    exact .trans (h ▸ sameUpToOrder_sorted ha) (sameUpToOrder_sorted hb).symm
  · exact SameUpToOrder.sorted_eq hkey

end

/-! ## Walks -/

/-- A walk through a tree with a state: which members it keeps, and its state in a member and in an
item. -/
structure Walk (σ : Type) where
  keeps : σ → String → Bool
  member : σ → String → σ
  item : σ → σ

section
variable {σ : Type} (walk : Walk σ) (state : σ)

mutual

/-- The tree with the members that the walk keeps. -/
def JsonTree.prune (state : σ) : JsonTree → JsonTree
  | .arr items => .arr (pruneItems (walk.item state) items)
  | .obj members => .obj (pruneMembers state members)
  | tree => tree

/-- The items with the members that the walk keeps. -/
def pruneItems (state : σ) : List JsonTree → List JsonTree
  | [] => []
  | item :: items => item.prune state :: pruneItems state items

/-- The members that the walk keeps. -/
def pruneMembers (state : σ) : List (String × JsonTree) → List (String × JsonTree)
  | [] => []
  | (name, value) :: members =>
    if walk.keeps state name then
      (name, value.prune (walk.member state name)) :: pruneMembers state members
    else pruneMembers state members

end

theorem pruneItems_eq {items : List JsonTree} :
    pruneItems walk state items = items.map (JsonTree.prune walk state) := by
  induction items with
  | nil => rfl
  | cons item items ih => rw [pruneItems, ih, List.map_cons]

theorem pruneMembers_eq {members : List (String × JsonTree)} :
    pruneMembers walk state members = (members.filter fun member => walk.keeps state member.1).map
      fun member => (member.1, member.2.prune walk (walk.member state member.1)) := by
  induction members with
  | nil => rfl
  | cons member members ih =>
      rw [pruneMembers]
      rw [List.filter_cons]
      cases walk.keeps state member.1 with
      | true => rw [if_pos rfl, if_pos rfl, List.map_cons, ih]
      | false => rw [if_neg Bool.false_ne_true, if_neg Bool.false_ne_true, ih]

theorem pruneMembers_append {front back : List (String × JsonTree)} :
    pruneMembers walk state (front ++ back) =
      pruneMembers walk state front ++ pruneMembers walk state back := by
  rw [pruneMembers_eq, pruneMembers_eq, pruneMembers_eq, List.filter_append, List.map_append]

theorem JsonTree.prune_of_isLeaf {tree : JsonTree} (h : tree.isLeaf = true) :
    tree.prune walk state = tree := by
  cases tree with
  | arr items => cases h
  | obj members => cases h
  | _ => rfl

variable {walk state}

theorem nodup_pruneMembers {members : List (String × JsonTree)} (h : (members.map Prod.fst).Nodup) :
    ((pruneMembers walk state members).map Prod.fst).Nodup := by
  rw [pruneMembers_eq, List.map_map]
  exact h.sublist (List.filter_sublist.map _)

/-- A walk leaves the keys of every object distinct. -/
theorem JsonTree.Dicts.prune {tree : JsonTree} (h : tree.Dicts) : (tree.prune walk state).Dicts := by
  induction tree using JsonTree.structural generalizing state with
  | leaf tree hleaf =>
      rw [JsonTree.prune_of_isLeaf walk state hleaf]
      exact h
  | arr items ih =>
      rw [JsonTree.prune, JsonTree.Dicts, itemsDicts_iff, pruneItems_eq]
      intro item hitem
      obtain ⟨original, horiginal, rfl⟩ := List.mem_map.1 hitem
      exact ih original horiginal (itemsDicts_iff.1 h original horiginal)
  | obj members ih =>
      obtain ⟨hnames, hvalues⟩ := h
      rw [JsonTree.prune, JsonTree.Dicts, membersDicts_iff]
      refine ⟨nodup_pruneMembers hnames, fun member hmember => ?_⟩
      rw [pruneMembers_eq] at hmember
      obtain ⟨original, horiginal, rfl⟩ := List.mem_map.1 hmember
      have hin := (List.mem_filter.1 horiginal).1
      exact ih original hin (membersDicts_iff.1 hvalues original hin)

/-- What a walk keeps does not depend on the order. -/
theorem SameUpToOrder.prune {a b : JsonTree} (h : SameUpToOrder a b) :
    SameUpToOrder (a.prune walk state) (b.prune walk state) := by
  induction h generalizing state with
  | refl a => exact .refl _
  | symm _ ih => exact ih.symm
  | trans _ _ ih ih' => exact ih.trans ih'
  | perm hnames hperm =>
      refine .perm (nodup_pruneMembers hnames) ?_
      rw [pruneMembers_eq, pruneMembers_eq]
      exact (hperm.filter _).map _
  | item _ ih =>
      simp only [JsonTree.prune, pruneItems_eq, List.map_append, List.map_cons]
      exact .item ih
  | @member front back name a b _ ih =>
      rw [JsonTree.prune, JsonTree.prune, pruneMembers_append, pruneMembers_append, pruneMembers,
        pruneMembers]
      cases walk.keeps state name with
      | true =>
          rw [if_pos rfl, if_pos rfl]
          exact .member ih
      | false => exact .refl _

/-- A walk behind one that keeps all that it keeps. -/
theorem JsonTree.prune_prune {τ : Type} {other : Walk τ} {state' : τ} {tree : JsonTree}
    (h : ∀ state state' name, other.keeps state' name = true → walk.keeps state name = true) :
    (tree.prune walk state).prune other state' = tree.prune other state' := by
  induction tree using JsonTree.structural generalizing state state' with
  | leaf tree hleaf => rw [JsonTree.prune_of_isLeaf walk state hleaf]
  | arr items ih =>
      rw [JsonTree.prune, JsonTree.prune, JsonTree.prune, pruneItems_eq, pruneItems_eq, pruneItems_eq,
        List.map_map]
      exact congrArg JsonTree.arr (List.map_congr_left fun item hitem => ih item hitem)
  | obj members ih =>
      rw [JsonTree.prune, JsonTree.prune, JsonTree.prune]
      congr 1
      induction members with
      | nil => rfl
      | cons member members ihMembers =>
          obtain ⟨name, value⟩ := member
          have hrest := ihMembers fun other hother => ih other (List.mem_cons_of_mem _ hother)
          have hvalue := @ih (name, value) (List.mem_cons_self ..)
          rw [pruneMembers, pruneMembers]
          cases hother : other.keeps state' name with
          | true =>
              rw [if_pos (h state state' name hother), if_pos rfl, pruneMembers, if_pos hother, hrest,
                hvalue]
          | false =>
              rw [if_neg Bool.false_ne_true]
              cases walk.keeps state name with
              | true => rw [if_pos rfl, pruneMembers, hother, if_neg Bool.false_ne_true, hrest]
              | false => rw [if_neg Bool.false_ne_true, hrest]

end

/-! ## Finite numbers -/

theorem itemsAreJsonValues_iff {items : List JsonTree} :
    itemsAreJsonValues items = true ↔ ∀ item ∈ items, item.isJsonValue = true := by
  induction items with
  | nil => simp [itemsAreJsonValues]
  | cons item items ih => simp [itemsAreJsonValues, ih]

theorem membersAreJsonValues_iff {members : List (String × JsonTree)} :
    membersAreJsonValues members = true ↔ ∀ member ∈ members, member.2.isJsonValue = true := by
  induction members with
  | nil => simp [membersAreJsonValues]
  | cons member members ih => simp [membersAreJsonValues, ih]

/-- Sorting brings no infinite number in. -/
theorem JsonTree.isJsonValue_sorted {key : String → List ℕ} {tree : JsonTree}
    (h : tree.isJsonValue = true) : (tree.sorted key).isJsonValue = true := by
  induction tree using JsonTree.structural with
  | leaf tree hleaf => rwa [JsonTree.sorted_of_isLeaf key hleaf]
  | arr items ih =>
      rw [JsonTree.sorted, JsonTree.isJsonValue, itemsAreJsonValues_iff, sortedItems_eq]
      intro item hitem
      obtain ⟨original, horiginal, rfl⟩ := List.mem_map.1 hitem
      exact ih original horiginal (itemsAreJsonValues_iff.1 h original horiginal)
  | obj members ih =>
      rw [JsonTree.sorted, JsonTree.isJsonValue, membersAreJsonValues_iff, sortedMembers_eq]
      intro member hmember
      obtain ⟨original, horiginal, rfl⟩ := List.mem_map.1 ((List.mem_insertionSort _).1 hmember)
      exact ih original horiginal (membersAreJsonValues_iff.1 h original horiginal)

/-- A walk brings no infinite number in. -/
theorem JsonTree.isJsonValue_prune {σ : Type} {walk : Walk σ} {state : σ} {tree : JsonTree}
    (h : tree.isJsonValue = true) : (tree.prune walk state).isJsonValue = true := by
  induction tree using JsonTree.structural generalizing state with
  | leaf tree hleaf => rwa [JsonTree.prune_of_isLeaf walk state hleaf]
  | arr items ih =>
      rw [JsonTree.prune, JsonTree.isJsonValue, itemsAreJsonValues_iff, pruneItems_eq]
      intro item hitem
      obtain ⟨original, horiginal, rfl⟩ := List.mem_map.1 hitem
      exact ih original horiginal (itemsAreJsonValues_iff.1 h original horiginal)
  | obj members ih =>
      rw [JsonTree.prune, JsonTree.isJsonValue, membersAreJsonValues_iff, pruneMembers_eq]
      intro member hmember
      obtain ⟨original, horiginal, rfl⟩ := List.mem_map.1 hmember
      have hin := (List.mem_filter.1 horiginal).1
      exact ih original hin (membersAreJsonValues_iff.1 h original hin)

/-! ## Weights -/

mutual

/-- How many members the objects of a tree have. -/
def JsonTree.weight : JsonTree → ℕ
  | .arr items => itemsWeight items
  | .obj members => membersWeight members
  | _ => 0

/-- How many members the objects of the items have. -/
def itemsWeight : List JsonTree → ℕ
  | [] => 0
  | item :: items => item.weight + itemsWeight items

/-- How many members there are, with those of the objects in their values. -/
def membersWeight : List (String × JsonTree) → ℕ
  | [] => 0
  | (_, value) :: members => value.weight + 1 + membersWeight members

end

theorem itemsWeight_eq {items : List JsonTree} :
    itemsWeight items = (items.map JsonTree.weight).sum := by
  induction items with
  | nil => rfl
  | cons item items ih => rw [itemsWeight, ih, List.map_cons, List.sum_cons]

theorem membersWeight_eq {members : List (String × JsonTree)} :
    membersWeight members = (members.map fun member => member.2.weight + 1).sum := by
  induction members with
  | nil => rfl
  | cons member members ih => rw [membersWeight, ih, List.map_cons, List.sum_cons]

/-- Sorting keeps every member. -/
theorem JsonTree.weight_sorted {key : String → List ℕ} {tree : JsonTree} :
    (tree.sorted key).weight = tree.weight := by
  induction tree using JsonTree.structural with
  | leaf tree hleaf => rw [JsonTree.sorted_of_isLeaf key hleaf]
  | arr items ih =>
      rw [JsonTree.sorted, JsonTree.weight, JsonTree.weight, itemsWeight_eq, itemsWeight_eq,
        sortedItems_eq, List.map_map]
      exact congrArg List.sum (List.map_congr_left fun item hitem => ih item hitem)
  | obj members ih =>
      rw [JsonTree.sorted, JsonTree.weight, JsonTree.weight, membersWeight_eq, membersWeight_eq,
        ((List.perm_insertionSort _ _).map _).sum_nat, sortedMembers_eq, List.map_map]
      exact congrArg List.sum (List.map_congr_left fun member hmember =>
        congrArg (· + 1) (ih member hmember))

section
variable {σ : Type} {walk : Walk σ} {state : σ}

/-- A walk that changes a tree has dropped a member of it. -/
theorem JsonTree.weight_prune {tree : JsonTree} : (tree.prune walk state).weight ≤ tree.weight ∧
    (tree.weight ≤ (tree.prune walk state).weight → tree.prune walk state = tree) := by
  induction tree using JsonTree.structural generalizing state with
  | leaf tree hleaf =>
      rw [JsonTree.prune_of_isLeaf walk state hleaf]
      exact ⟨le_refl _, fun _ => rfl⟩
  | arr items ih =>
      have hitems : itemsWeight (pruneItems walk (walk.item state) items) ≤ itemsWeight items ∧
          (itemsWeight items ≤ itemsWeight (pruneItems walk (walk.item state) items) →
            pruneItems walk (walk.item state) items = items) := by
        induction items with
        | nil => exact ⟨le_refl _, fun _ => rfl⟩
        | cons item items ihItems =>
            obtain ⟨hle, heq⟩ := @ih item (List.mem_cons_self ..) (walk.item state)
            obtain ⟨hrest, hrestEq⟩ := ihItems fun other hother =>
              ih other (List.mem_cons_of_mem _ hother)
            rw [pruneItems, itemsWeight, itemsWeight]
            refine ⟨by omega, fun h => ?_⟩
            rw [heq (by omega), hrestEq (by omega)]
      exact ⟨hitems.1, fun h => congrArg JsonTree.arr (hitems.2 h)⟩
  | obj members ih =>
      have hmembers : membersWeight (pruneMembers walk state members) ≤ membersWeight members ∧
          (membersWeight members ≤ membersWeight (pruneMembers walk state members) →
            pruneMembers walk state members = members) := by
        induction members with
        | nil => exact ⟨le_refl _, fun _ => rfl⟩
        | cons member members ihMembers =>
            obtain ⟨name, value⟩ := member
            obtain ⟨hle, heq⟩ :=
              @ih (name, value) (List.mem_cons_self ..) (walk.member state name)
            obtain ⟨hrest, hrestEq⟩ := ihMembers fun other hother =>
              ih other (List.mem_cons_of_mem _ hother)
            dsimp only at hle heq
            rw [pruneMembers]
            cases walk.keeps state name with
            | true =>
                rw [if_pos rfl, membersWeight, membersWeight]
                refine ⟨by omega, fun h => ?_⟩
                rw [heq (by omega), hrestEq (by omega)]
            | false =>
                rw [if_neg Bool.false_ne_true, membersWeight]
                exact ⟨by omega, fun h => by omega⟩
      exact ⟨hmembers.1, fun h => congrArg JsonTree.obj (hmembers.2 h)⟩

/-- A walk that changes a tree changes its sorted form. -/
theorem JsonTree.prune_eq_of_sorted_eq {key : String → List ℕ} {tree : JsonTree}
    (h : (tree.prune walk state).sorted key = tree.sorted key) : tree.prune walk state = tree := by
  have hweight := congrArg JsonTree.weight h
  rw [JsonTree.weight_sorted, JsonTree.weight_sorted] at hweight
  exact JsonTree.weight_prune.2 hweight.ge

end

end Library.JsonText
