import Mathlib.Data.Finset.Card
import Mathlib.Data.List.Nodup

/-!
# Walks along links

A finite map from owners to targets is followed from a node until a node owns no link. A walk that
meets no owner twice is a path of the nodes it visits, and if it uses every link it is all there is of
the map. Main results: `walk_eq_some_iff`, for a walk from any node with some nodes visited, and
`covers_iff`, for the walk that uses every link.
-/

namespace Library.Links

variable {α : Type} [DecidableEq α]

/-- The links from node to node of a path. -/
def edges : α → List α → List (α × α)
  | _, [] => []
  | start, next :: rest => (start, next) :: edges next rest

/-- The owners of the links of a path: all its nodes but the last. -/
def owners (start : α) (chain : List α) : List α := (edges start chain).map Prod.fst

/-- The last node of a path. -/
def last : α → List α → α
  | start, [] => start
  | _, next :: rest => last next rest

/-- The links are followed from node to node, and the last node owns none. -/
def IsWalk (links : List (α × α)) : α → List α → Prop
  | start, [] => links.lookup start = none
  | start, next :: rest => links.lookup start = some next ∧ IsWalk links next rest

/-- The links are those of one path that meets no node twice. -/
structure Covers (links : List (α × α)) (start : α) (chain : List α) : Prop where
  nodup : (start :: chain).Nodup
  perm : (edges start chain).Perm links

section
variable {links : List (α × α)} {start next node : α} {chain rest : List α} {visited : Finset α}

/-- The owners that are not visited, of which a walk uses one in each step. -/
def unvisited (links : List (α × α)) (visited : Finset α) : Finset α :=
  (links.map Prod.fst).toFinset \ visited

/-- A link that is found is there. -/
theorem mem_of_lookup (h : links.lookup start = some next) : (start, next) ∈ links := by
  induction links with
  | nil => cases h
  | cons link links ih =>
      obtain ⟨owner, target⟩ := link
      rw [List.lookup_cons] at h
      split at h
      · rename_i heq
        obtain rfl := eq_of_beq heq
        obtain rfl := Option.some.inj h
        exact List.mem_cons_self
      · exact List.mem_cons_of_mem _ (ih h)

/-- Visiting an owner leaves fewer. -/
theorem card_unvisited_lt (h : links.lookup start = some next) (hnew : start ∉ visited) :
    (unvisited links (insert start visited)).card < (unvisited links visited).card := by
  have howner : start ∈ (links.map Prod.fst).toFinset :=
    List.mem_toFinset.2 (List.mem_map_of_mem (mem_of_lookup h))
  refine Finset.card_lt_card (Finset.ssubset_iff_of_subset ?_ |>.2 ⟨start, ?_, ?_⟩)
  · exact Finset.sdiff_subset_sdiff (Finset.Subset.refl _) (Finset.subset_insert _ _)
  · exact Finset.mem_sdiff.2 ⟨howner, hnew⟩
  · exact fun hmem => (Finset.mem_sdiff.1 hmem).2 (Finset.mem_insert_self _ _)

/-- What a walk comes to: its chain, what it has visited and its last node; `none` is a cycle. -/
def walk (links : List (α × α)) (visited : Finset α) (current : α) :
    Option (List α × Finset α × α) :=
  match _hlink : links.lookup current with
  | none => some ([], visited, current)
  | some target =>
    if _hnew : current ∈ visited then none
    else (walk links (insert current visited) target).map fun (chain, visited, last) =>
      (target :: chain, visited, last)
termination_by (unvisited links visited).card
decreasing_by exact card_unvisited_lt _hlink _hnew

/-- **Walks.** A walk comes to a chain exactly if the chain follows the links, and its owners are
distinct and not visited before. -/
theorem walk_eq_some_iff {visited' : Finset α} :
    walk links visited start = some (chain, visited', node) ↔
      IsWalk links start chain ∧ (owners start chain).Nodup ∧
        Disjoint (owners start chain).toFinset visited ∧
        visited' = visited ∪ (owners start chain).toFinset ∧ node = last start chain := by
  fun_induction walk links visited start generalizing chain visited' node with
  | case1 visited current hlink =>
      constructor
      · intro h
        cases h
        refine ⟨hlink, List.nodup_nil, Finset.disjoint_empty_left _, ?_, rfl⟩
        exact (Finset.union_empty _).symm
      · rintro ⟨hwalk, -, -, rfl, rfl⟩
        cases chain with
        | nil =>
            change some ([], visited, current) = some ([], visited ∪ ∅, current)
            rw [Finset.union_empty]
        | cons next rest => cases hlink.symm.trans hwalk.1
  | case2 visited current target hlink hvisited =>
      refine iff_of_false nofun ?_
      rintro ⟨hwalk, -, hdisjoint, -, -⟩
      cases chain with
      | nil =>
          rw [show links.lookup current = none from hwalk] at hlink
          cases hlink
      | cons next rest =>
          exact Finset.disjoint_left.1 hdisjoint (List.mem_toFinset.2 List.mem_cons_self) hvisited
  | case3 visited current target hlink hnew ih =>
      have hcons (rest : List α) :
          (owners current (target :: rest)).toFinset = insert current (owners target rest).toFinset :=
        List.toFinset_cons
      rw [Option.map_eq_some_iff]
      constructor
      · rintro ⟨⟨rest, seen, final⟩, hrest, heq⟩
        obtain ⟨hwalk, hnodup, hdisjoint, rfl, rfl⟩ := ih.1 hrest
        cases heq
        have hcurrent : current ∉ owners target rest := fun hmem =>
          Finset.disjoint_left.1 hdisjoint (List.mem_toFinset.2 hmem) (Finset.mem_insert_self _ _)
        refine ⟨⟨hlink, hwalk⟩, List.nodup_cons.2 ⟨hcurrent, hnodup⟩, ?_, ?_, rfl⟩
        · rw [hcons, Finset.disjoint_insert_left]
          exact ⟨hnew, hdisjoint.mono_right (Finset.subset_insert _ _)⟩
        · rw [hcons, Finset.union_insert, Finset.insert_union]
      · rintro ⟨hwalk, hnodup, hdisjoint, rfl, rfl⟩
        cases chain with
        | nil =>
            rw [show links.lookup current = none from hwalk] at hlink
            cases hlink
        | cons next rest =>
            obtain ⟨hnext, hwalk⟩ := hwalk
            obtain rfl := Option.some.inj (hnext.symm.trans hlink)
            obtain ⟨hcurrent, hnodup⟩ := List.nodup_cons.1 hnodup
            rw [hcons, Finset.disjoint_insert_left] at hdisjoint
            refine ⟨_, ih.2 ⟨hwalk, hnodup, ?_, rfl, rfl⟩, ?_⟩
            · rw [Finset.disjoint_insert_right]
              exact ⟨fun hmem => hcurrent (List.mem_toFinset.1 hmem), hdisjoint.2⟩
            · rw [hcons, Finset.union_insert, Finset.insert_union]
              rfl

/-! ## Walks that use every link -/

/-- The links of a walk are links. -/
theorem edges_subset (h : IsWalk links start chain) : edges start chain ⊆ links := by
  induction chain generalizing start with
  | nil => exact List.nil_subset _
  | cons next rest ih => exact List.cons_subset.2 ⟨mem_of_lookup h.1, ih h.2⟩

omit [DecidableEq α] in
/-- The nodes of a path are its owners and its last node. -/
theorem owners_concat_last : owners start chain ++ [last start chain] = start :: chain := by
  induction chain generalizing start with
  | nil => rfl
  | cons next rest ih => exact congrArg (start :: ·) ih

/-- An owner of a walk has a link, and its last node has none. -/
theorem isWalk_iff : IsWalk links start chain ↔
    (∀ edge ∈ edges start chain, links.lookup edge.1 = some edge.2) ∧
      links.lookup (last start chain) = none := by
  induction chain generalizing start with
  | nil => exact ⟨fun h => ⟨fun _ hmem => absurd hmem List.not_mem_nil, h⟩, fun h => h.2⟩
  | cons next rest ih =>
      change _ ∧ IsWalk links next rest ↔ (∀ edge ∈ (start, next) :: edges next rest, _) ∧
        links.lookup (last next rest) = none
      rw [ih, List.forall_mem_cons, and_assoc]

/-- Of distinct owners every link is found. -/
theorem lookup_of_mem (hnodup : (links.map Prod.fst).Nodup) (h : (start, next) ∈ links) :
    links.lookup start = some next := by
  induction links with
  | nil => cases h
  | cons link links ih =>
      obtain ⟨owner, target⟩ := link
      obtain ⟨hnew, hnodup⟩ := List.nodup_cons.1 hnodup
      rw [List.lookup_cons]
      rcases List.mem_cons.1 h with heq | hmem
      · cases heq
        rw [beq_self_eq_true]
      · have hne : start ≠ owner := by
          rintro rfl
          exact hnew (List.mem_map.2 ⟨_, hmem, rfl⟩)
        rw [beq_eq_false_iff_ne.2 hne]
        exact ih hnodup hmem

/-- **Covering walks.** Of distinct owners, the links are those of one path exactly if the path is a
walk whose owners are distinct and as many as there are links. -/
theorem covers_iff (hlinks : (links.map Prod.fst).Nodup) :
    Covers links start chain ↔ IsWalk links start chain ∧ (owners start chain).Nodup ∧
      (owners start chain).length = links.length := by
  have hnodes := @owners_concat_last α start chain
  constructor
  · rintro ⟨hnodup, hperm⟩
    rw [← hnodes] at hnodup
    obtain ⟨howners, -, hdisjoint⟩ := List.nodup_append.1 hnodup
    refine ⟨isWalk_iff.2 ⟨fun edge hedge => lookup_of_mem hlinks (hperm.subset hedge), ?_⟩, howners, ?_⟩
    · refine List.lookup_eq_none_iff.2 fun link hlink => bne_iff_ne.2 fun heq => ?_
      have howner := List.mem_map_of_mem (f := Prod.fst) (hperm.symm.subset hlink)
      exact hdisjoint _ howner _ (List.mem_singleton.2 rfl) heq.symm
    · rw [owners, List.length_map, hperm.length_eq]
  · rintro ⟨hwalk, howners, hlength⟩
    have hnone := (isWalk_iff.1 hwalk).2
    refine ⟨?_, ?_⟩
    · rw [← hnodes, List.nodup_append]
      refine ⟨howners, List.nodup_singleton _, fun owner howner node hnode heq => ?_⟩
      obtain rfl := List.mem_singleton.1 hnode
      obtain ⟨edge, hedge, rfl⟩ := List.mem_map.1 howner
      have hsome := (isWalk_iff.1 hwalk).1 edge hedge
      rw [heq, hnone] at hsome
      cases hsome
    · have hsubperm := List.subperm_of_subset (List.Nodup.of_map _ howners) (edges_subset hwalk)
      refine hsubperm.perm_of_length_le ?_
      rw [← hlength, owners, List.length_map]

end

end Library.Links
