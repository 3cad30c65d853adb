import NplgMcp.Markup.Oai

/-!
# The tree of a `GetRecord` response

An element of the contract is found exactly if its name occurs once in the scope that is searched,
whatever the namespace (`requireExactOwnedChild_eq`, `requireExactOwnedChild_error`). `GetRecordTree`
is the shape of the responses of the repository; in such a tree the names of the contract occur as
`GetRecordTree.count_record_eq` says.
-/

namespace NplgMcp

/-! ## Elements of one name -/

mutual

/-- How many elements have a local name. -/
def XmlElement.count (name : String) : XmlElement → ℕ
  | .mk tag _ _ children _ =>
    (if localName tag = name then 1 else 0) + XmlElement.counts name children

/-- How many elements of a list and below have a local name. -/
def XmlElement.counts (name : String) : List XmlElement → ℕ
  | [] => 0
  | element :: rest => element.count name + XmlElement.counts name rest

end

theorem XmlElement.placed_sublist {path : List ℕ} {index : ℕ} {children : List XmlElement} :
    (XmlElement.placed path index children).Sublist (XmlElement.iterFrom path index children) := by
  induction children generalizing index with
  | nil => exact List.Sublist.refl _
  | cons child rest ih =>
      obtain ⟨tag, attrib, text, children, tail⟩ := child
      rw [XmlElement.placed, XmlElement.iterFrom, XmlElement.iterAt, List.cons_append]
      exact (ih.trans (List.sublist_append_right _ _)).cons_cons _

mutual

theorem XmlElement.iter_sublist_iterAt {node : XmlNode} {element : XmlElement} {path : List ℕ}
    (h : node ∈ element.iterAt path) : node.iter.Sublist (element.iterAt path) := by
  match element with
  | .mk tag attrib text children tail =>
      rw [XmlElement.iterAt] at h ⊢
      rcases List.mem_cons.1 h with rfl | h
      · exact List.Sublist.refl _
      · exact (XmlElement.iter_sublist_iterFrom h).cons _

theorem XmlElement.iter_sublist_iterFrom {node : XmlNode} {children : List XmlElement}
    {path : List ℕ} {index : ℕ} (h : node ∈ XmlElement.iterFrom path index children) :
    node.iter.Sublist (XmlElement.iterFrom path index children) := by
  match children with
  | [] => cases h
  | child :: rest =>
      rw [XmlElement.iterFrom] at h ⊢
      rcases List.mem_append.1 h with h | h
      · exact (XmlElement.iter_sublist_iterAt h).trans (List.sublist_append_left _ _)
      · exact (XmlElement.iter_sublist_iterFrom h).trans (List.sublist_append_right _ _)

end

mutual

theorem XmlElement.length_filter_iterAt {element : XmlElement} {path : List ℕ} {name : String} :
    ((element.iterAt path).filter (·.name == name)).length = element.count name := by
  match element with
  | .mk tag attrib text children tail =>
      have hrest := @XmlElement.length_filter_iterFrom children path 0 name
      rw [XmlElement.iterAt, List.filter_cons, XmlElement.count]
      simp only [XmlNode.name, XmlElement.tag, beq_iff_eq] at hrest ⊢
      split
      · rw [List.length_cons, hrest, Nat.add_comm]
      · rw [hrest, Nat.zero_add]

theorem XmlElement.length_filter_iterFrom {children : List XmlElement} {path : List ℕ} {index : ℕ}
    {name : String} :
    ((XmlElement.iterFrom path index children).filter (·.name == name)).length =
      XmlElement.counts name children := by
  match children with
  | [] => rfl
  | child :: rest =>
      rw [XmlElement.iterFrom, List.filter_append, List.length_append,
        XmlElement.length_filter_iterAt, XmlElement.length_filter_iterFrom, XmlElement.counts]

end

namespace XmlNode

variable {scope owner child node : XmlNode} {name : String}

theorem self_mem_iter : node ∈ node.iter := by
  obtain ⟨path, ⟨tag, attrib, text, children, tail⟩⟩ := node
  exact List.mem_cons_self ..

theorem children_sublist_iter : node.children.Sublist node.iter := by
  obtain ⟨path, ⟨tag, attrib, text, children, tail⟩⟩ := node
  exact XmlElement.placed_sublist.cons _

/-- The children of an element of the scope are elements of the scope. -/
theorem children_sublist (h : owner ∈ scope.iter) : owner.children.Sublist scope.iter :=
  children_sublist_iter.trans (XmlElement.iter_sublist_iterAt h)

theorem length_filter_iter :
    (scope.iter.filter (·.name == name)).length = scope.element.count name :=
  XmlElement.length_filter_iterAt

end XmlNode

/-- The child an owner is asked for, if it has one such child and the scope no other element of that
name. -/
theorem requireExactOwnedChild_eq {scope owner child : XmlNode} {name : String}
    {requiredTag : Option String} (howner : owner ∈ scope.iter)
    (hdirect : owner.children.filter (XmlNode.isAsked name requiredTag) = [child])
    (hname : child.name = name) (hcount : scope.element.count name = 1) :
    requireExactOwnedChild scope owner name requiredTag = .ok child := by
  have hchild : child ∈ owner.children := by
    have hmem : child ∈ owner.children.filter (XmlNode.isAsked name requiredTag) := by
      rw [hdirect]
      exact List.mem_cons_self ..
    exact (List.mem_filter.1 hmem).1
  have hfound : child ∈ scope.iter.filter (·.name == name) :=
    List.mem_filter.2 ⟨(XmlNode.children_sublist howner).subset hchild, beq_iff_eq.2 hname⟩
  obtain ⟨other, hother⟩ := List.length_eq_one_iff.1 (XmlNode.length_filter_iter.trans hcount)
  rw [hother, List.mem_singleton] at hfound
  subst hfound
  simp only [requireExactOwnedChild, hdirect, hother, if_true]

/-- An element whose name does not occur exactly once is refused. -/
theorem requireExactOwnedChild_error {scope owner : XmlNode} {name : String}
    {requiredTag : Option String} (hcount : scope.element.count name ≠ 1) :
    requireExactOwnedChild scope owner name requiredTag = .error ownershipFailure := by
  rw [← XmlNode.length_filter_iter] at hcount
  simp only [requireExactOwnedChild]
  split
  · rename_i hfound
    rw [hfound] at hcount
    exact absurd rfl hcount
  · rfl

theorem XmlElement.map_element_placed {path : List ℕ} {index : ℕ} {children : List XmlElement} :
    (XmlElement.placed path index children).map XmlNode.element = children := by
  induction children generalizing index with
  | nil => rfl
  | cons child rest ih => rw [XmlElement.placed, List.map_cons, ih]

/-- The only child of an element with some property, with its place. -/
theorem XmlNode.exists_only {owner : XmlNode} {p : XmlElement → Bool} {element : XmlElement}
    (h : owner.element.children.filter p = [element]) :
    ∃ child : XmlNode, owner.children.filter (fun node => p node.element) = [child] ∧
      child.element = element := by
  have hmap : (owner.children.filter fun node => p node.element).map XmlNode.element = [element] := by
    rw [← h, ← @XmlElement.map_element_placed owner.path 0 owner.element.children, List.filter_map]
    rfl
  obtain ⟨child, hchild, helement⟩ := List.map_eq_singleton_iff.1 hmap
  exact ⟨child, hchild, helement⟩

/-- The element of the contract that an owner has, with its place. -/
theorem exists_owned {scope owner : XmlNode} {name : String} {element : XmlElement}
    (howner : owner ∈ scope.iter) (htag : localName (oaiTag name) = name)
    (honly : owner.element.children.filter (·.tag == oaiTag name) = [element])
    (hcount : scope.element.count name = 1) :
    ∃ child, requireExactOwnedChild scope owner name (some (oaiTag name)) = .ok child ∧
      child.element = element ∧ child ∈ scope.iter := by
  obtain ⟨child, hchild, helement⟩ := XmlNode.exists_only honly
  have hfilter : child ∈ owner.children.filter fun node => node.element.tag == oaiTag name := by
    rw [hchild]
    exact List.mem_cons_self ..
  have hmem := List.mem_filter.1 hfilter
  have hname : child.name = name := by
    rw [XmlNode.name, beq_iff_eq.1 hmem.2, htag]
  exact ⟨child, requireExactOwnedChild_eq howner hchild hname hcount, helement,
    (XmlNode.children_sublist howner).subset hmem.1⟩

/-! ## The records of the repository -/

/-- The names the contract uses. -/
def contractNames : List String :=
  ["error", "GetRecord", "record", "header", "metadata", "identifier", "dim", "dc", "field"]

/-- The element names of Dublin Core. -/
def dublinCoreNames : List String :=
  ["title", "creator", "subject", "description", "publisher", "contributor", "date", "type",
    "format", "identifier", "source", "language", "relation", "coverage", "rights"]

/-- The two kinds of metadata that are read. -/
inductive MetadataKind where
  | dim
  | dc
  deriving DecidableEq, Repr

namespace MetadataKind

/-- The `metadata_prefix` that asks for it. -/
def metadataPrefix : MetadataKind → String
  | dim => "dim"
  | dc => "oai_dc"

/-- The `metadata_source` of the record. -/
def source : MetadataKind → String
  | dim => "oai_dim"
  | dc => "oai_dc"

/-- The local name of the container. -/
def containerName : MetadataKind → String
  | dim => "dim"
  | dc => "dc"

/-- The local names of the fields. -/
def fieldNames : MetadataKind → List String
  | dim => ["field"]
  | dc => dublinCoreNames

/-- The field an element stands for, unless it is blank or names no metadata element. -/
def read (py : Platform) : MetadataKind → XmlElement → Option RawMetadataField
  | dim => py.dimField
  | dc => py.dcField

end MetadataKind

/-- No name of the contract is used in the element. -/
def XmlElement.Foreign (element : XmlElement) : Prop :=
  ∀ name ∈ contractNames, element.count name = 0

/-- The tree of a `GetRecord` response with one record. -/
structure GetRecordTree (kind : MetadataKind) where
  root : XmlElement
  getRecord : XmlElement
  record : XmlElement
  header : XmlElement
  identifier : XmlElement
  metadata : XmlElement
  container : XmlElement
  root_tag : root.tag = oaiTag "OAI-PMH"
  getRecord_only : root.children.filter (·.tag == oaiTag "GetRecord") = [getRecord]
  root_others : ∀ child ∈ root.children, child.tag ≠ oaiTag "GetRecord" → child.Foreign
  record_only : getRecord.children.filter (·.tag == oaiTag "record") = [record]
  getRecord_others : ∀ child ∈ getRecord.children, child.tag ≠ oaiTag "record" → child.Foreign
  header_only : record.children.filter (·.tag == oaiTag "header") = [header]
  metadata_only : record.children.filter (·.tag == oaiTag "metadata") = [metadata]
  record_others : ∀ child ∈ record.children, child.tag ≠ oaiTag "header" →
    child.tag ≠ oaiTag "metadata" → child.tag = oaiTag "about" ∧ child.Foreign
  identifier_only : header.children.filter (·.tag == oaiTag "identifier") = [identifier]
  identifier_leaf : identifier.children = []
  header_others : ∀ child ∈ header.children, child.tag ≠ oaiTag "identifier" →
    (child.tag = oaiTag "datestamp" ∨ child.tag = oaiTag "setSpec") ∧ child.Foreign
  metadata_children : metadata.children = [container]
  container_name : localName container.tag = kind.containerName
  fields_leaf : ∀ field ∈ container.children, field.children = []
  fields_name : ∀ field ∈ container.children, localName field.tag ∈ kind.fieldNames

/-! ## Names in such a tree -/

theorem XmlElement.count_eq {element : XmlElement} {name : String} :
    element.count name =
      (if localName element.tag = name then 1 else 0) + XmlElement.counts name element.children := by
  obtain ⟨tag, attrib, text, children, tail⟩ := element
  rfl

theorem XmlElement.counts_filter {children : List XmlElement} {name : String}
    (p : XmlElement → Bool) :
    XmlElement.counts name children =
      XmlElement.counts name (children.filter p) +
        XmlElement.counts name (children.filter fun child => !p child) := by
  induction children with
  | nil => rfl
  | cons child rest ih =>
      rw [XmlElement.counts, ih]
      cases hp : p child <;> simp only [List.filter_cons, hp, XmlElement.counts, Bool.not_true,
        Bool.not_false, if_true, Bool.false_eq_true, if_false] <;> omega

theorem XmlElement.counts_eq_zero {children : List XmlElement} {name : String}
    (h : ∀ child ∈ children, child.count name = 0) : XmlElement.counts name children = 0 := by
  induction children with
  | nil => rfl
  | cons child rest ih =>
      rw [XmlElement.counts, h child (List.mem_cons_self ..),
        ih fun other hother => h other (List.mem_cons_of_mem _ hother)]

/-- Where all children but one are foreign, the names are those of that one. -/
theorem XmlElement.counts_only {children : List XmlElement} {p : XmlElement → Bool}
    {element : XmlElement} {name : String} (honly : children.filter p = [element])
    (hothers : ∀ child ∈ children, p child = false → child.count name = 0) :
    XmlElement.counts name children = element.count name := by
  have hzero : XmlElement.counts name (children.filter fun child => !p child) = 0 :=
    XmlElement.counts_eq_zero fun child hchild => by
      obtain ⟨hmem, hp⟩ := List.mem_filter.1 hchild
      exact hothers child hmem (by simpa using hp)
  rw [XmlElement.counts_filter p, honly, hzero]
  rfl

/-- The names of leaves. -/
theorem XmlElement.counts_leaves {children : List XmlElement} {name : String}
    (h : ∀ child ∈ children, child.children = []) :
    XmlElement.counts name children =
      (children.filter fun child => localName child.tag == name).length := by
  induction children with
  | nil => rfl
  | cons child rest ih =>
      rw [XmlElement.counts, ih fun other hother => h other (List.mem_cons_of_mem _ hother),
        XmlElement.count_eq, h child (List.mem_cons_self ..), List.filter_cons]
      simp only [XmlElement.counts, Nat.add_zero, beq_iff_eq]
      split
      · rw [List.length_cons, Nat.add_comm]
      · rw [Nat.zero_add]

/-- The local name is what stands behind the brace. -/
theorem localName_append {before name : List Char} (h : ∀ c ∈ name, c ≠ '\x7d') :
    localName (String.ofList (before ++ '\x7d' :: name)) = String.ofList name := by
  have hname : ∀ c ∈ name.reverse, decide (c ≠ '\x7d') = true := by
    intro c hc
    exact decide_eq_true (h c (List.mem_reverse.1 hc))
  rw [localName, String.toList_ofList, List.reverse_append, List.reverse_cons, List.append_assoc,
    List.takeWhile_append_of_pos hname]
  simp

theorem localName_oaiTag {name : String} (h : name.toList.all (· != '\x7d') = true) :
    localName (oaiTag name) = name := by
  have hbrace : ∀ c ∈ name.toList, c ≠ '\x7d' :=
    fun c hc => bne_iff_ne.1 (List.all_eq_true.1 h c hc)
  have htag : oaiTag name = String.ofList
      ("\x7b".toList ++ oaiNamespace.toList ++ '\x7d' :: name.toList) := by
    refine String.toList_inj.1 ?_
    rw [String.toList_ofList, oaiTag, String.toList_append, String.toList_append,
      String.toList_append, List.append_assoc]
    rfl
  rw [htag, localName_append hbrace, String.ofList_toList]

theorem oaiTag_inj {name other : String} : oaiTag name = oaiTag other ↔ name = other := by
  rw [oaiTag, oaiTag, String.append_right_inj]

namespace GetRecordTree

variable {kind : MetadataKind} {tree : GetRecordTree kind} {name : String}

/-- Where the names of the contract are in the record. -/
theorem count_record (hname : name ∈ contractNames) :
    tree.record.count name =
      (if localName tree.record.tag = name then 1 else 0) + tree.header.count name +
        tree.metadata.count name := by
  have hothers : ∀ child ∈ tree.record.children.filter fun child => !(child.tag == oaiTag "header"),
      (child.tag == oaiTag "metadata") = false → child.count name = 0 := by
    intro child hchild hmetadata
    obtain ⟨hmem, hheader⟩ := List.mem_filter.1 hchild
    exact (tree.record_others child hmem (by simpa using hheader) (by simpa using hmetadata)).2 name
      hname
  have honly : (tree.record.children.filter fun child => !(child.tag == oaiTag "header")).filter
      (·.tag == oaiTag "metadata") = [tree.metadata] := by
    rw [← tree.metadata_only, List.filter_filter]
    refine List.filter_congr fun child _ => ?_
    cases hmetadata : child.tag == oaiTag "metadata" with
    | false => rfl
    | true =>
        have hne : oaiTag "metadata" ≠ oaiTag "header" := mt oaiTag_inj.1 (by decide)
        rw [beq_iff_eq.1 hmetadata]
        simp [hne]
  rw [XmlElement.count_eq, XmlElement.counts_filter (·.tag == oaiTag "header"), tree.header_only,
    XmlElement.counts_only honly hothers, Nat.add_assoc]
  rfl

theorem mem_of_only {children : List XmlElement} {p : XmlElement → Bool} {element : XmlElement}
    (honly : children.filter p = [element]) : element ∈ children ∧ p element = true := by
  have hmem : element ∈ children.filter p := by
    rw [honly]
    exact List.mem_cons_self ..
  exact List.mem_filter.1 hmem

theorem localName_of_only {children : List XmlElement} {element : XmlElement}
    (honly : children.filter (·.tag == oaiTag name) = [element])
    (hbrace : name.toList.all (· != '\x7d') = true) : localName element.tag = name := by
  rw [beq_iff_eq.1 (mem_of_only honly).2, localName_oaiTag hbrace]

/-- The fields of the container with a local name. -/
def fieldsNamed (tree : GetRecordTree kind) (name : String) : List XmlElement :=
  tree.container.children.filter fun field => localName field.tag == name

/-- Where the names of the contract are in the tree. -/
theorem count_record_eq (hname : name ∈ contractNames) :
    tree.record.count name =
      (if "record" = name then 1 else 0) + (if "header" = name then 1 else 0) +
        (if "identifier" = name then 1 else 0) + (if "metadata" = name then 1 else 0) +
        (if kind.containerName = name then 1 else 0) + (tree.fieldsNamed name).length := by
  have hothers : ∀ child ∈ tree.header.children, (child.tag == oaiTag "identifier") = false →
      child.count name = 0 := by
    intro child hchild hidentifier
    exact (tree.header_others child hchild (by simpa using hidentifier)).2 name hname
  rw [count_record hname, @XmlElement.count_eq tree.header, @XmlElement.count_eq tree.metadata,
    XmlElement.counts_only tree.identifier_only hothers, @XmlElement.count_eq tree.identifier,
    tree.identifier_leaf, tree.metadata_children, localName_of_only tree.record_only (by decide),
    localName_of_only tree.header_only (by decide),
    localName_of_only tree.metadata_only (by decide),
    localName_of_only tree.identifier_only (by decide)]
  simp only [XmlElement.counts, @XmlElement.count_eq tree.container, tree.container_name,
    XmlElement.counts_leaves tree.fields_leaf, fieldsNamed]
  omega

@[inherit_doc count_record_eq]
theorem count_root_eq (hname : name ∈ contractNames) :
    tree.root.count name = (if "GetRecord" = name then 1 else 0) + tree.record.count name := by
  have hroot : localName tree.root.tag ≠ name := by
    rw [tree.root_tag, localName_oaiTag (by decide)]
    rintro rfl
    exact absurd hname (by decide)
  have hothers : ∀ child ∈ tree.root.children, (child.tag == oaiTag "GetRecord") = false →
      child.count name = 0 := by
    intro child hchild htag
    exact tree.root_others child hchild (by simpa using htag) name hname
  have hothers' : ∀ child ∈ tree.getRecord.children, (child.tag == oaiTag "record") = false →
      child.count name = 0 := by
    intro child hchild htag
    exact tree.getRecord_others child hchild (by simpa using htag) name hname
  rw [XmlElement.count_eq, if_neg hroot, XmlElement.counts_only tree.getRecord_only hothers,
    XmlElement.count_eq, XmlElement.counts_only tree.record_only hothers',
    localName_of_only tree.getRecord_only (by decide), Nat.zero_add]

/-- A name that no field can have. -/
theorem fieldsNamed_eq_nil (hname : name ∉ kind.fieldNames) : tree.fieldsNamed name = [] := by
  refine List.filter_eq_nil_iff.2 fun field hfield heq => hname ?_
  rw [← beq_iff_eq.1 heq]
  exact tree.fields_name field hfield

/-- The names that are looked up in the whole tree. -/
theorem count_root (tree : GetRecordTree kind) :
    tree.root.count "error" = 0 ∧ tree.root.count "GetRecord" = 1 ∧ tree.root.count "record" = 1 := by
  refine ⟨?_, ?_, ?_⟩ <;>
  · rw [count_root_eq (by decide), count_record_eq (by decide),
      fieldsNamed_eq_nil (by cases kind <;> decide)]
    cases kind <;> decide

/-- The names that are looked up in the record and that no field has. -/
theorem count_record_owned (tree : GetRecordTree kind) :
    tree.record.count "header" = 1 ∧ tree.record.count "metadata" = 1 ∧
      tree.record.count kind.containerName = 1 := by
  refine ⟨?_, ?_, ?_⟩ <;>
  · rw [count_record_eq (by cases kind <;> decide), fieldsNamed_eq_nil (by cases kind <;> decide)]
    cases kind <;> decide

/-- The fields named `identifier` count besides the identifier of the header. -/
theorem count_identifier :
    tree.record.count "identifier" = 1 + (tree.fieldsNamed "identifier").length := by
  rw [count_record_eq (by decide)]
  cases kind <;> rfl

/-- The fields of a DIM record are all the elements of that name. -/
theorem count_field {tree : GetRecordTree .dim} :
    tree.record.count "field" = tree.container.children.length := by
  have hall : tree.fieldsNamed "field" = tree.container.children := by
    refine List.filter_eq_self.2 fun field hfield => beq_iff_eq.2 ?_
    exact List.mem_singleton.1 (tree.fields_name field hfield)
  rw [count_record_eq (by decide), hall]
  exact Nat.zero_add _

end GetRecordTree

end NplgMcp
