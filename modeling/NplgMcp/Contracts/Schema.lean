import NplgMcp.Encoding
import NplgMcp.Library.JsonOrder

/-!
# Normalized contract schemas

`normalized_schema` of `contracts/schema.py`, which the contracts of two exporters are compared by. It
is to remove presentation titles only, but its recursion does not know where in a schema it is: a
property that is named `title`, as `DocumentMetadataOutput` has one, goes with its schema.
`removesOnlyTitles_iff` says for which schemas the annotations are all that goes, and
`normalizedSchema_eq_iff` what the comparison of two normalized schemas overlooks.
-/

open Library JsonText

namespace NplgMcp.Contracts

/-! ## The code -/

/-- `_utf8_key`. -/
def utf8Key (value : String) : List ℕ := (encodeUtf8 value).map UInt8.toNat

mutual

/-- `normalize` of `normalized_schema`; the keys are sorted behind the recursion, as their order does
not depend on the values. -/
def normalize : JsonTree → JsonTree
  | .arr items => .arr (normalizeItems items)
  | .obj members => .obj ((normalizeMembers members).insertionSort (ByKey utf8Key))
  | value => value

/-- The items of a list, normalized. -/
def normalizeItems : List JsonTree → List JsonTree
  | [] => []
  | item :: items => normalize item :: normalizeItems items

/-- The members of a dictionary without its title, normalized. -/
def normalizeMembers : List (String × JsonTree) → List (String × JsonTree)
  | [] => []
  | (key, value) :: members =>
    if key ≠ "title" then (key, normalize value) :: normalizeMembers members
    else normalizeMembers members

end

/-- `isinstance(value, dict)`. -/
def isDict : JsonTree → Bool
  | .obj _ => true
  | _ => false

/-- `require_json_object`; the error is the message of a `TypeError`. -/
def requireJsonObject (value : JsonTree) (context : String) : Except String JsonTree :=
  if !value.isJsonValue || !isDict value then .error (context ++ " must be a JSON object")
  else .ok value

/-- `normalized_schema`. -/
def normalizedSchema (schema : JsonTree) : Except String JsonTree :=
  requireJsonObject (normalize schema) "normalized contract schema"

/-! ## Where schemas are -/

/-- What a value in a schema document is: a schema, a collection of named schemas, a list of schemas,
or data. -/
inductive Position where
  | schema
  | named
  | listed
  | data
  deriving DecidableEq, Repr

/-- The keywords of the draft whose values have schemas under names. -/
def namedKeywords : List String := ["$defs", "dependentSchemas", "patternProperties", "properties"]

/-- The keywords of the draft whose values are lists of schemas. -/
def listedKeywords : List String := ["allOf", "anyOf", "oneOf", "prefixItems"]

/-- The keywords of the draft whose values are schemas. -/
def schemaKeywords : List String :=
  ["additionalProperties", "contains", "contentSchema", "else", "if", "items", "not",
    "propertyNames", "then", "unevaluatedItems", "unevaluatedProperties"]

/-- What the value of a keyword is. -/
def keywordPosition (keyword : String) : Position :=
  if keyword ∈ namedKeywords then .named
  else if keyword ∈ listedKeywords then .listed
  else if keyword ∈ schemaKeywords then .schema
  else .data

/-- What the value of a member is. -/
def Position.member (position : Position) (name : String) : Position :=
  match position with
  | .schema => keywordPosition name
  | .named => .schema
  | .listed | .data => .data

/-- What an item is. -/
def Position.item (position : Position) : Position :=
  match position with
  | .listed => .schema
  | .schema | .named | .data => .data

/-- A walk that leaves the title annotations of schema objects out. -/
def annotationWalk : Walk Position where
  keeps position name := !(position == .schema && name == "title")
  member := Position.member
  item := Position.item

/-- A walk that leaves every member out that is named `title`. -/
def titleWalk : Walk Unit where
  keeps _ name := name != "title"
  member _ _ := ()
  item _ := ()

/-- A schema without the title annotations of its schema objects. -/
def withoutTitles (schema : JsonTree) : JsonTree := schema.prune annotationWalk .schema

/-- The schemas differ only in title annotations of schema objects, and in the order of members. -/
def DifferOnlyInTitles (schema schema' : JsonTree) : Prop :=
  SameUpToOrder (withoutTitles schema) (withoutTitles schema')

/-- The schemas differ only in members that are named `title`, wherever they are. -/
def DifferInTitleMembers (schema schema' : JsonTree) : Prop :=
  SameUpToOrder (schema.prune titleWalk ()) (schema'.prune titleWalk ())

mutual

/-- Every member that is named `title` is an annotation of a schema object, or in the value of one. -/
def titlesAnnotate (position : Position) : JsonTree → Bool
  | .arr items => itemTitlesAnnotate position.item items
  | .obj members => memberTitlesAnnotate position members
  | _ => true

/-- Every member of the items that is named `title` is an annotation. -/
def itemTitlesAnnotate (position : Position) : List JsonTree → Bool
  | [] => true
  | item :: items => titlesAnnotate position item && itemTitlesAnnotate position items

/-- Every one of the members that is named `title`, and every such member of their values, is an
annotation. -/
def memberTitlesAnnotate (position : Position) : List (String × JsonTree) → Bool
  | [] => true
  | (name, value) :: members =>
    (if name = "title" then position == .schema else titlesAnnotate (position.member name) value) &&
      memberTitlesAnnotate position members

end

/-- A schema document as the code holds it: an object, whose keys are distinct at every depth, without
infinite numbers. -/
structure SchemaDocument where
  members : List (String × JsonTree)
  dicts : (JsonTree.obj members).Dicts
  finite : (JsonTree.obj members).isJsonValue = true

/-- The document as a tree. -/
def SchemaDocument.tree (schema : SchemaDocument) : JsonTree := .obj schema.members

theorem SchemaDocument.dicts_tree {schema : SchemaDocument} : schema.tree.Dicts := schema.dicts

/-! ## Normal forms -/

theorem utf8Key_injective : Function.Injective utf8Key := by
  intro a b h
  exact encodeUtf8_injective (List.map_injective_iff.2 (fun _ _ => UInt8.toNat_inj.1) h)

theorem normalizeItems_eq {items : List JsonTree} : normalizeItems items = items.map normalize := by
  induction items with
  | nil => rfl
  | cons item items ih => rw [normalizeItems, ih, List.map_cons]

/-- Normalizing leaves every title out and sorts. -/
theorem normalize_eq {value : JsonTree} :
    normalize value = (value.prune titleWalk ()).sorted utf8Key := by
  induction value using JsonTree.structural with
  | leaf value hleaf =>
      rw [JsonTree.prune_of_isLeaf _ _ hleaf, JsonTree.sorted_of_isLeaf _ hleaf]
      cases value with
      | arr items => cases hleaf
      | obj members => cases hleaf
      | _ => rfl
  | arr items ih =>
      rw [normalize, JsonTree.prune, JsonTree.sorted, normalizeItems_eq, pruneItems_eq, sortedItems_eq,
        List.map_map]
      exact congrArg JsonTree.arr (List.map_congr_left fun item hitem => ih item hitem)
  | obj members ih =>
      rw [normalize, JsonTree.prune, JsonTree.sorted]
      congr 2
      induction members with
      | nil => rfl
      | cons member members ihMembers =>
          obtain ⟨name, value⟩ := member
          have hrest := ihMembers fun other hother => ih other (List.mem_cons_of_mem _ hother)
          have hvalue := ih (name, value) (List.mem_cons_self ..)
          rw [normalizeMembers, pruneMembers]
          by_cases hname : name = "title"
          · rw [if_neg (not_not.2 hname), if_neg (by simp [titleWalk, hname]), hrest]
          · rw [if_pos hname, if_pos (by simp [titleWalk, hname]), sortedMembers, hrest, hvalue]

/-- A document is never refused. -/
theorem normalizedSchema_eq (schema : SchemaDocument) :
    normalizedSchema schema.tree = .ok ((schema.tree.prune titleWalk ()).sorted utf8Key) := by
  have hfinite : ((schema.tree.prune titleWalk ()).sorted utf8Key).isJsonValue = true :=
    JsonTree.isJsonValue_sorted (JsonTree.isJsonValue_prune schema.finite)
  unfold normalizedSchema requireJsonObject
  rw [normalize_eq, hfinite]
  rfl

/-- The comparison of two normalized schemas overlooks the members that are named `title`. -/
theorem normalizedSchema_eq_iff (schema schema' : SchemaDocument) :
    normalizedSchema schema.tree = normalizedSchema schema'.tree ↔
      DifferInTitleMembers schema.tree schema'.tree := by
  rw [normalizedSchema_eq, normalizedSchema_eq, Except.ok.injEq,
    sorted_eq_iff utf8Key_injective schema.dicts_tree.prune schema'.dicts_tree.prune]
  rfl

/-! ## What goes with the titles -/

theorem keeps_title : ¬titleWalk.keeps () "title" = true := by simp [titleWalk]

theorem keeps_schema : ¬annotationWalk.keeps .schema "title" = true := by simp [annotationWalk]

/-- Titles are kept outside schema objects. -/
theorem keeps_of_ne_schema {position : Position} (h : position ≠ .schema) :
    annotationWalk.keeps position "title" = true := by
  cases position with
  | schema => exact absurd rfl h
  | _ => rfl

/-- What is not a title is kept. -/
theorem keeps_of_ne_title {position : Position} {name : String} (h : name ≠ "title") :
    annotationWalk.keeps position name = true := by
  simp [annotationWalk, h]

theorem notMem_pruneMembers {value : JsonTree} {members : List (String × JsonTree)} :
    ("title", value) ∉ pruneMembers titleWalk () members := by
  rw [pruneMembers_eq]
  intro h
  obtain ⟨original, horiginal, heq⟩ := List.mem_map.1 h
  have hname : original.1 = "title" := congrArg Prod.fst heq
  simpa [titleWalk, hname] using (List.mem_filter.1 horiginal).2

/-- No title is left where the annotations have gone, exactly if all titles were annotations. -/
theorem prune_withoutTitles_eq_iff {position : Position} {value : JsonTree} :
    (value.prune annotationWalk position).prune titleWalk () = value.prune annotationWalk position ↔
      titlesAnnotate position value = true := by
  induction value using JsonTree.structural generalizing position with
  | leaf value hleaf =>
      rw [JsonTree.prune_of_isLeaf _ _ hleaf, JsonTree.prune_of_isLeaf _ _ hleaf]
      cases value with
      | arr items => cases hleaf
      | obj members => cases hleaf
      | _ => exact iff_of_true rfl rfl
  | arr items ih =>
      rw [JsonTree.prune, JsonTree.prune, titlesAnnotate, JsonTree.arr.injEq]
      rw [show annotationWalk.item position = position.item from rfl,
        show titleWalk.item () = () from rfl]
      induction items with
      | nil => exact iff_of_true rfl rfl
      | cons item items ihItems =>
          have hitem := @ih item (List.mem_cons_self ..) position.item
          have hrest := ihItems fun other hother => ih other (List.mem_cons_of_mem _ hother)
          rw [pruneItems, pruneItems, itemTitlesAnnotate, List.cons.injEq, hitem, hrest,
            Bool.and_eq_true]
  | obj members ih =>
      rw [JsonTree.prune, JsonTree.prune, titlesAnnotate, JsonTree.obj.injEq]
      induction members with
      | nil => exact iff_of_true rfl rfl
      | cons member members ihMembers =>
          obtain ⟨name, value⟩ := member
          have hvalue := @ih (name, value) (List.mem_cons_self ..) (position.member name)
          have hrest := ihMembers fun other hother => ih other (List.mem_cons_of_mem _ hother)
          rw [pruneMembers, memberTitlesAnnotate, Bool.and_eq_true]
          by_cases hname : name = "title"
          · subst hname
            rw [if_pos rfl]
            by_cases hschema : position = .schema
            · subst hschema
              rw [if_neg keeps_schema, hrest]
              exact (and_iff_right rfl).symm
            · rw [if_pos (keeps_of_ne_schema hschema), pruneMembers, if_neg keeps_title]
              refine iff_of_false (fun heq => ?_) fun h => hschema (by simpa using h.1)
              exact notMem_pruneMembers (heq ▸ List.mem_cons_self ..)
          · rw [if_neg hname, if_pos (keeps_of_ne_title hname), pruneMembers,
              if_pos (by simpa [titleWalk] using hname), List.cons.injEq, Prod.mk.injEq, hrest, ← hvalue]
            exact and_congr_left' (and_iff_right rfl)

/-- Leaving all titles out leaves the annotations out. -/
theorem prune_withoutTitles {schema : JsonTree} :
    (withoutTitles schema).prune titleWalk () = schema.prune titleWalk () := by
  refine JsonTree.prune_prune fun position _ name hname => ?_
  have hne : name ≠ "title" := by simpa [titleWalk] using hname
  exact keeps_of_ne_title hne

/-- All titles of a document are annotations of schema objects. -/
def SchemaDocument.TitlesAnnotate (schema : SchemaDocument) : Prop :=
  titlesAnnotate .schema schema.tree = true

/-- Where all titles are annotations, leaving all titles out is leaving the annotations out. -/
theorem SchemaDocument.titlesAnnotate_iff {schema : SchemaDocument} :
    schema.TitlesAnnotate ↔ schema.tree.prune titleWalk () = withoutTitles schema.tree := by
  rw [SchemaDocument.TitlesAnnotate, ← prune_withoutTitles_eq_iff, ← @prune_withoutTitles schema.tree]
  rfl

/-- A document without its titles. -/
def SchemaDocument.untitled (schema : SchemaDocument) : SchemaDocument where
  members := pruneMembers titleWalk () schema.members
  dicts := schema.dicts_tree.prune
  finite := JsonTree.isJsonValue_prune schema.finite

theorem SchemaDocument.tree_untitled {schema : SchemaDocument} :
    schema.untitled.tree = schema.tree.prune titleWalk () := rfl

/-- Leaving titles out a second time changes nothing. -/
theorem prune_prune_titleWalk {value : JsonTree} :
    (value.prune titleWalk ()).prune titleWalk () = value.prune titleWalk () :=
  JsonTree.prune_prune fun _ _ _ hname => hname

theorem SchemaDocument.withoutTitles_untitled {schema : SchemaDocument} :
    withoutTitles schema.untitled.tree = schema.untitled.tree := by
  refine JsonTree.weight_prune.2 ?_
  calc schema.untitled.tree.weight
      = ((withoutTitles schema.untitled.tree).prune titleWalk ()).weight := by
        rw [prune_withoutTitles, SchemaDocument.tree_untitled, prune_prune_titleWalk]
    _ ≤ (withoutTitles schema.untitled.tree).weight := JsonTree.weight_prune.1

theorem SchemaDocument.titlesAnnotate_untitled {schema : SchemaDocument} :
    schema.untitled.TitlesAnnotate := by
  rw [SchemaDocument.titlesAnnotate_iff, SchemaDocument.withoutTitles_untitled,
    SchemaDocument.tree_untitled]
  exact prune_prune_titleWalk

/-! ## The comparison -/

/-- A schema has the same normal form as another one exactly if the two differ in no more than title
annotations and order; of the other one it is known that it has no other titles. -/
def IsToldApart (schema : SchemaDocument) : Prop :=
  ∀ schema' : SchemaDocument, schema'.TitlesAnnotate →
    (normalizedSchema schema.tree = normalizedSchema schema'.tree ↔
      DifferOnlyInTitles schema.tree schema'.tree)

/-- What normalizing is for, at one schema: it changes no normal form, does not see the order of
members, removes the title annotations of schema objects and nothing else, and tells the schema apart
from those that differ in more. -/
structure RemovesOnlyTitles (schema : SchemaDocument) : Prop where
  idempotent : (normalizedSchema schema.tree).bind normalizedSchema = normalizedSchema schema.tree
  unordered : ∀ schema' : SchemaDocument, SameUpToOrder schema.tree schema'.tree →
    normalizedSchema schema'.tree = normalizedSchema schema.tree
  keeps : normalizedSchema schema.tree = .ok ((withoutTitles schema.tree).sorted utf8Key)
  isToldApart : IsToldApart schema

/-- Normalizing a normal form changes nothing. -/
theorem normalizedSchema_idempotent (schema : SchemaDocument) :
    (normalizedSchema schema.tree).bind normalizedSchema = normalizedSchema schema.tree := by
  have hdicts : (schema.tree.prune titleWalk ()).Dicts := schema.dicts_tree.prune
  have hsorted : ((schema.tree.prune titleWalk ()).sorted utf8Key).isJsonValue = true :=
    JsonTree.isJsonValue_sorted (JsonTree.isJsonValue_prune schema.finite)
  -- The walk drops nothing more, in whichever order the members are.
  have hsame : SameUpToOrder (((schema.tree.prune titleWalk ()).sorted utf8Key).prune titleWalk ())
      (schema.tree.prune titleWalk ()) := by
    have hprune : SameUpToOrder _ (((schema.tree.prune titleWalk ()).sorted utf8Key).prune titleWalk ()) :=
      (sameUpToOrder_sorted hdicts).prune
    rw [prune_prune_titleWalk] at hprune
    exact hprune.symm
  have hnormal : normalize ((schema.tree.prune titleWalk ()).sorted utf8Key) =
      (schema.tree.prune titleWalk ()).sorted utf8Key := by
    rw [normalize_eq, hsame.sorted_eq utf8Key_injective]
  rw [normalizedSchema_eq]
  change normalizedSchema _ = _
  unfold normalizedSchema requireJsonObject
  rw [hnormal, hsorted]
  rfl

/-- The order of members is not seen. -/
theorem normalizedSchema_of_sameUpToOrder {schema schema' : SchemaDocument}
    (h : SameUpToOrder schema.tree schema'.tree) :
    normalizedSchema schema'.tree = normalizedSchema schema.tree :=
  ((normalizedSchema_eq_iff schema schema').2 h.prune).symm

/-- Where more than annotations has gone, the normal form is not that of the schema without its
annotations. -/
theorem titlesAnnotate_of_sorted_eq {schema : SchemaDocument}
    (h : (schema.tree.prune titleWalk ()).sorted utf8Key = (withoutTitles schema.tree).sorted utf8Key) :
    schema.TitlesAnnotate := by
  rw [← @prune_withoutTitles schema.tree] at h
  have hall := JsonTree.prune_eq_of_sorted_eq h
  rw [prune_withoutTitles] at hall
  exact SchemaDocument.titlesAnnotate_iff.2 hall

theorem isToldApart_of_titlesAnnotate {schema : SchemaDocument} (h : schema.TitlesAnnotate) :
    IsToldApart schema := by
  intro schema' h'
  rw [normalizedSchema_eq_iff, DifferInTitleMembers, SchemaDocument.titlesAnnotate_iff.1 h,
    SchemaDocument.titlesAnnotate_iff.1 h']
  rfl

/-- A schema with other titles has the normal form of the one without any title. -/
theorem titlesAnnotate_of_isToldApart {schema : SchemaDocument} (h : IsToldApart schema) :
    schema.TitlesAnnotate := by
  have huntitled : DifferInTitleMembers schema.tree schema.untitled.tree := by
    rw [DifferInTitleMembers, SchemaDocument.tree_untitled, prune_prune_titleWalk]
    exact .refl _
  have hdiffer := (h schema.untitled SchemaDocument.titlesAnnotate_untitled).1
    ((normalizedSchema_eq_iff _ _).2 huntitled)
  rw [DifferOnlyInTitles, SchemaDocument.withoutTitles_untitled] at hdiffer
  exact titlesAnnotate_of_sorted_eq (hdiffer.sorted_eq utf8Key_injective).symm

/-- Normalizing removes only presentation titles from a schema exactly if it has no member named
`title` but those; where it has one, already the comparison with other schemas fails. -/
theorem removesOnlyTitles_iff (schema : SchemaDocument) :
    (RemovesOnlyTitles schema ↔ schema.TitlesAnnotate) ∧
      (IsToldApart schema ↔ schema.TitlesAnnotate) := by
  have hlaws : RemovesOnlyTitles schema ↔ schema.TitlesAnnotate := by
    refine ⟨fun h => titlesAnnotate_of_isToldApart h.isToldApart, fun h => ?_⟩
    refine ⟨normalizedSchema_idempotent schema, fun _ => normalizedSchema_of_sameUpToOrder, ?_,
      isToldApart_of_titlesAnnotate h⟩
    rw [normalizedSchema_eq, SchemaDocument.titlesAnnotate_iff.1 h]
  exact ⟨hlaws, titlesAnnotate_of_isToldApart, isToldApart_of_titlesAnnotate⟩

/-- The part of `DocumentMetadataOutput` that says what the title of a document is, with the bound on
its length or without. -/
def titleContract (bounded : Bool) : SchemaDocument where
  members := [("additionalProperties", .bool false),
    ("properties", .obj [("handle", .obj [("type", .str "string")]),
      ("title", .obj (if bounded then [("maxLength", .int 8192), ("type", .str "string")]
        else [("type", .str "string")]))]),
    ("required", .arr [.str "handle", .str "title"]),
    ("title", .str "DocumentMetadataOutput"), ("type", .str "object")]
  dicts := by cases bounded <;> simp [JsonTree.Dicts, itemsDicts, membersDicts]
  finite := by cases bounded <;> rfl

/-- A contract that bounds the titles of documents has the normal form of one that does not. -/
theorem titleContract_not_told_apart :
    normalizedSchema (titleContract true).tree = normalizedSchema (titleContract false).tree ∧
      ¬DifferOnlyInTitles (titleContract true).tree (titleContract false).tree := by
  constructor
  · rw [normalizedSchema_eq, normalizedSchema_eq]
    rfl
  · intro h
    have hweight := congrArg JsonTree.weight (h.sorted_eq utf8Key_injective)
    rw [JsonTree.weight_sorted, JsonTree.weight_sorted] at hweight
    exact absurd hweight (by decide +kernel)

end NplgMcp.Contracts
