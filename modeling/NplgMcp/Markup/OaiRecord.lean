import NplgMcp.Markup.OaiTree
import NplgMcp.Markup.XmlAgreement

/-!
# Which OAI-PMH records are read

A Dublin Core field can have the name `identifier`, that of the header's element: a record with such
a field is refused. All other records of the shape `GetRecordTree` are read field by field, if the
document passes the preflight.
-/

open Library

namespace NplgMcp

/-! ## The fields -/

namespace Platform

variable {read : XmlElement → Option RawMetadataField} {elements : List XmlNode}

theorem foldlM_collectField {fields : List RawMetadataField}
    (h : fields.length + elements.length ≤ parserLimits.maxMetadataFields) :
    elements.foldlM (collectField read) fields =
      .ok (fields ++ (elements.map XmlNode.element).filterMap read) := by
  induction elements generalizing fields with
  | nil => simp [pure, Except.pure]
  | cons node rest ih =>
      rw [List.length_cons] at h
      rw [List.foldlM_cons, List.map_cons, List.filterMap_cons, collectField]
      cases read node.element with
      | none => exact ih (by omega)
      | some field =>
          have hroom : ¬ fields.length ≥ parserLimits.maxMetadataFields := by omega
          have hrest := @ih (fields ++ [field]) (by
            rw [List.length_append, List.length_singleton]
            omega)
          rw [List.append_assoc, List.singleton_append] at hrest
          simp only [if_neg hroom, bind, Except.bind]
          exact hrest

/-- The loop over the fields ends with all of them, if there are not more than allowed. -/
theorem collectFields_eq (h : elements.length ≤ parserLimits.maxMetadataFields) :
    collectFields read elements = .ok ((elements.map XmlNode.element).filterMap read) :=
  foldlM_collectField (by rwa [List.length_nil, Nat.zero_add])

end Platform

namespace XmlElement

variable {element child : XmlElement} {children : List XmlElement} {parentName : Option String}

theorem metadataFields_le_recounts (h : child ∈ children) :
    (child.recount parentName).metadataFields ≤ (recounts parentName children).metadataFields := by
  induction children with
  | nil => cases h
  | cons first rest ih =>
      rw [recounts, XmlRecount.metadataFields_add]
      rcases List.mem_cons.1 h with rfl | h
      · exact Nat.le_add_right _ _
      · exact (ih h).trans (Nat.le_add_left _ _)

theorem recounts_le_recount : (recounts (some (localName element.tag)) element.children).metadataFields ≤
    (element.recount parentName).metadataFields := by
  rw [@XmlRecount.recount_eq_own element]
  exact Nat.le_add_left _ _

/-- An element has at least the metadata fields that a child has. -/
theorem metadataFields_le (h : child ∈ element.children) :
    (child.recount (some (localName element.tag))).metadataFields ≤
      (element.recount parentName).metadataFields :=
  (metadataFields_le_recounts h).trans recounts_le_recount

theorem length_le_metadataFields
    (h : ∀ child ∈ children, XmlPreflight.isField (localName child.tag) parentName = true) :
    children.length ≤ (recounts parentName children).metadataFields := by
  induction children with
  | nil => exact Nat.zero_le _
  | cons first rest ih =>
      have hrest := ih fun child hchild => h child (List.mem_cons_of_mem _ hchild)
      have hfirst : 1 ≤ (first.recount parentName).metadataFields := by
        rw [XmlRecount.recount_eq_own]
        simp only [XmlRecount.metadataFields_add, XmlRecount.own, startRecount,
          h first (List.mem_cons_self ..), if_true]
        omega
      rw [List.length_cons, recounts, XmlRecount.metadataFields_add]
      omega

end XmlElement

namespace GetRecordTree

variable {kind : MetadataKind} {tree : GetRecordTree kind} {py : Platform}

/-- There are at most as many fields as the preflight counts. -/
theorem length_fields_le :
    tree.container.children.length ≤ (tree.root.recount none).metadataFields := by
  have hfields : ∀ field ∈ tree.container.children,
      XmlPreflight.isField (localName field.tag) (some (localName tree.container.tag)) = true := by
    intro field hfield
    have hname := tree.fields_name field hfield
    rw [tree.container_name]
    cases kind with
    | dim =>
        rw [List.mem_singleton.1 hname]
        rfl
    | dc => exact Bool.or_true _
  have hcontainer : tree.container ∈ tree.metadata.children := by
    rw [tree.metadata_children]
    exact List.mem_cons_self ..
  calc tree.container.children.length
      ≤ _ := XmlElement.length_le_metadataFields hfields
    _ ≤ _ := XmlElement.recounts_le_recount
    _ ≤ _ := XmlElement.metadataFields_le hcontainer
    _ ≤ _ := XmlElement.metadataFields_le (mem_of_only tree.metadata_only).1
    _ ≤ _ := XmlElement.metadataFields_le (mem_of_only tree.record_only).1
    _ ≤ _ := XmlElement.metadataFields_le (mem_of_only tree.getRecord_only).1

/-- The fields of the record, in document order. -/
def fields (tree : GetRecordTree kind) (py : Platform) : List RawMetadataField :=
  tree.container.children.filterMap (kind.read py)

variable {record header metadata : XmlNode} {handle metadataPrefix : String}

/-- The container, with its place. -/
theorem exists_container (hrecord : record.element = tree.record)
    (hmetadata : metadata.element = tree.metadata) (hmem : metadata ∈ record.iter) :
    ∃ container : XmlNode, requireExactOwnedChild record metadata kind.containerName = .ok container ∧
      container.element = tree.container ∧ container ∈ record.iter := by
  have honly : metadata.element.children.filter
      (fun element => localName element.tag == kind.containerName) = [tree.container] := by
    rw [hmetadata, tree.metadata_children]
    simp [tree.container_name]
  obtain ⟨container, hcontainer, helement⟩ := XmlNode.exists_only honly
  have hchild : container ∈ metadata.children := by
    have hfilter : container ∈ metadata.children.filter
        (fun node => localName node.element.tag == kind.containerName) := by
      rw [hcontainer]
      exact List.mem_cons_self ..
    exact (List.mem_filter.1 hfilter).1
  have hname : container.name = kind.containerName := by
    rw [XmlNode.name, helement, tree.container_name]
  refine ⟨container, ?_, helement, (XmlNode.children_sublist hmem).subset hchild⟩
  refine requireExactOwnedChild_eq hmem hcontainer hname ?_
  rw [hrecord]
  exact tree.count_record_owned.2.2

theorem length_children {node : XmlNode} : node.children.length = node.element.children.length := by
  rw [← @XmlElement.map_element_placed node.path 0 node.element.children, List.length_map]
  rfl

/-- The fields of the record are read, if there are not too many. -/
theorem oaiFields_eq (hrecord : record.element = tree.record)
    (hmetadata : metadata.element = tree.metadata) (hmem : metadata ∈ record.iter)
    (hasked : Text.strip metadataPrefix = kind.metadataPrefix)
    (hlimit : tree.container.children.length ≤ parserLimits.maxMetadataFields) :
    py.oaiFields record metadata metadataPrefix = .ok (tree.fields py, kind.source) := by
  obtain ⟨container, hcontainer, helement, hin⟩ := exists_container hrecord hmetadata hmem
  have hone : ¬ metadata.children.length ≠ 1 := by
    rw [length_children, hmetadata, tree.metadata_children]
    simp
  have hlength : container.children.length ≤ parserLimits.maxMetadataFields := by
    rwa [length_children, helement]
  have hmap : container.children.map XmlNode.element = tree.container.children := by
    rw [← helement]
    exact XmlElement.map_element_placed
  cases kind with
  | dim =>
      have hdim : Text.strip metadataPrefix = "dim" := hasked
      have happroved : container.children.filter (·.name == "field") = container.children := by
        refine List.filter_eq_self.2 fun child hchild => beq_iff_eq.2 ?_
        have hfield : child.element ∈ tree.container.children := by
          rw [← hmap]
          exact List.mem_map_of_mem hchild
        exact List.mem_singleton.1 (tree.fields_name _ hfield)
      -- The fields are among the elements of that name in the record, and there are as many.
      have hdiscovered : container.children = record.iter.filter (·.name == "field") := by
        refine List.Sublist.eq_of_length ?_ ?_
        · rw [← happroved]
          exact (XmlNode.children_sublist hin).filter _
        · rw [XmlNode.length_filter_iter, hrecord, count_field, length_children, helement]
      have howned : ¬ (container.children.length ≠ container.children.length ∨
          container.children.map XmlNode.path ≠ container.children.map XmlNode.path) := by
        simp
      simp only [Platform.oaiFields, hdim, if_true, Platform.dimFields]
      simp only [MetadataKind.containerName] at hcontainer
      rw [hcontainer]
      simp only [bind, Except.bind, if_neg hone, happroved, ← hdiscovered, if_neg howned,
        Platform.collectFields_eq hlength, hmap, pure, Except.pure]
      rfl
  | dc =>
      have hdc : Text.strip metadataPrefix = "oai_dc" := hasked
      have hleaves : ¬ (metadata.children.length ≠ 1 ∨
          container.children.any (fun child => child.children.length ≠ 0) = true) := by
        rintro (h | h)
        · exact hone h
        · obtain ⟨child, hchild, hlength⟩ := List.any_eq_true.1 h
          have hfield : child.element ∈ tree.container.children := by
            rw [← hmap]
            exact List.mem_map_of_mem hchild
          rw [length_children, tree.fields_leaf _ hfield] at hlength
          exact absurd hlength (by decide)
      simp only [Platform.oaiFields, hdc, if_true, Platform.dcFields]
      simp only [MetadataKind.containerName] at hcontainer
      rw [if_neg (by decide), hcontainer]
      simp only [bind, Except.bind, if_neg hleaves, Platform.collectFields_eq hlength, hmap, pure,
        Except.pure]
      rfl

theorem validateOaiIdentifier_eq {identifier : XmlNode} {other : String}
    (hother : py.isHandle other = true) (htext : identifier.element.text = oaiIdentifier other) :
    py.validateOaiIdentifier identifier handle =
      if other = handle then .ok ()
      else .error (upstreamFailure "The OAI-PMH record did not match the requested handle.") := by
  have hne : oaiIdentifier other ≠ "" := by
    simp [oaiIdentifier]
  have hinj : oaiIdentifier other = oaiIdentifier handle ↔ other = handle := by
    rw [oaiIdentifier, oaiIdentifier, String.append_right_inj]
  rw [Platform.validateOaiIdentifier, htext, if_neg hne, Platform.normalize_oaiIdentifier hother]
  by_cases heq : other = handle
  · rw [if_pos heq, if_neg (not_not.2 (hinj.2 heq))]
  · rw [if_neg heq, if_pos (mt hinj.1 heq)]

/-- Neither the record nor its header has a child that does not belong there. -/
theorem children_owned (hrecord : record.element = tree.record)
    (hheader : header.element = tree.header) :
    ¬ (record.children.any (fun child => !Platform.recordTags.contains child.element.tag) = true ∨
      header.children.any (fun child => !Platform.headerTags.contains child.element.tag) = true) := by
  have hmap : ∀ {node child : XmlNode}, child ∈ node.children → child.element ∈ node.element.children := by
    intro node child hchild
    rw [← @XmlElement.map_element_placed node.path 0 node.element.children]
    exact List.mem_map_of_mem hchild
  rintro (h | h)
  · obtain ⟨child, hchild, htag⟩ := List.any_eq_true.1 h
    have hmem := hmap hchild
    rw [hrecord] at hmem
    have hothers := tree.record_others _ hmem
    simp only [Platform.recordTags, List.contains_eq_mem, List.mem_cons, List.not_mem_nil, or_false,
      Bool.not_eq_true', decide_eq_false_iff_not, not_or] at htag
    exact htag.2.2 (hothers htag.1 htag.2.1).1
  · obtain ⟨child, hchild, htag⟩ := List.any_eq_true.1 h
    have hmem := hmap hchild
    rw [hheader] at hmem
    have hothers := tree.header_others _ hmem
    simp only [Platform.headerTags, List.contains_eq_mem, List.mem_cons, List.not_mem_nil, or_false,
      Bool.not_eq_true', decide_eq_false_iff_not, not_or] at htag
    rcases (hothers htag.1).1 with hdatestamp | hsetSpec
    · exact htag.2.1 hdatestamp
    · exact htag.2.2 hsetSpec

/-- What is read of the record: nothing if a field has the name of the header's identifier or the
record is another one, and all fields otherwise. -/
theorem readLocatedRecord_eq {other : String} (hother : py.isHandle other = true)
    (htext : tree.identifier.text = oaiIdentifier other)
    (hasked : Text.strip metadataPrefix = kind.metadataPrefix)
    (hlimit : tree.container.children.length ≤ parserLimits.maxMetadataFields)
    (hfields : tree.fields py ≠ []) (hrecord : record.element = tree.record)
    (hheader : header.element = tree.header) (hmetadata : metadata.element = tree.metadata)
    (hinheader : header ∈ record.iter) (hinmetadata : metadata ∈ record.iter) :
    py.readLocatedRecord record header metadata handle metadataPrefix =
      if tree.fieldsNamed "identifier" ≠ [] then .error ownershipFailure
      else if other = handle then
        .ok (py.recordFromFields handle (tree.fields py) { metadataSource := kind.source })
      else .error (upstreamFailure "The OAI-PMH record did not match the requested handle.") := by
  by_cases hnone : tree.fieldsNamed "identifier" = []
  · rw [if_neg (not_not.2 hnone)]
    have hcount : record.element.count "identifier" = 1 := by
      rw [hrecord, count_identifier, hnone]
      rfl
    have honly : header.element.children.filter (·.tag == oaiTag "identifier") =
        [tree.identifier] := by
      rw [hheader]
      exact tree.identifier_only
    obtain ⟨identifier, hidentifier, helement, -⟩ :=
      exists_owned hinheader (localName_oaiTag (by decide)) honly hcount
    have hvalid := @validateOaiIdentifier_eq py handle identifier other hother (by rw [helement, htext])
    simp only [Platform.readLocatedRecord, hidentifier, hvalid, bind, Except.bind,
      if_neg (children_owned hrecord hheader), pure, Except.pure,
      oaiFields_eq hrecord hmetadata hinmetadata hasked hlimit]
    by_cases heq : other = handle
    · simp only [if_pos heq, if_neg hfields]
    · simp only [if_neg heq]
  · rw [if_pos hnone]
    have hcount : record.element.count "identifier" ≠ 1 := by
      have hpos := List.length_pos_iff.2 hnone
      rw [hrecord, count_identifier]
      omega
    rw [Platform.readLocatedRecord, requireExactOwnedChild_error hcount]
    rfl

/-- The header and the metadata of such a tree are found. -/
theorem readOaiRecord_eq {other : String} (hother : py.isHandle other = true)
    (htext : tree.identifier.text = oaiIdentifier other)
    (hasked : Text.strip metadataPrefix = kind.metadataPrefix)
    (hlimit : tree.container.children.length ≤ parserLimits.maxMetadataFields)
    (hfields : tree.fields py ≠ []) :
    py.readOaiRecord ⟨[], tree.root⟩ handle metadataPrefix =
      if tree.fieldsNamed "identifier" ≠ [] then .error ownershipFailure
      else if other = handle then
        .ok (py.recordFromFields handle (tree.fields py) { metadataSource := kind.source })
      else .error (upstreamFailure "The OAI-PMH record did not match the requested handle.") := by
  obtain ⟨herror, hgetRecord, hrecord⟩ := tree.count_root
  obtain ⟨hheader, hmetadata, -⟩ := tree.count_record_owned
  obtain ⟨getRecord, hgetRecord, hget, hinget⟩ := @exists_owned ⟨[], tree.root⟩ ⟨[], tree.root⟩
    "GetRecord" _ XmlNode.self_mem_iter (localName_oaiTag (by decide)) tree.getRecord_only hgetRecord
  obtain ⟨record, hrecord, hrec, hinrec⟩ := @exists_owned ⟨[], tree.root⟩ getRecord "record" _ hinget
    (localName_oaiTag (by decide)) (hget ▸ tree.record_only) hrecord
  obtain ⟨header, hheader, hhead, hinhead⟩ := @exists_owned record record "header" _
    XmlNode.self_mem_iter (localName_oaiTag (by decide)) (hrec ▸ tree.header_only) (hrec ▸ hheader)
  obtain ⟨metadata, hmetadata, hmeta, hinmeta⟩ := @exists_owned record record "metadata" _
    XmlNode.self_mem_iter (localName_oaiTag (by decide)) (hrec ▸ tree.metadata_only)
    (hrec ▸ hmetadata)
  have hraise : raiseForOaiError ⟨[], tree.root⟩ = .ok () := by
    have hnone : (XmlNode.iter ⟨[], tree.root⟩).filter (·.name == "error") = [] :=
      List.length_eq_zero_iff.1 (XmlNode.length_filter_iter.trans herror)
    rw [raiseForOaiError, ← List.head?_filter, hnone]
    rfl
  rw [← readLocatedRecord_eq hother htext hasked hlimit hfields hrec hhead hmeta hinhead hinmeta,
    Platform.readOaiRecord]
  simp only [hraise, hgetRecord, hrecord, hheader, hmetadata, tree.root_tag, bind, Except.bind,
    ne_eq, not_true_eq_false, if_false]

end GetRecordTree

/-- What comes of a document with such a tree, within the limits. -/
theorem GetRecordTree.parseOaiRecord_eq {py : Platform} {kind : MetadataKind}
    {tree : GetRecordTree kind} {document : XmlDocument} {sizes : List ℕ} {expired : ℕ → Bool}
    {expectedHandle handle other metadataPrefix : String} (hroot : document.root = tree.root)
    (hlimits : document.WithinLimits) (hclock : ∀ reading, expired reading = false)
    (hhandle : py.parseHandleInput expectedHandle = .ok handle)
    (hasked : Text.strip metadataPrefix = kind.metadataPrefix) (hfields : tree.fields py ≠ [])
    (hother : py.isHandle other = true) (htext : tree.identifier.text = oaiIdentifier other) :
    py.parseOaiRecord document sizes expired expectedHandle metadataPrefix =
      if lateTails (document.chunks sizes) ≠ 0 then .error (.app (preflightDisagreement none))
      else if tree.fieldsNamed "identifier" ≠ [] then .error (.app ownershipFailure)
      else if other = handle then
        .ok (py.recordFromFields handle (tree.fields py) { metadataSource := kind.source })
      else .error
        (.app (upstreamFailure "The OAI-PMH record did not match the requested handle.")) := by
  have hlimit : tree.container.children.length ≤ parserLimits.maxMetadataFields := by
    have hcounts := hlimits.counts.metadataFields
    rw [hroot] at hcounts
    exact GetRecordTree.length_fields_le.trans hcounts
  rw [Platform.parseOaiRecord, hhandle, parseXml_eq hlimits hclock]
  simp only [bind, Except.bind]
  by_cases hlate : lateTails (document.chunks sizes) = 0
  · rw [if_pos hlate, if_neg (not_not.2 hlate)]
    simp only [Except.mapError, hroot, readOaiRecord_eq hother htext hasked hlimit hfields]
    by_cases hnone : tree.fieldsNamed "identifier" = []
    · simp only [if_neg (not_not.2 hnone)]
      by_cases heq : other = handle
      · simp only [if_pos heq]
      · simp only [if_neg heq]
    · simp only [if_pos hnone]
  · rw [if_neg hlate, if_pos hlate]
    rfl

/-- The tables as far as ASCII text depends on them. -/
def asciiPlatform : Platform where
  nfc := id
  isDecimal := Char.isDigit
  urlsplit _ := none
  parseQs _ := []
  strptime _ _ := none
  isDecimal_isSpace c h := by
    simp only [Char.isDigit, Bool.and_eq_true, decide_eq_true_eq] at h
    have hlow : 48 ≤ c.val.toNat := h.1
    have hhigh : c.val.toNat ≤ 57 := h.2
    simp only [Text.isSpace]
    grind
  isDecimal_ascii _ h := h
  nfc_plain _ _ := rfl

/-- The tag of a Dublin Core field. -/
def dcTag (name : String) : String := "\x7bhttp://purl.org/dc/elements/1.1/\x7d" ++ name

/-- The tag of a Dublin Core container. -/
def containerTag : String := "\x7bhttp://www.openarchives.org/OAI/2.0/oai_dc/\x7ddc"

/-- An element without attributes that has children but no text. -/
def parentElement (tag : String) (children : List XmlElement) : XmlElement :=
  .mk tag [] "" children ""

/-- An element that has a text only. -/
def textElement (tag text : String) : XmlElement := .mk tag [] text [] ""

/-- The record of a Dublin Core response with one field. -/
def oneFieldRecord (name : String) : XmlElement :=
  parentElement (oaiTag "record")
    [parentElement (oaiTag "header")
      [textElement (oaiTag "identifier") (oaiIdentifier "1234/560975")],
    parentElement (oaiTag "metadata")
      [parentElement containerTag [textElement (dcTag name) "Iveria 1877-06"]]]

/-- The tree of such a response. -/
def oneFieldTree (name : String) (h : localName (dcTag name) ∈ dublinCoreNames) :
    GetRecordTree .dc where
  root := parentElement (oaiTag "OAI-PMH") [parentElement (oaiTag "GetRecord") [oneFieldRecord name]]
  getRecord := parentElement (oaiTag "GetRecord") [oneFieldRecord name]
  record := oneFieldRecord name
  header := parentElement (oaiTag "header")
    [textElement (oaiTag "identifier") (oaiIdentifier "1234/560975")]
  identifier := textElement (oaiTag "identifier") (oaiIdentifier "1234/560975")
  metadata := parentElement (oaiTag "metadata")
    [parentElement containerTag [textElement (dcTag name) "Iveria 1877-06"]]
  container := parentElement containerTag [textElement (dcTag name) "Iveria 1877-06"]
  root_tag := rfl
  getRecord_only := by simp [parentElement, XmlElement.children, XmlElement.tag]
  root_others := by simp [parentElement, XmlElement.children, XmlElement.tag]
  record_only := by simp [parentElement, oneFieldRecord, XmlElement.children, XmlElement.tag]
  getRecord_others := by simp [parentElement, oneFieldRecord, XmlElement.children, XmlElement.tag]
  header_only := by
    simp [parentElement, oneFieldRecord, XmlElement.children, XmlElement.tag, oaiTag_inj]
  metadata_only := by
    simp [parentElement, oneFieldRecord, XmlElement.children, XmlElement.tag, oaiTag_inj]
  record_others := by simp [parentElement, oneFieldRecord, XmlElement.children, XmlElement.tag]
  identifier_only := by simp [parentElement, textElement, XmlElement.children, XmlElement.tag]
  identifier_leaf := rfl
  header_others := by simp [parentElement, textElement, XmlElement.children, XmlElement.tag]
  metadata_children := rfl
  container_name := by
    change localName containerTag = "dc"
    decide
  fields_leaf := by simp [parentElement, textElement, XmlElement.children]
  fields_name := by
    intro field hfield
    obtain rfl := List.mem_singleton.1 hfield
    exact h

/-- The response as a document, with the namespaces declared at the root and at the container. -/
def oneFieldDocument (name : String) (h : localName (dcTag name) ∈ dublinCoreNames) : XmlDocument where
  root := (oneFieldTree name h).root
  ends :=
    let n := name.length
    [54, 65, 73, 81, 93, 140, 149, 159, 273, 278 + n, 298 + 2 * n, 310 + 2 * n, 321 + 2 * n,
      330 + 2 * n, 342 + 2 * n, 352 + 2 * n]
  bytes := 352 + 2 * name.length
  root_tail := rfl
  ends_increasing := by
    simp
    omega
  ends_tags := rfl

theorem oneFieldDocument_withinLimits_title :
    (oneFieldDocument "title" (by decide)).WithinLimits := by
  refine ⟨by decide, by decide, by decide, ⟨?_, ?_, ?_, ?_, ?_, ?_⟩⟩ <;> decide

theorem oneFieldDocument_withinLimits_identifier :
    (oneFieldDocument "identifier" (by decide)).WithinLimits := by
  refine ⟨by decide, by decide, by decide, ⟨?_, ?_, ?_, ?_, ?_, ?_⟩⟩ <;> decide

end NplgMcp
