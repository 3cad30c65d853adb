import NplgMcp.Markup.Xml

/-!
# Sums over an XML tree

The counters of a document within the limits are sums over its elements (`XmlElement.recount`): the
recount of the tree is that sum, and so is the sum over the events of the document.
-/

namespace NplgMcp

/-! ## Sums over a tree -/

namespace XmlRecount

/-- The counters of two parts of a document. -/
instance : Add XmlRecount where
  add a b :=
    { elements := a.elements + b.elements
      textCodePoints := a.textCodePoints + b.textCodePoints
      totalAttributes := a.totalAttributes + b.totalAttributes
      metadataFields := a.metadataFields + b.metadataFields
      records := a.records + b.records
      maxFieldCodePoints := max a.maxFieldCodePoints b.maxFieldCodePoints }

variable {a b c : XmlRecount}

@[simp] theorem elements_add : (a + b).elements = a.elements + b.elements := rfl

@[simp] theorem textCodePoints_add :
    (a + b).textCodePoints = a.textCodePoints + b.textCodePoints := rfl

@[simp] theorem totalAttributes_add :
    (a + b).totalAttributes = a.totalAttributes + b.totalAttributes := rfl

@[simp] theorem metadataFields_add :
    (a + b).metadataFields = a.metadataFields + b.metadataFields := rfl

@[simp] theorem records_add : (a + b).records = a.records + b.records := rfl

@[simp] theorem maxFieldCodePoints_add :
    (a + b).maxFieldCodePoints = max a.maxFieldCodePoints b.maxFieldCodePoints := rfl

@[ext] theorem ext' (h1 : a.elements = b.elements) (h2 : a.textCodePoints = b.textCodePoints)
    (h3 : a.totalAttributes = b.totalAttributes) (h4 : a.metadataFields = b.metadataFields)
    (h5 : a.records = b.records) (h6 : a.maxFieldCodePoints = b.maxFieldCodePoints) : a = b := by
  cases a
  cases b
  simp_all

theorem add_assoc : a + b + c = a + (b + c) := by
  ext <;> simp [Nat.add_assoc, Nat.max_assoc]

theorem add_comm : a + b = b + a := by
  ext <;> simp [Nat.add_comm, Nat.max_comm]

theorem add_zero : a + {} = a := by
  ext <;> simp

/-- All counters are within the limits. -/
structure Within (c : XmlRecount) : Prop where
  elements : c.elements ≤ parserLimits.maxNodes
  textCodePoints : c.textCodePoints ≤ parserLimits.maxTotalTextCodePoints
  totalAttributes : c.totalAttributes ≤ parserLimits.maxTotalAttributes
  metadataFields : c.metadataFields ≤ parserLimits.maxMetadataFields
  records : c.records ≤ parserLimits.maxRecords
  maxFieldCodePoints : c.maxFieldCodePoints ≤ parserLimits.maxFieldCodePoints

/-- What is within the limits with more is within them without. -/
theorem Within.left (h : (a + b).Within) : a.Within :=
  ⟨(Nat.le_add_right _ _).trans h.elements, (Nat.le_add_right _ _).trans h.textCodePoints,
    (Nat.le_add_right _ _).trans h.totalAttributes, (Nat.le_add_right _ _).trans h.metadataFields,
    (Nat.le_add_right _ _).trans h.records, (Nat.le_max_left _ _).trans h.maxFieldCodePoints⟩

end XmlRecount

/-- The code points of attribute names and values. -/
def attributeText (attrib : List (String × String)) : ℕ :=
  (attrib.map fun item => item.1.length + item.2.length).sum

/-- What a start tag adds to the counters. -/
def startRecount (parentName : Option String) (tag : String) (attrib : List (String × String)) :
    XmlRecount where
  elements := 1
  textCodePoints := attributeText attrib
  totalAttributes := attrib.length
  metadataFields := if XmlPreflight.isField (localName tag) parentName then 1 else 0
  records := if localName tag == "record" then 1 else 0

/-- What the text and the tail of an element add. -/
def stopRecount (field : Bool) (text tail : String) : XmlRecount where
  textCodePoints := text.length + tail.length
  maxFieldCodePoints := if field then text.length else 0

mutual

/-- What an element adds to the counters. -/
def XmlElement.recount (parentName : Option String) : XmlElement → XmlRecount
  | .mk tag attrib text children tail =>
    startRecount parentName tag attrib + XmlElement.recounts (some (localName tag)) children +
      stopRecount (XmlPreflight.isField (localName tag) parentName) text tail

/-- What the elements of a list add. -/
def XmlElement.recounts (parentName : Option String) : List XmlElement → XmlRecount
  | [] => {}
  | element :: rest => element.recount parentName + XmlElement.recounts parentName rest

end

mutual

/-- The levels of elements. -/
def XmlElement.height : XmlElement → ℕ
  | .mk _ _ _ children _ => 1 + XmlElement.heights children

/-- The levels of the deepest of a list. -/
def XmlElement.heights : List XmlElement → ℕ
  | [] => 0
  | element :: rest => max element.height (XmlElement.heights rest)

end

mutual

/-- The attributes of the element that has most. -/
def XmlElement.mostAttributes : XmlElement → ℕ
  | .mk _ attrib _ children _ => max attrib.length (XmlElement.mostAttributesOf children)

/-- The attributes of the element of a list that has most. -/
def XmlElement.mostAttributesOf : List XmlElement → ℕ
  | [] => 0
  | element :: rest => max element.mostAttributes (XmlElement.mostAttributesOf rest)

end

/-- The document is within `PARSER_LIMITS`. -/
structure XmlDocument.WithinLimits (document : XmlDocument) : Prop where
  bytes : document.bytes ≤ parserLimits.markupBytes
  depth : document.root.height ≤ parserLimits.maxDepth
  attributes : document.root.mostAttributes ≤ parserLimits.maxAttributesPerNode
  counts : (document.root.recount none).Within

/-! ## The recount -/

/-- The loop over attributes adds them up. -/
theorem XmlPreflight.addAttributes_eq {total : ℕ} {attrib : List (String × String)}
    (h : total + attributeText attrib ≤ parserLimits.maxTotalTextCodePoints) :
    XmlPreflight.addAttributes total attrib = .ok (total + attributeText attrib) := by
  induction attrib generalizing total with
  | nil => rfl
  | cons item rest ih =>
      simp only [attributeText, List.map_cons, List.sum_cons] at h ⊢
      have hrest := @ih (total + item.1.length + item.2.length) (by simp only [attributeText]; omega)
      simp only [XmlPreflight.addAttributes, List.foldlM_cons] at hrest ⊢
      rw [validateTextBudget_eq (by omega)]
      simp only [bind, Except.bind]
      rw [validateTextBudget_eq (by omega)]
      simp only [bind, Except.bind] at hrest ⊢
      rw [hrest, attributeText]
      congr 1
      omega

namespace XmlRecount

variable {c : XmlRecount} {current : XmlElement} {depth : ℕ} {parentName : Option String}
  {stack : List (XmlElement × ℕ × Option String)}

/-- What an element itself adds to the counters. -/
def own (parentName : Option String) (element : XmlElement) : XmlRecount :=
  startRecount parentName element.tag element.attrib +
    stopRecount (XmlPreflight.isField (localName element.tag) parentName) element.text element.tail

theorem recount_eq_own : current.recount parentName =
    own parentName current + XmlElement.recounts (some (localName current.tag)) current.children := by
  obtain ⟨tag, attrib, text, children, tail⟩ := current
  simp only [XmlElement.recount, own, XmlElement.tag, XmlElement.attrib, XmlElement.text,
    XmlElement.tail, XmlElement.children]
  rw [add_assoc, add_assoc, add_comm (a := XmlElement.recounts _ _)]

/-- One turn of the loop counts the element. -/
theorem visit_eq (hdepth : depth ≤ parserLimits.maxDepth)
    (hattributes : current.attrib.length ≤ parserLimits.maxAttributesPerNode)
    (hwithin : (c + own parentName current).Within) :
    c.visit current depth parentName = .ok (c + own parentName current) := by
  obtain ⟨helements, htext, htotal, hfields, hrecords, -⟩ := hwithin
  simp only [own, startRecount, stopRecount, elements_add, textCodePoints_add, totalAttributes_add,
    metadataFields_add, records_add] at helements htext htotal hfields hrecords
  have hstep := @saturatingIncrement_eq c.elements 1 parserLimits.maxNodes (by omega)
  have hattrib := @saturatingIncrement_eq c.totalAttributes current.attrib.length
    parserLimits.maxTotalAttributes (by omega)
  have hfield := @incrementIf_eq (XmlPreflight.isField (localName current.tag) parentName)
    c.metadataFields parserLimits.maxMetadataFields (by omega)
  have hrecord := @incrementIf_eq (localName current.tag == "record") c.records
    parserLimits.maxRecords (by omega)
  have hroom : ¬ (current.attrib.length : ℤ) > parserLimits.maxTotalAttributes - c.totalAttributes := by
    omega
  have hown := @validateTextBudget_eq c.textCodePoints current.text none (by omega)
  have htail := @validateTextBudget_eq (c.textCodePoints + current.text.length) current.tail none
    (by omega)
  have hall := @XmlPreflight.addAttributes_eq
    (c.textCodePoints + current.text.length + current.tail.length) current.attrib (by omega)
  have helements' : ¬ c.elements + 1 > parserLimits.maxNodes := by omega
  simp only [visit, hstep, hattrib, hfield, hrecord, if_neg hroom, hown, htail, hall,
    if_neg (not_lt.2 hdepth), if_neg (not_lt.2 hattributes), if_neg helements', gt_iff_lt, bind,
    Except.bind, pure, Except.pure]
  congr 1
  ext <;> simp only [own, startRecount, stopRecount, elements_add, textCodePoints_add,
    totalAttributes_add, metadataFields_add, records_add, maxFieldCodePoints_add] <;> try omega
  cases XmlPreflight.isField (localName current.tag) parentName <;> simp

/-- What the elements on the stack add. -/
def stackRecount : List (XmlElement × ℕ × Option String) → XmlRecount
  | [] => {}
  | (element, _, parentName) :: rest => element.recount parentName + stackRecount rest

theorem zero_add : ({} : XmlRecount) + a = a := by
  rw [add_comm, add_zero]

theorem stackRecount_append {a b : List (XmlElement × ℕ × Option String)} :
    stackRecount (a ++ b) = stackRecount a + stackRecount b := by
  induction a with
  | nil => exact zero_add.symm
  | cons entry rest ih => simp only [List.cons_append, stackRecount, ih, add_assoc]

/-- The order in which the children are popped does not matter. -/
theorem stackRecount_pushed :
    stackRecount (pushed current depth) =
      XmlElement.recounts (some (localName current.tag)) current.children := by
  unfold pushed
  induction current.children with
  | nil => rfl
  | cons child rest ih =>
      rw [List.map_cons, List.reverse_cons, stackRecount_append, ih, add_comm]
      simp only [stackRecount, XmlElement.recounts, add_zero]

/-- An element on the stack is within the limits that are not sums. -/
def Shallow (entry : XmlElement × ℕ × Option String) : Prop :=
  entry.2.1 + entry.1.height ≤ parserLimits.maxDepth + 1 ∧
    entry.1.mostAttributes ≤ parserLimits.maxAttributesPerNode

theorem height_le_heights {child : XmlElement} {children : List XmlElement}
    (h : child ∈ children) : child.height ≤ XmlElement.heights children := by
  induction children with
  | nil => cases h
  | cons first rest ih =>
      rcases List.mem_cons.1 h with rfl | h
      · exact Nat.le_max_left _ _
      · exact (ih h).trans (Nat.le_max_right _ _)

theorem mostAttributes_le_mostAttributesOf {child : XmlElement} {children : List XmlElement}
    (h : child ∈ children) : child.mostAttributes ≤ XmlElement.mostAttributesOf children := by
  induction children with
  | nil => cases h
  | cons first rest ih =>
      rcases List.mem_cons.1 h with rfl | h
      · exact Nat.le_max_left _ _
      · exact (ih h).trans (Nat.le_max_right _ _)

theorem Shallow.pushed {entry : XmlElement × ℕ × Option String}
    (h : Shallow (current, depth, parentName)) (hentry : entry ∈ pushed current depth) :
    Shallow entry := by
  obtain ⟨tag, attrib, text, children, tail⟩ := current
  obtain ⟨hdepth, hattributes⟩ := h
  simp only [XmlRecount.pushed, XmlElement.children, List.mem_reverse, List.mem_map] at hentry
  obtain ⟨child, hchild, rfl⟩ := hentry
  have hheight := height_le_heights hchild
  have hmost := mostAttributes_le_mostAttributesOf hchild
  simp only [XmlElement.height, XmlElement.mostAttributes] at hdepth hattributes
  exact ⟨by simp only; omega, hmost.trans ((Nat.le_max_right _ _).trans hattributes)⟩

/-- Visiting the first element leaves its own count and those of the elements it pushes. -/
theorem stackRecount_visit {rest : List (XmlElement × ℕ × Option String)} :
    c + stackRecount ((current, depth, parentName) :: rest) =
      c + own parentName current + stackRecount (pushed current depth ++ rest) := by
  rw [stackRecount, recount_eq_own, stackRecount_append, stackRecount_pushed, add_assoc, add_assoc]

theorem Shallow.attrib_length (h : Shallow (current, depth, parentName)) :
    current.attrib.length ≤ parserLimits.maxAttributesPerNode := by
  obtain ⟨tag, attrib, text, children, tail⟩ := current
  exact (Nat.le_max_left _ _).trans h.2

theorem Shallow.depth_le (h : Shallow (current, depth, parentName)) :
    depth ≤ parserLimits.maxDepth := by
  obtain ⟨tag, attrib, text, children, tail⟩ := current
  have hdepth := h.1
  simp only [XmlElement.height] at hdepth
  omega

/-- The loop counts the elements on the stack and all below them. -/
theorem visitAll_eq (hstack : ∀ entry ∈ stack, Shallow entry)
    (hwithin : (c + stackRecount stack).Within) :
    c.visitAll stack = .ok (c + stackRecount stack) := by
  induction c, stack using visitAll.induct with
  | case1 c => rw [visitAll, stackRecount, add_zero]
  | case2 c current depth parentName rest error herror =>
      have hhead := hstack _ (List.mem_cons_self ..)
      rw [stackRecount_visit] at hwithin
      rw [visit_eq hhead.depth_le hhead.attrib_length hwithin.left] at herror
      cases herror
  | case3 c current depth parentName rest c' hc' ih =>
      have hhead := hstack _ (List.mem_cons_self ..)
      rw [stackRecount_visit] at hwithin
      have hvisit := visit_eq hhead.depth_le hhead.attrib_length hwithin.left
      obtain rfl : c + own parentName current = c' := by
        rw [hvisit] at hc'
        exact Except.ok.inj hc'
      rw [visitAll, hc', stackRecount_visit]
      refine ih (fun entry hentry => ?_) hwithin
      rcases List.mem_append.1 hentry with hentry | hentry
      · exact hhead.pushed hentry
      · exact hstack _ (List.mem_cons_of_mem _ hentry)

end XmlRecount

/-- The recount of a document within the limits is the sum over its elements. -/
theorem validateXmlTree_eq {document : XmlDocument} (h : document.WithinLimits) :
    validateXmlTree document.root = .ok (document.root.recount none).counts := by
  have hsum : ({} : XmlRecount) + XmlRecount.stackRecount [(document.root, 1, none)] =
      document.root.recount none := by
    rw [XmlRecount.zero_add, XmlRecount.stackRecount, XmlRecount.stackRecount, XmlRecount.add_zero]
  have hstack : ∀ entry ∈ [(document.root, 1, (none : Option String))], XmlRecount.Shallow entry := by
    intro entry hentry
    obtain rfl := List.mem_singleton.1 hentry
    refine ⟨?_, h.attributes⟩
    have hdepth := h.depth
    simp only
    omega
  unfold validateXmlTree
  rw [XmlRecount.visitAll_eq hstack (hsum ▸ h.counts), hsum]
  rfl

/-! ## The events -/

mutual

/-- The events of an element. -/
def XmlElement.events : XmlElement → List XmlEvent
  | .mk tag attrib text children tail =>
    .start tag attrib :: (XmlElement.eventsOf children ++ [.stop text tail])

/-- The events of a list of elements. -/
def XmlElement.eventsOf : List XmlElement → List XmlEvent
  | [] => []
  | element :: rest => element.events ++ XmlElement.eventsOf rest

end

/-- What events add to the counters of a reader with these open elements. -/
def eventsRecount : List String → List Bool → List XmlEvent → XmlRecount
  | _, _, [] => {}
  | names, fields, .start tag attrib :: rest =>
    startRecount names.head? tag attrib +
      eventsRecount (localName tag :: names)
        (XmlPreflight.isField (localName tag) names.head? :: fields) rest
  | names, fields, .stop text tail :: rest =>
    stopRecount (fields.head?.getD false) text tail + eventsRecount names.tail fields.tail rest

/-- No event of a reader at this depth goes beyond the depth or the attributes allowed. -/
def EventsShallow : ℕ → List XmlEvent → Prop
  | _, [] => True
  | depth, .start _ attrib :: rest =>
    depth + 1 ≤ parserLimits.maxDepth ∧ attrib.length ≤ parserLimits.maxAttributesPerNode ∧
      EventsShallow (depth + 1) rest
  | depth, .stop _ _ :: rest => EventsShallow (depth - 1) rest

mutual

theorem XmlElement.eventsRecount_events {element : XmlElement} {names : List String}
    {fields : List Bool} {rest : List XmlEvent} :
    eventsRecount names fields (element.events ++ rest) =
      element.recount names.head? + eventsRecount names fields rest := by
  match element with
  | .mk tag attrib text children tail =>
      simp only [XmlElement.events, List.cons_append, List.append_assoc, List.nil_append,
        eventsRecount, XmlElement.eventsRecount_eventsOf, List.head?_cons, List.tail_cons,
        Option.getD_some, XmlElement.recount, XmlRecount.add_assoc]

theorem XmlElement.eventsRecount_eventsOf {children : List XmlElement} {names : List String}
    {fields : List Bool} {rest : List XmlEvent} :
    eventsRecount names fields (XmlElement.eventsOf children ++ rest) =
      XmlElement.recounts names.head? children + eventsRecount names fields rest := by
  match children with
  | [] => exact XmlRecount.zero_add.symm
  | child :: others =>
      rw [XmlElement.eventsOf, List.append_assoc, XmlElement.eventsRecount_events,
        XmlElement.eventsRecount_eventsOf, XmlElement.recounts, XmlRecount.add_assoc]

end

mutual

theorem XmlElement.eventsShallow_events {element : XmlElement} {depth : ℕ} {rest : List XmlEvent}
    (hdepth : depth + element.height ≤ parserLimits.maxDepth)
    (hattributes : element.mostAttributes ≤ parserLimits.maxAttributesPerNode)
    (hrest : EventsShallow depth rest) : EventsShallow depth (element.events ++ rest) := by
  match element with
  | .mk tag attrib text children tail =>
      simp only [XmlElement.height, XmlElement.mostAttributes] at hdepth hattributes
      simp only [XmlElement.events, List.cons_append, List.append_assoc, List.nil_append]
      refine ⟨by omega, (Nat.le_max_left _ _).trans hattributes, ?_⟩
      exact XmlElement.eventsShallow_eventsOf (by omega) ((Nat.le_max_right _ _).trans hattributes)
        hrest

theorem XmlElement.eventsShallow_eventsOf {children : List XmlElement} {depth : ℕ}
    {rest : List XmlEvent} (hdepth : depth + XmlElement.heights children ≤ parserLimits.maxDepth)
    (hattributes : XmlElement.mostAttributesOf children ≤ parserLimits.maxAttributesPerNode)
    (hrest : EventsShallow depth rest) :
    EventsShallow depth (XmlElement.eventsOf children ++ rest) := by
  match children with
  | [] => exact hrest
  | child :: others =>
      simp only [XmlElement.heights, XmlElement.mostAttributesOf] at hdepth hattributes
      rw [XmlElement.eventsOf, List.append_assoc]
      refine XmlElement.eventsShallow_events (by omega) ((Nat.le_max_left _ _).trans hattributes) ?_
      exact XmlElement.eventsShallow_eventsOf (by omega) ((Nat.le_max_right _ _).trans hattributes)
        hrest

end

end NplgMcp
