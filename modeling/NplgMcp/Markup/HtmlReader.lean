import NplgMcp.Markup.HtmlTally

/-!
# The preflight of an HTML page

A page within the limits is read to its end, and the counters are the sums over its nodes
(`HtmlBudgetParser.run_nodes`). The cells that are open while a node is read count its text too.
-/

open Library

namespace NplgMcp

namespace HtmlBudgetParser

variable {p : HtmlBudgetParser} {url : String} {expired : ℕ → Bool} {full data data' : List Char}
  {t t' : HtmlTally} {counters : List (Option CanonicalTextCounter)}

/-- The largest open cell after some text. -/
def fieldMost (data : List Char) : List (Option CanonicalTextCounter) → ℕ
  | [] => 0
  | none :: rest => fieldMost data rest
  | some counter :: rest => max (counter.read data).codePoints (fieldMost data rest)

/-- The largest open cell after some text, with white space collapsed. -/
def semanticFieldMost (data : List Char) : List (Option CanonicalTextCounter) → ℕ
  | [] => 0
  | none :: rest => semanticFieldMost data rest
  | some counter :: rest =>
    max (counter.read data).semanticCodePoints (semanticFieldMost data rest)

/-- The open cells after some text. -/
def readFields (data : List Char) (counters : List (Option CanonicalTextCounter)) :
    List (Option CanonicalTextCounter) :=
  counters.map (Option.map (·.read data))

/-- The reader after a part of the page, as long as nothing is over a limit: with the text in it, the
text without attributes, and what it adds to the counters. -/
def after (p : HtmlBudgetParser) (full data : List Char) (t : HtmlTally) : HtmlBudgetParser :=
  { p with
    elements := p.elements + t.elements
    textCounter := p.textCounter.read full
    totalAttributes := p.totalAttributes + t.attributes
    fieldCounters := readFields data p.fieldCounters
    metadataFields := p.metadataFields + t.metadataFields
    records := p.records + t.records
    maxFieldCodePoints :=
      max p.maxFieldCodePoints (max (fieldMost data p.fieldCounters) t.maxField)
    semanticMaxFieldCodePoints :=
      max p.semanticMaxFieldCodePoints
        (max (semanticFieldMost data p.fieldCounters) t.semanticMaxField) }

/-- No counter is over its limit. -/
structure Within (p : HtmlBudgetParser) : Prop where
  elements : p.elements ≤ parserLimits.maxNodes
  text : p.textCounter.codePoints ≤ parserLimits.maxTotalTextCodePoints
  attributes : p.totalAttributes ≤ parserLimits.maxTotalAttributes
  metadataFields : p.metadataFields ≤ parserLimits.maxMetadataFields
  records : p.records ≤ parserLimits.maxRecords
  maxField : p.maxFieldCodePoints ≤ parserLimits.maxFieldCodePoints

/-- The counters of text are sound, and the largest counts are those of the open cells or larger. -/
structure Ready (p : HtmlBudgetParser) : Prop where
  text : p.textCounter.Sound
  fields : ∀ counter, some counter ∈ p.fieldCounters → counter.Sound ∧
    counter.codePoints ≤ p.maxFieldCodePoints ∧
    counter.semanticCodePoints ≤ p.semanticMaxFieldCodePoints

theorem fieldMost_append :
    fieldMost (data ++ data') counters = fieldMost data' (readFields data counters) := by
  induction counters with
  | nil => rfl
  | cons counter rest ih =>
      cases counter with
      | none => exact ih
      | some counter =>
          rw [fieldMost, ih, ← CanonicalTextCounter.read_append]
          rfl

theorem semanticFieldMost_append :
    semanticFieldMost (data ++ data') counters =
      semanticFieldMost data' (readFields data counters) := by
  induction counters with
  | nil => rfl
  | cons counter rest ih =>
      cases counter with
      | none => exact ih
      | some counter =>
          rw [semanticFieldMost, ih, ← CanonicalTextCounter.read_append]
          rfl

theorem fieldMost_le : fieldMost data counters ≤ fieldMost (data ++ data') counters := by
  induction counters with
  | nil => exact Nat.le_refl _
  | cons counter rest ih =>
      cases counter with
      | none => exact ih
      | some counter =>
          rw [fieldMost, fieldMost, ← CanonicalTextCounter.read_append]
          have hle : (counter.read data).codePoints ≤ ((counter.read data).read data').codePoints :=
            Nat.le_add_right _ _
          omega

theorem semanticFieldMost_le :
    semanticFieldMost data counters ≤ semanticFieldMost (data ++ data') counters := by
  induction counters with
  | nil => exact Nat.le_refl _
  | cons counter rest ih =>
      cases counter with
      | none => exact ih
      | some counter =>
          rw [semanticFieldMost, semanticFieldMost, ← CanonicalTextCounter.read_append]
          have hle : (counter.read data).semanticCodePoints ≤
              ((counter.read data).read data').semanticCodePoints := Nat.le_add_right _ _
          omega

theorem readFields_append :
    readFields data' (readFields data counters) = readFields (data ++ data') counters := by
  rw [readFields, readFields, readFields, List.map_map]
  refine List.map_congr_left fun counter _ => ?_
  cases counter with
  | none => rfl
  | some counter => exact congrArg some CanonicalTextCounter.read_append

/-- Two parts of the page, one after the other. -/
theorem after_after {full' : List Char} :
    (p.after full data t).after full' data' t' = p.after (full ++ full') (data ++ data') (t + t') := by
  have hmost := @fieldMost_le data data' p.fieldCounters
  have hsemantic := @semanticFieldMost_le data data' p.fieldCounters
  simp only [after, CanonicalTextCounter.read_append, readFields_append, ← fieldMost_append,
    ← semanticFieldMost_append, HtmlTally.elements_add, HtmlTally.attributes_add,
    HtmlTally.metadataFields_add, HtmlTally.records_add, HtmlTally.maxField_add,
    HtmlTally.semanticMaxField_add, mk.injEq, Nat.add_assoc, true_and, and_true]
  omega

/-- What is within the limits after a part of the page was so before. -/
theorem Within.before (h : (p.after full data t).Within) : p.Within :=
  ⟨(Nat.le_add_right _ _).trans h.elements, (Nat.le_add_right _ _).trans h.text,
    (Nat.le_add_right _ _).trans h.attributes, (Nat.le_add_right _ _).trans h.metadataFields,
    (Nat.le_add_right _ _).trans h.records, (Nat.le_max_left _ _).trans h.maxField⟩

theorem le_fieldMost {counter : CanonicalTextCounter} (h : some counter ∈ readFields data counters) :
    counter.codePoints ≤ fieldMost data counters ∧
      counter.semanticCodePoints ≤ semanticFieldMost data counters := by
  induction counters with
  | nil => cases h
  | cons first rest ih =>
      cases first with
      | none =>
          rcases List.mem_cons.1 h with h | h
          · cases h
          · exact ih h
      | some first =>
          rcases List.mem_cons.1 h with h | h
          · obtain rfl : counter = first.read data := Option.some.inj h
            exact ⟨Nat.le_max_left _ _, Nat.le_max_left _ _⟩
          · exact ⟨(ih h).1.trans (Nat.le_max_right _ _), (ih h).2.trans (Nat.le_max_right _ _)⟩

theorem Ready.after (h : p.Ready) : (p.after full data t).Ready where
  text := h.text.read
  fields := by
    intro counter hcounter
    obtain ⟨hmost, hsemantic⟩ := le_fieldMost hcounter
    obtain ⟨other, hother, heq⟩ := List.mem_map.1 hcounter
    obtain ⟨other, rfl, rfl⟩ := Option.map_eq_some_iff.1 heq
    refine ⟨(h.fields other hother).1.read, ?_, ?_⟩
    · exact hmost.trans ((Nat.le_max_left _ _).trans (Nat.le_max_right _ _))
    · exact hsemantic.trans ((Nat.le_max_left _ _).trans (Nat.le_max_right _ _))

theorem checkDeadline_eq (hclock : ∀ reading, expired reading = false) :
    p.checkDeadline url expired = .ok { p with clockReads := p.clockReads + 1 } := by
  rw [checkDeadline, hclock, if_neg Bool.false_ne_true]

/-- The reader after some text that is in no cell. -/
def readText (p : HtmlBudgetParser) (s : List Char) : HtmlBudgetParser :=
  { p with textCounter := p.textCounter.read s }

theorem readText_readText {s s' : List Char} : (p.readText s).readText s' = p.readText (s ++ s') := by
  simp only [readText, CanonicalTextCounter.read_append]

theorem addText_eq {value : Option String} (hsound : p.textCounter.Sound)
    (h : p.textCounter.codePoints + (rawValue value).toList.length ≤
      parserLimits.maxTotalTextCodePoints) :
    p.addText url value = .ok (p.readText (rawValue value).toList) := by
  have hadd : p.textCounter.add value = p.textCounter.read (rawValue value).toList := by
    refine CanonicalTextCounter.add_eq hsound ?_
    rwa [← String.length_toList]
  have hlimit : ¬ (p.textCounter.read (rawValue value).toList).codePoints >
      parserLimits.maxTotalTextCodePoints := not_lt.2 h
  rw [addText, hadd, if_neg hlimit]
  rfl

theorem addAttribute_eq {item : String × Option String} (hsound : p.textCounter.Sound)
    (h : p.textCounter.codePoints + (item.1.toList ++ (rawValue item.2).toList).length ≤
      parserLimits.maxTotalTextCodePoints) :
    p.addAttribute url item = .ok (p.readText (item.1.toList ++ (rawValue item.2).toList)) := by
  rw [List.length_append] at h
  have hkey := @addText_eq p url (some item.1) hsound (by
    simp only [rawValue, Option.getD_some]
    omega)
  have hvalue := @addText_eq (p.readText item.1.toList) url item.2 hsound.read (by
    simp only [readText, CanonicalTextCounter.read]
    omega)
  rw [addAttribute, hkey, ← readText_readText]
  exact hvalue

theorem foldlM_addAttribute {attrs : RawAttributes} (hsound : p.textCounter.Sound)
    (h : p.textCounter.codePoints + (HtmlNode.attributesText rawValue attrs).length ≤
      parserLimits.maxTotalTextCodePoints) :
    attrs.foldlM (addAttribute url) p =
      .ok (p.readText (HtmlNode.attributesText rawValue attrs)) := by
  induction attrs generalizing p with
  | nil => rfl
  | cons item rest ih =>
      rw [HtmlNode.attributesText, List.flatMap_cons, List.length_append] at h
      have hitem := @addAttribute_eq p url item hsound (by omega)
      have hrest := @ih (p.readText (item.1.toList ++ (rawValue item.2).toList)) hsound.read (by
        simp only [readText, CanonicalTextCounter.read, HtmlNode.attributesText]
        omega)
      rw [readText_readText] at hrest
      rw [List.foldlM_cons, hitem]
      exact hrest

/-- The start tag of an element within the limits is counted. -/
theorem countElement_eq {attrs : RawAttributes} (hclock : ∀ reading, expired reading = false)
    (hsound : p.textCounter.Sound) (helements : p.elements + 1 ≤ parserLimits.maxNodes)
    (hattributes : attrs.length ≤ parserLimits.maxAttributesPerNode)
    (htotal : p.totalAttributes + attrs.length ≤ parserLimits.maxTotalAttributes)
    (htext : p.textCounter.codePoints + (HtmlNode.attributesText rawValue attrs).length ≤
      parserLimits.maxTotalTextCodePoints) :
    p.countElement url expired attrs =
      .ok { p with
        elements := p.elements + 1
        totalAttributes := p.totalAttributes + attrs.length
        textCounter := p.textCounter.read (HtmlNode.attributesText rawValue attrs)
        clockReads := p.clockReads + 1 } := by
  have hroom : ¬ (attrs.length : ℤ) > parserLimits.maxTotalAttributes - p.totalAttributes := by omega
  simp only [countElement, checkDeadline_eq hclock, bind, Except.bind,
    saturatingIncrement_eq helements, gt_iff_lt, if_neg (not_lt.2 helements), addAttributes,
    if_neg (not_lt.2 hattributes), if_neg hroom, saturatingIncrement_eq htotal]
  exact @foldlM_addAttribute { p with
    elements := p.elements + 1
    totalAttributes := p.totalAttributes + attrs.length
    clockReads := p.clockReads + 1 } url attrs hsound htext

/-- The context of the innermost open element. -/
def context (p : HtmlBudgetParser) : Option HtmlContext := p.contexts.head?.getD none

/-- Whether the body of a table is open. -/
def inBody (p : HtmlBudgetParser) : Bool := p.openElements.contains "tbody"

theorem classText_eq {attrs : RawAttributes} :
    ((attrs.lookup "class").getD none).getD "" = HtmlNode.classText rawValue attrs := by
  rw [HtmlNode.classText]
  cases attrs.lookup "class" <;> rfl

/-- A row is not the body of a table. -/
theorem isRow_and {tag : String} {body row : Bool} :
    (tag == "tr" && row && (body || tag == "tbody")) = (tag == "tr" && row && body) := by
  by_cases htag : tag = "tr"
  · have hbody : (tag == "tbody") = false := by
      rw [htag]
      decide
    rw [hbody, Bool.or_false]
  · rw [beq_eq_false_iff_ne.2 htag]
    rfl

/-- An element within the limits is opened. -/
theorem openElement_eq {tag : String} {attrs : RawAttributes} {cell : List Char}
    {context : Option HtmlContext}
    (hcontext : context = elementContext p.context tag (HtmlNode.classText rawValue attrs))
    (ht : t = elementTally context (inAnyBody context p.inBody tag) tag attrs.length cell)
    (hdepth : p.openElements.length + 1 ≤ parserLimits.maxDepth)
    (hfields : p.metadataFields + t.metadataFields ≤ parserLimits.maxMetadataFields)
    (hrecords : p.records + t.records ≤ parserLimits.maxRecords) :
    p.openElement url tag attrs =
      .ok { p with
        metadataFields := p.metadataFields + t.metadataFields
        records := p.records + t.records
        openElements := tag :: p.openElements
        contexts := context :: p.contexts
        fieldCounters := (if tag == "td" then some {} else none) :: p.fieldCounters } := by
  have hrow : t.records =
      if (tag == "tr" && context == some .search && p.openElements.contains "tbody") = true then 1
      else 0 := by
    rw [ht]
    simp only [elementTally, inAnyBody, isRow_and]
    rfl
  have hfield : t.metadataFields =
      if (tag == "tr" && context == some .metadata) = true then 1 else 0 := by
    rw [ht]
    rfl
  have hcontext' : elementContext (p.contexts.head?.getD none) tag
      (((attrs.lookup "class").getD none).getD "") = context := by
    rw [classText_eq, hcontext]
    rfl
  rw [hrow] at hrecords ⊢
  rw [hfield] at hfields ⊢
  simp only [openElement, hcontext', incrementIf_eq hfields, incrementIf_eq hrecords, gt_iff_lt,
    if_neg (not_lt.2 hdepth), if_neg fun h : _ ∧ _ => not_lt.2 hfields h.2,
    if_neg fun h : _ ∧ _ => not_lt.2 hrecords h.2, bind, Except.bind, pure, Except.pure]

/-- A text within the limits is added to all open cells. -/
theorem addToFields_eq {text : String} {most semanticMost : ℕ}
    (hsound : ∀ counter, some counter ∈ counters → counter.Sound)
    (hmost : fieldMost text.toList counters ≤ parserLimits.maxFieldCodePoints) :
    addToFields url text counters most semanticMost =
      .ok (readFields text.toList counters, max most (fieldMost text.toList counters),
        max semanticMost (semanticFieldMost text.toList counters)) := by
  induction counters generalizing most semanticMost with
  | nil => simp [addToFields, readFields, fieldMost, semanticFieldMost]
  | cons counter rest ih =>
      have hsound' : ∀ other, some other ∈ rest → other.Sound :=
        fun other hother => hsound other (List.mem_cons_of_mem _ hother)
      cases counter with
      | none =>
          simp only [addToFields, @ih most semanticMost hsound' hmost, bind, Except.bind, pure,
            Except.pure]
          rfl
      | some counter =>
          rw [fieldMost] at hmost
          have hread : (counter.read text.toList).codePoints ≤ parserLimits.maxFieldCodePoints :=
            (Nat.le_max_left _ _).trans hmost
          have hadd : counter.add (some text) = counter.read text.toList := by
            refine CanonicalTextCounter.add_eq (hsound _ (List.mem_cons_self ..)) ?_
            rw [Option.getD_some, ← String.length_toList]
            exact hread.trans (by decide)
          simp only [addToFields, hadd, gt_iff_lt, if_neg (not_lt.2 hread), bind, Except.bind, pure,
            Except.pure, @ih (max most (counter.read text.toList).codePoints)
              (max semanticMost (counter.read text.toList).semanticCodePoints) hsound'
              ((Nat.le_max_right _ _).trans hmost), fieldMost, semanticFieldMost, Nat.max_assoc]
          rfl

/-- A text within the limits is counted. -/
theorem handleData_eq {text : String} (hclock : ∀ reading, expired reading = false)
    (hready : p.Ready) (hwithin : (p.after text.toList text.toList {}).Within) :
    p.handleData url expired text =
      .ok { p.after text.toList text.toList {} with clockReads := p.clockReads + 1 } := by
  have hmost : fieldMost text.toList p.fieldCounters ≤ parserLimits.maxFieldCodePoints := by
    have h := hwithin.maxField
    simp only [after] at h
    omega
  have hfields := @addToFields_eq url p.fieldCounters text p.maxFieldCodePoints
    p.semanticMaxFieldCodePoints (fun counter hcounter => (hready.fields counter hcounter).1) hmost
  simp only [handleData, checkDeadline_eq hclock, bind, Except.bind, hfields]
  have htext := @addText_eq { p with
    fieldCounters := readFields text.toList p.fieldCounters
    maxFieldCodePoints := max p.maxFieldCodePoints (fieldMost text.toList p.fieldCounters)
    semanticMaxFieldCodePoints :=
      max p.semanticMaxFieldCodePoints (semanticFieldMost text.toList p.fieldCounters)
    clockReads := p.clockReads + 1 } url (some text) hready.text hwithin.text
  rw [htext]
  simp only [after, readText, rawValue, Option.getD_some, Nat.max_zero, Nat.add_zero]

/-- The reader when the clock has been read so often. -/
def atReading (p : HtmlBudgetParser) (reads : ℕ) : HtmlBudgetParser := { p with clockReads := reads }

theorem after_atReading {reads : ℕ} :
    (p.atReading reads).after full data t = (p.after full data t).atReading reads := rfl

/-- The reader inside an element. -/
def opened (p : HtmlBudgetParser) (tag : String) (attrs : RawAttributes)
    (context : Option HtmlContext) (t : HtmlTally) : HtmlBudgetParser :=
  { p with
    elements := p.elements + t.elements
    totalAttributes := p.totalAttributes + t.attributes
    textCounter := p.textCounter.read (HtmlNode.attributesText rawValue attrs)
    metadataFields := p.metadataFields + t.metadataFields
    records := p.records + t.records
    openElements := tag :: p.openElements
    contexts := context :: p.contexts
    fieldCounters := (if tag == "td" then some {} else none) :: p.fieldCounters }

theorem Ready.opened (h : p.Ready) {tag : String} {attrs : RawAttributes}
    {context : Option HtmlContext} : (p.opened tag attrs context t).Ready where
  text := h.text.read
  fields := by
    intro counter hcounter
    rcases List.mem_cons.1 hcounter with hcounter | hcounter
    · cases htag : tag == "td" with
      | false =>
          rw [htag] at hcounter
          cases hcounter
      | true =>
          rw [htag, if_pos rfl] at hcounter
          obtain rfl : counter = {} := Option.some.inj hcounter
          exact ⟨Nat.le_refl _, Nat.zero_le _, Nat.zero_le _⟩
    · exact h.fields counter hcounter

/-- An element is read as its start tag, its contents and its end tag. -/
theorem handleEndtag_after {tag : String} {attrs : RawAttributes} {context : Option HtmlContext}
    {body : Bool}
    (ht : t = elementTally context body tag attrs.length data) :
    ((p.opened tag attrs context t).after full data t').handleEndtag tag =
      p.after (HtmlNode.attributesText rawValue attrs ++ full) data (t + t') := by
  have hmost : max (fieldMost data ((if tag == "td" then some {} else none) :: p.fieldCounters))
      t'.maxField = max (fieldMost data p.fieldCounters) (t + t').maxField := by
    rw [ht]
    cases htag : tag == "td" with
    | false => simp [htag, fieldMost, elementTally]
    | true =>
        simp only [htag, if_true, fieldMost, elementTally, HtmlTally.maxField_add,
          CanonicalTextCounter.read]
        omega
  have hsemantic : max (semanticFieldMost data
      ((if tag == "td" then some {} else none) :: p.fieldCounters)) t'.semanticMaxField =
      max (semanticFieldMost data p.fieldCounters) (t + t').semanticMaxField := by
    rw [ht]
    cases htag : tag == "td" with
    | false => simp [htag, semanticFieldMost, elementTally]
    | true =>
        simp only [htag, if_true, semanticFieldMost, elementTally, HtmlTally.semanticMaxField_add,
          CanonicalTextCounter.read]
        omega
  simp only [handleEndtag, opened, after, List.mem_cons_self, if_true, List.findIdx_cons, beq_self_eq_true,
    cond_true, Nat.zero_add, List.drop_succ_cons, List.drop_zero, readFields, List.map_cons, hmost,
    hsemantic, CanonicalTextCounter.read_append, HtmlTally.elements_add, HtmlTally.attributes_add,
    HtmlTally.metadataFields_add, HtmlTally.records_add, Nat.add_assoc]

theorem elementTally_void {tag : String} {attributes : ℕ} {context : Option HtmlContext} {body : Bool}
    {cell : List Char} (h : tag ∈ voidHtmlElements) :
    elementTally context body tag attributes cell = { elements := 1, attributes := attributes } := by
  have hrow : (tag == "tr") = false := by
    refine beq_eq_false_iff_ne.2 fun htag => ?_
    rw [htag] at h
    exact absurd h (by decide)
  have hcell : (tag == "td") = false := by
    refine beq_eq_false_iff_ne.2 fun htag => ?_
    rw [htag] at h
    exact absurd h (by decide)
  simp [elementTally, hrow, hcell]

/-- Where there is no text, the open cells stay as they are. -/
theorem after_nil (h : p.Ready) {elements attributes : ℕ} :
    p.after full [] { elements, attributes } =
      { p with
        elements := p.elements + elements
        totalAttributes := p.totalAttributes + attributes
        textCounter := p.textCounter.read full } := by
  have hsame : readFields [] p.fieldCounters = p.fieldCounters := by
    rw [readFields]
    refine (List.map_congr_left fun counter _ => ?_).trans (List.map_id _)
    cases counter <;> rfl
  have hmost : ∀ counters : List (Option CanonicalTextCounter),
      (∀ counter, some counter ∈ counters → counter.codePoints ≤ p.maxFieldCodePoints ∧
        counter.semanticCodePoints ≤ p.semanticMaxFieldCodePoints) →
      fieldMost [] counters ≤ p.maxFieldCodePoints ∧
        semanticFieldMost [] counters ≤ p.semanticMaxFieldCodePoints := by
    intro counters hcounters
    induction counters with
    | nil => exact ⟨Nat.zero_le _, Nat.zero_le _⟩
    | cons counter rest ih =>
        have hrest := ih fun other hother => hcounters other (List.mem_cons_of_mem _ hother)
        cases counter with
        | none => exact hrest
        | some counter =>
            obtain ⟨h1, h2⟩ := hcounters counter (List.mem_cons_self ..)
            exact ⟨Nat.max_le.2 ⟨h1, hrest.1⟩, Nat.max_le.2 ⟨h2, hrest.2⟩⟩
  obtain ⟨h1, h2⟩ := hmost p.fieldCounters fun counter hcounter => (h.fields counter hcounter).2
  simp only [after, hsame, Nat.add_zero, Nat.max_zero, Nat.max_eq_left h1, Nat.max_eq_left h2]

theorem Ready.atReading (h : p.Ready) {reads : ℕ} : (p.atReading reads).Ready := ⟨h.text, h.fields⟩

theorem Within.atReading (h : p.Within) {reads : ℕ} : (p.atReading reads).Within :=
  ⟨h.elements, h.text, h.attributes, h.metadataFields, h.records, h.maxField⟩

theorem context_opened {tag : String} {attrs : RawAttributes} {inner : Option HtmlContext} {reads : ℕ} :
    ((p.opened tag attrs inner t).atReading reads).context = inner := rfl

theorem inBody_opened {tag : String} {attrs : RawAttributes} {inner : Option HtmlContext} {reads : ℕ} :
    ((p.opened tag attrs inner t).atReading reads).inBody = inAnyBody inner p.inBody tag := by
  have hcons : ((p.opened tag attrs inner t).atReading reads).inBody =
      ("tbody" == tag || p.inBody) := List.contains_cons
  rw [hcons, inAnyBody, Bool.or_comm, Bool.beq_comm]

theorem handleEndtag_atReading {tag : String} {reads : ℕ} :
    (p.atReading reads).handleEndtag tag = (p.handleEndtag tag).atReading reads := by
  unfold handleEndtag
  by_cases hopen : tag ∈ p.openElements
  · rw [if_pos hopen]
    exact if_pos hopen
  · rw [if_neg hopen]
    exact if_neg hopen

theorem within_of_handleEndtag {tag : String} (h : (p.handleEndtag tag).Within) : p.Within := by
  unfold handleEndtag at h
  split at h
  · exact ⟨h.elements, h.text, h.attributes, h.metadataFields, h.records, h.maxField⟩
  · exact h

mutual

/-- A node within the limits is counted. -/
theorem run_node {node : HtmlNode (Option String)} {p : HtmlBudgetParser} (hclock : ∀ reading, expired reading = false)
    (hready : p.Ready) (hwell : node.WellFormed)
    (hdepth : p.openElements.length + node.height ≤ parserLimits.maxDepth)
    (hattributes : node.mostAttributes ≤ parserLimits.maxAttributesPerNode)
    (hwithin : (p.after (node.fullText rawValue) node.dataText
      (node.tally rawValue inAnyBody p.context p.inBody)).Within) :
    ∃ reads, node.events.foldlM (handle url expired) p =
      .ok ((p.after (node.fullText rawValue) node.dataText
        (node.tally rawValue inAnyBody p.context p.inBody)).atReading reads) := by
  match node with
  | .text data =>
      have hdata : (HtmlNode.text data : HtmlNode (Option String)).dataText = data.toList := by
        simp [HtmlNode.dataText, HtmlNode.strings]
      rw [hdata] at hwithin ⊢
      refine ⟨p.clockReads + 1, ?_⟩
      rw [HtmlNode.events, List.foldlM_cons, handle, handleData_eq hclock hready hwithin]
      rfl
  | .element tag slash attrs contents =>
      obtain ⟨-, hempty, hcontents⟩ := hwell
      rw [HtmlNode.height] at hdepth
      rw [HtmlNode.mostAttributes] at hattributes
      have hdata : (HtmlNode.element tag slash attrs contents).dataText =
        HtmlNode.dataTexts contents := rfl
      rw [HtmlNode.fullText, hdata, HtmlNode.tally] at hwithin ⊢
      have hcount : ∀ {url : String}, p.countElement url expired attrs = .ok { p with
          elements := p.elements + 1
          totalAttributes := p.totalAttributes + attrs.length
          textCounter := p.textCounter.read (HtmlNode.attributesText rawValue attrs)
          clockReads := p.clockReads + 1 } := by
        intro url
        have helements := hwithin.elements
        have htotal := hwithin.attributes
        have htext := hwithin.text
        simp only [after, HtmlTally.elements_add, HtmlTally.attributes_add, elementTally,
          CanonicalTextCounter.read, List.length_append] at helements htotal htext
        exact countElement_eq hclock hready.text (by omega) (by omega) (by omega) (by omega)
      by_cases hvoid : tag ∈ voidHtmlElements
      · obtain rfl := hempty hvoid
        refine ⟨p.clockReads + 1, ?_⟩
        have hnil := @after_nil p (HtmlNode.attributesText rawValue attrs) hready 1 attrs.length
        have hnone : HtmlNode.dataTexts ([] : List (HtmlNode (Option String))) = [] := rfl
        rw [HtmlNode.events, if_pos hvoid, HtmlNode.fullTexts, List.append_nil, hnone,
          HtmlNode.tallies, HtmlTally.add_zero, elementTally_void hvoid, hnil]
        cases slash with
        | true =>
            rw [if_pos rfl, List.foldlM_cons, handle, hcount]
            rfl
        | false =>
            rw [if_neg Bool.false_ne_true, List.foldlM_cons, handle, addElement, hcount]
            simp only [bind, Except.bind, if_pos hvoid, pure, Except.pure]
            rfl
      · rw [HtmlNode.events, if_neg hvoid, List.foldlM_cons, handle, addElement, hcount]
        simp only [bind, Except.bind, if_neg hvoid]
        -- The contents are read from inside the element, which its end tag leaves.
        rw [← handleEndtag_after rfl] at hwithin ⊢
        have hinside := within_of_handleEndtag hwithin
        have hopen := @openElement_eq { p with
          elements := p.elements + 1
          totalAttributes := p.totalAttributes + attrs.length
          textCounter := p.textCounter.read (HtmlNode.attributesText rawValue attrs)
          clockReads := p.clockReads + 1 } url _ tag attrs (HtmlNode.dataTexts contents) _ rfl rfl
          (by simp only; omega) hinside.before.metadataFields hinside.before.records
        rw [hopen]
        obtain ⟨reads, hrun⟩ := @run_nodes contents ((p.opened tag attrs
          (elementContext p.context tag (HtmlNode.classText rawValue attrs))
          (elementTally (elementContext p.context tag (HtmlNode.classText rawValue attrs))
            (inAnyBody (elementContext p.context tag (HtmlNode.classText rawValue attrs)) p.inBody tag)
            tag attrs.length (HtmlNode.dataTexts contents))).atReading (p.clockReads + 1)) hclock
          hready.opened.atReading hcontents (by simp only [atReading, opened, List.length_cons]; omega)
          (by omega) (by
            rw [context_opened, inBody_opened]
            exact hinside.atReading)
        rw [context_opened, inBody_opened] at hrun
        refine ⟨reads, ?_⟩
        rw [← handleEndtag_atReading]
        have hend := congrArg (fun result => result >>= fun p =>
          ([.endTag tag] : List HtmlEvent).foldlM (handle url expired) p) hrun
        rw [← List.foldlM_append] at hend
        exact hend

/-- Nodes within the limits are counted. -/
theorem run_nodes {nodes : List (HtmlNode (Option String))} {p : HtmlBudgetParser}
    (hclock : ∀ reading, expired reading = false) (hready : p.Ready)
    (hwell : HtmlNode.AllWellFormed nodes)
    (hdepth : p.openElements.length + HtmlNode.heights nodes ≤ parserLimits.maxDepth)
    (hattributes : HtmlNode.mostAttributesOf nodes ≤ parserLimits.maxAttributesPerNode)
    (hwithin : (p.after (HtmlNode.fullTexts rawValue nodes) (HtmlNode.dataTexts nodes)
      (HtmlNode.tallies rawValue inAnyBody p.context p.inBody nodes)).Within) :
    ∃ reads, (HtmlNode.eventsOf nodes).foldlM (handle url expired) p =
      .ok ((p.after (HtmlNode.fullTexts rawValue nodes) (HtmlNode.dataTexts nodes)
        (HtmlNode.tallies rawValue inAnyBody p.context p.inBody nodes)).atReading reads) := by
  match nodes with
  | [] =>
      refine ⟨p.clockReads, ?_⟩
      have hnil := @after_nil p [] hready 0 0
      rw [HtmlNode.eventsOf, HtmlNode.fullTexts, HtmlNode.tallies]
      exact congrArg Except.ok hnil.symm
  | node :: rest =>
      rw [HtmlNode.heights] at hdepth
      rw [HtmlNode.mostAttributesOf] at hattributes
      rw [HtmlNode.fullTexts, HtmlNode.dataTexts_cons, HtmlNode.tallies, ← after_after] at hwithin ⊢
      obtain ⟨reads, hnode⟩ := @run_node node p hclock hready hwell.1 (by omega) (by omega)
        hwithin.before
      obtain ⟨reads', hrest⟩ := @run_nodes rest ((p.after (node.fullText rawValue) node.dataText
        (node.tally rawValue inAnyBody p.context p.inBody)).atReading reads) hclock
        (hready.after.atReading) hwell.2 (by simp only [atReading, after]; omega) (by omega)
        (hwithin.atReading)
      refine ⟨reads', ?_⟩
      rw [HtmlNode.eventsOf, List.foldlM_append, hnode]
      exact hrest

end

end HtmlBudgetParser

end NplgMcp
