import NplgMcp.Markup.HtmlTally

/-!
# The recount of an HTML tree

The stack of `_validate_html_tree` holds what is still to be counted: visiting its first node moves
the node's own part to the counters and leaves that of its children (`HtmlRecount.visit_eq`).
-/

open Library

namespace NplgMcp

namespace HtmlRecount

variable {c : HtmlRecount} {url : String} {entry : HtmlEntry} {stack : List HtmlEntry}
  {t t' : HtmlTally} {s s' : List Char}

/-- The counters after a part of the tree, as long as nothing is over a limit. -/
def plus (c : HtmlRecount) (t : HtmlTally) (s : List Char) : HtmlRecount where
  elements := c.elements + t.elements
  totalAttributes := c.totalAttributes + t.attributes
  metadataFields := c.metadataFields + t.metadataFields
  records := c.records + t.records
  maxFieldCodePoints := max c.maxFieldCodePoints t.maxField
  semanticMaxFieldCodePoints := max c.semanticMaxFieldCodePoints t.semanticMaxField
  textCounter := c.textCounter.read s

theorem plus_plus : (c.plus t s).plus t' s' = c.plus (t + t') (s ++ s') := by
  simp only [plus, CanonicalTextCounter.read_append, HtmlTally.elements_add,
    HtmlTally.attributes_add, HtmlTally.metadataFields_add, HtmlTally.records_add,
    HtmlTally.maxField_add, HtmlTally.semanticMaxField_add, Nat.add_assoc, Nat.max_assoc]

theorem plus_nil : c.plus {} [] = c := by
  simp [plus, CanonicalTextCounter.read_nil]

/-- No counter is over its limit. -/
structure Within (c : HtmlRecount) : Prop where
  elements : c.elements ≤ parserLimits.maxNodes + 3
  text : c.textCounter.codePoints ≤ parserLimits.maxTotalTextCodePoints
  attributes : c.totalAttributes ≤ parserLimits.maxTotalAttributes
  metadataFields : c.metadataFields ≤ parserLimits.maxMetadataFields
  records : c.records ≤ parserLimits.maxRecords
  maxField : c.maxFieldCodePoints ≤ parserLimits.maxFieldCodePoints

theorem Within.before (h : (c.plus t s).Within) : c.Within :=
  ⟨(Nat.le_add_right _ _).trans h.elements, (Nat.le_add_right _ _).trans h.text,
    (Nat.le_add_right _ _).trans h.attributes, (Nat.le_add_right _ _).trans h.metadataFields,
    (Nat.le_add_right _ _).trans h.records, (Nat.le_max_left _ _).trans h.maxField⟩

theorem htmlFieldCodePointCounts_eq {contents : List (HtmlNode AttributeValue)}
    (h : (HtmlNode.dataTexts contents).length ≤ parserLimits.maxFieldCodePoints) :
    htmlFieldCodePointCounts contents = ((HtmlNode.dataTexts contents).length,
      (Text.collapse false (HtmlNode.dataTexts contents)).length) := by
  have hfold := @foldl_add_eq (HtmlNode.stringsOf contents) {} (Nat.le_refl _) (by
    rw [Nat.zero_add]
    exact h.trans (by decide))
  simp only [htmlFieldCodePointCounts, hfold, CanonicalTextCounter.read, Nat.zero_add]
  rfl

theorem foldl_attributes {attrs : List (String × AttributeValue)} {counter : CanonicalTextCounter}
    (hsound : counter.Sound)
    (h : counter.codePoints + (HtmlNode.attributesText htmlAttributeText attrs).length ≤
      parserLimits.maxTotalTextCodePoints) :
    attrs.foldl (fun counter item =>
        (counter.add (some item.1)).add (some (htmlAttributeText item.2))) counter =
      counter.read (HtmlNode.attributesText htmlAttributeText attrs) := by
  induction attrs generalizing counter with
  | nil => rfl
  | cons item rest ih =>
      rw [HtmlNode.attributesText, List.flatMap_cons, List.length_append, List.length_append] at h
      have hpair := @foldl_add_eq [item.1, htmlAttributeText item.2] counter hsound (by
        simp only [List.flatMap_cons, List.flatMap_nil, List.append_nil, List.length_append]
        omega)
      simp only [List.foldl_cons, List.foldl_nil, List.flatMap_cons, List.flatMap_nil,
        List.append_nil] at hpair
      rw [List.foldl_cons, hpair, ih hsound.read, CanonicalTextCounter.read_append]
      · rfl
      · simp only [CanonicalTextCounter.read, List.length_append, HtmlNode.attributesText]
        omega

/-- One turn of the loop counts the element. -/
theorem visitElement_eq {tag : String} {attrs : List (String × AttributeValue)}
    {contents : List (HtmlNode AttributeValue)} {depth : ℕ} {context : Option HtmlContext}
    {body : Bool} (hsound : c.textCounter.Sound) (hdepth : depth ≤ parserLimits.maxDepth + 3)
    (hattributes : attrs.length ≤ parserLimits.maxAttributesPerNode)
    (hwithin : (c.plus (elementTally context body tag attrs.length (HtmlNode.dataTexts contents))
      (HtmlNode.attributesText htmlAttributeText attrs)).Within) :
    c.visitElement url tag attrs contents depth context body =
      .ok (c.plus (elementTally context body tag attrs.length (HtmlNode.dataTexts contents))
        (HtmlNode.attributesText htmlAttributeText attrs)) := by
  obtain ⟨helements, htext, htotal, hfields, hrecords, hfield⟩ := hwithin
  simp only [plus, elementTally, CanonicalTextCounter.read]
    at helements htext htotal hfields hrecords hfield
  have hroom : ¬ (attrs.length : ℤ) > parserLimits.maxTotalAttributes - c.totalAttributes := by omega
  simp only [visitElement, gt_iff_lt, if_neg (not_lt.2 hdepth), saturatingIncrement_eq helements,
    if_neg (not_lt.2 helements), if_neg (not_lt.2 hattributes), if_neg hroom,
    saturatingIncrement_eq htotal, foldl_attributes hsound htext,
    incrementIf_eq hfields, incrementIf_eq hrecords, bind,
    Except.bind, pure, Except.pure]
  cases htag : tag == "td" with
  | false => simp [plus, elementTally, htag]
  | true =>
      have hcell : (HtmlNode.dataTexts contents).length ≤ parserLimits.maxFieldCodePoints := by
        rw [htag, if_pos rfl] at hfield
        exact (Nat.le_max_right _ _).trans hfield
      simp [plus, elementTally, htag, htmlFieldCodePointCounts_eq hcell, not_lt.2 hcell]

/-- What an entry of the stack adds to the counters. -/
def entryTally (entry : HtmlEntry) : HtmlTally :=
  match entry.node with
  | .text _ => {}
  | .element tag _ attrs contents =>
    elementTally entry.context entry.inSearchBody tag attrs.length (HtmlNode.dataTexts contents) +
      HtmlNode.tallies htmlAttributeText inSearchBody entry.context entry.inSearchBody contents

/-- What the entries of the stack add to the counters. -/
def stackTally : List HtmlEntry → HtmlTally
  | [] => {}
  | entry :: rest => entryTally entry + stackTally rest

/-- The text of the nodes on the stack. -/
def stackText (stack : List HtmlEntry) : List Char :=
  stack.flatMap fun entry => entry.node.fullText htmlAttributeText

theorem stackTally_append {a b : List HtmlEntry} :
    stackTally (a ++ b) = stackTally a + stackTally b := by
  induction a with
  | nil => exact HtmlTally.zero_add.symm
  | cons entry rest ih => simp only [List.cons_append, stackTally, ih, HtmlTally.add_assoc]

theorem stackText_append {a b : List HtmlEntry} :
    stackText (a ++ b) = stackText a ++ stackText b :=
  List.flatMap_append

theorem entryTally_childEntry {child : HtmlNode AttributeValue} :
    entryTally (childEntry entry child) =
      child.tally htmlAttributeText inSearchBody entry.context entry.inSearchBody := by
  cases child <;> rfl

theorem stackTally_children {contents : List (HtmlNode AttributeValue)} :
    stackTally (contents.map (childEntry entry)) =
      HtmlNode.tallies htmlAttributeText inSearchBody entry.context entry.inSearchBody contents := by
  induction contents with
  | nil => rfl
  | cons child rest ih =>
      rw [List.map_cons, stackTally, ih, entryTally_childEntry, HtmlNode.tallies]

theorem stackText_children {contents : List (HtmlNode AttributeValue)} :
    stackText (contents.map (childEntry entry)) = HtmlNode.fullTexts htmlAttributeText contents := by
  induction contents with
  | nil => rfl
  | cons child rest ih =>
      rw [stackText, List.map_cons, List.flatMap_cons, childEntry_node, HtmlNode.fullTexts]
      exact congrArg _ ih

/-- An entry is within the limits that are not sums. -/
def Shallow (entry : HtmlEntry) : Prop :=
  entry.depth + entry.node.height ≤ parserLimits.maxDepth + 4 ∧
    entry.node.mostAttributes ≤ parserLimits.maxAttributesPerNode

theorem height_le_heights {α : Type} {child : HtmlNode α} {contents : List (HtmlNode α)}
    (h : child ∈ contents) : child.height ≤ HtmlNode.heights contents := by
  induction contents with
  | nil => cases h
  | cons first rest ih =>
      rcases List.mem_cons.1 h with rfl | h
      · exact Nat.le_max_left _ _
      · exact (ih h).trans (Nat.le_max_right _ _)

theorem mostAttributes_le_mostAttributesOf {α : Type} {child : HtmlNode α}
    {contents : List (HtmlNode α)} (h : child ∈ contents) :
    child.mostAttributes ≤ HtmlNode.mostAttributesOf contents := by
  induction contents with
  | nil => cases h
  | cons first rest ih =>
      rcases List.mem_cons.1 h with rfl | h
      · exact Nat.le_max_left _ _
      · exact (ih h).trans (Nat.le_max_right _ _)

theorem childEntry_depth {child : HtmlNode AttributeValue} :
    (childEntry entry child).depth = entry.depth + 1 := by
  cases child <;> rfl

theorem Shallow.pushed {child : HtmlEntry} (h : Shallow entry) (hchild : child ∈ pushed entry) :
    Shallow child := by
  obtain ⟨node, depth, context, body⟩ := entry
  obtain ⟨hdepth, hattributes⟩ := h
  cases node with
  | text data => cases hchild
  | element tag slash attrs contents =>
      obtain ⟨node, hnode, rfl⟩ := List.mem_map.1 hchild
      have hheight := height_le_heights hnode
      have hmost := mostAttributes_le_mostAttributesOf hnode
      simp only [HtmlNode.height, HtmlNode.mostAttributes] at hdepth hattributes
      rw [Shallow, childEntry_node, childEntry_depth]
      exact ⟨by simp only; omega, hmost.trans ((Nat.le_max_right _ _).trans hattributes)⟩

/-- What is visited of the first entry, and what it leaves on the stack. -/
theorem visit_eq {rest : List HtmlEntry} (hsound : c.textCounter.Sound) (hshallow : Shallow entry)
    (hwithin : (c.plus (stackTally (entry :: rest)) (stackText (entry :: rest))).Within) :
    ∃ c', c.visit url entry = .ok c' ∧ c'.textCounter.Sound ∧
      c'.plus (stackTally (pushed entry ++ rest)) (stackText (pushed entry ++ rest)) =
        c.plus (stackTally (entry :: rest)) (stackText (entry :: rest)) := by
  obtain ⟨node, depth, context, body⟩ := entry
  cases node with
  | text data =>
      have hnone : entryTally ⟨.text data, depth, context, body⟩ = {} := rfl
      rw [stackTally, hnone, HtmlTally.zero_add] at hwithin ⊢
      have hsplit : c.plus (stackTally rest) (stackText (⟨.text data, depth, context, body⟩ :: rest)) =
          (c.plus {} data.toList).plus (stackTally rest) (stackText rest) := by
        rw [plus_plus, HtmlTally.zero_add]
        rfl
      rw [hsplit] at hwithin ⊢
      refine ⟨c.plus {} data.toList, ?_, hsound.read, rfl⟩
      have htext := hwithin.before.text
      have hadd : c.textCounter.add (some data) = c.textCounter.read data.toList := by
        refine CanonicalTextCounter.add_eq hsound ?_
        rw [Option.getD_some, ← String.length_toList]
        exact htext
      simp only [visit, hadd, plus, Nat.add_zero, Nat.max_zero]
  | element tag slash attrs contents =>
      have hsplit : c.plus (stackTally (⟨.element tag slash attrs contents, depth, context, body⟩ :: rest))
            (stackText (⟨.element tag slash attrs contents, depth, context, body⟩ :: rest)) =
          (c.plus (elementTally context body tag attrs.length (HtmlNode.dataTexts contents))
            (HtmlNode.attributesText htmlAttributeText attrs)).plus
              (stackTally (pushed ⟨.element tag slash attrs contents, depth, context, body⟩ ++ rest))
              (stackText (pushed ⟨.element tag slash attrs contents, depth, context, body⟩ ++ rest)) := by
        simp only [plus_plus, stackTally_append, stackText_append, pushed, stackTally_children,
          stackText_children]
        rw [← HtmlTally.add_assoc, ← List.append_assoc]
        rfl
      obtain ⟨hdepth, hattributes⟩ := hshallow
      simp only [HtmlNode.height, HtmlNode.mostAttributes] at hdepth hattributes
      have hlevel : depth ≤ parserLimits.maxDepth + 3 := by omega
      rw [hsplit] at hwithin ⊢
      refine ⟨_, ?_, hsound.read, rfl⟩
      exact visitElement_eq hsound hlevel ((Nat.le_max_left _ _).trans hattributes) hwithin.before

/-- The loop counts the nodes on the stack and all below them. -/
theorem visitAll_eq (hsound : c.textCounter.Sound) (hstack : ∀ entry ∈ stack, Shallow entry)
    (hwithin : (c.plus (stackTally stack) (stackText stack)).Within) :
    c.visitAll url stack = .ok (c.plus (stackTally stack) (stackText stack)) := by
  induction c, stack using visitAll.induct url with
  | case1 c => rw [visitAll, stackTally, stackText, List.flatMap_nil, plus_nil]
  | case2 c entry rest error herror =>
      obtain ⟨c', hvisit, -⟩ := @visit_eq c url entry rest hsound
        (hstack _ (List.mem_cons_self ..)) hwithin
      rw [hvisit] at herror
      cases herror
  | case3 c entry rest c' hc' ih =>
      have hshallow := hstack _ (List.mem_cons_self ..)
      obtain ⟨c'', hvisit, hsound', hsame⟩ := @visit_eq c url entry rest hsound hshallow hwithin
      obtain rfl : c'' = c' := by
        rw [hvisit] at hc'
        exact Except.ok.inj hc'
      rw [← hsame] at hwithin ⊢
      rw [visitAll, hc']
      refine ih hsound' (fun other hother => ?_) hwithin
      rcases List.mem_append.1 hother with hother | hother
      · exact hshallow.pushed hother
      · exact hstack _ (List.mem_cons_of_mem _ hother)

end HtmlRecount

end NplgMcp
