import NplgMcp.Library.Text
import NplgMcp.Markup.Counts

/-!
# HTML pages, their preflight and their tree

`_HtmlBudgetParser` reads a page as a stream of start tags, end tags and texts; `_validate_html_tree`
counts the tree that `BeautifulSoup` builds of it, in which attributes such as `class` are lists of
words. `_require_preflight_agreement` compares the two.
-/

open Library

namespace NplgMcp

/-- A node of a page, with attribute values of some type. An element without contents may be written
with a slash. -/
inductive HtmlNode (α : Type) where
  | text (data : String)
  | element (tag : String) (slash : Bool) (attrs : List (String × α)) (contents : List (HtmlNode α))

/-- `_VOID_HTML_ELEMENTS`. -/
def voidHtmlElements : List String :=
  ["area", "base", "br", "col", "embed", "hr", "img", "input", "link", "meta", "param", "source",
    "track", "wbr"]

/-- The text of an attribute as it is written; one without a value has none. -/
abbrev RawAttributes := List (String × Option String)

/-- The attribute names of a page are not empty and have no white space. -/
def AttributeNames (attrs : RawAttributes) : Prop :=
  ∀ item ∈ attrs, item.1 ≠ "" ∧ Text.Spaceless item.1

mutual

/-- Attributes have names, and void elements have no contents. -/
def HtmlNode.WellFormed : HtmlNode (Option String) → Prop
  | .text _ => True
  | .element tag _ attrs contents =>
    AttributeNames attrs ∧ (tag ∈ voidHtmlElements → contents = []) ∧
      HtmlNode.AllWellFormed contents

@[inherit_doc HtmlNode.WellFormed]
def HtmlNode.AllWellFormed : List (HtmlNode (Option String)) → Prop
  | [] => True
  | node :: rest => node.WellFormed ∧ HtmlNode.AllWellFormed rest

end

instance (attrs : RawAttributes) : Decidable (AttributeNames attrs) :=
  decidable_of_iff (attrs.all (fun item => item.1 != "" && decide (Text.Spaceless item.1)) = true)
    (by simp [AttributeNames])

mutual

/-- It can be checked whether a node is well formed. -/
def HtmlNode.decideWellFormed : (node : HtmlNode (Option String)) → Decidable node.WellFormed
  | .text _ => .isTrue trivial
  | .element tag _ attrs contents =>
    have := HtmlNode.decideAllWellFormed contents
    decidable_of_iff (AttributeNames attrs ∧ (tag ∈ voidHtmlElements → contents.isEmpty = true) ∧
      HtmlNode.AllWellFormed contents) (by rw [HtmlNode.WellFormed, List.isEmpty_iff])

@[inherit_doc HtmlNode.decideWellFormed]
def HtmlNode.decideAllWellFormed :
    (nodes : List (HtmlNode (Option String))) → Decidable (HtmlNode.AllWellFormed nodes)
  | [] => .isTrue trivial
  | node :: rest =>
    have := node.decideWellFormed
    have := HtmlNode.decideAllWellFormed rest
    inferInstanceAs (Decidable (node.WellFormed ∧ HtmlNode.AllWellFormed rest))

end

instance (nodes : List (HtmlNode (Option String))) : Decidable (HtmlNode.AllWellFormed nodes) :=
  HtmlNode.decideAllWellFormed nodes

/-- A page: its nodes, and how many bytes it has. -/
structure HtmlPage where
  nodes : List (HtmlNode (Option String))
  bytes : ℕ
  wellFormed : HtmlNode.AllWellFormed nodes

/-- What the reader of a page is called with. -/
inductive HtmlEvent where
  | startTag (tag : String) (attrs : RawAttributes)
  | startEndTag (tag : String) (attrs : RawAttributes)
  | endTag (tag : String)
  | data (data : String)
  deriving DecidableEq, Repr

mutual

/-- The calls for a node. -/
def HtmlNode.events : HtmlNode (Option String) → List HtmlEvent
  | .text data => [.data data]
  | .element tag slash attrs contents =>
    if tag ∈ voidHtmlElements then
      if slash then [.startEndTag tag attrs] else [.startTag tag attrs]
    else .startTag tag attrs :: (HtmlNode.eventsOf contents ++ [.endTag tag])

/-- The calls for nodes. -/
def HtmlNode.eventsOf : List (HtmlNode (Option String)) → List HtmlEvent
  | [] => []
  | node :: rest => node.events ++ HtmlNode.eventsOf rest

end

/-! ## Counting text -/

/-- `_CanonicalTextCounter`. -/
structure CanonicalTextCounter where
  codePoints : ℕ := 0
  semanticCodePoints : ℕ := 0
  inWhitespace : Bool := false
  deriving DecidableEq, Repr

/-- `_CanonicalTextCounter.add`. -/
def CanonicalTextCounter.add (counter : CanonicalTextCounter) (value : Option String) :
    CanonicalTextCounter :=
  match value with
  | none => counter
  | some value =>
    let codePoints := saturatingIncrement counter.codePoints value.length
      parserLimits.maxTotalTextCodePoints
    match value.toList with
    | [] => { counter with codePoints }
    | first :: rest =>
      let increment := if (first :: rest).any Text.isSpace then
        (Text.collapse false (first :: rest)).length else value.length
      let increment := if counter.inWhitespace && Text.isSpace first then increment - 1 else increment
      { codePoints
        semanticCodePoints := saturatingIncrement counter.semanticCodePoints increment
          parserLimits.maxTotalTextCodePoints
        inWhitespace := (first :: rest).getLast?.any Text.isSpace }

/-! ## The preflight -/

/-- What the rows of a table are. -/
inductive HtmlContext where
  | search
  | metadata
  deriving DecidableEq, Repr

/-- The context of an element: that of its parent, unless it is a table with a class that says what
its rows are. -/
def elementContext (parent : Option HtmlContext) (tag classText : String) : Option HtmlContext :=
  if tag = "table" then
    if Text.contains "search-results".toList classText.toList then some .search
    else if Text.contains "itemDisplayTable".toList classText.toList then some .metadata
    else parent
  else parent

/-- `_HtmlBudgetParser`; the three lists that are stacks have their last entry first. -/
structure HtmlBudgetParser where
  elements : ℕ := 0
  openElements : List String := []
  textCounter : CanonicalTextCounter := {}
  totalAttributes : ℕ := 0
  contexts : List (Option HtmlContext) := []
  fieldCounters : List (Option CanonicalTextCounter) := []
  metadataFields : ℕ := 0
  records : ℕ := 0
  maxFieldCodePoints : ℕ := 0
  semanticMaxFieldCodePoints : ℕ := 0
  /-- how often the clock has been read -/
  clockReads : ℕ := 0
  deriving DecidableEq, Repr

namespace HtmlBudgetParser

variable (url : String) (expired : ℕ → Bool)

/-- `counts`. -/
def counts (p : HtmlBudgetParser) : MarkupCounts where
  nodes := p.elements
  totalAttributes := p.totalAttributes
  totalTextCodePoints := p.textCounter.codePoints
  semanticTotalTextCodePoints := p.textCounter.semanticCodePoints
  metadataFields := p.metadataFields
  records := p.records
  maxFieldCodePoints := p.maxFieldCodePoints
  semanticMaxFieldCodePoints := p.semanticMaxFieldCodePoints

/-- `check_deadline`; `expired` says which readings of the clock are past the deadline. -/
def checkDeadline (p : HtmlBudgetParser) : Except AppError HtmlBudgetParser :=
  if expired p.clockReads then
    .error (upstreamFailure "The repository response exceeded the parse deadline." (some url))
  else .ok { p with clockReads := p.clockReads + 1 }

/-- `_add_text`. -/
def addText (p : HtmlBudgetParser) (value : Option String) : Except AppError HtmlBudgetParser :=
  let textCounter := p.textCounter.add value
  if textCounter.codePoints > parserLimits.maxTotalTextCodePoints then
    .error (upstreamFailure "The repository response exceeded the aggregate text limit." (some url))
  else .ok { p with textCounter }

/-- One turn of the loop of `_add_attributes`. -/
def addAttribute (p : HtmlBudgetParser) (item : String × Option String) :
    Except AppError HtmlBudgetParser := do
  (← p.addText url (some item.1)).addText url item.2

/-- `_add_attributes`. -/
def addAttributes (p : HtmlBudgetParser) (attrs : RawAttributes) :
    Except AppError HtmlBudgetParser := do
  if attrs.length > parserLimits.maxAttributesPerNode then
    throw (upstreamFailure "The repository response exceeded the per-node attribute limit."
      (some url))
  if (attrs.length : ℤ) > parserLimits.maxTotalAttributes - p.totalAttributes then
    throw (upstreamFailure "The repository response exceeded the aggregate attribute limit."
      (some url))
  let totalAttributes :=
    saturatingIncrement p.totalAttributes attrs.length parserLimits.maxTotalAttributes
  attrs.foldlM (addAttribute url) { p with totalAttributes }

/-- What `_add_element` and `handle_startendtag` begin with. -/
def countElement (p : HtmlBudgetParser) (attrs : RawAttributes) : Except AppError HtmlBudgetParser := do
  let p ← p.checkDeadline url expired
  let elements := saturatingIncrement p.elements 1 parserLimits.maxNodes
  if elements > parserLimits.maxNodes then
    throw (upstreamFailure "The repository response exceeded the HTML element limit." (some url))
  addAttributes url { p with elements } attrs

/-- The rest of `_add_element` for an element that is not void: its context, and the rows it may
count as. -/
def openElement (p : HtmlBudgetParser) (tag : String) (attrs : RawAttributes) :
    Except AppError HtmlBudgetParser := do
  let classText := ((attrs.lookup "class").getD none).getD ""
  let context := elementContext (p.contexts.head?.getD none) tag classText
  let isField := tag == "tr" && context == some .metadata
  let metadataFields := if isField then
    saturatingIncrement p.metadataFields 1 parserLimits.maxMetadataFields else p.metadataFields
  if isField ∧ metadataFields > parserLimits.maxMetadataFields then
    throw (upstreamFailure "The repository response exceeded the metadata field limit." (some url))
  let isRecord := tag == "tr" && context == some .search && p.openElements.contains "tbody"
  let records := if isRecord then
    saturatingIncrement p.records 1 parserLimits.maxRecords else p.records
  if isRecord ∧ records > parserLimits.maxRecords then
    throw (upstreamFailure "The repository response exceeded the record limit." (some url))
  if p.openElements.length + 1 > parserLimits.maxDepth then
    throw (upstreamFailure "The repository response exceeded the tree depth limit." (some url))
  return { p with
    metadataFields, records
    openElements := tag :: p.openElements
    contexts := context :: p.contexts
    fieldCounters := (if tag == "td" then some {} else none) :: p.fieldCounters }

/-- `_add_element`. -/
def addElement (p : HtmlBudgetParser) (tag : String) (attrs : RawAttributes) :
    Except AppError HtmlBudgetParser := do
  let p ← p.countElement url expired attrs
  if tag ∈ voidHtmlElements then return p else p.openElement url tag attrs

/-- `handle_endtag`: all that is open inside is closed too. -/
def handleEndtag (p : HtmlBudgetParser) (tag : String) : HtmlBudgetParser :=
  if tag ∈ p.openElements then
    let closed := p.openElements.findIdx (· == tag) + 1
    { p with
      openElements := p.openElements.drop closed
      contexts := p.contexts.drop closed
      fieldCounters := p.fieldCounters.drop closed }
  else p

/-- The loop of `handle_data` over the open cells, and the largest counts it has seen. -/
def addToFields (data : String) :
    List (Option CanonicalTextCounter) → ℕ → ℕ →
      Except AppError (List (Option CanonicalTextCounter) × ℕ × ℕ)
  | [], most, semanticMost => .ok ([], most, semanticMost)
  | none :: rest, most, semanticMost => do
    let (counters, most, semanticMost) ← addToFields data rest most semanticMost
    return (none :: counters, most, semanticMost)
  | some counter :: rest, most, semanticMost => do
    let counter := counter.add (some data)
    if counter.codePoints > parserLimits.maxFieldCodePoints then
      throw (upstreamFailure "The repository response exceeded the field code-point limit."
        (some url))
    let (counters, most, semanticMost) ← addToFields data rest (max most counter.codePoints)
      (max semanticMost counter.semanticCodePoints)
    return (some counter :: counters, most, semanticMost)

/-- `handle_data`. -/
def handleData (p : HtmlBudgetParser) (data : String) : Except AppError HtmlBudgetParser := do
  let p ← p.checkDeadline url expired
  let (fieldCounters, maxFieldCodePoints, semanticMaxFieldCodePoints) ←
    addToFields url data p.fieldCounters p.maxFieldCodePoints p.semanticMaxFieldCodePoints
  addText url { p with
    fieldCounters, maxFieldCodePoints, semanticMaxFieldCodePoints } (some data)

/-- One call. -/
def handle (p : HtmlBudgetParser) : HtmlEvent → Except AppError HtmlBudgetParser
  | .startTag tag attrs => p.addElement url expired tag attrs
  | .startEndTag _ attrs => p.countElement url expired attrs
  | .endTag tag => .ok (p.handleEndtag tag)
  | .data data => p.handleData url expired data

end HtmlBudgetParser

/-- `_preflight_html`. -/
def preflightHtml (page : HtmlPage) (url : String) (expired : ℕ → Bool) :
    Except AppError MarkupCounts := do
  if page.bytes > parserLimits.markupBytes then
    throw (upstreamFailure "The repository response exceeded the markup byte limit." (some url))
  let p ← HtmlBudgetParser.checkDeadline url expired {}
  let p ← (HtmlNode.eventsOf page.nodes).foldlM (HtmlBudgetParser.handle url expired) p
  let p ← p.checkDeadline url expired
  return p.counts

/-! ## The tree -/

/-- An attribute value of the tree: a text, or a list of words. -/
inductive AttributeValue where
  | string (value : String)
  | tokens (values : List String)
  deriving DecidableEq, Repr

/-- `_html_attribute_text`. -/
def htmlAttributeText : AttributeValue → String
  | .string value => value
  | .tokens values => Text.join values

/-- How the tree holds an attribute value: `lists` says of which elements' attributes it makes lists
of words. -/
def soupValue (lists : String → String → Bool) (tag key : String) (value : Option String) :
    AttributeValue :=
  if lists tag key then .tokens (Text.split (value.getD "")) else .string (value.getD "")

mutual

/-- The tree of a node. -/
def HtmlNode.soup (lists : String → String → Bool) :
    HtmlNode (Option String) → HtmlNode AttributeValue
  | .text data => .text data
  | .element tag slash attrs contents =>
    .element tag slash (attrs.map fun item => (item.1, soupValue lists tag item.1 item.2))
      (HtmlNode.soups lists contents)

/-- The trees of nodes. -/
def HtmlNode.soups (lists : String → String → Bool) :
    List (HtmlNode (Option String)) → List (HtmlNode AttributeValue)
  | [] => []
  | node :: rest => node.soup lists :: HtmlNode.soups lists rest

end

/-- Nodes inside elements that the page leaves out. -/
def wrap : List String → List (HtmlNode AttributeValue) → List (HtmlNode AttributeValue)
  | [], nodes => nodes
  | tag :: tags, nodes => [.element tag false [] (wrap tags nodes)]

/-- `BeautifulSoup(html)`: the document, with the elements `html` and `body` around the nodes where
they are implied. -/
def HtmlPage.soup (page : HtmlPage) (lists : String → String → Bool) (implied : List String) :
    HtmlNode AttributeValue :=
  .element "[document]" false [] (wrap implied (HtmlNode.soups lists page.nodes))

mutual

/-- How many nodes there are. -/
def HtmlNode.size {α : Type} : HtmlNode α → ℕ
  | .text _ => 1
  | .element _ _ _ contents => 1 + HtmlNode.sizes contents

/-- How many nodes there are in a list of trees. -/
def HtmlNode.sizes {α : Type} : List (HtmlNode α) → ℕ
  | [] => 0
  | node :: rest => node.size + HtmlNode.sizes rest

end

mutual

/-- The texts below a node, in document order. -/
def HtmlNode.strings {α : Type} : HtmlNode α → List String
  | .text data => [data]
  | .element _ _ _ contents => HtmlNode.stringsOf contents

/-- The texts below nodes. -/
def HtmlNode.stringsOf {α : Type} : List (HtmlNode α) → List String
  | [] => []
  | node :: rest => node.strings ++ HtmlNode.stringsOf rest

end

/-- `_html_field_code_point_counts`. -/
def htmlFieldCodePointCounts (contents : List (HtmlNode AttributeValue)) : ℕ × ℕ :=
  let counter := (HtmlNode.stringsOf contents).foldl (fun counter data => counter.add (some data))
    ({} : CanonicalTextCounter)
  (counter.codePoints, counter.semanticCodePoints)

/-- The locals of `_validate_html_tree`. -/
structure HtmlRecount where
  elements : ℕ := 0
  totalAttributes : ℕ := 0
  metadataFields : ℕ := 0
  records : ℕ := 0
  maxFieldCodePoints : ℕ := 0
  semanticMaxFieldCodePoints : ℕ := 0
  textCounter : CanonicalTextCounter := {}
  deriving DecidableEq, Repr

/-- A node on the stack: its depth, its context, and whether it is in the body of a search table. -/
structure HtmlEntry where
  node : HtmlNode AttributeValue
  depth : ℕ
  context : Option HtmlContext
  inSearchBody : Bool

namespace HtmlRecount

/-- One turn of the loop for an element, without the children it pushes. -/
def visitElement (url : String) (c : HtmlRecount) (tag : String)
    (attrs : List (String × AttributeValue)) (contents : List (HtmlNode AttributeValue)) (depth : ℕ)
    (context : Option HtmlContext) (inSearchBody : Bool) : Except AppError HtmlRecount := do
  if depth > parserLimits.maxDepth + 3 then
    throw (upstreamFailure "The repository response exceeded the tree depth limit." (some url))
  let elements := saturatingIncrement c.elements 1 (parserLimits.maxNodes + 3)
  if elements > parserLimits.maxNodes + 3 then
    throw (upstreamFailure "The repository response exceeded the HTML element limit." (some url))
  if attrs.length > parserLimits.maxAttributesPerNode then
    throw (upstreamFailure "The repository response exceeded the per-node attribute limit."
      (some url))
  if (attrs.length : ℤ) > parserLimits.maxTotalAttributes - c.totalAttributes then
    throw (upstreamFailure "The repository response exceeded the aggregate attribute limit."
      (some url))
  let totalAttributes :=
    saturatingIncrement c.totalAttributes attrs.length parserLimits.maxTotalAttributes
  let textCounter := attrs.foldl (fun counter item =>
    (counter.add (some item.1)).add (some (htmlAttributeText item.2))) c.textCounter
  let metadataFields := if tag == "tr" && context == some .metadata then
    saturatingIncrement c.metadataFields 1 parserLimits.maxMetadataFields else c.metadataFields
  let records := if tag == "tr" && context == some .search && inSearchBody then
    saturatingIncrement c.records 1 parserLimits.maxRecords else c.records
  let c := { c with elements, totalAttributes, textCounter, metadataFields, records }
  if tag == "td" then
    let (fieldCodePoints, semanticFieldCodePoints) := htmlFieldCodePointCounts contents
    if fieldCodePoints > parserLimits.maxFieldCodePoints then
      throw (upstreamFailure "The repository response exceeded the field code-point limit."
        (some url))
    return { c with
      maxFieldCodePoints := max c.maxFieldCodePoints fieldCodePoints
      semanticMaxFieldCodePoints := max c.semanticMaxFieldCodePoints semanticFieldCodePoints }
  else return c

/-- One turn of the loop. -/
def visit (url : String) (c : HtmlRecount) (entry : HtmlEntry) : Except AppError HtmlRecount :=
  match entry.node with
  | .text data => .ok { c with textCounter := c.textCounter.add (some data) }
  | .element tag _ attrs contents =>
    c.visitElement url tag attrs contents entry.depth entry.context entry.inSearchBody

/-- A child as it is pushed. -/
def childEntry (entry : HtmlEntry) (child : HtmlNode AttributeValue) : HtmlEntry :=
  match child with
  | .text data => ⟨.text data, entry.depth + 1, entry.context, entry.inSearchBody⟩
  | .element tag slash attrs contents =>
    let classText := ((attrs.lookup "class").map htmlAttributeText).getD ""
    let context := elementContext entry.context tag classText
    ⟨.element tag slash attrs contents, entry.depth + 1, context,
      entry.inSearchBody || (context == some .search && tag == "tbody")⟩

/-- The children of an entry as they are pushed: the first one is popped first. -/
def pushed (entry : HtmlEntry) : List HtmlEntry :=
  match entry.node with
  | .text _ => []
  | .element _ _ _ contents => contents.map (childEntry entry)

/-- The nodes on the stack. -/
def stackSize (stack : List HtmlEntry) : ℕ := HtmlNode.sizes (stack.map HtmlEntry.node)

theorem sizes_append {α : Type} {a b : List (HtmlNode α)} :
    HtmlNode.sizes (a ++ b) = HtmlNode.sizes a + HtmlNode.sizes b := by
  induction a with
  | nil => simp [HtmlNode.sizes]
  | cons node rest ih => simp [HtmlNode.sizes, ih, Nat.add_assoc]

theorem childEntry_node {entry : HtmlEntry} {child : HtmlNode AttributeValue} :
    (childEntry entry child).node = child := by
  cases child <;> rfl

theorem stackSize_pushed {entry : HtmlEntry} {rest : List HtmlEntry} :
    stackSize (pushed entry ++ rest) < stackSize (entry :: rest) := by
  obtain ⟨node, depth, context, inSearchBody⟩ := entry
  rw [stackSize, stackSize, List.map_append, sizes_append, List.map_cons, HtmlNode.sizes]
  cases node with
  | text data =>
      simp only [pushed, List.map_nil, HtmlNode.sizes, HtmlNode.size]
      omega
  | element tag slash attrs contents =>
      have hnodes : ((contents.map
          (childEntry ⟨.element tag slash attrs contents, depth, context, inSearchBody⟩)).map
            HtmlEntry.node) = contents := by
        rw [List.map_map]
        exact (List.map_congr_left fun child _ => childEntry_node).trans (List.map_id _)
      simp only [pushed, hnodes, HtmlNode.size]
      omega

/-- The loop of `_validate_html_tree`. -/
def visitAll (url : String) (c : HtmlRecount) : List HtmlEntry → Except AppError HtmlRecount
  | [] => .ok c
  | entry :: rest =>
    match c.visit url entry with
    | .error error => .error error
    | .ok c => visitAll url c (pushed entry ++ rest)
  termination_by stack => stackSize stack
  decreasing_by exact stackSize_pushed

/-- What the loop leaves. -/
def counts (c : HtmlRecount) : MarkupCounts where
  nodes := c.elements
  totalAttributes := c.totalAttributes
  totalTextCodePoints := c.textCounter.codePoints
  semanticTotalTextCodePoints := c.textCounter.semanticCodePoints
  metadataFields := c.metadataFields
  records := c.records
  maxFieldCodePoints := c.maxFieldCodePoints
  semanticMaxFieldCodePoints := c.semanticMaxFieldCodePoints

end HtmlRecount

/-- `_validate_html_tree`. -/
def validateHtmlTree (soup : HtmlNode AttributeValue) (url : String) :
    Except AppError MarkupCounts := do
  let c ← HtmlRecount.visitAll url {} [⟨soup, 1, none, false⟩]
  if c.textCounter.codePoints > parserLimits.maxTotalTextCodePoints then
    throw (upstreamFailure "The repository response exceeded the aggregate text limit." (some url))
  return c.counts

end NplgMcp
