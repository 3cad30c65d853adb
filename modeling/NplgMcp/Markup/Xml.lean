import NplgMcp.Markup.Counts

/-!
# XML documents, their preflight and their tree

`_preflight_xml` reads a document as a stream of start and end events, `_validate_xml_tree` counts
the tree that is then built from the same text, and `_parse_xml` compares the two.

The stream is that of `iterparse`: it feeds the parser one chunk of characters and then hands over
the events of all tags that are complete. An element's text and its tail are set when the tag behind
them is complete, so a tail is seen at the end event only if that tag is in the same chunk: the
element is read, and cleared, when its event is handed over.
-/

namespace NplgMcp

/-- An element of `xml.etree.ElementTree`; an absent text or tail is the empty one. -/
inductive XmlElement where
  | mk (tag : String) (attrib : List (String × String)) (text : String)
      (children : List XmlElement) (tail : String)

namespace XmlElement

/-- `element.tag`. -/
def tag : XmlElement → String
  | mk tag _ _ _ _ => tag

/-- `element.attrib`. -/
def attrib : XmlElement → List (String × String)
  | mk _ attrib _ _ _ => attrib

/-- `element.text`. -/
def text : XmlElement → String
  | mk _ _ text _ _ => text

/-- The children, in document order. -/
def children : XmlElement → List XmlElement
  | mk _ _ _ children _ => children

/-- `element.tail`. -/
def tail : XmlElement → String
  | mk _ _ _ _ tail => tail

end XmlElement

/-- `_local_name`: what follows the last closing brace. -/
def localName (tag : String) : String :=
  String.ofList (tag.toList.reverse.takeWhile (· ≠ '\x7d')).reverse

/-! ## The stream -/

/-- A start tag with its attributes, or an end tag. -/
inductive TagKind where
  | start (tag : String) (attrib : List (String × String))
  | stop
  deriving DecidableEq, Repr

/-- A tag, and the text between it and the tag before. -/
structure XmlTag where
  before : String
  kind : TagKind
  deriving DecidableEq, Repr

mutual

/-- The tags of an element that stands behind a text. -/
def XmlElement.tags (before : String) : XmlElement → List XmlTag
  | .mk tag attrib text children _ =>
    ⟨before, .start tag attrib⟩ :: XmlElement.contentTags text children

/-- The tags of the children of an element and its end tag, with the text before them. -/
def XmlElement.contentTags (before : String) : List XmlElement → List XmlTag
  | [] => [⟨before, .stop⟩]
  | child :: rest => child.tags before ++ XmlElement.contentTags child.tail rest

end

/-- A document: its root, how many characters there are up to the end of each tag, and how many
bytes in all. Nothing follows the root. -/
structure XmlDocument where
  root : XmlElement
  ends : List ℕ
  bytes : ℕ
  root_tail : root.tail = ""
  ends_increasing : ends.Pairwise (· < ·)
  ends_tags : ends.length = (root.tags "").length

/-- What a chunk makes complete: the tags that end within the characters fed so far. -/
def feedChunks : List (XmlTag × ℕ) → ℕ → List ℕ → List (List XmlTag)
  | tags, _, [] => [tags.map Prod.fst]
  | tags, fed, size :: sizes =>
    (tags.takeWhile (·.2 ≤ fed + size)).map Prod.fst ::
      feedChunks (tags.dropWhile (·.2 ≤ fed + size)) (fed + size) sizes

/-- The tags that become complete with each chunk, for chunks of the given sizes. -/
def XmlDocument.chunks (document : XmlDocument) (sizes : List ℕ) : List (List XmlTag) :=
  feedChunks ((document.root.tags "").zip document.ends) 0 sizes

/-- What the reader sees of an event: the tag and the attributes of an element that starts, the text
and the tail of one that has ended. -/
inductive XmlEvent where
  | start (tag : String) (attrib : List (String × String))
  | stop (text tail : String)
  deriving DecidableEq, Repr

/-- The pull parser: the texts of the open elements, innermost first; whether the last tag was an end
tag; and the events that have not been handed over, newest first. -/
structure PullParser where
  opened : List String
  closed : Bool
  queue : List XmlEvent
  deriving DecidableEq, Repr

namespace PullParser

/-- The text behind the last tag is set: as the tail of the element that has ended, if its event is
still to be handed over, or as the text of the element that has started. -/
def flush (p : PullParser) (text : String) : PullParser :=
  if p.closed then
    match p.queue with
    | .stop own _ :: rest => { p with queue := .stop own text :: rest }
    | _ => p
  else { p with opened := p.opened.set 0 text }

/-- One tag is complete. -/
def feed (p : PullParser) (tag : XmlTag) : PullParser :=
  let p := p.flush tag.before
  match tag.kind with
  | .start tag attrib =>
    { opened := "" :: p.opened, closed := false, queue := .start tag attrib :: p.queue }
  | .stop =>
    { opened := p.opened.tail, closed := true, queue := .stop (p.opened.headD "") "" :: p.queue }

end PullParser

/-! ## The preflight -/

/-- The locals of `_preflight_xml`; the lists have their last entry first. -/
structure XmlPreflight where
  elements : ℕ := 0
  depth : ℕ := 0
  textCodePoints : ℕ := 0
  totalAttributes : ℕ := 0
  elementNames : List String := []
  fieldElements : List Bool := []
  metadataFields : ℕ := 0
  records : ℕ := 0
  maxFieldCodePoints : ℕ := 0
  /-- how often the clock has been read -/
  clockReads : ℕ := 0
  deriving DecidableEq, Repr

namespace XmlPreflight

/-- The loop over the attributes of an element. -/
def addAttributes (textCodePoints : ℕ) (attrib : List (String × String)) : Except AppError ℕ :=
  attrib.foldlM (fun total item => do
    validateTextBudget (← validateTextBudget total item.1) item.2) textCodePoints

/-- The field is a metadata field: a `field` element or a child of a `dc` one. -/
def isField (name : String) (parentName : Option String) : Bool :=
  name == "field" || parentName == some "dc"

/-- The start event. -/
def start (p : XmlPreflight) (tag : String) (attrib : List (String × String)) :
    Except AppError XmlPreflight := do
  let name := localName tag
  let depth := saturatingIncrement p.depth 1 parserLimits.maxDepth
  let elements := saturatingIncrement p.elements 1 parserLimits.maxNodes
  if depth > parserLimits.maxDepth then
    throw (upstreamFailure "The repository response exceeded the tree depth limit.")
  if elements > parserLimits.maxNodes then
    throw (upstreamFailure "The repository response exceeded the XML element limit.")
  if attrib.length > parserLimits.maxAttributesPerNode then
    throw (upstreamFailure "The repository response exceeded the per-node attribute limit.")
  if (attrib.length : ℤ) > parserLimits.maxTotalAttributes - p.totalAttributes then
    throw (upstreamFailure "The repository response exceeded the aggregate attribute limit.")
  let totalAttributes :=
    saturatingIncrement p.totalAttributes attrib.length parserLimits.maxTotalAttributes
  let field := isField name p.elementNames.head?
  let metadataFields := if field then
    saturatingIncrement p.metadataFields 1 parserLimits.maxMetadataFields else p.metadataFields
  if field ∧ metadataFields > parserLimits.maxMetadataFields then
    throw (upstreamFailure "The repository response exceeded the metadata field limit.")
  let records := if name == "record" then
    saturatingIncrement p.records 1 parserLimits.maxRecords else p.records
  if name == "record" ∧ records > parserLimits.maxRecords then
    throw (upstreamFailure "The repository response exceeded the record limit.")
  let textCodePoints ← addAttributes p.textCodePoints attrib
  return { p with
    elements, depth, textCodePoints, totalAttributes, metadataFields, records
    elementNames := name :: p.elementNames
    fieldElements := field :: p.fieldElements }

/-- The end event. -/
def stop (p : XmlPreflight) (text tail : String) : Except AppError XmlPreflight := do
  let field := p.fieldElements.head?.getD false
  if field ∧ text.length > parserLimits.maxFieldCodePoints then
    throw (upstreamFailure "The repository response exceeded the field code-point limit.")
  let maxFieldCodePoints := if field then
    max p.maxFieldCodePoints (min text.length (parserLimits.maxFieldCodePoints + 1))
    else p.maxFieldCodePoints
  let textCodePoints ← validateTextBudget (← validateTextBudget p.textCodePoints text) tail
  return { p with
    textCodePoints, maxFieldCodePoints
    elementNames := p.elementNames.tail
    fieldElements := p.fieldElements.tail
    depth := p.depth - 1 }

/-- One turn of the loop; `expired` says which readings of the clock are past the deadline. -/
def handle (expired : ℕ → Bool) (p : XmlPreflight) (event : XmlEvent) :
    Except AppError XmlPreflight :=
  if expired p.clockReads then
    .error (upstreamFailure "The repository response exceeded the parse deadline.")
  else
    let p := { p with clockReads := p.clockReads + 1 }
    match event with
    | .start tag attrib => p.start tag attrib
    | .stop text tail => p.stop text tail

/-- What the loop leaves. -/
def counts (p : XmlPreflight) : MarkupCounts where
  nodes := p.elements
  totalAttributes := p.totalAttributes
  totalTextCodePoints := p.textCodePoints
  semanticTotalTextCodePoints := p.textCodePoints
  metadataFields := p.metadataFields
  records := p.records
  maxFieldCodePoints := p.maxFieldCodePoints
  semanticMaxFieldCodePoints := p.maxFieldCodePoints

/-- The loop over the events, chunk by chunk: what is complete is fed, then handed over. -/
def readChunks (expired : ℕ → Bool) :
    PullParser → XmlPreflight → List (List XmlTag) → Except AppError XmlPreflight
  | _, p, [] => .ok p
  | parser, p, chunk :: rest => do
    let parser := chunk.foldl PullParser.feed parser
    let p ← parser.queue.reverse.foldlM (handle expired) p
    readChunks expired { parser with queue := [] } p rest

end XmlPreflight

/-- `_preflight_xml`. -/
def preflightXml (document : XmlDocument) (sizes : List ℕ) (expired : ℕ → Bool) :
    Except AppError MarkupCounts :=
  if document.bytes > parserLimits.markupBytes then
    .error (upstreamFailure "The repository response exceeded the markup byte limit.")
  else
    (XmlPreflight.readChunks expired ⟨[], false, []⟩ {} (document.chunks sizes)).map
      XmlPreflight.counts

/-! ## The tree -/

mutual

/-- How many elements there are. -/
def XmlElement.size : XmlElement → ℕ
  | .mk _ _ _ children _ => 1 + XmlElement.sizes children

/-- How many elements there are in a list of trees. -/
def XmlElement.sizes : List XmlElement → ℕ
  | [] => 0
  | element :: rest => element.size + XmlElement.sizes rest

end

/-- The locals of `_validate_xml_tree`. -/
structure XmlRecount where
  elements : ℕ := 0
  textCodePoints : ℕ := 0
  totalAttributes : ℕ := 0
  metadataFields : ℕ := 0
  records : ℕ := 0
  maxFieldCodePoints : ℕ := 0
  deriving DecidableEq, Repr

namespace XmlRecount

/-- One turn of the loop, without the children it pushes. -/
def visit (c : XmlRecount) (current : XmlElement) (depth : ℕ) (parentName : Option String) :
    Except AppError XmlRecount := do
  let name := localName current.tag
  if depth > parserLimits.maxDepth then
    throw (upstreamFailure "The repository response exceeded the tree depth limit.")
  let elements := saturatingIncrement c.elements 1 parserLimits.maxNodes
  if elements > parserLimits.maxNodes then
    throw (upstreamFailure "The repository response exceeded the XML element limit.")
  if current.attrib.length > parserLimits.maxAttributesPerNode then
    throw (upstreamFailure "The repository response exceeded the per-node attribute limit.")
  if (current.attrib.length : ℤ) > parserLimits.maxTotalAttributes - c.totalAttributes then
    throw (upstreamFailure "The repository response exceeded the aggregate attribute limit.")
  let totalAttributes :=
    saturatingIncrement c.totalAttributes current.attrib.length parserLimits.maxTotalAttributes
  let field := XmlPreflight.isField name parentName
  let metadataFields := if field then
    saturatingIncrement c.metadataFields 1 parserLimits.maxMetadataFields else c.metadataFields
  let maxFieldCodePoints := if field then
    max c.maxFieldCodePoints current.text.length else c.maxFieldCodePoints
  let records := if name == "record" then
    saturatingIncrement c.records 1 parserLimits.maxRecords else c.records
  let textCodePoints ← validateTextBudget c.textCodePoints current.text
  let textCodePoints ← validateTextBudget textCodePoints current.tail
  let textCodePoints ← XmlPreflight.addAttributes textCodePoints current.attrib
  return { elements, textCodePoints, totalAttributes, metadataFields, records, maxFieldCodePoints }

/-- The elements on the stack. -/
def stackSize (stack : List (XmlElement × ℕ × Option String)) : ℕ :=
  XmlElement.sizes (stack.map Prod.fst)

/-- The children of an element as they are pushed: the last one is popped first. -/
def pushed (current : XmlElement) (depth : ℕ) : List (XmlElement × ℕ × Option String) :=
  (current.children.map fun child => (child, depth + 1, some (localName current.tag))).reverse

theorem sizes_append {a b : List XmlElement} :
    XmlElement.sizes (a ++ b) = XmlElement.sizes a + XmlElement.sizes b := by
  induction a with
  | nil => simp [XmlElement.sizes]
  | cons element rest ih => simp [XmlElement.sizes, ih, Nat.add_assoc]

theorem sizes_reverse {a : List XmlElement} : XmlElement.sizes a.reverse = XmlElement.sizes a := by
  induction a with
  | nil => rfl
  | cons element rest ih =>
      simp only [List.reverse_cons, sizes_append, ih, XmlElement.sizes]
      omega

theorem stackSize_pushed {current : XmlElement} {depth : ℕ}
    {rest : List (XmlElement × ℕ × Option String)} {parentName : Option String} :
    stackSize (pushed current depth ++ rest) < stackSize ((current, depth, parentName) :: rest) := by
  obtain ⟨tag, attrib, text, children, tail⟩ := current
  have hpushed : (pushed (.mk tag attrib text children tail) depth).map Prod.fst =
      children.reverse := by
    simp [pushed, XmlElement.children, Function.comp_def]
  rw [stackSize, stackSize, List.map_append, hpushed, sizes_append, sizes_reverse]
  simp only [List.map_cons, XmlElement.sizes, XmlElement.size]
  omega

/-- The loop of `_validate_xml_tree`. -/
def visitAll (c : XmlRecount) : List (XmlElement × ℕ × Option String) → Except AppError XmlRecount
  | [] => .ok c
  | (current, depth, parentName) :: rest =>
    match c.visit current depth parentName with
    | .error error => .error error
    | .ok c => visitAll c (pushed current depth ++ rest)
  termination_by stack => stackSize stack
  decreasing_by exact stackSize_pushed

/-- What the loop leaves. -/
def counts (c : XmlRecount) : MarkupCounts where
  nodes := c.elements
  totalAttributes := c.totalAttributes
  totalTextCodePoints := c.textCodePoints
  semanticTotalTextCodePoints := c.textCodePoints
  metadataFields := c.metadataFields
  records := c.records
  maxFieldCodePoints := c.maxFieldCodePoints
  semanticMaxFieldCodePoints := c.maxFieldCodePoints

end XmlRecount

/-- `_validate_xml_tree`. -/
def validateXmlTree (root : XmlElement) : Except AppError MarkupCounts :=
  (XmlRecount.visitAll {} [(root, 1, none)]).map XmlRecount.counts

/-- `_parse_xml` of a well-formed document: `fromstring` builds its tree. -/
def parseXml (document : XmlDocument) (sizes : List ℕ) (expired : ℕ → Bool) :
    Except AppError XmlElement := do
  let preflight ← preflightXml document sizes expired
  let constructed ← validateXmlTree document.root
  requirePreflightAgreement preflight constructed true
  return document.root

end NplgMcp
