import NplgMcp.Http.AssetTokens
import NplgMcp.Search.Results

/-!
# Pages of items

`parse_item_page` of `parsers.py`. The container of an item is that of one of two layouts; the handle
that the page gives itself, the markers of restricted access, the rows of metadata and the links to
bitstreams are each searched for in the container on their own.
-/

open Library

namespace NplgMcp

/-- What the parser is given of a text: what `_preflight_html` makes of it, the tree that
`BeautifulSoup` builds, and the comments below the element at a place, which are no texts of the tree
but are found by a search for strings. -/
structure HtmlDocument where
  preflight : Except AppError MarkupCounts
  tree : HtmlNode AttributeValue
  comments : List ℕ → List String

/-- What else is used of Python's libraries: `sha256(text.encode()).hexdigest()`. -/
structure ItemPlatform extends WebPlatform where
  hexdigest : String → String

/-- What `parse_item_page` raises: as other parsers do, or because a size is no finite number. -/
inductive ItemRaised where
  | raised (error : Raised)
  | overflowError
  deriving DecidableEq, Repr

/-- What raises an error of the other parsers. -/
def itemRaising {α : Type} : Except Raised α → Except ItemRaised α
  | .error error => .error (.raised error)
  | .ok value => .ok value

/-- `_RESTRICTED_MARKERS`. -/
def restrictedMarkers : List String :=
  ["only available in the library's internal network",
    "only be accessed from the national library's building",
    "must sign in or visit the library building", "not allowed to print or copy",
    "internal network", "შიდა ქსელ", "ბიბლიოთეკის შენობიდან"]

/-- `_JSPUI_IDENTIFIER_LEAD_IN`. -/
def jspuiIdentifierLeadIn : String := "Please use this identifier to cite or link to this item:"

/-- `_MIN_METADATA_CELLS`. -/
def minMetadataCells : ℕ := 2

/-- `_SIZE_CELL_INDEX`. -/
def sizeCellIndex : ℕ := 2

/-- `_LANGUAGE_CELL_INDEX`. -/
def languageCellIndex : ℕ := 2

/-- `_FORMAT_CELL_INDEX`. -/
def formatCellIndex : ℕ := 3

/-- `_MAX_BITSTREAMS`. -/
def maxBitstreams : ℕ := 256

/-- `_MAX_COLLECTIONS`. -/
def maxCollections : ℕ := 256

/-! ## Texts -/

/-- `s.rstrip(":")`. -/
def rstripColons (s : String) : String :=
  String.ofList (s.toList.reverse.dropWhile (· == ':')).reverse

/-- `s.removeprefix(start)`. -/
def removeStart (s start : String) : String :=
  if Text.startsWith s start then String.ofList (s.toList.drop start.length) else s

/-- `_DC_KEY_RE`. -/
def isDcKey (key : String) : Bool :=
  match key.toList.splitOn '.' with
  | ['d', 'c'] :: part :: parts =>
    (part :: parts).all fun part => !part.isEmpty &&
      part.all fun c => c.isAlphanum || c == '_' || c == '-'
  | _ => false

/-- `path.rsplit("/", 1)[-1]`. -/
def lastSegment (path : String) : String :=
  String.ofList ((path.toList.splitOn '/').getLast?.getD [])

/-! ## Sizes -/

/-- The binary64 number nearest to a fraction, as a fraction; there is none where it is infinite. -/
def nearestDouble (numerator denominator : ℕ) : Option (ℕ × ℕ) :=
  let guess := (Nat.log 2 numerator : ℤ) - Nat.log 2 denominator
  -- The quotient of the two powers of two is at most one binary digit off.
  let exponent := if denominator * 2 ^ guess.toNat ≤ numerator * 2 ^ (-guess).toNat then guess
    else guess - 1
  let scale := max exponent (-1022) - 52
  let significand := roundedQuotient (numerator * 2 ^ (-scale).toNat) (denominator * 2 ^ scale.toNat)
  if 2 ^ 1024 ≤ significand * 2 ^ scale.toNat / 2 ^ (-scale).toNat then none
  else some (significand * 2 ^ scale.toNat, 2 ^ (-scale).toNat)

/-- The units of `_parse_size`, in upper case. -/
def sizeMultiplier : List Char → Option ℕ
  | ['B'] => some 1
  | ['K', 'B'] => some 1000
  | ['M', 'B'] => some 1000000
  | ['G', 'B'] => some 1000000000
  | ['T', 'B'] => some 1000000000000
  | _ => none

/-- `(?:\.[0-9]+)?`: the digits of the fraction, and what is left. -/
def fractionDigits (s : List Char) : List Char × List Char :=
  match s with
  | '.' :: rest =>
    if (rest.takeWhile Char.isDigit).isEmpty then ([], s)
    else (rest.takeWhile Char.isDigit, rest.dropWhile Char.isDigit)
  | _ => ([], s)

/-- `_SIZE_RE`: the digits of the number, those of its fraction, and the multiplier of the unit. The
Kelvin sign, which the pattern takes for a `K`, is in no text of normal form C. -/
def sizeParts (s : List Char) : Option (List Char × List Char × ℕ) :=
  let s := s.dropWhile Text.isSpace
  let whole := s.takeWhile Char.isDigit
  let (fraction, rest) := fractionDigits (s.dropWhile Char.isDigit)
  let unit := ((rest.dropWhile Text.isSpace).reverse.dropWhile Text.isSpace).reverse
  if whole.isEmpty then none
  else (sizeMultiplier (unit.map Char.toUpper)).map fun multiplier => (whole, fraction, multiplier)

/-- `int(float(number) * multiplier)`. -/
def scaledSize (whole fraction : List Char) (multiplier : ℕ) : Option ℕ := do
  let amount ← nearestDouble (Nat.ofDigitChars 10 (whole ++ fraction) 0) (10 ^ fraction.length)
  let product ← nearestDouble (amount.1 * multiplier) amount.2
  return product.1 / product.2

/-- `_parse_size`. -/
def ItemPlatform.parseSize (py : ItemPlatform) (value : String) : Except ItemRaised (Option ℕ) :=
  match sizeParts (py.normalize value).toList with
  | none => .ok none
  | some (whole, fraction, multiplier) =>
    match scaledSize whole fraction multiplier with
    | none => .error .overflowError
    | some size => .ok (some size)

/-! ## Tags -/

/-- The elements around a place, as tags, the innermost one first. -/
def tagsAround : List HtmlElement → List ℕ → List Tag
  | element :: above, _ :: path => ⟨element, path, above⟩ :: tagsAround above path
  | _, _ => []

/-- `tag.find_parent(name)`. -/
def Tag.findParent (tag : Tag) (name : String) : Option Tag :=
  (tagsAround tag.above tag.path).find? (·.isNamed name)

/-- `_has_bitstream_href`, for a text. -/
def isBitstreamHref (href : String) : Bool := Text.contains "/bitstream/".toList href.toList

/-- `container.find_all("a", href=_has_bitstream_href)`. -/
def bitstreamLinks (container : Tag) : List Tag :=
  container.findAll fun tag => tag.isNamed "a" && attributeMatches isBitstreamHref (tag.get "href")

/-! ## Rows of metadata -/

/-- `_MetadataRow`. -/
structure MetadataRow where
  row : Tag
  cells : List Tag

/-- The tags whose place has not been seen, each of them once. -/
def unseen : List (List ℕ) → List Tag → List Tag
  | _, [] => []
  | seen, tag :: tags =>
    if tag.path ∈ seen then unseen seen tags else tag :: unseen (tag.path :: seen) tags

/-- A table of metadata. -/
def isMetadataTable (tag : Tag) : Bool := tag.isNamed "table" && tag.hasClass (· == "itemDisplayTable")

/-- The rows that the two loops of `_metadata_rows` come to. -/
def visitedRows (tags : List Tag) : List Tag :=
  (tags.filter isMetadataTable).flatMap fun table => table.findAll (·.isNamed "tr")

/-- `_metadata_rows`. -/
def metadataRows (container : Tag) : List MetadataRow :=
  (unseen [] (visitedRows container.descendants)).map fun row =>
    ⟨row, row.findChildren (·.isNamed "td")⟩

/-- What `_summary_fields` takes the labels for. -/
def summaryKeys : List (String × String) :=
  [("title", "dc.title"), ("issue date", "dc.date.issued"), ("publisher", "dc.publisher"),
    ("description", "dc.description"), ("owner", "dc.rights.holder"),
    ("author", "dc.contributor.author"), ("authors", "dc.contributor.author"),
    ("subject", "dc.subject"), ("language", "dc.language.iso"), ("type", "dc.type")]

/-- What the loops of `_summary_fields` and `_full_fields` have in common: the fields of the rows that
have one, up to a limit. -/
def readFields (field : MetadataRow → Option RawMetadataField) :
    List MetadataRow → List RawMetadataField → Except Raised (List RawMetadataField)
  | [], fields => .ok fields
  | row :: rows, fields =>
    match field row with
    | none => readFields field rows fields
    | some found =>
      if parserLimits.maxMetadataFields ≤ fields.length then
        .error (.app (upstreamFailure "The item response exceeded the metadata field limit." none))
      else readFields field rows (fields ++ [found])

/-! ## The parts of a page -/

/-- What `_item_container` returns. -/
structure ItemContainer where
  container : Tag
  variant : SearchVariant
  identity : Option Tag

/-- The first handle that is read, where errors of the application are passed over. -/
def firstHandle : List (Except Raised String) → Except Raised (Option String)
  | [] => .ok none
  | .ok handle :: _ => .ok (some handle)
  | .error (.app _) :: rest => firstHandle rest
  | .error .valueError :: _ => .error .valueError

namespace ItemPlatform

variable (py : ItemPlatform)

/-- The field of a row, for `_summary_fields`. -/
def summaryField (row : MetadataRow) : Option RawMetadataField :=
  match row.cells with
  | label :: value :: _ =>
    let label := py.lower (Text.strip (rstripColons (py.tagText label)))
    (summaryKeys.lookup label).bind fun key =>
      if py.tagText value = "" then none else some { key, value := py.tagText value }
  | _ => none

/-- The language of a field: empty texts and dashes are none. -/
def fieldLanguage (cells : List Tag) : Option String :=
  ((cells[languageCellIndex]?).map py.tagText).filter fun language => language ≠ "" ∧ language ≠ "-"

/-- The field of a row, for `_full_fields`. -/
def fullField (row : MetadataRow) : Option RawMetadataField :=
  match row.cells with
  | key :: value :: _ =>
    if !isDcKey (py.tagText key) then none
    else if py.tagText value = "" then none
    else some { key := py.tagText key, value := py.tagText value, language := py.fieldLanguage row.cells }
  | _ => none

/-- The field of a row. -/
def rowField (full : Bool) : MetadataRow → Option RawMetadataField :=
  if full then py.fullField else py.summaryField

/-- A row begins with the key of a field. -/
def isFullRow (row : MetadataRow) : Bool :=
  match row.row.children.head?, row.cells.head? with
  | some child, some cell => child.same cell && isDcKey (py.tagText cell)
  | _, _ => false

/-- `_has_full_metadata_text`. -/
def hasFullMetadataText (value : String) : Bool :=
  Text.contains "full metadata record".toList (py.lower value).toList

/-- `is_full`. -/
def isFull (document : HtmlDocument) (container : Tag) : Bool :=
  (metadataRows container).any py.isFullRow ||
    (HtmlNode.stringsOf container.element.contents).any py.hasFullMetadataText ||
    (document.comments container.path).any py.hasFullMetadataText

/-- The names of collections that a row lists. -/
def rowCollections (row : MetadataRow) : List String :=
  match row.cells with
  | label :: value :: _ =>
    if py.lower (rstripColons (py.tagText label)) = "appears in collections" then
      match (value.findAll (·.isNamed "a")).map py.tagText with
      | [] => [py.tagText value]
      | links => links
    else []
  | _ => []

/-- The names of collections that a paragraph lists. -/
def paragraphCollections (container : Tag) : List String :=
  match container.findAll fun tag => (tag.isNamed "p" || tag.isNamed "div") &&
      Text.startsWith (py.lower (py.tagText tag)) "appears in collections:" with
  | [] => []
  | paragraph :: _ =>
    match (paragraph.findAll (·.isNamed "a")).map py.tagText with
    | [] => [String.ofList (((py.tagText paragraph).toList.dropWhile (· != ':')).drop 1)]
    | links => links

/-- `_collections`. -/
def collections (container : Tag) (rows : List MetadataRow) : Except Raised (List String) :=
  let listed := rows.flatMap py.rowCollections
  let found := py.unique (if listed = [] then py.paragraphCollections container else listed)
  if found.length > maxCollections then
    .error (.app (upstreamFailure "The item response exceeded the collection limit." none))
  else .ok found

/-- `_extract_handle`. -/
def extractHandle (container : Tag) : Except Raised (Option String) := do
  let codes := (container.findAll (·.isNamed "code")).map fun code =>
    py.parseHandleInput (py.tagText code)
  let links := container.findAll fun link => link.isNamed "a" && (link.get "href").isSome &&
    Text.contains "/handle/".toList (link.attributeText "href").toList
  match ← firstHandle codes with
  | some handle => return some handle
  | none => firstHandle (links.map fun link => do
      py.parseHandleInput (← py.join nplgOrigin (link.attributeText "href")))

/-- What is raised for a page without one container. -/
def cardinalityFailure (url : String) : Raised :=
  failed url "The item response had an invalid contract marker cardinality."

/-- One turn of the inner loop of `_item_container`: the container with its identity, if it has one. -/
def jspuiIdentity (url : String) (container : Tag) : Except Raised (Option ItemContainer) :=
  match (container.findChildren fun tag => tag.isNamed "div" && tag.hasClass (· == "well")).take 2 with
  | [] => .ok none
  | [well] =>
    match (well.findChildren (·.isNamed "code")).take 2 with
    | [code] =>
      if Text.startsWith (py.tagText well) jspuiIdentifierLeadIn then
        .ok (some ⟨container, .jspui, some code⟩)
      else .error (cardinalityFailure url)
    | _ => .error (cardinalityFailure url)
  | _ => .error (cardinalityFailure url)

/-- `_item_container`. -/
def itemContainer (soup : Tag) (url : String) : Except Raised ItemContainer := do
  let xmlui := (soup.findAll (·.hasValue "id" "aspect_artifactbrowser_ItemViewer_div_item-view")).take 2
  let mains := soup.findAll fun tag =>
    tag.isNamed "main" && tag.hasValue "id" "content" && tag.hasValue "role" "main"
  let containers := mains.flatMap fun main =>
    main.findChildren fun tag => tag.isNamed "div" && tag.hasClass (· == "container")
  let jspui := (← containers.mapM (py.jspuiIdentity url)).filterMap id
  match xmlui, jspui with
  | [container], [] => return ⟨container, .xmlui, none⟩
  | [], [found] => return found
  | _, _ => throw (cardinalityFailure url)

/-- The handle that a page gives itself. -/
def pageHandle (found : ItemContainer) : Except Raised (Option String) :=
  match found.identity with
  | none => py.extractHandle found.container
  | some code => firstHandle [py.parseHandleInput (py.tagText code)]

/-! ## Bitstreams -/

/-- `_bitstream_id`. -/
def bitstreamId (handle sourceUrl : String) : String :=
  "bit_" ++ String.ofList ((py.hexdigest (handle ++ "\n" ++ sourceUrl)).toList.take 24)

/-- The text of a cell, if it is there and not empty. -/
def cellText (cells : List Tag) (index : ℕ) : Option String :=
  ((cells[index]?).map py.tagText).filter (· ≠ "")

/-- The size that a row reports. -/
def reportedSize (cells : List Tag) : Except ItemRaised (Option ℕ) :=
  match cells[sizeCellIndex]? with
  | some cell => py.parseSize (py.tagText cell)
  | none => .ok none

/-- The bitstream of a link. -/
def bitstream (link : Tag) (handle absolute path : String) : Except ItemRaised Bitstream := do
  let cells := match link.findParent "tr" with
    | some row => row.findChildren (·.isNamed "td")
    | none => []
  let reportedSize ← py.reportedSize cells
  return {
    bitstreamId := py.bitstreamId handle absolute
    handle
    filename := if py.tagText link = "" then lastSegment path else py.tagText link
    sourceUrl := absolute
    reportedSize
    reportedFormat := py.cellText cells formatCellIndex
    description := py.cellText cells (minMetadataCells - 1) }

/-- The URL and the path of a link to a bitstream of the handle. -/
def bitstreamUrl (link : Tag) (handle url : String) : Except Raised (String × String) := do
  let absolute ← py.join url (link.attributeText "href")
  match py.validateUpstreamUrl absolute with
  | .error (.app _) => throw (failed url "The item page returned an unsafe bitstream link.")
  | .error .valueError => throw .valueError
  | .ok _ =>
    let parts ← py.split absolute
    if Text.startsWith parts.path ("/bitstream/" ++ handle ++ "/") then return (absolute, parts.path)
    else throw (failed url "The item page returned a bitstream bound to another handle.")

/-- The loop of `_parse_bitstreams`. -/
def bitstreamsOf (handle url : String) : List Tag → List Bitstream → Except ItemRaised (List Bitstream)
  | [], result => .ok result
  | link :: links, result => do
    let (absolute, path) ← itemRaising (py.bitstreamUrl link handle url)
    if absolute ∈ result.map Bitstream.sourceUrl then bitstreamsOf handle url links result
    else if maxBitstreams ≤ result.length then
      throw (.raised (failed url "The item response exceeded the bitstream limit."))
    else
      let found ← py.bitstream link handle absolute path
      bitstreamsOf handle url links (result ++ [found])

/-- `_parse_bitstreams`. -/
def parseBitstreams (links : List Tag) (handle url : String) (restricted : Bool) :
    Except ItemRaised (List Bitstream) :=
  if restricted then .ok [] else py.bitstreamsOf handle url links []

/-! ## Records -/

/-- Whether a container has a marker of restricted access. -/
def isRestricted (container : Tag) : Bool :=
  restrictedMarkers.any fun marker =>
    Text.contains marker.toList (py.lower (py.tagText container)).toList

/-- The title that is used where no field has one. -/
def fallbackTitle (soup : Tag) (handle : String) : String :=
  match (soup.findAll (·.isNamed "title")).head? with
  | some title => Text.strip (removeStart (py.tagText title) "Iverieli:")
  | none => handle

/-- The name of a layout. -/
def variantName : SearchVariant → String
  | .xmlui => "xmlui"
  | .jspui => "jspui"

/-- What `parse_item_page` does once it has the container of the item. -/
def readItem (document : HtmlDocument) (found : ItemContainer) (expected url : String) :
    Except ItemRaised DocumentRecord := do
  let container := found.container
  let actual ← itemRaising (py.pageHandle found)
  if actual ≠ some expected then
    throw (.raised (failed url "The item response did not match the requested handle."))
  let restricted := py.isRestricted container
  let links := bitstreamLinks container
  if restricted ∧ !links.isEmpty then
    throw (.raised (failed url "The item response contained ambiguous access markers."))
  let rows := metadataRows container
  let full := py.isFull document container
  let fields ← itemRaising (readFields (py.rowField full) rows [])
  if fields.isEmpty then
    throw (.raised (failed url "The item response did not contain recognizable metadata."))
  let collections ← itemRaising (py.collections container rows)
  let bitstreams ← py.parseBitstreams links expected url restricted
  return py.recordFromFields expected fields {
    collections, bitstreams, restricted
    restrictionReason := if restricted then
      some "Access is limited to the library's internal network or building." else none
    metadataSource := variantName found.variant ++ "_" ++ (if full then "full" else "summary")
    fallbackTitle := some (py.fallbackTitle (documentTag document.tree) expected) }

/-- The checks of the text and of its tree. -/
def checkDocument (document : HtmlDocument) (url : String) : Except AppError Unit := do
  let preflight ← document.preflight
  let constructed ← validateHtmlTree document.tree url
  let _ ← requirePreflightAgreement preflight constructed false (some url)

/-- `parse_item_page`. -/
def parseItemPage (document : HtmlDocument) (expectedHandle url : String) :
    Except ItemRaised DocumentRecord := do
  let expected ← itemRaising (py.parseHandleInput expectedHandle)
  itemRaising (raising (checkDocument document url))
  let found ← itemRaising (py.itemContainer (documentTag document.tree) url)
  py.readItem document found expected url

end ItemPlatform

end NplgMcp
