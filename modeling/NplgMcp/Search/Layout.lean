import NplgMcp.Library.Pattern
import NplgMcp.Markup.Soup
import NplgMcp.Search.Urls

/-!
# The layout of a page of search results

`_search_contract` of `parsers.py` finds the table of results and the element with the range and the
link to the next page; `_search_columns` and `_search_items` read the table.
-/

open Library

namespace NplgMcp

/-- `SearchItem`. -/
structure SearchItem where
  handle : String
  canonicalUrl : String
  title : String
  issueDate : Option String := none
  authors : List String := []
  deriving DecidableEq, Repr

/-- The layouts that are read. -/
inductive SearchVariant where
  | xmlui
  | jspui
  deriving DecidableEq, Repr

/-- `_SearchContract`. -/
structure SearchContract where
  container : Tag
  table : Tag
  variant : SearchVariant

/-- The columns that are read. -/
inductive ColumnKind where
  | title
  | date
  | author
  deriving DecidableEq, Repr

/-- `_SearchColumns`. -/
structure SearchColumns where
  title : ℕ
  date : Option ℕ
  author : Option ℕ
  cellCount : ℕ
  headerIds : List String := []
  deriving DecidableEq, Repr

/-- `_upstream_failure`, as it is raised. -/
def failed (url message : String) : Raised := .app (upstreamFailure message (some url))

/-- `_JSPUI_SEARCH_TABLE_SUMMARY`. -/
def jspuiSearchTableSummary : String := "This table browses all dspace content"

/-- `_JSPUI_EMPTY_SEARCH_MESSAGE`. -/
def jspuiEmptySearchMessage : String := "Search produced no results."

/-- The `id` of the results of the XMLUI layout. -/
def xmluiResultsId : String := "aspect_discovery_SimpleSearch_div_search-results"

/-- `_SEARCH_LAYOUT_FAILURE_MESSAGE`, as it is raised. -/
def layoutFailure (url : String) : Raised :=
  failed url "NPLG search is temporarily unavailable. Please try again later."

/-- The containers of the XMLUI layout. -/
def xmluiContainers (soup : Tag) : List Tag := soup.findAll fun tag => tag.hasValue "id" xmluiResultsId

/-- The divisions with the results of the JSPUI layout. -/
def jspuiResults (soup : Tag) : List Tag :=
  soup.findAll fun tag => tag.isNamed "div" && tag.hasClass (· == "discovery-result-results")

/-- The divisions with the range and the links of the JSPUI layout. -/
def jspuiPagination (soup : Tag) : List Tag :=
  soup.findAll fun tag => tag.isNamed "div" && tag.hasClass (· == "discovery-result-pagination")

/-- A table of results of the JSPUI layout. -/
def isJspuiTable (tag : Tag) : Bool :=
  tag.isNamed "table" && tag.hasValue "summary" jspuiSearchTableSummary

/-- `_has_jspui_results_panel_class`, as a test for strings. -/
def hasJspuiResultsPanelClass (value : String) : Bool :=
  classTextContains value "panel" && classTextContains value "panel-info"

namespace WebPlatform

variable (py : WebPlatform)

/-- A link to the next page: it has the class, or the text. -/
def isNextLink (link : Tag) : Bool :=
  classContains (link.get "class") "next-page-link" ||
    ["next", "next page", ">", "მომდევნო"].contains (py.lower (py.tagText link))

/-- The links with an address. -/
def links (tag : Tag) : List Tag := tag.findAll fun tag => tag.isNamed "a" && (tag.get "href").isSome

/-- `parse_qs(urlsplit(url).query, keep_blank_values=True).get(name, [])`. -/
def queryValues (url name : String) : Except Raised (List String) := do
  let parts ← py.split url
  return ((py.parseQs parts.query).lookup name).getD []

/-- What `_is_jspui_empty_search_page` asks of the elements around the message. -/
def isEmptySearchColumn (soup column : Tag) : Bool :=
  column.isNamed "div" && classContains (column.get "class") "col-md-9" &&
  column.parent.any fun row =>
    row.isNamed "div" && classContains (row.get "class") "row" &&
    row.parent.any fun container =>
      container.isNamed "div" && classContains (container.get "class") "container" &&
      container.parent.any fun main =>
        main.isNamed "main" && main.attributeText "id" == "content" &&
        main.attributeText "role" == "main" &&
        ((soup.findAll fun tag => tag.isNamed "main" && tag.hasValue "id" "content" &&
          tag.hasValue "role" "main").take 2).map Tag.path == [main.path]

/-- The one form in the column, where heading and panel are as they should be. -/
def emptySearchForm (column : Tag) : Option Tag :=
  let panels := column.findChildren fun tag =>
    tag.isNamed "div" && tag.hasClass (· == "discovery-search-form")
  match column.findChildren (·.isNamed "h2"), panels with
  | [heading], [panel] =>
    if py.tagText heading ≠ "Search" ∨ ¬ classContains (panel.get "class") "panel" ∨
        ¬ classContains (panel.get "class") "panel-default" ∨ column.findAll (·.isNamed "table") ≠ [] ∨
        (links column).any py.isNextLink then none
    else
      match panel.findChildren fun tag =>
          tag.isNamed "div" && tag.hasClass (· == "discovery-query") with
      | [header] =>
        if classContains (header.get "class") "panel-heading" then
          match header.findChildren (·.isNamed "form") with
          | [form] =>
            if form.attributeText "method" = "get" ∧ form.attributeText "action" = "simple-search" then
              some form
            else none
          | _ => none
        else none
      | _ => none
  | _, _ => none

/-- There is one input of this name, of this type and with this value. -/
def hasInput (form : Tag) (name type value : String) : Bool :=
  match (form.findChildren (·.isNamed "input")).filter fun tag => tag.attributeText "name" == name with
  | [input] => input.attributeText "type" == type && input.attributeText "value" == value
  | _ => false

/-- `_is_jspui_empty_search_page`. -/
def isJspuiEmptySearchPage (soup : Tag) (url : String) (pageSize currentOffset : ℕ) :
    Except Raised Bool := do
  let messages := (soup.findAll (·.isNamed "p")).filter fun tag =>
    py.tagText tag == jspuiEmptySearchMessage
  match messages with
  | [message] =>
    if currentOffset ≠ 0 then return false
    match message.parent with
    | none => return false
    | some column =>
      if !isEmptySearchColumn soup column then return false
      match py.emptySearchForm column with
      | none => return false
      | some form =>
        let expectedQuery ← py.queryValues url "query"
        let expectedPageSize ← py.queryValues url "rpp"
        match expectedQuery, expectedPageSize with
        | [query], [size] =>
          return size == toString pageSize && hasInput form "query" "text" query &&
            hasInput form "rpp" "hidden" size && hasInput form "sort_by" "hidden" "score" &&
            hasInput form "order" "hidden" "desc"
        | _, _ => return false
  | _ => return false

/-- The table of a JSPUI page: in its division, or in the one panel there. -/
def jspuiTable (results : Tag) : Option Tag :=
  match results.findChildren isJspuiTable with
  | table :: _ => some table
  | [] =>
    match results.findChildren fun tag => tag.isNamed "div" && tag.hasClass hasJspuiResultsPanelClass with
    | [panel] => (panel.findChildren isJspuiTable).head?
    | _ => none

/-- `_search_contract`; `none` is an empty page of the JSPUI layout. -/
def searchContract (soup : Tag) (url : String) (pageSize currentOffset : ℕ) :
    Except Raised (Option SearchContract) := do
  let results := jspuiResults soup
  let pagination := jspuiPagination soup
  let tables := soup.findAll isJspuiTable
  let hasJspuiMarkers := results ≠ [] ∨ pagination ≠ [] ∨ tables ≠ []
  match xmluiContainers soup with
  | container :: others =>
    if hasJspuiMarkers then throw (layoutFailure url)
    if others ≠ [] then throw (layoutFailure url)
    match container.findAll fun tag =>
        tag.isNamed "table" && tag.hasClass (classTextContains · "search-results") with
    | [] =>
      throw (failed url "The repository search response did not contain a results table.")
    | table :: _ => return some ⟨container, table, .xmlui⟩
  | [] =>
    if ¬ hasJspuiMarkers then
      if ← py.isJspuiEmptySearchPage soup url pageSize currentOffset then return none
    match results, pagination, tables with
    | [results], [pagination], [table] =>
      if (jspuiTable results).any (·.same table) ∧
          results.parent.map Tag.path = pagination.parent.map Tag.path then
        return some ⟨pagination, table, .jspui⟩
      else throw (layoutFailure url)
    | _, _, _ => throw (layoutFailure url)

/-! ## Columns -/

/-- The word for a kind of column. -/
def kindText : ColumnKind → String
  | .title => "title"
  | .date => "date"
  | .author => "author"

/-- `_is_recognized_search_column`. -/
def isRecognizedSearchColumn (text : String) (kind : ColumnKind) (variant : SearchVariant) : Bool :=
  match variant, kind with
  | _, .title => ["title", "სათაური"].contains text
  | .jspui, .date => ["issue date", "გამოცემის თარიღი"].contains text
  | .jspui, .author => ["author(s)", "ავტორი / ავტორები"].contains text
  | .xmlui, .date => Text.contains "date".toList text.toList || Text.contains "თარიღ".toList text.toList
  | .xmlui, .author =>
    Text.contains "author".toList text.toList || Text.contains "ავტორ".toList text.toList

/-- `_search_column_index`. -/
def searchColumnIndex (headerCells : List String) (url : String) (kind : ColumnKind)
    (variant : SearchVariant) (required : Bool) : Except Raised (Option ℕ) :=
  let found := (List.range headerCells.length).filter fun index =>
    isRecognizedSearchColumn (headerCells.getD index "") kind variant
  if found.length > 1 ∨ (required ∧ found.length ≠ 1) then
    .error (failed url
      ("The repository search table had invalid " ++ kindText kind ++ " column cardinality."))
  else .ok found.head?

/-- The cells of the header, and their names in the JSPUI layout. -/
def headerTags (table : Tag) (url : String) (variant : SearchVariant) :
    Except Raised (List Tag × List String) :=
  match variant with
  | .xmlui => .ok (table.select "thead" "th", [])
  | .jspui =>
    let headers := match table.findChildren (·.isNamed "tr") with
      | [] => []
      | row :: _ => row.findChildren (·.isNamed "th")
    match headers.mapM fun cell => cell.singleToken "id" with
    | none => .error (failed url "The repository search table had invalid header bindings.")
    | some ids =>
      if ids.Nodup then .ok (headers, ids)
      else .error (failed url "The repository search table had invalid header bindings.")

/-- `_search_columns`. -/
def searchColumns (table : Tag) (url : String) (variant : SearchVariant) :
    Except Raised SearchColumns := do
  let (headers, headerIds) ← headerTags table url variant
  let headerCells := headers.map fun cell => py.lower (py.tagText cell)
  match ← searchColumnIndex headerCells url .title variant true with
  | none => throw (failed url "The repository search table did not contain a title column.")
  | some title =>
    let date ← searchColumnIndex headerCells url .date variant (variant == .jspui)
    let author ← searchColumnIndex headerCells url .author variant (variant == .jspui)
    return { title, date, author, cellCount := headerCells.length, headerIds }

/-! ## Rows -/

/-- `_search_row_cells_and_link`; a row of the XMLUI layout without cells or a link is passed over. -/
def searchRowCellsAndLink (row : Tag) (columns : SearchColumns) (url : String)
    (variant : SearchVariant) : Except Raised (Option (List Tag × Tag)) :=
  let cells := row.findChildren (·.isNamed "td")
  let malformed : Except Raised (Option (List Tag × Tag)) :=
    if variant = .jspui then .error (failed url "The repository returned a malformed search row.")
    else .ok none
  match cells[columns.title]? with
  | none => malformed
  | some titleCell =>
    if variant = .jspui ∧ cells.length ≠ columns.cellCount then malformed
    else if variant = .jspui ∧
        cells.map (fun cell => cell.singleToken "headers") ≠ columns.headerIds.map some then malformed
    else
      match links titleCell with
      | [] => malformed
      | [link] => .ok (some (cells, link))
      | _ =>
        .error (failed url "The repository search row had invalid item link cardinality.")

/-- The text of the cell in a column, if there are both. -/
def columnText (cells : List Tag) (column : Option ℕ) : Option String :=
  column.bind fun index => (cells[index]?).map fun cell => py.tagText cell

/-- What the loop of `_search_items` makes of a row's cells and link, after the items before it. -/
def searchItem (cells : List Tag) (link : Tag) (columns : SearchColumns) (url : String)
    (variant : SearchVariant) (seen : List String) : Except Raised SearchItem := do
  let (handle, canonicalUrl) ←
    match py.canonicalItemFromHref (link.attributeText "href") url with
    | .error (.app _) =>
      throw (failed url "The repository returned an unsafe or malformed item link.")
    | .error .valueError => throw .valueError
    | .ok found => pure found
  if variant = .jspui ∧ handle ∈ seen then
    throw (failed url "The repository returned a duplicate search item.")
  let title := py.tagText link
  if title = "" then
    throw (failed url "The repository returned a search item without a title.")
  let issueDate := py.normalizeDate (py.columnText cells columns.date)
  let authorsText := (py.columnText cells columns.author).getD ""
  let pieces := (authorsText.toList.splitOn ';').map String.ofList
  let authors := py.unique (pieces.filter fun piece => Text.strip piece ≠ "")
  return { handle, canonicalUrl, title, issueDate, authors }

/-- The loop of `_search_items`. -/
def searchItemsOf (columns : SearchColumns) (url : String) (variant : SearchVariant) :
    List Tag → List SearchItem → Except Raised (List SearchItem)
  | [], items => .ok items
  | row :: rows, items => do
    match ← searchRowCellsAndLink row columns url variant with
    | none => searchItemsOf columns url variant rows items
    | some (cells, link) =>
      let item ← py.searchItem cells link columns url variant (items.map SearchItem.handle)
      searchItemsOf columns url variant rows (items ++ [item])

/-- `_search_items`. -/
def searchItems (table : Tag) (columns : SearchColumns) (url : String) (maximumItems : ℕ)
    (variant : SearchVariant) : Except Raised (List SearchItem) :=
  let rows := match variant with
    | .xmlui => table.select "tbody" "tr"
    | .jspui => (table.findChildren (·.isNamed "tr")).drop 1
  if rows.length > maximumItems then
    .error (failed url "The repository search response exceeded the search item limit.")
  else py.searchItemsOf columns url variant rows []

end WebPlatform

end NplgMcp
