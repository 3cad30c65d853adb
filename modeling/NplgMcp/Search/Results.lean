import NplgMcp.Search.Layout

/-!
# Pages of search results

`parse_search_results` and `parse_search_version` of `parsers.py`. A page of the JSPUI layout shows
the range of the results it has; the parser compares it with the offset of the page's URL.
-/

open Library

namespace NplgMcp

/-- `SearchPage`. -/
structure SearchPage where
  items : List SearchItem
  total : ℕ
  nextOffset : Option ℕ
  sourceUrl : String
  nextCursor : Option String := none
  deriving DecidableEq, Repr

/-- `MAX_CURSOR_OFFSET`. -/
def maxCursorOffset : ℕ := 10000000

/-- `MAX_SAFE_INTEGER`. -/
def maxSafeInteger : ℕ := 9007199254740991

/-- `_MAX_SEARCH_ITEMS`. -/
def maxSearchItems : ℕ := 50

/-- What `BeautifulSoup` and its parser do with pages: which attributes are lists of words, and which
elements are implied. -/
structure HtmlLibrary where
  lists : String → String → Bool
  implied : HtmlPage → List String

/-- What raises an application error, among other raisers. -/
def raising {α : Type} : Except AppError α → Except Raised α
  | .error error => .error (.app error)
  | .ok value => .ok value

/-! ## Integers -/

/-- The characters of `[\d,]`. -/
def Platform.isNumeral (py : Platform) (c : Char) : Bool := py.isDecimal c || c == ','

/-- `[1-9][0-9]{0,2}(?:,[0-9]{3})+`, for what is between the commas. -/
def isGrouped : List (List Char) → Bool
  | (first :: digits) :: group :: groups =>
    '1' ≤ first && first ≤ '9' && digits.length ≤ 2 && digits.all Char.isDigit &&
      (group :: groups).all fun group => group.length == 3 && group.all Char.isDigit
  | _ => false

/-- `_SEARCH_INTEGER_RE`. -/
def isSearchInteger (s : List Char) : Bool :=
  (!s.isEmpty && s.all Char.isDigit) || isGrouped (s.splitOn ',')

/-- The value of decimal digits with commas. -/
def integerValue (raw : String) : ℕ := Nat.ofDigitChars 10 (raw.toList.filter (· ≠ ',')) 0

/-- `_bounded_search_integer`. -/
def boundedSearchInteger (raw : String) (maximum : ℕ) (context url : String) : Except Raised ℕ :=
  let refused := failed url ("The repository returned an invalid " ++ context ++ ".")
  if !isSearchInteger raw.toList then .error refused
  else if (raw.toList.filter (· ≠ ',')).length > (toString maximum).length then .error refused
  else if integerValue raw > maximum then .error refused
  else .ok (integerValue raw)

/-! ## Range and total -/

/-- `\s`. -/
def someSpaces : Piece := .run 1 Text.isSpace

/-- `\s*`. -/
def anySpaces : Piece := .run 0 Text.isSpace

/-- `[-\u2013]`. -/
def dash : Piece := .one fun c => c == '-' || c == '–'

namespace WebPlatform

variable (py : WebPlatform)

/-- `_TOTAL_RE`. -/
def totalPattern : List Piece :=
  [.boundary, .one (fun c => c == 'o' || c == 'O'), .one (fun c => c == 'f' || c == 'F'), someSpaces,
    .capture py.isNumeral, .boundary]

/-- `_JSPUI_RANGE_RE`. -/
def jspuiRangePattern : List Piece :=
  .boundary :: Piece.literal "შედეგის" ++ someSpaces :: Piece.literal "ჩვენება" ++
    [someSpaces, .capture py.isNumeral, anySpaces, dash, anySpaces] ++ Piece.literal "დან" ++
    [someSpaces, .capture py.isNumeral, anySpaces, dash, anySpaces] ++ Piece.literal "მდე" ++
    someSpaces :: Piece.literal "სულ" ++
    [anySpaces, dash, anySpaces, .capture py.isNumeral, .notBefore py.isNumeral]

/-- `_JSPUI_ENGLISH_RANGE_RE` up to the seconds. -/
def englishRangeStart : List Piece :=
  .boundary :: Piece.literal "Results" ++
    [someSpaces, .capture py.isNumeral, anySpaces, dash, anySpaces, .capture py.isNumeral,
      someSpaces] ++ Piece.literal "of" ++
    [someSpaces, .capture py.isNumeral, .notBefore py.isNumeral, someSpaces] ++
    Piece.literal "(Search time:" ++ [someSpaces, .run 1 Char.isDigit]

/-- The end of `_JSPUI_ENGLISH_RANGE_RE`. -/
def englishRangeEnd : List Piece := someSpaces :: Piece.literal "seconds)."

/-- `_JSPUI_ENGLISH_RANGE_RE`: the fraction of the seconds may be missing. -/
def englishRangePattern : List (List Piece) :=
  [py.englishRangeStart ++ .one (· == '.') :: .run 1 Char.isDigit :: englishRangeEnd,
    py.englishRangeStart ++ englishRangeEnd]

/-- The ranges that a text shows: what the two patterns capture. -/
def rangeMatches (text : String) : List (List String) :=
  Piece.findAll py.isWord [py.jspuiRangePattern] 0 none text.toList ++
    Piece.findAll py.isWord py.englishRangePattern 0 none text.toList

/-- The one range of a JSPUI page: its first and last number, and the total. -/
def rangeMarker (container : Tag) : Option (String × String × String) :=
  match py.rangeMatches (py.tagText container) with
  | [[first, last, total]] => some (first, last, total)
  | _ => none

/-- The total as a page shows it, if it does, once its range has been compared with the offset. -/
def shownTotal (container : Tag) (itemCount currentOffset : ℕ) (url : String)
    (variant : SearchVariant) : Except Raised (Option String) :=
  match variant with
  | .xmlui =>
    match Piece.findAll py.isWord [py.totalPattern] 0 none (py.tagText container).toList with
    | [total] :: _ => .ok (some total)
    | _ => .ok none
  | .jspui =>
    match py.rangeMarker container with
    | none =>
      .error (failed url "The repository search response had an invalid range marker cardinality.")
    | some (first, last, total) => do
      let displayedFirst ← boundedSearchInteger first maxSafeInteger "search range" url
      let displayedEnd ← boundedSearchInteger last maxSafeInteger "search range" url
      if displayedFirst ≠ currentOffset + 1 ∨ displayedEnd < displayedFirst ∨
          itemCount ≠ displayedEnd - displayedFirst + 1 then
        throw (failed url "The repository returned an invalid search range.")
      return some total

/-- `_search_total`. -/
def searchTotal (container : Tag) (itemCount currentOffset : ℕ) (url : String)
    (variant : SearchVariant) : Except Raised ℕ := do
  let minimumTotal := currentOffset + itemCount
  match ← py.shownTotal container itemCount currentOffset url variant with
  | none => return minimumTotal
  | some rawTotal =>
    let total ← boundedSearchInteger rawTotal maxSafeInteger "search total" url
    if total < max itemCount minimumTotal then
      throw (failed url "The repository returned an invalid search total.")
    return total

/-! ## Offsets -/

/-- What is raised for a bad offset. -/
def offsetFailure (url : String) : Raised :=
  failed url "The repository returned an invalid pagination offset."

/-- `_current_search_offset`. -/
def currentSearchOffset (url : String) : Except Raised ℕ := do
  match ← py.queryValues url "start" with
  | [] => return 0
  | [offset] => boundedSearchInteger offset maxCursorOffset "pagination offset" url
  | _ => throw (offsetFailure url)

/-- The offset of the link to the next page. -/
def linkedOffset (link : Tag) (url : String) (currentOffset : ℕ) (maximumTotal : Option ℕ) :
    Except Raised ℕ := do
  let absolute ← py.join url (link.attributeText "href")
  match py.validateUpstreamUrl absolute with
  | .error (.app _) => throw (failed url "The repository returned an unsafe pagination link.")
  | .error .valueError => throw .valueError
  | .ok _ =>
    match ← py.queryValues absolute "start" with
    | [offset] =>
      let parsed ← boundedSearchInteger offset maxCursorOffset "pagination offset" url
      if parsed ≤ currentOffset ∨ maximumTotal.any (· ≤ parsed) then throw (offsetFailure url)
      return parsed
    | _ => throw (offsetFailure url)

/-- `_next_search_offset`. -/
def nextSearchOffset (container : Tag) (url : String) (currentOffset : ℕ)
    (maximumTotal : Option ℕ) : Except Raised (Option ℕ) :=
  match (links container).filter py.isNextLink with
  | [] => .ok none
  | [link] => (py.linkedOffset link url currentOffset maximumTotal).map some
  | _ =>
    .error (failed url "The repository search response had invalid pagination link cardinality.")

/-! ## Pages -/

/-- The tree of a page that has passed the preflight. -/
def checkedSoup (lib : HtmlLibrary) (page : HtmlPage) (url : String) (expired : ℕ → Bool) :
    Except Raised Tag := do
  let preflight ← raising (preflightHtml page url expired)
  let soup := page.soup lib.lists (lib.implied page)
  let constructed ← raising (validateHtmlTree soup url)
  let _ ← raising (requirePreflightAgreement preflight constructed false (some url))
  return documentTag soup

/-- What `parse_search_results` reads of the contract. -/
def readContract (contract : SearchContract) (url : String) (pageSize currentOffset : ℕ) :
    Except Raised SearchPage := do
  let columns ← py.searchColumns contract.table url contract.variant
  let items ← py.searchItems contract.table columns url pageSize contract.variant
  let total ← py.searchTotal contract.container items.length currentOffset url contract.variant
  let nextOffset ← py.nextSearchOffset contract.container url currentOffset
    (if contract.variant = .jspui then some total else none)
  let expectedNext := currentOffset + items.length
  if contract.variant = .jspui ∧ ((expectedNext < total ∧ nextOffset ≠ some expectedNext) ∨
      (expectedNext ≥ total ∧ nextOffset ≠ none)) then
    throw (offsetFailure url)
  return { items, total, nextOffset, sourceUrl := url }

/-- `parse_search_results`. -/
def parseSearchResults (lib : HtmlLibrary) (page : HtmlPage) (url : String) (pageSize : ℕ)
    (expired : ℕ → Bool) : Except Raised SearchPage := do
  if ¬ (1 ≤ pageSize ∧ pageSize ≤ maxSearchItems) then
    throw (.app (invalid "page_size must be between 1 and 50."))
  let soup ← checkedSoup lib page url expired
  let currentOffset ← py.currentSearchOffset url
  match ← py.searchContract soup url pageSize currentOffset with
  | none => return { items := [], total := 0, nextOffset := none, sourceUrl := url }
  | some contract => py.readContract contract url pageSize currentOffset

/-- What is raised for a bad marker of the search version. -/
def versionFailure (url : String) : Raised :=
  failed url "The repository returned an invalid search-version marker."

/-- `_SEARCH_VERSION_RE`. -/
def isSearchVersion (s : List Char) : Bool :=
  s.take 2 == ['e', 'x'] && (s.drop 2).length == 8 && (s.drop 2).all Char.isDigit

/-- `parse_search_version`. -/
def parseSearchVersion (lib : HtmlLibrary) (page : HtmlPage) (url : String) (expired : ℕ → Bool) :
    Except Raised String := do
  let soup ← checkedSoup lib page url expired
  match soup.findAll (·.isNamed "head") with
  | [head] =>
    match (head.findChildren (·.isNamed "meta")).filter fun tag =>
        tag.attributeText "name" == "sourcefv" with
    | [marker] =>
      let version := marker.attributeText "content"
      if isSearchVersion version.toList then return version else throw (versionFailure url)
    | _ => throw (versionFailure url)
  | _ => throw (versionFailure url)

end WebPlatform

/-! ## What is read of a JSPUI page -/

/-- A computation that succeeds has succeeded so far. -/
theorem ok_of_bind {ε α β : Type} {x : Except ε α} {f : α → Except ε β} {b : β}
    (h : (x >>= f) = .ok b) : ∃ a, x = .ok a ∧ f a = .ok b := by
  cases x with
  | error raised => cases h
  | ok a => exact ⟨a, rfl, h⟩

theorem ok_of_map {ε α β : Type} {x : Except ε α} {f : α → β} {b : β} (h : x.map f = .ok b) :
    ∃ a, x = .ok a ∧ f a = b := by
  cases x with
  | error raised => cases h
  | ok a => exact ⟨a, rfl, Except.ok.inj h⟩

/-- An integer that is read is within its bound. -/
theorem boundedSearchInteger_ok {raw context url : String} {maximum value : ℕ}
    (h : boundedSearchInteger raw maximum context url = .ok value) :
    value = integerValue raw ∧ value ≤ maximum := by
  unfold boundedSearchInteger at h
  grind

/-- An integer that is written is read. -/
theorem boundedSearchInteger_toString {context url : String} {maximum value : ℕ}
    (h : value ≤ maximum) :
    boundedSearchInteger (toString value) maximum context url = .ok value := by
  have hlist : (toString value).toList = Nat.toDigits 10 value := Nat.toList_repr
  have hdigits : ∀ c ∈ Nat.toDigits 10 value, c.isDigit = true := fun c hc =>
    Nat.isDigit_of_mem_toDigits (by decide) (by decide) hc
  have hfilter : (Nat.toDigits 10 value).filter (· ≠ ',') = Nat.toDigits 10 value := by
    refine List.filter_eq_self.2 fun c hc => ?_
    have hc := hdigits c hc
    simp only [ne_eq, decide_eq_true_eq]
    rintro rfl
    exact absurd hc (by decide)
  have hinteger : isSearchInteger (Nat.toDigits 10 value) = true := by
    simp only [isSearchInteger, Bool.or_eq_true, Bool.and_eq_true, List.all_eq_true]
    exact .inl ⟨by simp [Nat.toDigits_ne_nil], hdigits⟩
  have hlength : (Nat.toDigits 10 value).length ≤ (toString maximum).length := by
    have hmaximum : (toString maximum).length = (Nat.toDigits 10 maximum).length := by
      rw [← String.length_toList, show (toString maximum).toList = Nat.toDigits 10 maximum from
        Nat.toList_repr]
    rw [hmaximum, Nat.length_toDigits_le_iff (by decide) Nat.length_toDigits_pos]
    exact lt_of_le_of_lt h ((Nat.length_toDigits_le_iff (by decide) Nat.length_toDigits_pos).1 le_rfl)
  have hvalue : integerValue (toString value) = value := by
    rw [integerValue, hlist, hfilter]
    exact Nat.ofDigitChars_ten_toDigits
  unfold boundedSearchInteger
  simp only [hlist, hfilter, hvalue, hinteger]
  rw [if_neg (by decide), if_neg (Nat.not_lt.2 hlength), if_neg (Nat.not_lt.2 h)]

namespace WebPlatform

variable {py : WebPlatform} {url : String} {offset pageSize : ℕ}

theorem currentSearchOffset_le (h : py.currentSearchOffset url = .ok offset) :
    offset ≤ maxCursorOffset := by
  obtain ⟨values, -, h⟩ := ok_of_bind h
  match values, h with
  | [], h =>
    obtain rfl := Except.ok.inj h
    exact Nat.zero_le _
  | [value], h => exact (boundedSearchInteger_ok h).2

/-- The next offset is beyond the one of the page, and in the range of cursors. -/
theorem linkedOffset_ok {link : Tag} {maximumTotal : Option ℕ} {next : ℕ}
    (h : py.linkedOffset link url offset maximumTotal = .ok next) :
    offset < next ∧ next ≤ maxCursorOffset := by
  obtain ⟨absolute, -, h⟩ := ok_of_bind h
  cases hvalid : py.validateUpstreamUrl absolute with
  | error raised => cases raised <;> simp [hvalid, throw, throwThe, MonadExceptOf.throw] at h
  | ok target =>
      rw [hvalid] at h
      obtain ⟨values, -, h⟩ := ok_of_bind h
      match values, h with
      | [value], h =>
        obtain ⟨parsed, hparsed, h⟩ := ok_of_bind h
        have hle := (boundedSearchInteger_ok hparsed).2
        simp only [bind, Except.bind, pure, Except.pure, throw, throwThe, MonadExceptOf.throw] at h
        split at h
        · cases h
        · obtain rfl := Except.ok.inj h
          omega

theorem nextSearchOffset_ok {container : Tag} {maximumTotal : Option ℕ} {next : ℕ}
    (h : py.nextSearchOffset container url offset maximumTotal = .ok (some next)) :
    offset < next ∧ next ≤ maxCursorOffset := by
  unfold nextSearchOffset at h
  split at h
  · cases h
  · obtain ⟨linked, hlinked, hsome⟩ := ok_of_map h
    obtain rfl := Option.some.inj hsome
    exact linkedOffset_ok hlinked
  · cases h

/-- The range of a JSPUI page begins behind the offset of its URL. -/
theorem shownTotal_jspui {container : Tag} {itemCount : ℕ} {total : Option String}
    (h : py.shownTotal container itemCount offset url .jspui = .ok total) :
    ∃ first last shown, py.rangeMarker container = some (first, last, shown) ∧
      integerValue first = offset + 1 := by
  unfold shownTotal at h
  cases hmarker : py.rangeMarker container with
  | none => simp [hmarker] at h
  | some marker =>
      obtain ⟨first, last, shown⟩ := marker
      rw [hmarker] at h
      obtain ⟨displayedFirst, hfirst, h⟩ := ok_of_bind h
      obtain ⟨displayedEnd, -, h⟩ := ok_of_bind h
      have hvalue := (boundedSearchInteger_ok hfirst).1
      refine ⟨first, last, shown, rfl, ?_⟩
      simp only [bind, Except.bind, pure, Except.pure, throw, throwThe, MonadExceptOf.throw] at h
      split at h
      · cases h
      · omega

/-- What is read of a JSPUI page: its range begins at the offset, and what is next follows it. -/
theorem readContract_jspui {contract : SearchContract} {page : SearchPage}
    (h : py.readContract contract url pageSize offset = .ok page)
    (hvariant : contract.variant = .jspui) :
    (∃ first last shown, py.rangeMarker contract.container = some (first, last, shown) ∧
      integerValue first = offset + 1) ∧
    ∀ next, page.nextOffset = some next →
      next = offset + page.items.length ∧ offset < next ∧ next ≤ maxCursorOffset := by
  obtain ⟨columns, -, h⟩ := ok_of_bind h
  obtain ⟨items, -, h⟩ := ok_of_bind h
  obtain ⟨total, htotal, h⟩ := ok_of_bind h
  obtain ⟨nextOffset, hnext, h⟩ := ok_of_bind h
  rw [hvariant] at htotal
  obtain ⟨shown, hshown, -⟩ := ok_of_bind htotal
  refine ⟨shownTotal_jspui hshown, fun next hpage => ?_⟩
  simp only [bind, Except.bind, pure, Except.pure, throw, throwThe, MonadExceptOf.throw] at h
  split at h
  · cases h
  · case isFalse hexpected =>
      obtain rfl := Except.ok.inj h
      obtain rfl : nextOffset = some next := hpage
      obtain ⟨hlow, hhigh⟩ := nextSearchOffset_ok hnext
      refine ⟨?_, hlow, hhigh⟩
      simp only [hvariant, true_and, not_or, not_and, ne_eq, Option.some.injEq, reduceCtorEq,
        not_false_eq_true] at hexpected
      by_cases hbefore : offset + items.length < total
      · exact not_not.1 (hexpected.1 hbefore)
      · exact absurd trivial (hexpected.2 (Nat.not_lt.1 hbefore))

end WebPlatform

end NplgMcp
