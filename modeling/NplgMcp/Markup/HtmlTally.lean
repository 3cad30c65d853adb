import NplgMcp.Markup.Html

/-!
# Sums over an HTML tree

The counters of a page within the limits are sums over its nodes (`HtmlNode.tally`) and lengths of
its text (`HtmlNode.fullText`). The two counts of a page differ in how they tell that a row is in the
body of a table, and in the white space of the attributes that the tree holds as lists of words.
-/

open Library

namespace NplgMcp

/-! ## Text -/

namespace CanonicalTextCounter

variable {counter : CanonicalTextCounter} {s t : List Char}

/-- The counter after a text, as long as it is below the limit. -/
def read (counter : CanonicalTextCounter) (s : List Char) : CanonicalTextCounter where
  codePoints := counter.codePoints + s.length
  semanticCodePoints := counter.semanticCodePoints + (Text.collapse counter.inWhitespace s).length
  inWhitespace := Text.runAfter counter.inWhitespace s

theorem read_nil : counter.read [] = counter := rfl

theorem read_append : (counter.read s).read t = counter.read (s ++ t) := by
  simp only [read, Text.collapse_append, Text.runAfter_append, List.length_append, Nat.add_assoc]

/-- No counter counts more with white space collapsed than without. -/
def Sound (counter : CanonicalTextCounter) : Prop :=
  counter.semanticCodePoints ≤ counter.codePoints

theorem Sound.read (h : counter.Sound) : (counter.read s).Sound :=
  Nat.add_le_add h Text.length_collapse_le

theorem runAfter_eq {inRun : Bool} {c : Char} :
    Text.runAfter inRun (c :: s) = (c :: s).getLast?.any Text.isSpace := by
  induction s generalizing inRun c with
  | nil => rfl
  | cons d rest ih => rw [Text.runAfter, ih, List.getLast?_cons_cons]

theorem collapse_of_any {inRun : Bool} (h : s.any Text.isSpace = false) : Text.collapse inRun s = s :=
  Text.collapse_of_forall fun c hc => by simpa using List.any_eq_false.1 h c hc

/-- Below the limit a text is counted exactly. -/
theorem add_eq {value : Option String} (hsound : counter.Sound)
    (h : counter.codePoints + (value.getD "").length ≤ parserLimits.maxTotalTextCodePoints) :
    counter.add value = counter.read (value.getD "").toList := by
  cases value with
  | none => rfl
  | some value =>
      simp only [Option.getD_some] at h ⊢
      have hcount := saturatingIncrement_eq h
      have hlength : value.length = value.toList.length := String.length_toList.symm
      rw [hlength] at h hcount
      simp only [add, hlength]
      cases hvalue : value.toList with
      | nil =>
          rw [hvalue] at hcount
          simp only [hcount]
          rfl
      | cons first rest =>
          rw [hvalue] at h hcount
          have hplain : (if (first :: rest).any Text.isSpace = true then
              (Text.collapse false (first :: rest)).length else (first :: rest).length) =
              (Text.collapse false (first :: rest)).length := by
            cases hany : (first :: rest).any Text.isSpace with
            | true => rfl
            | false => rw [collapse_of_any hany]; rfl
          have hincrement : (if (counter.inWhitespace && Text.isSpace first) = true then
              (Text.collapse false (first :: rest)).length - 1
              else (Text.collapse false (first :: rest)).length) =
              (Text.collapse counter.inWhitespace (first :: rest)).length := by
            have hrun := @Text.length_collapse_true (first :: rest)
            cases hspace : Text.isSpace first with
            | true =>
                cases counter.inWhitespace <;> simp [Text.startsSpace, hspace] at hrun ⊢
                omega
            | false => cases counter.inWhitespace <;> simp [Text.collapse, hspace]
          have hle := @Text.length_collapse_le (first :: rest) counter.inWhitespace
          have hsemantic := saturatingIncrement_eq (Nat.le_trans (Nat.add_le_add hsound hle) h)
          simp only [hcount, hplain, hincrement, hsemantic, read, runAfter_eq]

end CanonicalTextCounter

/-- A text after another one, on several counters. -/
theorem foldl_add_eq {values : List String} {counter : CanonicalTextCounter}
    (hsound : counter.Sound)
    (h : counter.codePoints + (values.flatMap String.toList).length ≤
      parserLimits.maxTotalTextCodePoints) :
    values.foldl (fun counter data => counter.add (some data)) counter =
      counter.read (values.flatMap String.toList) := by
  induction values generalizing counter with
  | nil => rfl
  | cons value rest ih =>
      rw [List.flatMap_cons, List.length_append] at h
      have hvalue : counter.add (some value) = counter.read value.toList := by
        refine CanonicalTextCounter.add_eq hsound ?_
        rw [Option.getD_some, ← String.length_toList]
        omega
      have hrest := @ih (counter.read value.toList) hsound.read (by
        simp only [CanonicalTextCounter.read]
        omega)
      rw [List.foldl_cons, hvalue, hrest, CanonicalTextCounter.read_append, List.flatMap_cons]

namespace HtmlNode

variable {α : Type}

/-- The text of attributes: their names and values. -/
def attributesText (value : α → String) (attrs : List (String × α)) : List Char :=
  attrs.flatMap fun item => item.1.toList ++ (value item.2).toList

mutual

/-- All text of a node in document order, with the attributes. -/
def fullText (value : α → String) : HtmlNode α → List Char
  | .text data => data.toList
  | .element _ _ attrs contents => attributesText value attrs ++ fullTexts value contents

/-- All text of nodes. -/
def fullTexts (value : α → String) : List (HtmlNode α) → List Char
  | [] => []
  | node :: rest => node.fullText value ++ fullTexts value rest

end

/-- The text of a node without the attributes. -/
def dataText (node : HtmlNode α) : List Char := node.strings.flatMap String.toList

/-- The text of nodes without the attributes. -/
def dataTexts (nodes : List (HtmlNode α)) : List Char := (stringsOf nodes).flatMap String.toList

theorem dataTexts_cons {node : HtmlNode α} {rest : List (HtmlNode α)} :
    dataTexts (node :: rest) = node.dataText ++ dataTexts rest := by
  rw [dataTexts, stringsOf, List.flatMap_append]
  rfl

end HtmlNode

/-! ## Counters -/

/-- The counters that are sums, and the largest cell. -/
structure HtmlTally where
  elements : ℕ := 0
  attributes : ℕ := 0
  metadataFields : ℕ := 0
  records : ℕ := 0
  maxField : ℕ := 0
  semanticMaxField : ℕ := 0
  deriving DecidableEq, Repr

namespace HtmlTally

/-- The counters of two parts of a page. -/
instance instAddHtmlTally : Add HtmlTally where
  add a b :=
    { elements := a.elements + b.elements
      attributes := a.attributes + b.attributes
      metadataFields := a.metadataFields + b.metadataFields
      records := a.records + b.records
      maxField := max a.maxField b.maxField
      semanticMaxField := max a.semanticMaxField b.semanticMaxField }

variable {a b c : HtmlTally}

@[simp] theorem elements_add : (a + b).elements = a.elements + b.elements := rfl

@[simp] theorem attributes_add : (a + b).attributes = a.attributes + b.attributes := rfl

@[simp] theorem metadataFields_add :
    (a + b).metadataFields = a.metadataFields + b.metadataFields := rfl

@[simp] theorem records_add : (a + b).records = a.records + b.records := rfl

@[simp] theorem maxField_add : (a + b).maxField = max a.maxField b.maxField := rfl

@[simp] theorem semanticMaxField_add :
    (a + b).semanticMaxField = max a.semanticMaxField b.semanticMaxField := rfl

@[ext] theorem ext' (h1 : a.elements = b.elements) (h2 : a.attributes = b.attributes)
    (h3 : a.metadataFields = b.metadataFields) (h4 : a.records = b.records)
    (h5 : a.maxField = b.maxField) (h6 : a.semanticMaxField = b.semanticMaxField) : a = b := by
  cases a
  cases b
  simp_all

theorem add_assoc : a + b + c = a + (b + c) := by
  ext <;> simp [Nat.add_assoc, Nat.max_assoc]

theorem add_zero : a + {} = a := by
  ext <;> simp

theorem zero_add : ({} : HtmlTally) + a = a := by
  ext <;> simp

end HtmlTally

/-- What an element itself adds to the counters. -/
def elementTally (context : Option HtmlContext) (body : Bool) (tag : String) (attributes : ℕ)
    (cell : List Char) : HtmlTally where
  elements := 1
  attributes := attributes
  metadataFields := if tag == "tr" && context == some .metadata then 1 else 0
  records := if tag == "tr" && context == some .search && body then 1 else 0
  maxField := if tag == "td" then cell.length else 0
  semanticMaxField := if tag == "td" then (Text.collapse false cell).length else 0

namespace HtmlNode

variable {α : Type}

/-- The class of an element. -/
def classText (value : α → String) (attrs : List (String × α)) : String :=
  ((attrs.lookup "class").map value).getD ""

mutual

/-- What a node adds to the counters; `rows` says whether an element has its rows counted, given
whether its parent has. -/
def tally (value : α → String) (rows : Option HtmlContext → Bool → String → Bool)
    (context : Option HtmlContext) (body : Bool) : HtmlNode α → HtmlTally
  | .text _ => {}
  | .element tag _ attrs contents =>
    let context := elementContext context tag (classText value attrs)
    let body := rows context body tag
    elementTally context body tag attrs.length (dataTexts contents) +
      tallies value rows context body contents

/-- What nodes add to the counters. -/
def tallies (value : α → String) (rows : Option HtmlContext → Bool → String → Bool)
    (context : Option HtmlContext) (body : Bool) : List (HtmlNode α) → HtmlTally
  | [] => {}
  | node :: rest => node.tally value rows context body + tallies value rows context body rest

end

mutual

/-- The levels of elements. -/
def height : HtmlNode α → ℕ
  | .text _ => 0
  | .element _ _ _ contents => 1 + heights contents

/-- The levels of the deepest of a list. -/
def heights : List (HtmlNode α) → ℕ
  | [] => 0
  | node :: rest => max node.height (heights rest)

end

mutual

/-- The attributes of the element that has most. -/
def mostAttributes : HtmlNode α → ℕ
  | .text _ => 0
  | .element _ _ attrs contents => max attrs.length (mostAttributesOf contents)

/-- The attributes of the element of a list that has most. -/
def mostAttributesOf : List (HtmlNode α) → ℕ
  | [] => 0
  | node :: rest => max node.mostAttributes (mostAttributesOf rest)

end

end HtmlNode

/-- The preflight counts a row if any body of a table is open. -/
def inAnyBody (_ : Option HtmlContext) (body : Bool) (tag : String) : Bool := body || tag == "tbody"

/-- The recount counts a row if the body of a search table is open. -/
def inSearchBody (context : Option HtmlContext) (body : Bool) (tag : String) : Bool :=
  body || (context == some .search && tag == "tbody")

/-- An attribute value as it is written. -/
def rawValue (value : Option String) : String := value.getD ""

/-! ## Attributes that the tree holds as words -/

/-- The class says the same of a table when its words are joined. -/
theorem elementContext_joined {context : Option HtmlContext} {tag classText : String} :
    elementContext context tag (Text.join (Text.split classText)) =
      elementContext context tag classText := by
  have hsearch : "search-results".toList.all (fun c => !Text.isSpace c) = true := by decide
  have hitem : "itemDisplayTable".toList.all (fun c => !Text.isSpace c) = true := by decide
  have hcontains : ∀ needle : List Char, needle.all (fun c => !Text.isSpace c) = true → needle ≠ [] →
      Text.contains needle (Text.joinWords (Text.words classText.toList)) =
        Text.contains needle classText.toList := by
    intro needle hneedle hne
    refine Text.contains_joinWords_words (fun c hc => ?_) hne
    simpa using List.all_eq_true.1 hneedle c hc
  rw [elementContext, elementContext, Text.toList_join_split, hcontains _ hsearch (by decide),
    hcontains _ hitem (by decide)]

namespace HtmlNode

variable {lists : String → String → Bool}

theorem htmlAttributeText_soupValue {tag key : String} {value : Option String} :
    htmlAttributeText (soupValue lists tag key value) =
      if lists tag key then Text.join (Text.split (rawValue value)) else rawValue value := by
  rw [soupValue]
  split <;> rfl

theorem elementContext_soup {context : Option HtmlContext} {tag : String} {attrs : RawAttributes} :
    elementContext context tag (classText htmlAttributeText
        (attrs.map fun item => (item.1, soupValue lists tag item.1 item.2))) =
      elementContext context tag (classText rawValue attrs) := by
  have hlookup : (attrs.map fun item => (item.1, soupValue lists tag item.1 item.2)).lookup "class" =
      (attrs.lookup "class").map (soupValue lists tag "class") := by
    induction attrs with
    | nil => rfl
    | cons item rest ih =>
        rw [List.map_cons, List.lookup_cons, List.lookup_cons, ih]
        by_cases hkey : "class" == item.1
        · rw [beq_iff_eq.1 hkey]
          simp
        · simp [hkey]
  rw [classText, hlookup, classText]
  cases attrs.lookup "class" with
  | none => rfl
  | some value =>
      simp only [Option.map_some, Option.getD_some, htmlAttributeText_soupValue]
      split
      · exact elementContext_joined
      · rfl

mutual

theorem strings_soup {node : HtmlNode (Option String)} : (node.soup lists).strings = node.strings := by
  match node with
  | .text data => rfl
  | .element tag slash attrs contents => rw [soup, strings, strings, stringsOf_soups]

theorem stringsOf_soups {nodes : List (HtmlNode (Option String))} :
    stringsOf (soups lists nodes) = stringsOf nodes := by
  match nodes with
  | [] => rfl
  | node :: rest => rw [soups, stringsOf, stringsOf, strings_soup, stringsOf_soups]

end

mutual

/-- The counters of the tree are those of the page. -/
theorem tally_soup {node : HtmlNode (Option String)} {rows : Option HtmlContext → Bool → String → Bool}
    {context : Option HtmlContext} {body : Bool} :
    (node.soup lists).tally htmlAttributeText rows context body =
      node.tally rawValue rows context body := by
  match node with
  | .text data => rfl
  | .element tag slash attrs contents =>
      simp only [soup, tally, elementContext_soup, List.length_map, dataTexts, stringsOf_soups,
        tallies_soups]

theorem tallies_soups {nodes : List (HtmlNode (Option String))}
    {rows : Option HtmlContext → Bool → String → Bool} {context : Option HtmlContext} {body : Bool} :
    tallies htmlAttributeText rows context body (soups lists nodes) =
      tallies rawValue rows context body nodes := by
  match nodes with
  | [] => rfl
  | node :: rest => simp only [soups, tallies, tally_soup, tallies_soups]

end

mutual

theorem height_soup {node : HtmlNode (Option String)} : (node.soup lists).height = node.height := by
  match node with
  | .text data => rfl
  | .element tag slash attrs contents => rw [soup, height, height, heights_soups]

theorem heights_soups {nodes : List (HtmlNode (Option String))} :
    heights (soups lists nodes) = heights nodes := by
  match nodes with
  | [] => rfl
  | node :: rest => rw [soups, heights, heights, height_soup, heights_soups]

end

mutual

theorem mostAttributes_soup {node : HtmlNode (Option String)} :
    (node.soup lists).mostAttributes = node.mostAttributes := by
  match node with
  | .text data => rfl
  | .element tag slash attrs contents =>
      rw [soup, mostAttributes, mostAttributes, List.length_map, mostAttributesOf_soups]

theorem mostAttributesOf_soups {nodes : List (HtmlNode (Option String))} :
    mostAttributesOf (soups lists nodes) = mostAttributesOf nodes := by
  match nodes with
  | [] => rfl
  | node :: rest =>
      rw [soups, mostAttributesOf, mostAttributesOf, mostAttributes_soup, mostAttributesOf_soups]

end

end HtmlNode

/-! ## Rows -/

namespace HtmlNode

mutual

/-- Every row of a search table that is in the body of some table is in the body of a search
table. -/
def RowsOwned (context : Option HtmlContext) (anyBody searchBody : Bool) :
    HtmlNode (Option String) → Prop
  | .text _ => True
  | .element tag _ attrs contents =>
    let context := elementContext context tag (classText rawValue attrs)
    let anyBody := inAnyBody context anyBody tag
    let searchBody := inSearchBody context searchBody tag
    (tag = "tr" → context = some .search → anyBody = true → searchBody = true) ∧
      AllRowsOwned context anyBody searchBody contents

@[inherit_doc RowsOwned]
def AllRowsOwned (context : Option HtmlContext) (anyBody searchBody : Bool) :
    List (HtmlNode (Option String)) → Prop
  | [] => True
  | node :: rest =>
    node.RowsOwned context anyBody searchBody ∧ AllRowsOwned context anyBody searchBody rest

end

/-- Two counts of a page that differ in the rows only, the first one having as many or more. -/
def SameButRows (a b : HtmlTally) : Prop :=
  b.records ≤ a.records ∧ a.elements = b.elements ∧ a.attributes = b.attributes ∧
    a.metadataFields = b.metadataFields ∧ a.maxField = b.maxField ∧
    a.semanticMaxField = b.semanticMaxField

theorem SameButRows.add {a b a' b' : HtmlTally} (h : SameButRows a b) (h' : SameButRows a' b') :
    SameButRows (a + a') (b + b') ∧
      ((a + a').records = (b + b').records ↔ a.records = b.records ∧ a'.records = b'.records) := by
  obtain ⟨h1, h2, h3, h4, h5, h6⟩ := h
  obtain ⟨h1', h2', h3', h4', h5', h6'⟩ := h'
  refine ⟨⟨Nat.add_le_add h1 h1', ?_, ?_, ?_, ?_, ?_⟩, ?_⟩
  · simp [h2, h2']
  · simp [h3, h3']
  · simp [h4, h4']
  · simp [h5, h5']
  · simp [h6, h6']
  · simp only [HtmlTally.records_add]
    omega

theorem inSearchBody_imp {context : Option HtmlContext} {anyBody searchBody : Bool} {tag : String}
    (h : searchBody = true → anyBody = true) :
    inSearchBody context searchBody tag = true → inAnyBody context anyBody tag = true := by
  simp only [inSearchBody, inAnyBody, Bool.or_eq_true, Bool.and_eq_true]
  rintro (hbody | ⟨-, htag⟩)
  · exact .inl (h hbody)
  · exact .inr htag

theorem elementTally_rows {context : Option HtmlContext} {anyBody searchBody : Bool} {tag : String}
    {attributes : ℕ} {cell : List Char} (h : searchBody = true → anyBody = true) :
    SameButRows (elementTally context anyBody tag attributes cell)
        (elementTally context searchBody tag attributes cell) ∧
      ((elementTally context anyBody tag attributes cell).records =
        (elementTally context searchBody tag attributes cell).records ↔
          (tag = "tr" → context = some .search → anyBody = true → searchBody = true)) := by
  refine ⟨⟨?_, rfl, rfl, rfl, rfl, rfl⟩, ?_⟩ <;>
  · simp only [elementTally]
    cases anyBody <;> cases searchBody <;> simp_all

mutual

/-- The preflight counts every row that the recount counts, and no other exactly if all rows are
owned. -/
theorem tally_rows {node : HtmlNode (Option String)} {context : Option HtmlContext}
    {anyBody searchBody : Bool} (h : searchBody = true → anyBody = true) :
    SameButRows (node.tally rawValue inAnyBody context anyBody)
        (node.tally rawValue inSearchBody context searchBody) ∧
      ((node.tally rawValue inAnyBody context anyBody).records =
        (node.tally rawValue inSearchBody context searchBody).records ↔
          node.RowsOwned context anyBody searchBody) := by
  match node with
  | .text data => exact ⟨⟨Nat.le_refl _, rfl, rfl, rfl, rfl, rfl⟩, by simp [tally, RowsOwned]⟩
  | .element tag slash attrs contents =>
      have hbody := @inSearchBody_imp (elementContext context tag (classText rawValue attrs)) _ _ tag h
      obtain ⟨hrest, hrows⟩ := @tallies_rows contents
        (elementContext context tag (classText rawValue attrs)) _ _ hbody
      obtain ⟨hown, hrow⟩ := @elementTally_rows
        (elementContext context tag (classText rawValue attrs)) _ _ tag attrs.length
        (dataTexts contents) hbody
      obtain ⟨hsame, hrecords⟩ := hown.add hrest
      simp only [tally, RowsOwned, ← hrows, ← hrow]
      exact ⟨hsame, hrecords⟩

theorem tallies_rows {nodes : List (HtmlNode (Option String))} {context : Option HtmlContext}
    {anyBody searchBody : Bool} (h : searchBody = true → anyBody = true) :
    SameButRows (tallies rawValue inAnyBody context anyBody nodes)
        (tallies rawValue inSearchBody context searchBody nodes) ∧
      ((tallies rawValue inAnyBody context anyBody nodes).records =
        (tallies rawValue inSearchBody context searchBody nodes).records ↔
          AllRowsOwned context anyBody searchBody nodes) := by
  match nodes with
  | [] => exact ⟨⟨Nat.le_refl _, rfl, rfl, rfl, rfl, rfl⟩, by simp [tallies, AllRowsOwned]⟩
  | node :: rest =>
      obtain ⟨hnode, hrow⟩ := @tally_rows node context anyBody searchBody h
      obtain ⟨hrest, hrows⟩ := @tallies_rows rest context anyBody searchBody h
      obtain ⟨hsame, hrecords⟩ := hnode.add hrest
      simp only [tallies, AllRowsOwned, ← hrow, ← hrows]
      exact ⟨hsame, hrecords⟩

end

end HtmlNode

/-! ## White space -/

/-- A part of the text of a page: a text, or the name and the value of an attribute, which the tree
may hold as a list of words. -/
inductive TextPiece where
  | text (data : List Char)
  | attr (key value : List Char) (isList : Bool)
  deriving DecidableEq, Repr

namespace TextPiece

/-- As it is written. -/
def raw : TextPiece → List Char
  | text data => data
  | attr key value _ => key ++ value

/-- As the tree has it. -/
def joined : TextPiece → List Char
  | text data => data
  | attr key value isList =>
    key ++ if isList then Text.joinWords (Text.words value) else value

/-- The name of an attribute is not empty and has no white space. -/
def Named : TextPiece → Prop
  | text _ => True
  | attr key _ _ => key ≠ [] ∧ ∀ c ∈ key, Text.isSpace c = false

/-- No white space at the ends of a list of words is lost: there is none before the first word, and
what is behind the last one runs on into the text that follows. -/
def SpacesKept : List TextPiece → Prop
  | [] => True
  | text _ :: rest => SpacesKept rest
  | attr _ value isList :: rest =>
    (isList = true → (Text.startsSpace value = true → Text.words value = []) ∧
      (Text.runAfter false value = true → Text.startsSpace (rest.flatMap raw) = true)) ∧
      SpacesKept rest

/-- How much white space is lost. -/
def lostSpaces : List TextPiece → ℕ
  | [] => 0
  | text _ :: rest => lostSpaces rest
  | attr _ value isList :: rest =>
    (if isList then
      (if Text.startsSpace value && !(Text.words value).isEmpty then 1 else 0) +
        (if Text.runAfter false value && !Text.startsSpace (rest.flatMap raw) then 1 else 0)
      else 0) + lostSpaces rest

theorem lostSpaces_eq_zero {pieces : List TextPiece} : lostSpaces pieces = 0 ↔ SpacesKept pieces := by
  induction pieces with
  | nil => exact ⟨fun _ => trivial, fun _ => rfl⟩
  | cons piece rest ih =>
      cases piece with
      | text data => exact ih
      | attr key value isList =>
          simp only [lostSpaces, SpacesKept, Nat.add_eq_zero_iff, ih]
          cases isList with
          | false => simp
          | true =>
              simp only [if_true, Nat.add_eq_zero_iff]
              cases Text.startsSpace value <;> cases Text.runAfter false value <;>
                cases Text.startsSpace (rest.flatMap raw) <;> simp

/-- What is lost is lost to the collapsed text only once for each end of a list of words. -/
theorem length_collapse_raw {pieces : List TextPiece} (hnamed : ∀ piece ∈ pieces, piece.Named)
    {inRun : Bool} :
    (Text.collapse inRun (pieces.flatMap raw)).length =
      (Text.collapse inRun (pieces.flatMap joined)).length + lostSpaces pieces := by
  induction pieces generalizing inRun with
  | nil => rfl
  | cons piece rest ih =>
      have hrest := @ih fun other hother => hnamed other (List.mem_cons_of_mem _ hother)
      cases piece with
      | text data =>
          simp only [List.flatMap_cons, raw, joined, Text.collapse_append, List.length_append,
            lostSpaces, hrest]
          omega
      | attr key value isList =>
          obtain ⟨hne, hkey⟩ := hnamed _ (List.mem_cons_self ..)
          simp only [List.flatMap_cons, raw, joined, List.append_assoc, Text.collapse_append,
            Text.runAfter_of_forall hkey hne, List.length_append, lostSpaces]
          cases isList with
          | false =>
              simp only [Bool.false_eq_true, if_false, hrest]
              omega
          | true =>
              obtain ⟨hjoin, hrun⟩ := Text.collapse_joinWords fun word hword =>
                @Text.words_forall value word hword
              have hvalue := @Text.length_collapse_eq value
              have hstart := @Text.length_collapse_true (rest.flatMap raw)
              simp only [if_true, hjoin, hrun, hvalue]
              have hfalse := @hrest false
              cases Text.runAfter false value with
              | false =>
                  simp only [Bool.false_and, Bool.false_eq_true, if_false]
                  omega
              | true =>
                  simp only [Bool.true_and, if_true]
                  cases hs : Text.startsSpace (rest.flatMap raw) <;> simp [hs] at hstart ⊢ <;> omega

theorem length_joined_le {pieces : List TextPiece} :
    (pieces.flatMap joined).length ≤ (pieces.flatMap raw).length := by
  induction pieces with
  | nil => exact Nat.le_refl _
  | cons piece rest ih =>
      rw [List.flatMap_cons, List.flatMap_cons, List.length_append, List.length_append]
      refine Nat.add_le_add ?_ ih
      cases piece with
      | text data => exact Nat.le_refl _
      | attr key value isList =>
          cases isList with
          | false => exact Nat.le_refl _
          | true =>
              simp only [joined, raw, if_true, List.length_append]
              exact Nat.add_le_add_left Text.length_joinWords_le _

end TextPiece

namespace HtmlNode

variable (lists : String → String → Bool)

/-- The parts of an element's attributes. -/
def attributePieces (tag : String) (attrs : RawAttributes) : List TextPiece :=
  attrs.map fun item => .attr item.1.toList (rawValue item.2).toList (lists tag item.1)

mutual

/-- The parts of the text of a node. -/
def pieces : HtmlNode (Option String) → List TextPiece
  | .text data => [.text data.toList]
  | .element tag _ attrs contents => attributePieces lists tag attrs ++ piecesOf contents

/-- The parts of the text of nodes. -/
def piecesOf : List (HtmlNode (Option String)) → List TextPiece
  | [] => []
  | node :: rest => node.pieces ++ piecesOf rest

end

variable {lists}

theorem attributesText_soup {tag : String} {attrs : RawAttributes} :
    attributesText htmlAttributeText
        (attrs.map fun item => (item.1, soupValue lists tag item.1 item.2)) =
      (attributePieces lists tag attrs).flatMap TextPiece.joined := by
  rw [attributesText, attributePieces, List.flatMap_map, List.flatMap_map]
  congr 1
  funext item
  simp only [TextPiece.joined, htmlAttributeText_soupValue]
  by_cases hlist : lists tag item.1 = true
  · rw [if_pos hlist, if_pos hlist, Text.toList_join_split]
  · rw [if_neg hlist, if_neg hlist]

theorem attributesText_raw {tag : String} {attrs : RawAttributes} :
    attributesText rawValue attrs = (attributePieces lists tag attrs).flatMap TextPiece.raw := by
  rw [attributesText, attributePieces, List.flatMap_map]
  rfl

mutual

theorem fullText_soup {node : HtmlNode (Option String)} :
    (node.soup lists).fullText htmlAttributeText = (node.pieces lists).flatMap TextPiece.joined := by
  match node with
  | .text data => simp [soup, fullText, pieces, TextPiece.joined]
  | .element tag slash attrs contents =>
      rw [soup, fullText, pieces, List.flatMap_append, attributesText_soup, fullTexts_soups]

theorem fullTexts_soups {nodes : List (HtmlNode (Option String))} :
    fullTexts htmlAttributeText (soups lists nodes) =
      (piecesOf lists nodes).flatMap TextPiece.joined := by
  match nodes with
  | [] => rfl
  | node :: rest =>
      rw [soups, fullTexts, piecesOf, List.flatMap_append, fullText_soup, fullTexts_soups]

end

mutual

theorem fullText_raw {node : HtmlNode (Option String)} :
    node.fullText rawValue = (node.pieces lists).flatMap TextPiece.raw := by
  match node with
  | .text data => simp [fullText, pieces, TextPiece.raw]
  | .element tag slash attrs contents =>
      rw [fullText, pieces, List.flatMap_append, ← attributesText_raw, fullTexts_raw]

theorem fullTexts_raw {nodes : List (HtmlNode (Option String))} :
    fullTexts rawValue nodes = (piecesOf lists nodes).flatMap TextPiece.raw := by
  match nodes with
  | [] => rfl
  | node :: rest => rw [fullTexts, piecesOf, List.flatMap_append, fullText_raw, fullTexts_raw]

end

mutual

theorem pieces_named {node : HtmlNode (Option String)} (h : node.WellFormed) :
    ∀ piece ∈ node.pieces lists, piece.Named := by
  match node with
  | .text data =>
      intro piece hpiece
      rw [List.mem_singleton.1 hpiece]
      trivial
  | .element tag slash attrs contents =>
      obtain ⟨hnames, -, hcontents⟩ := h
      intro piece hpiece
      rcases List.mem_append.1 hpiece with hpiece | hpiece
      · obtain ⟨item, hitem, rfl⟩ := List.mem_map.1 hpiece
        obtain ⟨hne, hspaceless⟩ := hnames item hitem
        exact ⟨fun hnil => hne (String.toList_eq_nil_iff.1 hnil), hspaceless⟩
      · exact piecesOf_named hcontents piece hpiece

theorem piecesOf_named {nodes : List (HtmlNode (Option String))} (h : AllWellFormed nodes) :
    ∀ piece ∈ piecesOf lists nodes, piece.Named := by
  match nodes with
  | [] => exact nofun
  | node :: rest =>
      intro piece hpiece
      rcases List.mem_append.1 hpiece with hpiece | hpiece
      · exact pieces_named h.1 piece hpiece
      · exact piecesOf_named h.2 piece hpiece

end

end HtmlNode

end NplgMcp
