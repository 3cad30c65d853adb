import NplgMcp.Markup.HtmlReader
import NplgMcp.Markup.HtmlRecount

/-!
# The HTML preflight agrees with the tree

Both counts of a page within the limits are sums over its nodes. They agree exactly if every row is
owned (`HtmlNode.AllRowsOwned`) and no white space is lost (`TextPiece.SpacesKept`).
-/

open Library

namespace NplgMcp

namespace HtmlPage

variable {page : HtmlPage} {url : String} {expired : ℕ → Bool} {lists : String → String → Bool}
  {implied : List String}

/-- What the preflight counts. -/
def tally (page : HtmlPage) : HtmlTally := HtmlNode.tallies rawValue inAnyBody none false page.nodes

/-- The text of the page, with the attributes. -/
def text (page : HtmlPage) : List Char := HtmlNode.fullTexts rawValue page.nodes

/-- The page is within `PARSER_LIMITS`. -/
structure WithinLimits (page : HtmlPage) : Prop where
  bytes : page.bytes ≤ parserLimits.markupBytes
  depth : HtmlNode.heights page.nodes ≤ parserLimits.maxDepth
  attributesPerNode :
    HtmlNode.mostAttributesOf page.nodes ≤ parserLimits.maxAttributesPerNode
  nodes : page.tally.elements ≤ parserLimits.maxNodes
  attributes : page.tally.attributes ≤ parserLimits.maxTotalAttributes
  text : page.text.length ≤ parserLimits.maxTotalTextCodePoints
  metadataFields : page.tally.metadataFields ≤ parserLimits.maxMetadataFields
  records : page.tally.records ≤ parserLimits.maxRecords
  fields : page.tally.maxField ≤ parserLimits.maxFieldCodePoints

/-- The preflight of a page within the limits. -/
theorem preflightHtml_eq (h : page.WithinLimits) (hclock : ∀ reading, expired reading = false) :
    preflightHtml page url expired = .ok
      { nodes := page.tally.elements
        totalAttributes := page.tally.attributes
        totalTextCodePoints := page.text.length
        semanticTotalTextCodePoints := (Text.collapse false page.text).length
        metadataFields := page.tally.metadataFields
        records := page.tally.records
        maxFieldCodePoints := page.tally.maxField
        semanticMaxFieldCodePoints := page.tally.semanticMaxField } := by
  let p : HtmlBudgetParser := HtmlBudgetParser.atReading {} 1
  have hready : p.Ready := ⟨Nat.le_refl _, nofun⟩
  have hwithin : (p.after page.text (HtmlNode.dataTexts page.nodes) page.tally).Within := by
    refine ⟨?_, ?_, ?_, ?_, ?_, ?_⟩
    · simpa [p, HtmlBudgetParser.after, HtmlBudgetParser.atReading] using h.nodes
    · simpa [p, HtmlBudgetParser.after, HtmlBudgetParser.atReading,
        CanonicalTextCounter.read] using h.text
    · simpa [p, HtmlBudgetParser.after, HtmlBudgetParser.atReading] using h.attributes
    · simpa [p, HtmlBudgetParser.after, HtmlBudgetParser.atReading] using h.metadataFields
    · simpa [p, HtmlBudgetParser.after, HtmlBudgetParser.atReading] using h.records
    · simpa [p, HtmlBudgetParser.after, HtmlBudgetParser.atReading,
        HtmlBudgetParser.fieldMost] using h.fields
  have hdepth : p.openElements.length + HtmlNode.heights page.nodes ≤ parserLimits.maxDepth := by
    simpa [p, HtmlBudgetParser.atReading] using h.depth
  have hrun : ∃ reads, (HtmlNode.eventsOf page.nodes).foldlM (HtmlBudgetParser.handle url expired) p =
      .ok ((p.after page.text (HtmlNode.dataTexts page.nodes) page.tally).atReading reads) :=
    HtmlBudgetParser.run_nodes hclock hready page.wellFormed hdepth h.attributesPerNode hwithin
  obtain ⟨reads, hrun⟩ := hrun
  have hbytes : ¬ page.bytes > parserLimits.markupBytes := not_lt.2 h.bytes
  have hstart : HtmlBudgetParser.checkDeadline url expired {} = .ok p :=
    HtmlBudgetParser.checkDeadline_eq hclock
  simp only [preflightHtml, if_neg hbytes, hstart, hrun, HtmlBudgetParser.checkDeadline_eq hclock,
    bind, Except.bind, pure, Except.pure]
  simp [HtmlBudgetParser.counts, HtmlBudgetParser.after, HtmlBudgetParser.atReading,
    CanonicalTextCounter.read, HtmlBudgetParser.fieldMost, HtmlBudgetParser.semanticFieldMost, p]

/-- What the recount counts of the nodes of the page. -/
def treeTally (page : HtmlPage) : HtmlTally :=
  HtmlNode.tallies rawValue inSearchBody none false page.nodes

/-- The text of the page as the tree has it. -/
def treeText (page : HtmlPage) (lists : String → String → Bool) : List Char :=
  (HtmlNode.piecesOf lists page.nodes).flatMap TextPiece.joined

/-- The two counts of the nodes. -/
theorem tallies_rows (page : HtmlPage) :
    HtmlNode.SameButRows page.tally page.treeTally ∧
      (page.tally.records = page.treeTally.records ↔
        HtmlNode.AllRowsOwned none false false page.nodes) :=
  HtmlNode.tallies_rows nofun

theorem length_treeText_le : (page.treeText lists).length ≤ page.text.length := by
  rw [text, @HtmlNode.fullTexts_raw lists]
  exact TextPiece.length_joined_le

theorem length_collapse_text : (Text.collapse false page.text).length =
    (Text.collapse false (page.treeText lists)).length +
      TextPiece.lostSpaces (HtmlNode.piecesOf lists page.nodes) := by
  rw [text, @HtmlNode.fullTexts_raw lists]
  exact TextPiece.length_collapse_raw (HtmlNode.piecesOf_named page.wellFormed)

theorem tallies_wrap {nodes : List (HtmlNode AttributeValue)}
    (h : ∀ tag ∈ implied, tag ∈ ["html", "body"]) :
    HtmlNode.tallies htmlAttributeText inSearchBody none false (wrap implied nodes) =
      { elements := implied.length } +
        HtmlNode.tallies htmlAttributeText inSearchBody none false nodes := by
  induction implied with
  | nil => exact HtmlTally.zero_add.symm
  | cons tag rest ih =>
      have hrest := ih fun other hother => h other (List.mem_cons_of_mem _ hother)
      have htag : tag = "html" ∨ tag = "body" := by simpa using h tag (List.mem_cons_self ..)
      have hcontext : elementContext none tag (HtmlNode.classText htmlAttributeText []) = none := by
        rcases htag with rfl | rfl <;> rfl
      have hbody : inSearchBody none false tag = false := rfl
      have hown : elementTally none false tag 0 (HtmlNode.dataTexts (wrap rest nodes)) =
          { elements := 1 } := by
        rcases htag with rfl | rfl <;> rfl
      simp only [wrap, HtmlNode.tallies, HtmlNode.tally, hcontext, hbody, List.length_nil, hown, hrest,
        HtmlTally.add_zero, ← HtmlTally.add_assoc]
      congr 1
      ext <;> simp [Nat.add_comm]

theorem fullTexts_wrap {nodes : List (HtmlNode AttributeValue)} :
    HtmlNode.fullTexts htmlAttributeText (wrap implied nodes) =
      HtmlNode.fullTexts htmlAttributeText nodes := by
  induction implied with
  | nil => rfl
  | cons tag rest ih => simp [wrap, HtmlNode.fullTexts, HtmlNode.fullText, HtmlNode.attributesText, ih]

theorem heights_wrap {nodes : List (HtmlNode AttributeValue)} :
    HtmlNode.heights (wrap implied nodes) ≤ implied.length + HtmlNode.heights nodes := by
  induction implied with
  | nil => simp [wrap]
  | cons tag rest ih =>
      simp only [wrap, HtmlNode.heights, HtmlNode.height, List.length_cons]
      omega

theorem mostAttributesOf_wrap {nodes : List (HtmlNode AttributeValue)} :
    HtmlNode.mostAttributesOf (wrap implied nodes) = HtmlNode.mostAttributesOf nodes := by
  induction implied with
  | nil => rfl
  | cons tag rest ih =>
      simp [wrap, HtmlNode.mostAttributesOf, HtmlNode.mostAttributes, ih]

/-- The recount of the tree of a page within the limits. -/
theorem validateHtmlTree_eq (h : page.WithinLimits) (himplied : implied.Sublist ["html", "body"]) :
    validateHtmlTree (page.soup lists implied) url = .ok
      { nodes := 1 + implied.length + page.treeTally.elements
        totalAttributes := page.treeTally.attributes
        totalTextCodePoints := (page.treeText lists).length
        semanticTotalTextCodePoints := (Text.collapse false (page.treeText lists)).length
        metadataFields := page.treeTally.metadataFields
        records := page.treeTally.records
        maxFieldCodePoints := page.treeTally.maxField
        semanticMaxFieldCodePoints := page.treeTally.semanticMaxField } := by
  have hlength := himplied.length_le
  have htally : HtmlRecount.stackTally [⟨page.soup lists implied, 1, none, false⟩] =
      { elements := 1 } + ({ elements := implied.length } + page.treeTally) := by
    have hdocument : ∀ cell, elementTally none false "[document]" 0 cell = { elements := 1 } :=
      fun _ => rfl
    simp only [HtmlRecount.stackTally, HtmlRecount.entryTally, HtmlPage.soup, List.length_nil,
      hdocument, HtmlTally.add_zero, tallies_wrap fun _ htag => himplied.subset htag,
      HtmlNode.tallies_soups, treeTally]
  have htext : HtmlRecount.stackText [⟨page.soup lists implied, 1, none, false⟩] =
      page.treeText lists := by
    simp only [HtmlRecount.stackText, List.flatMap_cons, List.flatMap_nil, List.append_nil,
      HtmlPage.soup, HtmlNode.fullText, fullTexts_wrap, HtmlNode.fullTexts_soups, treeText]
    rfl
  obtain ⟨⟨hrecords, helements, hattributes, hfields, hmax, -⟩, -⟩ := page.tallies_rows
  have hjoined : (page.treeText lists).length ≤ page.text.length := length_treeText_le
  have hshallow : ∀ entry ∈ [(⟨page.soup lists implied, 1, none, false⟩ : HtmlEntry)],
      HtmlRecount.Shallow entry := by
    intro entry hentry
    obtain rfl := List.mem_singleton.1 hentry
    have hheight := @heights_wrap implied (HtmlNode.soups lists page.nodes)
    have hdepth := h.depth
    have hmost := h.attributesPerNode
    rw [HtmlNode.heights_soups] at hheight
    simp only [HtmlRecount.Shallow, HtmlPage.soup, HtmlNode.height, HtmlNode.mostAttributes,
      List.length_nil, mostAttributesOf_wrap, HtmlNode.mostAttributesOf_soups]
    simp only [List.length_cons, List.length_nil] at hlength
    omega
  have hwithin : (HtmlRecount.plus {} ({ elements := 1 } +
      ({ elements := implied.length } + page.treeTally)) (page.treeText lists)).Within := by
    have hnodes := h.nodes
    have htotal := h.attributes
    have hfull := h.text
    have hmetadata := h.metadataFields
    have hrows := h.records
    have hcells := h.fields
    simp only [List.length_cons, List.length_nil] at hlength
    refine ⟨?_, ?_, ?_, ?_, ?_, ?_⟩ <;> simp [HtmlRecount.plus, CanonicalTextCounter.read] <;> omega
  have hvisit := @HtmlRecount.visitAll_eq {} url [⟨page.soup lists implied, 1, none, false⟩]
    (Nat.le_refl _) hshallow (by rw [htally, htext]; exact hwithin)
  have hlimit := hwithin.text
  rw [htally, htext] at hvisit
  simp only [validateHtmlTree, hvisit, bind, Except.bind, gt_iff_lt, if_neg (not_lt.2 hlimit), pure,
    Except.pure]
  simp [HtmlRecount.counts, HtmlRecount.plus, CanonicalTextCounter.read, Nat.add_assoc]

/-- **When the HTML preflight agrees with the tree.** For a page within the limits both counts are
taken; they agree exactly if every row of a search table that is in some table body is in the body
of a search table, and no white space at the ends of a list of words is lost. -/
theorem html_preflight_agrees_iff (h : page.WithinLimits)
    (hclock : ∀ reading, expired reading = false) (himplied : implied.Sublist ["html", "body"]) :
    ∃ preflight constructed, preflightHtml page url expired = .ok preflight ∧
      validateHtmlTree (page.soup lists implied) url = .ok constructed ∧
      (requirePreflightAgreement preflight constructed false (some url) = .ok () ↔
        HtmlNode.AllRowsOwned none false false page.nodes ∧
          TextPiece.SpacesKept (HtmlNode.piecesOf lists page.nodes)) ∧
      (requirePreflightAgreement preflight constructed false (some url) =
          .error (preflightDisagreement (some url)) ↔
        ¬ (HtmlNode.AllRowsOwned none false false page.nodes ∧
          TextPiece.SpacesKept (HtmlNode.piecesOf lists page.nodes))) := by
  obtain ⟨⟨-, -, hattributes, hfields, hmax, hsemanticMax⟩, hrows⟩ := page.tallies_rows
  have hjoined : (page.treeText lists).length ≤ page.text.length := length_treeText_le
  have hspaces := @length_collapse_text page lists
  refine ⟨_, _, preflightHtml_eq h hclock, validateHtmlTree_eq h himplied, ?_⟩
  rw [← hrows, ← TextPiece.lostSpaces_eq_zero]
  have hagrees : preflightAgrees
      { nodes := page.tally.elements
        totalAttributes := page.tally.attributes
        totalTextCodePoints := page.text.length
        semanticTotalTextCodePoints := (Text.collapse false page.text).length
        metadataFields := page.tally.metadataFields
        records := page.tally.records
        maxFieldCodePoints := page.tally.maxField
        semanticMaxFieldCodePoints := page.tally.semanticMaxField }
      { nodes := 1 + implied.length + page.treeTally.elements
        totalAttributes := page.treeTally.attributes
        totalTextCodePoints := (page.treeText lists).length
        semanticTotalTextCodePoints := (Text.collapse false (page.treeText lists)).length
        metadataFields := page.treeTally.metadataFields
        records := page.treeTally.records
        maxFieldCodePoints := page.treeTally.maxField
        semanticMaxFieldCodePoints := page.treeTally.semanticMaxField } false =
      decide (page.tally.records = page.treeTally.records ∧
        TextPiece.lostSpaces (HtmlNode.piecesOf lists page.nodes) = 0) := by
    rw [Bool.eq_iff_iff, decide_eq_true_iff]
    simp [preflightAgrees, hattributes, hfields, hmax, hsemanticMax, hspaces, hjoined, and_comm]
  rw [requirePreflightAgreement, hagrees]
  by_cases hsame : page.tally.records = page.treeTally.records ∧
      TextPiece.lostSpaces (HtmlNode.piecesOf lists page.nodes) = 0
  · rw [if_pos (decide_eq_true hsame)]
    exact ⟨⟨fun _ => hsame, fun _ => rfl⟩, ⟨nofun, fun hnot => absurd hsame hnot⟩⟩
  · rw [if_neg (by simpa using hsame)]
    exact ⟨⟨nofun, fun h => absurd h hsame⟩, ⟨fun _ => hsame, fun _ => rfl⟩⟩

end HtmlPage

/-! ## A class with a blank -/

/-- A division with a class, and a word in it. -/
def oneDivision (className : String) (bytes : ℕ) : HtmlPage where
  nodes := [.element "div" false [("class", some className)] [.text "catalogue"]]
  bytes := bytes
  wellFormed := by
    refine ⟨⟨?_, nofun, trivial, trivial⟩, trivial⟩
    intro item hitem
    obtain rfl := List.mem_singleton.1 hitem
    have hplain : "class".toList.all (fun c => !Text.isSpace c) = true := by decide
    have hne : "class" ≠ "" := by decide
    exact ⟨hne, fun c hc => by simpa using List.all_eq_true.1 hplain c hc⟩

/-- Only the class is a list of words. -/
def classList (_ key : String) : Bool := key == "class"

/-- The page that is searched. -/
def searchUrl : String := "https://dspace.nplg.gov.ge/simple-search"

theorem withinLimits_row : (oneDivision "row" 32).WithinLimits := by
  refine ⟨?_, ?_, ?_, ?_, ?_, ?_, ?_, ?_, ?_⟩ <;> decide

theorem withinLimits_row_blank : (oneDivision "row " 33).WithinLimits := by
  refine ⟨?_, ?_, ?_, ?_, ?_, ?_, ?_, ?_, ?_⟩ <;> decide

/-- `<div class="row">catalogue</div>` passes. -/
theorem html_preflight_agrees_row :
    ∃ preflight constructed,
      preflightHtml (oneDivision "row" 32) searchUrl (fun _ => false) = .ok preflight ∧
      validateHtmlTree ((oneDivision "row" 32).soup classList ["html", "body"]) searchUrl =
        .ok constructed ∧
      requirePreflightAgreement preflight constructed false (some searchUrl) = .ok () := by
  have hrows : HtmlNode.AllRowsOwned none false false (oneDivision "row" 32).nodes := by
    refine ⟨⟨fun htag => ?_, trivial, trivial⟩, trivial⟩
    exact absurd htag (by decide)
  have hspaces : TextPiece.SpacesKept (HtmlNode.piecesOf classList (oneDivision "row" 32).nodes) :=
    TextPiece.lostSpaces_eq_zero.1 (by decide)
  obtain ⟨preflight, constructed, hpreflight, hconstructed, hagrees, -⟩ :=
    HtmlPage.html_preflight_agrees_iff withinLimits_row (fun _ => rfl)
      (List.Sublist.refl ["html", "body"])
  exact ⟨preflight, constructed, hpreflight, hconstructed, hagrees.2 ⟨hrows, hspaces⟩⟩

/-- `<div class="row ">catalogue</div>` is refused. -/
theorem html_preflight_disagrees :
    ∃ preflight constructed,
      preflightHtml (oneDivision "row " 33) searchUrl (fun _ => false) = .ok preflight ∧
      validateHtmlTree ((oneDivision "row " 33).soup classList ["html", "body"]) searchUrl =
        .ok constructed ∧
      requirePreflightAgreement preflight constructed false (some searchUrl) =
        .error (preflightDisagreement (some searchUrl)) := by
  refine ⟨_, _, HtmlPage.preflightHtml_eq withinLimits_row_blank fun _ => rfl,
    HtmlPage.validateHtmlTree_eq withinLimits_row_blank (List.Sublist.refl ["html", "body"]), ?_⟩
  rw [requirePreflightAgreement, if_neg (by decide)]

end NplgMcp
