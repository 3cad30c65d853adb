import NplgMcp.Markup.HtmlAgreement
import NplgMcp.Markup.OaiRecord
import NplgMcp.Search.Repository

/-!
# Pagination

A client goes through the results of a search with the cursors it is given. The parser compares a
page with the offset of the URL that the page was got from, the cursor has the offset that was
requested; where no redirect has changed the one against the other, the pages follow one another
(`Paginated`).
-/

open Library

namespace NplgMcp

namespace WebPlatform

variable {py : WebPlatform} {soup : Tag} {url : String} {offset pageSize : ℕ}

/-- An empty page is one without an offset. -/
theorem offset_of_isJspuiEmptySearchPage
    (h : py.isJspuiEmptySearchPage soup url pageSize offset = .ok true) : offset = 0 := by
  by_contra hoffset
  unfold isJspuiEmptySearchPage at h
  simp only [if_pos hoffset, pure, Except.pure] at h
  split at h <;> cases h

/-- What `_search_contract` finds in a page without a container of the XMLUI layout. -/
theorem searchContract_jspui {found : Option SearchContract} (hlayout : xmluiContainers soup = [])
    (h : py.searchContract soup url pageSize offset = .ok found) :
    (found = none → offset = 0 ∧ jspuiPagination soup = []) ∧
      ∀ contract, found = some contract →
        contract.variant = .jspui ∧ jspuiPagination soup = [contract.container] := by
  unfold searchContract at h
  simp only [hlayout] at h
  by_cases hmarkers : jspuiResults soup ≠ [] ∨ jspuiPagination soup ≠ [] ∨
      soup.findAll isJspuiTable ≠ []
  · rw [if_neg (not_not.2 hmarkers)] at h
    split at h
    next results pagination table _ hpagination _ =>
      split at h
      · obtain rfl := Except.ok.inj h
        refine ⟨(nomatch ·), fun contract hcontract => ?_⟩
        obtain rfl := Option.some.inj hcontract
        exact ⟨rfl, hpagination⟩
      · cases h
    next => cases h
  · rw [if_pos hmarkers] at h
    simp only [not_or, not_not] at hmarkers
    obtain ⟨hresults, hpagination, -⟩ := hmarkers
    obtain ⟨empty, hempty, h⟩ := ok_of_bind h
    cases empty with
    | true =>
        obtain rfl := Except.ok.inj h
        exact ⟨fun _ => ⟨offset_of_isJspuiEmptySearchPage hempty, hpagination⟩, nofun⟩
    | false =>
        rw [if_neg Bool.false_ne_true, hresults] at h
        cases h

/-- Where the range of the results begins that a page shows; an empty page shows the empty range at
the beginning. -/
def shownStart (py : WebPlatform) (soup : Tag) : ℕ :=
  match jspuiPagination soup with
  | [pagination] =>
    match py.rangeMarker pagination with
    | some (first, _, _) => integerValue first - 1
    | none => 0
  | _ => 0

/-- A JSPUI page that is read begins at the offset of its URL, and the next one where it ends. -/
theorem parseSearchResults_jspui {lib : HtmlLibrary} {markup : HtmlPage} {expired : ℕ → Bool}
    {page : SearchPage} (hsoup : soup = documentTag (markup.soup lib.lists (lib.implied markup)))
    (hlayout : xmluiContainers soup = [])
    (h : py.parseSearchResults lib markup url pageSize expired = .ok page) :
    py.currentSearchOffset url = .ok (py.shownStart soup) ∧
      ∀ next, page.nextOffset = some next →
        next = py.shownStart soup + page.items.length ∧ py.shownStart soup < next ∧
          next ≤ maxCursorOffset := by
  unfold parseSearchResults at h
  split at h
  · cases h
  · obtain ⟨tree, htree, h⟩ := ok_of_bind h
    obtain rfl : tree = soup := by
      obtain ⟨_, -, htree⟩ := ok_of_bind htree
      obtain ⟨_, -, htree⟩ := ok_of_bind htree
      obtain ⟨_, -, htree⟩ := ok_of_bind htree
      rw [hsoup]
      exact (Except.ok.inj htree).symm
    obtain ⟨current, hcurrent, h⟩ := ok_of_bind h
    obtain ⟨found, hfound, h⟩ := ok_of_bind h
    obtain ⟨hempty, hcontract⟩ := searchContract_jspui hlayout hfound
    cases found with
    | none =>
        obtain ⟨rfl, hpagination⟩ := hempty rfl
        obtain rfl := Except.ok.inj h
        rw [hcurrent, shownStart, hpagination]
        exact ⟨rfl, nofun⟩
    | some contract =>
        obtain ⟨hvariant, hpagination⟩ := hcontract contract rfl
        obtain ⟨⟨first, last, shown, hmarker, hvalue⟩, hnext⟩ := readContract_jspui h hvariant
        have hstart : py.shownStart tree = current := by
          simp only [shownStart, hpagination, hmarker, hvalue, Nat.add_sub_cancel]
        rw [hcurrent, hstart]
        exact ⟨rfl, hnext⟩

end WebPlatform

namespace NplgRepository

variable (r : NplgRepository)

/-- The tree of the page that a call has got. -/
def Visit.soup (visit : Visit) : Tag :=
  documentTag (visit.markup.soup r.lib.lists (r.lib.implied visit.markup))

/-- The page is in the JSPUI layout. -/
def Visit.isJspui (visit : Visit) : Bool := (xmluiContainers (visit.soup r)).isEmpty

/-- Where the range of the results begins that the page shows. -/
def Visit.start (visit : Visit) : ℕ := r.py.shownStart (visit.soup r)

/-- Where the call was redirected, the URL it came to has the offset that was requested. -/
def Visit.StartKept (visit : Visit) : Prop :=
  visit.landed ≠ visit.requested → r.py.currentSearchOffset visit.landed = .ok visit.offset

/-- The pages follow one another: each begins at the offset of its cursor, the first one at the
beginning and every other one where the one before ends, and so they become no more than there are
offsets. -/
structure Paginated (visits : List Visit) : Prop where
  starts : ∀ visit ∈ visits, visit.start r = visit.offset
  first : ∀ visit ∈ visits.head?, visit.start r = 0
  contiguous : visits.IsChain fun visit next =>
    next.start r = visit.start r + visit.page.items.length
  increasing : visits.Pairwise fun visit next => visit.start r < next.start r
  bounded : ∀ visit ∈ visits, visit.start r ≤ maxCursorOffset
  finite : visits.length ≤ maxCursorOffset + 1

variable {r} {s : Situation} {query : String} {scopeHandle scope cursor : Option String}
  {pageSize offset : ℕ} {visit : Visit}

/-! ## One call -/

theorem offset_le_of_cursorOffset (h : r.cursorOffset s query scope pageSize cursor = .ok offset) :
    offset ≤ maxCursorOffset := by
  cases cursor with
  | none =>
      obtain rfl := Except.ok.inj h
      exact Nat.zero_le _
  | some token =>
      cases hdecode : r.codec.decodeCursor r.cursorSigningSecret token query scope pageSize s.now with
      | error error =>
          rw [cursorOffset, hdecode] at h
          cases h
      | ok found =>
          rw [cursorOffset, hdecode] at h
          obtain rfl := Except.ok.inj h
          obtain ⟨opened, -, rfl⟩ := ok_of_map hdecode
          exact opened.offset_le

/-- What was requested for a page. -/
theorem fetchResults_ok {fetched : String × HtmlPage × String} {requests : ℕ}
    (h : r.fetchResults s query scope pageSize offset = (.ok fetched, requests)) :
    ∃ version, fetched.1 =
      r.py.requestUrl (searchBase scope) (searchParams query pageSize offset version) := by
  unfold fetchResults at h
  dsimp only at h
  split at h
  · cases h
  · split at h
    next =>
      obtain ⟨rfl, -⟩ := Prod.mk.inj h |>.imp Except.ok.inj id
      exact ⟨_, rfl⟩
    next =>
      split at h
      · split at h
        · cases h
        · obtain ⟨hfetched, -⟩ := Prod.mk.inj h
          obtain ⟨_, -, rfl⟩ := ok_of_map hfetched
          exact ⟨_, rfl⟩
      · cases h

/-- A call that returns a page, once its arguments are checked. -/
theorem visitResults_ok (h : r.visitResults s query scope pageSize cursor = .ok visit) :
    r.cursorOffset s query scope pageSize cursor = .ok visit.offset ∧
      (∃ version, visit.requested =
        r.py.requestUrl (searchBase scope) (searchParams query pageSize visit.offset version)) ∧
      ∃ page expired, r.py.parseSearchResults r.lib visit.markup visit.landed pageSize expired =
          .ok page ∧ visit.page.items = page.items ∧
        r.nextCursor s query scope pageSize page.nextOffset = .ok visit.page.nextCursor := by
  obtain ⟨offset, hoffset, h⟩ := ok_of_bind h
  cases hfetched : r.fetchResults s query scope pageSize offset with
  | mk fetched requests =>
      cases fetched with
      | error raised =>
          rw [hfetched] at h
          cases h
      | ok fetched =>
          rw [hfetched] at h
          obtain ⟨version, hrequested⟩ := fetchResults_ok hfetched
          obtain ⟨page, hpage, h⟩ := ok_of_bind h
          obtain ⟨nextCursor, hnext, h⟩ := ok_of_bind h
          obtain rfl := Except.ok.inj h
          refine ⟨hoffset, ⟨version, hrequested⟩, page, s.expired requests, ?_, rfl, hnext⟩
          unfold parse at hpage
          split at hpage
          · cases hpage
          · exact hpage

theorem searchVisit_ok (h : r.searchVisit s query pageSize scopeHandle cursor = .ok visit) :
    ∃ normalizedQuery scope, scope.all r.py.isHandle = true ∧
      r.visitResults s normalizedQuery scope pageSize cursor = .ok visit := by
  unfold searchVisit at h
  dsimp only at h
  split at h
  · cases h
  · split at h
    · cases h
    · split at h
      next => exact ⟨_, none, rfl, h⟩
      next handle =>
        obtain ⟨scope, hscope, h⟩ := ok_of_bind h
        exact ⟨_, some scope, Platform.isHandle_of_parseHandleInput hscope, h⟩

/-- The URL of a search has no parameters of its own. -/
theorem searchBase_plain (hscope : scope.all r.py.isHandle = true) :
    ∀ c ∈ (searchBase scope).toList, c ≠ '?' ∧ c ≠ '#' := by
  have hparts : (simpleSearchUrl ++ nplgOrigin ++ "/handle/" ++ "/simple-search").toList.all
      (fun c => c ≠ '?' ∧ c ≠ '#') = true := by
    decide +kernel
  have hplain : ∀ c ∈ (simpleSearchUrl ++ nplgOrigin ++ "/handle/" ++ "/simple-search").toList,
      c ≠ '?' ∧ c ≠ '#' := fun c hc => by simpa using List.all_eq_true.1 hparts c hc
  simp only [String.toList_append, List.mem_append] at hplain
  intro c hc
  cases scope with
  | none => exact hplain c (.inl (.inl (.inl hc)))
  | some handle =>
      simp only [searchBase, String.toList_append, List.mem_append] at hc
      rcases hc with ((hc | hc) | hc) | hc
      · exact hplain c (.inl (.inl (.inr hc)))
      · exact hplain c (.inl (.inr hc))
      · rcases Platform.isDecimal_or_slash_of_isHandle hscope hc with rfl | hdecimal
        · exact ⟨by decide, by decide⟩
        · constructor <;> rintro rfl <;>
            exact absurd (r.py.isDigit_of_isDecimal _ (by decide) hdecimal) (by decide)
      · exact hplain c (.inr hc)

/-- A URL that was requested has the offset it was made with. -/
theorem currentSearchOffset_requested {version : String} {found : ℕ}
    (hscope : scope.all r.py.isHandle = true) (hoffset : offset ≤ maxCursorOffset)
    (h : r.py.currentSearchOffset
      (r.py.requestUrl (searchBase scope) (searchParams query pageSize offset version)) =
        .ok found) : found = offset := by
  obtain ⟨values, hvalues, h⟩ := ok_of_bind h
  obtain ⟨parts, hparts, hvalues⟩ := ok_of_bind hvalues
  have hsplit : r.py.urlsplit (r.py.requestUrl (searchBase scope)
      (searchParams query pageSize offset version)) = some parts := by
    unfold WebPlatform.split at hparts
    split at hparts
    · cases hparts
    · next hsome => rw [hsome, Except.ok.inj hparts]
  have hquery := r.py.parseQs_requestUrl _ _ parts (searchBase_plain hscope)
    (by simp [searchParams]) hsplit
  obtain rfl : values = [toString offset] := by
    rw [← Except.ok.inj hvalues, hquery]
    rfl
  exact Except.ok.inj (h.symm.trans (boundedSearchInteger_toString hoffset))

/-- A page in the JSPUI layout: the URL it was got from has the offset where it begins, and without
a redirect that is the one of the cursor. -/
theorem searchVisit_jspui (h : r.searchVisit s query pageSize scopeHandle cursor = .ok visit)
    (hlayout : visit.isJspui r = true) :
    r.py.currentSearchOffset visit.landed = .ok (visit.start r) ∧
      (visit.StartKept r ↔ visit.start r = visit.offset) := by
  obtain ⟨normalizedQuery, scope, hscope, h⟩ := searchVisit_ok h
  obtain ⟨hoffset, ⟨version, hrequested⟩, page, expired, hpage, -, -⟩ := visitResults_ok h
  obtain ⟨hcurrent, -⟩ := WebPlatform.parseSearchResults_jspui rfl (List.isEmpty_iff.1 hlayout) hpage
  have hcurrent : r.py.currentSearchOffset visit.landed = .ok (visit.start r) := hcurrent
  refine ⟨hcurrent, fun hkept => ?_, fun hstart _ => hstart ▸ hcurrent⟩
  by_cases hlanded : visit.landed = visit.requested
  · rw [hlanded, hrequested] at hcurrent
    exact currentSearchOffset_requested hscope (offset_le_of_cursorOffset hoffset) hcurrent
  · exact Except.ok.inj (hcurrent.symm.trans (hkept hlanded))

/-! ## Chains of calls -/

/-- A cursor has this offset, wherever it is accepted. -/
def CarriesOffset (r : NplgRepository) (cursor : Option String) (offset : ℕ) : Prop :=
  ∀ s query scope pageSize found,
    r.cursorOffset s query scope pageSize cursor = .ok found → found = offset

theorem carriesOffset_none : r.CarriesOffset none 0 := fun _ _ _ _ _ h => (Except.ok.inj h).symm

/-- The cursor of the next page has the offset of the next page. -/
theorem carriesOffset_next {nextOffset : Option ℕ} {token : String}
    (h : r.nextCursor s query scope pageSize nextOffset = .ok (some token)) :
    ∃ next, nextOffset = some next ∧ r.CarriesOffset (some token) next := by
  cases nextOffset with
  | none => cases h
  | some next =>
      refine ⟨next, rfl, fun s' query' scope' pageSize' found hfound => ?_⟩
      obtain ⟨encoded, hencoded, rfl⟩ := ok_of_map h |>.imp fun _ h => h.imp_right Option.some.inj
      cases hencode : r.codec.encodeCursor r.cursorSigningSecret next query scope pageSize s.now with
      | error error =>
          rw [hencode] at hencoded
          cases hencoded
      | ok token =>
          rw [hencode] at hencoded
          obtain rfl := Except.ok.inj hencoded
          rw [cursorOffset] at hfound
          cases hdecode : r.codec.decodeCursor r.cursorSigningSecret token query' scope' pageSize'
              s'.now with
          | error error =>
              rw [hdecode] at hfound
              cases hfound
          | ok opened =>
              rw [hdecode] at hfound
              obtain rfl := Except.ok.inj hfound
              exact (CursorCodec.decodeCursor_encodeCursor hencode hdecode).1

/-- The pages tile the results from an offset on: each begins where the one before ends. -/
inductive Tiles (r : NplgRepository) : ℕ → List Visit → Prop where
  | nil {offset : ℕ} : Tiles r offset []
  | cons {offset : ℕ} {visit : Visit} {rest : List Visit} :
      visit.start r = offset → visit.offset = offset → offset ≤ maxCursorOffset →
      (rest ≠ [] → 0 < visit.page.items.length) →
      Tiles r (offset + visit.page.items.length) rest → Tiles r offset (visit :: rest)

/-- The pages a client gets tile the results, as long as they are JSPUI pages and no redirect has
changed the offset. -/
theorem tiles_chain {situations : List Situation} (hcursor : r.CarriesOffset cursor offset)
    (hkept : ∀ visit ∈ (r.chain query pageSize scopeHandle cursor situations).takeWhile
      (Visit.isJspui r), visit.StartKept r) :
    Tiles r offset ((r.chain query pageSize scopeHandle cursor situations).takeWhile
      (Visit.isJspui r)) := by
  induction situations generalizing cursor offset with
  | nil => exact .nil
  | cons s situations ih =>
      cases hvisit : r.searchVisit s query pageSize scopeHandle cursor with
      | error raised =>
          rw [chain, hvisit]
          exact .nil
      | ok visit =>
          rw [chain, hvisit] at hkept ⊢
          by_cases hlayout : visit.isJspui r = true
          · rw [List.takeWhile_cons_of_pos hlayout] at hkept ⊢
            obtain ⟨normalizedQuery, scope, -, hresults⟩ := searchVisit_ok hvisit
            obtain ⟨hoffset, -, page, expired, hpage, hitems, hnext⟩ := visitResults_ok hresults
            obtain ⟨-, hfollows⟩ := WebPlatform.parseSearchResults_jspui rfl
              (List.isEmpty_iff.1 hlayout) hpage
            have hstart := (searchVisit_jspui hvisit hlayout).2.1 (hkept _ (List.mem_cons_self ..))
            have hcarried := hcursor _ _ _ _ _ hoffset
            have hle := offset_le_of_cursorOffset hoffset
            cases htoken : visit.page.nextCursor with
            | none =>
                rw [htoken] at hkept
                exact .cons (hstart.trans hcarried) hcarried (hcarried ▸ hle) (fun h => absurd rfl h)
                  .nil
            | some token =>
                rw [htoken] at hkept hnext
                obtain ⟨next, hsome, hcarries⟩ := carriesOffset_next hnext
                obtain ⟨hsum, hlow, -⟩ := hfollows next hsome
                have hsum : next = offset + visit.page.items.length := by
                  rw [hsum, hitems, ← hcarried, ← hstart]
                  rfl
                have hlow : offset < next := by
                  rw [← hcarried, ← hstart]
                  exact hlow
                refine .cons (hstart.trans hcarried) hcarried (hcarried ▸ hle) (fun _ => by omega) ?_
                exact ih (hsum ▸ hcarries) fun visit hmem => hkept visit (List.mem_cons_of_mem _ hmem)
          · rw [List.takeWhile_cons_of_neg hlayout]
            exact .nil

namespace Tiles

variable {visits : List Visit}

theorem first (h : Tiles r offset visits) : ∀ visit ∈ visits.head?, visit.start r = offset := by
  cases h with
  | nil => exact nofun
  | cons hstart => exact fun visit hvisit => Option.some.inj hvisit ▸ hstart

theorem le_start (h : Tiles r offset visits) : ∀ visit ∈ visits, offset ≤ visit.start r := by
  induction h with
  | nil => exact nofun
  | cons hstart _ _ _ _ ih =>
      intro visit hvisit
      rcases List.mem_cons.1 hvisit with rfl | hvisit
      · exact hstart.ge
      · exact Nat.le_trans (Nat.le_add_right _ _) (ih visit hvisit)

theorem increasing (h : Tiles r offset visits) :
    visits.Pairwise fun visit next => visit.start r < next.start r := by
  induction h with
  | nil => exact .nil
  | cons hstart _ _ hitems hrest ih =>
      refine List.pairwise_cons.2 ⟨fun next hnext => ?_, ih⟩
      have hle := hrest.le_start next hnext
      have hpos := hitems (List.ne_nil_of_mem hnext)
      omega

theorem contiguous (h : Tiles r offset visits) :
    visits.IsChain fun visit next => next.start r = visit.start r + visit.page.items.length := by
  induction h with
  | nil => exact .nil
  | cons hstart _ _ _ hrest ih =>
      cases hrest with
      | nil => exact .singleton _
      | cons hnext _ _ _ _ => exact .cons_cons (by rw [hnext, hstart]) ih

theorem length_le (h : Tiles r offset visits) : visits ≠ [] →
    visits.length + offset ≤ maxCursorOffset + 1 := by
  induction h with
  | nil => exact fun hne => absurd rfl hne
  | @cons offset visit rest _ _ hle hitems _ ih =>
      intro _
      rw [List.length_cons]
      by_cases hrest : rest = []
      · rw [hrest, List.length_nil]
        omega
      · have hlength := ih hrest
        have hpos := hitems hrest
        omega

theorem starts (h : Tiles r offset visits) :
    ∀ visit ∈ visits, visit.start r = visit.offset ∧ visit.start r ≤ maxCursorOffset := by
  induction h with
  | nil => exact nofun
  | cons hstart hoffset hle _ _ ih =>
      intro visit hvisit
      rcases List.mem_cons.1 hvisit with rfl | hvisit
      · exact ⟨hstart.trans hoffset.symm, hstart.le.trans hle⟩
      · exact ih visit hvisit

end Tiles

/-- A client goes on as long as there is a cursor. -/
theorem chain_cons {situations : List Situation} {next : String}
    (h : r.searchVisit s query pageSize scopeHandle cursor = .ok visit)
    (hnext : visit.page.nextCursor = some next) :
    r.chain query pageSize scopeHandle cursor (s :: situations) =
      visit :: r.chain query pageSize scopeHandle (some next) situations := by
  rw [chain, h]
  simp only [hnext]

/-- The pages of a client come from calls. -/
theorem mem_chain {situations : List Situation}
    (h : visit ∈ r.chain query pageSize scopeHandle cursor situations) :
    ∃ s cursor, r.searchVisit s query pageSize scopeHandle cursor = .ok visit := by
  induction situations generalizing cursor with
  | nil => cases h
  | cons s situations ih =>
      cases hvisit : r.searchVisit s query pageSize scopeHandle cursor with
      | error raised =>
          rw [chain, hvisit] at h
          cases h
      | ok found =>
          rw [chain, hvisit] at h
          rcases List.mem_cons.1 h with rfl | h
          · exact ⟨s, cursor, hvisit⟩
          · cases htoken : found.page.nextCursor with
            | none =>
                rw [htoken] at h
                cases h
            | some token =>
                rw [htoken] at h
                exact ih h

/-- **When pagination works.** As long as the pages are in the JSPUI layout, whatever the upstream
answers, the pages that a client gets follow one another exactly if no redirect leads to a URL with
another offset than the one that was requested. -/
theorem pages_follow_iff (r : NplgRepository) (query : String) (pageSize : ℕ)
    (scopeHandle : Option String) (situations : List Situation) :
    r.Paginated ((r.chain query pageSize scopeHandle none situations).takeWhile (Visit.isJspui r)) ↔
      ∀ visit ∈ (r.chain query pageSize scopeHandle none situations).takeWhile (Visit.isJspui r),
        visit.StartKept r := by
  constructor
  · intro h visit hvisit
    obtain ⟨s, cursor, hcall⟩ := mem_chain ((List.takeWhile_sublist _).subset hvisit)
    have hlayout : visit.isJspui r = true := List.all_eq_true.1 List.all_takeWhile visit hvisit
    exact (searchVisit_jspui hcall hlayout).2.2 (h.starts visit hvisit)
  · intro h
    have htiles := tiles_chain carriesOffset_none h
    refine ⟨fun visit hvisit => (htiles.starts visit hvisit).1, htiles.first, htiles.contiguous,
      htiles.increasing, fun visit hvisit => (htiles.starts visit hvisit).2, ?_⟩
    · by_cases hne : (r.chain query pageSize scopeHandle none situations).takeWhile
          (Visit.isJspui r) = []
      · rw [hne]
        exact Nat.zero_le _
      · exact htiles.length_le hne

end NplgRepository

/-! ## A redirect that loses the offset -/

/-- `urlsplit`, for URLs and paths of plain characters. -/
def plainSplit (url : String) : Option SplitUrl :=
  let front := url.toList.takeWhile (· ≠ '?')
  let query := String.ofList ((url.toList.dropWhile (· ≠ '?')).drop 1)
  if url = "https://[" then none
  else if Text.startsWith url "https://" then
    let host := (front.drop 8).takeWhile (· ≠ '/')
    let path := (front.drop 8).dropWhile (· ≠ '/')
    some ⟨"https", String.ofList host, String.ofList path, query, "", some (String.ofList host), none,
      none, some none⟩
  else some ⟨"", "", String.ofList front, query, "", none, none, none, some none⟩

/-- `parse_qs`, for queries of plain characters in which no name is repeated. -/
def plainQuery (query : String) : List (String × List String) :=
  ((query.toList.splitOn '&').filter (· ≠ [])).map fun field =>
    (String.ofList (field.takeWhile (· ≠ '=')),
      [String.ofList ((field.dropWhile (· ≠ '=')).drop 1)])

/-- The URL of the search for one result from an offset on. -/
def iveriaUrl (offset : ℕ) : String :=
  simpleSearchUrl ++ "?query=iveria&rpp=1&start=" ++ toString offset ++ "&envfv=ex20251112"

/-- The parameters of that search. -/
def iveriaParams (offset : ℕ) : List (String × String) :=
  NplgRepository.searchParams "iveria" 1 offset "ex20251112"

theorem plainQuery_iveria {offset : ℕ} {parts : SplitUrl} (h : offset = 0 ∨ offset = 1)
    (hparts : plainSplit (iveriaUrl offset) = some parts) :
    plainQuery parts.query = (iveriaParams offset).map fun item => (item.1, [item.2]) := by
  rcases h with rfl | rfl
  · have hsome : (plainSplit (iveriaUrl 0)).map (fun parts => plainQuery parts.query) = some ((iveriaParams 0).map fun item => (item.1, [item.2])) := by decide +kernel
    rw [hparts] at hsome
    exact Option.some.inj hsome
  · have hsome : (plainSplit (iveriaUrl 1)).map (fun parts => plainQuery parts.query) = some ((iveriaParams 1).map fun item => (item.1, [item.2])) := by decide +kernel
    rw [hparts] at hsome
    exact Option.some.inj hsome

/-- The libraries as far as this search depends on them. -/
def iveriaPlatform : WebPlatform where
  toPlatform := { asciiPlatform with
    urlsplit := plainSplit
    parseQs := plainQuery }
  isWord c := c.isAlphanum || c == '_'
  lower s := String.ofList (s.toList.map Char.toLower)
  readInteger _ := none
  urljoin base url := some (if Text.startsWith url "/" then nplgOrigin ++ url else url)
  requestUrl base params :=
    if base = simpleSearchUrl ∧ params = iveriaParams 0 then iveriaUrl 0
    else if base = simpleSearchUrl ∧ params = iveriaParams 1 then iveriaUrl 1
    else "https://["
  isDigit_of_isDecimal _ _ h := h
  parseQs_requestUrl base params parts _ _ h := by
    dsimp only at h
    split at h
    next hasked => rw [hasked.2]; exact plainQuery_iveria (.inl rfl) h
    next =>
      split at h
      next hasked => rw [hasked.2]; exact plainQuery_iveria (.inr rfl) h
      next => 
        have hnone : plainSplit "https://[" = none := by decide +kernel
        exact absurd (h.symm.trans hnone) (by simp)

/-- An element without a slash. -/
def tagged (tag : String) (attrs : List (String × String)) (contents : List (HtmlNode (Option String))) :
    HtmlNode (Option String) :=
  .element tag false (attrs.map fun item => (item.1, some item.2)) contents

/-- The first of two results, as the repository shows it. -/
def iveriaPage : HtmlPage where
  nodes :=
    [tagged "div" [("class", "discovery-result-pagination")]
      [tagged "div" [("class", "alert")] [.text "Results 1-1 of 2 (Search time: 0.01 seconds)."],
        tagged "a" [("href", "/simple-search?query=iveria&rpp=1&start=1")] [.text "next"]],
    tagged "div" [("class", "discovery-result-results")]
      [tagged "table" [("summary", jspuiSearchTableSummary)]
        [tagged "tr" []
          [tagged "th" [("id", "t1")] [.text "Issue Date"], tagged "th" [("id", "t2")] [.text "Title"],
            tagged "th" [("id", "t3")] [.text "Author(s)"]],
        tagged "tr" []
          [tagged "td" [("headers", "t1")] [.text "1877"],
            tagged "td" [("headers", "t2")]
              [tagged "a" [("href", "/handle/1234/560975")] [.text "Iveria"]],
            tagged "td" [("headers", "t3")] [.text "-"]]]]]
  bytes := 700
  wellFormed := by decide +kernel

def soupLists (tag key : String) : Bool :=
  key == "class" || (key == "headers" && (tag == "td" || tag == "th"))

def iveriaLibrary : HtmlLibrary := ⟨soupLists, fun _ => ["html", "body"]⟩


/-- The digest of the query. -/
def iveriaHash : String := "8ea90fc989a68e8b7ef903c5e1a4801e07c1357a10a3faacc8ab77915d94e0b8"

/-- The identifier of the key is short enough. -/
theorem cursorKeyId_bounded : isBoundedKeyId cursorKeyId.toList = true := by decide

/-- The cursor of the second result. -/
def iveriaCursor : CursorV1 where
  keyId := cursorKeyId
  queryHash := iveriaHash
  scopeHandle := none
  offset := 1
  pageSize := 1
  issuedAt := 0
  expiresAt := 0 + defaultCursorTtl
  keyId_bounded := cursorKeyId_bounded
  queryHash_sha256 := by decide +kernel
  scopeHandle_canonical := rfl
  offset_le := by decide
  pageSize_bounded := by decide
  lifetime := by decide

/-- The text of that cursor. -/
def iveriaPayload : List UInt8 :=
  CursorCodec.bytes ("\x7b\"version\":1,\"key_id\":\"cursor-v1\",\"query_hash\":\"" ++ iveriaHash ++
    "\",\"scope_handle\":null,\"offset\":1,\"page_size\":1,\"issued_at\":\"1970-01-01T00:00:00Z\"," ++
    "\"expires_at\":\"1970-01-01T00:15:00Z\"\x7d").toList

/-- The digests and the codec as far as this cursor depends on them, for a secret of zeros. -/
def iveriaCodec : CursorCodec where
  sha256Hex _ := iveriaHash
  hmac _ message :=
    if message = CursorCodec.bytes "nplg-mcp:cursor-signing:v1".toList then
      [238, 212, 47, 56, 46, 17, 36, 115, 144, 126, 23, 83, 178, 144, 238, 244, 131, 99, 203, 10, 97,
        211, 172, 184, 10, 118, 15, 67, 175, 159, 108, 79]
    else
      [247, 47, 31, 10, 91, 113, 250, 123, 139, 52, 135, 159, 196, 66, 174, 39, 171, 65, 179, 113,
        212, 50, 191, 119, 128, 1, 190, 75, 40, 179, 89, 239]
  dump cursor := if cursor = iveriaCursor then iveriaPayload else []
  load payload := if payload = iveriaPayload then some iveriaCursor else none
  load_dump cursor found h := by
    have hne : [] ≠ iveriaPayload := by decide +kernel
    split at h <;> grind

/-- The repository with these libraries. -/
def iveriaRepository : NplgRepository where
  py := iveriaPlatform
  lib := iveriaLibrary
  codec := iveriaCodec
  cursorSigningSecret := List.replicate 32 0

/-- The upstream redirects the request for the second result to the first one. -/
def lostStart : Situation where
  version := ⟨some "ex20251112", 1⟩
  reply _ url := .response (if url = iveriaUrl 1 then
      { status := 302
        location := some "/simple-search?query=iveria&rpp=1&start=0&envfv=ex20251112" }
    else { status := 200, contentType := "text/html", chunks := [700], text := some iveriaPage })
  executor _ := none
  expired _ _ := false
  now := 0

theorem iveriaPage_withinLimits : iveriaPage.WithinLimits := by
  refine ⟨?_, ?_, ?_, ?_, ?_, ?_, ?_, ?_, ?_⟩ <;> decide +kernel

theorem checkedSoup_iveria {url : String} {expired : ℕ → Bool}
    (h : ∀ reading, expired reading = false) :
    WebPlatform.checkedSoup iveriaLibrary iveriaPage url expired =
      .ok (documentTag (iveriaPage.soup soupLists ["html", "body"])) := by
  have hvalid := @HtmlPage.validateHtmlTree_eq iveriaPage url soupLists ["html", "body"]
    iveriaPage_withinLimits (List.Sublist.refl _)
  simp only [WebPlatform.checkedSoup, iveriaLibrary,
    HtmlPage.preflightHtml_eq iveriaPage_withinLimits h, hvalid, requirePreflightAgreement, raising,
    bind, Except.bind]
  rw [if_pos (by decide +kernel)]
  rfl

/-- What is returned for the first result. -/
def iveriaResult : SearchPage where
  items := [⟨"1234/560975", "https://dspace.nplg.gov.ge/handle/1234/560975", "Iveria", some "1877",
    []⟩]
  total := 2
  nextOffset := some 1
  sourceUrl := iveriaUrl 0

theorem parse_iveria {expired : ℕ → Bool} (h : ∀ reading, expired reading = false) :
    iveriaPlatform.parseSearchResults iveriaLibrary iveriaPage (iveriaUrl 0) 1 expired =
      .ok iveriaResult := by
  rw [WebPlatform.parseSearchResults, if_neg (by decide)]
  simp only [checkedSoup_iveria h]
  decide +kernel

theorem getText_iveria {url : String} (h : url = iveriaUrl 0 ∨ url = iveriaUrl 1) :
    ∃ requests, iveriaRepository.getText lostStart 0 url =
      (.ok (iveriaPage, iveriaUrl 0), requests) := by
  have hne : iveriaUrl 0 ≠ iveriaUrl 1 := by decide +kernel
  have hvalid : iveriaRepository.py.validateUpstreamUrl url = .ok url := by
    rcases h with rfl | rfl <;> decide +kernel
  have hgot : iveriaRepository.getText lostStart 0 url =
      iveriaRepository.getTextFrom lostStart 3 0 url := by
    simp only [NplgRepository.getText, hvalid]
    rfl
  have hreply : ∀ requests, lostStart.reply requests (iveriaUrl 0) = .response
      { status := 200, contentType := "text/html", chunks := [700], text := some iveriaPage } :=
    fun _ => congrArg Reply.response (if_neg hne)
  have hresponse : iveriaRepository.readResponse
      { status := 200, contentType := "text/html", chunks := [700], text := some iveriaPage } =
        .ok iveriaPage := by
    have hstatus : validateResponseStatus 200 = .ok () := by decide
    have hencoding : iveriaRepository.responseEncoding
        { status := 200, contentType := "text/html", chunks := [700], text := some iveriaPage } =
          .ok () := by
      decide +kernel
    have htype : iveriaRepository.validateContentType
        { status := 200, contentType := "text/html", chunks := [700], text := some iveriaPage } =
          .ok () := by
      decide +kernel
    simp only [NplgRepository.readResponse, hstatus, hencoding, htype,
      NplgRepository.readResponseText, bind, Except.bind]
    rw [if_neg (by decide)]
  have hread : ∀ requests redirects,
      iveriaRepository.getTextFrom lostStart redirects requests (iveriaUrl 0) =
        (.ok (iveriaPage, iveriaUrl 0), requests + 1) := by
    intro requests redirects
    rw [NplgRepository.getTextFrom_response (hreply requests) (by decide), hresponse]
    rfl
  rcases h with rfl | rfl
  · exact ⟨1, hgot.trans (hread 0 3)⟩
  · have hmoved := @NplgRepository.getTextFrom_redirect iveriaRepository lostStart _ 2 0 _ (iveriaUrl 0)
      (congrArg Reply.response (if_pos rfl)) (by decide) (by decide +kernel)
    exact ⟨2, (hgot.trans hmoved).trans (hread 1 2)⟩

/-- The token for the second result. -/
def iveriaToken : String := iveriaCodec.signCursor (List.replicate 32 0) iveriaCursor

theorem decode_iveria :
    iveriaRepository.cursorOffset lostStart "iveria" none 1 (some iveriaToken) = .ok 1 := by
  have hload : iveriaCodec.load (iveriaCodec.dump iveriaCursor) = some iveriaCursor := by
    simp only [iveriaCodec, if_true]
  have hsigned : iveriaCodec.signedCursor (List.replicate 32 0) iveriaToken = some iveriaCursor :=
    CursorCodec.signedCursor_signCursor.trans hload
  have hpayload : iveriaPayload.length ≤ 256 := by decide +kernel
  have hdump : iveriaCodec.dump iveriaCursor = iveriaPayload := by
    simp only [iveriaCodec, if_true]
  have hdigest : ∀ key message, (iveriaCodec.hmac key message).length = 32 := by
    intro key message
    simp only [iveriaCodec]
    split <;> rfl
  have hshort : ¬ (iveriaToken = "" ∨
      (CursorCodec.bytes iveriaToken.toList).length > maxCursorTokenBytes) := by
    have hlength := @CursorCodec.length_bytes_signCursor iveriaCodec (List.replicate 32 0) iveriaCursor
    rw [hdump, CursorCodec.signature, hdigest] at hlength
    rintro (hempty | hlong)
    · exact CursorCodec.signCursor_ne_empty hempty
    · simp only [iveriaToken, maxCursorTokenBytes] at hlong
      omega
  have hverify : iveriaCodec.verifyCursor (List.replicate 32 0) iveriaToken "iveria" none 1 0 =
      .ok iveriaCursor :=
    CursorCodec.verifyCursor_eq hshort hsigned rfl (by decide) ⟨rfl, rfl, rfl⟩
  simp only [NplgRepository.cursorOffset, CursorCodec.decodeCursor]
  exact congrArg (fun opened => raising (Except.map CursorV1.offset opened)) hverify

/-- What a call returns for an offset. -/
def iveriaVisit (offset : ℕ) : NplgRepository.Visit where
  offset := offset
  requested := iveriaUrl offset
  landed := iveriaUrl 0
  markup := iveriaPage
  page := { iveriaResult with nextCursor := some iveriaToken }

theorem fetchResults_iveria {offset : ℕ} (h : offset = 0 ∨ offset = 1) :
    ∃ requests, iveriaRepository.fetchResults lostStart "iveria" none 1 offset =
      (.ok (iveriaUrl offset, iveriaPage, iveriaUrl 0), requests) := by
  have hurl : iveriaUrl offset = iveriaUrl 0 ∨ iveriaUrl offset = iveriaUrl 1 :=
    h.imp (congrArg iveriaUrl) (congrArg iveriaUrl)
  have hrequest : iveriaRepository.py.requestUrl (NplgRepository.searchBase none)
      (NplgRepository.searchParams "iveria" 1 offset "ex20251112") = iveriaUrl offset := by
    rcases h with rfl | rfl <;> decide +kernel
  obtain ⟨requests, hgot⟩ := getText_iveria hurl
  refine ⟨requests, ?_⟩
  rw [← hrequest] at hgot ⊢
  exact NplgRepository.fetchResults_eq rfl hgot

theorem searchVisit_iveria {offset : ℕ} {cursor : Option String} (h : offset = 0 ∨ offset = 1)
    (hcursor : iveriaRepository.cursorOffset lostStart "iveria" none 1 cursor = .ok offset) :
    iveriaRepository.searchVisit lostStart "iveria" 1 none cursor = .ok (iveriaVisit offset) := by
  obtain ⟨requests, hfetched⟩ := fetchResults_iveria h
  have hparsed : NplgRepository.parse lostStart requests (iveriaRepository.py.parseSearchResults
      iveriaRepository.lib iveriaPage (iveriaUrl 0) 1) = .ok iveriaResult := by
    rw [NplgRepository.parse]
    exact parse_iveria fun _ => rfl
  have hencoded : iveriaCodec.encodeCursor (List.replicate 32 0) 1 "iveria" none 1 0 =
      .ok iveriaToken :=
    @CursorCodec.encodeCursor_eq iveriaCodec (List.replicate 32 0) iveriaCursor "iveria" rfl rfl rfl
  have hnext : iveriaRepository.nextCursor lostStart "iveria" none 1 iveriaResult.nextOffset =
      .ok (some iveriaToken) :=
    congrArg (fun encoded => (raising encoded).map some) hencoded
  have hquery : NplgRepository.canonicalSearchQuery "iveria" = "iveria" := by decide +kernel
  rw [NplgRepository.searchVisit]
  simp only [hquery]
  rw [if_neg (by decide +kernel), if_neg (by decide)]
  exact NplgRepository.visitResults_eq hcursor hfetched hparsed hnext

/-- The client gets the first result again and again. -/
theorem pages_repeated :
    ¬ iveriaRepository.Paginated
      ((iveriaRepository.chain "iveria" 1 none none [lostStart, lostStart]).takeWhile
        (NplgRepository.Visit.isJspui iveriaRepository)) := by
  have hnone : iveriaRepository.cursorOffset lostStart "iveria" none 1 none = .ok 0 := by
    rw [NplgRepository.cursorOffset]
  have hfirst := searchVisit_iveria (.inl rfl) hnone
  have hsecond := searchVisit_iveria (.inr rfl) decode_iveria
  have hnext : ∀ offset, (iveriaVisit offset).page.nextCursor = some iveriaToken := by
    intro offset
    rw [iveriaVisit]
  have hlayout : ∀ offset, (iveriaVisit offset).isJspui iveriaRepository = true := by
    have hpage : (xmluiContainers (documentTag
        (iveriaPage.soup soupLists ["html", "body"]))).isEmpty = true := by
      decide +kernel
    intro offset
    rw [NplgRepository.Visit.isJspui, NplgRepository.Visit.soup]
    exact hpage
  have hoffset : iveriaRepository.py.currentSearchOffset (iveriaVisit 1).landed = .ok 0 := by
    decide +kernel
  have hzero : (iveriaVisit 1).start iveriaRepository = 0 :=
    (Except.ok.inj (hoffset.symm.trans (NplgRepository.searchVisit_jspui hsecond (hlayout 1)).1)).symm
  intro h
  rw [NplgRepository.chain_cons hfirst (hnext 0), NplgRepository.chain_cons hsecond (hnext 1),
    List.takeWhile_cons_of_pos (hlayout 0), List.takeWhile_cons_of_pos (hlayout 1)] at h
  have hone := h.starts (iveriaVisit 1) (List.mem_cons_of_mem _ (List.mem_cons_self ..))
  rw [hzero] at hone
  exact absurd hone (by decide)

end NplgMcp
