import NplgMcp.Search.Cursor

/-!
# Searching the repository

`NplgRepository.search` of `repository.py` with the requests it makes. What the upstream answers, and
what the guard, the resolver, the clocks and the parser process let through, is a `Situation`; it may
be another one at every call.
-/

open Library

namespace NplgMcp

/-- What is read of a response: the status, the headers, the sizes of the chunks of the body, and the
decoded page, if it can be decoded. -/
structure Response where
  status : ℕ
  location : Option String := none
  contentEncoding : String := ""
  contentLength : Option String := none
  contentType : String := ""
  chunks : List ℕ := []
  text : Option HtmlPage := none

/-- What comes of a request: a failure of the transport or of what has to let it through, or a
response. -/
inductive Reply where
  | refused (error : AppError)
  | response (response : Response)

/-- `NplgRepository`, as far as its configuration is read, and the libraries it uses. -/
structure NplgRepository where
  py : WebPlatform
  lib : HtmlLibrary
  codec : CursorCodec
  cursorSigningSecret : List UInt8
  maxRedirects : ℕ := 3
  maxMetadataBytes : ℕ := 10 * 1024 * 1024

/-- `_search_version` and `_search_version_generation`. -/
structure SearchVersion where
  marker : Option String := none
  generation : ℕ := 0
  deriving DecidableEq, Repr

/-- The surroundings of one call: the version found so far, what each request gets, what the parser
process does with each parse before the parser's own result, the parser's clock, and the cursor
clock. -/
structure Situation where
  version : SearchVersion
  reply : ℕ → String → Reply
  executor : ℕ → Option AppError
  expired : ℕ → ℕ → Bool
  now : ℤ

/-- An `AppError` that `repository.py` raises. -/
def repositoryError (code : ErrorCode) (message : String) (httpStatus : ℕ)
    (safeDetails : Option (List (String × String)) := none) : Raised :=
  .app { code, message, httpStatus, safeDetails }

/-- `_REDIRECT_STATUSES`. -/
def redirectStatuses : List ℕ := [301, 302, 303, 307, 308]

/-- `_validate_response_status`. -/
def validateResponseStatus (status : ℕ) : Except Raised Unit :=
  if status = 404 then
    .error (repositoryError .notFound "The requested repository item was not found." 404)
  else if status = 401 ∨ status = 403 then
    .error (repositoryError .restricted
      "The requested repository item is not publicly accessible." 403)
  else if status = 429 then
    .error (repositoryError .rateLimited "The repository is temporarily rate limiting requests." 503)
  else if status < 200 ∨ status ≥ 300 then
    .error (repositoryError .upstreamFailure "The repository returned an unsuccessful response." 502
      (some [("upstream_status", toString status)]))
  else .ok ()

namespace NplgRepository

variable (r : NplgRepository)

/-- `_validate_content_length`. -/
def validateContentLength (contentLength : String) : Except Raised Unit :=
  match r.py.readInteger contentLength with
  | none =>
    .error (repositoryError .upstreamFailure "The repository returned an invalid Content-Length." 502)
  | some declared =>
    if declared < 0 then
      .error (repositoryError .upstreamFailure "The repository returned an invalid Content-Length." 502)
    else if declared > r.maxMetadataBytes then
      .error (repositoryError .upstreamFailure
        "The repository metadata response was unexpectedly large." 502)
    else .ok ()

/-- `_response_encoding`; which encoding it is matters to the decoded text only. -/
def responseEncoding (response : Response) : Except Raised Unit :=
  if ¬ ["", "identity"].contains (r.py.lower (Text.strip response.contentEncoding)) then
    .error (repositoryError .upstreamFailure
      "The repository returned unsupported content encoding." 502)
  else
    match response.contentLength with
    | none => .ok ()
    | some contentLength => if contentLength = "" then .ok () else r.validateContentLength contentLength

/-- `_validate_content_type`, for the types of HTML pages. -/
def validateContentType (response : Response) : Except Raised Unit :=
  let contentType := r.py.lower (Text.strip
    (String.ofList (response.contentType.toList.takeWhile (· ≠ ';'))))
  let accepted := [("text/html", "+html"), ("application/xhtml+xml", "+xhtml+xml")]
  if contentType ≠ "" ∧ ¬ accepted.any (fun item =>
      contentType == item.1 || item.2.toList.isSuffixOf contentType.toList) then
    .error (repositoryError .upstreamFailure
      "The repository returned an unexpected metadata content type." 502
      (some [("content_type", contentType)]))
  else .ok ()

/-- `_read_response_text`. -/
def readResponseText (response : Response) : Except Raised HtmlPage :=
  if response.chunks.sum > r.maxMetadataBytes then
    .error (repositoryError .upstreamFailure
      "The repository metadata response was unexpectedly large." 502)
  else
    match response.text with
    | none =>
      .error (repositoryError .upstreamFailure "The repository returned undecodable metadata." 502)
    | some page => .ok page

/-- What is read of a response that is no redirect. -/
def readResponse (response : Response) : Except Raised HtmlPage := do
  let _ ← validateResponseStatus response.status
  let _ ← r.responseEncoding response
  let _ ← r.validateContentType response
  r.readResponseText response

/-- `_redirect_target`, for a redirect that may still be followed. -/
def redirectTarget (response : Response) (current : String) : Except Raised String :=
  match response.location with
  | none =>
    .error (repositoryError .upstreamFailure "The repository returned an incomplete redirect." 502)
  | some location =>
    if location = "" then
      .error (repositoryError .upstreamFailure "The repository returned an incomplete redirect." 502)
    else do r.py.validateUpstreamUrl (← r.py.join current location)

/-- The loop of `_get_text_within_deadline`, in which `redirects` more redirects are followed: the
page with the URL it was got from, and how many requests have been made. -/
def getTextFrom (s : Situation) : ℕ → ℕ → String → Except Raised (HtmlPage × String) × ℕ
  | redirects, requests, current =>
    match s.reply requests current with
    | .refused error => (.error (.app error), requests + 1)
    | .response response =>
      if redirectStatuses.contains response.status then
        match redirects with
        | 0 =>
          (.error (repositoryError .upstreamFailure "The repository returned too many redirects." 502),
            requests + 1)
        | redirects + 1 =>
          match r.redirectTarget response current with
          | .error raised => (.error raised, requests + 1)
          | .ok target => getTextFrom s redirects (requests + 1) target
      else ((r.readResponse response).map fun page => (page, current), requests + 1)

/-- `_get_text`. -/
def getText (s : Situation) (requests : ℕ) (url : String) :
    Except Raised (HtmlPage × String) × ℕ :=
  match r.py.validateUpstreamUrl url with
  | .error raised => (.error raised, requests)
  | .ok current => r.getTextFrom s r.maxRedirects requests current

/-- `_parse_within_deadline`: what the parser process refuses, or else what the parser returns. -/
def parse {α : Type} (s : Situation) (requests : ℕ) (parser : (ℕ → Bool) → Except Raised α) :
    Except Raised α :=
  match s.executor requests with
  | some error => .error (.app error)
  | none => parser (s.expired requests)

/-- The discovery in `_get_search_version`. -/
def discoverSearchVersion (s : Situation) (requests : ℕ) : Except Raised String × ℕ :=
  let (fetched, requests) := r.getText s requests simpleSearchUrl
  (do
    let (markup, finalUrl) ← fetched
    if finalUrl ≠ simpleSearchUrl then
      throw (repositoryError .upstreamFailure "The repository search discovery route changed." 502)
    parse s requests (WebPlatform.parseSearchVersion r.lib markup finalUrl), requests)

/-- `_get_search_version`: what is known is used unless it is stale. -/
def getSearchVersion (s : Situation) (version : SearchVersion) (stale : Option ℕ) (requests : ℕ) :
    Except Raised (String × SearchVersion) × ℕ :=
  match version.marker with
  | some marker =>
    if stale = none ∨ stale ≠ some version.generation then (.ok (marker, version), requests)
    else
      let (found, requests) := r.discoverSearchVersion s requests
      (found.map fun marker => (marker, ⟨some marker, version.generation + 1⟩), requests)
  | none =>
    let (found, requests) := r.discoverSearchVersion s requests
    (found.map fun marker => (marker, ⟨some marker, version.generation + 1⟩), requests)

/-- The parameters of a search. -/
def searchParams (normalizedQuery : String) (pageSize offset : ℕ) (version : String) :
    List (String × String) :=
  [("query", normalizedQuery), ("rpp", toString pageSize), ("start", toString offset),
    ("envfv", version)]

/-- What a call of `search` asks for and gets: the offset of its cursor, the URL that was requested,
the page and the URL it was got from, and what is returned. -/
structure Visit where
  offset : ℕ
  requested : String
  landed : String
  markup : HtmlPage
  page : SearchPage

/-- A missing page is an unavailable search service. -/
def searchUnavailable : Raised → Raised
  | .app error =>
    if error.code = .notFound then
      repositoryError .upstreamFailure "The repository search service is unavailable." 502
    else .app error
  | .valueError => .valueError

/-- The raised error is one of a missing page. -/
def isNotFound : Raised → Bool
  | .app error => error.code == .notFound
  | .valueError => false

/-- The URL of a search, with the handle of the collection it is restricted to. -/
def searchBase (scope : Option String) : String :=
  match scope with
  | none => simpleSearchUrl
  | some handle => nplgOrigin ++ "/handle/" ++ handle ++ "/simple-search"

/-- The page of results for an offset, with the URL that was requested and the one it was got from:
where it is missing, the search version is discovered again and the request repeated once. -/
def fetchResults (s : Situation) (normalizedQuery : String) (scope : Option String)
    (pageSize offset : ℕ) : Except Raised (String × HtmlPage × String) × ℕ :=
  let request := fun version =>
    r.py.requestUrl (searchBase scope) (searchParams normalizedQuery pageSize offset version)
  match r.getSearchVersion s s.version none 0 with
  | (.error raised, requests) => (.error raised, requests)
  | (.ok (marker, version), requests) =>
    match r.getText s requests (request marker) with
    | (.ok fetched, requests) => (.ok (request marker, fetched), requests)
    | (.error raised, requests) =>
      if isNotFound raised then
        match r.getSearchVersion s version (some version.generation) requests with
        | (.error raised, requests) => (.error raised, requests)
        | (.ok (marker, _), requests) =>
          let (fetched, requests) := r.getText s requests (request marker)
          (fetched.map fun fetched => (request marker, fetched), requests)
      else (.error raised, requests)

/-- The offset of a cursor; without one it is zero. -/
def cursorOffset (s : Situation) (normalizedQuery : String) (scope : Option String) (pageSize : ℕ)
    (cursor : Option String) : Except Raised ℕ :=
  match cursor with
  | none => .ok 0
  | some cursor =>
    raising (r.codec.decodeCursor r.cursorSigningSecret cursor normalizedQuery scope pageSize s.now)

/-- The cursor of the next page. -/
def nextCursor (s : Situation) (normalizedQuery : String) (scope : Option String) (pageSize : ℕ)
    (nextOffset : Option ℕ) : Except Raised (Option String) :=
  match nextOffset with
  | none => .ok none
  | some offset =>
    (raising (r.codec.encodeCursor r.cursorSigningSecret offset normalizedQuery scope pageSize
      s.now)).map some

/-- `_canonical_search_query`. -/
def canonicalSearchQuery (query : String) : String := Text.join (Text.split query)

/-- What `search` does once its arguments are checked. -/
def visitResults (s : Situation) (normalizedQuery : String) (scope : Option String) (pageSize : ℕ)
    (cursor : Option String) : Except Raised Visit := do
  let offset ← r.cursorOffset s normalizedQuery scope pageSize cursor
  match r.fetchResults s normalizedQuery scope pageSize offset with
  | (.error raised, _) => throw (searchUnavailable raised)
  | (.ok (requested, markup, landed), requests) =>
    let page ← parse s requests (r.py.parseSearchResults r.lib markup landed pageSize)
    let nextCursor ← r.nextCursor s normalizedQuery scope pageSize page.nextOffset
    return { offset, requested, landed, markup, page := { page with nextCursor } }

/-- `search`, with what it has read. -/
def searchVisit (s : Situation) (query : String) (pageSize : ℕ) (scopeHandle cursor : Option String) :
    Except Raised Visit := do
  let normalizedQuery := canonicalSearchQuery query
  if normalizedQuery = "" ∨ normalizedQuery.length > 500 then
    throw (.app (invalid "Search query must contain 1 to 500 characters."))
  if ¬ (1 ≤ pageSize ∧ pageSize ≤ 50) then
    throw (.app (invalid "page_size must be between 1 and 50."))
  match scopeHandle with
  | none => r.visitResults s normalizedQuery none pageSize cursor
  | some handle =>
    let scope ← r.py.parseHandleInput handle
    r.visitResults s normalizedQuery (some scope) pageSize cursor

/-- `search`. -/
def search (s : Situation) (query : String) (pageSize : ℕ) (scopeHandle cursor : Option String) :
    Except Raised SearchPage :=
  (r.searchVisit s query pageSize scopeHandle cursor).map Visit.page

/-- What a client gets that begins with `cursor` and goes on with the cursor of each page, as long as
there is one. The repository and the upstream may be in any situation at every call. -/
def chain (query : String) (pageSize : ℕ) (scopeHandle : Option String) :
    Option String → List Situation → List Visit
  | _, [] => []
  | cursor, s :: situations =>
    match r.searchVisit s query pageSize scopeHandle cursor with
    | .error _ => []
    | .ok visit =>
      visit :: match visit.page.nextCursor with
        | none => []
        | some next => chain query pageSize scopeHandle (some next) situations

variable {r} {s : Situation} {response : Response} {redirects requests : ℕ} {current : String}

/-- A response that is no redirect is read. -/
theorem getTextFrom_response (h : s.reply requests current = .response response)
    (hstatus : redirectStatuses.contains response.status = false) :
    r.getTextFrom s redirects requests current =
      ((r.readResponse response).map fun page => (page, current), requests + 1) := by
  rw [getTextFrom.eq_def]
  simp only [h, hstatus, if_neg Bool.false_ne_true]

/-- A redirect is followed. -/
theorem getTextFrom_redirect {target : String} (h : s.reply requests current = .response response)
    (hstatus : redirectStatuses.contains response.status = true)
    (htarget : r.redirectTarget response current = .ok target) :
    r.getTextFrom s (redirects + 1) requests current =
      r.getTextFrom s redirects (requests + 1) target := by
  rw [getTextFrom]
  simp only [h, hstatus, if_true, htarget]

variable {query : String} {scope cursor : Option String} {pageSize offset : ℕ}

/-- The results are requested with the search version that is known. -/
theorem fetchResults_eq {marker : String} {fetched : HtmlPage × String}
    (hmarker : s.version.marker = some marker)
    (h : r.getText s 0 (r.py.requestUrl (searchBase scope)
      (searchParams query pageSize offset marker)) = (.ok fetched, requests)) :
    r.fetchResults s query scope pageSize offset =
      (.ok (r.py.requestUrl (searchBase scope) (searchParams query pageSize offset marker), fetched),
        requests) := by
  simp only [fetchResults, getSearchVersion, hmarker, true_or, if_true, h]

/-- What is returned for the page that was got. -/
theorem visitResults_eq {requested landed : String} {markup : HtmlPage} {page : SearchPage}
    {next : Option String} (hoffset : r.cursorOffset s query scope pageSize cursor = .ok offset)
    (hfetched : r.fetchResults s query scope pageSize offset =
      (.ok (requested, markup, landed), requests))
    (hparse : parse s requests (r.py.parseSearchResults r.lib markup landed pageSize) = .ok page)
    (hnext : r.nextCursor s query scope pageSize page.nextOffset = .ok next) :
    r.visitResults s query scope pageSize cursor =
      .ok { offset, requested, landed, markup, page := { page with nextCursor := next } } := by
  simp only [visitResults, hoffset, bind, Except.bind, hfetched, hparse, hnext]
  rfl

end NplgRepository

end NplgMcp
