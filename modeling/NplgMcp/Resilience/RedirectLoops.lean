import NplgMcp.Resilience.Attempts
import NplgMcp.Search.Repository

/-!
# Redirect loops

`_get_text_within_deadline` of `repository.py` and `_download_within_deadline` of `downloader.py`, as
two instances of one loop. Main result: `redirect_loops`, of what the loops request, of the permits
they acquire and of what they return, for every script of the upstream.
-/

open Library

namespace NplgMcp

/-- An `AppError` or `ValueError` as a failure. -/
def ofRaised {α : Type} (result : Except Raised α) : Except Failure α := result.mapError .raised

/-- The URLs that the attempts have requested. -/
def requests (attempts : List Attempt) : List String := attempts.flatMap Attempt.requested

/-! ## The repository -/

/-- What a fetch uses beside the repository: the policy of the guard, whether there is a check of the
resolver and a limiter, the decoding of a body, and the media types that are accepted. -/
structure FetchSettings where
  policy : UpstreamGuardPolicy
  validateDns : Bool
  limited : Bool
  decode : Option String → List UInt8 → Option String
  acceptedTypes : List String

/-- What `_redirect_target` and the headers are read of. -/
def UpstreamResponse.toResponse (response : UpstreamResponse) : Response where
  status := response.status
  location := response.location
  contentEncoding := response.contentEncoding
  contentLength := response.contentLength
  contentType := response.contentType
  chunks := response.chunks.map List.length

/-- The end `+subtype` of the media types that are accepted along with one. -/
def structuredSuffix (item : String) : List Char := '+' :: (item.toList.splitOn '/').getLastD []

namespace NplgRepository

variable (r : NplgRepository) (settings : FetchSettings)

/-- `_redirect_target`. -/
def redirectTargetAt (redirectIndex : ℕ) (response : UpstreamResponse) (current : String) :
    Except Failure (Option String) :=
  if ¬ redirectStatuses.contains response.status then .ok none
  else if redirectIndex ≥ r.maxRedirects then
    .error (.raised (repositoryError .upstreamFailure "The repository returned too many redirects." 502))
  else (ofRaised (r.redirectTarget response.toResponse current)).map some

/-- `_validate_content_type`. -/
def validateAcceptedType (acceptedTypes : List String) (response : Response) : Except Raised Unit :=
  let contentType := r.py.lower (Text.strip
    (String.ofList (response.contentType.toList.takeWhile (· ≠ ';'))))
  if contentType ≠ "" ∧ ¬ acceptedTypes.any (fun item =>
      contentType == item || (structuredSuffix item).isSuffixOf contentType.toList) then
    .error (repositoryError .upstreamFailure
      "The repository returned an unexpected metadata content type." 502
      (some [("content_type", contentType)]))
  else .ok ()

/-- The chunks that `_read_response_text` adds to a body. -/
def readChunks : List (List UInt8) → List UInt8 → Except Raised (List UInt8)
  | [], body => .ok body
  | chunk :: chunks, body =>
    if chunk = [] then readChunks chunks body
    else if chunk.length > r.maxMetadataBytes - body.length then
      .error (repositoryError .upstreamFailure
        "The repository metadata response was unexpectedly large." 502)
    else readChunks chunks (body ++ chunk)

/-- `_read_response_text`. -/
def readText (response : UpstreamResponse) : Except Failure String := do
  let body ← ofRaised (r.readChunks response.chunks [])
  match response.broken with
  | some failure => throw failure
  | none =>
    match settings.decode response.charset body with
    | none =>
      throw (.raised (repositoryError .upstreamFailure
        "The repository returned undecodable metadata." 502))
    | some text => pure text

/-- What is read of a response that is no redirect, with the URL it came from. -/
def readMetadata (response : UpstreamResponse) (current : String) : Except Failure (String × String) := do
  ofRaised (validateResponseStatus response.status)
  ofRaised (r.responseEncoding response.toResponse)
  ofRaised (r.validateAcceptedType settings.acceptedTypes response.toResponse)
  let text ← r.readText settings response
  return (text, current)

/-- The deadline of an attempt that begins at a time. -/
def requestDeadline (deadline now : ℚ) : Except Failure MonotonicDeadline :=
  let remaining := deadline - now
  if remaining ≤ 0 then .error .timeout
  else
    match MonotonicDeadline.validated now (now + min remaining 59) with
    | none => .error (.raised .valueError)
    | some requestDeadline => .ok requestDeadline

/-- The loop of `_get_text_within_deadline`. -/
def fetchLoop (deadline : ℚ) : RedirectLoop Unit (String × String) where
  policy := settings.policy
  maxRedirects := r.maxRedirects
  validateDns := settings.validateDns
  limited := settings.limited
  deadline := fun script => requestDeadline deadline script.now
  redirectTarget := r.redirectTargetAt
  readResponse := fun _ response current => r.readMetadata settings response current

/-- `_get_text_within_deadline`, for the URL that `httpx` makes of the URL and its parameters: the
text and its URL, or what is raised, with the attempts that were admitted. -/
def getTextWithinDeadline (scripts : ℕ → AttemptScript Unit) (requestUrl : String) (deadline : ℚ) :
    Except Failure (String × String) × List Attempt :=
  match r.py.validateUpstreamUrl requestUrl with
  | .error raised => (.error (.raised raised), [])
  | .ok current => (r.fetchLoop settings deadline).run scripts current

end NplgRepository

/-! ## The downloader -/

/-- How the scanner ends: a clean file, one of the errors that reject the document, or another. -/
inductive ScanEnd where
  | clean
  | rejected
  | failed (failure : Failure)

/-- `StoredArtifact`, without its absolute path. -/
structure StoredArtifact where
  objectId : String
  sha256 : String
  size : ℕ
  mediaType : String
  relativePath : String
  deriving DecidableEq, Repr

/-- How the store and the scanner go: the staged file, each write to it, its preparation and its scan,
its commit and its release. -/
structure StoringScript where
  stage : Option Failure
  write : ℕ → Option Failure
  prepare : Option Failure
  scan : ScanEnd
  commit : Except Failure StoredArtifact
  release : Option Failure

/-- `DownloadResult`. -/
structure DownloadResult where
  artifact : StoredArtifact
  sourceBitstreamId : String
  sourceUrl : String
  bytesDownloaded : ℕ
  deriving DecidableEq, Repr

/-- `DocumentDownloader`, as far as its configuration is read. -/
structure DocumentDownloader where
  py : WebPlatform
  policy : UpstreamGuardPolicy
  maxBytes : ℕ
  maxRedirects : ℕ := 3
  validateDns : Bool := true
  limited : Bool := false
  scanned : Bool := false

/-- What is raised, if anything is. -/
def raiseAny : Option Failure → Except Failure Unit
  | none => .ok ()
  | some failure => .error failure

namespace DocumentDownloader

variable (d : DocumentDownloader)

/-- `_ALLOWED_PDF_TYPES`. -/
def allowedPdfTypes : List String :=
  ["application/pdf", "application/octet-stream", "binary/octet-stream", ""]

/-- The URL's path lies under the bitstreams of the handle. -/
def isUnderHandle (handle : String) (parts : SplitUrl) : Bool :=
  Text.startsWith parts.path ("/bitstream/" ++ handle ++ "/")

/-- `_validate_bitstream`; the size that a parser has read is never negative. -/
def validateBitstream (bitstream : Bitstream) : Except Raised String := do
  if bitstream.accessStatus ≠ "public" then
    throw (repositoryError .restricted "The repository file is not publicly downloadable." 403)
  let handle ← d.py.parseHandleInput bitstream.handle
  let url ← d.py.validateUpstreamUrl bitstream.sourceUrl
  let parts ← d.py.split url
  if ¬ isUnderHandle handle parts then
    throw (.app (invalid "The bitstream URL is not bound to the requested item."))
  return url

/-- `_preflight_bitstream`. -/
def preflightBitstream (bitstream : Bitstream) : Except Raised String := do
  let sourceUrl ← d.validateBitstream bitstream
  match bitstream.reportedSize with
  | none => return sourceUrl
  | some reportedSize =>
    if reportedSize > d.maxBytes then
      throw (repositoryError .downloadTooLarge
        "The repository file exceeds the configured download limit." 413
        (some [("reported_size", toString reportedSize), ("max_bytes", toString d.maxBytes)]))
    return sourceUrl

/-- The target of a redirect that may be followed. -/
def redirectUrl (bitstream : Bitstream) (response : UpstreamResponse) (current : String) :
    Except Raised String := do
  match response.location with
  | none | some "" =>
    throw (repositoryError .upstreamFailure
      "The repository returned an incomplete download redirect." 502)
  | some location =>
    let target ← d.py.validateUpstreamUrl (← d.py.join current location)
    let handle ← d.py.parseHandleInput bitstream.handle
    let parts ← d.py.split target
    if ¬ isUnderHandle handle parts then
      throw (.app (invalid "The download redirect escaped the discovered bitstream."))
    return target

/-- `_redirect_target`. -/
def redirectTarget (bitstream : Bitstream) (redirectIndex : ℕ) (response : UpstreamResponse)
    (current : String) : Except Failure (Option String) :=
  if ¬ redirectStatuses.contains response.status then .ok none
  else if redirectIndex ≥ d.maxRedirects then
    .error (.raised (repositoryError .upstreamFailure
      "The repository returned too many download redirects." 502))
  else (ofRaised (d.redirectUrl bitstream response current)).map some

/-- `_validate_response_status`. -/
def validateResponseStatus (status : ℕ) : Except Raised Unit :=
  if status = 404 then
    .error (repositoryError .notFound "The repository file was not found." 404)
  else if status = 401 ∨ status = 403 then
    .error (repositoryError .restricted "The repository file is not publicly downloadable." 403)
  else if status = 429 then
    .error (repositoryError .rateLimited "The repository is rate limiting file downloads." 503)
  else if status < 200 ∨ status ≥ 300 then
    .error (repositoryError .upstreamFailure
      "The repository returned an unsuccessful download response." 502
      (some [("upstream_status", toString status)]))
  else .ok ()

/-- `_validate_content_length`. -/
def validateContentLength (contentLength : String) : Except Raised Unit :=
  match d.py.readInteger contentLength with
  | none =>
    .error (repositoryError .upstreamFailure "The repository returned an invalid Content-Length." 502)
  | some declared =>
    if declared < 0 then
      .error (repositoryError .upstreamFailure "The repository returned an invalid Content-Length." 502)
    else if declared > d.maxBytes then
      .error (repositoryError .downloadTooLarge
        "The repository file exceeds the configured download limit." 413
        (some [("content_length", toString declared), ("max_bytes", toString d.maxBytes)]))
    else .ok ()

/-- `_validate_response_headers`; the empty media type is allowed, so the details name one. -/
def validateResponseHeaders (response : UpstreamResponse) : Except Raised Unit := do
  if ¬ ["", "identity"].contains (d.py.lower (Text.strip response.contentEncoding)) then
    throw (repositoryError .upstreamFailure
      "The repository returned unsupported content encoding." 502)
  match response.contentLength with
  | none | some "" => pure ()
  | some contentLength => d.validateContentLength contentLength
  let contentType := d.py.lower (Text.strip
    (String.ofList (response.contentType.toList.takeWhile (· ≠ ';'))))
  if ¬ allowedPdfTypes.contains contentType then
    throw (repositoryError .invalidDocument
      "The repository response is not a supported PDF document." 422
      (some [("content_type", contentType)]))

/-- The chunks that `_store_response` writes: the bytes that have come and the first of them. -/
def writeChunks (script : StoringScript) :
    ℕ → List (List UInt8) → ℕ → List UInt8 → Except Failure (ℕ × List UInt8)
  | _, [], downloaded, signature => .ok (downloaded, signature)
  | index, chunk :: chunks, downloaded, signature =>
    if chunk = [] then writeChunks script (index + 1) chunks downloaded signature
    else if downloaded + chunk.length > d.maxBytes then
      .error (.raised (repositoryError .downloadTooLarge
        "The repository file exceeded the configured download limit while streaming." 413
        (some [("max_bytes", toString d.maxBytes)])))
    else
      match script.write index with
      | some failure => .error failure
      | none =>
        writeChunks script (index + 1) chunks (downloaded + chunk.length)
          (signature ++ chunk.take (8 - signature.length))

/-- The scan of the staged file. -/
def scanStaged (script : StoringScript) : Except Failure Unit :=
  if d.scanned then do
    raiseAny script.prepare
    match script.scan with
    | .clean => pure ()
    | .rejected =>
      throw (.raised (repositoryError .invalidDocument
        "The downloaded document did not pass security scanning." 422))
    | .failed failure => throw failure
  else pure ()

/-- What `_store_response` does with the staged file. -/
def storeStaged (script : StoringScript) (bitstream : Bitstream) (response : UpstreamResponse)
    (sourceUrl : String) : Except Failure DownloadResult := do
  let (downloaded, signature) ← d.writeChunks script 0 response.chunks 0 []
  raiseAny response.broken
  -- `%PDF-`
  if downloaded = 0 ∨ signature.take 5 ≠ [0x25, 0x50, 0x44, 0x46, 0x2D] then
    throw (.raised (repositoryError .invalidDocument
      "The repository response did not contain a valid PDF signature." 422))
  d.scanStaged script
  let artifact ← script.commit
  return {
    artifact, sourceBitstreamId := bitstream.bitstreamId, sourceUrl, bytesDownloaded := downloaded }

/-- `_store_response`; the staged file is released on every way out. -/
def storeResponse (script : StoringScript) (bitstream : Bitstream) (response : UpstreamResponse)
    (sourceUrl : String) : Except Failure DownloadResult :=
  match script.stage with
  | some failure => .error failure
  | none =>
    match script.release with
    | some failure => .error failure
    | none => d.storeStaged script bitstream response sourceUrl

/-- What is stored of a response that is no redirect. -/
def readDownload (bitstream : Bitstream) (script : StoringScript) (response : UpstreamResponse)
    (current : String) : Except Failure DownloadResult := do
  ofRaised (validateResponseStatus response.status)
  ofRaised (d.validateResponseHeaders response)
  d.storeResponse script bitstream response current

/-- The loop of `_download_within_deadline`. -/
def downloadLoop (bitstream : Bitstream) (deadline : MonotonicDeadline) :
    RedirectLoop StoringScript DownloadResult where
  policy := d.policy
  maxRedirects := d.maxRedirects
  validateDns := d.validateDns
  limited := d.limited
  deadline := fun _ => .ok deadline
  redirectTarget := d.redirectTarget bitstream
  readResponse := d.readDownload bitstream

/-- `_download_within_deadline`: the stored file, or what is raised, with the attempts that were
admitted. -/
def downloadWithinDeadline (scripts : ℕ → AttemptScript StoringScript) (bitstream : Bitstream)
    (deadline : MonotonicDeadline) : Except Failure DownloadResult × List Attempt :=
  match d.preflightBitstream bitstream with
  | .error raised => (.error (.raised raised), [])
  | .ok current => (d.downloadLoop bitstream deadline).run scripts current

end DocumentDownloader

/-! ## What the loops request and return -/

/-- Settled attempts have requested at most one URL each, and only allowed ones. -/
theorem requests_of_settled {Allowed : String → Prop} {attempts : List Attempt}
    (h : ∀ attempt ∈ attempts, ∃ url, Allowed url ∧ attempt.Settled url) :
    (requests attempts).length ≤ attempts.length ∧ ∀ url ∈ requests attempts, Allowed url := by
  induction attempts with
  | nil => exact ⟨le_rfl, fun url hurl => absurd hurl List.not_mem_nil⟩
  | cons attempt attempts ih =>
      obtain ⟨hlength, hallowed⟩ := ih fun other hother => h other (List.mem_cons_of_mem _ hother)
      obtain ⟨url, hurl, -, -, hrequested⟩ := h attempt List.mem_cons_self
      have hcons : requests (attempt :: attempts) = attempt.requested ++ requests attempts := rfl
      rw [hcons]
      rcases hrequested with hnone | hone
      · rw [hnone, List.nil_append]
        exact ⟨Nat.le_succ_of_le hlength, hallowed⟩
      · rw [hone]
        refine ⟨Nat.succ_le_succ hlength, ?_⟩
        intro other hother
        rcases List.mem_cons.1 hother with rfl | hother
        · exact hurl
        · exact hallowed other hother

/-- What is true of every call of one of the loops: the number of its requests, what they are for, the
permits, and what is returned. -/
structure LoopLaw {γ α : Type} (loop : RedirectLoop γ α) (scripts : ℕ → AttemptScript γ)
    (Allowed : String → Prop) (called : Except Failure α × List Attempt) : Prop where
  length_requests : (requests called.2).length ≤ loop.maxRedirects + 1
  allowed : ∀ url ∈ requests called.2, Allowed url
  finalized : ∀ attempt ∈ called.2, attempt.finalized = true ∧ attempt.outcomes.length = 1
  returned : ∀ value, called.1 = .ok value → loop.ReturnedBy scripts Allowed value

/-- The law holds of a call that raises before the loop. -/
theorem LoopLaw.of_error {γ α : Type} {loop : RedirectLoop γ α} {scripts : ℕ → AttemptScript γ}
    {Allowed : String → Prop} (failure : Failure) :
    LoopLaw loop scripts Allowed (.error failure, []) where
  length_requests := Nat.zero_le _
  allowed := fun _ h => absurd h List.not_mem_nil
  finalized := fun _ h => absurd h List.not_mem_nil
  returned := by rintro value ⟨⟩

/-- The law holds of a loop whose first URL is allowed and whose redirects lead to allowed ones. -/
theorem LoopLaw.of_run {γ α : Type} {loop : RedirectLoop γ α} {scripts : ℕ → AttemptScript γ}
    {Allowed : String → Prop} {first : String} (hfirst : Allowed first)
    (hredirect : ∀ index response current target,
      loop.redirectTarget index response current = .ok (some target) → Allowed target) :
    LoopLaw loop scripts Allowed (loop.run scripts first) := by
  obtain ⟨hlength, hattempts, hreturned⟩ := @RedirectLoop.settled_rounds _ _ loop scripts Allowed
    hredirect (loop.maxRedirects + 1) 0 first hfirst
  obtain ⟨hrequests, hallowed⟩ := requests_of_settled hattempts
  refine ⟨hrequests.trans hlength, hallowed, ?_, hreturned⟩
  intro attempt hmem
  obtain ⟨url, -, hfinal, houtcomes, -⟩ := hattempts attempt hmem
  exact ⟨hfinal, houtcomes⟩

/-- What `ofRaised` returns. -/
theorem eq_ok_of_ofRaised {α : Type} {result : Except Raised α} {value : α}
    (h : ofRaised result = .ok value) : result = .ok value := by
  cases result with
  | ok value' =>
      cases h
      rfl
  | error raised => cases h

/-- What a sequence returns, both parts have returned. -/
theorem exists_of_bind_eq_ok {ε α β : Type} {first : Except ε α} {next : α → Except ε β} {value : β}
    (h : (first >>= next) = .ok value) : ∃ middle, first = .ok middle ∧ next middle = .ok value := by
  cases first with
  | ok middle => exact ⟨middle, rfl, h⟩
  | error raised => cases h

/-- What is accepted is the URL itself. -/
theorem accepted_of_validateUpstreamUrl {py : WebPlatform} {url target : String}
    (h : py.validateUpstreamUrl url = .ok target) : py.validateUpstreamUrl target = .ok target := by
  obtain rfl := WebPlatform.eq_of_validateUpstreamUrl h
  exact h

namespace NplgRepository

variable {r : NplgRepository} {settings : FetchSettings} {response : UpstreamResponse}
  {current target : String} {redirectIndex : ℕ}

/-- A redirect that is followed leads to an accepted URL. -/
theorem accepted_of_redirectTargetAt
    (h : r.redirectTargetAt redirectIndex response current = .ok (some target)) :
    r.py.validateUpstreamUrl target = .ok target := by
  unfold redirectTargetAt at h
  split at h
  · cases h
  · split at h
    · cases h
    · cases hfound : ofRaised (r.redirectTarget response.toResponse current) with
      | error failure =>
          rw [hfound] at h
          cases h
      | ok found =>
          rw [hfound] at h
          obtain rfl : found = target := by cases h; rfl
          have hraised := eq_ok_of_ofRaised hfound
          unfold redirectTarget at hraised
          split at hraised
          · cases hraised
          · split at hraised
            · cases hraised
            · obtain ⟨absolute, -, hvalid⟩ := exists_of_bind_eq_ok hraised
              exact accepted_of_validateUpstreamUrl hvalid

/-- For the types of HTML pages this is the check that a search makes. -/
theorem validateAcceptedType_html {response : Response} :
    r.validateAcceptedType ["text/html", "application/xhtml+xml"] response =
      r.validateContentType response := by
  have hhtml : structuredSuffix "text/html" = "+html".toList := by decide
  have hxhtml : structuredSuffix "application/xhtml+xml" = "+xhtml+xml".toList := by decide
  simp only [validateAcceptedType, validateContentType, List.any_cons, hhtml, hxhtml, List.any_nil]
  rfl

/-- A status that is accepted is one of success. -/
theorem success_of_validateResponseStatus {status : ℕ} (h : validateResponseStatus status = .ok ()) :
    200 ≤ status ∧ status < 300 := by
  unfold validateResponseStatus at h
  split_ifs at h with hmissing hrestricted hlimited hstatus
  omega

/-- What has been read of a response is its text, and the response is one of success. -/
theorem of_readMetadata {value : String × String}
    (h : r.readMetadata settings response current = .ok value) :
    (200 ≤ response.status ∧ response.status < 300) ∧
      r.readText settings response = .ok value.1 ∧ value.2 = current := by
  obtain ⟨_, hstatus, h⟩ := exists_of_bind_eq_ok h
  obtain ⟨_, -, h⟩ := exists_of_bind_eq_ok h
  obtain ⟨_, -, h⟩ := exists_of_bind_eq_ok h
  obtain ⟨text, htext, h⟩ := exists_of_bind_eq_ok h
  cases h
  exact ⟨success_of_validateResponseStatus (eq_ok_of_ofRaised hstatus), htext, rfl⟩

end NplgRepository

namespace DocumentDownloader

variable {d : DocumentDownloader} {bitstream : Bitstream} {response : UpstreamResponse}
  {current target : String} {redirectIndex : ℕ}

/-- A URL that may be requested for a bitstream: an accepted one, under the bitstreams of the
requested handle. -/
def MayRequest (d : DocumentDownloader) (bitstream : Bitstream) (url : String) : Prop :=
  d.py.validateUpstreamUrl url = .ok url ∧ ∃ handle parts,
    d.py.parseHandleInput bitstream.handle = .ok handle ∧ d.py.urlsplit url = some parts ∧
      Text.startsWith parts.path ("/bitstream/" ++ handle ++ "/") = true

/-- The first URL may be requested. -/
theorem mayRequest_of_preflightBitstream (h : d.preflightBitstream bitstream = .ok target) :
    d.MayRequest bitstream target := by
  obtain ⟨source, hsource, h⟩ := exists_of_bind_eq_ok h
  obtain rfl : source = target := by
    split at h
    · cases h
      rfl
    · split at h
      · cases h
      · cases h
        rfl
  unfold validateBitstream at hsource
  split at hsource
  · cases hsource
  · obtain ⟨handle, hhandle, hsource⟩ := exists_of_bind_eq_ok hsource
    obtain ⟨url, hurl, hsource⟩ := exists_of_bind_eq_ok hsource
    obtain ⟨parts, hparts, hsource⟩ := exists_of_bind_eq_ok hsource
    split at hsource
    · cases hsource
    · rename_i hunder
      cases hsource
      exact ⟨accepted_of_validateUpstreamUrl hurl, handle, parts, hhandle, WebPlatform.urlsplit_of_split hparts,
        not_not.1 hunder⟩

/-- The target of a redirect may be requested. -/
theorem mayRequest_of_redirectUrl (h : d.redirectUrl bitstream response current = .ok target) :
    d.MayRequest bitstream target := by
  unfold redirectUrl at h
  split at h
  · cases h
  · cases h
  · obtain ⟨absolute, -, h⟩ := exists_of_bind_eq_ok h
    obtain ⟨url, hurl, h⟩ := exists_of_bind_eq_ok h
    obtain ⟨handle, hhandle, h⟩ := exists_of_bind_eq_ok h
    obtain ⟨parts, hparts, h⟩ := exists_of_bind_eq_ok h
    split at h
    · cases h
    · rename_i hunder
      cases h
      exact ⟨accepted_of_validateUpstreamUrl hurl, handle, parts, hhandle, WebPlatform.urlsplit_of_split hparts,
        not_not.1 hunder⟩

/-- A redirect that is followed leads to a URL that may be requested. -/
theorem mayRequest_of_redirectTarget
    (h : d.redirectTarget bitstream redirectIndex response current = .ok (some target)) :
    d.MayRequest bitstream target := by
  unfold redirectTarget at h
  split at h
  · cases h
  · split at h
    · cases h
    · cases hfound : ofRaised (d.redirectUrl bitstream response current) with
      | error failure =>
          rw [hfound] at h
          cases h
      | ok found =>
          rw [hfound] at h
          obtain rfl : found = target := by cases h; rfl
          exact mayRequest_of_redirectUrl (eq_ok_of_ofRaised hfound)

/-- A status that is accepted is one of success. -/
theorem success_of_validateResponseStatus {status : ℕ} (h : validateResponseStatus status = .ok ()) :
    200 ≤ status ∧ status < 300 := by
  unfold validateResponseStatus at h
  split_ifs at h with hmissing hrestricted hlimited hstatus
  omega

/-- A stored file names the URL it came from. -/
theorem sourceUrl_of_storeResponse {script : StoringScript} {value : DownloadResult}
    (h : d.storeResponse script bitstream response current = .ok value) : value.sourceUrl = current := by
  unfold storeResponse at h
  split at h
  · cases h
  · split at h
    · cases h
    · obtain ⟨written, -, h⟩ := exists_of_bind_eq_ok h
      obtain ⟨_, -, h⟩ := exists_of_bind_eq_ok h
      split at h
      · cases h
      · obtain ⟨_, -, h⟩ := exists_of_bind_eq_ok h
        obtain ⟨artifact, -, h⟩ := exists_of_bind_eq_ok h
        cases h
        rfl

/-- What has been stored of a response is its body, and the response is one of success. -/
theorem of_readDownload {script : StoringScript} {value : DownloadResult}
    (h : d.readDownload bitstream script response current = .ok value) :
    (200 ≤ response.status ∧ response.status < 300) ∧
      d.storeResponse script bitstream response current = .ok value := by
  obtain ⟨_, hstatus, h⟩ := exists_of_bind_eq_ok h
  obtain ⟨_, -, h⟩ := exists_of_bind_eq_ok h
  exact ⟨success_of_validateResponseStatus (eq_ok_of_ofRaised hstatus), h⟩

end DocumentDownloader

/-! ## Both loops -/

/-- **Redirect loops.** Whatever the upstream, the guard, the resolver, the limiter, the scanner, the
store and cancellations do, a fetch and a download make at most `max_redirects + 1` requests; every
URL they request is accepted, and lies under the bitstreams of the requested handle for a download;
every permit they acquire is final when they are left, and the guard was told one outcome for it; and
what they return was read of a response of success, never of a redirect. -/
theorem redirect_loops :
    (∀ (r : NplgRepository) (settings : FetchSettings) (scripts : ℕ → AttemptScript Unit)
        (requestUrl : String) (deadline : ℚ),
      let fetched := r.getTextWithinDeadline settings scripts requestUrl deadline
      (requests fetched.2).length ≤ r.maxRedirects + 1 ∧
        (∀ url ∈ requests fetched.2, r.py.validateUpstreamUrl url = .ok url) ∧
        (∀ attempt ∈ fetched.2, attempt.finalized = true ∧ attempt.outcomes.length = 1) ∧
        ∀ text finalUrl, fetched.1 = .ok (text, finalUrl) → ∃ index response,
          (scripts index).response = .ok response ∧ 200 ≤ response.status ∧ response.status < 300 ∧
            r.readText settings response = .ok text) ∧
      ∀ (d : DocumentDownloader) (scripts : ℕ → AttemptScript StoringScript) (bitstream : Bitstream)
          (deadline : MonotonicDeadline),
        let downloaded := d.downloadWithinDeadline scripts bitstream deadline
        (requests downloaded.2).length ≤ d.maxRedirects + 1 ∧
          (∀ url ∈ requests downloaded.2, d.py.validateUpstreamUrl url = .ok url ∧
            ∃ handle parts, d.py.parseHandleInput bitstream.handle = .ok handle ∧
              d.py.urlsplit url = some parts ∧
                Text.startsWith parts.path ("/bitstream/" ++ handle ++ "/") = true) ∧
          (∀ attempt ∈ downloaded.2, attempt.finalized = true ∧ attempt.outcomes.length = 1) ∧
          ∀ result, downloaded.1 = .ok result → ∃ index response,
            (scripts index).response = .ok response ∧ 200 ≤ response.status ∧ response.status < 300 ∧
              d.storeResponse (scripts index).reading bitstream response result.sourceUrl =
                .ok result := by
  refine ⟨fun r settings scripts requestUrl deadline => ?_,
    fun d scripts bitstream deadline => ?_⟩
  · intro fetched
    have hlaw : LoopLaw (r.fetchLoop settings deadline) scripts
        (fun url => r.py.validateUpstreamUrl url = .ok url) fetched := by
      change LoopLaw _ _ _ (r.getTextWithinDeadline settings scripts requestUrl deadline)
      unfold NplgRepository.getTextWithinDeadline
      split
      · exact LoopLaw.of_error _
      · rename_i current hcurrent
        exact LoopLaw.of_run (accepted_of_validateUpstreamUrl hcurrent)
          fun _ _ _ _ => NplgRepository.accepted_of_redirectTargetAt
    refine ⟨hlaw.length_requests, hlaw.allowed, hlaw.finalized, fun text finalUrl hreturned => ?_⟩
    obtain ⟨index, response, current, hresponse, -, -, hread⟩ := hlaw.returned _ hreturned
    obtain ⟨hstatus, htext, -⟩ := NplgRepository.of_readMetadata hread
    exact ⟨index, response, hresponse, hstatus.1, hstatus.2, htext⟩
  · intro downloaded
    have hlaw : LoopLaw (d.downloadLoop bitstream deadline) scripts (d.MayRequest bitstream)
        downloaded := by
      change LoopLaw _ _ _ (d.downloadWithinDeadline scripts bitstream deadline)
      unfold DocumentDownloader.downloadWithinDeadline
      split
      · exact LoopLaw.of_error _
      · rename_i current hcurrent
        exact LoopLaw.of_run (DocumentDownloader.mayRequest_of_preflightBitstream hcurrent)
          fun _ _ _ _ => DocumentDownloader.mayRequest_of_redirectTarget
    refine ⟨hlaw.length_requests, hlaw.allowed, hlaw.finalized, fun result hreturned => ?_⟩
    obtain ⟨index, response, current, hresponse, -, -, hread⟩ := hlaw.returned _ hreturned
    obtain ⟨hstatus, hstored⟩ := DocumentDownloader.of_readDownload hread
    refine ⟨index, response, hresponse, hstatus.1, hstatus.2, ?_⟩
    rw [DocumentDownloader.sourceUrl_of_storeResponse hstored]
    exact hstored

end NplgMcp
