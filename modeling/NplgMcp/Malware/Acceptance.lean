import NplgMcp.Malware.Version
import NplgMcp.Resilience.Recovery
import NplgMcp.Resilience.RedirectLoops

/-!
# Accepted scans

`scan` and `validate_clean_scan_result`, which `DocumentDownloader._store_response` calls one after
the other before it publishes a staged file. `scanArtifact_ok` says what an acceptance means: the
scanner, on a private socket of the same user, has been sent the whole artifact as one stream, the
artifact has the expected digest, and the scanner has called it clean with fresh signatures.
-/

open Library Library.Framing

namespace NplgMcp.Malware

/-! ## The scan -/

/-- The connection that the version is asked over. -/
structure VersionScript where
  connection : Connection
  drained : Wait Unit
  reply : Wait Bytes

/-- `_version`. -/
def version (euid : ℤ) (deadline : MonotonicDeadline) (script : VersionScript) :
    Except ScanFailure Version := do
  script.connection.connect euid deadline
  script.drained.run deadline .transportFailed
  let response ← readReply script.reply deadline
  readVersion response

/-- `ScanResult`. -/
structure ScanResult where
  verdict : ScanVerdict
  scannedSha256 : String
  engineVersion : List Char
  signatureVersion : List Char
  signaturesUpdatedAt : Moment

/-- `ClamAvUnixSocketScanner.scan`: the result, and what has been written to the connection that the
artifact is sent over. -/
def ClamAvUnixSocketScanner.scan (scanner : ClamAvUnixSocketScanner) (sha256 : Bytes → String)
    (expectedSha256 : String) (euid : ℤ) (deadline : MonotonicDeadline) (asked : VersionScript)
    (script : StreamScript) : Except ScanFailure ScanResult × Bytes :=
  if !Pdf.isSha256 expectedSha256 then (.error (.raised .expectedInvalid), [])
  else
    match version euid deadline asked with
    | .error failure => (.error failure, [])
    | .ok version =>
      match scanner.stream sha256 expectedSha256 euid deadline script with
      | (.error failure, wire) => (.error failure, wire)
      | (.ok verdict, wire) => (.ok {
          verdict
          scannedSha256 := expectedSha256
          engineVersion := version.engine
          signatureVersion := version.signature
          signaturesUpdatedAt := version.updatedAt }, wire)

/-! ## The validation -/

/-- The artifact while the result is validated, and the time, which is none without a zone. -/
structure ValidationFacts where
  now : Option ℚ
  lstat : Option FileStat
  isFile : Bool
  isSymlink : Bool
  content : Option Bytes

/-- `updated_at > verified_at + _MAX_FUTURE_SIGNATURE_SKEW` or
`verified_at - updated_at > _MAX_SIGNATURE_AGE`. -/
def isStale (updatedAt now : ℚ) : Bool := now + 300 < updatedAt || 86400 < now - updatedAt

/-- `validate_clean_scan_result`. -/
def validateCleanScanResult (sha256 : Bytes → String) (expectedSha256 : String)
    (facts : ValidationFacts) (result : ScanResult) : Except ScanFailure Unit :=
  match facts.now, facts.lstat with
  | none, _ => .error (.raised .naiveTime)
  | some _, none => .error (.raised .artifactUnavailable)
  | some now, some metadata =>
    if !facts.isFile ∨ facts.isSymlink ∨ metadata.links ≠ 1 then .error (.raised .notRegular)
    else match facts.content with
    | none => .error (.raised .unreadable)
    | some content =>
      if sha256 content ≠ expectedSha256 ∨ result.scannedSha256 ≠ expectedSha256 then
        .error (.raised .mismatch)
      else if result.verdict ≠ .clean then .error (.raised .notClean)
      else if isStale result.signaturesUpdatedAt.seconds now then .error (.raised .notFresh)
      else .ok ()

/-- Everything that a scan of a staged artifact meets. -/
structure ScanScript where
  asked : VersionScript
  stream : StreamScript
  validated : ValidationFacts

/-- The scan of `_store_response`, with what has been written to the connection of the artifact. -/
def scanArtifact (scanner : ClamAvUnixSocketScanner) (sha256 : Bytes → String)
    (expectedSha256 : String) (euid : ℤ) (deadline : MonotonicDeadline) (script : ScanScript) :
    Except ScanFailure Unit × Bytes :=
  match scanner.scan sha256 expectedSha256 euid deadline script.asked script.stream with
  | (.error failure, wire) => (.error failure, wire)
  | (.ok result, wire) =>
    (validateCleanScanResult sha256 expectedSha256 script.validated result, wire)

/-! ## What a step says -/

section
variable {euid : ℤ} {deadline : MonotonicDeadline}

/-- What is awaited successfully has been answered. -/
theorem Wait.run_ok {α : Type} {wait : Wait α} {translated : ScanError} {value : α}
    (h : wait.run deadline translated = .ok value) : wait.answer = .done value := by
  unfold Wait.run at h
  split at h
  · cases h
  · split at h
    · rename_i hanswer
      cases h
      exact hanswer
    · cases h
    · cases h

/-- The socket is private and so is its peer: both are of the user. -/
structure Connection.Trusted (connection : Connection) (euid : ℤ) : Prop where
  socket : ∃ facts, connection.socket = some facts ∧ facts.isSocket = true ∧
    facts.isSymlink = false ∧ facts.owner = euid ∧ facts.mode % 0o100 = 0
  isUnix : connection.isUnix = true
  peer : ∃ credentials, connection.credentials = some credentials ∧ credentials.length = 12 ∧
    signedNative ((credentials.drop 4).take 4) = euid

/-- A connection that is made is trusted. -/
theorem Connection.trusted_of_connect {connection : Connection}
    (h : connection.connect euid deadline = .ok ()) : connection.Trusted euid := by
  obtain ⟨_, hsocket, h⟩ := exists_of_bind_eq_ok h
  obtain ⟨_, -, hpeer⟩ := exists_of_bind_eq_ok h
  unfold verifyPeer at hpeer
  split at hpeer
  · cases hpeer
  · rename_i hunix
    split at hpeer
    · cases hpeer
    · rename_i credentials hcredentials
      unfold peerCredentials at hpeer
      split at hpeer
      · cases hpeer
      · rename_i hfound
        split at hfound
        · cases hfound
        · rename_i hlength
          cases hfound
          split at hpeer
          · cases hpeer
          · rename_i huid
            refine ⟨?_, by simpa using hunix, credentials, hcredentials, not_not.1 hlength,
              not_not.1 huid⟩
            cases hfacts : connection.socket with
            | none =>
                rw [hfacts] at hsocket
                cases hsocket
            | some facts =>
                rw [hfacts] at hsocket
                unfold verifySocketPath at hsocket
                dsimp only at hsocket
                split at hsocket
                · cases hsocket
                · rename_i hno
                  simp only [not_or, Bool.not_eq_true, Bool.not_eq_false', not_not] at hno
                  exact ⟨facts, rfl, hno⟩

/-- The reply that calls the artifact clean. -/
def cleanReply : Bytes := "stream: OK\x00".toList.map fun c => c.toNat.toUInt8

/-- ASCII characters are their bytes. -/
theorem bytes_of_decodeAscii {data : Bytes} {text : List Char} (h : decodeAscii data = some text) :
    data = text.map fun c => c.toNat.toUInt8 := by
  have hascii : ∀ value < 128, (Char.ofNat value).toNat = value := by decide
  unfold decodeAscii at h
  split at h
  · rename_i hall
    obtain rfl := Option.some.inj h
    rw [List.map_map]
    refine (List.map_id data).symm.trans (List.map_congr_left fun byte hbyte => ?_)
    have hlt : byte < 128 := of_decide_eq_true (List.all_eq_true.1 hall byte hbyte)
    rw [Function.comp_apply, hascii byte.toNat (UInt8.lt_iff_toNat_lt.1 hlt)]
    exact UInt8.ofNat_toNat.symm
  · cases h

/-- A reply that is read has been answered as a whole. -/
theorem answer_of_readReply {reply : Wait Bytes} {text : List Char}
    (h : readReply reply deadline = .ok text) :
    reply.answer = .done ((text.map fun c => c.toNat.toUInt8) ++ [0]) := by
  obtain ⟨data, hdata, hdecoded⟩ := exists_of_bind_eq_ok h
  unfold decodeReply at hdecoded
  split at hdecoded
  · cases hdecoded
  · rename_i hformed
    simp only [not_or, not_not] at hformed
    split at hdecoded
    · cases hdecoded
    · rename_i found hfound
      cases hdecoded
      have hlast : data = data.dropLast ++ [0] :=
        (List.dropLast_append_getLast? 0 hformed.2.2.1).symm
      rw [Wait.run_ok hdata, hlast, bytes_of_decodeAscii hfound]

/-- Only one reply is a clean verdict. -/
theorem clean_of_verdictOf {response : List Char} (h : verdictOf response = .ok .clean) :
    response = "stream: OK".toList := by
  unfold verdictOf at h
  split at h
  · assumption
  · split at h
    · cases h
    · split at h <;> cases h

variable {scanner : ClamAvUnixSocketScanner} {sha256 : Bytes → String} {expectedSha256 : String}

/-- What a clean verdict means: the artifact has been sent as a whole to a trusted peer, which has
called it clean. -/
structure StreamedClean (scanner : ClamAvUnixSocketScanner) (sha256 : Bytes → String)
    (expectedSha256 : String) (euid : ℤ) (script : StreamScript) (wire : Bytes) : Prop where
  sent : ∃ stream content, wire = instreamCommand ++ stream ∧ Stream chunkHeaders stream content ∧
    content = readToEnd script.steps ∧ 0 < content.length ∧ content.length ≤ scanner.maxBytes ∧
    sha256 content = expectedSha256
  trusted : script.connection.Trusted euid
  replied : script.reply.answer = .done cleanReply

/-- An artifact that is opened is not empty. -/
theorem size_pos_of_startStream {maxBytes : ℕ} {script : StreamScript} {opened : FileStat}
    (h : startStream maxBytes euid deadline script = .ok opened) :
    0 < opened.size ∧ script.connection.Trusted euid := by
  obtain ⟨initial, hinitial, h⟩ := exists_of_bind_eq_ok h
  obtain ⟨found, hfound, h⟩ := exists_of_bind_eq_ok h
  obtain ⟨_, hchecked, h⟩ := exists_of_bind_eq_ok h
  obtain ⟨_, hconnected, h⟩ := exists_of_bind_eq_ok h
  obtain rfl : found = opened := by
    cases h
    rfl
  refine ⟨?_, Connection.trusted_of_connect hconnected⟩
  have hinitial' : 0 < initial.size := by
    unfold openArtifact at hinitial
    split at hinitial
    · cases hinitial
    · split at hinitial
      · cases hinitial
      · split at hinitial
        · cases hinitial
        · rename_i hsize
          split at hinitial
          · cases hinitial
          · cases hinitial
            exact Nat.pos_of_ne_zero fun hzero => hsize (.inl (by omega))
  unfold checkOpened at hchecked
  split at hchecked
  · cases hchecked
  · rename_i hsame
    simp only [not_or, not_not] at hsame
    rw [hsame.2.2.2.2]
    exact hinitial'

/-- **A clean verdict.** -/
theorem streamedClean_of_stream {script : StreamScript}
    (h : (scanner.stream sha256 expectedSha256 euid deadline script).1 = .ok .clean) :
    StreamedClean scanner sha256 expectedSha256 euid script
      (scanner.stream sha256 expectedSha256 euid deadline script).2 := by
  unfold ClamAvUnixSocketScanner.stream at h ⊢
  cases hstart : startStream scanner.maxBytes euid deadline script with
  | error failure =>
      rw [hstart] at h
      cases h
  | ok opened =>
      rw [hstart] at h
      dsimp only at h ⊢
      have hwire := (sendFile_wire scanner.maxBytes deadline script.steps script.stopped).2
      cases hsend : sendFile scanner.maxBytes deadline script.steps script.stopped with
      | mk result wire =>
          rw [hsend] at h hwire
          cases result with
          | error failure => cases h
          | ok content =>
              obtain ⟨hstream, hread, hlength⟩ := hwire content rfl
              obtain ⟨hsize, htrusted⟩ := size_pos_of_startStream hstart
              obtain ⟨completed, -, hfinish⟩ := exists_of_bind_eq_ok h
              obtain ⟨_, hchecked, hfinish⟩ := exists_of_bind_eq_ok hfinish
              obtain ⟨response, hreply, hverdict⟩ := exists_of_bind_eq_ok hfinish
              unfold checkSent at hchecked
              split at hchecked
              · cases hchecked
              · rename_i hsame
                simp only [not_or, not_not, Bool.not_eq_true, Bool.not_eq_false'] at hsame
                obtain ⟨hsame, hdigest⟩ := hsame
                have htotal : content.length = opened.size := by
                  simp only [sameArtifact, Bool.and_eq_true, decide_eq_true_eq] at hsame
                  exact hsame.1.1.1.1.1
                refine ⟨⟨wire, content, rfl, hstream, hread, ?_, hlength, hdigest⟩, htrusted, ?_⟩
                · rw [htotal]
                  exact hsize
                · rw [answer_of_readReply hreply, clean_of_verdictOf hverdict]
                  rfl

/-- A version that is returned was asked of a trusted peer and is in its reply. -/
theorem replied_of_version {asked : VersionScript} {found : Version}
    (h : version euid deadline asked = .ok found) : asked.connection.Trusted euid ∧
      ∃ response, asked.reply.answer =
        .done ((response.map fun c => c.toNat.toUInt8) ++ [0]) ∧ readVersion response = .ok found := by
  obtain ⟨_, hconnected, h⟩ := exists_of_bind_eq_ok h
  obtain ⟨_, -, h⟩ := exists_of_bind_eq_ok h
  obtain ⟨response, hreply, hread⟩ := exists_of_bind_eq_ok h
  exact ⟨Connection.trusted_of_connect hconnected, response, answer_of_readReply hreply, hread⟩

/-- A result that is validated is clean and fresh, and the file has the expected digest. -/
theorem valid_of_validateCleanScanResult {facts : ValidationFacts} {result : ScanResult}
    (h : validateCleanScanResult sha256 expectedSha256 facts result = .ok ()) :
    result.verdict = .clean ∧
      (∃ now, facts.now = some now ∧ isStale result.signaturesUpdatedAt.seconds now = false) ∧
      facts.isFile = true ∧ facts.isSymlink = false ∧
      (∃ metadata, facts.lstat = some metadata ∧ metadata.links = 1) ∧
      ∃ content, facts.content = some content ∧ sha256 content = expectedSha256 := by
  unfold validateCleanScanResult at h
  split at h
  · cases h
  · cases h
  · rename_i now metadata hnow hmetadata
    split at h
    · cases h
    · rename_i hfile
      simp only [not_or, not_not, Bool.not_eq_true, Bool.not_eq_false'] at hfile
      split at h
      · cases h
      · rename_i content hcontent
        split at h
        · cases h
        · rename_i hdigest
          simp only [not_or, not_not] at hdigest
          split at h
          · cases h
          · rename_i hverdict
            split at h
            · cases h
            · rename_i hfresh
              exact ⟨not_not.1 hverdict, ⟨now, hnow, Bool.not_eq_true _ ▸ hfresh⟩, hfile.1, hfile.2.1,
                ⟨metadata, hmetadata, hfile.2.2⟩, content, hcontent, hdigest.1⟩

/-- What the acceptance of an artifact means. -/
structure AcceptedScan (scanner : ClamAvUnixSocketScanner) (sha256 : Bytes → String)
    (expectedSha256 : String) (euid : ℤ) (script : ScanScript) (wire : Bytes) : Prop where
  streamed : StreamedClean scanner sha256 expectedSha256 euid script.stream wire
  askedTrusted : script.asked.connection.Trusted euid
  /-- The signatures are of a moment that the scanner has named, and fresh. -/
  fresh : ∃ response version now, script.asked.reply.answer =
      .done ((response.map fun c => c.toNat.toUInt8) ++ [0]) ∧ readVersion response = .ok version ∧
    script.validated.now = some now ∧ (version.updatedAt.seconds : ℚ) ≤ now + 300 ∧
    now - version.updatedAt.seconds ≤ 86400
  /-- What is at the path is a file of its own with the expected digest. -/
  file : script.validated.isFile = true ∧ script.validated.isSymlink = false ∧
    (∃ metadata, script.validated.lstat = some metadata ∧ metadata.links = 1) ∧
    ∃ content, script.validated.content = some content ∧ sha256 content = expectedSha256

/-- **What an accepted scan means.** Whatever the file does while it is read, whatever the peers
reply and however long anything takes: if the scan of a staged artifact is accepted, then the scanner
has been sent one complete stream, of the artifact up to its end, with the expected digest and within
the limit, over a private socket to a peer of the same user, which has replied that it is clean; the
signatures are fresh; and the file still has the expected digest. -/
theorem scanArtifact_ok {script : ScanScript}
    (h : (scanArtifact scanner sha256 expectedSha256 euid deadline script).1 = .ok ()) :
    AcceptedScan scanner sha256 expectedSha256 euid script
      (scanArtifact scanner sha256 expectedSha256 euid deadline script).2 := by
  unfold scanArtifact ClamAvUnixSocketScanner.scan at h ⊢
  cases hsha : Pdf.isSha256 expectedSha256 with
  | false =>
      rw [hsha] at h
      cases h
  | true =>
      rw [hsha] at h
      cases hversion : version euid deadline script.asked with
      | error failure =>
          rw [hversion] at h
          cases h
      | ok found =>
          rw [hversion] at h
          simp only [Bool.not_true, Bool.false_eq_true, if_false] at h ⊢
          have hclean := @streamedClean_of_stream euid deadline scanner sha256 expectedSha256
            script.stream
          cases hstream : scanner.stream sha256 expectedSha256 euid deadline script.stream with
          | mk result wire =>
              rw [hstream] at h hclean
              cases result with
              | error failure => cases h
              | ok verdict =>
                  obtain ⟨hverdict, ⟨now, hnow, hfresh⟩, hfile, hlink, hlinks, hcontent⟩ :=
                    valid_of_validateCleanScanResult h
                  obtain ⟨htrusted, response, hreply, hread⟩ := replied_of_version hversion
                  obtain rfl : verdict = .clean := hverdict
                  obtain ⟨hfuture, hage⟩ := Bool.or_eq_false_iff.1 hfresh
                  refine ⟨hclean rfl, htrusted, ⟨response, found, now, hreply, hread, hnow, ?_, ?_⟩,
                    hfile, hlink, hlinks, hcontent⟩
                  · exact not_lt.1 (of_decide_eq_false hfuture)
                  · exact not_lt.1 (of_decide_eq_false hage)

end

/-! ## The download -/

/-- How the scan ends for `_store_response`, which rejects the document on every error. -/
def scanEnd : Except ScanFailure Unit → ScanEnd
  | .ok _ => .clean
  | .error (.raised _) => .rejected
  | .error .cancelled => .failed .cancelled

/-- A document that a downloader with a scanner stores has an accepted scan. -/
theorem acceptedScan_of_storeResponse {d : DocumentDownloader} {bitstream : Bitstream}
    {response : UpstreamResponse} {sourceUrl : String} {result : DownloadResult}
    {store : StoringScript} {scanner : ClamAvUnixSocketScanner} {sha256 : Bytes → String}
    {expectedSha256 : String} {euid : ℤ} {deadline : MonotonicDeadline} {script : ScanScript}
    (hscanned : d.scanned = true)
    (hscan : store.scan = scanEnd (scanArtifact scanner sha256 expectedSha256 euid deadline script).1)
    (h : d.storeResponse store bitstream response sourceUrl = .ok result) :
    AcceptedScan scanner sha256 expectedSha256 euid script
      (scanArtifact scanner sha256 expectedSha256 euid deadline script).2 := by
  refine scanArtifact_ok ?_
  unfold DocumentDownloader.storeResponse at h
  split at h
  · cases h
  · split at h
    · cases h
    · obtain ⟨_, -, h⟩ := exists_of_bind_eq_ok h
      obtain ⟨_, -, h⟩ := exists_of_bind_eq_ok h
      split at h
      · cases h
      · obtain ⟨_, hstaged, -⟩ := exists_of_bind_eq_ok h
        unfold DocumentDownloader.scanStaged at hstaged
        rw [if_pos hscanned, hscan] at hstaged
        obtain ⟨_, -, hstaged⟩ := exists_of_bind_eq_ok hstaged
        cases hresult : (scanArtifact scanner sha256 expectedSha256 euid deadline script).1 with
        | ok _ => rfl
        | error failure =>
            rw [hresult] at hstaged
            cases failure <;> cases hstaged

/-! ## A scan that is accepted -/

/-- A scanner's socket of the user 1000. -/
def ownSocket : Connection where
  socket := some ⟨true, false, 1000, 0o600⟩
  opened := ⟨0, .done ()⟩
  isUnix := true
  credentials := some [7, 0, 0, 0, 0xE8, 3, 0, 0, 0xE8, 3, 0, 0]

/-- A file of nine bytes. -/
def nineBytes : FileStat := ⟨true, 1, 5, 77, 9, 1000, 1000⟩

/-- The first five bytes of the file. -/
def firstRead : SendStep where
  read := .done [0x25, 0x50, 0x44, 0x46, 0x2D]
  drained := ⟨0, .done ()⟩
  read_le := by
    rintro chunk ⟨⟩
    decide

/-- The other four. -/
def secondRead : SendStep where
  read := .done [0x31, 0x2E, 0x37, 0x0A]
  drained := ⟨0, .done ()⟩
  read_le := by
    rintro chunk ⟨⟩
    decide

/-- The file is read in two pieces, an hour after the signatures have been updated. -/
def cleanScan : ScanScript where
  asked := {
    connection := ownSocket
    drained := ⟨0, .done ()⟩
    reply := ⟨0, .done ("ClamAV 1.0.7/27500/Mon Jan  5 09:00:00 2026\x00".toList.map
      fun c => c.toNat.toUInt8)⟩ }
  stream := {
    lstat := some nineBytes
    isSymlink := false
    opens := true
    opened := some nineBytes
    connection := ownSocket
    steps := [firstRead, secondRead]
    stopped := ⟨0, .done ()⟩
    completed := some nineBytes
    reply := ⟨0, .done cleanReply⟩ }
  validated := {
    now := some 63903204000
    lstat := some nineBytes
    isFile := true
    isSymlink := false
    content := some [0x25, 0x50, 0x44, 0x46, 0x2D, 0x31, 0x2E, 0x37, 0x0A] }

/-- A scanner for files of up to 4097 bytes. -/
def smallScanner : ClamAvUnixSocketScanner where
  socketPath := "/run/clamav/clamd.ctl".toList
  maxBytes := 4097
  socketPath_absolute := rfl
  socketPath_plain := by decide
  maxBytes_pos := by decide

/-- The digest of the nine bytes. -/
def nineBytesDigest : String := "0716f9264c9fe19f5d7455276107f3ddcc1d3497f63d60689a73558ae8a1bf5e"

theorem scanArtifact_ok_cleanScan :
    AcceptedScan smallScanner (fun _ => nineBytesDigest) nineBytesDigest 1000 cleanScan
      (scanArtifact smallScanner (fun _ => nineBytesDigest) nineBytesDigest 1000
        (GuardSystem.deadlineAt 0 le_rfl) cleanScan).2 :=
  scanArtifact_ok (by decide +kernel)

end NplgMcp.Malware
