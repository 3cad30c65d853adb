import NplgMcp.Library.Framing
import NplgMcp.Pdf.Frames
import NplgMcp.Resilience.UpstreamGuard

/-!
# The malware scanner's client

`ClamAvUnixSocketScanner` of `malware.py`, as far as the bytes of an artifact go: the checks of the
socket and of its peer, the framed sending of the file, the reply, and the verdict. What is written
to the connection is returned beside the result, so that what the scanner has been sent can be spoken
of when the call has failed. The closing of the connection and of the file is left out.
-/

open Library Library.Framing

namespace NplgMcp.Malware

/-! ## Failures -/

/-- What raises a `MalwareScanError`, or the `ValueError` for a time without a zone. -/
inductive ScanError where
  | peerCredentials
  | deadlineInvalid
  | deadlineExpired
  | socketUnavailable
  | socketIdentity
  | transportUnavailable
  | notUnix
  | credentialsUnavailable
  | peerIdentity
  | transportFailed
  | noVerdict
  | malformedVerdict
  | verdictNotAscii
  | versionInvalid
  | timestampInvalid
  | notRegular
  | sizeInvalid
  | artifactUnavailable
  | tooLarge
  | identityChanged
  | changed
  | unrecognizedVerdict
  | expectedInvalid
  | naiveTime
  | unreadable
  | mismatch
  | notClean
  | notFresh
  deriving DecidableEq, Repr

/-- The message that is raised. -/
def ScanError.message : ScanError → String
  | .peerCredentials => "scanner peer credentials are malformed"
  | .deadlineInvalid => "scanner deadline is invalid"
  | .deadlineExpired => "scanner deadline expired"
  | .socketUnavailable => "scanner socket is unavailable"
  | .socketIdentity => "scanner socket identity is invalid"
  | .transportUnavailable => "scanner transport is unavailable"
  | .notUnix => "scanner transport is not Unix-domain IPC"
  | .credentialsUnavailable => "scanner peer credentials are unavailable"
  | .peerIdentity => "scanner peer identity is invalid"
  | .transportFailed => "scanner transport failed"
  | .noVerdict => "scanner did not return a verdict"
  | .malformedVerdict => "scanner returned a malformed verdict"
  | .verdictNotAscii => "scanner verdict is not ASCII"
  | .versionInvalid => "scanner version response is invalid"
  | .timestampInvalid => "scanner signature timestamp is invalid"
  | .notRegular => "scanner artifact is not a regular unlinked file"
  | .sizeInvalid => "scanner artifact size is invalid"
  | .artifactUnavailable => "scanner artifact is unavailable"
  | .tooLarge => "scanner artifact exceeds its configured limit"
  | .identityChanged => "scanner artifact identity changed before streaming"
  | .changed => "scanner artifact changed while streaming"
  | .unrecognizedVerdict => "scanner returned an unrecognized verdict"
  | .expectedInvalid => "scanner expected digest is invalid"
  | .naiveTime => "scanner verification time must be timezone-aware"
  | .unreadable => "scanner artifact could not be read"
  | .mismatch => "scanner verdict does not match artifact bytes"
  | .notClean => "scanner did not return a clean verdict"
  | .notFresh => "scanner signatures are not fresh"

/-- What ends a call without a result: an error, or the cancellation of the task. -/
inductive ScanFailure where
  | raised (error : ScanError)
  | cancelled
  deriving DecidableEq, Repr

/-! ## Waiting -/

/-- How something that is awaited ends; a failure is an `OSError`, which a timeout is too. -/
inductive Answer (α : Type) where
  | done (value : α)
  | failed
  | cancelled
  deriving DecidableEq, Repr

/-- What is awaited, with the time at which its timeout is taken from the deadline. -/
structure Wait (α : Type) where
  now : ℚ
  answer : Answer α
  deriving DecidableEq, Repr

/-- `_remaining`. -/
def remaining (deadline : MonotonicDeadline) (now : ℚ) : Except ScanFailure ℚ :=
  match deadline.remaining now with
  | none => .error (.raised .deadlineInvalid)
  | some remaining =>
    if remaining ≤ 0 then .error (.raised .deadlineExpired) else .ok remaining

/-- `asyncio.wait_for` within what remains; `translated` is what an `OSError` becomes. -/
def Wait.run {α : Type} (wait : Wait α) (deadline : MonotonicDeadline) (translated : ScanError) :
    Except ScanFailure α :=
  match remaining deadline wait.now with
  | .error failure => .error failure
  | .ok _ =>
    match wait.answer with
    | .done value => .ok value
    | .failed => .error (.raised translated)
    | .cancelled => .error .cancelled

/-! ## Connecting -/

/-- `ClamAvUnixSocketScanner`, with the checks of `__post_init__`. -/
structure ClamAvUnixSocketScanner where
  socketPath : List Char
  maxBytes : ℕ
  socketPath_absolute : socketPath.head? = some '/'
  socketPath_plain : '\x00' ∉ socketPath
  maxBytes_pos : 0 < maxBytes

/-- What `lstat` and `is_symlink` say of the socket. -/
structure SocketFacts where
  isSocket : Bool
  isSymlink : Bool
  owner : ℤ
  mode : ℕ
  deriving DecidableEq, Repr

/-- `_verify_socket_path`, for the effective user `euid`. -/
def verifySocketPath (euid : ℤ) : Option SocketFacts → Except ScanFailure Unit
  | none => .error (.raised .socketUnavailable)
  | some facts =>
    if !facts.isSocket ∨ facts.isSymlink ∨ facts.owner ≠ euid ∨ facts.mode % 0o100 ≠ 0 then
      .error (.raised .socketIdentity)
    else .ok ()

/-- `int.from_bytes(value, byteorder="little", signed=True)` of four bytes. -/
def signedNative (value : Bytes) : ℤ :=
  let unsigned : ℕ := value.foldr (fun byte rest => byte.toNat + 256 * rest) 0
  if unsigned < 2 ^ 31 then unsigned else (unsigned : ℤ) - 2 ^ 32

/-- `_peer_credentials`. -/
def peerCredentials (value : Bytes) : Except ScanFailure (ℤ × ℤ × ℤ) :=
  if value.length ≠ 12 then .error (.raised .peerCredentials)
  else .ok (signedNative (value.take 4), signedNative ((value.drop 4).take 4),
    signedNative (value.drop 8))

/-- How a connection is made: the socket's path, the connection, whether it is of the Unix domain,
and the peer's credentials. -/
structure Connection where
  socket : Option SocketFacts
  opened : Wait Unit
  isUnix : Bool
  credentials : Option Bytes
  deriving DecidableEq, Repr

/-- The checks of the peer in `_connect`. -/
def Connection.verifyPeer (connection : Connection) (euid : ℤ) : Except ScanFailure Unit :=
  if !connection.isUnix then .error (.raised .notUnix)
  else match connection.credentials with
  | none => .error (.raised .credentialsUnavailable)
  | some credentials =>
    match peerCredentials credentials with
    | .error failure => .error failure
    | .ok (_, uid, _) => if uid ≠ euid then .error (.raised .peerIdentity) else .ok ()

/-- `_connect`. -/
def Connection.connect (connection : Connection) (euid : ℤ) (deadline : MonotonicDeadline) :
    Except ScanFailure Unit := do
  verifySocketPath euid connection.socket
  connection.opened.run deadline .transportUnavailable
  connection.verifyPeer euid

/-! ## Replies -/

/-- `bytes.decode("ascii", errors="strict")`. -/
def decodeAscii (data : Bytes) : Option (List Char) :=
  if data.all (· < 128) then some (data.map fun byte => Char.ofNat byte.toNat) else none

/-- The checks of a reply. -/
def decodeReply (data : Bytes) : Except ScanFailure (List Char) :=
  if data = [] ∨ 4096 < data.length ∨ data.getLast? ≠ some 0 ∨ data.count 0 ≠ 1 then
    .error (.raised .malformedVerdict)
  else match decodeAscii data.dropLast with
  | none => .error (.raised .verdictNotAscii)
  | some text => .ok text

/-- `_read_reply`. -/
def readReply (reply : Wait Bytes) (deadline : MonotonicDeadline) :
    Except ScanFailure (List Char) := do
  let data ← reply.run deadline .noVerdict
  decodeReply data

/-! ## Sending -/

/-- A pass of the loop of `_send_file`: what `os.read` returns, and the draining of what was written
of it. -/
structure SendStep where
  read : Answer Bytes
  drained : Wait Unit
  read_le : ∀ chunk, read = .done chunk → chunk.length ≤ 64 * 1024

/-- The loop of `_send_file`: the bytes that have been digested, and what has been written. Where the
answers end, `os.read` finds the end of the file. -/
def sendLoop (maxBytes : ℕ) (deadline : MonotonicDeadline) :
    List SendStep → Bytes → Bytes → Except ScanFailure Bytes × Bytes
  | [], content, wire => (.ok content, wire)
  | step :: steps, content, wire =>
    match step.read with
    | .cancelled => (.error .cancelled, wire)
    | .failed => (.error (.raised .transportFailed), wire)
    | .done chunk =>
      if chunk = [] then (.ok content, wire)
      else if maxBytes < content.length + chunk.length then (.error (.raised .tooLarge), wire)
      else
        match step.drained.run deadline .transportFailed with
        | .error failure => (.error failure, wire ++ (Pdf.lengthPrefix chunk.length ++ chunk))
        | .ok _ =>
          sendLoop maxBytes deadline steps (content ++ chunk)
            (wire ++ (Pdf.lengthPrefix chunk.length ++ chunk))

/-- `_send_file`: the bytes that were sent, of which the digest and the number are returned, and what
has been written. -/
def sendFile (maxBytes : ℕ) (deadline : MonotonicDeadline) (steps : List SendStep)
    (stopped : Wait Unit) : Except ScanFailure Bytes × Bytes :=
  match sendLoop maxBytes deadline steps [] [] with
  | (.error failure, wire) => (.error failure, wire)
  | (.ok content, wire) =>
    match stopped.run deadline .transportFailed with
    | .error failure => (.error failure, wire ++ Pdf.lengthPrefix 0)
    | .ok _ => (.ok content, wire ++ Pdf.lengthPrefix 0)

/-! ## The verdict -/

/-- `ScanVerdict`. -/
inductive ScanVerdict where
  | clean
  | infected
  | error
  | signaturesStale
  deriving DecidableEq, Repr

/-- What `lstat` and `fstat` say of the artifact. -/
structure FileStat where
  isRegular : Bool
  links : ℕ
  device : ℕ
  inode : ℕ
  size : ℕ
  mtimeNs : ℕ
  ctimeNs : ℕ
  deriving DecidableEq, Repr

/-- The artifact while it is scanned, and the connection that it is sent over. -/
structure StreamScript where
  lstat : Option FileStat
  isSymlink : Bool
  opens : Bool
  opened : Option FileStat
  connection : Connection
  steps : List SendStep
  stopped : Wait Unit
  completed : Option FileStat
  reply : Wait Bytes

/-- `_open_artifact`. -/
def openArtifact (maxBytes : ℕ) (script : StreamScript) : Except ScanFailure FileStat :=
  match script.lstat with
  | none => .error (.raised .artifactUnavailable)
  | some initial =>
    if script.isSymlink ∨ !initial.isRegular ∨ initial.links ≠ 1 then .error (.raised .notRegular)
    else if initial.size < 1 ∨ maxBytes < initial.size then .error (.raised .sizeInvalid)
    else if !script.opens then .error (.raised .artifactUnavailable)
    else .ok initial

/-- The checks of the opened file. -/
def checkOpened (opened initial : FileStat) : Except ScanFailure Unit :=
  if !opened.isRegular ∨ opened.links ≠ 1 ∨ opened.device ≠ initial.device ∨
      opened.inode ≠ initial.inode ∨ opened.size ≠ initial.size then
    .error (.raised .identityChanged)
  else .ok ()

/-- `_same_artifact`. -/
def sameArtifact (before after : FileStat) (total : ℕ) : Bool :=
  total = before.size && after.device = before.device && after.inode = before.inode &&
    after.size = before.size && after.mtimeNs = before.mtimeNs && after.ctimeNs = before.ctimeNs

/-- The verdict of a reply. -/
def verdictOf (response : List Char) : Except ScanFailure ScanVerdict :=
  if response = "stream: OK".toList then .ok .clean
  else if "stream: ".toList.isPrefixOf response ∧ " FOUND".toList.isSuffixOf response then
    .ok .infected
  else if "stream: ".toList.isPrefixOf response ∧ " ERROR".toList.isSuffixOf response then
    .ok .error
  else .error (.raised .unrecognizedVerdict)

/-- An `OSError` inside `_stream`. -/
def transported {α : Type} : Option α → Except ScanFailure α
  | none => .error (.raised .transportFailed)
  | some value => .ok value

/-- The checks after the sending. -/
def checkSent (sha256 : Bytes → String) (expectedSha256 : String) (opened completed : FileStat)
    (content : Bytes) : Except ScanFailure Unit :=
  if !sameArtifact opened completed content.length ∨ sha256 content ≠ expectedSha256 then
    .error (.raised .changed)
  else .ok ()

/-- What follows the sending in `_stream`. -/
def finishStream (sha256 : Bytes → String) (expectedSha256 : String) (deadline : MonotonicDeadline)
    (script : StreamScript) (opened : FileStat) (content : Bytes) :
    Except ScanFailure ScanVerdict := do
  let completed ← transported script.completed
  checkSent sha256 expectedSha256 opened completed content
  let response ← readReply script.reply deadline
  verdictOf response

/-- What precedes the sending in `_stream`. -/
def startStream (maxBytes : ℕ) (euid : ℤ) (deadline : MonotonicDeadline) (script : StreamScript) :
    Except ScanFailure FileStat := do
  let initial ← openArtifact maxBytes script
  let opened ← transported script.opened
  checkOpened opened initial
  script.connection.connect euid deadline
  return opened

/-- `zINSTREAM` and its end. -/
def instreamCommand : Bytes := "zINSTREAM\x00".toList.map fun c => c.toNat.toUInt8

namespace ClamAvUnixSocketScanner

variable (scanner : ClamAvUnixSocketScanner)

/-- `_stream`: the verdict, and what has been written. -/
def stream (sha256 : Bytes → String) (expectedSha256 : String) (euid : ℤ)
    (deadline : MonotonicDeadline) (script : StreamScript) :
    Except ScanFailure ScanVerdict × Bytes :=
  match startStream scanner.maxBytes euid deadline script with
  | .error failure => (.error failure, [])
  | .ok opened =>
    match sendFile scanner.maxBytes deadline script.steps script.stopped with
    | (.error failure, wire) => (.error failure, instreamCommand ++ wire)
    | (.ok content, wire) =>
      (finishStream sha256 expectedSha256 deadline script opened content, instreamCommand ++ wire)

end ClamAvUnixSocketScanner

/-! ## What the scanner has been sent -/

/-- The headers of the chunks. -/
def chunkHeaders : Headers UInt8 where
  header := Pdf.lengthPrefix
  width := 4
  bound := 2 ^ 32
  width_pos := Nat.zero_lt_succ 3
  length_header := fun _ => rfl
  header_injective := by
    intro size other hsize hother h
    rw [← Pdf.bigEndian_lengthPrefix hsize, h, Pdf.bigEndian_lengthPrefix hother]

/-- What `os.read` returns up to the end of the file. -/
def readToEnd : List SendStep → Bytes
  | [] => []
  | step :: steps =>
    match step.read with
    | .done [] => []
    | .done chunk => chunk ++ readToEnd steps
    | _ => []

section
variable {maxBytes : ℕ} {deadline : MonotonicDeadline} {steps : List SendStep} {stopped : Wait Unit}

/-- **What the loop sends.** It has written whole chunks, and if it has come to the end of the file,
they are the file, which is not longer than allowed. -/
theorem sendLoop_sent {content wire : Bytes} (hcontent : content.length ≤ maxBytes) :
    ∃ chunks : List Bytes,
      (∀ chunk ∈ chunks, chunk ≠ [] ∧ chunk.length < chunkHeaders.bound) ∧
      (sendLoop maxBytes deadline steps content wire).2 = wire ++ frames chunkHeaders chunks ∧
      ∀ sent, (sendLoop maxBytes deadline steps content wire).1 = .ok sent →
        sent = content ++ chunks.flatten ∧ chunks.flatten = readToEnd steps ∧
          sent.length ≤ maxBytes := by
  induction steps generalizing content wire with
  | nil =>
      refine ⟨[], nofun, (List.append_nil wire).symm, ?_⟩
      rintro sent ⟨⟩
      exact ⟨(List.append_nil content).symm, rfl, hcontent⟩
  | cons step steps ih =>
      cases hread : step.read with
      | failed =>
          unfold sendLoop
          rw [hread]
          exact ⟨[], nofun, (List.append_nil wire).symm, nofun⟩
      | cancelled =>
          unfold sendLoop
          rw [hread]
          exact ⟨[], nofun, (List.append_nil wire).symm, nofun⟩
      | done chunk =>
          have hend : chunk = [] → readToEnd (step :: steps) = [] := by
            rintro rfl
            rw [readToEnd, hread]
          have hmore : chunk ≠ [] → readToEnd (step :: steps) = chunk ++ readToEnd steps := by
            intro hne
            rw [readToEnd, hread]
            cases chunk with
            | nil => exact absurd rfl hne
            | cons byte chunk => rfl
          have hbound : chunk.length < chunkHeaders.bound :=
            lt_of_le_of_lt (step.read_le chunk hread) (by decide)
          unfold sendLoop
          rw [hread]
          dsimp only
          split
          · rename_i hempty
            refine ⟨[], nofun, (List.append_nil wire).symm, ?_⟩
            rintro sent ⟨⟩
            exact ⟨(List.append_nil content).symm, (hend hempty).symm, hcontent⟩
          · rename_i hne
            split
            · exact ⟨[], nofun, (List.append_nil wire).symm, nofun⟩
            · rename_i hfits
              split
              · refine ⟨[chunk], List.forall_mem_singleton.2 ⟨hne, hbound⟩, ?_, nofun⟩
                rw [frames, List.flatMap_singleton]
                rfl
              · have hlonger : (content ++ chunk).length ≤ maxBytes := by
                  rw [List.length_append]
                  exact Nat.le_of_not_lt hfits
                obtain ⟨chunks, hchunks, hwire, hsent⟩ :=
                  @ih (content ++ chunk) (wire ++ (Pdf.lengthPrefix chunk.length ++ chunk)) hlonger
                refine ⟨chunk :: chunks, List.forall_mem_cons.2 ⟨⟨hne, hbound⟩, hchunks⟩, ?_, ?_⟩
                · rw [hwire, List.append_assoc]
                  rfl
                · intro sent h
                  obtain ⟨rfl, hread', hlength⟩ := hsent sent h
                  refine ⟨?_, ?_, hlength⟩
                  · rw [List.flatten_cons, List.append_assoc]
                  · rw [List.flatten_cons, hread', hmore hne]

/-- **The scanner is sent the whole artifact or no artifact.** However the reads cut the file, and
wherever the sending ends, if what has been written has a complete stream at its front then that is
all that has been written, it carries the file up to its end, and the file is not longer than allowed;
and what is sent successfully is such a stream. -/
theorem sendFile_wire (maxBytes : ℕ) (deadline : MonotonicDeadline) (steps : List SendStep)
    (stopped : Wait Unit) :
    (∀ wire content, wire <+: (sendFile maxBytes deadline steps stopped).2 →
      Stream chunkHeaders wire content →
        wire = (sendFile maxBytes deadline steps stopped).2 ∧ content = readToEnd steps ∧
          content.length ≤ maxBytes) ∧
      ∀ sent, (sendFile maxBytes deadline steps stopped).1 = .ok sent →
        Stream chunkHeaders (sendFile maxBytes deadline steps stopped).2 sent ∧
          sent = readToEnd steps ∧ sent.length ≤ maxBytes := by
  obtain ⟨chunks, hchunks, hwire, hsent⟩ :=
    @sendLoop_sent maxBytes deadline steps [] [] (Nat.zero_le _)
  rw [List.nil_append] at hwire
  unfold sendFile
  cases hloop : sendLoop maxBytes deadline steps [] [] with
  | mk result sentWire =>
      rw [hloop] at hwire hsent
      obtain rfl : sentWire = frames chunkHeaders chunks := hwire
      cases result with
      | error failure =>
          refine ⟨fun wire content hstart hstream => ?_, nofun⟩
          exact absurd hstream (not_stream_frames hchunks hstart)
      | ok sent =>
          obtain ⟨hflat, hread, hlength⟩ := hsent sent rfl
          rw [List.nil_append] at hflat
          have hstream : Stream chunkHeaders (frames chunkHeaders chunks ++ Pdf.lengthPrefix 0) sent :=
            hflat ▸ stream_frames hchunks
          have hunique : ∀ wire content,
              wire <+: frames chunkHeaders chunks ++ Pdf.lengthPrefix 0 →
              Stream chunkHeaders wire content →
                wire = frames chunkHeaders chunks ++ Pdf.lengthPrefix 0 ∧
                  content = readToEnd steps ∧ content.length ≤ maxBytes := by
            intro wire content hstart hs
            obtain ⟨rfl, rfl⟩ := hs.prefix_unique hstream hstart
            exact ⟨rfl, hflat.trans hread, hlength⟩
          dsimp only
          cases stopped.run deadline .transportFailed with
          | error failure => exact ⟨hunique, nofun⟩
          | ok _ =>
              refine ⟨hunique, ?_⟩
              rintro sent' ⟨⟩
              exact ⟨hstream, hflat.trans hread, hlength⟩

end

end NplgMcp.Malware
