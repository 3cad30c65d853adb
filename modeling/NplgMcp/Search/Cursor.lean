import NplgMcp.Library.Base64
import NplgMcp.Search.Results

/-!
# Continuation cursors

`CursorV1`, `sign_cursor` and `verify_cursor` of `tokens.py`, and `encode_cursor` and `decode_cursor`
of `repository.py`. A cursor that is accepted where it was made has the offset it was made with
(`decodeCursor_encodeCursor`).
-/

open Library

namespace NplgMcp

/-- `CURSOR_KEY_ID`. -/
def cursorKeyId : String := "cursor-v1"

/-- `HARD_MAX_CURSOR_TTL_SECONDS`, in microseconds. -/
def hardMaxCursorTtl : ℤ := 3600 * 1000000

/-- `DEFAULT_CURSOR_TTL_SECONDS`, in microseconds. -/
def defaultCursorTtl : ℤ := 900 * 1000000

/-- `_MAX_CURSOR_TOKEN_BYTES`. -/
def maxCursorTokenBytes : ℕ := 1024

/-- `BoundedKeyId`. -/
def isBoundedKeyId (s : List Char) : Bool :=
  1 ≤ s.length && s.length ≤ 64 &&
    s.all fun c => ('a' ≤ c && c ≤ 'z') || c.isDigit || c == '-'

/-- `Sha256`. -/
def isSha256 (s : List Char) : Bool :=
  s.length == 64 && s.all fun c => c.isDigit || ('a' ≤ c && c ≤ 'f')

/-- `[1-9][0-9]{0,31}`. -/
def isBoundedNumber : List Char → Bool
  | [] => false
  | first :: rest => '1' ≤ first && first ≤ '9' && rest.length ≤ 31 && rest.all Char.isDigit

/-- `CanonicalHandle`: two such numbers and a slash, which have at most 65 characters. -/
def isCanonicalHandle (s : List Char) : Bool :=
  match s.splitOn '/' with
  | [first, second] => isBoundedNumber first && isBoundedNumber second
  | _ => false

/-- `CursorV1`; instants are in microseconds. -/
structure CursorV1 where
  keyId : String
  queryHash : String
  scopeHandle : Option String
  offset : ℕ
  pageSize : ℕ
  issuedAt : ℤ
  expiresAt : ℤ
  keyId_bounded : isBoundedKeyId keyId.toList = true
  queryHash_sha256 : isSha256 queryHash.toList = true
  scopeHandle_canonical : scopeHandle.all (fun handle => isCanonicalHandle handle.toList) = true
  offset_le : offset ≤ maxCursorOffset
  pageSize_bounded : 1 ≤ pageSize ∧ pageSize ≤ 50
  lifetime : 0 < expiresAt - issuedAt ∧ expiresAt - issuedAt ≤ hardMaxCursorTtl
  deriving DecidableEq

/-- What cursors are sealed with: the digests of `hashlib` and `hmac`, and the strict JSON codec of
`pydantic`, which reads of what it has written nothing else than what was written. -/
structure CursorCodec where
  sha256Hex : String → String
  hmac : List UInt8 → List UInt8 → List UInt8
  dump : CursorV1 → List UInt8
  load : List UInt8 → Option CursorV1
  load_dump : ∀ cursor found, load (dump cursor) = some found → found = cursor

namespace CursorCodec

variable (codec : CursorCodec)

/-- The bytes of a text. -/
def bytes (s : List Char) : List UInt8 := s.flatMap String.utf8EncodeChar

/-- `derive_cursor_signing_key`, for a secret that is long enough. -/
def deriveCursorSigningKey (secret : List UInt8) : List UInt8 :=
  codec.hmac secret (bytes "nplg-mcp:cursor-signing:v1".toList)

/-- The signature of a payload. -/
def signature (secret : List UInt8) (payload : List Char) : List UInt8 :=
  codec.hmac (codec.deriveCursorSigningKey secret) (bytes payload)

/-- `sign_cursor`. -/
def signCursor (secret : List UInt8) (cursor : CursorV1) : String :=
  let payload := Base64.encode (codec.dump cursor)
  String.ofList (payload ++ '.' :: Base64.encode (codec.signature secret payload))

/-- What is signed by a token, if it is signed. -/
def signedCursor (secret : List UInt8) (token : String) : Option CursorV1 := do
  let payload := token.toList.takeWhile (· ≠ '.')
  match token.toList.dropWhile (· ≠ '.') with
  | [] => none
  | _ :: signature =>
    let supplied ← Base64.decode signature
    if supplied ≠ codec.signature secret payload then none
    else codec.load (← Base64.decode payload)

/-- `verify_cursor`. -/
def verifyCursor (secret : List UInt8) (token normalizedQuery : String) (scope : Option String)
    (pageSize : ℕ) (now : ℤ) : Except AppError CursorV1 := do
  if token = "" ∨ (bytes token.toList).length > maxCursorTokenBytes then
    throw (invalid "Cursor is malformed.")
  match codec.signedCursor secret token with
  | none => throw (invalid "Cursor is malformed.")
  | some cursor =>
    if cursor.keyId ≠ cursorKeyId then throw (invalid "Cursor version is unsupported.")
    if now < cursor.issuedAt ∨ now ≥ cursor.expiresAt then
      throw (invalid "Cursor lifetime is invalid.")
    if cursor.queryHash ≠ codec.sha256Hex normalizedQuery ∨ cursor.scopeHandle ≠ scope ∨
        cursor.pageSize ≠ pageSize then
      throw (invalid "Cursor does not match the search context.")
    return cursor

/-- `decode_cursor`. -/
def decodeCursor (secret : List UInt8) (token normalizedQuery : String) (scope : Option String)
    (pageSize : ℕ) (now : ℤ) : Except AppError ℕ :=
  (codec.verifyCursor secret token normalizedQuery scope pageSize now).map CursorV1.offset

/-- `encode_cursor`: what `CursorV1` does not admit is an invalid offset. -/
def encodeCursor (secret : List UInt8) (offset : ℕ) (normalizedQuery : String)
    (scope : Option String) (pageSize : ℕ) (now : ℤ) : Except AppError String :=
  if h : isSha256 (codec.sha256Hex normalizedQuery).toList = true ∧
      scope.all (fun handle => isCanonicalHandle handle.toList) = true ∧
      offset ≤ maxCursorOffset ∧ 1 ≤ pageSize ∧ pageSize ≤ 50 then
    .ok (codec.signCursor secret
      { keyId := cursorKeyId
        queryHash := codec.sha256Hex normalizedQuery
        scopeHandle := scope
        offset := offset
        pageSize := pageSize
        issuedAt := now
        expiresAt := now + defaultCursorTtl
        keyId_bounded := by decide
        queryHash_sha256 := h.1
        scopeHandle_canonical := h.2.1
        offset_le := h.2.2.1
        pageSize_bounded := h.2.2.2
        lifetime := by
          unfold defaultCursorTtl hardMaxCursorTtl
          omega })
  else .error (invalid "Cursor offset is outside the supported range.")

variable {codec} {secret : List UInt8} {cursor : CursorV1}

/-- What was signed is loaded. -/
theorem signedCursor_signCursor :
    codec.signedCursor secret (codec.signCursor secret cursor) = codec.load (codec.dump cursor) := by
  have hplain : ∀ c ∈ Base64.encode (codec.dump cursor), decide (c ≠ '.') = true := by
    intro c hc
    simpa using ((Base64.encode_symbols _).1 c hc).2.1
  simp only [signedCursor, signCursor, String.toList_ofList]
  rw [List.takeWhile_append_of_pos hplain, List.dropWhile_append_of_pos hplain,
    List.dropWhile_cons_of_neg (by simp), List.takeWhile_cons_of_neg (by simp), List.append_nil]
  simp only [Base64.decode_encode, Option.bind_eq_bind, Option.bind_some, ne_eq, not_true_eq_false,
    if_false]

theorem length_bytes_of_plain {s : List Char} (h : ∀ c ∈ s, c.utf8Size = 1) :
    (bytes s).length = s.length := by
  induction s with
  | nil => rfl
  | cons c rest ih =>
      have hone := h c (List.mem_cons_self ..)
      rw [bytes, List.flatMap_cons, List.length_append, String.length_utf8EncodeChar, hone,
        List.length_cons, Nat.add_comm, ← bytes, ih fun d hd => h d (List.mem_cons_of_mem _ hd)]

/-- How long a token is. -/
theorem length_bytes_signCursor :
    (bytes (codec.signCursor secret cursor).toList).length ≤
      2 * (codec.dump cursor).length + 1 +
        2 * (codec.signature secret (Base64.encode (codec.dump cursor))).length := by
  have hplain : ∀ c ∈ (codec.signCursor secret cursor).toList, c.utf8Size = 1 := by
    intro c hc
    simp only [signCursor, String.toList_ofList, List.mem_append, List.mem_cons] at hc
    rcases hc with hc | rfl | hc
    · exact ((Base64.encode_symbols _).1 c hc).2.2
    · decide
    · exact ((Base64.encode_symbols _).1 c hc).2.2
  have hpayload := Base64.length_encode_le (codec.dump cursor)
  have hsignature := Base64.length_encode_le
    (codec.signature secret (Base64.encode (codec.dump cursor)))
  rw [length_bytes_of_plain hplain, signCursor, String.toList_ofList, List.length_append,
    List.length_cons]
  omega

theorem signCursor_ne_empty : codec.signCursor secret cursor ≠ "" := by
  intro h
  have hnil : (codec.signCursor secret cursor).toList = [] := by rw [h]; rfl
  simp [signCursor] at hnil

/-- The token that is made for a cursor. -/
theorem encodeCursor_eq {query : String} (hkey : cursor.keyId = cursorKeyId)
    (hhash : cursor.queryHash = codec.sha256Hex query)
    (hexpires : cursor.expiresAt = cursor.issuedAt + defaultCursorTtl) :
    codec.encodeCursor secret cursor.offset query cursor.scopeHandle cursor.pageSize
      cursor.issuedAt = .ok (codec.signCursor secret cursor) := by
  obtain ⟨keyId, queryHash, scopeHandle, offset, pageSize, issuedAt, expiresAt, hbounded, hsha, hscope,
    hoffset, hsize, hlifetime⟩ := cursor
  dsimp only at hkey hhash hexpires
  subst hkey hhash hexpires
  rw [encodeCursor, dif_pos ⟨hsha, hscope, hoffset, hsize⟩]

/-- When a token is accepted. -/
theorem verifyCursor_eq {token query : String} {scope : Option String} {pageSize : ℕ} {now : ℤ}
    (hshort : ¬ (token = "" ∨ (bytes token.toList).length > maxCursorTokenBytes))
    (hsigned : codec.signedCursor secret token = some cursor) (hkey : cursor.keyId = cursorKeyId)
    (hnow : cursor.issuedAt ≤ now ∧ now < cursor.expiresAt)
    (hcontext : cursor.queryHash = codec.sha256Hex query ∧ cursor.scopeHandle = scope ∧
      cursor.pageSize = pageSize) :
    codec.verifyCursor secret token query scope pageSize now = .ok cursor := by
  obtain ⟨hhash, hscope, hsize⟩ := hcontext
  rw [verifyCursor, if_neg hshort, hsigned]
  simp only [hkey, hhash, hscope, hsize, ne_eq, not_true_eq_false, if_false, or_self]
  rw [if_neg (by omega)]
  rfl

/-- A cursor that is accepted has the offset it was made with. -/
theorem decodeCursor_encodeCursor {offset found pageSize pageSize' : ℕ} {query query' : String}
    {scope scope' : Option String} {now now' : ℤ} {token : String}
    (hencode : codec.encodeCursor secret offset query scope pageSize now = .ok token)
    (hdecode : codec.decodeCursor secret token query' scope' pageSize' now' = .ok found) :
    found = offset ∧ offset ≤ maxCursorOffset := by
  unfold encodeCursor at hencode
  split at hencode
  case isFalse => cases hencode
  case isTrue hvalid =>
      obtain rfl := Except.ok.inj hencode
      rw [decodeCursor, verifyCursor, signedCursor_signCursor] at hdecode
      refine ⟨?_, hvalid.2.2.1⟩
      simp only [bind, Except.bind, pure, Except.pure, throw, throwThe, MonadExceptOf.throw] at hdecode
      split at hdecode
      · cases hdecode
      · split at hdecode
        next => cases hdecode
        next opened hload =>
          have hopened := codec.load_dump _ _ hload
          split at hdecode
          · cases hdecode
          · split at hdecode
            · cases hdecode
            · split at hdecode
              · cases hdecode
              · rw [← Except.ok.inj hdecode, hopened]

end CursorCodec

end NplgMcp
