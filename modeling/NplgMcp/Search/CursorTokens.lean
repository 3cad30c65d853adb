import Mathlib.Data.List.TakeWhile
import NplgMcp.Library.JsonAscii
import NplgMcp.Search.Cursor

/-!
# The codec of continuation cursors

The JSON of `CursorV1`, and `encode_cursor` and `decode_cursor` of `repository.py` with every way in
which they fail. `CursorPlatform.codec` is what `CursorCodec` leaves open, and `cursor_codec` says
what a cursor can be used for. Instants are those of datetimes in UTC, as `cursor_clock` gives them.
-/

open Library JsonText

namespace NplgMcp

/-! ## The model -/

/-- `datetime.min` and `datetime.max`. -/
def InCalendar (instant : ℤ) : Prop :=
  -62135596800 * 1000000 ≤ instant ∧ instant < 253402300800 * 1000000

instance (instant : ℤ) : Decidable (InCalendar instant) :=
  inferInstanceAs (Decidable
    (-62135596800 * 1000000 ≤ instant ∧ instant < 253402300800 * 1000000))

/-- A datetime in UTC. -/
abbrev Datetime := { instant : ℤ // InCalendar instant }

/-- What is used of `hashlib`, `hmac` and `json`, and the text that `pydantic` gives an instant. A
text that is not that of an aware datetime is no instant. -/
structure CursorPlatform where
  sha256Hex : String → String
  hmacSha256 : List UInt8 → List UInt8 → List UInt8
  writeFloat : ℚ → List Char
  readFloat : List Char → Option ℚ
  writeInstant : ℤ → List Char
  readInstant : List Char → Option ℤ
  /-- a digest has 32 bytes -/
  length_hmacSha256 : ∀ key message, (hmacSha256 key message).length = 32
  /-- an instant is written in at most 32 characters that no literal escapes -/
  writeInstant_plain : ∀ instant, InCalendar instant →
    (writeInstant instant).length ≤ 32 ∧ Plain (writeInstant instant)
  /-- an instant is read back -/
  readInstant_writeInstant : ∀ instant, InCalendar instant →
    readInstant (writeInstant instant) = some instant

/-- The fields of `CursorV1`. -/
def cursorFields : List String :=
  ["version", "key_id", "query_hash", "scope_handle", "offset", "page_size", "issued_at",
    "expires_at"]

/-- The value of an integer. -/
def asInt : JsonTree → Option ℤ
  | .int value => some value
  | _ => none

/-- The value of a string. -/
def asStr : JsonTree → Option String
  | .str value => some value
  | _ => none

/-- The value of a string or null. -/
def asOptionalStr : JsonTree → Option (Option String)
  | .null => some none
  | .str value => some (some value)
  | _ => none

namespace CursorPlatform

variable (p : CursorPlatform)

/-- How `json` and `pydantic` write and read numbers. -/
def json : Codec := ⟨p.writeFloat, p.readFloat, 4300⟩

/-- The members of a cursor, in the order of the fields. -/
def members (cursor : CursorV1) : List (String × JsonTree) :=
  [("version", .int 1), ("key_id", .str cursor.keyId), ("query_hash", .str cursor.queryHash),
    ("scope_handle", cursor.scopeHandle.elim .null .str), ("offset", .int cursor.offset),
    ("page_size", .int cursor.pageSize),
    ("issued_at", .str (String.ofList (p.writeInstant cursor.issuedAt))),
    ("expires_at", .str (String.ofList (p.writeInstant cursor.expiresAt)))]

/-- The cursor has datetimes. -/
def HasDatetimes (cursor : CursorV1) : Prop :=
  InCalendar cursor.issuedAt ∧ InCalendar cursor.expiresAt

instance (cursor : CursorV1) : Decidable (HasDatetimes cursor) :=
  inferInstanceAs (Decidable (InCalendar cursor.issuedAt ∧ InCalendar cursor.expiresAt))

/-- `model_dump_json`, of a cursor that has datetimes. -/
def modelDumpJson (cursor : CursorV1) : List Char := (JsonTree.obj (p.members cursor)).text p.json

/-- The validation of `CursorV1`. -/
def validated (version : ℤ) (keyId queryHash : String) (scopeHandle : Option String)
    (offset pageSize issuedAt expiresAt : ℤ) : Option CursorV1 :=
  if h : version = 1 ∧ isBoundedKeyId keyId.toList = true ∧ isSha256 queryHash.toList = true ∧
      scopeHandle.all (fun handle => isCanonicalHandle handle.toList) = true ∧
      (0 ≤ offset ∧ offset ≤ maxCursorOffset) ∧ (1 ≤ pageSize ∧ pageSize ≤ 50) ∧
      0 < expiresAt - issuedAt ∧ expiresAt - issuedAt ≤ hardMaxCursorTtl then
    some
      { keyId := keyId
        queryHash := queryHash
        scopeHandle := scopeHandle
        offset := offset.toNat
        pageSize := pageSize.toNat
        issuedAt := issuedAt
        expiresAt := expiresAt
        keyId_bounded := h.2.1
        queryHash_sha256 := h.2.2.1
        scopeHandle_canonical := h.2.2.2.1
        offset_le := by omega
        pageSize_bounded := by omega
        lifetime := h.2.2.2.2.2.2 }
  else none

/-- What is read of the members of an object: every field, and no other. -/
def modelValidate (found : List (String × JsonTree)) : Option CursorV1 := do
  guard (found.all fun member => cursorFields.contains member.1)
  let version ← (found.lookup "version").bind asInt
  let keyId ← (found.lookup "key_id").bind asStr
  let queryHash ← (found.lookup "query_hash").bind asStr
  let scopeHandle ← (found.lookup "scope_handle").bind asOptionalStr
  let offset ← (found.lookup "offset").bind asInt
  let pageSize ← (found.lookup "page_size").bind asInt
  let issuedAt ← (found.lookup "issued_at").bind asStr
  let issuedAt ← p.readInstant issuedAt.toList
  let expiresAt ← (found.lookup "expires_at").bind asStr
  let expiresAt ← p.readInstant expiresAt.toList
  validated version keyId queryHash scopeHandle offset pageSize issuedAt expiresAt

/-- `model_validate_json`. -/
def modelValidateJson (text : List Char) : Option CursorV1 :=
  match loads p.json text with
  | some (.obj found) => p.modelValidate found
  | _ => none

/-- The cursor of a payload: `load_json_value` without duplicate keys, `json.dumps` with sorted keys,
and `model_validate_json`. Payloads in UTF-16 or UTF-32 or nested beyond the interpreter's stack, of
which none is signed, are not read. -/
def load (payload : List UInt8) : Option CursorV1 := do
  let text ← payload.toByteArray.utf8Decode?
  match ← loads p.json text.toList with
  | .obj found =>
    guard (JsonTree.obj found).isJsonValue
    p.modelValidateJson (ensureAscii ((JsonTree.obj found).sortKeys.text p.json))
  | _ => none

variable {p : CursorPlatform} {cursor : CursorV1}

/-! ## A cursor is read back -/

/-- Digits are plain. -/
theorem plain_digits {s : List Char} (h : ∀ c ∈ s, c.isDigit = true) : Plain s := by
  intro c hc
  have hdigit := h c hc
  refine ⟨printable_of_isDigit hdigit, ?_, ?_⟩
  · rintro rfl
    exact absurd hdigit (by decide)
  · rintro rfl
    exact absurd hdigit (by decide)

/-- Small letters and digits are plain. -/
theorem plain_of_lower {last c : Char} (hlast : last ≤ 'z')
    (h : ('a' ≤ c ∧ c ≤ last) ∨ c.isDigit = true) : Printable c ∧ c ≠ '"' ∧ c ≠ '\\' := by
  rcases h with ⟨hlow, hhigh⟩ | hdigit
  · have hhigh : c ≤ 'z' := UInt32.le_trans hhigh hlast
    refine ⟨⟨UInt32.le_trans (by decide) hlow, UInt32.le_trans hhigh (by decide)⟩, ?_, ?_⟩
    · rintro rfl
      exact absurd hlow (by decide)
    · rintro rfl
      exact absurd hlow (by decide)
  · exact plain_digits (s := [c]) (by simpa using hdigit) c (List.mem_singleton_self c)

/-- A key id is plain. -/
theorem plain_keyId {s : List Char} (h : isBoundedKeyId s = true) : Plain s := by
  intro c hc
  simp only [isBoundedKeyId, Bool.and_eq_true, List.all_eq_true, Bool.or_eq_true,
    decide_eq_true_eq, beq_iff_eq] at h
  rcases h.2 c hc with hlower | rfl
  · exact @plain_of_lower 'z' _ (by decide) hlower
  · exact ⟨by decide, by decide, by decide⟩

/-- A digest is plain. -/
theorem plain_sha256 {s : List Char} (h : isSha256 s = true) : Plain s := by
  intro c hc
  simp only [isSha256, Bool.and_eq_true, List.all_eq_true, Bool.or_eq_true, decide_eq_true_eq] at h
  exact @plain_of_lower 'f' _ (by decide) (h.2 c hc).symm

/-- A bounded number has digits only, and at most 32. -/
theorem boundedNumber_digits {s : List Char} (h : isBoundedNumber s = true) :
    (∀ c ∈ s, c.isDigit = true) ∧ s.length ≤ 32 := by
  cases s with
  | nil => cases h
  | cons first rest =>
      simp only [isBoundedNumber, Bool.and_eq_true, decide_eq_true_eq, List.all_eq_true] at h
      obtain ⟨⟨⟨hlow, hhigh⟩, hlength⟩, hrest⟩ := h
      refine ⟨fun c hc => ?_, Nat.succ_le_succ hlength⟩
      rcases List.mem_cons.1 hc with rfl | hc
      · simp only [Char.isDigit, Bool.and_eq_true, decide_eq_true_eq]
        exact ⟨UInt32.le_trans (by decide) hlow, hhigh⟩
      · exact hrest c hc

/-- A handle is plain, and has at most 65 characters. -/
theorem plain_handle {s : List Char} (h : isCanonicalHandle s = true) : Plain s ∧ s.length ≤ 65 := by
  unfold isCanonicalHandle at h
  split at h
  next first second hsplit =>
    obtain ⟨hfirst, hsecond⟩ := Bool.and_eq_true_iff.1 h
    obtain ⟨hdigits, hlength⟩ := boundedNumber_digits hfirst
    obtain ⟨hdigits', hlength'⟩ := boundedNumber_digits hsecond
    have hs : s = first ++ '/' :: second := by
      have hjoin : ['/'].intercalate (s.splitOn '/') = s := List.intercalate_splitOn '/'
      rw [hsplit] at hjoin
      simpa [List.intercalate] using hjoin.symm
    rw [hs]
    refine ⟨fun c hc => ?_, by simp only [List.length_append, List.length_cons]; omega⟩
    rcases List.mem_append.1 hc with hc | hc
    · exact plain_digits hdigits c hc
    · rcases List.mem_cons.1 hc with rfl | hc
      · exact ⟨by decide, by decide, by decide⟩
      · exact plain_digits hdigits' c hc
  next => cases h

/-- What is written for a cursor can be read back and is printable. -/
structure WrittenMember (p : CursorPlatform) (member : String × JsonTree) : Prop where
  plain_key : Plain member.1.toList
  readable : member.2.Readable p.json
  printable : ∀ c ∈ member.2.text p.json, Printable c

/-- A member with a plain string. -/
theorem writtenMember_str {key value : String} (hkey : Plain key.toList) (h : Plain value.toList) :
    WrittenMember p (key, .str value) :=
  ⟨hkey, trivial, printable_stringText h⟩

/-- A member with a small number. -/
theorem writtenMember_int {key : String} {value : ℕ} (hkey : Plain key.toList)
    (h : value < 10 ^ 8) : WrittenMember p (key, .int value) := by
  refine ⟨hkey, ?_, fun c hc => (plain_text_ofInt value c hc).1⟩
  change (Nat.toDigits 10 value).length ≤ 4300
  have hlength := (Nat.length_toDigits_le_iff (n := value) (b := 10) (by omega) (by omega)).2 h
  omega

/-- The members of a cursor are written so. -/
theorem writtenMember_members (h : HasDatetimes cursor) :
    ∀ member ∈ p.members cursor, WrittenMember p member := by
  have hissued := (p.writeInstant_plain _ h.1).2
  have hexpires := (p.writeInstant_plain _ h.2).2
  have hoffset : cursor.offset ≤ 10000000 := cursor.offset_le
  have hsize := cursor.pageSize_bounded
  intro member hmember
  simp only [members, List.mem_cons, List.not_mem_nil, or_false] at hmember
  rcases hmember with rfl | rfl | rfl | rfl | rfl | rfl | rfl | rfl
  · exact @writtenMember_int p _ 1 (by decide) (by decide)
  · exact writtenMember_str (by decide) (plain_keyId cursor.keyId_bounded)
  · exact writtenMember_str (by decide) (plain_sha256 cursor.queryHash_sha256)
  · cases hscope : cursor.scopeHandle with
    | none =>
        have hnull : Plain ['n', 'u', 'l', 'l'] := by decide
        exact ⟨by decide, trivial, fun c hc => (hnull c hc).1⟩
    | some handle =>
        have hcanonical := cursor.scopeHandle_canonical
        rw [hscope] at hcanonical
        exact writtenMember_str (by decide) (plain_handle hcanonical).1
  · exact writtenMember_int (by decide) (by omega)
  · exact writtenMember_int (by decide) (by omega)
  · exact writtenMember_str (by decide) (by rwa [String.toList_ofList])
  · exact writtenMember_str (by decide) (by rwa [String.toList_ofList])

/-- The members sorted by their keys. -/
def sortedMembers (p : CursorPlatform) (cursor : CursorV1) : List (String × JsonTree) :=
  [("expires_at", .str (String.ofList (p.writeInstant cursor.expiresAt))),
    ("issued_at", .str (String.ofList (p.writeInstant cursor.issuedAt))),
    ("key_id", .str cursor.keyId), ("offset", .int cursor.offset),
    ("page_size", .int cursor.pageSize), ("query_hash", .str cursor.queryHash),
    ("scope_handle", cursor.scopeHandle.elim .null .str), ("version", .int 1)]

/-- The keys in their order. -/
theorem sortKeys_members :
    (JsonTree.obj (p.members cursor)).sortKeys = .obj (p.sortedMembers cursor) := by
  have hscope : (cursor.scopeHandle.elim JsonTree.null JsonTree.str).sortKeys =
      cursor.scopeHandle.elim .null .str := by
    cases cursor.scopeHandle <;> rfl
  simp [members, sortedMembers, JsonTree.sortKeys, sortMembers, hscope, List.insertionSort,
    List.orderedInsert, KeyLe]

/-- The sorted members are the same. -/
theorem mem_sortedMembers {member : String × JsonTree} :
    member ∈ p.sortedMembers cursor ↔ member ∈ p.members cursor := by
  simp only [sortedMembers, members, List.mem_cons, List.not_mem_nil, or_false]
  tauto

/-- The text of members that are written so is read back. -/
theorem loads_members {found : List (String × JsonTree)}
    (hkeys : (found.map Prod.fst).Nodup) (h : ∀ member ∈ found, WrittenMember p member) :
    loads p.json ((JsonTree.obj found).text p.json) = some (.obj found) :=
  loads_text ⟨hkeys, membersReadable_iff.2 fun item hitem => by
    obtain ⟨member, hmember, rfl⟩ := List.mem_map.1 hitem
    exact (h member hmember).readable⟩

/-- The text of members that are written so is printable. -/
theorem printable_members {found : List (String × JsonTree)}
    (h : ∀ member ∈ found, WrittenMember p member) :
    ∀ c ∈ (JsonTree.obj found).text p.json, Printable c := by
  intro c hc
  rcases List.mem_cons.1 hc with rfl | hc
  · decide
  · exact printable_membersText (fun member hmember =>
      ⟨printable_stringText (h member hmember).plain_key, (h member hmember).printable⟩) c hc

/-- What is validated is the cursor that was written. -/
theorem modelValidate_sortedMembers (h : HasDatetimes cursor) :
    p.modelValidate (p.sortedMembers cursor) = some cursor := by
  have hfields : ((p.sortedMembers cursor).all fun member => cursorFields.contains member.1) = true :=
    rfl
  have hversion : (p.sortedMembers cursor).lookup "version" = some (.int 1) := rfl
  have hkeyId : (p.sortedMembers cursor).lookup "key_id" = some (.str cursor.keyId) := rfl
  have hqueryHash : (p.sortedMembers cursor).lookup "query_hash" = some (.str cursor.queryHash) := rfl
  have hscope : (p.sortedMembers cursor).lookup "scope_handle" =
      some (cursor.scopeHandle.elim .null .str) := rfl
  have hoffset : (p.sortedMembers cursor).lookup "offset" = some (.int cursor.offset) := rfl
  have hsize : (p.sortedMembers cursor).lookup "page_size" = some (.int cursor.pageSize) := rfl
  have hissued : (p.sortedMembers cursor).lookup "issued_at" =
      some (.str (String.ofList (p.writeInstant cursor.issuedAt))) := rfl
  have hexpires : (p.sortedMembers cursor).lookup "expires_at" =
      some (.str (String.ofList (p.writeInstant cursor.expiresAt))) := rfl
  have hoptional : asOptionalStr (cursor.scopeHandle.elim .null .str) = some cursor.scopeHandle := by
    cases cursor.scopeHandle <;> rfl
  have hbound : (cursor.offset : ℤ) ≤ maxCursorOffset := Int.ofNat_le.2 cursor.offset_le
  have hpageSize := cursor.pageSize_bounded
  simp only [modelValidate, hfields, hversion, hkeyId, hqueryHash, hscope, hoffset, hsize, hissued,
    hexpires, Option.bind_some, asInt, asStr, hoptional, String.toList_ofList,
    p.readInstant_writeInstant _ h.1, p.readInstant_writeInstant _ h.2, Option.bind_eq_bind,
    guard_true, Option.pure_def]
  rw [validated, dif_pos ⟨rfl, cursor.keyId_bounded, cursor.queryHash_sha256,
    cursor.scopeHandle_canonical, by omega, by omega, cursor.lifetime⟩]
  rfl

/-- What is loaded of a cursor that has datetimes is the cursor. -/
theorem load_modelDumpJson (h : HasDatetimes cursor) :
    p.load (CursorCodec.bytes (p.modelDumpJson cursor)) = some cursor := by
  have hwritten := writtenMember_members (p := p) h
  have hsorted : ∀ member ∈ p.sortedMembers cursor, WrittenMember p member :=
    fun member hmember => hwritten member (mem_sortedMembers.1 hmember)
  have hdecode : (CursorCodec.bytes (p.modelDumpJson cursor)).toByteArray.utf8Decode? =
      some (p.modelDumpJson cursor).toArray := List.utf8Decode?_utf8Encode
  have hraw : loads p.json (p.modelDumpJson cursor) = some (.obj (p.members cursor)) :=
    loads_members (by simp [members]) hwritten
  have hvalue : (JsonTree.obj (p.members cursor)).isJsonValue = true := by
    have hscope : (cursor.scopeHandle.elim JsonTree.null JsonTree.str).isJsonValue = true := by
      cases cursor.scopeHandle <;> rfl
    simp [members, JsonTree.isJsonValue, membersAreJsonValues, hscope]
  have hagain : loads p.json ((JsonTree.obj (p.sortedMembers cursor)).text p.json) =
      some (.obj (p.sortedMembers cursor)) := loads_members (by simp [sortedMembers]) hsorted
  simp only [load, hdecode, hraw, hvalue, Option.bind_eq_bind, Option.bind_some, guard_true,
    Option.pure_def]
  rw [sortKeys_members, ensureAscii_of_printable (printable_members hsorted), modelValidateJson,
    hagain]
  exact modelValidate_sortedMembers h

/-- No text is that of nothing. -/
theorem load_nil : p.load [] = none := rfl

variable (p) in
/-- The JSON of cursors; a cursor without datetimes, which cannot be made, has none. -/
def codec : CursorCodec where
  sha256Hex := p.sha256Hex
  hmac := p.hmacSha256
  dump cursor := if HasDatetimes cursor then CursorCodec.bytes (p.modelDumpJson cursor) else []
  load := p.load
  load_dump cursor found hload := by
    by_cases h : HasDatetimes cursor
    · rw [if_pos h, load_modelDumpJson h] at hload
      exact (Option.some.inj hload).symm
    · rw [if_neg h, load_nil] at hload
      cases hload

/-! ## The length of a token -/

/-- How long a plain string is in a text. -/
theorem width_str {value : String} {length : ℕ} (h : Plain value.toList)
    (hlength : value.toList.length ≤ length) :
    width ((JsonTree.str value).text p.json) ≤ length + 2 := by
  rw [JsonTree.text, width_stringText_of_plain h]
  exact Nat.add_le_add_right hlength 2

/-- How long the text of an instant is. -/
theorem width_instant {instant : ℤ} (h : InCalendar instant) :
    width ((JsonTree.str (String.ofList (p.writeInstant instant))).text p.json) ≤ 34 := by
  obtain ⟨hlength, hplain⟩ := p.writeInstant_plain _ h
  rw [← String.toList_ofList (l := p.writeInstant instant)] at hlength hplain
  exact width_str hplain hlength

/-- How long the text of a cursor is. -/
theorem width_modelDumpJson (h : HasDatetimes cursor) : width (p.modelDumpJson cursor) ≤ 400 := by
  have hkeyLength : cursor.keyId.toList.length ≤ 64 := by
    have hbounded := cursor.keyId_bounded
    simp only [isBoundedKeyId, Bool.and_eq_true, decide_eq_true_eq] at hbounded
    exact hbounded.1.2
  have hhashLength : cursor.queryHash.toList.length ≤ 64 := by
    have hsha := cursor.queryHash_sha256
    simp only [isSha256, Bool.and_eq_true, beq_iff_eq] at hsha
    exact hsha.1.le
  have hversion : width ((JsonTree.int 1).text p.json) ≤ 1 := @width_natural 1 1 (by omega) (by omega)
  have hkeyId := width_str (p := p) (plain_keyId cursor.keyId_bounded) hkeyLength
  have hqueryHash := width_str (p := p) (plain_sha256 cursor.queryHash_sha256) hhashLength
  have hscope : width ((cursor.scopeHandle.elim JsonTree.null JsonTree.str).text p.json) ≤ 67 := by
    cases hscope : cursor.scopeHandle with
    | none =>
        have hnull : width ['n', 'u', 'l', 'l'] ≤ 67 := by decide
        exact hnull
    | some handle =>
        have hcanonical := cursor.scopeHandle_canonical
        rw [hscope] at hcanonical
        exact width_str (plain_handle hcanonical).1 (plain_handle hcanonical).2
  have hoffset : width ((JsonTree.int cursor.offset).text p.json) ≤ 8 := by
    have hle : cursor.offset ≤ 10000000 := cursor.offset_le
    exact width_natural (by omega) (by omega)
  have hpageSize : width ((JsonTree.int cursor.pageSize).text p.json) ≤ 2 := by
    have hle := cursor.pageSize_bounded
    exact width_natural (by omega) (by omega)
  have hissuedAt := width_instant (p := p) h.1
  have hexpiresAt := width_instant (p := p) h.2
  have hkeys : ((p.members cursor).map fun member => width (stringText member.1) + 2).sum ≤ 101 := by
    have hfields : ((p.members cursor).map fun member => width (stringText member.1) + 2) =
        cursorFields.map fun key => width (stringText key) + 2 := rfl
    rw [hfields]
    decide
  have hvalues : ((p.members cursor).map fun member => width (member.2.text p.json)).sum ≤ 280 := by
    simp only [members, List.map_cons, List.map_nil, List.sum_cons, List.sum_nil]
    omega
  have hmembers := @width_membersText_le p.json (p.members cursor)
  have hbrace : ('\x7b' : Char).utf8Size = 1 := rfl
  rw [modelDumpJson, JsonTree.text, width_cons, hbrace]
  omega

/-- A token has at most 1,024 bytes. -/
theorem length_signCursor {secret : List UInt8} (h : HasDatetimes cursor) :
    (CursorCodec.bytes (p.codec.signCursor secret cursor).toList).length ≤ maxCursorTokenBytes := by
  have htoken := @CursorCodec.length_bytes_signCursor p.codec secret cursor
  have hdump : (p.codec.dump cursor).length ≤ 400 := by
    change (if HasDatetimes cursor then CursorCodec.bytes (p.modelDumpJson cursor) else []).length ≤ _
    rw [if_pos h]
    exact width_modelDumpJson h
  have hsignature : (p.codec.signature secret (Base64.encode (p.codec.dump cursor))).length = 32 :=
    p.length_hmacSha256 _ _
  rw [hsignature] at htoken
  unfold maxCursorTokenBytes
  omega

/-! ## Encoding and decoding -/

/-- What encoding and decoding raise. -/
inductive CursorFailure where
  | app (error : AppError)
  | valueError
  | overflowError
  deriving DecidableEq, Repr

/-- `_MIN_SIGNING_SECRET_BYTES`. -/
def minSigningSecretBytes : ℕ := 32

variable (p)

/-- `encode_cursor`: the query has a digest unless it is empty, the expiry is a datetime unless it is
beyond the calendar, and the secret has a signing key unless it is short. -/
def encodeCursor (secret : List UInt8) (offset : ℤ) (normalizedQuery : String)
    (scope : Option String) (pageSize : ℤ) (now : Datetime) : Except CursorFailure String :=
  if normalizedQuery = "" then
    .error (.app (invalid "Cursor offset is outside the supported range."))
  else if ¬ InCalendar (now + defaultCursorTtl) then .error .overflowError
  else if offset < 0 ∨ pageSize < 0 then
    .error (.app (invalid "Cursor offset is outside the supported range."))
  else
    match p.codec.encodeCursor secret offset.toNat normalizedQuery scope pageSize.toNat now with
    | .error error => .error (.app error)
    | .ok token => if secret.length < minSigningSecretBytes then .error .valueError else .ok token

/-- `verify_cursor`: a short secret is one of the things that make a cursor malformed, and the digest
of an empty query is not among those that are caught. -/
def verifyCursor (secret : List UInt8) (token normalizedQuery : String) (scope : Option String)
    (pageSize : ℤ) (now : Datetime) : Except CursorFailure CursorV1 :=
  if token = "" ∨ (CursorCodec.bytes token.toList).length > maxCursorTokenBytes ∨
      secret.length < minSigningSecretBytes then
    .error (.app (invalid "Cursor is malformed."))
  else
    match p.codec.signedCursor secret token with
    | none => .error (.app (invalid "Cursor is malformed."))
    | some cursor =>
      if cursor.keyId ≠ cursorKeyId then .error (.app (invalid "Cursor version is unsupported."))
      else if now < cursor.issuedAt ∨ now ≥ cursor.expiresAt then
        .error (.app (invalid "Cursor lifetime is invalid."))
      else if normalizedQuery = "" then .error .valueError
      else if cursor.queryHash ≠ p.sha256Hex normalizedQuery ∨ cursor.scopeHandle ≠ scope ∨
          cursor.pageSize ≠ pageSize then
        .error (.app (invalid "Cursor does not match the search context."))
      else .ok cursor

/-- `decode_cursor`. -/
def decodeCursor (secret : List UInt8) (token normalizedQuery : String) (scope : Option String)
    (pageSize : ℤ) (now : Datetime) : Except CursorFailure ℤ :=
  (p.verifyCursor secret token normalizedQuery scope pageSize now).map fun cursor => cursor.offset

/-- The token is a payload with its signature under the derived key. -/
def Authenticated (secret : List UInt8) (token : String) (payload : List Char) : Prop :=
  ∃ tag, token.toList = payload ++ '.' :: tag ∧ '.' ∉ payload ∧
    Base64.decode tag = some (p.codec.signature secret payload)

/-- What an ideal code promises of a token: if it is signed, one of the cursors that were signed is
its payload. -/
def Unforged (secret : List UInt8) (signed : CursorV1 → Prop) (token : String) : Prop :=
  ∀ payload, p.Authenticated secret token payload →
    ∃ cursor, signed cursor ∧ payload = Base64.encode (p.codec.dump cursor)

variable {p} {secret : List UInt8} {token query : String} {scope : Option String} {pageSize : ℤ}
  {now : Datetime}

/-- What `search` has, a long secret and a query that is not empty, is all that `verify_cursor` of
the codec is about. -/
theorem verifyCursor_eq_codec {size : ℕ} (hsecret : minSigningSecretBytes ≤ secret.length)
    (hquery : query ≠ "") :
    p.verifyCursor secret token query scope size now =
      (p.codec.verifyCursor secret token query scope size now).mapError .app := by
  have hlong : ¬ secret.length < minSigningSecretBytes := by omega
  unfold verifyCursor CursorCodec.verifyCursor
  by_cases hshape : token = "" ∨ (CursorCodec.bytes token.toList).length > maxCursorTokenBytes
  · rw [if_pos (hshape.imp_right .inl), if_pos hshape]
    rfl
  · have hshape' : ¬ (token = "" ∨ (CursorCodec.bytes token.toList).length > maxCursorTokenBytes ∨
        secret.length < minSigningSecretBytes) := by tauto
    rw [if_neg hshape', if_neg hshape]
    cases p.codec.signedCursor secret token with
    | none => rfl
    | some cursor =>
        have hcast : ((cursor.pageSize : ℤ) ≠ size) ↔ cursor.pageSize ≠ size := by omega
        have hsha : p.codec.sha256Hex = p.sha256Hex := rfl
        simp only [if_neg hquery, hcast, hsha]
        split_ifs <;> rfl

/-- A token that is made is that of a cursor with datetimes. -/
theorem encodeCursor_cases {offset : ℤ}
    (h : p.encodeCursor secret offset query scope pageSize now = .ok token) :
    query ≠ "" ∧ minSigningSecretBytes ≤ secret.length ∧ ∃ cursor : CursorV1,
      HasDatetimes cursor ∧ token = p.codec.signCursor secret cursor ∧
      cursor.keyId = cursorKeyId ∧ cursor.queryHash = p.sha256Hex query ∧
      cursor.scopeHandle = scope ∧ (cursor.offset : ℤ) = offset ∧ (cursor.pageSize : ℤ) = pageSize ∧
      cursor.issuedAt = now ∧ cursor.expiresAt = now + defaultCursorTtl := by
  unfold encodeCursor at h
  split at h
  case isTrue => cases h
  case isFalse hquery =>
      split at h
      case isTrue => cases h
      case isFalse hcalendar =>
          split at h
          case isTrue => cases h
          case isFalse hnegative =>
              unfold CursorCodec.encodeCursor at h
              split at h
              case h_1 => cases h
              case h_2 made hmade =>
                  split at hmade
                  case isFalse => cases hmade
                  case isTrue hvalid =>
                      split at h
                      case isTrue => cases h
                      case isFalse hsecret =>
                          obtain rfl := Except.ok.inj hmade
                          obtain rfl := Except.ok.inj h
                          refine ⟨hquery, Nat.le_of_not_lt hsecret, _, ?_, rfl, rfl, rfl, rfl, ?_, ?_,
                            rfl, rfl⟩
                          · exact ⟨now.2, not_not.1 hcalendar⟩
                          · exact Int.toNat_of_nonneg (by omega)
                          · exact Int.toNat_of_nonneg (by omega)

/-- A token that is made is opened again. -/
theorem verifyCursor_signCursor (hsecret : minSigningSecretBytes ≤ secret.length)
    (h : HasDatetimes cursor) (hkey : cursor.keyId = cursorKeyId) :
    p.verifyCursor secret (p.codec.signCursor secret cursor) query scope pageSize now =
      if now < cursor.issuedAt ∨ now ≥ cursor.expiresAt then
        .error (.app (invalid "Cursor lifetime is invalid."))
      else if query = "" then .error .valueError
      else if cursor.queryHash ≠ p.sha256Hex query ∨ cursor.scopeHandle ≠ scope ∨
          cursor.pageSize ≠ pageSize then
        .error (.app (invalid "Cursor does not match the search context."))
      else .ok cursor := by
  have hshape : ¬ (p.codec.signCursor secret cursor = "" ∨
      (CursorCodec.bytes (p.codec.signCursor secret cursor).toList).length > maxCursorTokenBytes ∨
      secret.length < minSigningSecretBytes) := by
    have hlength : (CursorCodec.bytes (p.codec.signCursor secret cursor).toList).length ≤
        maxCursorTokenBytes := length_signCursor h
    rintro (hempty | hlong | hshort)
    · exact CursorCodec.signCursor_ne_empty hempty
    · omega
    · omega
  have hload : p.codec.load (p.codec.dump cursor) = some cursor := by
    change p.load (if HasDatetimes cursor then _ else _) = _
    rw [if_pos h, load_modelDumpJson h]
  rw [verifyCursor, if_neg hshape, CursorCodec.signedCursor_signCursor, hload]
  simp only [hkey, ne_eq, not_true_eq_false, if_false]

/-- What is accepted is signed, and its payload loaded. -/
theorem authenticated_of_verifyCursor {found : CursorV1}
    (h : p.verifyCursor secret token query scope pageSize now = .ok found) :
    ∃ payload, p.Authenticated secret token payload ∧
      ∃ bytes, Base64.decode payload = some bytes ∧ p.codec.load bytes = some found := by
  have hsigned : p.codec.signedCursor secret token = some found := by
    unfold verifyCursor at h
    split at h
    · cases h
    · split at h
      · cases h
      next cursor hsigned =>
        split_ifs at h
        rw [hsigned, Except.ok.inj h]
  simp only [CursorCodec.signedCursor, Option.bind_eq_bind] at hsigned
  split at hsigned
  · cases hsigned
  next dot tag hrest =>
    obtain ⟨supplied, hsupplied, hsigned⟩ := Option.bind_eq_some_iff.1 hsigned
    split at hsigned
    · cases hsigned
    next hsame =>
      obtain ⟨bytes, hbytes, hload⟩ := Option.bind_eq_some_iff.1 hsigned
      obtain rfl := not_not.1 hsame
      refine ⟨_, ⟨tag, ?_, ?_, hsupplied⟩, bytes, hbytes, hload⟩
      · have hdot : dot = '.' := by
          have hhead := List.head?_dropWhile_not (· ≠ '.') token.toList
          rw [hrest] at hhead
          simpa using hhead
        subst hdot
        rw [← hrest, List.takeWhile_append_dropWhile]
      · intro hmem
        simpa using List.mem_takeWhile_imp hmem

/-- Everything that is raised is an invalid input, where the query has a digest. -/
theorem invalid_of_verifyCursor {failure : CursorFailure} (hquery : query ≠ "")
    (h : p.verifyCursor secret token query scope pageSize now = .error failure) :
    ∃ message, failure = .app (invalid message) := by
  unfold verifyCursor at h
  split at h
  · exact ⟨_, (Except.error.inj h).symm⟩
  · split at h
    · exact ⟨_, (Except.error.inj h).symm⟩
    · split_ifs at h
      all_goals exact ⟨_, (Except.error.inj h).symm⟩

/-- The text of the epoch and of the quarter of an hour after it. -/
def epochText : ℤ → Option (List Char)
  | 0 => some "1970-01-01T00:00:00Z".toList
  | 900000000 => some "1970-01-01T00:15:00Z".toList
  | _ => none

/-- The text of an instant on the platform below, which counts where it has no calendar. -/
def epochWrite (instant : ℤ) : List Char := (epochText instant).getD (Decimal.ofInt instant).text

/-- The instant of a text on the platform below. -/
def epochRead (text : List Char) : Option ℤ :=
  if some text = epochText 0 then some 0
  else if some text = epochText 900000000 then some 900000000
  else
    match scanNumber text with
    | some (decimal, []) =>
      let magnitude : ℤ := Nat.ofDigitChars 10 decimal.integer 0
      some (if decimal.negative then -magnitude else magnitude)
    | _ => none

/-- What is counted is not a text of the calendar. -/
theorem ofInt_ne_epochText {instant other : ℤ} :
    some (Decimal.ofInt instant).text ≠ epochText other := by
  have hletter : 'T' ∉ (Decimal.ofInt instant).text := fun h => by
    rcases mem_text_ofInt h with hsign | hdigit
    · exact absurd hsign (by decide)
    · exact absurd hdigit (by decide)
  unfold epochText
  split
  · intro h
    exact hletter (Option.some.inj h ▸ by decide)
  · intro h
    exact hletter (Option.some.inj h ▸ by decide)
  · nofun

/-- The text of an instant is read back. -/
theorem epochRead_epochWrite (instant : ℤ) : epochRead (epochWrite instant) = some instant := by
  by_cases hepoch : instant = 0
  · subst hepoch
    rfl
  · by_cases hquarter : instant = 900000000
    · subst hquarter
      rfl
    · have hnone : epochText instant = none := by
        unfold epochText
        split <;> trivial
      have hscan := scanNumber_text (Decimal.wellFormed_ofInt instant) delimited_nil
      rw [List.append_nil] at hscan
      rw [epochWrite, hnone, Option.getD_none, epochRead,
        if_neg ofInt_ne_epochText, if_neg ofInt_ne_epochText, hscan]
      simp only [Decimal.ofInt, Nat.ofDigitChars_ten_toDigits, decide_eq_true_eq, Option.some.injEq]
      split_ifs <;> omega

/-- The text of an instant is short and plain. -/
theorem epochWrite_plain (instant : ℤ) (h : InCalendar instant) :
    (epochWrite instant).length ≤ 32 ∧ Plain (epochWrite instant) := by
  unfold epochWrite
  cases htext : epochText instant with
  | some text =>
      unfold epochText at htext
      split at htext
      · obtain rfl := Option.some.inj htext
        decide
      · obtain rfl := Option.some.inj htext
        decide
      · cases htext
  | none =>
      refine ⟨?_, plain_text_ofInt instant⟩
      obtain ⟨hlow, hhigh⟩ := h
      have hinteger : (Decimal.ofInt instant).integer.length ≤ 18 :=
        (Nat.length_toDigits_le_iff (by omega) (by omega)).2 (by omega)
      have hsign : (if (Decimal.ofInt instant).negative then ['-'] else []).length ≤ 1 := by
        split_ifs <;> decide
      have hrest : ((if (Decimal.ofInt instant).fraction = [] then [] else
          '.' :: (Decimal.ofInt instant).fraction) ++ ((Decimal.ofInt instant).exponentMark ++
          (Decimal.ofInt instant).exponent)).length = 0 := rfl
      rw [List.length_append] at hrest
      simp only [Option.getD_none, Decimal.text, List.length_append] at hrest ⊢
      omega

/-- A platform with the digests and texts of one cursor, for a secret of zeros. -/
def epochPlatform : CursorPlatform where
  sha256Hex _ := "8ea90fc989a68e8b7ef903c5e1a4801e07c1357a10a3faacc8ab77915d94e0b8"
  hmacSha256 _ message :=
    if message = CursorCodec.bytes "nplg-mcp:cursor-signing:v1".toList then
      [238, 212, 47, 56, 46, 17, 36, 115, 144, 126, 23, 83, 178, 144, 238, 244, 131, 99, 203, 10, 97,
        211, 172, 184, 10, 118, 15, 67, 175, 159, 108, 79]
    else
      [247, 47, 31, 10, 91, 113, 250, 123, 139, 52, 135, 159, 196, 66, 174, 39, 171, 65, 179, 113,
        212, 50, 191, 119, 128, 1, 190, 75, 40, 179, 89, 239]
  writeFloat _ := []
  readFloat _ := none
  writeInstant := epochWrite
  readInstant := epochRead
  length_hmacSha256 _ message := by split_ifs <;> rfl
  writeInstant_plain := epochWrite_plain
  readInstant_writeInstant instant _ := epochRead_epochWrite instant

end CursorPlatform

end NplgMcp
