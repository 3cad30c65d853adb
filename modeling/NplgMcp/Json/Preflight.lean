import NplgMcp.Library.Utf8

/-!
# The JSON preflight automaton

`json_preflight.py`: an explicit stack of container frames walks over the bytes of a request body
once. The parser's index is the list `rest` of the bytes it has not read; a failed check is `none`,
the one public `JsonPreflightError`. Strings are read under an incremental UTF-8 decoder, numbers
under a finiteness test of their text (`finite`, what `math.isfinite(float(text))` answers).

The loops that read a string and that drive the automaton are bounded by the bytes left to read;
`Scan.running` is an automaton stopped by that bound and not by the source.
-/

namespace NplgMcp.Json

/-- `JsonPreflightLimits`, with the bounds its fields are declared with. -/
structure JsonPreflightLimits where
  maxBodyBytes : ℕ := 4194304
  maxDepth : ℕ := 64
  maxObjectMembers : ℕ := 4096
  maxArrayItems : ℕ := 4096
  maxTokens : ℕ := 100000
  maxKeyBytes : ℕ := 4096
  maxScalarBytes : ℕ := 4194304
  maxIntegerDigits : ℕ := 1024
  maxExponentMagnitude : ℕ := 308
  maxBodyBytes_mem : 1 ≤ maxBodyBytes ∧ maxBodyBytes ≤ 4194304 := by decide
  maxDepth_mem : 1 ≤ maxDepth ∧ maxDepth ≤ 128 := by decide
  maxObjectMembers_mem : 1 ≤ maxObjectMembers ∧ maxObjectMembers ≤ 65536 := by decide
  maxArrayItems_mem : 1 ≤ maxArrayItems ∧ maxArrayItems ≤ 65536 := by decide
  maxTokens_mem : 1 ≤ maxTokens ∧ maxTokens ≤ 1000000 := by decide
  maxKeyBytes_mem : 1 ≤ maxKeyBytes ∧ maxKeyBytes ≤ 65536 := by decide
  maxScalarBytes_mem : 1 ≤ maxScalarBytes ∧ maxScalarBytes ≤ 4194304 := by decide
  maxIntegerDigits_mem : 1 ≤ maxIntegerDigits ∧ maxIntegerDigits ≤ 65536 := by decide
  maxExponentMagnitude_le : maxExponentMagnitude ≤ 1000000 := by decide

/-- `JsonPreflightLimits()`. -/
def JsonPreflightLimits.standard : JsonPreflightLimits := {}

/-! ## Bytes -/

/-- The byte of an ASCII character. -/
def ord (c : Char) : UInt8 := c.toNat.toUInt8

/-- `_JSON_WHITESPACE`. -/
def isWhitespace (byte : UInt8) : Bool :=
  byte == 0x09 || byte == 0x0A || byte == 0x0D || byte == 0x20

/-- `_is_digit` of a byte. -/
def isDigit (byte : UInt8) : Bool := ord '0' ≤ byte && byte ≤ ord '9'

/-- `_is_nonzero_digit` of a byte. -/
def isNonzeroDigit (byte : UInt8) : Bool := ord '1' ≤ byte && byte ≤ ord '9'

/-- `_skip_whitespace`. -/
def skipWhitespace (rest : List UInt8) : List UInt8 := rest.dropWhile isWhitespace

/-- `_consume_byte`: what follows the expected byte, if it is there. -/
def consumeByte (expected : UInt8) : List UInt8 → Option (List UInt8)
  | [] => none
  | byte :: rest => if byte = expected then some rest else none

/-- `_is_digit(self._peek_byte())`. -/
def peekIsDigit (rest : List UInt8) : Bool := rest.head?.any isDigit

/-! ## Strings -/

/-- The value of a hexadecimal digit of `_HEX_DIGITS`. -/
def hexDigit (byte : UInt8) : Option ℕ :=
  if isDigit byte then some (byte.toNat - 48)
  else if ord 'a' ≤ byte && byte ≤ ord 'f' then some (byte.toNat - 87)
  else if ord 'A' ≤ byte && byte ≤ ord 'F' then some (byte.toNat - 55)
  else none

/-- `_consume_unicode_code_unit`. -/
def consumeUnicodeCodeUnit : List UInt8 → Option (ℕ × List UInt8)
  | d₀ :: d₁ :: d₂ :: d₃ :: rest => do
    let h₀ ← hexDigit d₀
    let h₁ ← hexDigit d₁
    let h₂ ← hexDigit d₂
    let h₃ ← hexDigit d₃
    return (((h₀ * 16 + h₁) * 16 + h₂) * 16 + h₃, rest)
  | _ => none

/-- `_SIMPLE_ESCAPES`: the byte an escape letter stands for. -/
def simpleEscape (byte : UInt8) : Option UInt8 :=
  if byte = ord '"' then some (ord '"')
  else if byte = ord '/' then some (ord '/')
  else if byte = ord '\\' then some (ord '\\')
  else if byte = ord 'b' then some 0x08
  else if byte = ord 'f' then some 0x0C
  else if byte = ord 'n' then some 0x0A
  else if byte = ord 'r' then some 0x0D
  else if byte = ord 't' then some 0x09
  else none

/-- `_HIGH_SURROGATE_MIN` to `_HIGH_SURROGATE_MAX`. -/
def isHighSurrogate (codepoint : ℕ) : Bool := 0xD800 ≤ codepoint && codepoint ≤ 0xDBFF

/-- `_LOW_SURROGATE_MIN` to `_LOW_SURROGATE_MAX`. -/
def isLowSurrogate (codepoint : ℕ) : Bool := 0xDC00 ≤ codepoint && codepoint ≤ 0xDFFF

/-- The scalar value of a surrogate pair. -/
def pairCodepoint (high low : ℕ) : ℕ := 0x10000 + (high - 0xD800) * 1024 + (low - 0xDC00)

/-- `chr(codepoint).encode("utf-8")`. -/
def encodeCodepoint (codepoint : ℕ) : List UInt8 := String.utf8EncodeChar (Char.ofNat codepoint)

/-- `_consume_escape`, after the backslash: the decoded bytes and what follows. -/
def consumeEscape : List UInt8 → Option (List UInt8 × List UInt8)
  | [] => none
  | escaped :: rest =>
    match simpleEscape escaped with
    | some simple => some ([simple], rest)
    | none => do
      guard (escaped = ord 'u')
      let (codepoint, rest) ← consumeUnicodeCodeUnit rest
      if isHighSurrogate codepoint then
        let rest ← consumeByte (ord '\\') rest
        let rest ← consumeByte (ord 'u') rest
        let (low, rest) ← consumeUnicodeCodeUnit rest
        guard (isLowSurrogate low)
        return (encodeCodepoint (pairCodepoint codepoint low), rest)
      else
        guard ¬ isLowSurrogate codepoint
        return (encodeCodepoint codepoint, rest)

/-- The loop of `_consume_string`. `content` is the payload from `content_start` on, `pending` the
state of the incremental decoder, `decoded` the retained text. -/
def consumeStringLoop (maxBytes : ℕ) (content : List UInt8) :
    ℕ → List UInt8 → Option (List UInt8) → List UInt8 → Option (Option (List UInt8) × List UInt8)
  | 0, _, _, _ => none
  | _ + 1, _, _, [] => none
  | fuel + 1, pending, decoded, value :: rest =>
    if value = ord '"' then if pending = [] then some (decoded, rest) else none
    else if maxBytes ≤ content.length - (value :: rest).length then none
    else if value ≤ 0x1F then none
    else if value ≠ ord '\\' then do
      let pending ← Library.Utf8.feed pending value
      consumeStringLoop maxBytes content fuel pending (decoded.map (· ++ [value])) rest
    else if pending ≠ [] then none
    else do
      let (bytes, rest) ← consumeEscape rest
      if maxBytes < content.length - rest.length then none
      else consumeStringLoop maxBytes content fuel [] (decoded.map (· ++ bytes)) rest

/-- `_consume_string`. The loop reads at least one byte each time round, so it is bounded by the
bytes left. -/
def consumeString (maxBytes : ℕ) (retain : Bool) (rest : List UInt8) :
    Option (Option String × List UInt8) := do
  let content ← consumeByte (ord '"') rest
  let (decoded, rest) ← consumeStringLoop maxBytes content content.length []
    (if retain then some [] else none) content
  match decoded with
  | none => return (none, rest)
  | some decoded =>
    let text ← String.fromUTF8? decoded.toByteArray
    return (some text, rest)

/-! ## Numbers -/

/-- The loop of `_consume_one_or_more_digits`: the digits counted, the value accumulated while it
does not exceed `limit`, and what follows. -/
def consumeDigits (limit : Option ℕ) (digits value : ℕ) : List UInt8 → ℕ × ℕ × List UInt8
  | [] => (digits, value, [])
  | byte :: rest =>
    if isDigit byte then
      consumeDigits limit (digits + 1)
        (if limit.any (value ≤ ·) then value * 10 + (byte.toNat - 48) else value) rest
    else (digits, value, byte :: rest)

/-- `_consume_one_or_more_digits`. -/
def consumeOneOrMoreDigits (limit : Option ℕ) (rest : List UInt8) : Option (ℕ × List UInt8) :=
  match consumeDigits limit 0 0 rest with
  | (digits, value, rest) =>
    if digits = 0 then none else some (if limit.isNone then digits else value, rest)

/-- `_consume_sign`. -/
def consumeSign (rest : List UInt8) : Option (List UInt8) :=
  match consumeByte (ord '-') rest with
  | none => some rest
  | some [] => none
  | some rest => some rest

variable (limits : JsonPreflightLimits)

/-- `_consume_integer`. -/
def consumeInteger (rest : List UInt8) : Option (List UInt8) :=
  match consumeByte (ord '0') rest with
  | some rest => if peekIsDigit rest then none else some rest
  | none => do
    guard (rest.head?.any isNonzeroDigit)
    let (digits, rest) ← consumeOneOrMoreDigits none rest
    guard (digits ≤ limits.maxIntegerDigits)
    return rest

/-- `_consume_fraction`. -/
def consumeFraction (rest : List UInt8) : Option (Bool × List UInt8) :=
  match consumeByte (ord '.') rest with
  | none => some (false, rest)
  | some rest => do
    let (_, rest) ← consumeOneOrMoreDigits none rest
    return (true, rest)

/-- What follows the sign of an exponent, if it has one. -/
def skipExponentSign : List UInt8 → List UInt8
  | [] => []
  | byte :: rest => if byte = ord '+' ∨ byte = ord '-' then rest else byte :: rest

/-- `_consume_exponent`. -/
def consumeExponent : List UInt8 → Option (Bool × List UInt8)
  | [] => some (false, [])
  | byte :: rest =>
    if byte = ord 'e' ∨ byte = ord 'E' then do
      let (exponent, rest) ←
        consumeOneOrMoreDigits (some limits.maxExponentMagnitude) (skipExponentSign rest)
      guard (exponent ≤ limits.maxExponentMagnitude)
      return (true, rest)
    else some (false, byte :: rest)

variable (finite : List UInt8 → Bool)

/-- `_consume_number`: whether the number is an integer, and what follows. -/
def consumeNumber (start : List UInt8) : Option (Bool × List UInt8) := do
  let rest ← consumeSign start
  let rest ← consumeInteger limits rest
  let (hasFraction, rest) ← consumeFraction rest
  let (hasExponent, rest) ← consumeExponent limits rest
  let length := start.length - rest.length
  guard (length ≤ limits.maxScalarBytes)
  guard (finite (start.take length))
  return (!hasFraction && !hasExponent, rest)

/-! ## The automaton -/

/-- `_Frame.kind`. -/
inductive ContainerKind where
  | array
  | object
  deriving DecidableEq, Repr

/-- `_Frame.state`. -/
inductive FrameState where
  | arrayValueOrEnd
  | arrayAfterValue
  | objectKeyOrEnd
  | objectValue
  | objectAfterValue
  deriving DecidableEq, Repr

/-- `_Frame`. -/
structure Frame where
  kind : ContainerKind
  state : FrameState
  members : ℕ := 0
  keys : List String := []
  currentKey : Option String := none
  allowEnd : Bool := true
  deriving DecidableEq, Repr

/-- `_JsonValueKind`. -/
inductive JsonValueKind where
  | array
  | boolean
  | integer
  | null
  | number
  | object
  | string
  deriving DecidableEq, Repr

/-- `_JsonPreflightParser`, with its frames from the innermost outwards. `_root_object_keys` is the
key set of the root frame itself, so a key added there is added here. -/
structure Parser where
  rest : List UInt8
  tokens : ℕ := 0
  frames : List Frame := []
  rootObjectKeys : Option (List String) := none
  rootRequestIdIsValid : Bool := false
  rootComplete : Bool := false
  deriving DecidableEq, Repr

namespace Parser

/-- `_count_token`. -/
def countToken (p : Parser) : Option Parser :=
  if limits.maxTokens < p.tokens + 1 then none else some { p with tokens := p.tokens + 1 }

/-- `_push_container`. -/
def pushContainer (p : Parser) (kind : ContainerKind) : Option Parser :=
  if limits.maxDepth ≤ p.frames.length then none
  else
    let state := match kind with
      | .array => FrameState.arrayValueOrEnd
      | .object => FrameState.objectKeyOrEnd
    some { p with
      rootObjectKeys := if p.frames.isEmpty && kind = .object then some [] else p.rootObjectKeys
      frames := { kind := kind, state := state } :: p.frames }

/-- `_finish_scalar`, after the scalar has been read. -/
def finishScalar (p : Parser) (rest : List UInt8) : Parser :=
  { p with rest := rest, rootComplete := if p.frames.isEmpty then true else p.rootComplete }

/-- `_finish_container`. -/
def finishContainer (p : Parser) (rest : List UInt8) : Parser :=
  { p with
    rest := rest
    frames := p.frames.tail
    rootComplete := if p.frames.tail.isEmpty then true else p.rootComplete }

/-- A scalar ends the text where no frame is open. -/
theorem finishScalar_eq {rest next : List UInt8} {tokens : ℕ} {frames : List Frame}
    {keys : Option (List String)} {valid : Bool} :
    finishScalar ⟨rest, tokens, frames, keys, valid, false⟩ next =
      ⟨next, tokens, frames, keys, valid, frames.isEmpty⟩ := by
  cases frames <;> rfl

/-- The end of a container leaves the frames below it, and ends the text where there is none. -/
theorem finishContainer_eq {rest next : List UInt8} {tokens : ℕ} {frame : Frame}
    {below : List Frame} {keys : Option (List String)} {valid : Bool} :
    finishContainer ⟨rest, tokens, frame :: below, keys, valid, false⟩ next =
      ⟨next, tokens, below, keys, valid, below.isEmpty⟩ := by
  cases below <;> rfl

/-- The bytes of the literal `true`. -/
def trueBytes : List UInt8 := [0x74, 0x72, 0x75, 0x65]

/-- The bytes of the literal `false`. -/
def falseBytes : List UInt8 := [0x66, 0x61, 0x6C, 0x73, 0x65]

/-- The bytes of the literal `null`. -/
def nullBytes : List UInt8 := [0x6E, 0x75, 0x6C, 0x6C]

/-- The dispatch of `_begin_value`, on a parser that has counted its token. -/
def dispatchValue (p : Parser) : Option (JsonValueKind × Parser) :=
  match p.rest with
  | [] => none
  | value :: rest =>
    if value = ord '\x7b' then
      (pushContainer limits { p with rest := rest } .object).map (.object, ·)
    else if value = ord '[' then
      (pushContainer limits { p with rest := rest } .array).map (.array, ·)
    else if value = ord '"' then
      (consumeString limits.maxScalarBytes false p.rest).map fun (_, rest) =>
        (.string, p.finishScalar rest)
    else if value = ord '-' ∨ isDigit value then
      (consumeNumber limits finite p.rest).map fun (isInteger, rest) =>
        (if isInteger then .integer else .number, p.finishScalar rest)
    else if trueBytes <+: p.rest then
      some (.boolean, p.finishScalar (p.rest.drop trueBytes.length))
    else if falseBytes <+: p.rest then
      some (.boolean, p.finishScalar (p.rest.drop falseBytes.length))
    else if nullBytes <+: p.rest then
      some (.null, p.finishScalar (p.rest.drop nullBytes.length))
    else none

/-- `_begin_value`. -/
def beginValue (p : Parser) : Option (JsonValueKind × Parser) := do
  let p ← countToken limits p
  dispatchValue limits finite p

/-- The innermost frame replaced by `frame`, over the frames `below` it. -/
def withFrame (p : Parser) (frame : Frame) (below : List Frame) : Parser :=
  { p with frames := frame :: below }

/-- The branch of `validate` for `array_value_or_end`. -/
def consumeArrayValue (p : Parser) (frame : Frame) (below : List Frame) : Option Parser :=
  match if frame.allowEnd then consumeByte (ord ']') p.rest else none with
  | some rest => some (p.finishContainer rest)
  | none =>
    -- `_increment_array_item`
    if limits.maxArrayItems < frame.members + 1 then none
    else
      (beginValue limits finite (p.withFrame
        { frame with members := frame.members + 1, state := .arrayAfterValue } below)).map Prod.snd

/-- `_consume_array_separator`. -/
def consumeArraySeparator (p : Parser) (frame : Frame) (below : List Frame) : Option Parser :=
  match consumeByte (ord ',') p.rest with
  | some rest =>
    some { p.withFrame { frame with state := .arrayValueOrEnd, allowEnd := false } below with
      rest := rest }
  | none => (consumeByte (ord ']') p.rest).map p.finishContainer

/-- `_consume_object_key`. -/
def consumeObjectKey (p : Parser) (frame : Frame) (below : List Frame) : Option Parser :=
  match if frame.allowEnd then consumeByte (ord '\x7d') p.rest else none with
  | some rest => some (p.finishContainer rest)
  | none =>
    if p.rest.head? ≠ some (ord '"') then none
    else do
      let (key, rest) ← consumeString limits.maxKeyBytes true p.rest
      let key ← key
      guard (key ∉ frame.keys)
      let rest ← consumeByte (ord ':') (skipWhitespace rest)
      return { p.withFrame
          { frame with keys := key :: frame.keys, currentKey := some key, state := .objectValue }
          below with
        rest := rest
        rootObjectKeys :=
          if below.isEmpty then p.rootObjectKeys.map (key :: ·) else p.rootObjectKeys }

/-- `_is_root_request_id_value`. -/
def isRootRequestIdValue (frame : Frame) (below : List Frame) : Bool :=
  below.isEmpty && frame.kind = .object && frame.currentKey = some "id"

/-- `_consume_object_value`. -/
def consumeObjectValue (p : Parser) (frame : Frame) (below : List Frame) : Option Parser :=
  -- `_increment_object_member`
  if limits.maxObjectMembers < frame.members + 1 then none
  else do
    let (kind, p') ← beginValue limits finite (p.withFrame
      { frame with members := frame.members + 1, state := .objectAfterValue } below)
    return if isRootRequestIdValue frame below then
        { p' with rootRequestIdIsValid := decide (kind = .integer ∨ kind = .string) }
      else p'

/-- `_consume_object_separator`. -/
def consumeObjectSeparator (p : Parser) (frame : Frame) (below : List Frame) : Option Parser :=
  match consumeByte (ord ',') p.rest with
  | some rest =>
    some { p.withFrame
        { frame with currentKey := none, state := .objectKeyOrEnd, allowEnd := false } below with
      rest := rest }
  | none => (consumeByte (ord '\x7d') p.rest).map p.finishContainer

/-- One turn of the loop of `validate`. -/
def advance (p : Parser) : Option Parser :=
  let p := { p with rest := skipWhitespace p.rest }
  match p.frames with
  | [] => (beginValue limits finite p).map Prod.snd
  | frame :: below =>
    match frame.state with
    | .arrayValueOrEnd => consumeArrayValue limits finite p frame below
    | .arrayAfterValue => consumeArraySeparator p frame below
    | .objectKeyOrEnd => consumeObjectKey limits p frame below
    | .objectValue => consumeObjectValue limits finite p frame below
    | .objectAfterValue => consumeObjectSeparator p frame below

end Parser

/-- Where the loop of `validate` stands after a number of turns. -/
inductive Scan where
  | running (p : Parser)
  | complete (p : Parser)
  | failed
  deriving DecidableEq, Repr

/-- The loop of `validate`, for at most `fuel` turns. -/
def scan : ℕ → Parser → Scan
  | fuel, p =>
    if p.rootComplete then .complete p
    else match fuel with
      | 0 => .running p
      | fuel + 1 => match p.advance limits finite with
        | none => .failed
        | some p => scan fuel p

/-- `validate`: the parser at the end of the payload. Every turn reads a byte, so one turn more
than there are bytes is enough. -/
def validate (payload : List UInt8) : Option Parser :=
  if payload.isEmpty ∨ limits.maxBodyBytes < payload.length then none
  else match scan limits finite (payload.length + 1) { rest := payload } with
    | .complete p => if (skipWhitespace p.rest).isEmpty then some p else none
    | _ => none

/-- `preflight_json`: whether it returns. -/
def preflightJson (payload : List UInt8) : Bool := (validate limits finite payload).isSome

/-- `preflight_json_has_root_object_member`. -/
def preflightJsonHasRootObjectMember (payload : List UInt8) (member : String) : Option Bool :=
  (validate limits finite payload).map fun p => p.rootObjectKeys.any (member ∈ ·)

/-- `preflight_json_has_valid_root_request_id`. -/
def preflightJsonHasValidRootRequestId (payload : List UInt8) : Option Bool :=
  (validate limits finite payload).map Parser.rootRequestIdIsValid

end NplgMcp.Json
