import NplgMcp.Json.Preflight

/-!
# The grammar of a JSON text

RFC 8259 as a type of concrete syntax trees: a tree holds the text of every literal, number, string
and stretch of whitespace, with the side conditions of the grammar as fields, so that each tree is
a derivation and `bytes` is the text it derives. The decoded keys, the nesting depth, the number of
values and the limits of a preflight are functions and predicates of the tree. Nothing here reads a
byte string: what the automaton accepts is compared with these texts in `Json.Accepts`.
-/

namespace NplgMcp.Json

/-- A stretch of insignificant whitespace. -/
def Whitespace := { bytes : List UInt8 // ∀ byte ∈ bytes, isWhitespace byte = true }

/-- The literal names. -/
inductive Literal where
  | true
  | false
  | null
  deriving DecidableEq, Repr

/-- The text of a literal. -/
def Literal.bytes : Literal → List UInt8
  | .true => [0x74, 0x72, 0x75, 0x65]
  | .false => [0x66, 0x61, 0x6C, 0x73, 0x65]
  | .null => [0x6E, 0x75, 0x6C, 0x6C]

/-! ## Numbers -/

/-- One digit or more. -/
def Digits := { bytes : List UInt8 // bytes ≠ [] ∧ ∀ byte ∈ bytes, isDigit byte = true }

/-- The number a run of digits denotes. -/
def digitsValue (bytes : List UInt8) : ℕ :=
  bytes.foldl (fun value byte => value * 10 + (byte.toNat - 48)) 0

/-- `exp = e [ minus / plus ] 1*DIGIT`. -/
structure Exponent where
  marker : UInt8
  sign : Option UInt8
  digits : Digits
  marker_mem : marker = ord 'e' ∨ marker = ord 'E'
  sign_mem : ∀ byte ∈ sign, byte = ord '+' ∨ byte = ord '-'

/-- The text of an exponent. -/
def Exponent.bytes (e : Exponent) : List UInt8 := e.marker :: (e.sign.toList ++ e.digits.val)

/-- `number = [ minus ] int [ frac ] [ exp ]`, where `int` has no leading zero. -/
structure Number where
  negative : Bool
  integer : Digits
  fraction : Option Digits
  exponent : Option Exponent
  integer_canonical : integer.val = [ord '0'] ∨ integer.val.head? ≠ some (ord '0')

/-- The text of a fraction. -/
def fractionBytes : Option Digits → List UInt8
  | none => []
  | some digits => ord '.' :: digits.val

/-- The text of a number. -/
def Number.bytes (n : Number) : List UInt8 :=
  (if n.negative then [ord '-'] else []) ++ n.integer.val ++ fractionBytes n.fraction ++
    (n.exponent.map Exponent.bytes).getD []

/-- The number is written without fraction and exponent. -/
def Number.isInteger (n : Number) : Bool := n.fraction.isNone && n.exponent.isNone

/-! ## Strings -/

/-- A hexadecimal digit with its value. -/
structure HexDigit where
  byte : UInt8
  value : ℕ
  isHex : hexDigit byte = some value

/-- Four hexadecimal digits. -/
structure CodeUnit where
  d₀ : HexDigit
  d₁ : HexDigit
  d₂ : HexDigit
  d₃ : HexDigit

/-- The text of a code unit. -/
def CodeUnit.bytes (u : CodeUnit) : List UInt8 := [u.d₀.byte, u.d₁.byte, u.d₂.byte, u.d₃.byte]

/-- The number a code unit denotes. -/
def CodeUnit.value (u : CodeUnit) : ℕ :=
  ((u.d₀.value * 16 + u.d₁.value) * 16 + u.d₂.value) * 16 + u.d₃.value

/-- The letters of the short escapes. -/
inductive SimpleEscape where
  | quote
  | solidus
  | backslash
  | backspace
  | formFeed
  | lineFeed
  | carriageReturn
  | tab
  deriving DecidableEq, Repr

/-- The letter of a short escape. -/
def SimpleEscape.letter : SimpleEscape → UInt8
  | .quote => ord '"'
  | .solidus => ord '/'
  | .backslash => ord '\\'
  | .backspace => ord 'b'
  | .formFeed => ord 'f'
  | .lineFeed => ord 'n'
  | .carriageReturn => ord 'r'
  | .tab => ord 't'

/-- The character a short escape stands for. -/
def SimpleEscape.char : SimpleEscape → Char
  | .quote => '"'
  | .solidus => '/'
  | .backslash => '\\'
  | .backspace => Char.ofNat 0x08
  | .formFeed => Char.ofNat 0x0C
  | .lineFeed => '\n'
  | .carriageReturn => '\r'
  | .tab => '\t'

/-- What follows a backslash: a short escape, a code unit that is no surrogate, or a surrogate
pair. -/
inductive Escape where
  | simple (escape : SimpleEscape)
  | unit (u : CodeUnit) (high : isHighSurrogate u.value = false)
      (low : isLowSurrogate u.value = false)
  | pair (high low : CodeUnit) (isHigh : isHighSurrogate high.value = true)
      (isLow : isLowSurrogate low.value = true)

/-- The text of an escape, after its backslash. -/
def Escape.bytes : Escape → List UInt8
  | .simple escape => [escape.letter]
  | .unit u _ _ => ord 'u' :: u.bytes
  | .pair high low _ _ => ord 'u' :: (high.bytes ++ ord '\\' :: ord 'u' :: low.bytes)

/-- The character an escape stands for. -/
def Escape.char : Escape → Char
  | .simple escape => escape.char
  | .unit u _ _ => Char.ofNat u.value
  | .pair high low _ _ => Char.ofNat (pairCodepoint high.value low.value)

/-- One character of a string: itself, if it is no quotation mark, backslash or control character,
or an escape. -/
inductive StringChar where
  | unescaped (c : Char) (control : 0x20 ≤ c.toNat) (quote : c ≠ '"') (backslash : c ≠ '\\')
  | escaped (escape : Escape)

/-- The text of a character of a string. -/
def StringChar.bytes : StringChar → List UInt8
  | .unescaped c _ _ _ => String.utf8EncodeChar c
  | .escaped escape => ord '\\' :: escape.bytes

/-- The character decoded. -/
def StringChar.char : StringChar → Char
  | .unescaped c _ _ _ => c
  | .escaped escape => escape.char

/-- The text between the quotation marks of a string. -/
def contentBytes (chars : List StringChar) : List UInt8 := chars.flatMap StringChar.bytes

/-- The text of a string. -/
def stringBytes (chars : List StringChar) : List UInt8 :=
  ord '"' :: (contentBytes chars ++ [ord '"'])

/-- The string decoded. -/
def decodedString (chars : List StringChar) : String := String.ofList (chars.map StringChar.char)

/-! ## Values -/

mutual

/-- A value with its text. -/
inductive Value where
  | literal (literal : Literal)
  | number (number : Number)
  | string (chars : List StringChar)
  | emptyArray (padding : Whitespace)
  | array (elements : Elements)
  | emptyObject (padding : Whitespace)
  | object (members : Members)

/-- The elements of an array, to its closing bracket. -/
inductive Elements where
  | last (before : Whitespace) (value : Value) (after : Whitespace)
  | cons (before : Whitespace) (value : Value) (after : Whitespace) (rest : Elements)

/-- The members of an object, to its closing brace. -/
inductive Members where
  | last (before : Whitespace) (key : List StringChar) (gap space : Whitespace) (value : Value)
      (after : Whitespace)
  | cons (before : Whitespace) (key : List StringChar) (gap space : Whitespace) (value : Value)
      (after : Whitespace) (rest : Members)

end

mutual

/-- The text of a value. -/
def Value.bytes : Value → List UInt8
  | .literal literal => literal.bytes
  | .number number => number.bytes
  | .string chars => stringBytes chars
  | .emptyArray padding => ord '[' :: (padding.val ++ [ord ']'])
  | .array elements => ord '[' :: elements.bytes
  | .emptyObject padding => ord '\x7b' :: (padding.val ++ [ord '\x7d'])
  | .object members => ord '\x7b' :: members.bytes

/-- The text of the elements. -/
def Elements.bytes : Elements → List UInt8
  | .last before value after => before.val ++ (value.bytes ++ (after.val ++ [ord ']']))
  | .cons before value after rest =>
    before.val ++ (value.bytes ++ (after.val ++ ord ',' :: rest.bytes))

/-- The text of the members. -/
def Members.bytes : Members → List UInt8
  | .last before key gap space value after =>
    before.val ++ (stringBytes key ++ (gap.val ++ ord ':' ::
      (space.val ++ (value.bytes ++ (after.val ++ [ord '\x7d'])))))
  | .cons before key gap space value after rest =>
    before.val ++ (stringBytes key ++ (gap.val ++ ord ':' ::
      (space.val ++ (value.bytes ++ (after.val ++ ord ',' :: rest.bytes)))))

end

mutual

/-- How deep containers nest in a value. -/
def Value.depth : Value → ℕ
  | .literal _ | .number _ | .string _ => 0
  | .emptyArray _ | .emptyObject _ => 1
  | .array elements => elements.depth + 1
  | .object members => members.depth + 1

/-- How deep containers nest in the elements. -/
def Elements.depth : Elements → ℕ
  | .last _ value _ => value.depth
  | .cons _ value _ rest => max value.depth rest.depth

/-- How deep containers nest in the members. -/
def Members.depth : Members → ℕ
  | .last _ _ _ _ value _ => value.depth
  | .cons _ _ _ _ value _ rest => max value.depth rest.depth

end

mutual

/-- The number of values in a value, itself included. -/
def Value.tokens : Value → ℕ
  | .literal _ | .number _ | .string _ | .emptyArray _ | .emptyObject _ => 1
  | .array elements => elements.tokens + 1
  | .object members => members.tokens + 1

/-- The number of values in the elements. -/
def Elements.tokens : Elements → ℕ
  | .last _ value _ => value.tokens
  | .cons _ value _ rest => value.tokens + rest.tokens

/-- The number of values in the members. -/
def Members.tokens : Members → ℕ
  | .last _ _ _ _ value _ => value.tokens
  | .cons _ _ _ _ value _ rest => value.tokens + rest.tokens

end

/-- The number of elements. -/
def Elements.count : Elements → ℕ
  | .last _ _ _ => 1
  | .cons _ _ _ rest => rest.count + 1

/-- The keys of the members, as they are written. -/
def Members.keys : Members → List (List StringChar)
  | .last _ key _ _ _ _ => [key]
  | .cons _ key _ _ _ _ rest => key :: rest.keys

/-- The decoded keys of the members. -/
def Members.decodedKeys (members : Members) : List String := members.keys.map decodedString

mutual

/-- No object has two members with the same decoded key. -/
def Value.DistinctKeys : Value → Prop
  | .literal _ | .number _ | .string _ | .emptyArray _ | .emptyObject _ => True
  | .array elements => elements.DistinctKeys
  | .object members => members.decodedKeys.Nodup ∧ members.DistinctKeys

/-- No object within the elements has two members with the same decoded key. -/
def Elements.DistinctKeys : Elements → Prop
  | .last _ value _ => value.DistinctKeys
  | .cons _ value _ rest => value.DistinctKeys ∧ rest.DistinctKeys

/-- No object within the values of the members has two members with the same decoded key. -/
def Members.DistinctKeys : Members → Prop
  | .last _ _ _ _ value _ => value.DistinctKeys
  | .cons _ _ _ _ value _ rest => value.DistinctKeys ∧ rest.DistinctKeys

end

/-! ## The root -/

/-- The kind of a value, as the preflight names it. -/
def Value.kind : Value → JsonValueKind
  | .literal .null => .null
  | .literal _ => .boolean
  | .number n => if n.isInteger then .integer else .number
  | .string _ => .string
  | .emptyArray _ | .array _ => .array
  | .emptyObject _ | .object _ => .object

/-- A string, or a number written without fraction and exponent. -/
def Value.isRequestId (v : Value) : Bool := decide (v.kind = .integer ∨ v.kind = .string)

/-- Whether the member named `id`, if there is one, holds a request identifier. -/
def Members.requestId (valid : Bool) : Members → Bool
  | .last _ key _ _ value _ => if decodedString key = "id" then value.isRequestId else valid
  | .cons _ key _ _ value _ rest =>
    rest.requestId (if decodedString key = "id" then value.isRequestId else valid)

/-! ## Limits -/

section
variable (limits : JsonPreflightLimits) (finite : List UInt8 → Bool)

/-- A number within its limits. -/
structure Number.Within (n : Number) : Prop where
  integer : n.integer.val.length ≤ limits.maxIntegerDigits
  exponent : ∀ e ∈ n.exponent, digitsValue e.digits.val ≤ limits.maxExponentMagnitude
  bytes : n.bytes.length ≤ limits.maxScalarBytes
  finite : finite n.bytes = true

mutual

/-- Numbers, strings, arrays and objects within their limits. -/
def Value.Within : Value → Prop
  | .literal _ | .emptyArray _ | .emptyObject _ => True
  | .number number => number.Within limits finite
  | .string chars => (contentBytes chars).length ≤ limits.maxScalarBytes
  | .array elements => elements.count ≤ limits.maxArrayItems ∧ elements.Within
  | .object members => members.keys.length ≤ limits.maxObjectMembers ∧ members.Within

/-- The values of the elements within their limits. -/
def Elements.Within : Elements → Prop
  | .last _ value _ => value.Within
  | .cons _ value _ rest => value.Within ∧ rest.Within

/-- The keys and the values of the members within their limits. -/
def Members.Within : Members → Prop
  | .last _ key _ _ value _ => (contentBytes key).length ≤ limits.maxKeyBytes ∧ value.Within
  | .cons _ key _ _ value _ rest =>
    (contentBytes key).length ≤ limits.maxKeyBytes ∧ value.Within ∧ rest.Within

end

/-- `JSON-text = ws value ws`. -/
structure Text where
  before : Whitespace
  value : Value
  after : Whitespace

/-- The bytes of a text. -/
def Text.bytes (text : Text) : List UInt8 :=
  text.before.val ++ (text.value.bytes ++ text.after.val)

/-- A text with distinct keys within the limits of a preflight, those of the body's size apart. -/
structure Text.Admissible (text : Text) : Prop where
  distinct : text.value.DistinctKeys
  depth : text.value.depth ≤ limits.maxDepth
  tokens : text.value.tokens ≤ limits.maxTokens
  within : text.value.Within limits finite

end

/-! ## Fitting into the limits -/

section
variable (limits : JsonPreflightLimits) (finite : List UInt8 → Bool)

/-- A value with distinct keys fits under `depth` open containers after `tokens` values. -/
structure Value.Fits (depth tokens : ℕ) (v : Value) : Prop where
  distinct : v.DistinctKeys
  within : v.Within limits finite
  depth_le : depth + v.depth ≤ limits.maxDepth
  tokens_le : tokens + v.tokens ≤ limits.maxTokens

/-- Elements fit into an array that has `members` already. -/
structure Elements.Fits (depth tokens members : ℕ) (elements : Elements) : Prop where
  distinct : elements.DistinctKeys
  within : elements.Within limits finite
  depth_le : depth + elements.depth ≤ limits.maxDepth
  tokens_le : tokens + elements.tokens ≤ limits.maxTokens
  count_le : members + elements.count ≤ limits.maxArrayItems

/-- Members fit into an object that has `count` members with `keys` already. -/
structure Members.Fits (depth tokens count : ℕ) (keys : List String) (members : Members) :
    Prop where
  distinct : members.DistinctKeys
  within : members.Within limits finite
  depth_le : depth + members.depth ≤ limits.maxDepth
  tokens_le : tokens + members.tokens ≤ limits.maxTokens
  count_le : count + members.keys.length ≤ limits.maxObjectMembers
  nodup : members.decodedKeys.Nodup
  fresh : ∀ key ∈ members.decodedKeys, key ∉ keys

variable {limits finite}
variable {depth tokens : ℕ}

/-- An array fits where its elements fit under one container and one value more. -/
theorem Value.fits_array {elements : Elements} :
    (Value.array elements).Fits limits finite depth tokens ↔
      elements.Fits limits finite (depth + 1) (tokens + 1) 0 := by
  constructor
  · rintro ⟨hdistinct, ⟨hcount, hwithin⟩, hdepth, htokens⟩
    simp only [Value.depth, Value.tokens] at hdepth htokens
    exact ⟨hdistinct, hwithin, by omega, by omega, by omega⟩
  · rintro ⟨hdistinct, hwithin, hdepth, htokens, hcount⟩
    refine ⟨hdistinct, ⟨by omega, hwithin⟩, ?_, ?_⟩ <;> simp only [Value.depth, Value.tokens] <;>
      omega

/-- An object fits where its members fit under one container and one value more. -/
theorem Value.fits_object {members : Members} :
    (Value.object members).Fits limits finite depth tokens ↔
      members.Fits limits finite (depth + 1) (tokens + 1) 0 [] := by
  constructor
  · rintro ⟨⟨hnodup, hdistinct⟩, ⟨hcount, hwithin⟩, hdepth, htokens⟩
    simp only [Value.depth, Value.tokens] at hdepth htokens
    exact ⟨hdistinct, hwithin, by omega, by omega, by omega, hnodup, by simp⟩
  · rintro ⟨hdistinct, hwithin, hdepth, htokens, hcount, hnodup, -⟩
    refine ⟨⟨hnodup, hdistinct⟩, ⟨by omega, hwithin⟩, ?_, ?_⟩ <;>
      simp only [Value.depth, Value.tokens] <;> omega

variable {count : ℕ}

/-- The last element fits where its value does and the array is not full. -/
theorem Elements.fits_last {before after : Whitespace} {value : Value} :
    (Elements.last before value after).Fits limits finite depth tokens count ↔
      value.Fits limits finite depth tokens ∧ count + 1 ≤ limits.maxArrayItems :=
  ⟨fun ⟨h₁, h₂, h₃, h₄, h₅⟩ => ⟨⟨h₁, h₂, h₃, h₄⟩, h₅⟩,
    fun ⟨⟨h₁, h₂, h₃, h₄⟩, h₅⟩ => ⟨h₁, h₂, h₃, h₄, h₅⟩⟩

/-- An element and those after it fit one after the other. -/
theorem Elements.fits_cons {before after : Whitespace} {value : Value} {rest : Elements} :
    (Elements.cons before value after rest).Fits limits finite depth tokens count ↔
      value.Fits limits finite depth tokens ∧
        rest.Fits limits finite depth (tokens + value.tokens) (count + 1) := by
  constructor
  · rintro ⟨⟨hv, hr⟩, ⟨hv', hr'⟩, hdepth, htokens, hcount⟩
    simp only [Elements.depth, Elements.tokens, Elements.count] at hdepth htokens hcount
    exact ⟨⟨hv, hv', by omega, by omega⟩, ⟨hr, hr', by omega, by omega, by omega⟩⟩
  · rintro ⟨⟨hv, hv', hvdepth, hvtokens⟩, ⟨hr, hr', hrdepth, hrtokens, hcount⟩⟩
    refine ⟨⟨hv, hr⟩, ⟨hv', hr'⟩, ?_, ?_, ?_⟩ <;>
      simp only [Elements.depth, Elements.tokens, Elements.count] <;> omega

variable {keys : List String}

/-- The last member fits where its value does, its key is new and within its limit, and the object
is not full. -/
theorem Members.fits_last {before gap space after : Whitespace} {key : List StringChar}
    {value : Value} :
    (Members.last before key gap space value after).Fits limits finite depth tokens count keys ↔
      value.Fits limits finite depth tokens ∧ (contentBytes key).length ≤ limits.maxKeyBytes ∧
        decodedString key ∉ keys ∧ count + 1 ≤ limits.maxObjectMembers := by
  constructor
  · rintro ⟨hdistinct, ⟨hkey, hwithin⟩, hdepth, htokens, hcount, -, hfresh⟩
    exact ⟨⟨hdistinct, hwithin, hdepth, htokens⟩, hkey,
      hfresh _ (by simp [Members.decodedKeys, Members.keys]), hcount⟩
  · rintro ⟨⟨hdistinct, hwithin, hdepth, htokens⟩, hkey, hfresh, hcount⟩
    refine ⟨hdistinct, ⟨hkey, hwithin⟩, hdepth, htokens, hcount, ?_, ?_⟩
    · simp [Members.decodedKeys, Members.keys]
    · simpa [Members.decodedKeys, Members.keys] using hfresh

/-- A member and those after it fit one after the other. -/
theorem Members.fits_cons {before gap space after : Whitespace} {key : List StringChar}
    {value : Value} {rest : Members} :
    (Members.cons before key gap space value after rest).Fits limits finite depth tokens count keys ↔
      value.Fits limits finite depth tokens ∧ (contentBytes key).length ≤ limits.maxKeyBytes ∧
        decodedString key ∉ keys ∧
        rest.Fits limits finite depth (tokens + value.tokens) (count + 1)
          (decodedString key :: keys) := by
  have hkeys : (Members.cons before key gap space value after rest).decodedKeys =
      decodedString key :: rest.decodedKeys := rfl
  constructor
  · rintro ⟨⟨hv, hr⟩, ⟨hkey, hv', hr'⟩, hdepth, htokens, hcount, hnodup, hfresh⟩
    rw [hkeys, List.nodup_cons] at hnodup
    rw [hkeys, List.forall_mem_cons] at hfresh
    simp only [Members.depth, Members.tokens, Members.keys, List.length_cons] at hdepth htokens hcount
    refine ⟨⟨hv, hv', by omega, by omega⟩, hkey, hfresh.1, ⟨hr, hr', by omega, by omega, by omega,
      hnodup.2, fun k hk => ?_⟩⟩
    rintro (_ | ⟨_, hmem⟩)
    · exact hnodup.1 hk
    · exact hfresh.2 k hk hmem
  · rintro ⟨⟨hv, hv', hvdepth, hvtokens⟩, hkey, hfresh,
      ⟨hr, hr', hrdepth, hrtokens, hcount, hnodup, hrfresh⟩⟩
    refine ⟨⟨hv, hr⟩, ⟨hkey, hv', hr'⟩, ?_, ?_, ?_, ?_, ?_⟩
    · simp only [Members.depth]
      omega
    · simp only [Members.tokens]
      omega
    · simp only [Members.keys, List.length_cons]
      omega
    · rw [hkeys, List.nodup_cons]
      exact ⟨fun hmem => hrfresh _ hmem (by simp), hnodup⟩
    · rw [hkeys, List.forall_mem_cons]
      exact ⟨hfresh, fun k hk hmem => hrfresh k hk (by simp [hmem])⟩

end

end NplgMcp.Json
