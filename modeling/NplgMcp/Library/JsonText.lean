import Mathlib.Algebra.GroupWithZero.Nat
import Mathlib.Data.List.TakeDrop
import Mathlib.Data.Option.Basic
import Mathlib.Data.Rat.Defs
import Mathlib.Tactic.Common

/-!
# JSON texts of trees

Trees of JSON values, the compact text a writer gives a tree (`JsonTree.text`), and a strict reader
of texts (`loads`): no duplicate key, no non-finite constant, no lone surrogate and no integer of
more digits than a limit. How a float is written and what its text denotes are parameters.
-/

namespace Library.JsonText

/-- A JSON value. A float that is `none` is infinite. -/
inductive JsonTree where
  | null
  | bool (value : Bool)
  | int (value : ℤ)
  | float (value : Option ℚ)
  | str (value : String)
  | arr (items : List JsonTree)
  | obj (members : List (String × JsonTree))

/-- How floats are written and read, and how many digits an integer may have. -/
structure Codec where
  writeFloat : ℚ → List Char
  readFloat : List Char → Option ℚ
  maxDigits : ℕ

/-! ## Strings -/

/-- A digit below sixteen. -/
def hexChar (value : ℕ) : Char :=
  if value < 10 then Char.ofNat (48 + value) else Char.ofNat (87 + value)

/-- A character in a string literal. -/
def escapeChar (c : Char) : List Char :=
  if c = '"' then ['\\', '"']
  else if c = '\\' then ['\\', '\\']
  else if c = '\n' then ['\\', 'n']
  else if c = '\r' then ['\\', 'r']
  else if c = '\t' then ['\\', 't']
  else if c = '\x08' then ['\\', 'b']
  else if c = '\x0c' then ['\\', 'f']
  else if c.toNat < 0x20 then ['\\', 'u', '0', '0', hexChar (c.toNat / 16), hexChar (c.toNat % 16)]
  else [c]

/-- The literal of a string, without its opening quotation mark. -/
def stringTail (value : List Char) : List Char := value.flatMap escapeChar ++ ['"']

/-- The literal of a string. -/
def stringText (value : String) : List Char := '"' :: stringTail value.toList

/-- The value of a hexadecimal digit. -/
def hexValue (c : Char) : Option ℕ :=
  if c.isDigit then some (c.toNat - 48)
  else if 'a' ≤ c ∧ c ≤ 'f' then some (c.toNat - 87)
  else if 'A' ≤ c ∧ c ≤ 'F' then some (c.toNat - 55)
  else none

/-- Four hexadecimal digits. -/
def scanUnit : List Char → Option (ℕ × List Char)
  | a :: b :: c :: d :: rest => do
    let a ← hexValue a
    let b ← hexValue b
    let c ← hexValue c
    let d ← hexValue d
    return (((a * 16 + b) * 16 + c) * 16 + d, rest)
  | _ => none

/-- What follows the `u` of an escape: a character, of one code unit or of a surrogate pair. -/
def scanCodepoint (input : List Char) : Option (Char × List Char) := do
  let (unit, rest) ← scanUnit input
  if 0xDC00 ≤ unit ∧ unit ≤ 0xDFFF then none
  else if 0xD800 ≤ unit ∧ unit ≤ 0xDBFF then
    match rest with
    | '\\' :: 'u' :: rest => do
      let (low, rest) ← scanUnit rest
      guard (0xDC00 ≤ low ∧ low ≤ 0xDFFF)
      return (Char.ofNat (0x10000 + (unit - 0xD800) * 1024 + (low - 0xDC00)), rest)
    | _ => none
  else return (Char.ofNat unit, rest)

/-- What follows a backslash. -/
def scanEscape : List Char → Option (Char × List Char)
  | '"' :: rest => some ('"', rest)
  | '\\' :: rest => some ('\\', rest)
  | '/' :: rest => some ('/', rest)
  | 'b' :: rest => some ('\x08', rest)
  | 'f' :: rest => some ('\x0c', rest)
  | 'n' :: rest => some ('\n', rest)
  | 'r' :: rest => some ('\r', rest)
  | 't' :: rest => some ('\t', rest)
  | 'u' :: rest => scanCodepoint rest
  | _ => none

/-- A string literal after its opening quotation mark, bounded by the characters left. -/
def scanString : ℕ → List Char → Option (List Char × List Char)
  | 0, _ => none
  | _ + 1, [] => none
  | fuel + 1, c :: rest =>
    if c = '"' then some ([], rest)
    else if c = '\\' then do
      let (decoded, rest) ← scanEscape rest
      let (value, rest) ← scanString fuel rest
      return (decoded :: value, rest)
    else if c.toNat < 0x20 then none
    else do
      let (value, rest) ← scanString fuel rest
      return (c :: value, rest)

/-! ## Numbers -/

/-- The parts of a number. An empty fraction or exponent is none. -/
structure Decimal where
  negative : Bool
  integer : List Char
  fraction : List Char := []
  exponentMark : List Char := []
  exponent : List Char := []

/-- The text of a number. -/
def Decimal.text (d : Decimal) : List Char :=
  (if d.negative then ['-'] else []) ++ d.integer ++
    (if d.fraction = [] then [] else '.' :: d.fraction) ++ (d.exponentMark ++ d.exponent)

/-- A number with a fraction or an exponent is a float. -/
def Decimal.isFloat (d : Decimal) : Bool := !d.fraction.isEmpty || !d.exponent.isEmpty

/-- What may stand before the digits of an exponent. -/
def exponentMarks : List (List Char) :=
  [['e', '+'], ['e', '-'], ['E', '+'], ['E', '-'], ['e'], ['E']]

/-- The grammar of numbers. -/
structure Decimal.WellFormed (d : Decimal) : Prop where
  integer_digits : ∀ c ∈ d.integer, c.isDigit = true
  integer_ne : d.integer ≠ []
  integer_canonical : d.integer = ['0'] ∨ d.integer.head? ≠ some '0'
  fraction_digits : ∀ c ∈ d.fraction, c.isDigit = true
  exponent_digits : ∀ c ∈ d.exponent, c.isDigit = true
  exponent_iff : if d.exponent = [] then d.exponentMark = [] else d.exponentMark ∈ exponentMarks

/-- A run of digits and what follows. -/
def spanDigits (input : List Char) : List Char × List Char := input.span Char.isDigit

/-- The sign of a number. -/
def scanSign : List Char → Bool × List Char
  | '-' :: rest => (true, rest)
  | input => (false, input)

/-- The integer part of a number. -/
def scanInteger : List Char → Option (List Char × List Char)
  | '0' :: rest => some (['0'], rest)
  | input => if (spanDigits input).1 = [] then none else some (spanDigits input)

/-- The fraction of a number, if it has one: a point that no digit follows is not read. -/
def scanFraction : List Char → List Char × List Char
  | '.' :: rest => if (spanDigits rest).1 = [] then ([], '.' :: rest) else spanDigits rest
  | input => ([], input)

/-- The first mark of a list that starts a text. -/
def stripMark : List (List Char) → List Char → List Char × List Char
  | [], input => ([], input)
  | mark :: marks, input =>
    if mark.isPrefixOf input then (mark, input.drop mark.length) else stripMark marks input

/-- The exponent of a number, if it has one. -/
def scanExponent (input : List Char) : List Char × List Char × List Char :=
  let (mark, rest) := stripMark exponentMarks input
  if mark = [] ∨ (spanDigits rest).1 = [] then ([], [], input)
  else (mark, spanDigits rest)

/-- A number and what follows. -/
def scanNumber (input : List Char) : Option (Decimal × List Char) := do
  let (negative, rest) := scanSign input
  let (integer, rest) ← scanInteger rest
  let (fraction, rest) := scanFraction rest
  let (mark, exponent, rest) := scanExponent rest
  return ({ negative := negative, integer := integer, fraction := fraction, exponentMark := mark,
            exponent := exponent }, rest)

/-- The parts of an integer. -/
def Decimal.ofInt (value : ℤ) : Decimal where
  negative := value < 0
  integer := Nat.toDigits 10 value.natAbs

/-! ## Texts of trees -/

section
variable (codec : Codec)

mutual

/-- The text of a tree. An infinity, which no writer is given, has the name of its constant. -/
def JsonTree.text : JsonTree → List Char
  | .null => ['n', 'u', 'l', 'l']
  | .bool true => ['t', 'r', 'u', 'e']
  | .bool false => ['f', 'a', 'l', 's', 'e']
  | .int value => (Decimal.ofInt value).text
  | .float (some value) => codec.writeFloat value
  | .float none => ['I', 'n', 'f', 'i', 'n', 'i', 't', 'y']
  | .str value => stringText value
  | .arr items => '[' :: itemsText items
  | .obj members => '\x7b' :: membersText members

/-- The items of an array, to its closing bracket. -/
def itemsText : List JsonTree → List Char
  | [] => [']']
  | [item] => item.text ++ [']']
  | item :: next :: items => item.text ++ ',' :: itemsText (next :: items)

/-- The members of an object, to its closing brace. -/
def membersText : List (String × JsonTree) → List Char
  | [] => ['\x7d']
  | [(key, item)] => stringText key ++ ':' :: (item.text ++ ['\x7d'])
  | (key, item) :: next :: members =>
    stringText key ++ ':' :: (item.text ++ ',' :: membersText (next :: members))

end

/-! ## Reading -/

/-- Whitespace is skipped between tokens. -/
def skipSpace (input : List Char) : List Char :=
  input.dropWhile fun c => c == ' ' || c == '\t' || c == '\n' || c == '\r'

/-- The value of a number. -/
def Decimal.value (d : Decimal) : Option JsonTree :=
  if d.isFloat then some (.float (codec.readFloat d.text))
  else if codec.maxDigits < d.integer.length then none
  else
    let magnitude : ℤ := Nat.ofDigitChars 10 d.integer 0
    some (.int (if d.negative then -magnitude else magnitude))

/-- The members of an object, if their keys are distinct. -/
def distinctMembers (members : List (String × JsonTree)) : Option JsonTree :=
  if (members.map Prod.fst).Nodup then some (.obj members) else none

mutual

/-- A value and what follows, bounded by the characters left. -/
def parseValue : ℕ → List Char → Option (JsonTree × List Char)
  | 0, _ => none
  | fuel + 1, input =>
    match input with
    | 'n' :: 'u' :: 'l' :: 'l' :: rest => some (.null, rest)
    | 't' :: 'r' :: 'u' :: 'e' :: rest => some (.bool true, rest)
    | 'f' :: 'a' :: 'l' :: 's' :: 'e' :: rest => some (.bool false, rest)
    | '"' :: rest => do
      let (value, rest) ← scanString (fuel + 1) rest
      return (.str (String.ofList value), rest)
    | '[' :: rest =>
      match skipSpace rest with
      | ']' :: rest => some (.arr [], rest)
      | rest => do
        let (items, rest) ← parseItems fuel rest
        return (.arr items, rest)
    | '\x7b' :: rest =>
      match skipSpace rest with
      | '\x7d' :: rest => some (.obj [], rest)
      | rest => do
        let (members, rest) ← parseMembers fuel rest
        return (← distinctMembers members, rest)
    | input => do
      let (decimal, rest) ← scanNumber input
      return (← decimal.value codec, rest)

/-- Items to the closing bracket of an array. -/
def parseItems : ℕ → List Char → Option (List JsonTree × List Char)
  | 0, _ => none
  | fuel + 1, input => do
    let (item, rest) ← parseValue fuel input
    match skipSpace rest with
    | ']' :: rest => return ([item], rest)
    | ',' :: rest => do
      let (items, rest) ← parseItems fuel (skipSpace rest)
      return (item :: items, rest)
    | _ => none

/-- Members to the closing brace of an object. -/
def parseMembers : ℕ → List Char → Option (List (String × JsonTree) × List Char)
  | 0, _ => none
  | fuel + 1, input =>
    match input with
    | '"' :: rest => do
      let (key, rest) ← scanString (fuel + 1) rest
      match skipSpace rest with
      | ':' :: rest => do
        let (item, rest) ← parseValue fuel (skipSpace rest)
        match skipSpace rest with
        | '\x7d' :: rest => return ([(String.ofList key, item)], rest)
        | ',' :: rest => do
          let (members, rest) ← parseMembers fuel (skipSpace rest)
          return ((String.ofList key, item) :: members, rest)
        | _ => none
      | _ => none
    | _ => none

end

/-- The tree of a whole text. -/
def loads (text : List Char) : Option JsonTree := do
  let (tree, rest) ← parseValue codec (text.length + 1) (skipSpace text)
  if skipSpace rest = [] then return tree else none

end

end Library.JsonText
