import Mathlib.Data.List.Basic
import Mathlib.Data.Nat.Notation

/-!
# Bytes and text

The methods of `bytes` and the codecs that the modelled functions call.
-/

namespace NplgMcp

abbrev Bytes := List UInt8

/-- `str.encode("utf-8")`. -/
def encodeUtf8 (text : String) : Bytes := text.toList.flatMap String.utf8EncodeChar

/-- Different texts have different bytes. -/
theorem encodeUtf8_injective {a b : String} (h : encodeUtf8 a = encodeUtf8 b) : a = b := by
  have hbytes (text : String) : (encodeUtf8 text).toByteArray = text.toByteArray := by
    rw [← String.utf8Encode_toList]
    rfl
  rw [← String.toByteArray_inj, ← hbytes, h, hbytes]

/-- A byte string literal, or `str.encode("ascii")` of text that is known to be ASCII. -/
def ascii (text : String) : Bytes := text.toList.map fun c => c.toNat.toUInt8

/-- `bytes.decode("ascii")`: `none` is a `UnicodeDecodeError`. -/
def decodeAscii (bytes : Bytes) : Option (List Char) :=
  if bytes.all (· < 0x80) then some (bytes.map fun byte => Char.ofNat byte.toNat) else none

/-- `bytes.lower()`. -/
def lowerBytes (bytes : Bytes) : Bytes :=
  bytes.map fun byte => if 0x41 ≤ byte && byte ≤ 0x5A then byte + 0x20 else byte

/-- The whitespace of `bytes.strip()`. -/
def isSpaceByte (byte : UInt8) : Bool := byte == 0x20 || (0x09 ≤ byte && byte ≤ 0x0D)

/-- `bytes.strip()`. -/
def stripBytes (bytes : Bytes) : Bytes :=
  ((bytes.dropWhile isSpaceByte).reverse.dropWhile isSpaceByte).reverse

/-- `str.isdecimal()` of ASCII text. -/
def isDecimal (text : List Char) : Bool := !text.isEmpty && text.all Char.isDigit

/-- `sys.int_info.default_max_str_digits`: `int()` of more digits raises a `ValueError`. -/
def maxStrDigits : ℕ := 4300

/-- `int(text)` of ASCII digits: `none` is the `ValueError` of the digit limit. -/
def intOfDigits (text : List Char) : Option ℕ :=
  if maxStrDigits < text.length then none
  else some (text.foldl (fun value c => 10 * value + (c.toNat - '0'.toNat)) 0)

end NplgMcp
