import Mathlib.Tactic.Common

/-!
# Base 64

The URL-safe alphabet without padding, as `base64.urlsafe_b64encode` writes it, and the strict reader
`base64.b64decode` that gets the missing padding back. What is written is read back
(`decode_encode`), and has no dot (`dot_notMem_encode`).
-/

namespace Library.Base64

/-- The symbol of six bits. -/
def symbol (value : ℕ) : Char :=
  "ABCDEFGHIJKLMNOPQRSTUVWXYZabcdefghijklmnopqrstuvwxyz0123456789-_".toList.getD value 'A'

/-- The six bits of a symbol; the two symbols of the usual alphabet are read, too. -/
def symbolValue (c : Char) : Option ℕ :=
  if 'A' ≤ c ∧ c ≤ 'Z' then some (c.toNat - 65)
  else if 'a' ≤ c ∧ c ≤ 'z' then some (c.toNat - 71)
  else if '0' ≤ c ∧ c ≤ '9' then some (c.toNat + 4)
  else if c = '-' ∨ c = '+' then some 62
  else if c = '_' ∨ c = '/' then some 63
  else none

/-- The symbols of bytes. -/
def encode : List UInt8 → List Char
  | [] => []
  | [a] => [symbol (a.toNat / 4), symbol (a.toNat % 4 * 16)]
  | [a, b] =>
    [symbol (a.toNat / 4), symbol (a.toNat % 4 * 16 + b.toNat / 16), symbol (b.toNat % 16 * 4)]
  | a :: b :: c :: rest =>
    symbol (a.toNat / 4) :: symbol (a.toNat % 4 * 16 + b.toNat / 16) ::
      symbol (b.toNat % 16 * 4 + c.toNat / 64) :: symbol (c.toNat % 64) :: encode rest

/-- The bytes of symbols. -/
def decodeSymbols : List Char → Option (List UInt8)
  | [] => some []
  | [_] => none
  | [w, x] => do
    let w ← symbolValue w
    let x ← symbolValue x
    return [UInt8.ofNat (w * 4 + x / 16)]
  | [w, x, y] => do
    let w ← symbolValue w
    let x ← symbolValue x
    let y ← symbolValue y
    return [UInt8.ofNat (w * 4 + x / 16), UInt8.ofNat (x % 16 * 16 + y / 4)]
  | w :: x :: y :: z :: rest => do
    let w ← symbolValue w
    let x ← symbolValue x
    let y ← symbolValue y
    let z ← symbolValue z
    let bytes ← decodeSymbols rest
    return UInt8.ofNat (w * 4 + x / 16) :: UInt8.ofNat (x % 16 * 16 + y / 4) ::
      UInt8.ofNat (y % 4 * 64 + z) :: bytes

/-- The bytes of a text, which may have some of its padding. -/
def decode (s : List Char) : Option (List UInt8) :=
  let padded := s ++ List.replicate ((4 - s.length % 4) % 4) '='
  let padding := padded.dropWhile (· ≠ '=')
  if padding.all (· == '=') ∧ padding.length ≤ 2 then decodeSymbols (padded.takeWhile (· ≠ '='))
  else none

theorem symbolValue_symbol {value : ℕ} (h : value < 64) : symbolValue (symbol value) = some value := by
  have hall : ∀ value : Fin 64, symbolValue (symbol value) = some value.val := by
    decide +kernel
  exact hall ⟨value, h⟩

/-- A character of ASCII other than the padding and the dot. -/
def IsPlain (c : Char) : Prop := c ≠ '=' ∧ c ≠ '.' ∧ c.utf8Size = 1

instance (c : Char) : Decidable (IsPlain c) :=
  inferInstanceAs (Decidable (c ≠ '=' ∧ c ≠ '.' ∧ c.utf8Size = 1))

theorem symbol_plain {value : ℕ} (h : value < 64) : IsPlain (symbol value) := by
  have hall : ∀ value : Fin 64, IsPlain (symbol value) := by
    decide +kernel
  exact hall ⟨value, h⟩

/-- A byte is the number it is made of. -/
theorem ofNat_toNat {byte : UInt8} {value : ℕ} (h : value = byte.toNat) : UInt8.ofNat value = byte := by
  rw [h]
  exact UInt8.ofNat_toNat

theorem decodeSymbols_encode : ∀ bytes : List UInt8, decodeSymbols (encode bytes) = some bytes
  | [] => rfl
  | [a] => by
    have ha := a.toNat_lt
    rw [encode, decodeSymbols, symbolValue_symbol (by omega), symbolValue_symbol (by omega)]
    simp only [Option.bind_eq_bind, Option.bind_some, Option.pure_def]
    rw [@ofNat_toNat a _ (by omega)]
  | [a, b] => by
    have ha := a.toNat_lt
    have hb := b.toNat_lt
    rw [encode, decodeSymbols, symbolValue_symbol (by omega), symbolValue_symbol (by omega),
      symbolValue_symbol (by omega)]
    simp only [Option.bind_eq_bind, Option.bind_some, Option.pure_def]
    rw [@ofNat_toNat a _ (by omega), @ofNat_toNat b _ (by omega)]
  | a :: b :: c :: rest => by
    have ha := a.toNat_lt
    have hb := b.toNat_lt
    have hc := c.toNat_lt
    rw [encode, decodeSymbols, symbolValue_symbol (by omega), symbolValue_symbol (by omega),
      symbolValue_symbol (by omega), symbolValue_symbol (by omega), decodeSymbols_encode rest]
    simp only [Option.bind_eq_bind, Option.bind_some, Option.pure_def]
    rw [@ofNat_toNat a _ (by omega), @ofNat_toNat b _ (by omega), @ofNat_toNat c _ (by omega)]

/-- What is written are symbols, and never a single one behind the groups of four. -/
theorem encode_symbols : ∀ bytes : List UInt8,
    (∀ c ∈ encode bytes, IsPlain c) ∧ (encode bytes).length % 4 ≠ 1
  | [] => ⟨nofun, by decide⟩
  | [a] => by
    have ha := a.toNat_lt
    refine ⟨fun c hc => ?_, by simp [encode]⟩
    simp only [encode, List.mem_cons, List.not_mem_nil, or_false] at hc
    rcases hc with rfl | rfl <;> exact symbol_plain (by omega)
  | [a, b] => by
    have ha := a.toNat_lt
    have hb := b.toNat_lt
    refine ⟨fun c hc => ?_, by simp [encode]⟩
    simp only [encode, List.mem_cons, List.not_mem_nil, or_false] at hc
    rcases hc with rfl | rfl | rfl <;> exact symbol_plain (by omega)
  | a :: b :: c :: rest => by
    have ha := a.toNat_lt
    have hb := b.toNat_lt
    have hc := c.toNat_lt
    obtain ⟨hrest, hlength⟩ := encode_symbols rest
    refine ⟨fun d hd => ?_, ?_⟩
    · simp only [encode, List.mem_cons] at hd
      rcases hd with rfl | rfl | rfl | rfl | hd
      · exact symbol_plain (by omega)
      · exact symbol_plain (by omega)
      · exact symbol_plain (by omega)
      · exact symbol_plain (by omega)
      · exact hrest d hd
    · simp only [encode, List.length_cons]
      omega

theorem dot_notMem_encode {bytes : List UInt8} : '.' ∉ encode bytes := fun h =>
  ((encode_symbols bytes).1 _ h).2.1 rfl

theorem length_encode_le : ∀ bytes : List UInt8, (encode bytes).length ≤ 2 * bytes.length
  | [] => Nat.le_refl _
  | [_] => Nat.le_refl _
  | [_, _] => Nat.le_succ _
  | _ :: _ :: _ :: rest => by
    have hrest := length_encode_le rest
    simp only [encode, List.length_cons]
    omega

/-- What is written is read back. -/
theorem decode_encode {bytes : List UInt8} : decode (encode bytes) = some bytes := by
  obtain ⟨hsymbols, hlength⟩ := encode_symbols bytes
  have hplain : ∀ c ∈ encode bytes, (decide (c ≠ '=')) = true := fun c hc => by simpa using (hsymbols c hc).1
  have hpads : ((4 - (encode bytes).length % 4) % 4) ≤ 2 := by omega
  rw [decode, List.takeWhile_append_of_pos hplain, List.dropWhile_append_of_pos hplain]
  cases hcount : (4 - (encode bytes).length % 4) % 4 with
  | zero => simp [decodeSymbols_encode]
  | succ count =>
      rw [List.replicate_succ, List.dropWhile_cons_of_neg (by simp),
        List.takeWhile_cons_of_neg (by simp), List.append_nil, decodeSymbols_encode, if_pos]
      refine ⟨by simp, ?_⟩
      rw [List.length_cons, List.length_replicate]
      omega

end Library.Base64
