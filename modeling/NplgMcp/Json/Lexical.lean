import Mathlib.Data.List.TakeWhile
import Mathlib.Data.Option.Basic
import NplgMcp.Json.Grammar

/-!
# Tokens: the scanners against the grammar

What each scanner of the preflight reads is what the grammar derives: whitespace
(`takeWhitespace_append`, `skipWhitespace_append`), numbers (`consumeNumber_eq_some`) and strings
(`consumeStringLoop_sound`, `consumeString_complete`). The scanners are greedy, so the converse
directions ask what follows a token not to continue it.
-/

namespace NplgMcp.Json

/-! ## Bytes and whitespace -/

@[simp] theorem consumeByte_cons_self {byte : UInt8} {rest : List UInt8} :
    consumeByte byte (byte :: rest) = some rest := if_pos rfl

/-- The byte that is consumed is the expected one. -/
theorem consumeByte_eq_some {expected : UInt8} {rest next : List UInt8} :
    consumeByte expected rest = some next ↔ rest = expected :: next := by
  cases rest with
  | nil => simp [consumeByte]
  | cons byte rest => simp [consumeByte]

/-- Nothing is consumed where another byte stands, or none. -/
theorem consumeByte_eq_none {expected : UInt8} {rest : List UInt8} :
    consumeByte expected rest = none ↔ rest.head? ≠ some expected := by
  cases rest with
  | nil => simp [consumeByte]
  | cons byte rest => simp [consumeByte]

/-- The whitespace skipped. -/
def takeWhitespace (rest : List UInt8) : Whitespace :=
  ⟨rest.takeWhile isWhitespace, fun _ h => List.mem_takeWhile_imp h⟩

theorem takeWhitespace_append (rest : List UInt8) :
    (takeWhitespace rest).val ++ skipWhitespace rest = rest := List.takeWhile_append_dropWhile

/-- What is skipped is skipped as far as it goes. -/
theorem dropWhile_append_of_head {p : UInt8 → Bool} {front rest : List UInt8}
    (hfront : ∀ byte ∈ front, p byte = true) (hrest : ∀ byte ∈ rest.head?, p byte = false) :
    (front ++ rest).dropWhile p = rest := by
  rw [List.dropWhile_append_of_pos hfront]
  cases rest with
  | nil => rfl
  | cons byte rest => simp [hrest byte rfl]

/-- What is taken is taken as far as it goes. -/
theorem takeWhile_append_of_head {p : UInt8 → Bool} {front rest : List UInt8}
    (hfront : ∀ byte ∈ front, p byte = true) (hrest : ∀ byte ∈ rest.head?, p byte = false) :
    (front ++ rest).takeWhile p = front := by
  rw [List.takeWhile_append_of_pos hfront]
  cases rest with
  | nil => simp
  | cons byte rest => simp [hrest byte rfl]

/-- What follows does not continue what was skipped. -/
theorem head_dropWhile {p : UInt8 → Bool} {rest : List UInt8} :
    ∀ byte ∈ (rest.dropWhile p).head?, p byte = false := by
  intro byte hbyte
  have h := List.head?_dropWhile_not p rest
  rw [hbyte] at h
  simpa using h

/-- Whitespace before anything else is skipped. -/
theorem skipWhitespace_append (space : Whitespace) {rest : List UInt8}
    (h : ∀ byte ∈ rest.head?, isWhitespace byte = false) :
    skipWhitespace (space.val ++ rest) = rest :=
  dropWhile_append_of_head space.property h

/-! ## Digits -/

/-- One digit more, as the loop accumulates it. -/
def accumulate (limit : Option ℕ) (value : ℕ) (byte : UInt8) : ℕ :=
  if limit.any (value ≤ ·) then value * 10 + (byte.toNat - 48) else value

/-- The loop takes the digits as far as they go. -/
theorem consumeDigits_eq (limit : Option ℕ) (digits value : ℕ) (rest : List UInt8) :
    consumeDigits limit digits value rest =
      (digits + (rest.takeWhile isDigit).length,
        (rest.takeWhile isDigit).foldl (accumulate limit) value, rest.dropWhile isDigit) := by
  induction rest generalizing digits value with
  | nil => rfl
  | cons byte rest ih =>
      by_cases h : isDigit byte = true
      · simp only [consumeDigits, h, if_true, ih, List.takeWhile_cons, List.dropWhile_cons,
          List.length_cons, List.foldl_cons, accumulate]
        rw [Nat.add_right_comm, Nat.add_assoc]
      · simp [consumeDigits, h]

/-- Once the value has passed the limit it stays there. -/
theorem foldl_accumulate_of_lt {limit value : ℕ} (h : limit < value) (bytes : List UInt8) :
    bytes.foldl (accumulate (some limit)) value = value := by
  induction bytes with
  | nil => rfl
  | cons byte bytes ih => simpa [accumulate, Nat.not_le.2 h] using ih

/-- The saturating value is within the limit exactly when the number is. -/
theorem foldl_accumulate_le_iff {limit value : ℕ} (bytes : List UInt8) :
    bytes.foldl (accumulate (some limit)) value ≤ limit ↔
      bytes.foldl (fun value byte => value * 10 + (byte.toNat - 48)) value ≤ limit := by
  have hgrow : ∀ (bytes : List UInt8) (value : ℕ),
      value ≤ bytes.foldl (fun value byte => value * 10 + (byte.toNat - 48)) value := by
    intro bytes
    induction bytes with
    | nil => exact fun value => le_rfl
    | cons byte bytes ih =>
        intro value
        exact le_trans (by omega) (ih (value * 10 + (byte.toNat - 48)))
  induction bytes generalizing value with
  | nil => rfl
  | cons byte bytes ih =>
      by_cases h : value ≤ limit
      · simpa [accumulate, h] using ih
      · have hlt := Nat.not_le.1 h
        rw [foldl_accumulate_of_lt hlt]
        exact iff_of_false h fun hle => h (le_trans (hgrow (byte :: bytes) value) hle)

theorem peekIsDigit_eq_false {rest : List UInt8} :
    peekIsDigit rest = false ↔ ∀ byte ∈ rest.head?, isDigit byte = false := by
  cases rest with
  | nil => simp [peekIsDigit]
  | cons byte rest => simp [peekIsDigit]

/-- What `_consume_one_or_more_digits` answers for a run of digits. -/
def digitsAnswer (limit : Option ℕ) (digits : Digits) : ℕ :=
  if limit.isNone then digits.val.length else digits.val.foldl (accumulate limit) 0

/-- A run of digits is read whole. -/
theorem consumeOneOrMoreDigits_eq_some {limit : Option ℕ} {rest next : List UInt8} {answer : ℕ} :
    consumeOneOrMoreDigits limit rest = some (answer, next) ↔
      ∃ digits : Digits, rest = digits.val ++ next ∧ peekIsDigit next = false ∧
        answer = digitsAnswer limit digits := by
  simp only [consumeOneOrMoreDigits, consumeDigits_eq, Nat.zero_add]
  constructor
  · intro h
    split at h
    · cases h
    · rename_i hne
      obtain ⟨rfl, rfl⟩ := Prod.mk.inj (Option.some.inj h)
      refine ⟨⟨rest.takeWhile isDigit, by simpa using hne, fun _ h => List.mem_takeWhile_imp h⟩,
        List.takeWhile_append_dropWhile.symm, ?_, rfl⟩
      exact peekIsDigit_eq_false.2 head_dropWhile
  · rintro ⟨⟨digits, hne, hdigits⟩, rfl, hnext, rfl⟩
    have hhead := peekIsDigit_eq_false.1 hnext
    simp [takeWhile_append_of_head hdigits hhead, dropWhile_append_of_head hdigits hhead, hne,
      digitsAnswer]

/-! ## Numbers -/

/-- A minus sign is read if there is one. -/
theorem consumeSign_eq_some {rest next : List UInt8} :
    consumeSign rest = some next ↔
      rest = ord '-' :: next ∧ next ≠ [] ∨ rest = next ∧ rest.head? ≠ some (ord '-') := by
  rw [consumeSign]
  cases h : consumeByte (ord '-') rest with
  | none =>
      have hne := consumeByte_eq_none.1 h
      constructor
      · exact fun heq => .inr ⟨Option.some.inj heq, hne⟩
      · rintro (⟨rfl, -⟩ | ⟨rfl, -⟩)
        · exact absurd rfl hne
        · rfl
  | some tail =>
      obtain rfl := consumeByte_eq_some.1 h
      cases tail with
      | nil => simp
      | cons byte tail =>
          simp only [Option.some.injEq, List.cons.injEq, true_and, List.head?_cons, ne_eq,
            not_true_eq_false, and_false, or_false]
          exact ⟨fun heq => ⟨heq, heq ▸ List.cons_ne_nil byte tail⟩, And.left⟩

variable {limits : JsonPreflightLimits}

/-- A digit that is not zero is a digit. -/
theorem isNonzeroDigit_iff {byte : UInt8} :
    isNonzeroDigit byte = true ↔ isDigit byte = true ∧ byte ≠ ord '0' := by
  have h0 : ord '0' = 48 := rfl
  have h1 : ord '1' = 49 := rfl
  simp only [isNonzeroDigit, isDigit, Bool.and_eq_true, decide_eq_true_eq, h0, h1,
    UInt8.le_iff_toNat_le, ne_eq, ← UInt8.toNat_inj, UInt8.reduceToNat]
  omega

/-- An integer part is read whole, and has no leading zero. -/
theorem consumeInteger_eq_some {rest next : List UInt8} :
    consumeInteger limits rest = some next ↔
      ∃ integer : Digits,
        (integer.val = [ord '0'] ∨ integer.val.head? ≠ some (ord '0')) ∧
        rest = integer.val ++ next ∧ peekIsDigit next = false ∧
        integer.val.length ≤ limits.maxIntegerDigits := by
  cases h : consumeByte (ord '0') rest with
  | some tail =>
      obtain rfl := consumeByte_eq_some.1 h
      simp only [consumeInteger, h]
      constructor
      · intro heq
        cases hpeek : peekIsDigit tail with
        | true => simp [hpeek] at heq
        | false =>
            obtain rfl : tail = next := by simpa [hpeek] using heq
            exact ⟨⟨[ord '0'], by simp, by simp; decide⟩, .inl rfl, rfl, hpeek,
              limits.maxIntegerDigits_mem.1⟩
      · rintro ⟨⟨integer, hne, hdigits⟩, hzero, hrest, hpeek, -⟩
        have hinteger : integer = [ord '0'] := by
          rcases hzero with hzero | hzero
          · exact hzero
          · cases integer with
            | nil => exact absurd rfl hne
            | cons byte integer =>
                obtain ⟨rfl, -⟩ := List.cons.inj hrest
                exact absurd rfl hzero
        subst hinteger
        obtain rfl : tail = next := by simpa using hrest
        simp [hpeek]
  | none =>
      have hhead := consumeByte_eq_none.1 h
      simp only [consumeInteger, h, Option.bind_eq_bind, Option.bind_eq_some_iff,
        Option.guard_eq_some', Option.pure_def, Option.some.injEq, exists_const, Prod.exists,
        consumeOneOrMoreDigits_eq_some]
      constructor
      · rintro ⟨hfirst, _, tail, ⟨integer, rfl, hpeek, rfl⟩, hlength, rfl⟩
        refine ⟨integer, .inr fun hzero => hhead ?_, rfl, hpeek, hlength⟩
        rw [List.head?_append, hzero, Option.some_or]
      · rintro ⟨integer, hzero, rfl, hpeek, hlength⟩
        refine ⟨?_, _, next, ⟨integer, rfl, hpeek, rfl⟩, hlength, rfl⟩
        obtain ⟨integer, hne, hdigits⟩ := integer
        cases integer with
        | nil => exact absurd rfl hne
        | cons byte integer =>
            have hbyte : byte ≠ ord '0' := fun heq => hhead (by simp [heq])
            simpa using isNonzeroDigit_iff.2 ⟨hdigits byte (by simp), hbyte⟩

/-- A fraction is read if there is one. -/
theorem consumeFraction_eq_some {rest next : List UInt8} {present : Bool} :
    consumeFraction rest = some (present, next) ↔
      ∃ fraction : Option Digits, rest = fractionBytes fraction ++ next ∧
        present = fraction.isSome ∧
        (if fraction.isSome then peekIsDigit next = false else next.head? ≠ some (ord '.')) := by
  cases h : consumeByte (ord '.') rest with
  | none =>
      have hhead := consumeByte_eq_none.1 h
      simp only [consumeFraction, h, Option.some.injEq, Prod.mk.injEq]
      constructor
      · rintro ⟨rfl, rfl⟩
        exact ⟨none, rfl, rfl, hhead⟩
      · rintro ⟨fraction, rfl, rfl, hnext⟩
        cases fraction with
        | none => exact ⟨rfl, rfl⟩
        | some digits => exact absurd rfl hhead
  | some tail =>
      obtain rfl := consumeByte_eq_some.1 h
      simp only [consumeFraction, h, Option.bind_eq_bind, Option.bind_eq_some_iff, Option.pure_def,
        Option.some.injEq, Prod.exists, Prod.mk.injEq, consumeOneOrMoreDigits_eq_some]
      constructor
      · rintro ⟨_, _, ⟨digits, rfl, hpeek, -⟩, rfl, rfl⟩
        exact ⟨some digits, rfl, rfl, hpeek⟩
      · rintro ⟨fraction, hrest, rfl, hnext⟩
        cases fraction with
        | none =>
            rw [fractionBytes, List.nil_append] at hrest
            exact absurd (hrest ▸ rfl) hnext
        | some digits =>
            exact ⟨_, next, ⟨digits, (List.cons.inj hrest).2, hnext, rfl⟩, rfl, rfl⟩

/-- The sign of an exponent is skipped if there is one. -/
theorem skipExponentSign_eq {rest next : List UInt8} (h : peekIsDigit next = true) :
    skipExponentSign rest = next ↔
      ∃ sign : Option UInt8, (∀ byte ∈ sign, byte = ord '+' ∨ byte = ord '-') ∧
        rest = sign.toList ++ next := by
  constructor
  · rintro rfl
    cases rest with
    | nil => exact ⟨none, by simp, rfl⟩
    | cons byte rest =>
        by_cases hsign : byte = ord '+' ∨ byte = ord '-'
        · exact ⟨some byte, by simpa using hsign, by simp [skipExponentSign, hsign]⟩
        · exact ⟨none, by simp, by simp [skipExponentSign, hsign]⟩
  · rintro ⟨sign, hsign, rfl⟩
    cases sign with
    | some byte => simp [skipExponentSign, hsign byte rfl]
    | none =>
        cases next with
        | nil => cases h
        | cons byte next =>
            have hno : ¬ (byte = ord '+' ∨ byte = ord '-') := by
              rintro (rfl | rfl) <;> exact absurd h (by simp [peekIsDigit]; decide)
            simp [skipExponentSign, hno]

/-- The digits of an exponent start with a digit. -/
theorem Digits.peekIsDigit_append (digits : Digits) (next : List UInt8) :
    peekIsDigit (digits.val ++ next) = true := by
  obtain ⟨bytes, hne, hdigits⟩ := digits
  cases bytes with
  | nil => exact absurd rfl hne
  | cons byte bytes => simpa [peekIsDigit] using hdigits byte (by simp)

/-- An exponent is read if there is one, and its magnitude is within the limit. -/
theorem consumeExponent_eq_some {rest next : List UInt8} {present : Bool} :
    consumeExponent limits rest = some (present, next) ↔
      ∃ exponent : Option Exponent, rest = (exponent.map Exponent.bytes).getD [] ++ next ∧
        present = exponent.isSome ∧
        (∀ e ∈ exponent, digitsValue e.digits.val ≤ limits.maxExponentMagnitude) ∧
        (if exponent.isSome then peekIsDigit next = false
          else ∀ byte ∈ next.head?, byte ≠ ord 'e' ∧ byte ≠ ord 'E') := by
  by_cases hmarker : ∃ byte ∈ rest.head?, byte = ord 'e' ∨ byte = ord 'E'
  · obtain ⟨marker, hhead, hmarker⟩ := hmarker
    obtain ⟨tail, rfl⟩ : ∃ tail, rest = marker :: tail := by
      cases rest with
      | nil => cases hhead
      | cons byte tail => exact ⟨tail, by simpa using hhead⟩
    simp only [consumeExponent, if_pos hmarker, Option.bind_eq_bind, Option.bind_eq_some_iff,
      Option.guard_eq_some', Option.pure_def, Option.some.injEq, Prod.exists, Prod.mk.injEq,
      exists_const, consumeOneOrMoreDigits_eq_some]
    constructor
    · rintro ⟨_, _, ⟨digits, hskip, hpeek, rfl⟩, hle, rfl, rfl⟩
      obtain ⟨sign, hsign, rfl⟩ := (skipExponentSign_eq (digits.peekIsDigit_append _)).1 hskip
      refine ⟨some ⟨marker, sign, digits, hmarker, hsign⟩, by simp [Exponent.bytes], rfl, ?_, hpeek⟩
      rintro _ ⟨⟩
      exact (foldl_accumulate_le_iff _).1 hle
    · rintro ⟨exponent, hrest, rfl, hle, hnext⟩
      cases exponent with
      | none =>
          obtain rfl : marker :: tail = next := by simpa using hrest
          rcases hmarker with rfl | rfl
          · exact absurd rfl (hnext _ rfl).1
          · exact absurd rfl (hnext _ rfl).2
      | some e =>
          obtain ⟨-, rfl⟩ : marker = e.marker ∧ tail = e.sign.toList ++ (e.digits.val ++ next) := by
            simpa [Exponent.bytes] using hrest
          have hskip := (skipExponentSign_eq (e.digits.peekIsDigit_append next)).2
            ⟨e.sign, e.sign_mem, rfl⟩
          exact ⟨_, next, ⟨e.digits, hskip, hnext, rfl⟩,
            (foldl_accumulate_le_iff _).2 (hle e rfl), rfl, rfl⟩
  · have hother : ∀ byte ∈ rest.head?, byte ≠ ord 'e' ∧ byte ≠ ord 'E' := fun byte hbyte =>
      not_or.1 fun h => hmarker ⟨byte, hbyte, h⟩
    have hread : consumeExponent limits rest = some (false, rest) := by
      cases rest with
      | nil => rfl
      | cons byte rest => simp [consumeExponent, hother byte rfl]
    rw [hread]
    constructor
    · rintro ⟨⟩
      exact ⟨none, rfl, rfl, by simp, hother⟩
    · rintro ⟨exponent, rfl, rfl, -, -⟩
      cases exponent with
      | none => rfl
      | some e =>
          rcases e.marker_mem with hmem | hmem
          · exact absurd hmem (hother _ rfl).1
          · exact absurd hmem (hother _ rfl).2

/-- What follows a scalar in a text: nothing, whitespace, or the end of an element. -/
def Delimited (rest : List UInt8) : Prop :=
  ∀ byte ∈ rest.head?, isWhitespace byte = true ∨ byte = ord ',' ∨ byte = ord ']' ∨
    byte = ord '\x7d'

/-- What follows a scalar does not continue a number. -/
theorem Delimited.head {rest : List UInt8} (h : Delimited rest) (byte : UInt8)
    (hbyte : byte ∈ rest.head?) :
    isDigit byte = false ∧ byte ≠ ord '.' ∧ byte ≠ ord 'e' ∧ byte ≠ ord 'E' := by
  have hcases := h byte hbyte
  simp only [isWhitespace, Bool.or_eq_true, beq_iff_eq] at hcases
  rcases hcases with (((rfl | rfl) | rfl) | rfl) | rfl | rfl | rfl <;> decide

/-- Neither an exponent nor what follows a scalar continues a run of digits. -/
theorem exponent_head (exponent : Option Exponent) {next : List UInt8} (hnext : Delimited next)
    (byte : UInt8) (hbyte : byte ∈ ((exponent.map Exponent.bytes).getD [] ++ next).head?) :
    isDigit byte = false ∧ byte ≠ ord '.' := by
  cases exponent with
  | none => exact ⟨(hnext.head byte hbyte).1, (hnext.head byte hbyte).2.1⟩
  | some e =>
      obtain rfl : e.marker = byte := by simpa [Exponent.bytes] using hbyte
      rcases e.marker_mem with h | h <;> rw [h] <;> decide

variable {finite : List UInt8 → Bool}

/-- What `_consume_number` reads is a number within its limits. -/
theorem consumeNumber_sound {rest next : List UInt8} {isInteger : Bool}
    (h : consumeNumber limits finite rest = some (isInteger, next)) :
    ∃ n : Number, rest = n.bytes ++ next ∧ isInteger = n.isInteger ∧ n.Within limits finite := by
  simp only [consumeNumber, Option.bind_eq_bind, Option.bind_eq_some_iff, Option.guard_eq_some',
    Option.pure_def, Option.some.injEq, Prod.exists, Prod.mk.injEq, exists_const] at h
  obtain ⟨unsigned, hsign, afterInteger, hinteger, hasFraction, afterFraction, hfraction, hasExponent,
    next, hexponent, hlength, hfinite, rfl, rfl⟩ := h
  obtain ⟨integer, hcanonical, rfl, -, hdigits⟩ := consumeInteger_eq_some.1 hinteger
  obtain ⟨fraction, rfl, rfl, -⟩ := consumeFraction_eq_some.1 hfraction
  obtain ⟨exponent, rfl, rfl, hmagnitude, -⟩ := consumeExponent_eq_some.1 hexponent
  obtain ⟨negative, hrest⟩ : ∃ negative : Bool,
      rest = (Number.mk negative integer fraction exponent hcanonical).bytes ++ next := by
    rcases consumeSign_eq_some.1 hsign with ⟨rfl, -⟩ | ⟨rfl, -⟩
    · exact ⟨true, by simp [Number.bytes]⟩
    · exact ⟨false, by simp [Number.bytes]⟩
  have hspan : rest.length - next.length =
      (Number.mk negative integer fraction exponent hcanonical).bytes.length := by
    rw [hrest, List.length_append, Nat.add_sub_cancel]
  rw [hspan] at hlength hfinite
  refine ⟨⟨negative, integer, fraction, exponent, hcanonical⟩, hrest, ?_, hdigits, hmagnitude,
    hlength, ?_⟩
  · cases fraction <;> cases exponent <;> rfl
  · rwa [hrest, List.take_left] at hfinite

/-- A number within its limits is read whole, if nothing continues it. -/
theorem consumeNumber_complete {n : Number} {next : List UInt8} (h : n.Within limits finite)
    (hnext : Delimited next) :
    consumeNumber limits finite (n.bytes ++ next) = some (n.isInteger, next) := by
  obtain ⟨negative, integer, fraction, exponent, hcanonical⟩ := n
  have hpeek : peekIsDigit next = false :=
    peekIsDigit_eq_false.2 fun byte hbyte => (hnext.head byte hbyte).1
  have hexponent : consumeExponent limits ((exponent.map Exponent.bytes).getD [] ++ next) =
      some (exponent.isSome, next) := by
    refine consumeExponent_eq_some.2 ⟨exponent, rfl, rfl, h.exponent, ?_⟩
    cases exponent with
    | some e => exact hpeek
    | none => exact fun byte hbyte => (hnext.head byte hbyte).2.2
  have hfraction : consumeFraction
      (fractionBytes fraction ++ ((exponent.map Exponent.bytes).getD [] ++ next)) =
        some (fraction.isSome, (exponent.map Exponent.bytes).getD [] ++ next) := by
    refine consumeFraction_eq_some.2 ⟨fraction, rfl, rfl, ?_⟩
    have hhead := exponent_head exponent hnext
    cases fraction with
    | some digits => exact peekIsDigit_eq_false.2 fun byte hbyte => (hhead byte hbyte).1
    | none => exact fun hdot => (hhead _ hdot).2 rfl
  have hinteger : consumeInteger limits (integer.val ++
      (fractionBytes fraction ++ ((exponent.map Exponent.bytes).getD [] ++ next))) =
        some (fractionBytes fraction ++ ((exponent.map Exponent.bytes).getD [] ++ next)) := by
    refine consumeInteger_eq_some.2 ⟨integer, hcanonical, rfl, ?_, h.integer⟩
    cases fraction with
    | some digits => rfl
    | none => exact peekIsDigit_eq_false.2 fun byte hbyte => (exponent_head exponent hnext byte hbyte).1
  have hsign : consumeSign ((Number.mk negative integer fraction exponent hcanonical).bytes ++ next) =
      some (integer.val ++
        (fractionBytes fraction ++ ((exponent.map Exponent.bytes).getD [] ++ next))) := by
    refine consumeSign_eq_some.2 ?_
    have hdigit := integer.peekIsDigit_append
      (fractionBytes fraction ++ ((exponent.map Exponent.bytes).getD [] ++ next))
    cases negative with
    | true =>
        refine .inl ⟨by simp [Number.bytes], fun hnil => ?_⟩
        rw [hnil] at hdigit
        cases hdigit
    | false =>
        have hbytes : (Number.mk false integer fraction exponent hcanonical).bytes ++ next =
            integer.val ++
              (fractionBytes fraction ++ ((exponent.map Exponent.bytes).getD [] ++ next)) := by
          simp [Number.bytes]
        refine .inr ⟨hbytes, fun hminus => ?_⟩
        rw [peekIsDigit, ← hbytes, hminus] at hdigit
        exact absurd hdigit (by decide)
  have hspan : ((Number.mk negative integer fraction exponent hcanonical).bytes ++ next).length -
      next.length = (Number.mk negative integer fraction exponent hcanonical).bytes.length := by
    rw [List.length_append, Nat.add_sub_cancel]
  simp only [consumeNumber, Option.bind_eq_bind, Option.bind_eq_some_iff, Option.guard_eq_some',
    Option.pure_def, Option.some.injEq, Prod.exists, Prod.mk.injEq, exists_const]
  refine ⟨_, hsign, _, hinteger, _, _, hfraction, _, _, hexponent, ?_, ?_, ?_, rfl⟩
  · exact hspan ▸ h.bytes
  · rw [hspan, List.take_left]
    exact h.finite
  · cases fraction <;> cases exponent <;> rfl

/-! ## Strings -/

/-- Four hexadecimal digits are a code unit. -/
theorem consumeUnicodeCodeUnit_eq_some {rest next : List UInt8} {value : ℕ} :
    consumeUnicodeCodeUnit rest = some (value, next) ↔
      ∃ u : CodeUnit, rest = u.bytes ++ next ∧ value = u.value := by
  constructor
  · intro h
    match rest, h with
    | d₀ :: d₁ :: d₂ :: d₃ :: rest, h =>
        simp only [consumeUnicodeCodeUnit, Option.bind_eq_bind, Option.bind_eq_some_iff,
          Option.pure_def, Option.some.injEq, Prod.mk.injEq] at h
        obtain ⟨h₀, hd₀, h₁, hd₁, h₂, hd₂, h₃, hd₃, rfl, rfl⟩ := h
        exact ⟨⟨⟨d₀, h₀, hd₀⟩, ⟨d₁, h₁, hd₁⟩, ⟨d₂, h₂, hd₂⟩, ⟨d₃, h₃, hd₃⟩⟩, rfl, rfl⟩
  · rintro ⟨⟨⟨d₀, h₀, hd₀⟩, ⟨d₁, h₁, hd₁⟩, ⟨d₂, h₂, hd₂⟩, ⟨d₃, h₃, hd₃⟩⟩, rfl, rfl⟩
    simp [CodeUnit.bytes, CodeUnit.value, consumeUnicodeCodeUnit, hd₀, hd₁, hd₂, hd₃]

/-- The short escapes are those of the grammar. -/
theorem simpleEscape_eq_some {letter byte : UInt8} :
    simpleEscape letter = some byte ↔
      ∃ escape : SimpleEscape, letter = escape.letter ∧
        String.utf8EncodeChar escape.char = [byte] := by
  constructor
  · intro h
    unfold simpleEscape at h
    split_ifs at h with h₁ h₂ h₃ h₄ h₅ h₆ h₇ h₈ <;> obtain rfl := Option.some.inj h
    · exact ⟨.quote, h₁, by decide⟩
    · exact ⟨.solidus, h₂, by decide⟩
    · exact ⟨.backslash, h₃, by decide⟩
    · exact ⟨.backspace, h₄, by decide⟩
    · exact ⟨.formFeed, h₅, by decide⟩
    · exact ⟨.lineFeed, h₆, by decide⟩
    · exact ⟨.carriageReturn, h₇, by decide⟩
    · exact ⟨.tab, h₈, by decide⟩
  · rintro ⟨escape, rfl, hbyte⟩
    have hread : simpleEscape escape.letter = (String.utf8EncodeChar escape.char).head? := by
      cases escape <;> decide
    rw [hread, hbyte, List.head?_cons]

/-- What `_consume_escape` reads after a backslash is an escape of the grammar. -/
theorem consumeEscape_eq_some {rest next decoded : List UInt8} :
    consumeEscape rest = some (decoded, next) ↔
      ∃ escape : Escape, rest = escape.bytes ++ next ∧
        decoded = String.utf8EncodeChar escape.char := by
  constructor
  · intro h
    cases rest with
    | nil => cases h
    | cons letter rest =>
        cases hsimple : simpleEscape letter with
        | some byte =>
            obtain ⟨escape, rfl, hchar⟩ := simpleEscape_eq_some.1 hsimple
            obtain ⟨rfl, rfl⟩ : [byte] = decoded ∧ rest = next := by
              simpa [consumeEscape, hsimple] using h
            exact ⟨.simple escape, rfl, hchar.symm⟩
        | none =>
            simp only [consumeEscape, hsimple, Option.bind_eq_bind, Option.bind_eq_some_iff,
              Option.guard_eq_some', Prod.exists, exists_const] at h
            obtain ⟨rfl, value, tail, hunit, h⟩ := h
            obtain ⟨u, rfl, rfl⟩ := consumeUnicodeCodeUnit_eq_some.1 hunit
            by_cases hhigh : isHighSurrogate u.value = true
            · simp only [if_pos hhigh, Option.bind_eq_some_iff, Option.guard_eq_some',
                Option.pure_def, Option.some.injEq, Prod.exists, Prod.mk.injEq, exists_const,
                consumeByte_eq_some, consumeUnicodeCodeUnit_eq_some] at h
              obtain ⟨_, rfl, _, rfl, _, _, ⟨low, rfl, rfl⟩, hlow, rfl, rfl⟩ := h
              exact ⟨.pair u low hhigh hlow, by simp [Escape.bytes], rfl⟩
            · simp only [if_neg hhigh, Option.bind_eq_some_iff, Option.guard_eq_some',
                Option.pure_def, Option.some.injEq, Prod.mk.injEq, exists_const] at h
              obtain ⟨hlow, rfl, rfl⟩ := h
              exact ⟨.unit u (by simpa using hhigh) (by simpa using hlow), rfl, rfl⟩
  · rintro ⟨escape, rfl, rfl⟩
    cases escape with
    | simple escape =>
        obtain ⟨byte, hbyte⟩ : ∃ byte, String.utf8EncodeChar escape.char = [byte] := by
          cases escape <;> exact ⟨_, rfl⟩
        have hsimple := simpleEscape_eq_some.2 ⟨escape, rfl, hbyte⟩
        simp [Escape.bytes, Escape.char, consumeEscape, hsimple, hbyte]
    | unit u hhigh hlow =>
        have hunit : consumeUnicodeCodeUnit (u.bytes ++ next) = some (u.value, next) :=
          consumeUnicodeCodeUnit_eq_some.2 ⟨u, rfl, rfl⟩
        have hu : simpleEscape (ord 'u') = none := by decide
        simp [Escape.bytes, Escape.char, consumeEscape, hu, hunit, hhigh, hlow, encodeCodepoint]
    | pair high low hhigh hlow =>
        have hunit : consumeUnicodeCodeUnit (high.bytes ++ ord '\\' :: ord 'u' ::
            (low.bytes ++ next)) = some (high.value, ord '\\' :: ord 'u' :: (low.bytes ++ next)) :=
          consumeUnicodeCodeUnit_eq_some.2 ⟨high, rfl, rfl⟩
        have hlowunit : consumeUnicodeCodeUnit (low.bytes ++ next) = some (low.value, next) :=
          consumeUnicodeCodeUnit_eq_some.2 ⟨low, rfl, rfl⟩
        have hu : simpleEscape (ord 'u') = none := by decide
        simp [Escape.bytes, Escape.char, consumeEscape, hu, hunit, hlowunit, hhigh, hlow,
          encodeCodepoint]

/-- A byte that is read as itself. -/
theorem consumeStringLoop_cons {maxBytes fuel : ℕ} {content pending rest : List UInt8}
    {decoded : Option (List UInt8)} {value : UInt8} (hquote : value ≠ ord '"')
    (hbackslash : value ≠ ord '\\') (hcontrol : 0x1F < value)
    (hmax : content.length - (value :: rest).length < maxBytes) :
    consumeStringLoop maxBytes content (fuel + 1) pending decoded (value :: rest) =
      (Library.Utf8.feed pending value).bind fun pending =>
        consumeStringLoop maxBytes content fuel pending (decoded.map (· ++ [value])) rest := by
  simp only [consumeStringLoop, if_neg hquote, if_neg (Nat.not_le.2 hmax),
    if_neg (UInt8.not_le.2 hcontrol), if_pos hbackslash]
  rfl

/-- The bytes that are left measure those that were read. -/
theorem length_append_sub (front rest : List UInt8) :
    (front ++ rest).length - rest.length = front.length := by
  rw [List.length_append, Nat.add_sub_cancel]

/-- An escape that fits is read and decoded. -/
theorem consumeStringLoop_escape {maxBytes fuel : ℕ} {front rest : List UInt8}
    {decoded : Option (List UInt8)} {escape : Escape}
    (hmax : (front ++ ord '\\' :: escape.bytes).length ≤ maxBytes) :
    consumeStringLoop maxBytes (front ++ ord '\\' :: (escape.bytes ++ rest)) (fuel + 1) [] decoded
        (ord '\\' :: (escape.bytes ++ rest)) =
      consumeStringLoop maxBytes (front ++ ord '\\' :: (escape.bytes ++ rest)) fuel []
        (decoded.map (· ++ String.utf8EncodeChar escape.char)) rest := by
  have hescape : consumeEscape (escape.bytes ++ rest) =
      some (String.utf8EncodeChar escape.char, rest) :=
    consumeEscape_eq_some.2 ⟨escape, rfl, rfl⟩
  have hquote : ord '\\' ≠ ord '"' := by decide
  have hcontrol : ¬ ord '\\' ≤ 0x1F := by decide
  have hstart : ¬ maxBytes ≤ (front ++ ord '\\' :: (escape.bytes ++ rest)).length -
      (ord '\\' :: (escape.bytes ++ rest)).length := by
    rw [length_append_sub]
    simp only [List.length_append, List.length_cons] at hmax
    omega
  have hend : ¬ maxBytes < (front ++ ord '\\' :: (escape.bytes ++ rest)).length - rest.length := by
    have hsplit : front ++ ord '\\' :: (escape.bytes ++ rest) =
        (front ++ ord '\\' :: escape.bytes) ++ rest := by simp
    rw [hsplit, length_append_sub]
    exact Nat.not_lt.2 hmax
  simp only [consumeStringLoop, if_neg hquote, if_neg hstart, if_neg hcontrol, ne_eq,
    not_true_eq_false, if_false, hescape, Option.bind_eq_bind, Option.bind_some, if_neg hend]

/-- The UTF-8 bytes of the characters decoded. -/
def decodedBytes (chars : List StringChar) : List UInt8 :=
  chars.flatMap fun c => String.utf8EncodeChar c.char

/-- A character whose last byte is read as itself stands for itself. -/
theorem unescaped_of_last {c : Char} {pending : List UInt8} {value : UInt8}
    (hc : String.utf8EncodeChar c = pending ++ [value]) (hquote : value ≠ ord '"')
    (hbackslash : value ≠ ord '\\') (hcontrol : 0x1F < value) :
    0x20 ≤ c.toNat ∧ c ≠ '"' ∧ c ≠ '\\' := by
  refine ⟨?_, ?_, ?_⟩
  · have hmem : value ∈ String.utf8EncodeChar c := by simp [hc]
    have hbyte : 0x1F < value.toNat := UInt8.lt_iff_toNat_lt.1 hcontrol
    have hval : c.toNat = c.val.toNat := rfl
    rcases Library.Utf8.mem_utf8EncodeChar hmem with ⟨-, hhigh⟩ | heq <;> omega
  · rintro rfl
    have h := congrArg List.getLast? hc
    rw [List.getLast?_concat] at h
    exact hquote (Option.some.inj h.symm)
  · rintro rfl
    have h := congrArg List.getLast? hc
    rw [List.getLast?_concat] at h
    exact hbackslash (Option.some.inj h.symm)

/-- **What the loop of `_consume_string` reads.** Where `front` has been read and the decoder holds
the start of a character, what is read to the closing quotation mark completes it to a string, and
the content is within its limit. -/
theorem consumeStringLoop_sound {maxBytes fuel : ℕ} {front pending rest next : List UInt8}
    {base answer : Option (List UInt8)} (hpending : Library.Utf8.Unfinished pending)
    (hlength : (front ++ pending).length ≤ maxBytes)
    (h : consumeStringLoop maxBytes (front ++ (pending ++ rest)) fuel pending
      (base.map (· ++ pending)) rest = some (answer, next)) :
    ∃ chars : List StringChar, pending ++ rest = contentBytes chars ++ ord '"' :: next ∧
      (front ++ contentBytes chars).length ≤ maxBytes ∧
      answer = base.map (· ++ decodedBytes chars) := by
  induction fuel generalizing front pending base rest with
  | zero => cases h
  | succ fuel ih =>
      cases rest with
      | nil => cases h
      | cons value rest =>
          have hread : (front ++ (pending ++ value :: rest)).length - (value :: rest).length =
              (front ++ pending).length := by
            rw [← List.append_assoc, length_append_sub]
          by_cases hquote : value = ord '"'
          · subst hquote
            simp only [consumeStringLoop, if_true] at h
            split at h
            case isFalse => cases h
            rename_i hnil
            subst hnil
            obtain ⟨rfl, rfl⟩ := Prod.mk.inj (Option.some.inj h)
            exact ⟨[], rfl, by simpa [contentBytes] using hlength, rfl⟩
          by_cases hbackslash : value = ord '\\'
          · subst hbackslash
            simp only [consumeStringLoop, if_neg hquote, hread, ne_eq, not_true_eq_false,
              if_false] at h
            split_ifs at h with hmax hcontrol hnil
            subst hnil
            simp only [Option.bind_eq_bind, Option.bind_eq_some_iff, Prod.exists] at h
            obtain ⟨bytes, tail, hescape, h⟩ := h
            obtain ⟨escape, rfl, rfl⟩ := consumeEscape_eq_some.1 hescape
            split_ifs at h with hlong
            have hfront : (front ++ ord '\\' :: escape.bytes).length ≤ maxBytes := by
              have hsplit : front ++ ([] ++ ord '\\' :: (escape.bytes ++ tail)) =
                  (front ++ ord '\\' :: escape.bytes) ++ tail := by simp
              rw [hsplit, length_append_sub] at hlong
              exact Nat.not_lt.1 hlong
            have h' : consumeStringLoop maxBytes
                ((front ++ ord '\\' :: escape.bytes) ++ ([] ++ tail)) fuel []
                ((base.map (· ++ String.utf8EncodeChar escape.char)).map (· ++ [])) tail =
                  some (answer, next) := by
              simpa [Function.comp_def] using h
            obtain ⟨chars, hrest, hlen, rfl⟩ := ih Library.Utf8.unfinished_nil (by simpa using hfront) h'
            refine ⟨.escaped escape :: chars, ?_, ?_, ?_⟩
            · simpa [contentBytes, StringChar.bytes] using hrest
            · simpa [contentBytes, StringChar.bytes] using hlen
            · simp [decodedBytes, StringChar.char, Function.comp_def]
          · simp only [consumeStringLoop, if_neg hquote, hread, ne_eq, hbackslash,
              not_false_eq_true, if_true] at h
            split_ifs at h with hmax hcontrol
            simp only [Option.bind_eq_bind, Option.bind_eq_some_iff] at h
            obtain ⟨held, hfeed, h⟩ := h
            have hfront : (front ++ (pending ++ [value])).length ≤ maxBytes := by
              simp only [List.length_append, List.length_singleton] at hmax ⊢
              omega
            rcases hpending.feed hfeed with ⟨rfl, hheld⟩ | ⟨rfl, c, hc⟩
            · have h' : consumeStringLoop maxBytes (front ++ ((pending ++ [value]) ++ rest)) fuel
                  (pending ++ [value]) (base.map (· ++ (pending ++ [value]))) rest =
                    some (answer, next) := by
                simpa [Function.comp_def] using h
              obtain ⟨chars, hrest, hlen, hanswer⟩ := ih hheld hfront h'
              exact ⟨chars, by simpa using hrest, hlen, hanswer⟩
            · have h' : consumeStringLoop maxBytes
                  ((front ++ (pending ++ [value])) ++ ([] ++ rest)) fuel []
                  ((base.map (· ++ (pending ++ [value]))).map (· ++ [])) rest =
                    some (answer, next) := by
                simpa [Function.comp_def] using h
              obtain ⟨chars, hrest, hlen, rfl⟩ := ih Library.Utf8.unfinished_nil (by simpa using hfront) h'
              obtain ⟨hc0, hc1, hc2⟩ := unescaped_of_last hc hquote hbackslash
                (UInt8.not_le.1 hcontrol)
              refine ⟨.unescaped c hc0 hc1 hc2 :: chars, ?_, ?_, ?_⟩
              · simpa [contentBytes, StringChar.bytes, hc] using hrest
              · simpa [contentBytes, StringChar.bytes, hc] using hlen
              · simp [decodedBytes, StringChar.char, hc, Function.comp_def]

/-- Bytes that are read as themselves and finish a character are read through. -/
theorem consumeStringLoop_append {maxBytes fuel : ℕ} {front bytes pending rest : List UInt8}
    {decoded : Option (List UInt8)}
    (hbytes : ∀ value ∈ bytes, value ≠ ord '"' ∧ value ≠ ord '\\' ∧ 0x1F < value)
    (hlength : (front ++ bytes).length ≤ maxBytes)
    (hfeed : Library.Utf8.feedAll pending bytes = some []) :
    consumeStringLoop maxBytes (front ++ (bytes ++ rest)) (fuel + bytes.length) pending decoded
        (bytes ++ rest) =
      consumeStringLoop maxBytes (front ++ (bytes ++ rest)) fuel [] (decoded.map (· ++ bytes))
        rest := by
  induction bytes generalizing front pending decoded with
  | nil =>
      obtain rfl : pending = [] := by simpa [Library.Utf8.feedAll] using hfeed
      simp
  | cons value bytes ih =>
      obtain ⟨hquote, hbackslash, hcontrol⟩ := hbytes value (by simp)
      obtain ⟨held, hheld, hrest⟩ := Option.bind_eq_some_iff.1 hfeed
      have hmax : (front ++ value :: (bytes ++ rest)).length - (value :: (bytes ++ rest)).length <
          maxBytes := by
        simp only [List.length_append, List.length_cons] at hlength ⊢
        omega
      have hnext : consumeStringLoop maxBytes ((front ++ [value]) ++ (bytes ++ rest))
          (fuel + bytes.length) held (decoded.map (· ++ [value])) (bytes ++ rest) =
            consumeStringLoop maxBytes ((front ++ [value]) ++ (bytes ++ rest)) fuel []
              ((decoded.map (· ++ [value])).map (· ++ bytes)) rest :=
        ih (fun b hb => hbytes b (by simp [hb])) (by simpa using hlength) hrest
      rw [List.cons_append, List.length_cons, ← Nat.add_assoc,
        consumeStringLoop_cons hquote hbackslash hcontrol hmax, hheld, Option.bind_some]
      simpa [Function.comp_def] using hnext

/-- The bytes of an unescaped character are read as themselves. -/
theorem mem_unescaped {c : Char} (control : 0x20 ≤ c.toNat) (quote : c ≠ '"')
    (backslash : c ≠ '\\') {value : UInt8} (h : value ∈ String.utf8EncodeChar c) :
    value ≠ ord '"' ∧ value ≠ ord '\\' ∧ 0x1F < value := by
  have hval : c.toNat = c.val.toNat := rfl
  have hne : ∀ d : Char, c ≠ d → c.val.toNat ≠ d.val.toNat := fun d hcd heq =>
    hcd (Char.ext (UInt32.toNat_inj.1 heq))
  have hquote : c.val.toNat ≠ 34 := hne _ quote
  have hbackslash : c.val.toNat ≠ 92 := hne _ backslash
  have hlt : 0x1F < value.toNat → 0x1F < value := fun hlt => UInt8.lt_iff_toNat_lt.2 hlt
  rcases Library.Utf8.mem_utf8EncodeChar h with ⟨hhigh, -⟩ | heq
  · refine ⟨?_, ?_, hlt (by omega)⟩ <;> rintro rfl <;> exact absurd hhigh (by decide)
  · refine ⟨?_, ?_, hlt (by omega)⟩ <;> rintro rfl
    · exact hquote heq.symm
    · exact hbackslash heq.symm

/-- **A string of the grammar is read by the loop.** -/
theorem consumeStringLoop_complete {maxBytes fuel : ℕ} {front next : List UInt8}
    {decoded : Option (List UInt8)} (chars : List StringChar)
    (hlength : (front ++ contentBytes chars).length ≤ maxBytes)
    (hfuel : (contentBytes chars).length < fuel) :
    consumeStringLoop maxBytes (front ++ (contentBytes chars ++ ord '"' :: next)) fuel [] decoded
        (contentBytes chars ++ ord '"' :: next) =
      some (decoded.map (· ++ decodedBytes chars), next) := by
  induction chars generalizing front fuel decoded with
  | nil =>
      obtain ⟨fuel, rfl⟩ := Nat.exists_eq_succ_of_ne_zero (Nat.ne_of_gt hfuel)
      simp [contentBytes, decodedBytes, consumeStringLoop]
  | cons c chars ih =>
      have hcontent : contentBytes (c :: chars) = c.bytes ++ contentBytes chars := rfl
      have hdecoded : decodedBytes (c :: chars) =
          String.utf8EncodeChar c.char ++ decodedBytes chars := rfl
      rw [hcontent, List.length_append] at hfuel
      rw [hcontent, ← List.append_assoc] at hlength
      -- what is left after this character, by induction
      have hnext : ∀ left, (contentBytes chars).length < left →
          consumeStringLoop maxBytes
              ((front ++ c.bytes) ++ (contentBytes chars ++ ord '"' :: next)) left []
              (decoded.map (· ++ String.utf8EncodeChar c.char))
              (contentBytes chars ++ ord '"' :: next) =
            some (decoded.map (· ++ decodedBytes (c :: chars)), next) := by
        intro left hleft
        rw [ih hlength hleft, hdecoded]
        simp [Function.comp_def]
      have hfront : (front ++ c.bytes).length ≤ maxBytes := by
        rw [List.length_append] at hlength
        omega
      rw [hcontent, List.append_assoc]
      cases c with
      | unescaped ch control quote backslash =>
          obtain ⟨left, rfl⟩ : ∃ left, fuel = left + (String.utf8EncodeChar ch).length :=
            ⟨fuel - (String.utf8EncodeChar ch).length, by
              simp only [StringChar.bytes] at hfuel
              omega⟩
          simp only [StringChar.bytes, StringChar.char] at hfuel hfront hnext ⊢
          rw [consumeStringLoop_append (fun _ h => mem_unescaped control quote backslash h) hfront
            (Library.Utf8.feedAll_utf8EncodeChar ch)]
          simpa using hnext left (by omega)
      | escaped escape =>
          obtain ⟨left, rfl⟩ := Nat.exists_eq_succ_of_ne_zero (Nat.ne_of_gt (Nat.zero_lt_of_lt hfuel))
          simp only [StringChar.bytes, StringChar.char, List.length_cons] at hfuel hfront hnext ⊢
          rw [List.cons_append, consumeStringLoop_escape hfront]
          simpa using hnext left (by omega)

/-- The retained bytes decode to the decoded string. -/
theorem fromUTF8_decodedBytes (chars : List StringChar) :
    String.fromUTF8? (decodedBytes chars).toByteArray = some (decodedString chars) := by
  have hbytes : (decodedBytes chars).toByteArray = (decodedString chars).toByteArray := by
    rw [decodedString, String.toByteArray_ofList, List.utf8Encode, decodedBytes, List.flatMap_map]
  rw [hbytes, String.fromUTF8?, dif_pos (decodedString chars).isValidUTF8]
  rfl

/-- **A string is read exactly where the grammar derives one within its limit.** -/
theorem consumeString_eq_some {maxBytes : ℕ} {retain : Bool} {rest next : List UInt8}
    {answer : Option String} :
    consumeString maxBytes retain rest = some (answer, next) ↔
      ∃ chars : List StringChar, rest = stringBytes chars ++ next ∧
        (contentBytes chars).length ≤ maxBytes ∧
        answer = if retain then some (decodedString chars) else none := by
  simp only [consumeString, Option.bind_eq_bind, Option.bind_eq_some_iff, Prod.exists,
    consumeByte_eq_some]
  constructor
  · rintro ⟨content, rfl, decoded, tail, hloop, h⟩
    have hloop' : consumeStringLoop maxBytes ([] ++ ([] ++ content)) content.length []
        ((if retain then some [] else none : Option (List UInt8)).map (· ++ [])) content =
          some (decoded, tail) := by
      cases retain <;> exact hloop
    obtain ⟨chars, hcontent, hlength, hdecoded⟩ :=
      consumeStringLoop_sound Library.Utf8.unfinished_nil (Nat.zero_le _) hloop'
    obtain rfl : content = contentBytes chars ++ ord '"' :: tail := by simpa using hcontent
    have hanswer : answer = (if retain then some (decodedString chars) else none) ∧ next = tail := by
      cases retain with
      | false =>
          obtain rfl : decoded = none := by simpa using hdecoded
          obtain ⟨rfl, rfl⟩ : none = answer ∧ tail = next := by simpa using h
          exact ⟨rfl, rfl⟩
      | true =>
          obtain rfl : decoded = some (decodedBytes chars) := by simpa using hdecoded
          obtain ⟨rfl, rfl⟩ : some (decodedString chars) = answer ∧ tail = next := by
            simpa [fromUTF8_decodedBytes] using h
          exact ⟨rfl, rfl⟩
    obtain ⟨rfl, rfl⟩ := hanswer
    exact ⟨chars, by simp [stringBytes], by simpa using hlength, rfl⟩
  · rintro ⟨chars, rfl, hlength, rfl⟩
    refine ⟨contentBytes chars ++ ord '"' :: next, by simp [stringBytes], ?_⟩
    have hloop := @consumeStringLoop_complete maxBytes
      (contentBytes chars ++ ord '"' :: next).length [] next
      (if retain then some [] else none) chars (by simpa using hlength) (by simp)
    cases retain with
    | false => exact ⟨none, next, hloop, rfl⟩
    | true =>
        refine ⟨some (decodedBytes chars), next, hloop, ?_⟩
        simp [fromUTF8_decodedBytes]

end NplgMcp.Json
