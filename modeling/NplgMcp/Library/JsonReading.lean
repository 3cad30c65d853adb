import NplgMcp.Library.JsonText

/-!
# Trees are read back from their texts

A strict reader finds the tree a text was written for (`loads_text`), if its floats are read back as
they are written, its integers are short enough and the keys of its objects are distinct
(`JsonTree.Readable`). Strings and numbers come first, each before whatever may follow it; a tree is
then read back by induction on it, with the length of its text as a bound on the reader's turns.
-/

namespace Library.JsonText

/-! ## Strings are read back -/

/-- Hexadecimal digits are read back. -/
theorem hexValue_hexChar : ∀ value < 16, hexValue (hexChar value) = some value := by decide

/-- A control character is the character of its own two digits. -/
theorem scanCodepoint_control {c : Char} (h : c.toNat < 0x20) (rest : List Char) :
    scanCodepoint ('0' :: '0' :: hexChar (c.toNat / 16) :: hexChar (c.toNat % 16) :: rest) =
      some (c, rest) := by
  have hzero : hexValue '0' = some 0 := hexValue_hexChar 0 (by omega)
  have hhigh := hexValue_hexChar (c.toNat / 16) (by omega)
  have hlow := hexValue_hexChar (c.toNat % 16) (by omega)
  have hunit : ((0 * 16 + 0) * 16 + c.toNat / 16) * 16 + c.toNat % 16 = c.toNat := by omega
  have hscan : scanUnit ('0' :: '0' :: hexChar (c.toNat / 16) :: hexChar (c.toNat % 16) :: rest) =
      some (c.toNat, rest) := by
    simp only [scanUnit, hzero, hhigh, hlow, Option.bind_eq_bind, Option.bind_some, hunit]
    rfl
  unfold scanCodepoint
  simp only [hscan, Option.bind_eq_bind, Option.bind_some]
  rw [if_neg (by omega), if_neg (by omega), Char.ofNat_toNat]
  rfl

/-- An escaped character is read back before whatever follows. -/
theorem scanString_escapeChar (c : Char) (fuel : ℕ) (rest : List Char) :
    scanString (fuel + 1) (escapeChar c ++ rest) =
      (scanString fuel rest).map fun p => (c :: p.1, p.2) := by
  have hescape : ∀ (letter decoded : Char) (tail : List Char),
      scanEscape (letter :: tail) = some (decoded, rest) →
      scanString (fuel + 1) ('\\' :: letter :: tail) =
        (scanString fuel rest).map fun p => (decoded :: p.1, p.2) := by
    intro letter decoded tail h
    simp only [scanString, h, Option.bind_eq_bind, Option.bind_some]
    cases scanString fuel rest <;> rfl
  unfold escapeChar
  split_ifs with h₁ h₂ h₃ h₄ h₅ h₆ h₇ h₈
  · subst h₁
    exact hescape '"' '"' rest rfl
  · subst h₂
    exact hescape '\\' '\\' rest rfl
  · subst h₃
    exact hescape 'n' '\n' rest rfl
  · subst h₄
    exact hescape 'r' '\r' rest rfl
  · subst h₅
    exact hescape 't' '\t' rest rfl
  · subst h₆
    exact hescape 'b' '\x08' rest rfl
  · subst h₇
    exact hescape 'f' '\x0c' rest rfl
  · exact hescape 'u' c _ (scanCodepoint_control h₈ rest)
  · simp only [List.cons_append, List.nil_append, scanString, if_neg h₁, if_neg h₂, if_neg h₈]
    cases scanString fuel rest <;> rfl

/-- The literal of a string is read back. -/
theorem scanString_stringTail (value : List Char) {fuel : ℕ} (h : value.length < fuel)
    (rest : List Char) : scanString fuel (stringTail value ++ rest) = some (value, rest) := by
  induction value generalizing fuel with
  | nil =>
      obtain ⟨fuel, rfl⟩ : ∃ left, fuel = left + 1 := ⟨fuel - 1, by simp at h; omega⟩
      rfl
  | cons c value ih =>
      obtain ⟨fuel, rfl⟩ : ∃ left, fuel = left + 1 := ⟨fuel - 1, by simp at h; omega⟩
      have htail : stringTail (c :: value) ++ rest =
          escapeChar c ++ (stringTail value ++ rest) := by
        simp only [stringTail, List.flatMap_cons, List.append_assoc]
      rw [htail, scanString_escapeChar, ih (by simpa using h)]
      rfl

/-! ## Numbers are read back -/

/-- What may follow a number. -/
def Delimited (rest : List Char) : Prop :=
  ∀ c ∈ rest.head?, c.isDigit = false ∧ c ≠ '.' ∧ c ≠ 'e' ∧ c ≠ 'E'

/-- Nothing delimits. -/
theorem delimited_nil : Delimited [] := by
  intro c hc
  simp at hc

/-- A punctuation mark delimits. -/
theorem delimited_cons {c : Char} (h : c.isDigit = false ∧ c ≠ '.' ∧ c ≠ 'e' ∧ c ≠ 'E')
    (rest : List Char) : Delimited (c :: rest) := by
  intro d hd
  obtain rfl : c = d := by simpa using hd
  exact h

/-- A run of digits ends where no digit follows. -/
theorem spanDigits_append {digits : List Char} (h : ∀ c ∈ digits, c.isDigit = true)
    (rest : List Char) (hrest : ∀ c ∈ rest.head?, c.isDigit = false) :
    spanDigits (digits ++ rest) = (digits, rest) := by
  unfold spanDigits
  rw [List.span_eq_takeWhile_dropWhile, List.takeWhile_append_of_pos h,
    List.dropWhile_append_of_pos h]
  cases rest with
  | nil => simp
  | cons c rest =>
      have hc : c.isDigit = false := hrest c (by simp)
      simp [hc]

/-- An integer part is read back where no digit follows. -/
theorem scanInteger_append {digits : List Char} (hdigits : ∀ c ∈ digits, c.isDigit = true)
    (hne : digits ≠ []) (hcanonical : digits = ['0'] ∨ digits.head? ≠ some '0')
    (rest : List Char) (hrest : ∀ c ∈ rest.head?, c.isDigit = false) :
    scanInteger (digits ++ rest) = some (digits, rest) := by
  rcases hcanonical with rfl | hhead
  · rfl
  · obtain ⟨c, tail, rfl⟩ := List.exists_cons_of_ne_nil hne
    have hc : c ≠ '0' := by simpa using hhead
    have hspan := spanDigits_append hdigits rest hrest
    simp only [List.cons_append] at hspan ⊢
    unfold scanInteger
    split
    · next heq => exact absurd (by simpa using (List.cons.inj heq).1) hc
    · rw [hspan, if_neg (by simp)]

/-- A fraction is read back where neither a digit nor, if it is empty, a point follows. -/
theorem scanFraction_append {digits : List Char} (hdigits : ∀ c ∈ digits, c.isDigit = true)
    (rest : List Char) (hrest : ∀ c ∈ rest.head?, c.isDigit = false)
    (hpoint : ∀ c ∈ rest.head?, c ≠ '.') :
    scanFraction ((if digits = [] then [] else '.' :: digits) ++ rest) = (digits, rest) := by
  by_cases hne : digits = []
  · subst hne
    simp only [if_true, List.nil_append]
    unfold scanFraction
    split
    · next tail => exact absurd rfl (hpoint '.' (by simp))
    · rfl
  · simp only [if_neg hne, List.cons_append, scanFraction, spanDigits_append hdigits rest hrest]

/-- An exponent is read back where none follows. -/
theorem scanExponent_append {mark digits : List Char} (hdigits : ∀ c ∈ digits, c.isDigit = true)
    (hmark : if digits = [] then mark = [] else mark ∈ exponentMarks)
    {rest : List Char} (hrest : Delimited rest) :
    scanExponent (mark ++ digits ++ rest) = (mark, digits, rest) := by
  by_cases hne : digits = []
  · subst hne
    obtain rfl : mark = [] := by simpa using hmark
    have hstrip : stripMark exponentMarks rest = ([], rest) := by
      cases rest with
      | nil => rfl
      | cons c rest =>
          obtain ⟨-, -, he, hE⟩ := hrest c (by simp)
          simp [stripMark, exponentMarks, Ne.symm he, Ne.symm hE]
    simp [scanExponent, hstrip]
  · rw [if_neg hne] at hmark
    have hspan := spanDigits_append hdigits rest fun c hc => (hrest c hc).1
    obtain ⟨c, tail, rfl⟩ := List.exists_cons_of_ne_nil hne
    have hdigit : c.isDigit = true := hdigits c (by simp)
    have hplus : '+' ≠ c := fun h => by subst h; exact absurd hdigit (by decide)
    have hminus : '-' ≠ c := fun h => by subst h; exact absurd hdigit (by decide)
    have hstrip : stripMark exponentMarks (mark ++ (c :: tail) ++ rest) =
        (mark, (c :: tail) ++ rest) := by
      simp only [exponentMarks, List.mem_cons, List.not_mem_nil, or_false] at hmark
      rcases hmark with rfl | rfl | rfl | rfl | rfl | rfl <;>
        simp [stripMark, exponentMarks, hplus, hminus]
    have hmark' : mark ≠ [] := by
      rintro rfl
      simp [exponentMarks] at hmark
    unfold scanExponent
    simp only [hstrip, hspan]
    rw [if_neg (by simp [hmark'])]

/-- The head of a text of parts is the head of the first that is not empty. -/
theorem head_append {front rest : List Char} {c : Char} (h : c ∈ (front ++ rest).head?) :
    c ∈ front ∨ front = [] ∧ c ∈ rest.head? := by
  cases front with
  | nil => exact .inr ⟨rfl, h⟩
  | cons d front =>
      obtain rfl : d = c := by simpa using h
      exact .inl (by simp)

/-- An exponent starts with a letter. -/
theorem head_exponent {mark digits rest : List Char}
    (hmark : if digits = [] then mark = [] else mark ∈ exponentMarks) (hrest : Delimited rest)
    {c : Char} (hc : c ∈ (mark ++ digits ++ rest).head?) : c.isDigit = false ∧ c ≠ '.' := by
  by_cases hne : digits = []
  · subst hne
    obtain rfl : mark = [] := by simpa using hmark
    exact ⟨(hrest c hc).1, (hrest c hc).2.1⟩
  · rw [if_neg hne] at hmark
    have hletter : ∀ mark ∈ exponentMarks, ∀ c ∈ mark.head?, c.isDigit = false ∧ c ≠ '.' := by
      simp [exponentMarks]
    have hhead : mark.head? = some c := by
      cases mark with
      | nil => simp [exponentMarks] at hmark
      | cons d mark => simpa using hc
    exact hletter mark hmark c hhead

/-- A number is read back where nothing that continues it follows. -/
theorem scanNumber_text {d : Decimal} (h : d.WellFormed) {rest : List Char}
    (hrest : Delimited rest) : scanNumber (d.text ++ rest) = some (d, rest) := by
  have hexponent := scanExponent_append h.exponent_digits h.exponent_iff hrest
  have hfraction := scanFraction_append h.fraction_digits
    (d.exponentMark ++ d.exponent ++ rest)
    (fun c hc => (head_exponent h.exponent_iff hrest hc).1)
    (fun c hc => (head_exponent h.exponent_iff hrest hc).2)
  have hinteger := scanInteger_append h.integer_digits h.integer_ne h.integer_canonical
    ((if d.fraction = [] then [] else '.' :: d.fraction) ++
      (d.exponentMark ++ d.exponent ++ rest)) fun c hc => by
      rcases head_append hc with hmem | ⟨-, htail⟩
      · by_cases hne : d.fraction = []
        · simp [hne] at hmem
        · obtain rfl : '.' = c := by simpa [hne] using hc
          rfl
      · exact (head_exponent h.exponent_iff hrest htail).1
  have hsign : scanSign (d.text ++ rest) =
      (d.negative, d.integer ++ ((if d.fraction = [] then [] else '.' :: d.fraction) ++
        (d.exponentMark ++ d.exponent ++ rest))) := by
    obtain ⟨c, tail, htail⟩ := List.exists_cons_of_ne_nil h.integer_ne
    have hc : c ≠ '-' := fun heq => by
      have hdigit := h.integer_digits c (by simp [htail])
      rw [heq] at hdigit
      exact absurd hdigit (by decide)
    cases hnegative : d.negative with
    | true => simp [scanSign, Decimal.text, hnegative]
    | false => simp [scanSign, Decimal.text, hnegative, htail, hc]
  unfold scanNumber
  simp only [hsign, hinteger, hfraction, hexponent, Option.bind_eq_bind, Option.bind_some]
  rfl

/-! ## Trees are read back -/

/-- The digits of a number start with a zero only if it is zero. -/
theorem toDigits_canonical (value : ℕ) :
    Nat.toDigits 10 value = ['0'] ∨ (Nat.toDigits 10 value).head? ≠ some '0' := by
  induction value using Nat.strongRecOn with
  | _ value ih =>
      by_cases hlt : value < 10
      · rw [Nat.toDigits_of_lt_base hlt]
        have hall : ∀ digit < 10, [Nat.digitChar digit] = ['0'] ∨
            [Nat.digitChar digit].head? ≠ some '0' := by decide
        exact hall value hlt
      · right
        have hle : 10 ≤ value := by omega
        rw [Nat.toDigits_of_base_le (by omega) hle]
        have hquot := ih (value / 10) (by omega)
        obtain ⟨c, tail, htail⟩ := List.exists_cons_of_ne_nil
          (Nat.toDigits_ne_nil (n := value / 10) (b := 10))
        rw [htail] at hquot ⊢
        rcases hquot with hzero | hhead
        · have hvalue : value / 10 = 0 := by
            have hread := Nat.ofDigitChars_ten_toDigits (n := value / 10)
            rw [htail, hzero] at hread
            exact hread.symm
          omega
        · simpa using hhead

/-- The parts of an integer are those of a number. -/
theorem Decimal.wellFormed_ofInt (value : ℤ) : (Decimal.ofInt value).WellFormed where
  integer_digits := fun _ hc => Nat.isDigit_of_mem_toDigits (by omega) (by omega) hc
  integer_ne := Nat.toDigits_ne_nil
  integer_canonical := toDigits_canonical _
  fraction_digits := by simp [ofInt]
  exponent_digits := by simp [ofInt]
  exponent_iff := by simp [ofInt]

section
variable (codec : Codec)

/-- The value is read back from the text it is written as. -/
def Codec.Reads (value : ℚ) : Prop :=
  ∃ d : Decimal, d.WellFormed ∧ d.isFloat = true ∧ codec.writeFloat value = d.text ∧
    codec.readFloat d.text = some value

mutual

/-- A tree that its text can be read back from: its floats are read back, its integers are short
enough and the keys of its objects are distinct. -/
def JsonTree.Readable : JsonTree → Prop
  | .null | .bool _ | .str _ => True
  | .int value => (Nat.toDigits 10 value.natAbs).length ≤ codec.maxDigits
  | .float none => False
  | .float (some value) => codec.Reads value
  | .arr items => itemsReadable items
  | .obj members => (members.map Prod.fst).Nodup ∧ membersReadable members

/-- All the items are readable. -/
def itemsReadable : List JsonTree → Prop
  | [] => True
  | item :: items => item.Readable ∧ itemsReadable items

/-- All the members are readable. -/
def membersReadable : List (String × JsonTree) → Prop
  | [] => True
  | (_, item) :: members => item.Readable ∧ membersReadable members

end

end

section
variable {codec : Codec}

/-- What a text starts with is neither whitespace nor a closing bracket. -/
def Opens (text : List Char) : Prop :=
  ∃ c tail, text = c :: tail ∧ c ≠ ' ' ∧ c ≠ '\t' ∧ c ≠ '\n' ∧ c ≠ '\r' ∧ c ≠ ']' ∧ c ≠ '\x7d'

/-- Nothing is skipped before a text. -/
theorem Opens.skipSpace {text : List Char} (h : Opens text) (rest : List Char) :
    skipSpace (text ++ rest) = text ++ rest := by
  obtain ⟨c, tail, rfl, hspace, htab, hline, hreturn, -, -⟩ := h
  unfold JsonText.skipSpace
  rw [List.cons_append, List.dropWhile_cons_of_neg]
  simp [hspace, htab, hline, hreturn]

/-- A number starts with its sign or a digit. -/
theorem Decimal.WellFormed.text_eq_cons {d : Decimal} (h : d.WellFormed) :
    ∃ c tail, d.text = c :: tail ∧ (c = '-' ∨ c.isDigit = true) := by
  obtain ⟨c, tail, htail⟩ := List.exists_cons_of_ne_nil h.integer_ne
  cases hnegative : d.negative with
  | true => exact ⟨'-', _, by simp [Decimal.text, hnegative]; rfl, .inl rfl⟩
  | false =>
      refine ⟨c, _, by simp [Decimal.text, hnegative, htail]; rfl, .inr ?_⟩
      exact h.integer_digits c (by simp [htail])

/-- A character that may start a number is none of the others. -/
theorem ne_of_startsNumber {c other : Char} (h : c = '-' ∨ c.isDigit = true)
    (hother : other ≠ '-' ∧ other.isDigit = false) : c ≠ other := by
  rintro rfl
  rcases h with rfl | hdigit
  · exact hother.1 rfl
  · exact absurd hdigit (by simp [hother.2])

/-- A number opens. -/
theorem Decimal.WellFormed.opens {d : Decimal} (h : d.WellFormed) : Opens d.text := by
  obtain ⟨c, tail, htext, hc⟩ := h.text_eq_cons
  exact ⟨c, tail, htext, ne_of_startsNumber hc (by decide), ne_of_startsNumber hc (by decide),
    ne_of_startsNumber hc (by decide), ne_of_startsNumber hc (by decide),
    ne_of_startsNumber hc (by decide), ne_of_startsNumber hc (by decide)⟩

/-- The text of a readable tree opens. -/
theorem JsonTree.Readable.opens {tree : JsonTree} (h : tree.Readable codec) :
    Opens (tree.text codec) := by
  cases tree with
  | null => exact ⟨'n', _, rfl, by decide⟩
  | bool value => cases value <;> exact ⟨_, _, rfl, by decide⟩
  | int value => exact (Decimal.wellFormed_ofInt value).opens
  | float value =>
      cases value with
      | none => exact h.elim
      | some value =>
          obtain ⟨d, hd, -, htext, -⟩ := h
          simpa only [JsonTree.text, htext] using hd.opens
  | str value => exact ⟨'"', _, rfl, by decide⟩
  | arr items => exact ⟨'[', _, rfl, by decide⟩
  | obj members => exact ⟨'\x7b', _, rfl, by decide⟩

/-- A number is a value where it is delimited. -/
theorem parseValue_number {d : Decimal} (h : d.WellFormed) {tree : JsonTree}
    (hvalue : d.value codec = some tree) {rest : List Char} (hrest : Delimited rest) (fuel : ℕ) :
    parseValue codec (fuel + 1) (d.text ++ rest) = some (tree, rest) := by
  have hscan := scanNumber_text h hrest
  obtain ⟨c, tail, htext, hc⟩ := h.text_eq_cons
  have hn : ∀ {other : Char}, other ≠ '-' ∧ other.isDigit = false → c ≠ other :=
    fun hother => ne_of_startsNumber hc hother
  rw [htext, List.cons_append] at hscan ⊢
  unfold parseValue
  split
  case h_7 => simp only [hscan, hvalue, Option.bind_eq_bind, Option.bind_some]; rfl
  all_goals
    next heq => exact absurd (List.cons.inj heq).1 (hn (by decide))

/-- An integer of few enough digits is its own value. -/
theorem Decimal.value_ofInt {value : ℤ}
    (h : (Nat.toDigits 10 value.natAbs).length ≤ codec.maxDigits) :
    (Decimal.ofInt value).value codec = some (.int value) := by
  have hdigits : Nat.ofDigitChars 10 (Nat.toDigits 10 value.natAbs) 0 = value.natAbs :=
    Nat.ofDigitChars_ten_toDigits
  unfold Decimal.value
  rw [if_neg (by simp [isFloat, ofInt]), if_neg (by simpa [ofInt] using h)]
  simp only [ofInt, hdigits]
  by_cases hneg : value < 0
  · simp only [decide_eq_true hneg, if_true]
    congr 2
    omega
  · simp only [decide_eq_false hneg, Bool.false_eq_true, if_false]
    congr 2
    omega

end

/-- The literal of a string is longer than the string, and at most six characters for each of its
own. -/
theorem length_stringTail (value : List Char) :
    value.length + 1 ≤ (stringTail value).length ∧
      (stringTail value).length ≤ 6 * value.length + 1 := by
  have hchar : ∀ c, 1 ≤ (escapeChar c).length ∧ (escapeChar c).length ≤ 6 := by
    intro c
    unfold escapeChar
    split_ifs <;> simp
  induction value with
  | nil => simp [stringTail]
  | cons c value ih =>
      have htail : stringTail (c :: value) = escapeChar c ++ stringTail value := by
        simp only [stringTail, List.flatMap_cons, List.append_assoc]
      have hc := hchar c
      simp only [htail, List.length_append, List.length_cons]
      omega

/-- The literal of a string is read back. -/
theorem scanString_stringText (value : String) (fuel : ℕ)
    (h : (stringText value).length ≤ fuel) (rest : List Char) :
    scanString fuel (stringTail value.toList ++ rest) = some (value.toList, rest) := by
  refine scanString_stringTail _ ?_ rest
  have hlength := (length_stringTail value.toList).1
  simp only [stringText, List.length_cons] at h
  omega

section
variable {codec : Codec}

/-- Items that are not none open as the first does. -/
theorem opens_itemsText {item : JsonTree} (h : item.Readable codec) (items : List JsonTree) :
    Opens (itemsText codec (item :: items)) := by
  obtain ⟨c, tail, htext, hc⟩ := h.opens
  cases items with
  | nil => exact ⟨c, tail ++ [']'], by simp only [itemsText, htext, List.cons_append], hc⟩
  | cons next items =>
      exact ⟨c, tail ++ ',' :: itemsText codec (next :: items), by
        simp only [itemsText, htext, List.cons_append], hc⟩

/-- Members that are not none open with a quotation mark. -/
theorem opens_membersText (key : String) (item : JsonTree) (members : List (String × JsonTree)) :
    Opens (membersText codec ((key, item) :: members)) := by
  cases members with
  | nil => exact ⟨'"', _, rfl, by decide⟩
  | cons next members => exact ⟨'"', _, rfl, by decide⟩

mutual

/-- A readable tree is read back from its text. -/
theorem parseValue_text (tree : JsonTree) (h : tree.Readable codec) (fuel : ℕ)
    (hfuel : (tree.text codec).length ≤ fuel) {rest : List Char} (hrest : Delimited rest) :
    parseValue codec fuel (tree.text codec ++ rest) = some (tree, rest) := by
  obtain ⟨fuel, rfl⟩ : ∃ left, fuel = left + 1 := by
    obtain ⟨c, tail, htext, -⟩ := h.opens
    exact ⟨fuel - 1, by simp only [htext, List.length_cons] at hfuel; omega⟩
  match tree with
  | .null => rfl
  | .bool true => rfl
  | .bool false => rfl
  | .int value =>
      exact parseValue_number (Decimal.wellFormed_ofInt value) (Decimal.value_ofInt h) hrest fuel
  | .float none => exact h.elim
  | .float (some value) =>
      obtain ⟨d, hd, hfloat, htext, hread⟩ := h
      simp only [JsonTree.text, htext]
      refine parseValue_number hd ?_ hrest fuel
      simp only [Decimal.value, hfloat, if_true, hread]
  | .str value =>
      have hscan := scanString_stringText value _ hfuel rest
      simp only [JsonTree.text, stringText, List.cons_append, parseValue, hscan, Option.bind_eq_bind,
        Option.bind_some, String.ofList_toList]
      rfl
  | .arr [] => rfl
  | .arr (item :: items) =>
      have hitems := parseItems_text (item :: items) (by simp) h fuel
        (by simpa [JsonTree.text] using hfuel) rest
      have hopens := opens_itemsText h.1 items
      have hskip := hopens.skipSpace rest
      obtain ⟨c, tail, htext, -, -, -, -, hbracket, -⟩ := hopens
      simp only [JsonTree.text, List.cons_append, parseValue]
      rw [hskip]
      split
      · next heq =>
          rw [htext] at heq
          exact absurd (List.cons.inj heq).1 hbracket
      · simp only [hitems, Option.bind_eq_bind, Option.bind_some]
        rfl
  | .obj [] => rfl
  | .obj ((key, item) :: members) =>
      have hmembers := parseMembers_text ((key, item) :: members) (by simp) h.2 fuel
        (by simpa [JsonTree.text] using hfuel) rest
      have hopens : Opens (membersText codec ((key, item) :: members)) :=
        opens_membersText key item members
      have hskip := hopens.skipSpace rest
      obtain ⟨c, tail, htext, -, -, -, -, -, hbrace⟩ := hopens
      simp only [JsonTree.text, List.cons_append, parseValue]
      rw [hskip]
      split
      · next heq =>
          rw [htext] at heq
          exact absurd (List.cons.inj heq).1 hbrace
      · simp only [hmembers, Option.bind_eq_bind, Option.bind_some, distinctMembers, if_pos h.1]
        rfl

/-- The items of an array are read back. -/
theorem parseItems_text (items : List JsonTree) (hne : items ≠ []) (h : itemsReadable codec items)
    (fuel : ℕ) (hfuel : (itemsText codec items).length ≤ fuel) (rest : List Char) :
    parseItems codec fuel (itemsText codec items ++ rest) = some (items, rest) := by
  match items with
  | [] => exact absurd rfl hne
  | [item] =>
      simp only [itemsText, List.length_append, List.length_cons, List.length_nil] at hfuel
      obtain ⟨fuel, rfl⟩ : ∃ left, fuel = left + 1 := ⟨fuel - 1, by omega⟩
      have hvalue := parseValue_text item h.1 fuel (by omega)
        (delimited_cons (c := ']') (by decide) rest)
      simp only [itemsText, List.append_assoc, List.cons_append, List.nil_append, parseItems,
        hvalue, Option.bind_eq_bind, Option.bind_some]
      rfl
  | item :: next :: items =>
      simp only [itemsText, List.length_append, List.length_cons] at hfuel
      obtain ⟨fuel, rfl⟩ : ∃ left, fuel = left + 1 := ⟨fuel - 1, by omega⟩
      have hvalue := parseValue_text item h.1 fuel (by omega)
        (delimited_cons (c := ',') (by decide) (itemsText codec (next :: items) ++ rest))
      have hitems := parseItems_text (next :: items) (by simp) h.2 fuel (by omega) rest
      have hopens := opens_itemsText h.2.1 items
      have hcomma : skipSpace (',' :: (itemsText codec (next :: items) ++ rest)) =
          ',' :: (itemsText codec (next :: items) ++ rest) := rfl
      simp only [itemsText, List.append_assoc, List.cons_append, parseItems, hvalue,
        Option.bind_eq_bind, Option.bind_some, hcomma, hopens.skipSpace rest, hitems]
      rfl

/-- The members of an object are read back. -/
theorem parseMembers_text (members : List (String × JsonTree)) (hne : members ≠ [])
    (h : membersReadable codec members) (fuel : ℕ)
    (hfuel : (membersText codec members).length ≤ fuel) (rest : List Char) :
    parseMembers codec fuel (membersText codec members ++ rest) = some (members, rest) := by
  match members with
  | [] => exact absurd rfl hne
  | [(key, item)] =>
      simp only [membersText, List.length_append, List.length_cons, List.length_nil] at hfuel
      obtain ⟨fuel, rfl⟩ : ∃ left, fuel = left + 1 := ⟨fuel - 1, by omega⟩
      have hkey := scanString_stringText key (fuel + 1) (by omega)
        (':' :: (item.text codec ++ '\x7d' :: rest))
      have hvalue := parseValue_text item h.1 fuel (by omega)
        (delimited_cons (c := '\x7d') (by decide) rest)
      have hcolon : skipSpace (':' :: (item.text codec ++ '\x7d' :: rest)) =
          ':' :: (item.text codec ++ '\x7d' :: rest) := rfl
      have hbrace : skipSpace ('\x7d' :: rest) = '\x7d' :: rest := rfl
      simp only [membersText, stringText, List.append_assoc, List.cons_append, List.nil_append,
        parseMembers, hkey, hcolon, h.1.opens.skipSpace, hvalue, hbrace, Option.bind_eq_bind,
        Option.bind_some, String.ofList_toList]
      rfl
  | (key, item) :: next :: members =>
      simp only [membersText, List.length_append, List.length_cons] at hfuel
      obtain ⟨fuel, rfl⟩ : ∃ left, fuel = left + 1 := ⟨fuel - 1, by omega⟩
      have hkey := scanString_stringText key (fuel + 1) (by omega)
        (':' :: (item.text codec ++ ',' :: (membersText codec (next :: members) ++ rest)))
      have hvalue := parseValue_text item h.1 fuel (by omega)
        (delimited_cons (c := ',') (by decide) (membersText codec (next :: members) ++ rest))
      have hmembers := parseMembers_text (next :: members) (by simp) h.2 fuel (by omega)
        rest
      have hopens : Opens (membersText codec (next :: members)) :=
        opens_membersText next.1 next.2 members
      have hcolon : ∀ tail, skipSpace (':' :: tail) = ':' :: tail := fun _ => rfl
      have hcomma : ∀ tail, skipSpace (',' :: tail) = ',' :: tail := fun _ => rfl
      simp only [membersText, stringText, List.append_assoc, List.cons_append, parseMembers, hkey,
        hcolon, h.1.opens.skipSpace, hvalue, hcomma, hopens.skipSpace rest, hmembers,
        Option.bind_eq_bind, Option.bind_some, String.ofList_toList]
      rfl

end

/-- A readable tree is the tree of its text. -/
theorem loads_text {tree : JsonTree} (h : tree.Readable codec) :
    loads codec (tree.text codec) = some tree := by
  have hskip : skipSpace (tree.text codec) = tree.text codec := by
    simpa using h.opens.skipSpace []
  have hvalue := parseValue_text tree h ((tree.text codec).length + 1) (by omega)
    delimited_nil
  rw [List.append_nil] at hvalue
  simp only [loads, hskip, hvalue, Option.bind_eq_bind, Option.bind_some]
  rfl

end

end Library.JsonText
