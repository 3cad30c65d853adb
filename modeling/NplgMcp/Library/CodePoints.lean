import NplgMcp.Library.JsonAscii

/-!
# Strings of code points

Strings whose characters are code points, surrogates among them, and their JSON literals in ASCII. A
reader takes a high surrogate and a low one behind it for one character (`joinSurrogates`), so that a
string is read back from its literal exactly if it has no such pair
(`joinSurrogates_eq_self_iff`).
-/

namespace Library.JsonText

/-- A code point, which may be a surrogate. -/
abbrev CodePoint := Fin 0x110000

/-- The code point of a number. -/
def codePoint (value : ℕ) : CodePoint := Fin.ofNat 0x110000 value

/-- A number of a code point is its own. -/
theorem val_codePoint {value : ℕ} (h : value < 0x110000) : (codePoint value).val = value :=
  Nat.mod_eq_of_lt h

/-- The code points of a string. -/
def pointsOf (value : String) : List CodePoint := value.toList.map fun c => codePoint c.toNat

/-- High surrogates. -/
def IsHigh (c : CodePoint) : Prop := 0xD800 ≤ c.val ∧ c.val ≤ 0xDBFF

/-- Low surrogates. -/
def IsLow (c : CodePoint) : Prop := 0xDC00 ≤ c.val ∧ c.val ≤ 0xDFFF

instance (c : CodePoint) : Decidable (IsHigh c) :=
  inferInstanceAs (Decidable (0xD800 ≤ c.val ∧ c.val ≤ 0xDBFF))

instance (c : CodePoint) : Decidable (IsLow c) :=
  inferInstanceAs (Decidable (0xDC00 ≤ c.val ∧ c.val ≤ 0xDFFF))

/-- The character of two surrogates. -/
def pairValue (high low : ℕ) : ℕ := 0x10000 + (high - 0xD800) * 1024 + (low - 0xDC00)

/-- A string with its pairs of surrogates joined, from the left. -/
def joinSurrogates : List CodePoint → List CodePoint
  | [] => []
  | [c] => [c]
  | c :: d :: rest =>
    if IsHigh c ∧ IsLow d then codePoint (pairValue c d) :: joinSurrogates rest
    else c :: joinSurrogates (d :: rest)

/-- No high surrogate has a low one behind it. -/
def NoPair (value : List CodePoint) : Prop := value.IsChain fun c d => ¬ (IsHigh c ∧ IsLow d)

instance (value : List CodePoint) : Decidable (NoPair value) :=
  inferInstanceAs (Decidable (value.IsChain fun c d => ¬ (IsHigh c ∧ IsLow d)))

/-! ## Literals -/

/-- A code point in a literal. -/
def escapePoint (c : CodePoint) : List Char :=
  if c.val = 0x22 then ['\\', '"']
  else if c.val = 0x5C then ['\\', '\\']
  else if c.val = 0x0A then ['\\', 'n']
  else if c.val = 0x0D then ['\\', 'r']
  else if c.val = 0x09 then ['\\', 't']
  else if c.val = 0x08 then ['\\', 'b']
  else if c.val = 0x0C then ['\\', 'f']
  else if 0x20 ≤ c.val ∧ c.val ≤ 0x7E then [Char.ofNat c.val]
  else if c.val < 0x10000 then unicodeEscape c.val
  else unicodeEscape (0xD800 + (c.val - 0x10000) / 1024) ++
    unicodeEscape (0xDC00 + (c.val - 0x10000) % 1024)

/-- The literal of a string, without its opening quotation mark. -/
def pointsTail (value : List CodePoint) : List Char := value.flatMap escapePoint ++ ['"']

/-- What follows the `u` of an escape: a low surrogate is taken with the high one before it. -/
def scanUnicode (input : List Char) : Option (CodePoint × List Char) := do
  let (unit, rest) ← scanUnit input
  if 0xD800 ≤ unit ∧ unit ≤ 0xDBFF then
    match rest with
    | '\\' :: 'u' :: tail => do
      let (low, after) ← scanUnit tail
      if 0xDC00 ≤ low ∧ low ≤ 0xDFFF then return (codePoint (pairValue unit low), after)
      else return (codePoint unit, rest)
    | _ => return (codePoint unit, rest)
  else return (codePoint unit, rest)

/-- What follows a backslash. -/
def scanPointEscape : List Char → Option (CodePoint × List Char)
  | '"' :: rest => some (codePoint 0x22, rest)
  | '\\' :: rest => some (codePoint 0x5C, rest)
  | '/' :: rest => some (codePoint 0x2F, rest)
  | 'b' :: rest => some (codePoint 0x08, rest)
  | 'f' :: rest => some (codePoint 0x0C, rest)
  | 'n' :: rest => some (codePoint 0x0A, rest)
  | 'r' :: rest => some (codePoint 0x0D, rest)
  | 't' :: rest => some (codePoint 0x09, rest)
  | 'u' :: rest => scanUnicode rest
  | _ => none

/-- A string literal after its opening quotation mark, bounded by the characters left. -/
def scanPoints : ℕ → List Char → Option (List CodePoint × List Char)
  | 0, _ => none
  | _ + 1, [] => none
  | fuel + 1, c :: rest =>
    if c = '"' then some ([], rest)
    else if c = '\\' then do
      let (decoded, rest) ← scanPointEscape rest
      let (value, rest) ← scanPoints fuel rest
      return (decoded :: value, rest)
    else if c.toNat < 0x20 then none
    else do
      let (value, rest) ← scanPoints fuel rest
      return (codePoint c.toNat :: value, rest)

/-! ## Literals are read back -/

/-- A code unit is read back from its escape. -/
theorem scanUnit_hexChar {unit : ℕ} (h : unit < 0x10000) (rest : List Char) :
    scanUnit (hexChar (unit / 4096 % 16) :: hexChar (unit / 256 % 16) :: hexChar (unit / 16 % 16) ::
      hexChar (unit % 16) :: rest) = some (unit, rest) := by
  have hvalue : ((unit / 4096 % 16 * 16 + unit / 256 % 16) * 16 + unit / 16 % 16) * 16 + unit % 16 =
      unit := by omega
  simp only [scanUnit, hexValue_hexChar _ (Nat.mod_lt _ (by omega : 0 < 16)), Option.bind_eq_bind,
    Option.bind_some, hvalue]
  rfl

/-- No low surrogate is read from this text. -/
def NoLow (rest : List Char) : Prop :=
  ∀ tail, rest = '\\' :: 'u' :: tail →
    ∃ unit after, scanUnit tail = some (unit, after) ∧ ¬ (0xDC00 ≤ unit ∧ unit ≤ 0xDFFF)

/-- A code unit that is not a high surrogate, or has no low one behind it, is a code point. -/
theorem scanUnicode_unit {unit : ℕ} (h : unit < 0x10000) {rest : List Char}
    (hrest : 0xD800 ≤ unit ∧ unit ≤ 0xDBFF → NoLow rest) :
    scanUnicode (hexChar (unit / 4096 % 16) :: hexChar (unit / 256 % 16) ::
      hexChar (unit / 16 % 16) :: hexChar (unit % 16) :: rest) = some (codePoint unit, rest) := by
  simp only [scanUnicode, scanUnit_hexChar h, Option.bind_eq_bind, Option.bind_some]
  by_cases hhigh : 0xD800 ≤ unit ∧ unit ≤ 0xDBFF
  · rw [if_pos hhigh]
    split
    next tail =>
      obtain ⟨low, after, hscan, hlow⟩ := hrest hhigh tail rfl
      simp only [hscan, Option.bind_some, if_neg hlow]
      rfl
    next => rfl
  · rw [if_neg hhigh]
    rfl

/-- Two code units of a pair are one code point. -/
theorem scanUnicode_pair {high low : ℕ} (hhigh : 0xD800 ≤ high ∧ high ≤ 0xDBFF)
    (hlow : 0xDC00 ≤ low ∧ low ≤ 0xDFFF) (rest : List Char) :
    scanUnicode (hexChar (high / 4096 % 16) :: hexChar (high / 256 % 16) ::
      hexChar (high / 16 % 16) :: hexChar (high % 16) :: (unicodeEscape low ++ rest)) =
      some (codePoint (pairValue high low), rest) := by
  simp only [scanUnicode, scanUnit_hexChar (show high < 0x10000 by omega), Option.bind_eq_bind,
    Option.bind_some, if_pos hhigh, unicodeEscape, List.cons_append, List.nil_append,
    scanUnit_hexChar (show low < 0x10000 by omega), if_pos hlow]
  rfl

/-- A code point of the Basic Multilingual Plane is read back where no pair is made of it. -/
theorem scanPoints_escapePoint {c : CodePoint} (hplane : c.val < 0x10000) (fuel : ℕ)
    {rest : List Char} (hrest : IsHigh c → NoLow rest) :
    scanPoints (fuel + 1) (escapePoint c ++ rest) =
      (scanPoints fuel rest).map fun p => (c :: p.1, p.2) := by
  have hescape : ∀ (letter : Char) (decoded : CodePoint) (tail : List Char),
      scanPointEscape (letter :: tail) = some (decoded, rest) →
      scanPoints (fuel + 1) ('\\' :: letter :: tail) =
        (scanPoints fuel rest).map fun p => (decoded :: p.1, p.2) := by
    intro letter decoded tail h
    simp only [scanPoints, h, Option.bind_eq_bind, Option.bind_some]
    cases scanPoints fuel rest <;> rfl
  have hsame : ∀ {value : ℕ}, c.val = value → codePoint value = c := by
    rintro value rfl
    exact Fin.ext (val_codePoint c.isLt)
  unfold escapePoint
  split_ifs with h₁ h₂ h₃ h₄ h₅ h₆ h₇ h₈
  · rw [← hsame h₁]
    exact hescape '"' _ rest rfl
  · rw [← hsame h₂]
    exact hescape '\\' _ rest rfl
  · rw [← hsame h₃]
    exact hescape 'n' _ rest rfl
  · rw [← hsame h₄]
    exact hescape 'r' _ rest rfl
  · rw [← hsame h₅]
    exact hescape 't' _ rest rfl
  · rw [← hsame h₆]
    exact hescape 'b' _ rest rfl
  · rw [← hsame h₇]
    exact hescape 'f' _ rest rfl
  · have hvalue : (Char.ofNat c.val).toNat = c.val := by
      rw [Char.ofNat, dif_pos (Or.inl (by omega))]
      rfl
    have hne : ∀ other : Char, c.val ≠ other.toNat → Char.ofNat c.val ≠ other := by
      rintro other hother rfl
      exact hother hvalue.symm
    simp only [List.cons_append, List.nil_append, scanPoints, if_neg (hne '"' h₁),
      if_neg (hne '\\' h₂), hvalue, if_neg (Nat.not_lt.2 h₈.1), hsame rfl]
    cases scanPoints fuel rest <;> rfl
  · have hunit := scanUnicode_unit hplane hrest
    rw [hsame rfl] at hunit
    exact hescape 'u' c _ hunit

/-- A pair of surrogates is read as one code point. -/
theorem scanPoints_pair {high low : ℕ} (hhigh : 0xD800 ≤ high ∧ high ≤ 0xDBFF)
    (hlow : 0xDC00 ≤ low ∧ low ≤ 0xDFFF) (fuel : ℕ) (rest : List Char) :
    scanPoints (fuel + 1) (unicodeEscape high ++ (unicodeEscape low ++ rest)) =
      (scanPoints fuel rest).map fun p => (codePoint (pairValue high low) :: p.1, p.2) := by
  have hpair : scanPointEscape ('u' :: hexChar (high / 4096 % 16) :: hexChar (high / 256 % 16) ::
      hexChar (high / 16 % 16) :: hexChar (high % 16) :: (unicodeEscape low ++ rest)) =
      some (codePoint (pairValue high low), rest) := scanUnicode_pair hhigh hlow rest
  change scanPoints (fuel + 1) ('\\' :: 'u' :: hexChar (high / 4096 % 16) ::
    hexChar (high / 256 % 16) :: hexChar (high / 16 % 16) :: hexChar (high % 16) ::
    (unicodeEscape low ++ rest)) = _
  simp only [scanPoints, hpair, Option.bind_eq_bind, Option.bind_some]
  cases scanPoints fuel rest <;> rfl

/-- A code point above the Basic Multilingual Plane is read back. -/
theorem scanPoints_supplementary {c : CodePoint} (hplane : 0x10000 ≤ c.val) (fuel : ℕ)
    (rest : List Char) :
    scanPoints (fuel + 1) (escapePoint c ++ rest) =
      (scanPoints fuel rest).map fun p => (c :: p.1, p.2) := by
  have hlt := c.isLt
  have hescape : escapePoint c = unicodeEscape (0xD800 + (c.val - 0x10000) / 1024) ++
      unicodeEscape (0xDC00 + (c.val - 0x10000) % 1024) := by
    unfold escapePoint
    split_ifs <;> first | omega | rfl
  have hpair : codePoint (pairValue (0xD800 + (c.val - 0x10000) / 1024)
      (0xDC00 + (c.val - 0x10000) % 1024)) = c := by
    refine Fin.ext ?_
    rw [val_codePoint] <;> unfold pairValue <;> omega
  rw [hescape, List.append_assoc, scanPoints_pair (by omega) (by omega), hpair]

/-- What is escaped for a code point that is no low surrogate is not read as one. -/
theorem noLow_escapePoint {c : CodePoint} (h : ¬ IsLow c) (rest : List Char) :
    NoLow (escapePoint c ++ rest) := by
  have hlt := c.isLt
  have hunit : ∀ {unit : ℕ} (more : List Char), unit < 0x10000 →
      ¬ (0xDC00 ≤ unit ∧ unit ≤ 0xDFFF) → NoLow (unicodeEscape unit ++ more) := by
    intro unit more hplane hlow tail htail
    obtain ⟨-, htail⟩ := List.cons.inj htail
    obtain ⟨-, rfl⟩ := List.cons.inj htail
    exact ⟨unit, more, scanUnit_hexChar hplane more, hlow⟩
  unfold escapePoint
  split_ifs with h₁ h₂ h₃ h₄ h₅ h₆ h₇ h₈ h₉
  · rintro tail ⟨⟩
  · rintro tail ⟨⟩
  · rintro tail ⟨⟩
  · rintro tail ⟨⟩
  · rintro tail ⟨⟩
  · rintro tail ⟨⟩
  · rintro tail ⟨⟩
  · intro tail htail
    have hhead : Char.ofNat c.val = '\\' := (List.cons.inj htail).1
    have hvalue : (Char.ofNat c.val).toNat = c.val := by
      rw [Char.ofNat, dif_pos (Or.inl (by omega))]
      rfl
    rw [hhead] at hvalue
    exact absurd hvalue.symm h₂
  · exact hunit rest h₉ h
  · rw [List.append_assoc]
    exact hunit _ (by omega) (by omega)

/-- Nothing is read behind a closing quotation mark. -/
theorem noLow_quote (rest : List Char) : NoLow ('"' :: rest) := by
  rintro tail ⟨⟩

/-- The literal of a string is read back with its pairs joined. -/
theorem scanPoints_pointsTail (value : List CodePoint) {fuel : ℕ} (h : value.length < fuel)
    (rest : List Char) :
    scanPoints fuel (pointsTail value ++ rest) = some (joinSurrogates value, rest) := by
  obtain ⟨fuel, rfl⟩ : ∃ left, fuel = left + 1 := ⟨fuel - 1, by omega⟩
  have hone : ∀ (c : CodePoint) (fuel : ℕ) (more : List Char), (IsHigh c → NoLow more) →
      scanPoints (fuel + 1) (escapePoint c ++ more) =
        (scanPoints fuel more).map fun p => (c :: p.1, p.2) := by
    intro c fuel more hmore
    by_cases hplane : c.val < 0x10000
    · exact scanPoints_escapePoint hplane fuel hmore
    · exact scanPoints_supplementary (Nat.le_of_not_lt hplane) fuel more
  induction value using joinSurrogates.induct generalizing fuel with
  | case1 => rfl
  | case2 c =>
      obtain ⟨fuel, rfl⟩ : ∃ left, fuel = left + 1 := ⟨fuel - 1, by simp at h; omega⟩
      have htail : pointsTail [c] ++ rest = escapePoint c ++ ('"' :: rest) := by
        simp only [pointsTail, List.flatMap_cons, List.flatMap_nil, List.append_assoc,
          List.cons_append, List.nil_append]
      rw [htail, hone c _ _ fun _ => noLow_quote rest]
      rfl
  | case3 c d value hpair ih =>
      simp only [List.length_cons] at h
      obtain ⟨fuel, rfl⟩ : ∃ left, fuel = left + 1 := ⟨fuel - 1, by omega⟩
      obtain ⟨hhigh, hlow⟩ := hpair
      have hescape : ∀ {e : CodePoint}, 0xD800 ≤ e.val ∧ e.val ≤ 0xDFFF →
          escapePoint e = unicodeEscape e.val := by
        intro e he
        unfold escapePoint
        split_ifs <;> first | omega | rfl
      have htail : pointsTail (c :: d :: value) ++ rest =
          unicodeEscape c.val ++ (unicodeEscape d.val ++ (pointsTail value ++ rest)) := by
        unfold IsHigh at hhigh
        unfold IsLow at hlow
        simp only [pointsTail, List.flatMap_cons, List.append_assoc,
          @hescape c (by omega), @hescape d (by omega)]
      rw [htail, scanPoints_pair hhigh hlow, @ih fuel (by omega), joinSurrogates,
        if_pos ⟨hhigh, hlow⟩]
      rfl
  | case4 c d value hpair ih =>
      simp only [List.length_cons] at h ih
      obtain ⟨fuel, rfl⟩ : ∃ left, fuel = left + 1 := ⟨fuel - 1, by omega⟩
      have htail : pointsTail (c :: d :: value) ++ rest =
          escapePoint c ++ (pointsTail (d :: value) ++ rest) := by
        simp only [pointsTail, List.flatMap_cons, List.append_assoc]
      have hnext : IsHigh c → NoLow (pointsTail (d :: value) ++ rest) := by
        intro hhigh
        simp only [pointsTail, List.flatMap_cons, List.append_assoc]
        exact noLow_escapePoint (fun hlow => hpair ⟨hhigh, hlow⟩) _
      rw [htail, hone c _ _ hnext, @ih fuel (by omega), joinSurrogates, if_neg hpair]
      rfl

/-- A string is its own exactly if nothing in it is joined. -/
theorem joinSurrogates_eq_self_iff (value : List CodePoint) :
    joinSurrogates value = value ↔ NoPair value := by
  have hle : ∀ value : List CodePoint, (joinSurrogates value).length ≤ value.length := by
    intro value
    induction value using joinSurrogates.induct with
    | case1 => exact le_rfl
    | case2 c => exact le_rfl
    | case3 c d value hpair ih =>
        rw [joinSurrogates, if_pos hpair]
        simp only [List.length_cons]
        omega
    | case4 c d value hpair ih =>
        rw [joinSurrogates, if_neg hpair]
        simp only [List.length_cons] at ih ⊢
        omega
  unfold NoPair
  induction value using joinSurrogates.induct with
  | case1 => simp [joinSurrogates]
  | case2 c => simp [joinSurrogates]
  | case3 c d value hpair ih =>
      rw [joinSurrogates, if_pos hpair, List.isChain_cons_cons]
      constructor
      · intro h
        have hlength := congrArg List.length h
        have hshort := hle value
        simp only [List.length_cons] at hlength
        omega
      · intro h
        exact absurd hpair h.1
  | case4 c d value hpair ih =>
      rw [joinSurrogates, if_neg hpair, List.isChain_cons_cons]
      constructor
      · intro h
        exact ⟨hpair, ih.1 (List.cons.inj h).2⟩
      · intro h
        rw [ih.2 h.2]

end Library.JsonText
