import NplgMcp.Library.CodePoints

/-!
# JSON texts of trees over code points

Trees whose strings are strings of code points, the compact ASCII text a writer gives a tree
(`PointTree.text`), and a reader of texts (`loadPoints`) that joins pairs of surrogates and lets an
object have a key twice. A tree is read back with its pairs joined (`loadPoints_text`).
-/

namespace Library.JsonText

/-- A JSON value whose strings may have surrogates. A float that is `none` is infinite. -/
inductive PointTree where
  | null
  | bool (value : Bool)
  | int (value : ℤ)
  | float (value : Option ℚ)
  | str (value : List CodePoint)
  | arr (items : List PointTree)
  | obj (members : List (List CodePoint × PointTree))

section
variable (codec : Codec)

/-! ## Texts of trees -/

/-- The literal of a string. -/
def pointsText (value : List CodePoint) : List Char := '"' :: pointsTail value

mutual

/-- The text of a tree in ASCII. -/
def PointTree.text : PointTree → List Char
  | .null => ['n', 'u', 'l', 'l']
  | .bool true => ['t', 'r', 'u', 'e']
  | .bool false => ['f', 'a', 'l', 's', 'e']
  | .int value => (Decimal.ofInt value).text
  | .float (some value) => codec.writeFloat value
  | .float none => ['I', 'n', 'f', 'i', 'n', 'i', 't', 'y']
  | .str value => pointsText value
  | .arr items => '[' :: pointItemsText items
  | .obj members => '\x7b' :: pointMembersText members

/-- The items of an array, to its closing bracket. -/
def pointItemsText : List PointTree → List Char
  | [] => [']']
  | [item] => item.text ++ [']']
  | item :: next :: items => item.text ++ ',' :: pointItemsText (next :: items)

/-- The members of an object, to its closing brace. -/
def pointMembersText : List (List CodePoint × PointTree) → List Char
  | [] => ['\x7d']
  | [(key, item)] => pointsText key ++ ':' :: (item.text ++ ['\x7d'])
  | (key, item) :: next :: members =>
    pointsText key ++ ':' :: (item.text ++ ',' :: pointMembersText (next :: members))

end

/-! ## Reading -/

/-- The value of a number. -/
def Decimal.pointValue (d : Decimal) : Option PointTree :=
  match d.value codec with
  | some (.int value) => some (.int value)
  | some (.float value) => some (.float value)
  | _ => none

mutual

/-- A value and what follows, bounded by the characters left. -/
def parsePoints : ℕ → List Char → Option (PointTree × List Char)
  | 0, _ => none
  | fuel + 1, input =>
    match input with
    | 'n' :: 'u' :: 'l' :: 'l' :: rest => some (.null, rest)
    | 't' :: 'r' :: 'u' :: 'e' :: rest => some (.bool true, rest)
    | 'f' :: 'a' :: 'l' :: 's' :: 'e' :: rest => some (.bool false, rest)
    | '"' :: rest => do
      let (value, rest) ← scanPoints (fuel + 1) rest
      return (.str value, rest)
    | '[' :: rest =>
      match skipSpace rest with
      | ']' :: rest => some (.arr [], rest)
      | rest => do
        let (items, rest) ← parsePointItems fuel rest
        return (.arr items, rest)
    | '\x7b' :: rest =>
      match skipSpace rest with
      | '\x7d' :: rest => some (.obj [], rest)
      | rest => do
        let (members, rest) ← parsePointMembers fuel rest
        return (.obj members, rest)
    | input => do
      let (decimal, rest) ← scanNumber input
      return (← decimal.pointValue codec, rest)

/-- Items to the closing bracket of an array. -/
def parsePointItems : ℕ → List Char → Option (List PointTree × List Char)
  | 0, _ => none
  | fuel + 1, input => do
    let (item, rest) ← parsePoints fuel input
    match skipSpace rest with
    | ']' :: rest => return ([item], rest)
    | ',' :: rest => do
      let (items, rest) ← parsePointItems fuel (skipSpace rest)
      return (item :: items, rest)
    | _ => none

/-- Members to the closing brace of an object. -/
def parsePointMembers : ℕ → List Char → Option (List (List CodePoint × PointTree) × List Char)
  | 0, _ => none
  | fuel + 1, input =>
    match input with
    | '"' :: rest => do
      let (key, rest) ← scanPoints (fuel + 1) rest
      match skipSpace rest with
      | ':' :: rest => do
        let (item, rest) ← parsePoints fuel (skipSpace rest)
        match skipSpace rest with
        | '\x7d' :: rest => return ([(key, item)], rest)
        | ',' :: rest => do
          let (members, rest) ← parsePointMembers fuel (skipSpace rest)
          return ((key, item) :: members, rest)
        | _ => none
      | _ => none
    | _ => none

end

/-- The tree of a whole text. -/
def loadPoints (text : List Char) : Option PointTree := do
  let (tree, rest) ← parsePoints codec (text.length + 1) (skipSpace text)
  if skipSpace rest = [] then return tree else none

mutual

/-- The tree has no infinite float. -/
def PointTree.isJsonValue : PointTree → Bool
  | .float none => false
  | .arr items => pointItemsAreJsonValues items
  | .obj members => pointMembersAreJsonValues members
  | _ => true

/-- None of the items has an infinite float. -/
def pointItemsAreJsonValues : List PointTree → Bool
  | [] => true
  | item :: items => item.isJsonValue && pointItemsAreJsonValues items

/-- None of the members has an infinite float. -/
def pointMembersAreJsonValues : List (List CodePoint × PointTree) → Bool
  | [] => true
  | (_, item) :: members => item.isJsonValue && pointMembersAreJsonValues members

end

/-- The value of a key of an object: the last one counts. -/
def lastValue (key : List CodePoint) (members : List (List CodePoint × PointTree)) :
    Option PointTree :=
  members.reverse.lookup key

/-! ## Reading back -/

/-- A value that is neither an array nor an object is read back as another one. -/
structure Scalar (tree read : PointTree) : Prop where
  opens : Opens (tree.text codec)
  parse : ∀ (fuel : ℕ) (rest : List Char), (tree.text codec).length ≤ fuel → Delimited rest →
    parsePoints codec fuel (tree.text codec ++ rest) = some (read, rest)

end

section
variable {codec : Codec}

/-- The literal of a string is longer than the string. -/
theorem length_pointsTail (value : List CodePoint) : value.length < (pointsTail value).length := by
  have hchar : ∀ c, 1 ≤ (escapePoint c).length := by
    intro c
    unfold escapePoint
    split_ifs <;> simp [unicodeEscape]
  induction value with
  | nil => decide
  | cons c value ih =>
      have htail : pointsTail (c :: value) = escapePoint c ++ pointsTail value := by
        simp only [pointsTail, List.flatMap_cons, List.append_assoc]
      have hc := hchar c
      rw [htail, List.length_append, List.length_cons]
      omega

/-- A string is read back with its pairs joined. -/
theorem scalar_str (value : List CodePoint) :
    Scalar codec (.str value) (.str (joinSurrogates value)) where
  opens := ⟨'"', _, rfl, by decide⟩
  parse fuel rest hfuel _ := by
    have hlength := length_pointsTail value
    simp only [PointTree.text, pointsText, List.length_cons] at hfuel
    obtain ⟨fuel, rfl⟩ : ∃ left, fuel = left + 1 := ⟨fuel - 1, by omega⟩
    have hscan := scanPoints_pointsTail value (show value.length < fuel + 1 by omega) rest
    simp only [PointTree.text, pointsText, List.cons_append, parsePoints, hscan, Option.bind_eq_bind,
      Option.bind_some]
    rfl

/-- An integer of few enough digits is read back. -/
theorem scalar_int {value : ℤ} (h : (Nat.toDigits 10 value.natAbs).length ≤ codec.maxDigits) :
    Scalar codec (.int value) (.int value) where
  opens := (Decimal.wellFormed_ofInt value).opens
  parse fuel rest hfuel hrest := by
    have hwell := Decimal.wellFormed_ofInt value
    have hscan := scanNumber_text hwell hrest
    have hvalue : (Decimal.ofInt value).pointValue codec = some (.int value) := by
      simp only [Decimal.pointValue, Decimal.value_ofInt h]
    obtain ⟨c, tail, htext, hc⟩ := hwell.text_eq_cons
    have hn : ∀ {other : Char}, other ≠ '-' ∧ other.isDigit = false → c ≠ other :=
      fun hother => ne_of_startsNumber hc hother
    simp only [PointTree.text] at hfuel ⊢
    rw [htext, List.length_cons] at hfuel
    rw [htext, List.cons_append] at hscan ⊢
    obtain ⟨fuel, rfl⟩ : ∃ left, fuel = left + 1 := ⟨fuel - 1, by omega⟩
    unfold parsePoints
    split
    case h_7 => simp only [hscan, hvalue, Option.bind_eq_bind, Option.bind_some]; rfl
    all_goals
      next heq => exact absurd (List.cons.inj heq).1 (hn (by decide))

/-- Members of scalars are read back as those of another list. -/
def ScalarMembers (codec : Codec) :
    List (List CodePoint × PointTree) → List (List CodePoint × PointTree) → Prop :=
  List.Forall₂ fun member read =>
    read.1 = joinSurrogates member.1 ∧ Scalar codec member.2 read.2

/-- The members of an object of scalars are read back. -/
theorem parsePointMembers_text {members read : List (List CodePoint × PointTree)}
    (h : ScalarMembers codec members read) (hne : members ≠ []) (fuel : ℕ)
    (hfuel : (pointMembersText codec members).length ≤ fuel) (rest : List Char) :
    parsePointMembers codec fuel (pointMembersText codec members ++ rest) = some (read, rest) := by
  induction h generalizing fuel with
  | nil => exact absurd rfl hne
  | @cons member found members read hmember hmembers ih =>
      obtain ⟨key, item⟩ := member
      obtain ⟨found, value⟩ := found
      obtain ⟨rfl, hscalar⟩ := hmember
      have hparse : ∀ fuel rest, (item.text codec).length ≤ fuel → Delimited rest →
        parsePoints codec fuel (item.text codec ++ rest) = some (value, rest) := hscalar.parse
      have hskip : ∀ rest, skipSpace (item.text codec ++ rest) = item.text codec ++ rest :=
        hscalar.opens.skipSpace
      have hcolon : ∀ tail, skipSpace (':' :: tail) = ':' :: tail := fun _ => rfl
      have hlength := length_pointsTail key
      cases members with
      | nil =>
          cases hmembers
          simp only [pointMembersText, pointsText, List.length_append, List.length_cons,
            List.length_nil] at hfuel
          obtain ⟨fuel, rfl⟩ : ∃ left, fuel = left + 1 := ⟨fuel - 1, by omega⟩
          have hkey := scanPoints_pointsTail key (show key.length < fuel + 1 by omega)
            (':' :: (item.text codec ++ '\x7d' :: rest))
          have hvalue := hparse fuel ('\x7d' :: rest) (by omega)
            (delimited_cons (by decide) rest)
          have hbrace : skipSpace ('\x7d' :: rest) = '\x7d' :: rest := rfl
          simp only [pointMembersText, pointsText, List.append_assoc, List.cons_append,
            List.nil_append, parsePointMembers, hkey, hcolon, hskip, hvalue, hbrace,
            Option.bind_eq_bind, Option.bind_some]
          rfl
      | cons next members =>
          obtain ⟨nextKey, nextItem⟩ := next
          simp only [pointMembersText, pointsText, List.length_append, List.length_cons] at hfuel
          obtain ⟨fuel, rfl⟩ : ∃ left, fuel = left + 1 := ⟨fuel - 1, by omega⟩
          have hkey := scanPoints_pointsTail key (show key.length < fuel + 1 by omega)
            (':' :: (item.text codec ++
              ',' :: (pointMembersText codec ((nextKey, nextItem) :: members) ++ rest)))
          have hvalue := hparse fuel
            (',' :: (pointMembersText codec ((nextKey, nextItem) :: members) ++ rest)) (by omega)
            (delimited_cons (by decide) _)
          have hmore := ih (by simp) fuel (by omega)
          have hopens : Opens (pointMembersText codec ((nextKey, nextItem) :: members)) := by
            cases members with
            | nil => exact ⟨'"', _, rfl, by decide⟩
            | cons => exact ⟨'"', _, rfl, by decide⟩
          have hcomma : ∀ tail, skipSpace (',' :: tail) = ',' :: tail := fun _ => rfl
          simp only [pointMembersText, pointsText, List.append_assoc, List.cons_append,
            parsePointMembers, hkey, hcolon, hskip, hvalue, hcomma,
            hopens.skipSpace rest, hmore, Option.bind_eq_bind, Option.bind_some]
          rfl

/-- An object of scalars is read back. -/
theorem loadPoints_text {members read : List (List CodePoint × PointTree)}
    (h : ScalarMembers codec members read) (hne : members ≠ []) :
    loadPoints codec ((PointTree.obj members).text codec) = some (.obj read) := by
  have hmembers := parsePointMembers_text h hne (pointMembersText codec members).length.succ
    (Nat.le_succ _) []
  obtain ⟨⟨key, item⟩, members, rfl⟩ := List.exists_cons_of_ne_nil hne
  have hopens : ∃ tail, pointMembersText codec ((key, item) :: members) = '"' :: tail := by
    cases members with
    | nil => exact ⟨_, rfl⟩
    | cons => exact ⟨_, rfl⟩
  obtain ⟨tail, htail⟩ := hopens
  rw [List.append_nil, htail] at hmembers
  have hbrace : ∀ rest, skipSpace ('\x7b' :: rest) = '\x7b' :: rest := fun _ => rfl
  have hquote : ∀ rest, skipSpace ('"' :: rest) = '"' :: rest := fun _ => rfl
  simp only [loadPoints, PointTree.text, htail, hbrace, List.length_cons, parsePoints, hquote,
    Option.bind_eq_bind]
  change Option.bind (Option.bind (parsePointMembers codec (tail.length + 1).succ ('"' :: tail))
    fun found => pure (PointTree.obj found.1, found.2)) _ = _
  rw [List.length_cons] at hmembers
  rw [hmembers]
  rfl

end

end Library.JsonText
