import Mathlib.Data.List.Sort
import NplgMcp.Library.JsonSize

/-!
# JSON texts in ASCII

A writer may escape what is outside the printable ASCII characters (`ensureAscii`) and sort the
members of objects by their keys (`JsonTree.sortKeys`). A tree of plain strings has a text that
nothing is escaped in, and that is as long as its parts.
-/

namespace Library.JsonText

/-! ## Printable characters -/

/-- The printable characters of ASCII. -/
def Printable (c : Char) : Prop := ' ' ≤ c ∧ c ≤ '~'

instance (c : Char) : Decidable (Printable c) := inferInstanceAs (Decidable (' ' ≤ c ∧ c ≤ '~'))

/-- Characters that a string literal has unescaped. -/
def Plain (value : List Char) : Prop := ∀ c ∈ value, Printable c ∧ c ≠ '"' ∧ c ≠ '\\'

instance (value : List Char) : Decidable (Plain value) :=
  List.decidableBAll (fun c => Printable c ∧ c ≠ '"' ∧ c ≠ '\\') value

/-- A printable character is one byte. -/
theorem Printable.utf8Size_eq_one {c : Char} (h : Printable c) : c.utf8Size = 1 := by
  rw [Char.utf8Size_eq_one_iff]
  exact UInt32.le_trans h.2 (by decide)

/-- A decimal digit is printable. -/
theorem printable_of_isDigit {c : Char} (h : c.isDigit = true) : Printable c := by
  simp only [Char.isDigit, Bool.and_eq_true, decide_eq_true_eq] at h
  exact ⟨UInt32.le_trans (by decide) h.1, UInt32.le_trans h.2 (by decide)⟩

/-- A plain character is not escaped. -/
theorem escapeChar_of_plain {c : Char} (h : Printable c ∧ c ≠ '"' ∧ c ≠ '\\') :
    escapeChar c = [c] := by
  obtain ⟨⟨hlow, -⟩, hquote, hbackslash⟩ := h
  have hspace : 0x20 ≤ c.toNat := UInt32.le_iff_toNat_le.1 hlow
  have hcontrol : ∀ other : Char, other.toNat < 0x20 → c ≠ other := by
    rintro other hother rfl
    omega
  unfold escapeChar
  rw [if_neg hquote, if_neg hbackslash, if_neg (hcontrol _ (by decide)),
    if_neg (hcontrol _ (by decide)), if_neg (hcontrol _ (by decide)), if_neg (hcontrol _ (by decide)),
    if_neg (hcontrol _ (by decide)), if_neg (by omega)]

/-- The literal of a plain string. -/
theorem stringText_of_plain {value : String} (h : Plain value.toList) :
    stringText value = '"' :: (value.toList ++ ['"']) := by
  have hescape : value.toList.flatMap escapeChar = value.toList := by
    rw [List.flatMap_congr fun c hc => escapeChar_of_plain (h c hc)]
    exact List.flatMap_singleton' _
  rw [stringText, stringTail, hescape]

/-- The literal of a plain string has two characters more. -/
theorem width_stringText_of_plain {value : String} (h : Plain value.toList) :
    width (stringText value) = value.toList.length + 2 := by
  have hquote : ('"' : Char).utf8Size = 1 := rfl
  have hascii : ∀ c ∈ value.toList, c.utf8Size = 1 := fun c hc => (h c hc).1.utf8Size_eq_one
  rw [stringText_of_plain h, width_cons, width_append, width_of_ascii hascii, width_cons, hquote]
  simp only [width, List.flatMap_nil, List.length_nil]
  omega

/-- The literal of a plain string is printable. -/
theorem printable_stringText {value : String} (h : Plain value.toList) :
    ∀ c ∈ stringText value, Printable c := by
  intro c hc
  rw [stringText_of_plain h] at hc
  simp only [List.mem_cons, List.mem_append, List.not_mem_nil, or_false] at hc
  rcases hc with rfl | hc | rfl
  · decide
  · exact (h c hc).1
  · decide

/-- The text of an integer is its sign and digits. -/
theorem mem_text_ofInt {value : ℤ} {c : Char} (h : c ∈ (Decimal.ofInt value).text) :
    c = '-' ∨ c.isDigit = true := by
  have hwell := Decimal.wellFormed_ofInt value
  simp only [Decimal.text, Decimal.ofInt, if_true, List.append_nil, List.mem_append] at h
  rcases h with h | h
  · left
    by_cases hneg : value < 0
    · simpa [hneg] using h
    · simp [hneg] at h
  · exact .inr (hwell.integer_digits c h)

/-- The text of an integer is plain. -/
theorem plain_text_ofInt (value : ℤ) : Plain (Decimal.ofInt value).text := by
  intro c hc
  rcases mem_text_ofInt hc with rfl | hdigit
  · decide
  · refine ⟨printable_of_isDigit hdigit, ?_, ?_⟩
    · rintro rfl
      exact absurd hdigit (by decide)
    · rintro rfl
      exact absurd hdigit (by decide)

section
variable {codec : Codec}

/-- Members of printable keys and values have a printable text. -/
theorem printable_membersText {members : List (String × JsonTree)}
    (h : ∀ member ∈ members, (∀ c ∈ stringText member.1, Printable c) ∧
      ∀ c ∈ member.2.text codec, Printable c) :
    ∀ c ∈ membersText codec members, Printable c := by
  induction members with
  | nil =>
      intro c hc
      obtain rfl := List.mem_singleton.1 hc
      decide
  | cons member members ih =>
      obtain ⟨key, item⟩ := member
      obtain ⟨hkey, hitem⟩ := h (key, item) (List.mem_cons_self ..)
      have hrest := ih fun other hother => h other (List.mem_cons_of_mem _ hother)
      intro c hc
      cases members with
      | nil =>
          simp only [membersText, List.mem_append, List.mem_cons, List.not_mem_nil, or_false] at hc
          rcases hc with hc | rfl | hc | rfl
          · exact hkey c hc
          · decide
          · exact hitem c hc
          · decide
      | cons next members =>
          simp only [membersText, List.mem_append, List.mem_cons] at hc
          rcases hc with hc | rfl | hc | rfl | hc
          · exact hkey c hc
          · decide
          · exact hitem c hc
          · decide
          · exact hrest c hc

end

/-! ## Escaping -/

/-- The escape of a code unit. -/
def unicodeEscape (unit : ℕ) : List Char :=
  ['\\', 'u', hexChar (unit / 4096 % 16), hexChar (unit / 256 % 16), hexChar (unit / 16 % 16),
    hexChar (unit % 16)]

/-- A character of a text in ASCII: those above the Basic Multilingual Plane are two code units. -/
def escapeAscii (c : Char) : List Char :=
  if c ≤ '~' then [c]
  else if c.toNat < 0x10000 then unicodeEscape c.toNat
  else unicodeEscape (0xD800 + (c.toNat - 0x10000) / 1024) ++
    unicodeEscape (0xDC00 + (c.toNat - 0x10000) % 1024)

/-- A text of a tree, escaped: characters outside of ASCII stand in its string literals only. -/
def ensureAscii (text : List Char) : List Char := text.flatMap escapeAscii

/-- Nothing is escaped in a printable text. -/
theorem ensureAscii_of_printable {text : List Char} (h : ∀ c ∈ text, Printable c) :
    ensureAscii text = text := by
  have hescape : ∀ c ∈ text, escapeAscii c = [c] := fun c hc => if_pos (h c hc).2
  rw [ensureAscii, List.flatMap_congr hescape]
  exact List.flatMap_singleton' _

/-! ## Sorted keys -/

/-- The order of members by their keys. -/
def KeyLe (first second : String × JsonTree) : Prop := first.1 ≤ second.1

instance : DecidableRel KeyLe := fun first second =>
  inferInstanceAs (Decidable (first.1 ≤ second.1))

mutual

/-- The tree with the members of its objects sorted by their keys. -/
def JsonTree.sortKeys : JsonTree → JsonTree
  | .arr items => .arr (sortItems items)
  | .obj members => .obj ((sortMembers members).insertionSort KeyLe)
  | tree => tree

/-- The items with their members sorted. -/
def sortItems : List JsonTree → List JsonTree
  | [] => []
  | item :: items => item.sortKeys :: sortItems items

/-- The members with the members of their values sorted. -/
def sortMembers : List (String × JsonTree) → List (String × JsonTree)
  | [] => []
  | (key, item) :: members => (key, item.sortKeys) :: sortMembers members

end

mutual

/-- The tree has no infinite float. -/
def JsonTree.isJsonValue : JsonTree → Bool
  | .float none => false
  | .arr items => itemsAreJsonValues items
  | .obj members => membersAreJsonValues members
  | _ => true

/-- None of the items has an infinite float. -/
def itemsAreJsonValues : List JsonTree → Bool
  | [] => true
  | item :: items => item.isJsonValue && itemsAreJsonValues items

/-- None of the members has an infinite float. -/
def membersAreJsonValues : List (String × JsonTree) → Bool
  | [] => true
  | (_, item) :: members => item.isJsonValue && membersAreJsonValues members

end

end Library.JsonText
