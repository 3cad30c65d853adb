import Mathlib.Order.MinMax
import NplgMcp.Library.JsonReading

/-!
# The size of a tree and of its text

How many values a tree holds, how deep they nest, and bounds on the length in bytes of the text of a
tree from those of its parts.
-/

namespace Library.JsonText

/-! ## Size and height -/

mutual

/-- The number of values in a tree, itself included; keys are not counted. -/
def JsonTree.size : JsonTree → ℕ
  | .null | .bool _ | .int _ | .float _ | .str _ => 1
  | .arr items => itemsSize items + 1
  | .obj members => membersSize members + 1

/-- The number of values in the items of an array. -/
def itemsSize : List JsonTree → ℕ
  | [] => 0
  | item :: items => item.size + itemsSize items

/-- The number of values in the members of an object. -/
def membersSize : List (String × JsonTree) → ℕ
  | [] => 0
  | (_, item) :: members => item.size + membersSize members

end

mutual

/-- The length of a longest path from the root of a tree. -/
def JsonTree.height : JsonTree → ℕ
  | .null | .bool _ | .int _ | .float _ | .str _ => 1
  | .arr items => itemsHeight items + 1
  | .obj members => membersHeight members + 1

/-- The greatest height of an item. -/
def itemsHeight : List JsonTree → ℕ
  | [] => 0
  | item :: items => max item.height (itemsHeight items)

/-- The greatest height of a member. -/
def membersHeight : List (String × JsonTree) → ℕ
  | [] => 0
  | (_, item) :: members => max item.height (membersHeight members)

end

/-- The values a value directly contains. -/
def JsonTree.children : JsonTree → List JsonTree
  | .arr items => items
  | .obj members => members.map Prod.snd
  | _ => []

/-- The items of an array are counted one by one. -/
theorem itemsSize_eq (items : List JsonTree) : itemsSize items = (items.map JsonTree.size).sum := by
  induction items with
  | nil => rfl
  | cons item items ih => simp only [itemsSize, List.map_cons, List.sum_cons, ih]

/-- The members of an object are counted as items. -/
theorem membersSize_eq (members : List (String × JsonTree)) :
    membersSize members = ((members.map Prod.snd).map JsonTree.size).sum := by
  induction members with
  | nil => rfl
  | cons member members ih =>
      obtain ⟨key, item⟩ := member
      simp only [membersSize, List.map_cons, List.sum_cons, ih]

/-- A tree counts one more than its children do. -/
theorem JsonTree.size_eq (tree : JsonTree) :
    tree.size = (tree.children.map JsonTree.size).sum + 1 := by
  cases tree with
  | arr items => rw [JsonTree.size, itemsSize_eq, children]
  | obj members => rw [JsonTree.size, membersSize_eq, children]
  | _ => rfl

/-- No item is higher than the highest. -/
theorem height_le_itemsHeight {item : JsonTree} {items : List JsonTree} (h : item ∈ items) :
    item.height ≤ itemsHeight items := by
  induction items with
  | nil => simp at h
  | cons head items ih =>
      rw [itemsHeight]
      rcases List.mem_cons.1 h with rfl | hmem
      · exact Nat.le_max_left _ _
      · exact (ih hmem).trans (Nat.le_max_right _ _)

/-- The members of an object are as high as items. -/
theorem membersHeight_eq (members : List (String × JsonTree)) :
    membersHeight members = itemsHeight (members.map Prod.snd) := by
  induction members with
  | nil => rfl
  | cons member members ih =>
      obtain ⟨key, item⟩ := member
      simp only [membersHeight, List.map_cons, itemsHeight, ih]

/-- A tree is higher than each of its children. -/
theorem JsonTree.height_lt {item tree : JsonTree} (h : item ∈ tree.children) :
    item.height < tree.height := by
  cases tree with
  | arr items => exact Nat.lt_succ_of_le (height_le_itemsHeight h)
  | obj members =>
      rw [height, membersHeight_eq]
      exact Nat.lt_succ_of_le (height_le_itemsHeight h)
  | _ => simp [children] at h

section
variable {codec : Codec}

/-- Each of the items is readable. -/
theorem itemsReadable_iff {items : List JsonTree} :
    itemsReadable codec items ↔ ∀ item ∈ items, item.Readable codec := by
  induction items with
  | nil => simp [itemsReadable]
  | cons item items ih => simp only [itemsReadable, ih, List.forall_mem_cons]

/-- Each of the members is readable. -/
theorem membersReadable_iff {members : List (String × JsonTree)} :
    membersReadable codec members ↔ ∀ item ∈ members.map Prod.snd, item.Readable codec := by
  induction members with
  | nil => simp [membersReadable]
  | cons member members ih =>
      obtain ⟨key, item⟩ := member
      simp only [membersReadable, ih, List.map_cons, List.forall_mem_cons]

/-- The children of a readable tree are readable. -/
theorem JsonTree.Readable.children {item tree : JsonTree} (h : tree.Readable codec)
    (hitem : item ∈ tree.children) : item.Readable codec := by
  cases tree with
  | arr items => exact itemsReadable_iff.1 h item hitem
  | obj members => exact membersReadable_iff.1 h.2 item hitem
  | _ => simp [JsonTree.children] at hitem

end

/-! ## Length in bytes -/

/-- The length of a text in UTF-8. -/
def width (text : List Char) : ℕ := (text.flatMap String.utf8EncodeChar).length

/-- Texts one after another. -/
@[simp]
theorem width_append (front rest : List Char) :
    width (front ++ rest) = width front + width rest := by
  simp [width]

/-- A character before a text. -/
theorem width_cons (c : Char) (rest : List Char) : width (c :: rest) = c.utf8Size + width rest := by
  simp [width, String.length_utf8EncodeChar]

/-- The text of ASCII characters has as many bytes. -/
theorem width_of_ascii {text : List Char} (h : ∀ c ∈ text, c.utf8Size = 1) :
    width text = text.length := by
  induction text with
  | nil => rfl
  | cons c text ih =>
      rw [width_cons, h c (by simp), ih fun d hd => h d (by simp [hd]), List.length_cons,
        Nat.add_comm]

/-- The literal of a string takes at most six bytes for each of its characters. -/
theorem width_stringText_le (value : String) :
    width (stringText value) ≤ 6 * value.toList.length + 2 := by
  have hhex : ∀ digit < 16, (hexChar digit).utf8Size = 1 := by decide
  have hchar : ∀ c, width (escapeChar c) ≤ 6 := by
    intro c
    unfold escapeChar
    split_ifs with h₁ h₂ h₃ h₄ h₅ h₆ h₇ h₈
    all_goals try decide
    · rw [width_of_ascii]
      · simp
      · intro d hd
        simp only [List.mem_cons, List.not_mem_nil, or_false] at hd
        rcases hd with rfl | rfl | rfl | rfl | rfl | rfl
        all_goals first | rfl | exact hhex _ (by omega)
    · rw [width_cons]
      have hsize := c.utf8Size_le_four
      simp only [width, List.flatMap_nil, List.length_nil]
      omega
  have htail : ∀ chars : List Char, width (stringTail chars) ≤ 6 * chars.length + 1 := by
    intro chars
    induction chars with
    | nil => decide
    | cons c chars ih =>
        have hcons : stringTail (c :: chars) = escapeChar c ++ stringTail chars := by
          simp only [stringTail, List.flatMap_cons, List.append_assoc]
        have hc := hchar c
        rw [hcons, width_append, List.length_cons]
        omega
  have hquote : ('"' : Char).utf8Size = 1 := rfl
  have hlength := htail value.toList
  rw [stringText, width_cons, hquote]
  omega

/-- The text of a natural number has as many bytes as digits. -/
theorem width_natural {value digits : ℕ} (hdigits : 0 < digits) (h : value < 10 ^ digits) :
    width (Decimal.ofInt value).text ≤ digits := by
  have htext : (Decimal.ofInt value).text = Nat.toDigits 10 value := by
    simp [Decimal.text, Decimal.ofInt]
  have hascii : ∀ c ∈ Nat.toDigits 10 value, c.utf8Size = 1 := by
    intro c hc
    have hdigit : c.isDigit = true := Nat.isDigit_of_mem_toDigits (by omega) (by omega) hc
    rw [Char.utf8Size_eq_one_iff]
    simp only [Char.isDigit, Bool.and_eq_true, decide_eq_true_eq] at hdigit
    exact UInt32.le_trans hdigit.2 (by decide)
  rw [htext, width_of_ascii hascii]
  exact (Nat.length_toDigits_le_iff (by omega) hdigits).2 h

section
variable {codec : Codec}

/-- Items of bounded length make an array of bounded length. -/
theorem width_itemsText_le {bound : ℕ} {items : List JsonTree}
    (h : ∀ item ∈ items, width (item.text codec) ≤ bound) :
    width (itemsText codec items) ≤ items.length * (bound + 1) + 1 := by
  have hcomma : (',' : Char).utf8Size = 1 := rfl
  have hbracket : width [']'] = 1 := by decide
  induction items with
  | nil => simp [itemsText, hbracket]
  | cons item items ih =>
      have hitem := h item (by simp)
      have hitems := ih fun other hother => h other (by simp [hother])
      cases items with
      | nil =>
          simp only [itemsText, width_append, hbracket, List.length_cons, List.length_nil]
          omega
      | cons next items =>
          rw [itemsText, width_append, width_cons, hcomma, List.length_cons, Nat.add_mul]
          omega

/-- An object is at most as long as its keys and values, with two marks to each. -/
theorem width_membersText_le (members : List (String × JsonTree)) :
    width (membersText codec members) ≤
      (members.map fun member => width (stringText member.1) + 2).sum +
        (members.map fun member => width (member.2.text codec)).sum + 1 := by
  have hcomma : (',' : Char).utf8Size = 1 := rfl
  have hcolon : (':' : Char).utf8Size = 1 := rfl
  have hbrace : width ['\x7d'] = 1 := by decide
  induction members with
  | nil => simp [membersText, hbrace]
  | cons member members ih =>
      obtain ⟨key, item⟩ := member
      cases members with
      | nil =>
          simp only [membersText, width_append, width_cons _ (_ ++ _), hcolon, hbrace,
            List.map_cons, List.map_nil, List.sum_cons, List.sum_nil]
          omega
      | cons next members =>
          rw [membersText, width_append, width_cons, width_append, width_cons, hcomma, hcolon,
            @List.map_cons _ _ _ (key, item), @List.map_cons _ _ _ (key, item), List.sum_cons,
            List.sum_cons]
          dsimp only
          omega

end

/-! ## Shapes -/

/-- Bounds on the height of a tree and the length of its text, with its size. -/
structure Shape where
  height : ℕ
  size : ℕ
  bytes : ℕ

/-- A readable tree of a shape. -/
structure Fits (codec : Codec) (tree : JsonTree) (shape : Shape) : Prop where
  readable : tree.Readable codec
  height_le : tree.height ≤ shape.height
  size_eq : tree.size = shape.size
  width_le : width (tree.text codec) ≤ shape.bytes

section
variable {codec : Codec}

/-- The bounds of a shape may grow. -/
theorem Fits.mono {tree : JsonTree} {shape wider : Shape} (h : Fits codec tree shape)
    (hheight : shape.height ≤ wider.height) (hsize : shape.size = wider.size)
    (hbytes : shape.bytes ≤ wider.bytes) : Fits codec tree wider where
  readable := h.readable
  height_le := h.height_le.trans hheight
  size_eq := h.size_eq.trans hsize
  width_le := h.width_le.trans hbytes

/-- The shape of a null. -/
theorem fits_null : Fits codec .null ⟨1, 1, 4⟩ where
  readable := trivial
  height_le := le_rfl
  size_eq := rfl
  width_le := by rw [JsonTree.text]; decide

/-- The shape of a truth value. -/
theorem fits_bool (value : Bool) : Fits codec (.bool value) ⟨1, 1, 5⟩ where
  readable := trivial
  height_le := le_rfl
  size_eq := rfl
  width_le := by cases value <;> rw [JsonTree.text] <;> decide

/-- The shape of a natural number. -/
theorem fits_natural {value digits : ℕ} (hdigits : 0 < digits) (hmax : digits ≤ codec.maxDigits)
    (h : value < 10 ^ digits) : Fits codec (.int value) ⟨1, 1, digits⟩ where
  readable := ((Nat.length_toDigits_le_iff (by omega) hdigits).2 h).trans hmax
  height_le := le_rfl
  size_eq := rfl
  width_le := width_natural hdigits h

/-- The shape of a float that is read back. -/
theorem fits_float {value : ℚ} {bytes : ℕ} (hread : codec.Reads value)
    (h : width (codec.writeFloat value) ≤ bytes) :
    Fits codec (.float (some value)) ⟨1, 1, bytes⟩ where
  readable := hread
  height_le := le_rfl
  size_eq := rfl
  width_le := h

/-- The shape of a string. -/
theorem fits_str {value : String} {length : ℕ} (h : value.toList.length ≤ length) :
    Fits codec (.str value) ⟨1, 1, 6 * length + 2⟩ where
  readable := trivial
  height_le := le_rfl
  size_eq := rfl
  width_le := by
    have hwidth := width_stringText_le value
    rw [JsonTree.text]
    dsimp only
    omega

/-- The shape of an array whose items have one shape. -/
theorem Fits.arr {items : List JsonTree} {shape : Shape}
    (h : ∀ item ∈ items, Fits codec item shape) :
    Fits codec (.arr items) ⟨shape.height + 1, items.length * shape.size + 1,
      items.length * (shape.bytes + 1) + 2⟩ where
  readable := itemsReadable_iff.2 fun item hitem => (h item hitem).readable
  height_le := by
    have hitems : itemsHeight items ≤ shape.height := by
      induction items with
      | nil => exact Nat.zero_le _
      | cons item items ih =>
          rw [itemsHeight]
          exact max_le (h item (by simp)).height_le
            (ih fun other hother => h other (by simp [hother]))
    rw [JsonTree.height]
    dsimp only
    omega
  size_eq := by
    have hitems : itemsSize items = items.length * shape.size := by
      induction items with
      | nil => simp [itemsSize]
      | cons item items ih =>
          rw [itemsSize, (h item (by simp)).size_eq,
            ih fun other hother => h other (by simp [hother]), List.length_cons, Nat.succ_mul,
            Nat.add_comm]
    rw [JsonTree.size, hitems]
  width_le := by
    have hitems := width_itemsText_le fun item hitem => (h item hitem).width_le
    have hbracket : ('[' : Char).utf8Size = 1 := rfl
    rw [JsonTree.text, width_cons, hbracket]
    dsimp only
    omega

/-- The length of the keys of an object, with two marks to each. -/
def keysWidth (keys : List String) : ℕ := (keys.map fun key => width (stringText key) + 2).sum

/-- The shape of an object whose members have their own. -/
theorem Fits.obj {members : List (String × JsonTree)} {shapes : List Shape}
    (h : List.Forall₂ (fun member shape => Fits codec member.2 shape) members shapes)
    (hkeys : (members.map Prod.fst).Nodup) :
    Fits codec (.obj members) ⟨(shapes.map Shape.height).foldr max 0 + 1,
      (shapes.map Shape.size).sum + 1,
      keysWidth (members.map Prod.fst) + (shapes.map Shape.bytes).sum + 2⟩ where
  readable := by
    refine ⟨hkeys, membersReadable_iff.2 ?_⟩
    clear hkeys
    induction h with
    | nil => simp
    | cons hmember _ ih => simpa using ⟨hmember.readable, by simpa using ih⟩
  height_le := by
    have hmembers : membersHeight members ≤ (shapes.map Shape.height).foldr max 0 := by
      clear hkeys
      induction h with
      | nil => exact Nat.zero_le _
      | cons hmember _ ih => exact max_le_max hmember.height_le ih
    rw [JsonTree.height]
    dsimp only
    omega
  size_eq := by
    have hmembers : membersSize members = (shapes.map Shape.size).sum := by
      clear hkeys
      induction h with
      | nil => rfl
      | cons hmember _ ih =>
          rw [membersSize, hmember.size_eq, ih, List.map_cons, List.sum_cons]
    rw [JsonTree.size, hmembers]
  width_le := by
    have hmembers : (members.map fun member => width (member.2.text codec)).sum ≤
        (shapes.map Shape.bytes).sum := by
      clear hkeys
      induction h with
      | nil => exact le_rfl
      | cons hmember _ ih =>
          rw [List.map_cons, List.map_cons, List.sum_cons, List.sum_cons]
          exact Nat.add_le_add hmember.width_le ih
    have htext := @width_membersText_le codec members
    have hbrace : ('\x7b' : Char).utf8Size = 1 := rfl
    rw [JsonTree.text, width_cons, hbrace]
    simp only [keysWidth, List.map_map, Function.comp_def]
    omega

end

end Library.JsonText
