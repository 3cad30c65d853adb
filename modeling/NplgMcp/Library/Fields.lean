import Mathlib.Data.List.Basic
import Mathlib.Data.Nat.Digits.Defs

/-!
# Texts of fields

A text that is written field by field can be taken apart again if every field ends at a mark that is
not in it. Three kinds of fields: decimal numbers with leading zeros, lists of fields with a separator,
and strings in which some characters are escaped.
-/

namespace Library.Fields

/-! ## Marks -/

section
variable {σ : Type} {mark : σ} {a b t u : List σ}

/-- A field that ends at its mark. -/
theorem append_mark_inj (ha : mark ∉ a) (hb : mark ∉ b) (h : a ++ mark :: t = b ++ mark :: u) :
    a = b ∧ t = u := by
  induction a generalizing b with
  | nil =>
      cases b with
      | nil => exact ⟨rfl, (List.cons.inj h).2⟩
      | cons c b => exact absurd ((List.cons.inj h).1 ▸ List.mem_cons_self) hb
  | cons c a ih =>
      cases b with
      | nil => exact absurd ((List.cons.inj h).1.symm ▸ List.mem_cons_self) ha
      | cons d b =>
          obtain ⟨rfl, htail⟩ := List.cons.inj h
          obtain ⟨rfl, hrest⟩ := ih (fun hmem => ha (List.mem_cons_of_mem _ hmem))
            (fun hmem => hb (List.mem_cons_of_mem _ hmem)) htail
          exact ⟨rfl, hrest⟩

/-- Fields with a separator that is in none of them. -/
theorem intercalate_inj {fields others : List (List σ)} [BEq σ] [LawfulBEq σ]
    (hfields : ∀ field ∈ fields, mark ∉ field) (hothers : ∀ field ∈ others, mark ∉ field)
    (hne : fields ≠ []) (hne' : others ≠ [])
    (h : [mark].intercalate fields = [mark].intercalate others) : fields = others := by
  rw [← List.splitOn_intercalate mark hfields hne, h, List.splitOn_intercalate mark hothers hne']

end

/-- What is in no field and is no separator is not in the text. -/
theorem notMem_intercalate {σ : Type} {mark c : σ} {fields : List (List σ)} (hne : c ≠ mark)
    (h : ∀ field ∈ fields, c ∉ field) : c ∉ [mark].intercalate fields := by
  intro hmem
  obtain ⟨part, hpart, hc⟩ := List.mem_flatten.1 hmem
  have hcases : part ∈ fields ∨ part = [mark] := by
    clear hmem
    induction fields with
    | nil => cases hpart
    | cons field fields ih =>
        cases fields with
        | nil => exact .inl hpart
        | cons next fields =>
            rw [List.intersperse_cons_cons] at hpart
            rcases List.mem_cons.1 hpart with rfl | hpart
            · exact .inl List.mem_cons_self
            · rcases List.mem_cons.1 hpart with rfl | hpart
              · exact .inr rfl
              · exact (ih (fun other hother => h other (List.mem_cons_of_mem _ hother)) hpart).imp_left
                  (List.mem_cons_of_mem _)
  rcases hcases with hfield | rfl
  · exact h part hfield hc
  · exact hne (List.mem_singleton.1 hc)

/-- What is in a field is in the text. -/
theorem mem_intercalate {σ : Type} {mark c : σ} {field : List σ} {fields : List (List σ)}
    (h : field ∈ fields) (hc : c ∈ field) : c ∈ [mark].intercalate fields := by
  induction fields with
  | nil => cases h
  | cons first fields ih =>
      cases fields with
      | nil =>
          obtain rfl := List.mem_singleton.1 h
          rwa [List.intercalate_singleton]
      | cons next fields =>
          rw [List.intercalate_cons_cons]
          rcases List.mem_cons.1 h with rfl | h
          · exact List.mem_append_left _ (List.mem_append_left _ hc)
          · exact List.mem_append_right _ (ih h)

/-! ## Decimal numbers -/

/-- A decimal number with leading zeros up to a width. -/
def numeral (width value : ℕ) : List Char :=
  List.replicate (width - (Nat.toDigits 10 value).length) '0' ++ Nat.toDigits 10 value

variable {width value : ℕ}

/-- The number that is written is read. -/
theorem ofDigitChars_numeral : Nat.ofDigitChars 10 (numeral width value) 0 = value := by
  rw [numeral, Nat.ofDigitChars_append, Nat.ofDigitChars_replicate_zero, Nat.mul_zero,
    Nat.ofDigitChars_ten_toDigits]

theorem numeral_injective (width : ℕ) : Function.Injective (numeral width) := by
  intro a b h
  rw [← @ofDigitChars_numeral width a, h, ofDigitChars_numeral]

/-- Numbers are written in digits. -/
theorem isDigit_of_mem_numeral {c : Char} (h : c ∈ numeral width value) : c.isDigit = true := by
  rcases List.mem_append.1 h with hzero | hdigit
  · rw [List.eq_of_mem_replicate hzero]
    rfl
  · exact Nat.isDigit_of_mem_toDigits (by decide) (by decide) hdigit

/-- A character that is no digit is in no number. -/
theorem notMem_numeral {c : Char} (h : c.isDigit = false) : c ∉ numeral width value :=
  fun hmem => absurd (isDigit_of_mem_numeral hmem) (by rw [h]; decide)

theorem numeral_ne_nil : numeral width value ≠ [] :=
  List.append_ne_nil_of_right_ne_nil _ Nat.toDigits_ne_nil

/-- A number that its digits suffice for is not longer than its width or them. -/
theorem length_numeral_le {digits : ℕ} (hpos : 0 < digits) (hlt : value < 10 ^ digits) :
    (numeral width value).length ≤ max width digits := by
  have hlength := (Nat.length_toDigits_le_iff (n := value) (by decide : 1 < 10) hpos).2 hlt
  rw [numeral, List.length_append, List.length_replicate]
  omega

/-- Without leading zeros a number is its digits. -/
theorem numeral_zero : numeral 0 value = Nat.toDigits 10 value := by
  rw [numeral, Nat.zero_sub, List.replicate_zero, List.nil_append]

theorem toDigits_injective : Function.Injective (Nat.toDigits 10) := by
  intro a b h
  rw [← numeral_zero, ← numeral_zero] at h
  exact numeral_injective 0 h

/-- A character that is no digit is not among the digits of a number. -/
theorem notMem_toDigits {c : Char} (h : c.isDigit = false) : c ∉ Nat.toDigits 10 value := by
  rw [← numeral_zero]
  exact notMem_numeral h

/-! ## Escaped strings -/

section
variable {σ : Type} {special : σ → Bool} {escape mark : σ} {a b t u : List σ}

/-- The special characters are written after an escape. -/
def escaped (special : σ → Bool) (escape : σ) (value : List σ) : List σ :=
  value.flatMap fun c => if special c then [escape, c] else [c]

/-- An escaped string ends at the first mark that is not escaped. -/
theorem escaped_mark_inj (hescape : special escape = true) (hmark : special mark = true)
    (hne : mark ≠ escape)
    (h : escaped special escape a ++ mark :: t = escaped special escape b ++ mark :: u) :
    a = b ∧ t = u := by
  have hcons (c : σ) (rest : List σ) : escaped special escape (c :: rest) =
      (if special c then [escape, c] else [c]) ++ escaped special escape rest := List.flatMap_cons
  -- what is written of a first character is not the mark
  have hfirst {c : σ} {rest tail end' : List σ}
      (heq : mark :: end' = escaped special escape (c :: rest) ++ tail) : False := by
    rw [hcons] at heq
    split at heq
    · exact hne (List.cons.inj heq).1
    · rename_i hplain
      exact hplain ((List.cons.inj heq).1 ▸ hmark)
  induction a generalizing b with
  | nil =>
      cases b with
      | nil => exact ⟨rfl, (List.cons.inj h).2⟩
      | cons c b => exact (hfirst h).elim
  | cons c a ih =>
      cases b with
      | nil => exact (hfirst h.symm).elim
      | cons d b =>
          rw [hcons, hcons, List.append_assoc, List.append_assoc] at h
          have hboth : c = d ∧ escaped special escape a ++ mark :: t =
              escaped special escape b ++ mark :: u := by
            split at h <;> split at h
            · exact ⟨(List.cons.inj (List.cons.inj h).2).1, (List.cons.inj (List.cons.inj h).2).2⟩
            · rename_i hplain
              exact absurd ((List.cons.inj h).1 ▸ hescape) hplain
            · rename_i hplain _
              exact absurd ((List.cons.inj h).1.symm ▸ hescape) hplain
            · exact List.cons.inj h
          obtain ⟨rfl, hrest⟩ := ih hboth.2
          exact ⟨congrArg (· :: a) hboth.1, hrest⟩

end

end Library.Fields
