import Mathlib.Tactic.Common

/-!
# An incremental strict UTF-8 decoder

A decoder that is fed one byte at a time keeps the bytes of the sequence it has not finished
(`feed`). From between characters it comes back there exactly on the encodings of single
characters: `feedAll_utf8EncodeChar` reads an encoding back, and by `Unfinished.feed` a byte that
finishes a sequence finishes the encoding of a character.
-/

namespace Library.Utf8

/-- The second bytes admitted after the first byte of a longer sequence: no overlong form, no
surrogate and nothing above the last scalar value. -/
def isSecond (first second : UInt8) : Bool :=
  (if first = 0xE0 then 0xA0 else if first = 0xF0 then 0x90 else 0x80) ≤ second &&
    second ≤ (if first = 0xED then 0x9F else if first = 0xF4 then 0x8F else 0xBF)

/-- A continuation byte. -/
def isContinuation (byte : UInt8) : Bool := 0x80 ≤ byte && byte ≤ 0xBF

/-- One byte more: the bytes of the unfinished sequence after it, none of them between characters,
or a refusal. -/
def feed : List UInt8 → UInt8 → Option (List UInt8)
  | [], byte =>
    if byte < 0x80 then some []
    else if 0xC2 ≤ byte ∧ byte ≤ 0xF4 then some [byte]
    else none
  | [first], byte =>
    if isSecond first byte then some (if first < 0xE0 then [] else [first, byte]) else none
  | [first, second], byte =>
    if isContinuation byte then some (if first < 0xF0 then [] else [first, second, byte]) else none
  | [_, _, _], byte => if isContinuation byte then some [] else none
  | _, _ => none

/-- All the bytes of a list, one after another. -/
def feedAll : List UInt8 → List UInt8 → Option (List UInt8)
  | pending, [] => some pending
  | pending, byte :: bytes => (feed pending byte).bind (feedAll · bytes)

/-- What the decoder can hold in the middle of a character. -/
def Unfinished : List UInt8 → Prop
  | [] => True
  | [first] => 0xC2 ≤ first ∧ first ≤ 0xF4
  | [first, second] => 0xE0 ≤ first ∧ first ≤ 0xF4 ∧ isSecond first second
  | [first, second, third] =>
    0xF0 ≤ first ∧ first ≤ 0xF4 ∧ isSecond first second ∧ isContinuation third
  | _ => False

/-- The decoder holds nothing between characters. -/
theorem unfinished_nil : Unfinished [] := trivial

/-- Every scalar value is the value of a character. -/
theorem exists_char {value : ℕ} (h : value < 0xD800 ∨ 0xDFFF < value ∧ value < 0x110000) :
    ∃ c : Char, c.val.toNat = value := by
  refine ⟨Char.ofNat value, ?_⟩
  have hvalid : value.isValidChar := by
    unfold Nat.isValidChar
    omega
  rw [Char.ofNat, dif_pos hvalid]
  rfl

/-- A byte is given by its value. -/
theorem ofNat_eq {value : ℕ} (byte : UInt8) (h : value = byte.toNat) : UInt8.ofNat value = byte := by
  rw [h, UInt8.ofNat_toNat]

/-- The value of a byte written as a number. -/
theorem toNat_ofNat_of_lt (value : ℕ) (h : value < 256) : (UInt8.ofNat value).toNat = value := by
  rw [UInt8.toNat_ofNat']
  exact Nat.mod_eq_of_lt h

/-- The bounds of a second byte, in numbers. -/
theorem isSecond_iff {first second : UInt8} :
    isSecond first second = true ↔
      0x80 ≤ second.toNat ∧ second.toNat ≤ 0xBF ∧ (first.toNat = 0xE0 → 0xA0 ≤ second.toNat) ∧
        (first.toNat = 0xED → second.toNat ≤ 0x9F) ∧ (first.toNat = 0xF0 → 0x90 ≤ second.toNat) ∧
        (first.toNat = 0xF4 → second.toNat ≤ 0x8F) := by
  simp only [isSecond, Bool.and_eq_true, decide_eq_true_eq, ← UInt8.toNat_inj,
    UInt8.le_iff_toNat_le, apply_ite UInt8.toNat, UInt8.reduceToNat]
  split_ifs <;> omega

/-- The bounds of a continuation byte, in numbers. -/
theorem isContinuation_iff {byte : UInt8} :
    isContinuation byte = true ↔ 0x80 ≤ byte.toNat ∧ byte.toNat ≤ 0xBF := by
  simp [isContinuation, UInt8.le_iff_toNat_le]

/-- The first byte of a longer sequence is kept. -/
theorem feed_nil_of_lead {first : UInt8} (h : 0xC2 ≤ first.toNat ∧ first.toNat ≤ 0xF4) :
    feed [] first = some [first] := by
  have hge : ¬ first < 0x80 := by
    simp only [UInt8.lt_iff_toNat_lt, UInt8.reduceToNat]
    omega
  have hlead : 0xC2 ≤ first ∧ first ≤ 0xF4 := by simpa [UInt8.le_iff_toNat_le] using h
  simp only [feed, if_neg hge, if_pos hlead]

/-- **What a byte can do.** It continues the sequence, or it finishes the encoding of a
character. -/
theorem Unfinished.feed {pending next : List UInt8} {byte : UInt8} (h : Unfinished pending)
    (hfeed : feed pending byte = some next) :
    next = pending ++ [byte] ∧ Unfinished next ∨
      next = [] ∧ ∃ c : Char, String.utf8EncodeChar c = pending ++ [byte] := by
  match pending, h with
  | [], _ =>
      simp only [Utf8.feed] at hfeed
      split at hfeed
      · rename_i hlt
        have hvalue : byte.toNat < 0x80 := by simpa [UInt8.lt_iff_toNat_lt] using hlt
        obtain ⟨c, hc⟩ := @exists_char byte.toNat (by omega)
        refine .inr ⟨by simpa using hfeed.symm, c, ?_⟩
        simp only [String.utf8EncodeChar, hc, if_pos (Nat.le_of_lt_succ hvalue)]
        simp
      · split at hfeed
        · rename_i hrange
          obtain rfl := Option.some.inj hfeed
          exact .inl ⟨rfl, hrange⟩
        · cases hfeed
  | [first], hfirst =>
      simp only [Utf8.feed] at hfeed
      split at hfeed
      case isFalse => cases hfeed
      rename_i hsecond
      have hbounds := isSecond_iff.1 hsecond
      obtain ⟨hlow, hhigh⟩ : 0xC2 ≤ first.toNat ∧ first.toNat ≤ 0xF4 := by
        simpa [Unfinished, UInt8.le_iff_toNat_le] using hfirst
      split at hfeed
      · rename_i hlt
        have hvalue : first.toNat < 0xE0 := by simpa [UInt8.lt_iff_toNat_lt] using hlt
        obtain ⟨c, hc⟩ := @exists_char ((first.toNat - 0xC0) * 64 + (byte.toNat - 0x80)) (by omega)
        refine .inr ⟨by simpa using hfeed.symm, c, ?_⟩
        simp only [String.utf8EncodeChar, hc]
        rw [if_neg (by omega), if_pos (by omega), ofNat_eq first (by omega), ofNat_eq byte (by omega)]
        rfl
      · rename_i hge
        obtain rfl := Option.some.inj hfeed
        refine .inl ⟨rfl, ?_, hfirst.2, hsecond⟩
        simpa [UInt8.le_iff_toNat_le, UInt8.lt_iff_toNat_lt] using hge
  | [first, second], hpending =>
      simp only [Utf8.feed] at hfeed
      split at hfeed
      case isFalse => cases hfeed
      rename_i hthird
      obtain ⟨hlow, hhigh, hsecond⟩ := hpending
      have hbounds := isSecond_iff.1 hsecond
      have hlow' : 0xE0 ≤ first.toNat := by simpa [UInt8.le_iff_toNat_le] using hlow
      obtain ⟨hthird0, hthird1⟩ := isContinuation_iff.1 hthird
      split at hfeed
      · rename_i hlt
        have hvalue : first.toNat < 0xF0 := by simpa [UInt8.lt_iff_toNat_lt] using hlt
        obtain ⟨c, hc⟩ := @exists_char ((first.toNat - 0xE0) * 4096 + (second.toNat - 0x80) * 64 +
          (byte.toNat - 0x80)) (by omega)
        refine .inr ⟨by simpa using hfeed.symm, c, ?_⟩
        simp only [String.utf8EncodeChar, hc]
        rw [if_neg (by omega), if_neg (by omega), if_pos (by omega), ofNat_eq first (by omega),
          ofNat_eq second (by omega), ofNat_eq byte (by omega)]
        rfl
      · rename_i hge
        obtain rfl := Option.some.inj hfeed
        refine .inl ⟨rfl, ?_, hhigh, hsecond, hthird⟩
        simpa [UInt8.le_iff_toNat_le, UInt8.lt_iff_toNat_lt] using hge
  | [first, second, third], hpending =>
      simp only [Utf8.feed] at hfeed
      split at hfeed
      case isFalse => cases hfeed
      rename_i hfourth
      obtain ⟨hlow, hhigh, hsecond, hthird⟩ := hpending
      have hbounds := isSecond_iff.1 hsecond
      have hlow' : 0xF0 ≤ first.toNat := by simpa [UInt8.le_iff_toNat_le] using hlow
      have hhigh' : first.toNat ≤ 0xF4 := by simpa [UInt8.le_iff_toNat_le] using hhigh
      obtain ⟨hthird0, hthird1⟩ := isContinuation_iff.1 hthird
      obtain ⟨hfourth0, hfourth1⟩ := isContinuation_iff.1 hfourth
      obtain ⟨c, hc⟩ := @exists_char ((first.toNat - 0xF0) * 262144 +
        (second.toNat - 0x80) * 4096 + (third.toNat - 0x80) * 64 + (byte.toNat - 0x80)) (by omega)
      refine .inr ⟨by simpa using hfeed.symm, c, ?_⟩
      simp only [String.utf8EncodeChar, hc]
      rw [if_neg (by omega), if_neg (by omega), if_neg (by omega), ofNat_eq first (by omega),
        ofNat_eq second (by omega), ofNat_eq third (by omega), ofNat_eq byte (by omega)]
      rfl

/-- The byte order of two numbers. -/
theorem lt_of_toNat_lt {byte bound : UInt8} (h : byte.toNat < bound.toNat) : byte < bound :=
  UInt8.lt_iff_toNat_lt.2 h

/-- A sequence of two bytes. -/
theorem feedAll_two {first second : UInt8} (hfirst : 0xC2 ≤ first.toNat ∧ first.toNat < 0xE0)
    (hsecond : isSecond first second = true) : feedAll [] [first, second] = some [] := by
  have hlead : feed [] first = some [first] := feed_nil_of_lead (by omega)
  have hlt : first < 0xE0 := lt_of_toNat_lt hfirst.2
  have hlast : feed [first] second = some [] := by simp only [feed, if_pos hsecond, if_pos hlt]
  simp only [feedAll, hlead, hlast, Option.bind_some]

/-- A sequence of three bytes. -/
theorem feedAll_three {first second third : UInt8}
    (hfirst : 0xE0 ≤ first.toNat ∧ first.toNat < 0xF0) (hsecond : isSecond first second = true)
    (hthird : isContinuation third = true) : feedAll [] [first, second, third] = some [] := by
  have hlead : feed [] first = some [first] := feed_nil_of_lead (by omega)
  have hge : ¬ first < 0xE0 := fun h => absurd (UInt8.lt_iff_toNat_lt.1 h) (Nat.not_lt.2 hfirst.1)
  have hlt : first < 0xF0 := lt_of_toNat_lt hfirst.2
  have hnext : feed [first] second = some [first, second] := by
    simp only [feed, if_pos hsecond, if_neg hge]
  have hlast : feed [first, second] third = some [] := by
    simp only [feed, if_pos hthird, if_pos hlt]
  simp only [feedAll, hlead, hnext, hlast, Option.bind_some]

/-- A sequence of four bytes. -/
theorem feedAll_four {first second third fourth : UInt8}
    (hfirst : 0xF0 ≤ first.toNat ∧ first.toNat ≤ 0xF4) (hsecond : isSecond first second = true)
    (hthird : isContinuation third = true) (hfourth : isContinuation fourth = true) :
    feedAll [] [first, second, third, fourth] = some [] := by
  have hlead : feed [] first = some [first] := feed_nil_of_lead (by omega)
  have hge' : ¬ first < 0xF0 := fun h => absurd (UInt8.lt_iff_toNat_lt.1 h) (Nat.not_lt.2 hfirst.1)
  have hge : ¬ first < 0xE0 := fun h => hge' (UInt8.lt_trans h (by decide))
  have hnext : feed [first] second = some [first, second] := by
    simp only [feed, if_pos hsecond, if_neg hge]
  have hthen : feed [first, second] third = some [first, second, third] := by
    simp only [feed, if_pos hthird, if_neg hge']
  have hlast : feed [first, second, third] fourth = some [] := by simp only [feed, if_pos hfourth]
  simp only [feedAll, hlead, hnext, hthen, hlast, Option.bind_some]

/-- The encoding of a character is read back between characters. -/
theorem feedAll_utf8EncodeChar (c : Char) : feedAll [] (String.utf8EncodeChar c) = some [] := by
  have hvalid : c.val.toNat < 0xD800 ∨ 0xDFFF < c.val.toNat ∧ c.val.toNat < 0x110000 := c.valid
  generalize hvalue : c.val.toNat = value at hvalid
  simp only [String.utf8EncodeChar, hvalue]
  split_ifs with h1 h2 h3
  · have hlt : UInt8.ofNat value < 0x80 :=
      lt_of_toNat_lt (by rw [toNat_ofNat_of_lt _ (by omega)]; exact Nat.lt_succ_of_le h1)
    simp [feedAll, feed, hlt]
  · have hfirst := toNat_ofNat_of_lt (value / 64 % 32 + 192) (by omega)
    have hsecond := toNat_ofNat_of_lt (value % 64 + 128) (by omega)
    exact feedAll_two (by omega) (isSecond_iff.2 (by omega))
  · have hfirst := toNat_ofNat_of_lt (value / 4096 % 16 + 224) (by omega)
    have hsecond := toNat_ofNat_of_lt (value / 64 % 64 + 128) (by omega)
    have hthird := toNat_ofNat_of_lt (value % 64 + 128) (by omega)
    exact feedAll_three (by omega) (isSecond_iff.2 (by omega)) (isContinuation_iff.2 (by omega))
  · have hfirst := toNat_ofNat_of_lt (value / 262144 % 8 + 240) (by omega)
    have hsecond := toNat_ofNat_of_lt (value / 4096 % 64 + 128) (by omega)
    have hthird := toNat_ofNat_of_lt (value / 64 % 64 + 128) (by omega)
    have hfourth := toNat_ofNat_of_lt (value % 64 + 128) (by omega)
    exact feedAll_four (by omega) (isSecond_iff.2 (by omega)) (isContinuation_iff.2 (by omega))
      (isContinuation_iff.2 (by omega))

/-- A byte of a character above the ASCII range is above the ASCII range; a character of the ASCII
range is its own byte. -/
theorem mem_utf8EncodeChar {c : Char} {byte : UInt8} (h : byte ∈ String.utf8EncodeChar c) :
    0x80 ≤ byte.toNat ∧ 0x80 ≤ c.val.toNat ∨ byte.toNat = c.val.toNat := by
  generalize hvalue : c.val.toNat = value
  simp only [String.utf8EncodeChar, hvalue] at h
  have hhigh : ∀ base : ℕ, 128 ≤ base → base < 256 → 0x80 ≤ value → byte = UInt8.ofNat base →
      0x80 ≤ byte.toNat ∧ 0x80 ≤ value ∨ byte.toNat = value := by
    rintro base hbase hlt hvalue rfl
    exact .inl ⟨by rwa [toNat_ofNat_of_lt _ hlt], hvalue⟩
  split_ifs at h with h1 h2 h3
  · obtain rfl := List.mem_singleton.1 h
    exact .inr (toNat_ofNat_of_lt _ (by omega))
  · simp only [List.mem_cons, List.not_mem_nil, or_false] at h
    rcases h with h | h <;> exact hhigh _ (by omega) (by omega) (by omega) h
  · simp only [List.mem_cons, List.not_mem_nil, or_false] at h
    rcases h with h | h | h <;> exact hhigh _ (by omega) (by omega) (by omega) h
  · simp only [List.mem_cons, List.not_mem_nil, or_false] at h
    rcases h with h | h | h | h <;> exact hhigh _ (by omega) (by omega) (by omega) h

end Library.Utf8
