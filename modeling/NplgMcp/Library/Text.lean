import Mathlib.Tactic.Common

/-!
# Python strings

`str.isspace`, `str.split` and `str.strip` without arguments, `str.startswith`, and `str.join` with a
blank.
-/

namespace Library.Text

/-- `str.isspace` of one character. -/
def isSpace (c : Char) : Bool :=
  let value := c.val.toNat
  (9 ≤ value && value ≤ 13) || (28 ≤ value && value ≤ 32) || value == 0x85 || value == 0xA0 ||
    value == 0x1680 || (0x2000 ≤ value && value ≤ 0x200A) || value == 0x2028 || value == 0x2029 ||
    value == 0x202F || value == 0x205F || value == 0x3000

/-- The runs of characters that are not white space. -/
def words (s : List Char) : List (List Char) := (s.splitOnP isSpace).filter (· ≠ [])

/-- `str.split()`. -/
def split (s : String) : List String := (words s.toList).map String.ofList

/-- `str.strip()`. -/
def strip (s : String) : String :=
  String.ofList ((s.toList.dropWhile isSpace).reverse.dropWhile isSpace).reverse

/-- `s.startswith(start)`. -/
def startsWith (s start : String) : Bool := start.toList.isPrefixOf s.toList

/-- Words with a blank between them. -/
def joinWords : List (List Char) → List Char
  | [] => []
  | [word] => word
  | word :: rest => word ++ ' ' :: joinWords rest

/-- `" ".join(parts)`. -/
def join (parts : List String) : String := String.ofList (joinWords (parts.map String.toList))

/-- No character is white space. -/
def Spaceless (s : String) : Prop := ∀ c ∈ s.toList, isSpace c = false

instance (s : String) : Decidable (Spaceless s) :=
  decidable_of_iff (s.toList.all (fun c => !isSpace c) = true) (by simp [Spaceless])

theorem split_of_spaceless {s : String} (h : Spaceless s) (hne : s ≠ "") : split s = [s] := by
  have hlist : s.toList ≠ [] := fun hnil => hne (String.toList_eq_nil_iff.1 hnil)
  rw [split, words, List.splitOnP_eq_singleton h]
  simp [hlist]

theorem join_singleton {s : String} : join [s] = s := by
  rw [join, List.map_cons, List.map_nil, joinWords, String.ofList_toList]

theorem dropWhile_of_forall {l : List Char} (h : ∀ c ∈ l, isSpace c = false) :
    l.dropWhile isSpace = l := by
  cases l with
  | nil => rfl
  | cons c rest => exact List.dropWhile_cons_of_neg (by simp [h c (List.mem_cons_self ..)])

theorem strip_of_spaceless {s : String} (h : Spaceless s) : strip s = s := by
  rw [strip, dropWhile_of_forall h,
    dropWhile_of_forall fun c hc => h c (List.mem_reverse.1 hc), List.reverse_reverse,
    String.ofList_toList]

/-! ## Runs of white space -/

/-- A text with every run of white space made one blank, as a pattern `\s+` finds them; in a run that
has begun before, the blank is there already. -/
def collapse (inRun : Bool) : List Char → List Char
  | [] => []
  | c :: rest =>
    if isSpace c then
      if inRun then collapse true rest else ' ' :: collapse true rest
    else c :: collapse false rest

/-- Whether a text ends in white space, or is empty in a run. -/
def runAfter (inRun : Bool) : List Char → Bool
  | [] => inRun
  | c :: rest => runAfter (isSpace c) rest

/-- The text begins with white space. -/
def startsSpace (s : List Char) : Bool := s.head?.any isSpace

variable {s t : List Char} {inRun : Bool}

theorem collapse_append : collapse inRun (s ++ t) = collapse inRun s ++ collapse (runAfter inRun s) t := by
  induction s generalizing inRun with
  | nil => rfl
  | cons c rest ih =>
      rw [List.cons_append, collapse, collapse, runAfter]
      cases hspace : isSpace c <;> cases inRun <;> simp [ih]

theorem runAfter_append : runAfter inRun (s ++ t) = runAfter (runAfter inRun s) t := by
  induction s generalizing inRun with
  | nil => rfl
  | cons c rest ih => exact ih

/-- In a run, white space at the beginning is not counted again. -/
theorem length_collapse_true :
    (collapse true s).length + (if startsSpace s then 1 else 0) = (collapse false s).length := by
  cases s with
  | nil => rfl
  | cons c rest => cases hspace : isSpace c <;> simp [collapse, startsSpace, hspace]

theorem length_collapse_le : (collapse inRun s).length ≤ s.length := by
  induction s generalizing inRun with
  | nil => exact Nat.le_refl _
  | cons c rest ih =>
      have h1 := @ih true
      have h2 := @ih false
      cases hspace : isSpace c <;> cases inRun <;> simp [collapse, hspace] <;> omega

theorem collapse_of_forall (h : ∀ c ∈ s, isSpace c = false) : collapse inRun s = s := by
  induction s generalizing inRun with
  | nil => rfl
  | cons c rest ih =>
      rw [collapse, h c (List.mem_cons_self ..), if_neg Bool.false_ne_true,
        ih fun d hd => h d (List.mem_cons_of_mem _ hd)]

theorem runAfter_of_forall (h : ∀ c ∈ s, isSpace c = false) (hne : s ≠ []) :
    runAfter inRun s = false := by
  induction s generalizing inRun with
  | nil => exact absurd rfl hne
  | cons c rest ih =>
      rw [runAfter, h c (List.mem_cons_self ..)]
      cases rest with
      | nil => rfl
      | cons d rest => exact ih (fun d hd => h d (List.mem_cons_of_mem _ hd)) (by simp)

/-- A text is without white space, or it has a first white space character. -/
theorem space_induction {motive : List Char → Prop}
    (spaceless : ∀ s, (∀ c ∈ s, isSpace c = false) → motive s)
    (space : ∀ s c t, (∀ c ∈ s, isSpace c = false) → isSpace c = true → motive t →
      motive (s ++ c :: t)) (s : List Char) : motive s := by
  induction hlength : s.length using Nat.strongRecOn generalizing s with
  | ind n ih =>
      have hfront : ∀ c ∈ s.takeWhile (fun c => !isSpace c), isSpace c = false := by
        intro c hc
        simpa using List.all_eq_true.1 List.all_takeWhile c hc
      have hsplit := @List.takeWhile_append_dropWhile _ (fun c => !isSpace c) s
      have hhead := List.head?_dropWhile_not (fun c => !isSpace c) s
      cases hdrop : s.dropWhile (fun c => !isSpace c) with
      | nil =>
          rw [hdrop, List.append_nil] at hsplit
          rw [← hsplit]
          exact spaceless _ hfront
      | cons c rest =>
          rw [hdrop] at hsplit hhead
          have hrest : rest.length < n := by
            rw [← hlength, ← hsplit, List.length_append, List.length_cons]
            omega
          rw [← hsplit]
          exact space _ c rest hfront (by simpa using hhead) (ih _ hrest rest rfl)

/-! ## Words -/

theorem words_of_forall (h : ∀ c ∈ s, isSpace c = false) : words s = if s = [] then [] else [s] := by
  rw [words, List.splitOnP_eq_singleton h]
  by_cases hnil : s = [] <;> simp [hnil]

theorem words_append_cons {c : Char} (h : ∀ c ∈ s, isSpace c = false) (hc : isSpace c = true) :
    words (s ++ c :: t) = if s = [] then words t else s :: words t := by
  rw [words, List.splitOnP_append_cons_of_forall_mem h c hc]
  by_cases hnil : s = [] <;> simp [hnil, words]

theorem joinWords_cons {word : List Char} {rest : List (List Char)} (h : rest ≠ []) :
    joinWords (word :: rest) = word ++ ' ' :: joinWords rest := by
  cases rest with
  | nil => exact absurd rfl h
  | cons other rest => rfl

/-- A text that has no words is white space. -/
theorem startsSpace_of_words_eq_nil (hwords : words s = []) (hne : s ≠ []) : startsSpace s = true := by
  induction s using space_induction with
  | spaceless s h =>
      rw [words_of_forall h, if_neg hne] at hwords
      cases hwords
  | space s c t h hc _ =>
      rw [words_append_cons h hc] at hwords
      by_cases hnil : s = []
      · rw [hnil]
        exact hc
      · rw [if_neg hnil] at hwords
        cases hwords

theorem startsSpace_append_of_forall (h : ∀ c ∈ s, isSpace c = false) (hne : s ≠ []) :
    startsSpace (s ++ t) = false := by
  cases s with
  | nil => exact absurd rfl hne
  | cons c rest => exact h c (List.mem_cons_self ..)

/-- Joining the words of a text drops the white space before the first and behind the last one, and
makes every other run a blank. -/
theorem length_collapse_eq :
    (collapse false s).length = (joinWords (words s)).length +
      (if startsSpace s && !(words s).isEmpty then 1 else 0) + (if runAfter false s then 1 else 0) := by
  induction s using space_induction with
  | spaceless s h =>
      have hstart : startsSpace s = false := by
        cases s with
        | nil => rfl
        | cons c rest => exact h c (List.mem_cons_self ..)
      rw [collapse_of_forall h, words_of_forall h, hstart]
      by_cases hnil : s = []
      · subst hnil
        rfl
      · rw [if_neg hnil, runAfter_of_forall h hnil]
        rfl
  | space s c t h hc ih =>
      have hcollapse : (collapse false (s ++ c :: t)).length = s.length + 1 + (collapse true t).length := by
        have hbefore : runAfter false s = false := by
          by_cases hnil : s = []
          · rw [hnil]
            rfl
          · exact runAfter_of_forall h hnil
        rw [collapse_append, collapse_of_forall h, hbefore, collapse, if_pos hc,
          if_neg Bool.false_ne_true, List.length_append, List.length_cons]
        omega
      have hafter : runAfter false (s ++ c :: t) = runAfter true t := by
        rw [runAfter_append, runAfter, hc]
      have hrun := @length_collapse_true t
      rw [hcollapse, hafter, words_append_cons h hc]
      by_cases hempty : t = []
      · subst hempty
        by_cases hnil : s = []
        · have hnone : words [] = [] := rfl
          simp [hnil, hnone, joinWords, collapse, runAfter]
        · have hstart : startsSpace (s ++ [c]) = false := startsSpace_append_of_forall h hnil
          rw [if_neg hnil, hstart]
          rfl
      · have hrun' : runAfter true t = runAfter false t := by
          cases t with
          | nil => exact absurd rfl hempty
          | cons d rest => rfl
        rw [hrun']
        by_cases hwords : words t = []
        · rw [startsSpace_of_words_eq_nil hwords hempty] at hrun ih
          rw [hwords] at ih ⊢
          by_cases hnil : s = []
          · subst hnil
            simp [joinWords] at ih hrun ⊢
            omega
          · have hstart : startsSpace (s ++ c :: t) = false := startsSpace_append_of_forall h hnil
            rw [if_neg hnil, hstart]
            simp [joinWords] at ih hrun ⊢
            omega
        · have hsome : (words t).isEmpty = false := by simpa using hwords
          rw [hsome] at ih
          by_cases hnil : s = []
          · subst hnil
            have hstart : startsSpace ([] ++ c :: t) = true := hc
            rw [if_pos rfl, hstart, hsome]
            simp at ih hrun ⊢
            omega
          · have hstart : startsSpace (s ++ c :: t) = false := startsSpace_append_of_forall h hnil
            rw [if_neg hnil, hstart, joinWords_cons hwords, List.length_append, List.length_cons]
            simp at ih hrun ⊢
            omega

/-- The words of a text, joined by blanks. -/
theorem toList_join_split {value : String} :
    (join (split value)).toList = joinWords (words value.toList) := by
  rw [join, split, String.toList_ofList, List.map_map]
  congr 1
  exact (List.map_congr_left fun word _ => String.toList_ofList).trans (List.map_id _)

theorem length_joinWords_le : (joinWords (words s)).length ≤ s.length := by
  have hcollapse := @length_collapse_eq s
  have hle := @length_collapse_le s false
  omega

theorem words_forall {word : List Char} (h : word ∈ words s) :
    word ≠ [] ∧ ∀ c ∈ word, isSpace c = false := by
  induction s using space_induction with
  | spaceless s hs =>
      rw [words_of_forall hs] at h
      by_cases hnil : s = []
      · simp [hnil] at h
      · simp only [if_neg hnil, List.mem_singleton] at h
        subst h
        exact ⟨hnil, hs⟩
  | space s c t hs hc ih =>
      rw [words_append_cons hs hc] at h
      by_cases hnil : s = []
      · rw [if_pos hnil] at h
        exact ih h
      · rw [if_neg hnil] at h
        rcases List.mem_cons.1 h with rfl | h
        · exact ⟨hnil, hs⟩
        · exact ih h

/-- Joined words have no run to collapse and do not end in one. -/
theorem collapse_joinWords {parts : List (List Char)}
    (h : ∀ word ∈ parts, word ≠ [] ∧ ∀ c ∈ word, isSpace c = false) :
    collapse false (joinWords parts) = joinWords parts ∧ runAfter false (joinWords parts) = false := by
  induction parts with
  | nil => exact ⟨rfl, rfl⟩
  | cons word rest ih =>
      obtain ⟨hne, hword⟩ := h word (List.mem_cons_self ..)
      obtain ⟨hcollapse, hrun⟩ := ih fun other hother => h other (List.mem_cons_of_mem _ hother)
      by_cases hnil : rest = []
      · subst hnil
        exact ⟨collapse_of_forall hword, runAfter_of_forall hword hne⟩
      · have hblank : isSpace ' ' = true := by decide
        -- The word behind the blank does not begin with white space.
        have hstart : startsSpace (joinWords rest) = false := by
          obtain ⟨other, others, rfl⟩ := List.exists_cons_of_ne_nil hnil
          obtain ⟨hother, hspaceless⟩ := h other (by simp)
          cases others with
          | nil =>
              have happend := @startsSpace_append_of_forall other [] hspaceless hother
              rwa [List.append_nil] at happend
          | cons third others => exact startsSpace_append_of_forall hspaceless hother
        have hsame : collapse true (joinWords rest) = collapse false (joinWords rest) ∧
            runAfter true (joinWords rest) = runAfter false (joinWords rest) := by
          cases hjoin : joinWords rest with
          | nil =>
              obtain ⟨other, others, rfl⟩ := List.exists_cons_of_ne_nil hnil
              obtain ⟨hother, -⟩ := h other (by simp)
              cases others <;> simp [joinWords, hother] at hjoin
          | cons c tail =>
              rw [hjoin] at hstart
              have hc : isSpace c = false := hstart
              simp [collapse, runAfter, hc]
        rw [joinWords_cons hnil, collapse_append, runAfter_append, collapse_of_forall hword,
          runAfter_of_forall hword hne, collapse, runAfter, if_pos hblank,
          if_neg Bool.false_ne_true, hblank, hsame.1, hsame.2, hcollapse, hrun]
        exact ⟨rfl, rfl⟩

/-! ## Substrings -/

/-- `needle in s`. -/
def contains (needle : List Char) : List Char → Bool
  | [] => needle.isEmpty
  | c :: rest => needle.isPrefixOf (c :: rest) || contains needle rest

variable {needle : List Char}

theorem isPrefixOf_append_cons {c : Char} (hc : c ∉ needle) :
    needle.isPrefixOf (s ++ c :: t) = needle.isPrefixOf s := by
  induction needle generalizing s with
  | nil => simp
  | cons d needle ih =>
      have hne : (d == c) = false := by
        simpa using fun heq : d = c => hc (heq ▸ List.mem_cons_self ..)
      cases s with
      | nil => simp [List.isPrefixOf, hne]
      | cons e s =>
          have hrest := @ih s fun hmem => hc (List.mem_cons_of_mem _ hmem)
          simp [List.isPrefixOf, hrest]

theorem contains_append_cons {c : Char} (hc : c ∉ needle) (hne : needle ≠ []) :
    contains needle (s ++ c :: t) = (contains needle s || contains needle t) := by
  induction s with
  | nil =>
      have hfront := @isPrefixOf_append_cons [] t needle c hc
      rw [List.nil_append] at hfront ⊢
      rw [contains, contains, hfront]
      cases needle with
      | nil => exact absurd rfl hne
      | cons d needle => simp [List.isPrefixOf]
  | cons d s ih =>
      have hfront := @isPrefixOf_append_cons (d :: s) t needle c hc
      rw [List.cons_append] at hfront ⊢
      rw [contains, contains, hfront, ih, Bool.or_assoc]

/-- A needle without white space is found in a text exactly if it is found in a word. -/
theorem contains_eq_any (h : ∀ c ∈ needle, isSpace c = false) (hne : needle ≠ []) :
    contains needle s = (words s).any (contains needle) := by
  induction s using space_induction with
  | spaceless s hs =>
      rw [words_of_forall hs]
      by_cases hnil : s = []
      · subst hnil
        simp [contains, hne]
      · simp [hnil]
  | space s c t hs hc ih =>
      have hmem : c ∉ needle := fun hmem => by simp [h c hmem] at hc
      rw [contains_append_cons hmem hne, words_append_cons hs hc, ih]
      by_cases hnil : s = []
      · subst hnil
        simp [contains, hne]
      · simp [hnil]

theorem contains_joinWords (h : ∀ c ∈ needle, isSpace c = false) (hne : needle ≠ [])
    {parts : List (List Char)} : contains needle (joinWords parts) = parts.any (contains needle) := by
  induction parts with
  | nil => simp [joinWords, contains, hne]
  | cons word rest ih =>
      have hblank : ' ' ∉ needle := fun hmem => absurd (h ' ' hmem) (by decide)
      by_cases hnil : rest = []
      · subst hnil
        simp [joinWords]
      · rw [joinWords_cons hnil, contains_append_cons hblank hne, ih, List.any_cons]

/-- A needle without white space is found in a text exactly if it is found in its joined words. -/
theorem contains_joinWords_words (h : ∀ c ∈ needle, isSpace c = false) (hne : needle ≠ []) :
    contains needle (joinWords (words s)) = contains needle s := by
  rw [contains_joinWords h hne, contains_eq_any h hne]

end Library.Text
