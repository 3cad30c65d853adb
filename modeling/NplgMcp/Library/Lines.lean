import Mathlib.Data.List.Basic

/-!
# Lines of fields

A text is read line by line, and a line field by field. Lines end where Python's `str.splitlines`
ends them, which is at more characters than the newline: a field with such a character tears its line
apart, and `broken_line` says what the reader finds of the line then.
-/

namespace Library.Lines

/-! ## Lines -/

/-- The line boundaries of `str.splitlines`. -/
def isLineBoundary (c : Char) : Bool :=
  c ∈ ['\n', '\r', '\x0b', '\x0c', '\x1c', '\x1d', '\x1e', '\x85', '\u2028', '\u2029']

/-- `str.splitlines`. -/
def splitlines : List Char → List (List Char)
  | [] => []
  | '\r' :: '\n' :: rest => [] :: splitlines rest
  | c :: rest =>
    if isLineBoundary c then [] :: splitlines rest
    else match splitlines rest with
      | [] => [[c]]
      | line :: lines => (c :: line) :: lines

/-- The universal newlines of a text stream: every line ends in a newline. -/
def universalNewlines : List Char → List Char
  | [] => []
  | '\r' :: '\n' :: rest => '\n' :: universalNewlines rest
  | '\r' :: rest => '\n' :: universalNewlines rest
  | c :: rest => c :: universalNewlines rest

/-- A text without carriage returns is read as it is. -/
theorem universalNewlines_of_notMem {text : List Char} (h : '\r' ∉ text) :
    universalNewlines text = text := by
  induction text with
  | nil => rfl
  | cons c text ih =>
      obtain ⟨hc, hrest⟩ := not_or.1 fun hmem => h (List.mem_cons.2 hmem)
      rw [universalNewlines.eq_4 c text (fun tail hcr _ => hc hcr.symm) fun hcr => hc hcr.symm, ih hrest]

section
variable {c : Char} {line rest : List Char}

/-- A boundary ends a line, unless it is a carriage return that has its newline behind it. -/
theorem splitlines_boundary (hc : isLineBoundary c = true)
    (hrest : c = '\r' → rest.head? ≠ some '\n') : splitlines (c :: rest) = [] :: splitlines rest := by
  rw [splitlines.eq_3 c rest fun tail hcr htail => hrest hcr (by rw [htail, List.head?_cons]), if_pos hc]

/-- Any other character belongs to the line. -/
theorem splitlines_plain (hc : isLineBoundary c = false) :
    splitlines (c :: rest) = match splitlines rest with
      | [] => [[c]]
      | line :: lines => (c :: line) :: lines := by
  have hne : c ≠ '\r' := by
    rintro rfl
    cases hc
  rw [splitlines.eq_3 c rest fun _ hcr _ => hne hcr, hc]
  rfl

/-- A line without boundaries goes up to the next boundary. -/
theorem splitlines_append (hline : ∀ c ∈ line, isLineBoundary c = false) {first : List Char}
    {lines : List (List Char)} (hrest : splitlines rest = first :: lines) :
    splitlines (line ++ rest) = (line ++ first) :: lines := by
  induction line with
  | nil => exact hrest
  | cons c line ih =>
      rw [List.cons_append, splitlines_plain (hline c List.mem_cons_self),
        ih fun d hd => hline d (List.mem_cons_of_mem _ hd)]
      rfl

/-- A line without boundaries, then a boundary. -/
theorem splitlines_append_boundary (hline : ∀ c ∈ line, isLineBoundary c = false)
    (hc : isLineBoundary c = true) (hrest : c = '\r' → rest.head? ≠ some '\n') :
    splitlines (line ++ c :: rest) = line :: splitlines rest := by
  rw [splitlines_append hline (splitlines_boundary hc hrest), List.append_nil]

/-- A line without boundaries, then a newline. -/
theorem splitlines_append_newline (hline : ∀ c ∈ line, isLineBoundary c = false) :
    splitlines (line ++ '\n' :: rest) = line :: splitlines rest :=
  splitlines_append_boundary hline rfl fun hcr => absurd hcr (by decide)

/-- Whatever follows it, a boundary ends a line. -/
theorem exists_splitlines_boundary (hline : ∀ c ∈ line, isLineBoundary c = false)
    (hc : isLineBoundary c = true) : ∃ lines, splitlines (line ++ c :: rest) = line :: lines := by
  have hfirst : ∃ lines, splitlines (c :: rest) = [] :: lines := by
    by_cases hcrlf : c = '\r' ∧ rest.head? = some '\n'
    · obtain ⟨rfl, hhead⟩ := hcrlf
      obtain ⟨tail, rfl⟩ := List.head?_eq_some_iff.1 hhead
      exact ⟨_, splitlines.eq_2 tail⟩
    · exact ⟨_, splitlines_boundary hc fun hcr hhead => hcrlf ⟨hcr, hhead⟩⟩
  obtain ⟨lines, hlines⟩ := hfirst
  exact ⟨lines, by rw [splitlines_append hline hlines, List.append_nil]⟩

/-- A text with a boundary has a first one. -/
theorem exists_first_boundary (h : ∃ c ∈ line, isLineBoundary c = true) :
    ∃ front c back, line = front ++ c :: back ∧ isLineBoundary c = true ∧
      ∀ d ∈ front, isLineBoundary d = false := by
  induction line with
  | nil =>
      obtain ⟨c, hc, -⟩ := h
      cases hc
  | cons c line ih =>
      cases hc : isLineBoundary c with
      | true => exact ⟨[], c, line, rfl, hc, nofun⟩
      | false =>
          obtain ⟨d, hd, hboundary⟩ := h
          have hrest : ∃ d ∈ line, isLineBoundary d = true := by
            rcases List.mem_cons.1 hd with rfl | hd
            · rw [hc] at hboundary
              cases hboundary
            · exact ⟨d, hd, hboundary⟩
          obtain ⟨front, e, back, rfl, he, hfront⟩ := ih hrest
          refine ⟨c :: front, e, back, rfl, he, ?_⟩
          exact List.forall_mem_cons.2 ⟨hc, hfront⟩

/-- The first line of a text that goes up to a newline. -/
theorem exists_first_line (line rest : List Char) :
    ∃ text more lines, line = text ++ more ∧ splitlines (line ++ '\n' :: rest) = text :: lines := by
  by_cases hline : ∃ c ∈ line, isLineBoundary c = true
  · obtain ⟨front, c, back, rfl, hc, hfront⟩ := exists_first_boundary hline
    obtain ⟨lines, hlines⟩ := @exists_splitlines_boundary c front (back ++ '\n' :: rest) hfront hc
    exact ⟨front, c :: back, lines, rfl, by rw [List.append_assoc, List.cons_append, hlines]⟩
  · refine ⟨line, [], splitlines rest, (List.append_nil line).symm, splitlines_append_newline ?_⟩
    intro c hc
    exact Bool.eq_false_iff.2 fun hboundary => hline ⟨c, hc, hboundary⟩

end

/-! ## Fields -/

section
variable {σ : Type} [BEq σ] [LawfulBEq σ] {mark b : σ} {fields : List (List σ)}

/-- **A torn line.** Where a character in a line of fields is taken for its end, what comes before is
the fields up to the one it is in, which is cut off, and what comes after is the rest of that field
and the fields behind it. -/
theorem broken_line {front back : List σ} (hfields : ∀ field ∈ fields, mark ∉ field)
    (hb : b ≠ mark) (h : front ++ b :: back = [mark].intercalate fields) :
    ∃ before field after head tail, fields = before ++ field :: after ∧ field = head ++ b :: tail ∧
      front.splitOn mark = before ++ [head] ∧ back = [mark].intercalate (tail :: after) := by
  induction fields generalizing front with
  | nil => simp at h
  | cons field fields ih =>
      cases fields with
      | nil =>
          obtain rfl : front ++ b :: back = field := by simpa using h
          have hfront : mark ∉ front := fun hmem =>
            hfields _ List.mem_cons_self (List.mem_append_left _ hmem)
          exact ⟨[], _, [], front, back, rfl, rfl, List.splitOn_eq_singleton hfront, by simp⟩
      | cons next fields =>
          have hjoin : [mark].intercalate (field :: next :: fields) =
              field ++ mark :: [mark].intercalate (next :: fields) := by
            simp [List.intercalate, List.intersperse_cons_cons]
          rw [hjoin, List.append_eq_append_iff] at h
          rcases h with ⟨middle, rfl, hback⟩ | ⟨middle, rfl, hback⟩
          · cases middle with
            | nil => exact absurd (List.cons.inj hback).1 hb
            | cons c middle =>
                obtain ⟨rfl, rfl⟩ := List.cons.inj hback
                have hfront : mark ∉ front := fun hmem =>
                  hfields _ List.mem_cons_self (List.mem_append_left _ hmem)
                refine ⟨[], _, next :: fields, front, middle, rfl, rfl,
                  List.splitOn_eq_singleton hfront, ?_⟩
                simp [List.intercalate, List.intersperse_cons_cons]
          · cases middle with
            | nil => exact absurd (List.cons.inj hback).1.symm hb
            | cons c middle =>
                obtain ⟨rfl, hrest⟩ := List.cons.inj hback
                obtain ⟨before, other, after, head, tail, heq, hother, hsplit, htail⟩ :=
                  ih (fun other hmem => hfields other (List.mem_cons_of_mem _ hmem)) hrest.symm
                refine ⟨field :: before, other, after, head, tail, by rw [heq]; rfl, hother, ?_, htail⟩
                rw [List.splitOn_append_cons_self_of_not_mem (hfields field List.mem_cons_self), hsplit]
                rfl

/-- A text of fields has not more fields than it is written from. -/
theorem length_splitOn_start {text rest : List σ} (hfields : ∀ field ∈ fields, mark ∉ field)
    (hne : fields ≠ []) (h : text ++ rest = [mark].intercalate fields) :
    (text.splitOn mark).length ≤ fields.length := by
  induction fields generalizing text with
  | nil => exact absurd rfl hne
  | cons field fields ih =>
      cases fields with
      | nil =>
          obtain rfl : text ++ rest = field := by simpa using h
          have htext : mark ∉ text := fun hmem =>
            hfields _ List.mem_cons_self (List.mem_append_left _ hmem)
          rw [List.splitOn_eq_singleton htext]
          exact Nat.le_refl 1
      | cons next fields =>
          have hjoin : [mark].intercalate (field :: next :: fields) =
              field ++ mark :: [mark].intercalate (next :: fields) := by
            simp [List.intercalate, List.intersperse_cons_cons]
          rw [hjoin, List.append_eq_append_iff] at h
          rcases h with ⟨middle, rfl, -⟩ | ⟨middle, rfl, hback⟩
          · have htext : mark ∉ text := fun hmem =>
              hfields _ List.mem_cons_self (List.mem_append_left _ hmem)
            rw [List.splitOn_eq_singleton htext]
            exact Nat.succ_le_succ (Nat.zero_le _)
          · cases middle with
            | nil =>
                rw [List.append_nil, List.splitOn_eq_singleton (hfields field List.mem_cons_self)]
                exact Nat.succ_le_succ (Nat.zero_le _)
            | cons c middle =>
                obtain ⟨rfl, hrest⟩ := List.cons.inj hback
                rw [List.splitOn_append_cons_self_of_not_mem (hfields field List.mem_cons_self)]
                have hshort := ih (fun other hmem => hfields other (List.mem_cons_of_mem _ hmem))
                  (List.cons_ne_nil _ _) hrest.symm
                exact Nat.succ_le_succ hshort

end

end Library.Lines
