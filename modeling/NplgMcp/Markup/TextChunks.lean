import NplgMcp.Markup.HtmlTally

/-!
# Counting text in chunks

`add_chunks`: a `_CanonicalTextCounter` that is given a text chunk by chunk ends where it ends when it
is given the text at once, saturated or not, and its second count is the length of the text with each
run of white space made one character. The pattern `\s+` is a parameter here: what is needed of it is
that it finds the characters that `str.isspace` is true of. `HtmlTally` has the counters below their
limit.
-/

open Library

namespace NplgMcp

/-! ## Runs that a pattern finds -/

/-- `_WHITESPACE_RUN_RE.sub(" ", value)` behind a character that is in a run or not; `matched` are the
characters that `\s` matches. -/
def substituteRuns (matched : Char → Bool) (inRun : Bool) : List Char → List Char
  | [] => []
  | c :: rest =>
    if matched c then
      if inRun then substituteRuns matched true rest else ' ' :: substituteRuns matched true rest
    else c :: substituteRuns matched false rest

/-- A pattern that agrees with `str.isspace` finds the runs of white space. -/
theorem substituteRuns_eq {matched : Char → Bool} {inRun : Bool} {s : List Char}
    (hagree : ∀ c, matched c = Text.isSpace c) :
    substituteRuns matched inRun s = Text.collapse inRun s := by
  induction s generalizing inRun with
  | nil => rfl
  | cons c rest ih => rw [substituteRuns, Text.collapse, hagree c, ih, ih]

namespace CanonicalTextCounter

variable {matched : Char → Bool} {s t : List Char} {value : Option String}

/-- `_CanonicalTextCounter.add`, with the characters that `\s` matches apart from those that
`str.isspace` is true of. -/
def addMatching (matched : Char → Bool) (counter : CanonicalTextCounter) (value : Option String) :
    CanonicalTextCounter :=
  match value with
  | none => counter
  | some value =>
    let codePoints := saturatingIncrement counter.codePoints value.length
      parserLimits.maxTotalTextCodePoints
    match value.toList with
    | [] => { counter with codePoints }
    | first :: rest =>
      let increment := if (first :: rest).any matched then
        (substituteRuns matched false (first :: rest)).length else value.length
      let increment := if counter.inWhitespace && Text.isSpace first then increment - 1 else increment
      { codePoints
        semanticCodePoints := saturatingIncrement counter.semanticCodePoints increment
          parserLimits.maxTotalTextCodePoints
        inWhitespace := (first :: rest).getLast?.any Text.isSpace }

/-- The counter of the other modules is the one whose pattern agrees. -/
theorem addMatching_eq {counter : CanonicalTextCounter} (hagree : ∀ c, matched c = Text.isSpace c) :
    counter.addMatching matched value = counter.add value := by
  obtain rfl : matched = Text.isSpace := funext hagree
  cases value with
  | none => rfl
  | some value =>
      unfold addMatching add
      dsimp only
      cases value.toList with
      | nil => rfl
      | cons first rest => simp only [substituteRuns_eq fun _ => rfl]

/-! ## Saturation -/

/-- A count that stops one past the limit. -/
def capped (count : ℕ) : ℕ := min count (parserLimits.maxTotalTextCodePoints + 1)

/-- A saturated count is incremented like the count itself. -/
theorem saturatingIncrement_capped {count increment : ℕ} :
    saturatingIncrement (capped count) increment parserLimits.maxTotalTextCodePoints =
      capped (count + increment) := by
  unfold saturatingIncrement capped
  split <;> omega

/-- What the counter of a whole text is. -/
def ofText (s : List Char) : CanonicalTextCounter where
  codePoints := capped s.length
  semanticCodePoints := capped (Text.collapse false s).length
  inWhitespace := Text.runAfter false s

theorem ofText_nil : ofText [] = {} := rfl

/-- The length of a text that is added behind a run, as the code computes it. -/
theorem semanticIncrement_eq {inRun : Bool} {first : Char} {rest : List Char} :
    (if (inRun && Text.isSpace first) = true then
      (if (first :: rest).any Text.isSpace = true then
        (Text.collapse false (first :: rest)).length else (first :: rest).length) - 1
      else if (first :: rest).any Text.isSpace = true then
        (Text.collapse false (first :: rest)).length else (first :: rest).length) =
      (Text.collapse inRun (first :: rest)).length := by
  have hplain : (if (first :: rest).any Text.isSpace = true then
      (Text.collapse false (first :: rest)).length else (first :: rest).length) =
      (Text.collapse false (first :: rest)).length := by
    cases hany : (first :: rest).any Text.isSpace with
    | true => rfl
    | false =>
        rw [collapse_of_any hany]
        rfl
  have hrun := @Text.length_collapse_true (first :: rest)
  rw [hplain]
  cases hspace : Text.isSpace first with
  | true =>
      cases inRun with
      | true =>
          simp only [Text.startsSpace, List.head?_cons, Option.any_some, hspace, if_true] at hrun
          rw [if_pos (by rfl), ← hrun, Nat.add_sub_cancel]
      | false => rfl
  | false => cases inRun <;> simp [Text.collapse, hspace]

/-- One chunk behind a text. -/
theorem ofText_add : (ofText s).add value = ofText (s ++ (value.getD "").toList) := by
  cases value with
  | none => exact congrArg ofText (List.append_nil s).symm
  | some value =>
      have hlength : value.length = value.toList.length := String.length_toList.symm
      simp only [add, hlength, Option.getD_some]
      cases value.toList with
      | nil => simp [ofText, saturatingIncrement_capped]
      | cons first rest =>
          have hincrement := @semanticIncrement_eq (Text.runAfter false s) first rest
          have hafter := @runAfter_eq rest (Text.runAfter false s) first
          simp only [ofText, saturatingIncrement_capped, Text.collapse_append, Text.runAfter_append,
            List.length_append]
          rw [← hafter, ← hincrement]
          rfl

/-- The text of chunks. -/
def chunksText (chunks : List (Option String)) : List Char :=
  chunks.flatMap fun chunk => (chunk.getD "").toList

/-- Chunks behind a text. -/
theorem foldl_add {chunks : List (Option String)} :
    chunks.foldl (fun counter chunk => counter.add chunk) (ofText s) =
      ofText (s ++ chunksText chunks) := by
  induction chunks generalizing s with
  | nil => exact congrArg ofText (List.append_nil s).symm
  | cons chunk rest ih =>
      rw [List.foldl_cons, ofText_add, ih, List.append_assoc]
      rfl

/-- A text counts the same in chunks and at once, whatever the chunks are and wherever they end. -/
theorem add_chunks {matched : Char → Bool} (hagree : ∀ c, matched c = Text.isSpace c)
    (chunks : List (Option String)) (text : String) (htext : text.toList = chunksText chunks) :
    let inChunks := chunks.foldl (fun counter chunk => counter.addMatching matched chunk) {}
    inChunks = CanonicalTextCounter.addMatching matched {} (some text) ∧
      inChunks.codePoints = min text.length (parserLimits.maxTotalTextCodePoints + 1) ∧
      inChunks.semanticCodePoints = min (substituteRuns matched false text.toList).length
        (parserLimits.maxTotalTextCodePoints + 1) := by
  have hall : chunks.foldl (fun counter chunk => counter.addMatching matched chunk) {} =
      ofText text.toList := by
    simp only [addMatching_eq hagree]
    rw [← ofText_nil, foldl_add, List.nil_append, htext]
  have hwhole : CanonicalTextCounter.addMatching matched {} (some text) = ofText text.toList := by
    rw [addMatching_eq hagree, ← ofText_nil, ofText_add]
    rfl
  intro inChunks
  refine ⟨hall.trans hwhole.symm, ?_, ?_⟩
  · rw [show inChunks = ofText text.toList from hall, ← String.length_toList]
    rfl
  · rw [show inChunks = ofText text.toList from hall, substituteRuns_eq hagree]
    rfl

/-- A run that three chunks share, with nothing in between, is one character. -/
theorem add_chunks_run :
    let chunks := [some "a ", some "", none, some " \t", some " b"]
    let inChunks := chunks.foldl (fun counter chunk => counter.addMatching Text.isSpace chunk) {}
    inChunks = CanonicalTextCounter.addMatching Text.isSpace {} (some "a  \t b") ∧
      inChunks.codePoints = 6 ∧ inChunks.semanticCodePoints = 3 :=
  add_chunks (fun _ => rfl) [some "a ", some "", none, some " \t", some " b"] "a  \t b" (by decide)

end CanonicalTextCounter

end NplgMcp
