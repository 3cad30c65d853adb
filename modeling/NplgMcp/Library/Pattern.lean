import Mathlib.Tactic.Common

/-!
# Search patterns

Patterns that are a sequence of pieces: a character of a class, a run of characters of a class, a
run that is captured, a word boundary, and a class of which no character may follow. Runs are greedy
and give characters back, as in Python's `re`.
-/

namespace Library

/-- A piece of a pattern. -/
inductive Piece where
  | one (among : Char → Bool)
  | run (least : ℕ) (among : Char → Bool)
  | capture (among : Char → Bool)
  | boundary
  | notBefore (among : Char → Bool)

namespace Piece

/-- The pieces of a text that is matched as it is written. -/
def literal (text : String) : List Piece := text.toList.map fun c => one (· == c)

/-- The numbers of characters that a run can take, the largest first. -/
def runLengths (least : ℕ) (among : Char → Bool) (s : List Char) : List ℕ :=
  (List.range' least ((s.takeWhile among).length + 1 - least)).reverse

/-- The last character before what follows the first `count` ones. -/
def lastBefore (before : Option Char) (s : List Char) (count : ℕ) : Option Char :=
  (s.take count).getLast?.or before

/-- Whether exactly one of the characters on the two sides of a place is of a word. -/
def atBoundary (isWord : Char → Bool) (before : Option Char) (s : List Char) : Bool :=
  before.any isWord != s.head?.any isWord

/-- `re.match` at a place behind the character `before`: what is captured, and what is left. -/
def matchAt (isWord : Char → Bool) :
    List Piece → Option Char → List Char → Option (List String × List Char)
  | [], _, s => some ([], s)
  | one among :: rest, _, s =>
    match s with
    | [] => none
    | c :: s => if among c then matchAt isWord rest (some c) s else none
  | run least among :: rest, before, s =>
    (runLengths least among s).findSome? fun count =>
      matchAt isWord rest (lastBefore before s count) (s.drop count)
  | capture among :: rest, before, s =>
    (runLengths 1 among s).findSome? fun count =>
      (matchAt isWord rest (lastBefore before s count) (s.drop count)).map fun found =>
        (String.ofList (s.take count) :: found.1, found.2)
  | boundary :: rest, before, s =>
    if atBoundary isWord before s then matchAt isWord rest before s else none
  | notBefore among :: rest, before, s =>
    if s.head?.any among then none else matchAt isWord rest before s

/-- `re.finditer` for ordered alternatives that match no empty text: what each match captures. The
first `skip` characters belong to the match before. -/
def findAll (isWord : Char → Bool) (alternatives : List (List Piece)) :
    ℕ → Option Char → List Char → List (List String)
  | _, _, [] => []
  | skip + 1, _, c :: s => findAll isWord alternatives skip (some c) s
  | 0, before, c :: s =>
    match alternatives.findSome? fun pieces => matchAt isWord pieces before (c :: s) with
    | none => findAll isWord alternatives 0 (some c) s
    | some (captured, left) =>
      captured :: findAll isWord alternatives (s.length - left.length) (some c) s

end Piece

end Library
