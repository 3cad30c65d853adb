import Mathlib.Data.List.TakeWhile

/-!
# Splitting URLs

`urllib.parse.urlsplit` and the properties of its result, on the characters of a URL. Two checks of
the network location depend on tables (what is between brackets must be an address, and no character
may become a delimiter under normalization); they are the parameter `accepts`.
-/

namespace Library.Url

/-- `str.partition`: what is before and behind the first mark, if it is there. -/
def partition (mark : Char) (s : List Char) : List Char × Option (List Char) :=
  (s.takeWhile (· ≠ mark), (s.dropWhile (· ≠ mark)).tail?)

/-- `str.rpartition`: what is before the last mark, if it is there, and what is behind it. -/
def rpartition (mark : Char) (s : List Char) : Option (List Char) × List Char :=
  let (back, front) := partition mark s.reverse
  (front.map List.reverse, back.reverse)

/-- The five parts of a URL. -/
structure Parts where
  scheme : List Char
  netloc : List Char
  path : List Char
  query : List Char
  fragment : List Char
  deriving DecidableEq, Repr

/-- Control characters and blanks before a URL are skipped, and tabs and ends of lines in it. -/
def clean (url : List Char) : List Char :=
  (url.dropWhile fun c => c.val.toNat ≤ 0x20).filter fun c => c ≠ '\t' && c ≠ '\r' && c ≠ '\n'

/-- A character of a scheme. -/
def isSchemeChar (c : Char) : Bool := c.isAlphanum || c == '+' || c == '-' || c == '.'

/-- The scheme in lower case, and what is behind it. -/
def splitScheme (url : List Char) : List Char × List Char :=
  match partition ':' url with
  | (name, some rest) =>
    if name.head?.any Char.isAlpha && name.all isSchemeChar then (name.map Char.toLower, rest)
    else ([], url)
  | (_, none) => ([], url)

/-- A character that ends a network location. -/
def endsNetloc (c : Char) : Bool := c == '/' || c == '?' || c == '#'

/-- The network location behind two slashes, and what is behind it. -/
def splitNetloc : List Char → List Char × List Char
  | '/' :: '/' :: rest =>
    (rest.takeWhile fun c => !endsNetloc c, rest.dropWhile fun c => !endsNetloc c)
  | url => ([], url)

/-- A bracket has its counterpart. -/
def balanced (netloc : List Char) : Bool := netloc.contains '[' == netloc.contains ']'

/-- `urlsplit`; `none` is a `ValueError`. -/
def split (accepts : List Char → Bool) (url : List Char) : Option Parts :=
  let (scheme, rest) := splitScheme (clean url)
  let (netloc, rest) := splitNetloc rest
  if balanced netloc && accepts netloc then
    let (rest, fragment) := partition '#' rest
    let (path, query) := partition '?' rest
    some { scheme, netloc, path, query := query.getD [], fragment := fragment.getD [] }
  else none

namespace Parts

variable (parts : Parts)

/-- What is before the host. -/
def userinfo : Option (List Char) := (rpartition '@' parts.netloc).1

/-- `username`. -/
def username : Option (List Char) := parts.userinfo.map fun info => (partition ':' info).1

/-- `password`. -/
def password : Option (List Char) := parts.userinfo.bind fun info => (partition ':' info).2

/-- The host as it is written, and what is behind its colon. -/
def hostinfo : List Char × List Char :=
  let hostinfo := (rpartition '@' parts.netloc).2
  match partition '[' hostinfo with
  | (_, some bracketed) =>
    let (hostname, port) := partition ']' bracketed
    (hostname, ((partition ':' (port.getD [])).2).getD [])
  | (_, none) =>
    let (hostname, port) := partition ':' hostinfo
    (hostname, port.getD [])

/-- `hostname`: in lower case up to a zone. -/
def hostname : Option (List Char) :=
  let name := parts.hostinfo.1
  if name = [] then none
  else
    some ((name.takeWhile (· ≠ '%')).map Char.toLower ++ name.dropWhile (· ≠ '%'))

/-- `port`; the outer `none` is a `ValueError`. -/
def port : Option (Option ℕ) :=
  let digits := parts.hostinfo.2
  if digits = [] then some none
  else if digits.all Char.isDigit then
    let value := Nat.ofDigitChars 10 digits 0
    if value ≤ 65535 then some (some value) else none
  else none

end Parts

/-! ## URLs that are written out -/

variable {accepts : List Char → Bool} {s t : List Char} {c : Char}

theorem takeWhile_append_cons {p : Char → Bool} (h : ∀ d ∈ s, p d = true) (hc : p c = false) :
    (s ++ c :: t).takeWhile p = s := by
  rw [List.takeWhile_append_of_pos h, List.takeWhile_cons_of_neg (by simp [hc]), List.append_nil]

theorem dropWhile_append_cons {p : Char → Bool} (h : ∀ d ∈ s, p d = true) (hc : p c = false) :
    (s ++ c :: t).dropWhile p = c :: t := by
  rw [List.dropWhile_append_of_pos h, List.dropWhile_cons_of_neg (by simp [hc])]

/-- The first mark is behind a text that has none. -/
theorem partition_append (h : c ∉ s) : partition c (s ++ c :: t) = (s, some t) := by
  have hfront : ∀ d ∈ s, (decide (d ≠ c)) = true := fun d hd => by
    simpa using fun heq : d = c => h (heq ▸ hd)
  rw [partition, takeWhile_append_cons hfront (by simp), dropWhile_append_cons hfront (by simp)]
  rfl

/-- A text without the mark is not split. -/
theorem partition_of_notMem (h : c ∉ s) : partition c s = (s, none) := by
  have hall : ∀ d ∈ s, (decide (d ≠ c)) = true := fun d hd => by
    simpa using fun heq : d = c => h (heq ▸ hd)
  rw [partition, List.takeWhile_eq_self_iff.2 hall, List.dropWhile_eq_nil_iff.2 hall]
  rfl

/-- The characters that are read as they are. -/
def Printed (s : List Char) : Prop := ∀ c ∈ s, 0x20 < c.val.toNat

theorem clean_of_printed (h : Printed s) : clean s = s := by
  have hdrop : s.dropWhile (fun c => c.val.toNat ≤ 0x20) = s := by
    cases s with
    | nil => rfl
    | cons c rest =>
        refine List.dropWhile_cons_of_neg ?_
        have hc := h c (List.mem_cons_self ..)
        simpa using hc
  rw [clean, hdrop, List.filter_eq_self]
  intro c hc
  have hprinted := h c hc
  have hne (other : Char) (hother : other.val.toNat ≤ 0x20) : c ≠ other := by
    rintro rfl
    omega
  simp [hne '\t' (by decide), hne '\r' (by decide), hne '\n' (by decide)]

theorem printed_append : Printed (s ++ t) ↔ Printed s ∧ Printed t := List.forall_mem_append

/-- What follows the network location of an absolute URL. -/
theorem split_absolute {netloc tail : List Char} (hnetloc : ∀ d ∈ netloc, endsNetloc d = false)
    (hbalanced : balanced netloc = true) (haccepts : accepts netloc = true)
    (hprinted : Printed netloc) (htail : Printed tail) :
    split accepts ("https://".toList ++ (netloc ++ '/' :: tail)) = some
      { scheme := "https".toList
        netloc
        path := (partition '?' (partition '#' ('/' :: tail)).1).1
        query := (partition '?' (partition '#' ('/' :: tail)).1).2.getD []
        fragment := (partition '#' ('/' :: tail)).2.getD [] } := by
  have hurl : "https://".toList ++ (netloc ++ '/' :: tail) =
      "https".toList ++ ':' :: '/' :: '/' :: (netloc ++ '/' :: tail) := rfl
  have hclean : Printed ("https".toList ++ ':' :: '/' :: '/' :: (netloc ++ '/' :: tail)) := by
    have hslash : Printed ('/' :: tail) := by
      intro c hc
      rcases List.mem_cons.1 hc with rfl | hc
      · decide
      · exact htail c hc
    rw [← hurl]
    refine printed_append.2 ⟨?_, printed_append.2 ⟨hprinted, hslash⟩⟩
    intro c hc
    have hall : "https://".toList.all (fun c => 0x20 < c.val.toNat) = true := by decide
    simpa using List.all_eq_true.1 hall c hc
  have hscheme : splitScheme ("https".toList ++ ':' :: '/' :: '/' :: (netloc ++ '/' :: tail)) =
      ("https".toList, '/' :: '/' :: (netloc ++ '/' :: tail)) := by
    rw [splitScheme, partition_append (by decide)]
    rfl
  have hstop : ∀ d ∈ netloc, (!endsNetloc d) = true := fun d hd => by rw [hnetloc d hd]; rfl
  have hlocation : splitNetloc ('/' :: '/' :: (netloc ++ '/' :: tail)) = (netloc, '/' :: tail) := by
    rw [splitNetloc, takeWhile_append_cons hstop rfl, dropWhile_append_cons hstop rfl]
  rw [hurl, split, clean_of_printed hclean, hscheme]
  dsimp only
  rw [hlocation]
  dsimp only
  rw [hbalanced, haccepts]
  rfl

/-- The path of a URL without a network location is never refused. -/
theorem isSome_split_of_rooted {rest : List Char} (hc : c ≠ '/') (hprinted : 0x20 < c.val.toNat)
    (hempty : accepts [] = true) : (split accepts ('/' :: c :: rest)).isSome = true := by
  have hne (other : Char) (hother : other.val.toNat ≤ 0x20) : c ≠ other := by
    rintro rfl
    omega
  have hclean : ∃ tail, clean ('/' :: c :: rest) = '/' :: c :: tail := by
    refine ⟨rest.filter fun c => c ≠ '\t' && c ≠ '\r' && c ≠ '\n', ?_⟩
    rw [clean, List.dropWhile_cons_of_neg (by decide), List.filter_cons_of_pos (by decide),
      List.filter_cons_of_pos]
    simp [hne '\t' (by decide), hne '\r' (by decide), hne '\n' (by decide)]
  obtain ⟨tail, htail⟩ := hclean
  have hscheme : splitScheme ('/' :: c :: tail) = ([], '/' :: c :: tail) := by
    have hname : (partition ':' ('/' :: c :: tail)).1.head? = some '/' := by
      rw [partition, List.takeWhile_cons_of_pos (by decide)]
      rfl
    rw [splitScheme]
    split
    · next name behind hpartition =>
        rw [hpartition] at hname
        dsimp only at hname
        rw [hname]
        rfl
    · rfl
  have hlocation : splitNetloc ('/' :: c :: tail) = ([], '/' :: c :: tail) := by
    unfold splitNetloc
    split
    · next heq =>
        simp only [List.cons.injEq, true_and] at heq
        exact absurd heq.1 hc
    · rfl
  rw [split, htail, hscheme]
  dsimp only
  rw [hlocation]
  dsimp only
  rw [hempty]
  rfl

end Library.Url
