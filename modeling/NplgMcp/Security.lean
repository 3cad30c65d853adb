import NplgMcp.Errors
import NplgMcp.Library.Text

/-!
# Handles and the repository's origin

`parse_handle_input` of `security.py`, over what it uses of Python's libraries.
-/

open Library

namespace NplgMcp

/-- `NPLG_HOST`. -/
def nplgHost : String := "dspace.nplg.gov.ge"

/-- `NPLG_ORIGIN`. -/
def nplgOrigin : String := "https://" ++ nplgHost

/-- What is read of a `SplitResult`; `port` is `none` where reading it raises `ValueError`. -/
structure SplitUrl where
  scheme : String
  netloc : String
  path : String
  query : String
  fragment : String
  hostname : Option String
  username : Option String
  password : Option String
  port : Option (Option ℕ)
  deriving DecidableEq, Repr

/-- What is used of Python's libraries and depends on their tables: normal form C, the decimal
digits that a pattern's `\d` matches, the splitting of a URL and of its query, and the dates a format
describes, in ISO form. A date or a URL that is refused (`ValueError`) is `none`. -/
structure Platform where
  nfc : String → String
  isDecimal : Char → Bool
  urlsplit : String → Option SplitUrl
  parseQs : String → List (String × List String)
  strptime : String → String → Option String
  /-- decimal digits are not white space -/
  isDecimal_isSpace : ∀ c, isDecimal c = true → Text.isSpace c = false
  /-- the ASCII digits are decimal digits -/
  isDecimal_ascii : ∀ c : Char, c.isDigit = true → isDecimal c = true
  /-- a text of ASCII characters and decimal digits is in normal form C -/
  nfc_plain : ∀ s : String, (∀ c ∈ s.toList, c.val.toNat < 128 ∨ isDecimal c = true) → nfc s = s

/-- What can be raised: an application error, or the `ValueError` of a URL that cannot be split. -/
inductive Raised where
  | app (error : AppError)
  | valueError
  deriving DecidableEq, Repr

/-- `_invalid`, without details. -/
def invalid (message : String) : AppError where
  code := .invalidInput
  message := message

namespace Platform

variable (py : Platform)

/-- `[1-9]\d*`. -/
def isNumber : List Char → Bool
  | [] => false
  | first :: rest => '1' ≤ first && first ≤ '9' && rest.all py.isDecimal

/-- `[1-9]\d*/[1-9]\d*`. -/
def isHandle (s : String) : Bool :=
  py.isNumber (s.toList.takeWhile (· ≠ '/')) &&
    match s.toList.dropWhile (· ≠ '/') with
    | [] => false
    | _ :: suffix => py.isNumber suffix

/-- `_validate_origin`. -/
def validateOrigin (parts : SplitUrl) (field : String) : Except AppError Unit := do
  if parts.netloc.toList.contains '%' ∨ parts.netloc.toList.contains '\\' then
    throw (invalid (field ++ " contains an unsafe host encoding"))
  if parts.scheme ≠ "https" then
    throw (invalid (field ++ " must use HTTPS"))
  if parts.username.isSome ∨ parts.password.isSome then
    throw (invalid (field ++ " must not contain credentials"))
  match parts.port with
  | none => throw (invalid (field ++ " contains an invalid port"))
  | some port =>
    if (parts.hostname.getD "").toLower ≠ nplgHost ∨ (port ≠ none ∧ port ≠ some 443) then
      throw (invalid (field ++ " must use the exact NPLG origin"))
    if parts.fragment ≠ "" then
      throw (invalid (field ++ " must not contain a fragment"))

/-- `_ITEM_PATH_RE`: the handle of an item's path. -/
def itemPathHandle (path : String) : Option String :=
  let handle := String.ofList (path.toList.drop "/handle/".length)
  if Text.startsWith path "/handle/" && py.isHandle handle then some handle else none

/-- What `parse_handle_input` does with a URL it has accepted. -/
def itemHandle (parts : SplitUrl) : Except Raised String :=
  match py.itemPathHandle parts.path with
  | none => .error (.app (invalid "Handle URL does not identify a canonical NPLG item"))
  | some handle =>
    let query := py.parseQs parts.query
    if query ≠ [] ∧ query ≠ [("mode", ["full"])] then
      .error (.app (invalid "Handle URL contains unsupported query parameters"))
    else .ok handle

/-- `parse_handle_input`. -/
def parseHandleInput (value : String) : Except Raised String :=
  let candidate := Text.strip value
  if py.isHandle candidate then .ok candidate
  else if Text.startsWith candidate "/handle/" then
    match py.urlsplit candidate with
    | none => .error .valueError
    | some parts =>
      if parts.scheme ≠ "" ∨ parts.netloc ≠ "" then
        .error (.app (invalid "Handle path is malformed"))
      else py.itemHandle parts
  else if Text.startsWith candidate "https://" then
    match py.urlsplit candidate with
    | none => .error .valueError
    | some parts =>
      match validateOrigin parts "Handle URL" with
      | .error error => .error (.app error)
      | .ok () => py.itemHandle parts
  else
    .error (.app (invalid "Handle must be in the form 1234/567 or a canonical NPLG item URL"))

variable {py} {value handle : String} {s : List Char}

/-- What is returned is a handle. -/
theorem isHandle_of_parseHandleInput (h : py.parseHandleInput value = .ok handle) :
    py.isHandle handle = true := by
  have hitem : ∀ {parts : SplitUrl}, py.itemHandle parts = .ok handle → py.isHandle handle = true := by
    intro parts hparts
    unfold itemHandle itemPathHandle at hparts
    grind
  unfold parseHandleInput at h
  grind

/-- The characters of a number are decimal digits. -/
theorem isDecimal_of_isNumber (h : py.isNumber s = true) {c : Char} (hc : c ∈ s) :
    py.isDecimal c = true := by
  cases s with
  | nil => cases hc
  | cons first rest =>
      simp only [isNumber, Bool.and_eq_true, decide_eq_true_eq, List.all_eq_true] at h
      rcases List.mem_cons.1 hc with rfl | hc
      · refine py.isDecimal_ascii _ ?_
        obtain ⟨⟨hlow, hhigh⟩, -⟩ := h
        simp only [Char.isDigit, Bool.and_eq_true, decide_eq_true_eq]
        exact ⟨Char.le_trans (by decide) hlow, hhigh⟩
      · exact h.2 c hc

/-- The characters of a handle are decimal digits and the slash. -/
theorem isDecimal_or_slash_of_isHandle (h : py.isHandle handle = true) {c : Char}
    (hc : c ∈ handle.toList) : c = '/' ∨ py.isDecimal c = true := by
  simp only [isHandle, Bool.and_eq_true] at h
  obtain ⟨hfront, hback⟩ := h
  rw [← List.takeWhile_append_dropWhile (p := (· ≠ '/')) (l := handle.toList)] at hc
  rcases List.mem_append.1 hc with hc | hc
  · exact .inr (isDecimal_of_isNumber hfront hc)
  · have hhead := List.head?_dropWhile_not (· ≠ '/') handle.toList
    cases hdrop : handle.toList.dropWhile (· ≠ '/') with
    | nil =>
        rw [hdrop] at hc
        cases hc
    | cons first rest =>
        rw [hdrop] at hc hback hhead
        rcases List.mem_cons.1 hc with rfl | hc
        · exact .inl (by simpa using hhead)
        · exact .inr (isDecimal_of_isNumber hback hc)

end Platform

end NplgMcp
