import Mathlib.Data.Int.Notation
import NplgMcp.Markup.Record

/-!
# Upstream URLs

`validate_upstream_url` of `security.py` and `_canonical_item_from_href` of `parsers.py`.
-/

open Library

namespace NplgMcp

/-- What else is used of Python's libraries and of `httpx`: the characters of words (`\w`), lower
case, `int` and the joining of URLs (`none` where they raise `ValueError`), and the URL with
parameters that `httpx.URL` makes. -/
structure WebPlatform extends Platform where
  isWord : Char → Bool
  lower : String → String
  readInteger : String → Option ℤ
  urljoin : String → String → Option String
  requestUrl : String → List (String × String) → String
  /-- the decimal digits of ASCII are the usual ones -/
  isDigit_of_isDecimal : ∀ c : Char, c.val.toNat < 128 → isDecimal c = true → c.isDigit = true
  /-- the parameters of a URL are read back as they were given -/
  parseQs_requestUrl : ∀ (base : String) (params : List (String × String)) (parts : SplitUrl),
    (∀ c ∈ base.toList, c ≠ '?' ∧ c ≠ '#') → (params.map Prod.fst).Nodup →
      urlsplit (requestUrl base params) = some parts →
        parseQs parts.query = params.map fun item => (item.1, [item.2])

/-- `NPLG_ORIGIN` with the path of the search. -/
def simpleSearchUrl : String := nplgOrigin ++ "/simple-search"

/-- A hexadecimal digit. -/
def isHexChar (c : Char) : Bool :=
  c.isDigit || ('a' ≤ c && c ≤ 'f') || ('A' ≤ c && c ≤ 'F')

/-- The value of a hexadecimal digit. -/
def hexValue (c : Char) : ℕ :=
  if c.isDigit then c.toNat - 48 else if 'a' ≤ c then c.toNat - 87 else c.toNat - 55

/-- `unquote_to_bytes`, on the characters. -/
def unquoteToBytes : List Char → List UInt8
  | [] => []
  | '%' :: high :: low :: rest =>
    if isHexChar high && isHexChar low then
      UInt8.ofNat (16 * hexValue high + hexValue low) :: unquoteToBytes rest
    else String.utf8EncodeChar '%' ++ unquoteToBytes (high :: low :: rest)
  | c :: rest => String.utf8EncodeChar c ++ unquoteToBytes rest

/-- `%(?![0-9A-Fa-f]{2})` is found. -/
def hasBadEscape : List Char → Bool
  | [] => false
  | c :: rest =>
    (c == '%' && !(2 ≤ (rest.take 2).length && (rest.take 2).all isHexChar)) || hasBadEscape rest

/-- A control character of ASCII. -/
def isControl (value : ℕ) : Bool := value < 0x20 || value == 0x7F

/-- What no decoded segment of a path may be or have: `.`, `..`, `/`, `\`, `%` and control
characters. -/
def unsafeSegment (segment : List UInt8) : Bool :=
  segment == [0x2E] || segment == [0x2E, 0x2E] || segment.contains 0x2F || segment.contains 0x5C ||
    segment.contains 0x25 || segment.any fun value => isControl value.toNat

namespace WebPlatform

variable (py : WebPlatform)

/-- `_ALLOWED_PATHS`, for the segments of a path. -/
def isAllowedPath (segments : List (List Char)) : Bool :=
  match segments.map String.ofList, segments with
  | ["", "simple-search"], _ => true
  | ["", "oai", "request"], _ => true
  | ["", "community-list"], _ => true
  | ["", "handle", _, _], [_, _, first, second] => py.isNumber first && py.isNumber second
  | ["", "handle", _, _, "simple-search"], [_, _, first, second, _] =>
    py.isNumber first && py.isNumber second
  | "" :: "bitstream" :: _, _ :: _ :: first :: second :: name :: names =>
    py.isNumber first && py.isNumber second && (name != [] || names != []) &&
      (name :: names).all fun segment => !segment.contains '\n'
  | _, _ => false

/-- `validate_upstream_url`. -/
def validateUpstreamUrl (url : String) : Except Raised String :=
  if url ≠ Text.strip url ∨ url.toList.contains '\\' ∨ url.toList.any (fun c => isControl c.val.toNat) then
    .error (.app (invalid "Upstream URL contains unsafe characters"))
  else
    match py.urlsplit url with
    | none => .error .valueError
    | some parts =>
      match Platform.validateOrigin parts "Upstream URL" with
      | .error error => .error (.app error)
      | .ok () =>
        let segments := parts.path.toList.splitOn '/'
        if hasBadEscape parts.path.toList then
          .error (.app (invalid "Upstream URL path contains invalid percent encoding"))
        else if segments.any fun segment => unsafeSegment (unquoteToBytes segment) then
          .error (.app (invalid "Upstream URL path is not canonical"))
        else if py.isAllowedPath segments then .ok url
        else
          .error (.app { invalid "Upstream URL path is not permitted" with
            safeDetails := some [("path", parts.path)] })

/-- `urljoin`, which may raise `ValueError`. -/
def join (base url : String) : Except Raised String :=
  match py.urljoin base url with
  | none => .error .valueError
  | some absolute => .ok absolute

/-- `urlsplit`, which may raise `ValueError`. -/
def split (url : String) : Except Raised SplitUrl :=
  match py.urlsplit url with
  | none => .error .valueError
  | some parts => .ok parts

/-- `_canonical_item_from_href`. -/
def canonicalItemFromHref (href sourceUrl : String) : Except Raised (String × String) := do
  let absolute ← py.join sourceUrl href
  let _ ← py.validateUpstreamUrl absolute
  let parts ← py.split absolute
  let handle ← py.parseHandleInput parts.path
  return (handle, nplgOrigin ++ "/handle/" ++ handle)

variable {py} {url target : String}

/-- A URL is returned as it was given. -/
theorem eq_of_validateUpstreamUrl (h : py.validateUpstreamUrl url = .ok target) : target = url := by
  unfold validateUpstreamUrl at h
  grind

/-- What a URL is split into. -/
theorem urlsplit_of_split {parts : SplitUrl} (h : py.split url = .ok parts) :
    py.urlsplit url = some parts := by
  unfold split at h
  split at h
  · cases h
  · rename_i found hfound
    cases h
    exact hfound

/-- What a URL is joined to. -/
theorem urljoin_of_join {base : String} (h : py.join base url = .ok target) :
    py.urljoin base url = some target := by
  unfold join at h
  split at h
  · cases h
  · rename_i absolute habsolute
    cases h
    exact habsolute

end WebPlatform

end NplgMcp
