import NplgMcp.Library.Url
import NplgMcp.Library.Utf8
import NplgMcp.Search.Cursor
import NplgMcp.Search.Urls

/-!
# Handles and URLs that are admitted

What `parse_handle_input`, `build_item_url` and `validate_upstream_url` of `security.py` make of any
text, with `urlsplit` as Python's library has it. A handle that is returned is read back from itself
and from the URLs that are built of it, but it need not be one that cursors and outputs take: the
digits of `\d` are those of every script, and there may be more than 32. A URL that `urlsplit` refuses
leaves the functions with its `ValueError`. `agreesAt_iff` says for which texts neither happens.
-/

open Library

namespace NplgMcp

/-- What is read of the parts of a URL. -/
def splitUrl (parts : Url.Parts) : SplitUrl where
  scheme := String.ofList parts.scheme
  netloc := String.ofList parts.netloc
  path := String.ofList parts.path
  query := String.ofList parts.query
  fragment := String.ofList parts.fragment
  hostname := parts.hostname.map String.ofList
  username := parts.username.map String.ofList
  password := parts.password.map String.ofList
  port := parts.port

/-- The libraries with Python's own `urlsplit`. -/
structure UrlPlatform extends WebPlatform where
  /-- what is between brackets is an address, and no character becomes a delimiter -/
  acceptsNetloc : List Char → Bool
  /-- a location of ASCII characters without brackets passes both checks -/
  acceptsNetloc_plain : ∀ netloc : List Char, (∀ c ∈ netloc, c.val.toNat < 128 ∧ c ≠ '[') →
    acceptsNetloc netloc = true
  urlsplit_eq : ∀ url, urlsplit url = (Url.split acceptsNetloc url.toList).map splitUrl
  parseQs_empty : parseQs "" = []
  parseQs_mode : parseQs "mode=full" = [("mode", ["full"])]

namespace Platform

variable (py : Platform)

/-- `build_item_url`. -/
def buildItemUrl (handle : String) (full : Bool) : Except Raised String := do
  let canonical ← py.parseHandleInput handle
  let url := nplgOrigin ++ "/handle/" ++ canonical
  return if full then url ++ "?mode=full" else url

end Platform

namespace UrlPlatform

variable {py : UrlPlatform} {value handle : String}

/-! ## Handles -/

theorem slash_not_decimal : py.isDecimal '/' = false := by
  cases h : py.isDecimal '/' with
  | false => rfl
  | true => exact absurd (py.isDigit_of_isDecimal '/' (by decide) h) (by decide)

/-- A number has no slash. -/
theorem slash_notMem_of_isNumber {s : List Char} (h : py.isNumber s = true) : '/' ∉ s := by
  intro hmem
  have hdecimal := Platform.isDecimal_of_isNumber h hmem
  rw [slash_not_decimal] at hdecimal
  cases hdecimal

/-- A handle is two numbers and a slash. -/
theorem isHandle_iff : py.isHandle handle = true ↔ ∃ first second : List Char,
    handle.toList = first ++ '/' :: second ∧ py.isNumber first = true ∧ py.isNumber second = true := by
  constructor
  · intro h
    unfold Platform.isHandle at h
    rw [Bool.and_eq_true] at h
    obtain ⟨hfirst, hsecond⟩ := h
    have hhead := List.head?_dropWhile_not (· ≠ '/') handle.toList
    split at hsecond
    · cases hsecond
    · next slash second hdrop =>
        rw [hdrop] at hhead
        have hslash : slash = '/' := by simpa using hhead
        subst hslash
        refine ⟨_, second, ?_, hfirst, hsecond⟩
        rw [← hdrop]
        exact (List.takeWhile_append_dropWhile ..).symm
  · rintro ⟨first, second, hhandle, hfirst, hsecond⟩
    have hne : ∀ c ∈ first, (decide (c ≠ '/')) = true := fun c hc => by
      simpa using fun heq : c = '/' => slash_notMem_of_isNumber hfirst (heq ▸ hc)
    unfold Platform.isHandle
    rw [hhandle, Url.takeWhile_append_cons hne (by simp), Url.dropWhile_append_cons hne (by simp),
      hfirst]
    exact hsecond

/-- A character of a handle is neither white space nor a control character, and it marks nothing in a
URL. -/
theorem isHandle_plain (h : py.isHandle handle = true) {c : Char} (hc : c ∈ handle.toList) :
    Text.isSpace c = false ∧ 0x20 < c.val.toNat ∧ c ≠ '%' ∧ c ≠ '?' ∧ c ≠ '#' ∧ c ≠ '\\' ∧
      c.val.toNat ≠ 0x7F := by
  rcases Platform.isDecimal_or_slash_of_isHandle h hc with rfl | hdecimal
  · decide
  · have hspace := py.isDecimal_isSpace c hdecimal
    by_cases hascii : c.val.toNat < 128
    · have hdigit := py.isDigit_of_isDecimal c hascii hdecimal
      simp only [Char.isDigit, Bool.and_eq_true, decide_eq_true_eq] at hdigit
      have hlow : 48 ≤ c.val.toNat := hdigit.1
      have hhigh : c.val.toNat ≤ 57 := hdigit.2
      have hne (other : Char) (hother : other.val.toNat < 48 ∨ 57 < other.val.toNat) : c ≠ other := by
        rintro rfl
        omega
      exact ⟨hspace, by omega, hne _ (by decide), hne _ (by decide), hne _ (by decide),
        hne _ (by decide), by omega⟩
    · have hne (other : Char) (hother : other.val.toNat < 128) : c ≠ other := by
        rintro rfl
        omega
      exact ⟨hspace, by omega, hne _ (by decide), hne _ (by decide), hne _ (by decide),
        hne _ (by decide), by omega⟩

/-- The handle is written in ASCII with at most 32 digits on each side. -/
def Short (handle : String) : Prop :=
  (∀ c ∈ handle.toList, c.val.toNat < 128) ∧ ∀ part ∈ handle.toList.splitOn '/', part.length ≤ 32

instance : Decidable (Short handle) := inferInstanceAs (Decidable (_ ∧ _))

theorem splitOn_of_isHandle {first second : List Char} (hhandle : handle.toList = first ++ '/' :: second)
    (hfirst : py.isNumber first = true) (hsecond : py.isNumber second = true) :
    handle.toList.splitOn '/' = [first, second] := by
  rw [hhandle, List.splitOn_append_cons_self_of_not_mem (slash_notMem_of_isNumber hfirst),
    List.splitOn_eq_singleton (slash_notMem_of_isNumber hsecond)]

/-- A number of at most 32 ASCII digits is one that is bounded. -/
theorem isBoundedNumber_iff {s : List Char} (h : py.isNumber s = true) :
    isBoundedNumber s = true ↔ (∀ c ∈ s, c.val.toNat < 128) ∧ s.length ≤ 32 := by
  cases s with
  | nil => cases h
  | cons first rest =>
      simp only [Platform.isNumber, Bool.and_eq_true, decide_eq_true_eq, List.all_eq_true] at h
      obtain ⟨⟨hlow, hhigh⟩, hrest⟩ := h
      have hfirst : first.val.toNat < 128 := Nat.lt_of_le_of_lt (UInt32.le_iff_toNat_le.1 hhigh) (by decide)
      have hdigits : rest.all Char.isDigit = true ↔ ∀ c ∈ rest, c.val.toNat < 128 := by
        rw [List.all_eq_true]
        refine forall₂_congr fun c hc => ⟨fun hdigit => ?_, fun hascii => ?_⟩
        · simp only [Char.isDigit, Bool.and_eq_true, decide_eq_true_eq] at hdigit
          exact Nat.lt_of_le_of_lt (UInt32.le_iff_toNat_le.1 hdigit.2) (by decide)
        · exact py.isDigit_of_isDecimal c hascii (hrest c hc)
      simp only [isBoundedNumber, Bool.and_eq_true, decide_eq_true_eq, hdigits, hlow, hhigh, true_and,
        List.forall_mem_cons, hfirst, List.length_cons, Nat.succ_le_succ_iff]
      exact and_comm

/-- A handle is one that cursors and outputs take exactly if it is short. -/
theorem isCanonicalHandle_iff (h : py.isHandle handle = true) :
    isCanonicalHandle handle.toList = true ↔ Short handle := by
  obtain ⟨first, second, hhandle, hfirst, hsecond⟩ := isHandle_iff.1 h
  have hsplit := splitOn_of_isHandle hhandle hfirst hsecond
  unfold isCanonicalHandle Short
  rw [hsplit, hhandle]
  simp only [Bool.and_eq_true, isBoundedNumber_iff hfirst, isBoundedNumber_iff hsecond,
    List.forall_mem_append, List.forall_mem_cons, List.not_mem_nil, false_imp_iff, implies_true,
    and_true]
  have hslash : '/'.val.toNat < 128 := by decide
  tauto

/-! ## The URL of an item -/

/-- What a URL of an item has behind the slash of its path. -/
def itemTail (handle : String) (full : Bool) : List Char :=
  "handle/".toList ++ (handle.toList ++ if full then "?mode=full".toList else [])

/-- The URL that is built of a handle. -/
def itemUrl (handle : String) (full : Bool) : String :=
  if full then nplgOrigin ++ "/handle/" ++ handle ++ "?mode=full"
  else nplgOrigin ++ "/handle/" ++ handle

theorem toList_itemUrl {full : Bool} : (itemUrl handle full).toList =
    "https://".toList ++ (nplgHost.toList ++ '/' :: itemTail handle full) := by
  have hslash : "/handle/".toList = '/' :: "handle/".toList := by decide
  -- The texts that are written out are of no interest here.
  unfold itemUrl itemTail
  cases full with
  | true =>
      rw [if_pos rfl, if_pos rfl, String.toList_append, String.toList_append, String.toList_append,
        hslash, nplgOrigin, String.toList_append]
      generalize "handle/".toList = mark
      generalize "https://".toList = scheme
      generalize "?mode=full".toList = query
      generalize nplgHost.toList = host
      simp only [List.append_assoc, List.cons_append]
  | false =>
      rw [if_neg Bool.false_ne_true, if_neg Bool.false_ne_true, String.toList_append,
        String.toList_append, hslash, nplgOrigin, String.toList_append]
      generalize "handle/".toList = mark
      generalize "https://".toList = scheme
      generalize nplgHost.toList = host
      simp only [List.append_assoc, List.cons_append, List.append_nil]

/-- No character of the URL of an item is white space, a control character or a backslash. -/
theorem itemUrl_plain {full : Bool} (h : py.isHandle handle = true) {c : Char}
    (hc : c ∈ (itemUrl handle full).toList) :
    Text.isSpace c = false ∧ 0x20 < c.val.toNat ∧ c ≠ '\\' ∧ c.val.toNat ≠ 0x7F := by
  have hliteral (text : List Char) (hall : text.all (fun c => !Text.isSpace c && 0x20 < c.val.toNat &&
      c != '\\' && c.val.toNat != 0x7F) = true) (hmem : c ∈ text) :
      Text.isSpace c = false ∧ 0x20 < c.val.toNat ∧ c ≠ '\\' ∧ c.val.toNat ≠ 0x7F := by
    have hthis := List.all_eq_true.1 hall c hmem
    simp only [Bool.and_eq_true, Bool.not_eq_true', decide_eq_true_eq, bne_iff_ne] at hthis
    exact ⟨hthis.1.1.1, hthis.1.1.2, hthis.1.2, hthis.2⟩
  rw [toList_itemUrl] at hc
  rcases List.mem_append.1 hc with hc | hc
  · exact hliteral _ (by decide) hc
  rcases List.mem_append.1 hc with hc | hc
  · exact hliteral _ (by decide) hc
  rcases List.mem_cons.1 hc with rfl | hc
  · decide
  rcases List.mem_append.1 hc with hc | hc
  · exact hliteral _ (by decide) hc
  rcases List.mem_append.1 hc with hc | hc
  · obtain ⟨hspace, hcontrol, -, -, -, hbackslash, hdelete⟩ := isHandle_plain h hc
    exact ⟨hspace, hcontrol, hbackslash, hdelete⟩
  · cases full with
    | true => exact hliteral _ (by decide) hc
    | false => cases hc

/-- How the URL of an item is split. -/
def itemParts (handle : String) (full : Bool) : SplitUrl where
  scheme := "https"
  netloc := nplgHost
  path := "/handle/" ++ handle
  query := if full then "mode=full" else ""
  fragment := ""
  hostname := some nplgHost
  username := none
  password := none
  port := some none

/-- The question mark of an item's URL is behind its handle. -/
theorem partition_itemTail {full : Bool} (h : py.isHandle handle = true) :
    Url.partition '?' ('/' :: itemTail handle full) =
      ('/' :: ("handle/".toList ++ handle.toList), if full then some "mode=full".toList else none) := by
  have hfront : '?' ∉ '/' :: ("handle/".toList ++ handle.toList) := by
    intro hc
    rcases List.mem_cons.1 hc with hc | hc
    · exact absurd hc (by decide)
    rcases List.mem_append.1 hc with hc | hc
    · exact absurd hc (by decide)
    · exact (isHandle_plain h hc).2.2.2.1 rfl
  have hmark : "?mode=full".toList = '?' :: "mode=full".toList := by decide
  unfold itemTail
  rw [hmark]
  generalize "handle/".toList = mark at hfront ⊢
  generalize "mode=full".toList = mode
  cases full with
  | true =>
      have htail : '/' :: (mark ++ (handle.toList ++ if true = true then '?' :: mode else [])) =
          ('/' :: (mark ++ handle.toList)) ++ '?' :: mode := by
        simp only [if_true, List.cons_append, List.append_assoc]
      rw [htail, Url.partition_append hfront, if_pos rfl]
  | false =>
      rw [if_neg Bool.false_ne_true, List.append_nil, Url.partition_of_notMem hfront,
        if_neg Bool.false_ne_true]

/-- What the parts of an item's URL are read as. -/
theorem splitUrl_item {full : Bool} :
    splitUrl
      { scheme := "https".toList
        netloc := nplgHost.toList
        path := '/' :: ("handle/".toList ++ handle.toList)
        query := (if full then some "mode=full".toList else none).getD []
        fragment := (none : Option (List Char)).getD [] } = itemParts handle full := by
  have hpath : String.ofList ('/' :: ("handle/".toList ++ handle.toList)) = "/handle/" ++ handle := by
    rw [← String.toList_inj, String.toList_ofList, String.toList_append]
    rfl
  have hquery : String.ofList ((if full then some "mode=full".toList else none).getD []) =
      if full then "mode=full" else "" := by
    cases full <;> decide
  unfold splitUrl itemParts
  dsimp only
  rw [hpath, hquery]
  rfl

theorem urlsplit_itemUrl {full : Bool} (h : py.isHandle handle = true) :
    py.urlsplit (itemUrl handle full) = some (itemParts handle full) := by
  have hprinted : Url.Printed (itemUrl handle full).toList := fun c hc => (itemUrl_plain h hc).2.1
  rw [toList_itemUrl] at hprinted
  obtain ⟨-, hprinted⟩ := Url.printed_append.1 hprinted
  obtain ⟨hhost, hslash⟩ := Url.printed_append.1 hprinted
  have htail : Url.Printed (itemTail handle full) := fun c hc => hslash c (List.mem_cons_of_mem _ hc)
  have haccepts : py.acceptsNetloc nplgHost.toList = true := by
    refine py.acceptsNetloc_plain _ fun c hc => ?_
    have hall : nplgHost.toList.all (fun c => c.val.toNat < 128 && c != '[') = true := by decide
    simpa using List.all_eq_true.1 hall c hc
  have hends : ∀ c ∈ nplgHost.toList, Url.endsNetloc c = false := by
    intro c hc
    have hall : nplgHost.toList.all (fun c => !Url.endsNetloc c) = true := by decide
    simpa using List.all_eq_true.1 hall c hc
  have hhash : '#' ∉ '/' :: itemTail handle full := by
    intro hc
    rcases List.mem_cons.1 hc with hc | hc
    · exact absurd hc (by decide)
    rcases List.mem_append.1 hc with hc | hc
    · exact absurd hc (by decide)
    rcases List.mem_append.1 hc with hc | hc
    · exact (isHandle_plain h hc).2.2.2.2.1 rfl
    · cases full with
      | true => exact absurd hc (by decide)
      | false => cases hc
  have hpath := @partition_itemTail py handle full h
  rw [py.urlsplit_eq, toList_itemUrl,
    Url.split_absolute hends (by decide) haccepts hhost htail, Url.partition_of_notMem hhash]
  dsimp only
  rw [hpath, Option.map_some, splitUrl_item]

/-! ## Handles are read back -/

/-- A handle is read as it is. -/
theorem parseHandleInput_of_isHandle (h : py.isHandle handle = true) :
    py.parseHandleInput handle = .ok handle := by
  have hspaceless : Text.Spaceless handle := fun c hc => (isHandle_plain h hc).1
  unfold Platform.parseHandleInput
  dsimp only
  rw [Text.strip_of_spaceless hspaceless, if_pos h]

theorem head_itemUrl {full : Bool} :
    ∃ rest, (itemUrl handle full).toList = 'h' :: 't' :: 't' :: 'p' :: 's' :: ':' :: '/' :: '/' :: rest := by
  refine ⟨nplgHost.toList ++ '/' :: itemTail handle full, ?_⟩
  have hscheme : "https://".toList = ['h', 't', 't', 'p', 's', ':', '/', '/'] := by decide
  rw [toList_itemUrl, hscheme]
  rfl

/-- The URL of an item is not itself a handle or a path, but a URL. -/
theorem itemUrl_form {full : Bool} : py.isHandle (itemUrl handle full) = false ∧
    Text.startsWith (itemUrl handle full) "/handle/" = false ∧
    Text.startsWith (itemUrl handle full) "https://" = true := by
  obtain ⟨rest, hrest⟩ := @head_itemUrl handle full
  refine ⟨?_, ?_, ?_⟩
  · rw [Bool.eq_false_iff]
    intro h
    obtain ⟨first, second, hsplit, hfirst, -⟩ := isHandle_iff.1 h
    rw [hrest] at hsplit
    cases first with
    | nil => cases hfirst
    | cons c first =>
        rw [List.cons_append, List.cons.injEq] at hsplit
        rw [← hsplit.1] at hfirst
        simp [Platform.isNumber] at hfirst
  · rw [Text.startsWith, hrest]
    rfl
  · rw [Text.startsWith, hrest]
    rfl

/-- The origin of the URL of an item is the repository's. -/
theorem validateOrigin_itemParts {full : Bool} {field : String} :
    Platform.validateOrigin (itemParts handle full) field = .ok () := by
  have hlower : nplgHost.toLower = nplgHost := by decide +kernel
  have hsafe : ¬(nplgHost.toList.contains '%' = true ∨ nplgHost.toList.contains '\\' = true) := by decide
  unfold Platform.validateOrigin itemParts
  dsimp only
  rw [if_neg hsafe, if_neg (by simp), if_neg (by simp), Option.getD_some, hlower, if_neg (by simp),
    if_neg (by simp)]
  rfl

theorem itemPathHandle_of_isHandle (h : py.isHandle handle = true) :
    py.itemPathHandle ("/handle/" ++ handle) = some handle := by
  have hdrop : String.ofList (("/handle/" ++ handle).toList.drop "/handle/".length) = handle := by
    rw [String.toList_append, ← String.length_toList, List.drop_left, String.ofList_toList]
  have hstarts : Text.startsWith ("/handle/" ++ handle) "/handle/" = true := by
    rw [Text.startsWith, String.toList_append]
    exact List.isPrefixOf_iff_prefix.2 (List.prefix_append ..)
  unfold Platform.itemPathHandle
  dsimp only
  rw [hdrop, hstarts, h]
  rfl

theorem itemHandle_itemParts {full : Bool} (h : py.isHandle handle = true) :
    py.itemHandle (itemParts handle full) = .ok handle := by
  have hpath : py.itemPathHandle (itemParts handle full).path = some handle :=
    itemPathHandle_of_isHandle h
  have hquery : py.parseQs (itemParts handle full).query = [] ∨
      py.parseQs (itemParts handle full).query = [("mode", ["full"])] := by
    cases full with
    | true => exact .inr py.parseQs_mode
    | false => exact .inl py.parseQs_empty
  unfold Platform.itemHandle
  rw [hpath]
  dsimp only
  rw [if_neg]
  rintro ⟨hsome, hother⟩
  rcases hquery with hquery | hquery
  · exact hsome hquery
  · exact hother hquery

/-- A handle is read back from the URLs that are built of it. -/
theorem parseHandleInput_itemUrl {full : Bool} (h : py.isHandle handle = true) :
    py.parseHandleInput (itemUrl handle full) = .ok handle := by
  have hspaceless : Text.Spaceless (itemUrl handle full) := fun c hc => (itemUrl_plain h hc).1
  obtain ⟨hno, hpath, hurl⟩ := @itemUrl_form py handle full
  unfold Platform.parseHandleInput
  dsimp only
  rw [Text.strip_of_spaceless hspaceless, hno, hpath, hurl, urlsplit_itemUrl h]
  simp only [Bool.false_eq_true, if_false, if_true, validateOrigin_itemParts, itemHandle_itemParts h]

theorem buildItemUrl_of_isHandle {full : Bool} (h : py.isHandle handle = true) :
    py.buildItemUrl handle full = .ok (itemUrl handle full) := by
  unfold Platform.buildItemUrl
  rw [parseHandleInput_of_isHandle h]
  rfl

/-! ## The URL of an item is accepted -/

/-- Without a percent sign there is nothing to decode. -/
theorem unquoteToBytes_of_notMem {s : List Char} (h : '%' ∉ s) :
    unquoteToBytes s = s.flatMap String.utf8EncodeChar := by
  induction s with
  | nil => rfl
  | cons c rest ih =>
      have hc : c ≠ '%' := fun heq => h (heq ▸ List.mem_cons_self ..)
      have hrest := ih fun hmem => h (List.mem_cons_of_mem _ hmem)
      rw [unquoteToBytes.eq_3 _ _ fun _ _ _ heq _ => hc heq, hrest, List.flatMap_cons]

theorem hasBadEscape_of_notMem {s : List Char} (h : '%' ∉ s) : hasBadEscape s = false := by
  induction s with
  | nil => rfl
  | cons c rest ih =>
      have hc : (c == '%') = false := beq_eq_false_iff_ne.2 fun heq => h (heq ▸ List.mem_cons_self ..)
      rw [hasBadEscape, hc, ih fun hmem => h (List.mem_cons_of_mem _ hmem)]
      rfl

/-- A segment is safe whose bytes are digits or above the ASCII range. -/
theorem unsafeSegment_of_isNumber {s : List Char} (h : py.isNumber s = true) :
    unsafeSegment (unquoteToBytes s) = false := by
  have hplain : '%' ∉ s := fun hmem => by
    have hdecimal := Platform.isDecimal_of_isNumber h hmem
    exact absurd (py.isDigit_of_isDecimal '%' (by decide) hdecimal) (by decide)
  have hbytes : ∀ byte ∈ unquoteToBytes s,
      48 ≤ byte.toNat ∧ byte.toNat ≤ 57 ∨ 128 ≤ byte.toNat := by
    intro byte hbyte
    rw [unquoteToBytes_of_notMem hplain] at hbyte
    obtain ⟨c, hc, hmem⟩ := List.mem_flatMap.1 hbyte
    rcases Utf8.mem_utf8EncodeChar hmem with ⟨hhigh, -⟩ | hsame
    · exact .inr hhigh
    · by_cases hascii : c.val.toNat < 128
      · have hdigit := py.isDigit_of_isDecimal c hascii (Platform.isDecimal_of_isNumber h hc)
        simp only [Char.isDigit, Bool.and_eq_true, decide_eq_true_eq] at hdigit
        have hlow : 48 ≤ c.val.toNat := hdigit.1
        have hhigh : c.val.toNat ≤ 57 := hdigit.2
        exact .inl ⟨by omega, by omega⟩
      · exact .inr (by omega)
  generalize unquoteToBytes s = bytes at hbytes
  have hnot (byte : UInt8) (hbyte : byte.toNat < 48 ∨ 57 < byte.toNat ∧ byte.toNat < 128) :
      byte ∉ bytes := fun hmem => by
    have hrange := hbytes byte hmem
    omega
  have hdot : bytes ≠ [0x2E] ∧ bytes ≠ [0x2E, 0x2E] := by
    constructor <;> rintro rfl <;> exact hnot 0x2E (by decide) (List.mem_cons_self ..)
  have hcontrol : bytes.any (fun value => isControl value.toNat) = false := by
    rw [List.any_eq_false]
    intro byte hbyte hcontrol
    have hrange := hbytes byte hbyte
    simp only [isControl, Bool.or_eq_true, decide_eq_true_eq, beq_iff_eq] at hcontrol
    omega
  have hslash := hnot 0x2F (by decide)
  have hbackslash := hnot 0x5C (by decide)
  have hpercent := hnot 0x25 (by decide)
  simp [unsafeSegment, hdot, hslash, hbackslash, hpercent, hcontrol]

/-- What is built of a handle is accepted upstream. -/
theorem validateUpstreamUrl_itemUrl {full : Bool} (h : py.isHandle handle = true) :
    py.validateUpstreamUrl (itemUrl handle full) = .ok (itemUrl handle full) := by
  have hspaceless : Text.Spaceless (itemUrl handle full) := fun c hc => (itemUrl_plain h hc).1
  have hsafe : ¬(itemUrl handle full ≠ Text.strip (itemUrl handle full) ∨
      (itemUrl handle full).toList.contains '\\' = true ∨
      (itemUrl handle full).toList.any (fun c => isControl c.val.toNat) = true) := by
    rw [Text.strip_of_spaceless hspaceless]
    rintro (hne | hbackslash | hcontrol)
    · exact hne rfl
    · exact (itemUrl_plain h (List.contains_iff_mem.1 hbackslash)).2.2.1 rfl
    · obtain ⟨c, hc, hcontrol⟩ := List.any_eq_true.1 hcontrol
      obtain ⟨-, hlow, -, hdelete⟩ := itemUrl_plain h hc
      simp only [isControl, Bool.or_eq_true, decide_eq_true_eq, beq_iff_eq] at hcontrol
      omega
  obtain ⟨first, second, hhandle, hfirst, hsecond⟩ := isHandle_iff.1 h
  have hpath : (itemParts handle full).path.toList = "/handle/".toList ++ handle.toList :=
    String.toList_append
  have hescape : hasBadEscape (itemParts handle full).path.toList = false := by
    refine hasBadEscape_of_notMem fun hmem => ?_
    rw [hpath] at hmem
    rcases List.mem_append.1 hmem with hmem | hmem
    · exact absurd hmem (by decide)
    · exact (isHandle_plain h hmem).2.2.1 rfl
  have hsegments : (itemParts handle full).path.toList.splitOn '/' =
      [[], "handle".toList, first, second] := by
    have hmark : "/handle/".toList ++ handle.toList =
        [] ++ '/' :: ("handle".toList ++ '/' :: handle.toList) := rfl
    rw [hpath, hmark, List.splitOn_append_cons_self_of_not_mem (by simp),
      List.splitOn_append_cons_self_of_not_mem (by decide), splitOn_of_isHandle hhandle hfirst hsecond]
  have hcanonical : ([[], "handle".toList, first, second].any fun segment =>
      unsafeSegment (unquoteToBytes segment)) = false := by
    simp only [List.any_cons, List.any_nil, unsafeSegment_of_isNumber hfirst,
      unsafeSegment_of_isNumber hsecond]
    decide
  have hallowed : py.isAllowedPath [[], "handle".toList, first, second] = true := by
    have hhandle : String.ofList "handle".toList = "handle" := String.ofList_toList
    unfold WebPlatform.isAllowedPath
    simp only [List.map_cons, List.map_nil, hhandle, String.ofList_nil, hfirst, hsecond, Bool.and_true]
  unfold WebPlatform.validateUpstreamUrl
  rw [if_neg hsafe, urlsplit_itemUrl h]
  simp only [validateOrigin_itemParts, hescape, hsegments, hcanonical, hallowed, Bool.false_eq_true,
    if_false, if_true]

/-! ## What is read -/

/-- A text that begins with another one is that one and what follows. -/
theorem toList_of_startsWith {s start : String} (h : Text.startsWith s start = true) :
    s.toList = start.toList ++ s.toList.drop start.length := by
  obtain ⟨rest, hrest⟩ := List.isPrefixOf_iff_prefix.1 h
  rw [← hrest, ← String.length_toList, List.drop_left]

/-- A handle begins with a digit. -/
theorem startsWith_of_isHandle (h : py.isHandle value = true) :
    Text.startsWith value "/handle/" = false ∧ Text.startsWith value "https://" = false := by
  obtain ⟨first, second, hvalue, hfirst, -⟩ := isHandle_iff.1 h
  cases first with
  | nil => cases hfirst
  | cons c first =>
      simp only [Platform.isNumber, Bool.and_eq_true, decide_eq_true_eq] at hfirst
      obtain ⟨⟨hlow, hhigh⟩, -⟩ := hfirst
      have hne (other : Char) (hother : ¬('1' ≤ other ∧ other ≤ '9')) : (other == c) = false := by
        rw [beq_eq_false_iff_ne]
        rintro rfl
        exact hother ⟨hlow, hhigh⟩
      have hpath : "/handle/".toList = '/' :: "handle/".toList := by decide
      have hurl : "https://".toList = 'h' :: "ttps://".toList := by decide
      rw [Text.startsWith, Text.startsWith, hvalue, hpath, hurl, List.cons_append, List.isPrefixOf,
        List.isPrefixOf, hne '/' (by decide), hne 'h' (by decide)]
      exact ⟨rfl, rfl⟩

/-- A text does not begin as a path and as a URL. -/
theorem not_startsWith_path (h : Text.startsWith value "https://" = true) :
    Text.startsWith value "/handle/" = false := by
  have hvalue := toList_of_startsWith h
  have hurl : "https://".toList = 'h' :: "ttps://".toList := by decide
  rw [Text.startsWith, hvalue, hurl]
  rfl

theorem itemPathHandle_eq_some {path : String} :
    py.itemPathHandle path = some handle ↔ path = "/handle/" ++ handle ∧ py.isHandle handle = true := by
  constructor
  · intro h
    unfold Platform.itemPathHandle at h
    dsimp only at h
    split at h
    · next hcond =>
        rw [Bool.and_eq_true] at hcond
        rw [Option.some.injEq] at h
        rw [h] at hcond
        refine ⟨?_, hcond.2⟩
        have hlist : handle.toList = path.toList.drop "/handle/".length := by
          rw [← h]
          exact String.toList_ofList
        rw [← String.toList_inj, String.toList_append, hlist]
        exact toList_of_startsWith hcond.1
    · cases h
  · rintro ⟨rfl, h⟩
    exact itemPathHandle_of_isHandle h

/-- The query names no page but that of the item, or its full record. -/
def PlainQuery (py : UrlPlatform) (parts : SplitUrl) : Prop :=
  py.parseQs parts.query = [] ∨ py.parseQs parts.query = [("mode", ["full"])]

theorem itemHandle_eq_ok {parts : SplitUrl} : py.itemHandle parts = .ok handle ↔
    parts.path = "/handle/" ++ handle ∧ py.isHandle handle = true ∧ py.PlainQuery parts := by
  rw [← and_assoc, ← itemPathHandle_eq_some]
  unfold Platform.itemHandle PlainQuery
  cases hpath : py.itemPathHandle parts.path with
  | none => simp
  | some found =>
      dsimp only
      split
      · next hquery =>
          refine iff_of_false (fun h => by cases h) ?_
          rintro ⟨-, hnone | hfull⟩
          · exact hquery.1 hnone
          · exact hquery.2 hfull
      · next hquery =>
          have hplain : py.parseQs parts.query = [] ∨ py.parseQs parts.query = [("mode", ["full"])] := by
            tauto
          simp [hplain]

theorem itemHandle_ne_valueError {parts : SplitUrl} : py.itemHandle parts ≠ .error .valueError := by
  unfold Platform.itemHandle
  split
  · simp
  · dsimp only
    split <;> simp

/-- The text is a handle, or the path or the URL of the item of one. -/
def Denotes (py : UrlPlatform) (value handle : String) : Prop :=
  py.isHandle handle = true ∧ (Text.strip value = handle ∨
    ∃ parts, py.urlsplit (Text.strip value) = some parts ∧ parts.path = "/handle/" ++ handle ∧
      py.PlainQuery parts ∧
      (Text.startsWith (Text.strip value) "/handle/" = true ∧ parts.scheme = "" ∧ parts.netloc = "" ∨
        Text.startsWith (Text.strip value) "https://" = true ∧
          Platform.validateOrigin parts "Handle URL" = .ok ()))

/-- Splitting a path does not fail. -/
theorem isSome_urlsplit_of_path (h : Text.startsWith value "/handle/" = true) :
    ∃ parts, py.urlsplit value = some parts := by
  have hvalue := toList_of_startsWith h
  have hpath : "/handle/".toList = '/' :: 'h' :: "andle/".toList := by decide
  rw [hpath, List.cons_append, List.cons_append] at hvalue
  have hempty : py.acceptsNetloc [] = true := py.acceptsNetloc_plain [] fun c hc => by cases hc
  have hsplit : (Url.split py.acceptsNetloc value.toList).isSome = true := by
    rw [hvalue]
    exact Url.isSome_split_of_rooted (by decide) (by decide) hempty
  obtain ⟨parts, hparts⟩ := Option.isSome_iff_exists.1 hsplit
  exact ⟨splitUrl parts, by rw [py.urlsplit_eq, hparts, Option.map_some]⟩

/-- A handle is returned for the texts that denote one. -/
theorem parseHandleInput_eq_ok : py.parseHandleInput value = .ok handle ↔ py.Denotes value handle := by
  unfold Platform.parseHandleInput Denotes
  generalize Text.strip value = candidate
  dsimp only
  cases hhandle : py.isHandle candidate with
  | true =>
      obtain ⟨hpath, hurl⟩ := startsWith_of_isHandle hhandle
      rw [if_pos rfl, Except.ok.injEq, hpath, hurl]
      constructor
      · rintro rfl
        exact ⟨hhandle, .inl rfl⟩
      · rintro ⟨-, heq | ⟨parts, -, -, -, ⟨hfalse, -⟩ | ⟨hfalse, -⟩⟩⟩
        · exact heq
        · cases hfalse
        · cases hfalse
  | false =>
      have hne : py.isHandle handle = true → candidate ≠ handle := by
        rintro h rfl
        rw [hhandle] at h
        cases h
      rw [if_neg Bool.false_ne_true]
      cases hpath : Text.startsWith candidate "/handle/" with
      | true =>
          have hurl : Text.startsWith candidate "https://" = false := by
            rw [Bool.eq_false_iff]
            intro hurl
            rw [not_startsWith_path hurl] at hpath
            cases hpath
          obtain ⟨parts, hparts⟩ := @isSome_urlsplit_of_path py candidate hpath
          rw [if_pos rfl, hparts, hurl]
          dsimp only
          split
          · next hlocated =>
              refine iff_of_false (fun h => by cases h) ?_
              rintro ⟨h, heq | ⟨parts', hparts', -, -, ⟨-, hscheme, hnetloc⟩ | ⟨hfalse, -⟩⟩⟩
              · exact hne h heq
              · obtain rfl := Option.some.inj hparts'
                rcases hlocated with hlocated | hlocated
                · exact hlocated hscheme
                · exact hlocated hnetloc
              · cases hfalse
          · next hlocated =>
              rw [itemHandle_eq_ok]
              constructor
              · rintro ⟨hitem, h, hquery⟩
                exact ⟨h, .inr ⟨parts, rfl, hitem, hquery, .inl ⟨rfl, by tauto, by tauto⟩⟩⟩
              · rintro ⟨h, heq | ⟨parts', hparts', hitem, hquery, -⟩⟩
                · exact absurd heq (hne h)
                · obtain rfl := Option.some.inj hparts'
                  exact ⟨hitem, h, hquery⟩
      | false =>
          rw [if_neg Bool.false_ne_true]
          cases hurl : Text.startsWith candidate "https://" with
          | true =>
              rw [if_pos rfl]
              cases hsplit : py.urlsplit candidate with
              | none =>
                  refine iff_of_false (fun h => by cases h) ?_
                  rintro ⟨h, heq | ⟨parts, hparts, -⟩⟩
                  · exact hne h heq
                  · cases hparts
              | some parts =>
                  dsimp only
                  cases horigin : Platform.validateOrigin parts "Handle URL" with
                  | error error =>
                      refine iff_of_false (fun h => by cases h) ?_
                      rintro ⟨h, heq | ⟨parts', hparts', -, -, ⟨hfalse, -⟩ | ⟨-, hok⟩⟩⟩
                      · exact hne h heq
                      · cases hfalse
                      · obtain rfl := Option.some.inj hparts'
                        rw [horigin] at hok
                        cases hok
                  | ok _ =>
                      dsimp only
                      rw [itemHandle_eq_ok]
                      constructor
                      · rintro ⟨hitem, h, hquery⟩
                        exact ⟨h, .inr ⟨parts, rfl, hitem, hquery, .inr ⟨rfl, horigin⟩⟩⟩
                      · rintro ⟨h, heq | ⟨parts', hparts', hitem, hquery, -⟩⟩
                        · exact absurd heq (hne h)
                        · obtain rfl := Option.some.inj hparts'
                          exact ⟨hitem, h, hquery⟩
          | false =>
              rw [if_neg Bool.false_ne_true]
              refine iff_of_false (fun h => by cases h) ?_
              rintro ⟨h, heq | ⟨parts, -, -, -, ⟨hfalse, -⟩ | ⟨hfalse, -⟩⟩⟩
              · exact hne h heq
              · cases hfalse
              · cases hfalse

/-- The `ValueError` of a URL that cannot be split gets out. -/
theorem parseHandleInput_eq_valueError : py.parseHandleInput value = .error .valueError ↔
    Text.startsWith (Text.strip value) "https://" = true ∧ py.urlsplit (Text.strip value) = none := by
  unfold Platform.parseHandleInput
  generalize Text.strip value = candidate
  dsimp only
  cases hhandle : py.isHandle candidate with
  | true =>
      rw [if_pos rfl, (startsWith_of_isHandle hhandle).2]
      simp
  | false =>
      rw [if_neg Bool.false_ne_true]
      cases hpath : Text.startsWith candidate "/handle/" with
      | true =>
          obtain ⟨parts, hparts⟩ := @isSome_urlsplit_of_path py candidate hpath
          rw [if_pos rfl, hparts]
          dsimp only
          refine iff_of_false ?_ fun h => by cases h.2
          split
          · simp
          · exact itemHandle_ne_valueError
      | false =>
          rw [if_neg Bool.false_ne_true]
          cases hurl : Text.startsWith candidate "https://" with
          | true =>
              rw [if_pos rfl]
              cases hsplit : py.urlsplit candidate with
              | none => exact iff_of_true rfl ⟨rfl, rfl⟩
              | some parts =>
                  dsimp only
                  refine iff_of_false ?_ fun h => by cases h.2
                  split
                  · simp
                  · exact itemHandle_ne_valueError
          | false =>
              rw [if_neg Bool.false_ne_true]
              simp

/-- What `validate_upstream_url` looks at before it splits a URL. -/
def SafeText (value : String) : Prop :=
  ¬(value ≠ Text.strip value ∨ value.toList.contains '\\' = true ∨
    value.toList.any (fun c => isControl c.val.toNat) = true)

theorem validateUpstreamUrl_eq_valueError :
    py.validateUpstreamUrl value = .error .valueError ↔ SafeText value ∧ py.urlsplit value = none := by
  unfold WebPlatform.validateUpstreamUrl SafeText
  split
  · next hunsafe => exact iff_of_false (by simp) fun h => h.1 hunsafe
  · next hsafe =>
      cases hsplit : py.urlsplit value with
      | none => exact iff_of_true rfl ⟨hsafe, rfl⟩
      | some parts =>
          refine iff_of_false ?_ fun h => by cases h.2
          dsimp only
          cases Platform.validateOrigin parts "Upstream URL" with
          | error error => simp
          | ok _ =>
              dsimp only
              split
              · simp
              · split
                · simp
                · split <;> simp

theorem buildItemUrl_eq_error {full : Bool} {error : Raised} :
    py.buildItemUrl value full = .error error ↔ py.parseHandleInput value = .error error := by
  unfold Platform.buildItemUrl
  cases py.parseHandleInput value with
  | error other => exact Iff.rfl
  | ok handle => exact iff_of_false (fun h => by cases h) fun h => by cases h

/-! ## Agreement -/

/-- What the three functions promise of a text. -/
structure AgreesAt (py : UrlPlatform) (value : String) : Prop where
  /-- nothing but an application error is raised -/
  parse_closed : py.parseHandleInput value ≠ .error .valueError
  build_closed : ∀ full, py.buildItemUrl value full ≠ .error .valueError
  validate_closed : py.validateUpstreamUrl value ≠ .error .valueError
  /-- a handle that is returned is one that cursors and outputs take -/
  canonical : ∀ handle, py.parseHandleInput value = .ok handle →
    isCanonicalHandle handle.toList = true
  fixpoint : ∀ handle, py.parseHandleInput value = .ok handle →
    py.parseHandleInput handle = .ok handle
  roundTrip : ∀ handle full, py.parseHandleInput value = .ok handle →
    ∃ url, py.buildItemUrl handle full = .ok url ∧ py.parseHandleInput url = .ok handle
  accepted : ∀ handle, py.parseHandleInput value = .ok handle →
    ∃ url, py.buildItemUrl handle false = .ok url ∧ py.validateUpstreamUrl url = .ok url

/-- What a text needs for that: it can be split where it is taken for a URL, and a handle that it
denotes has at most 32 digits of ASCII on each side. -/
structure Admissible (py : UrlPlatform) (value : String) : Prop where
  handleUrl : Text.startsWith (Text.strip value) "https://" = true →
    (py.urlsplit (Text.strip value)).isSome = true
  upstreamUrl : SafeText value → (py.urlsplit value).isSome = true
  short : ∀ handle, py.Denotes value handle → Short handle

/-- The decimal digits of ASCII and of the Arabic script. -/
def isArabicDecimal (c : Char) : Bool := c.isDigit || (0x660 ≤ c.val.toNat && c.val.toNat ≤ 0x669)

theorem toNat_of_isArabicDecimal {c : Char} (h : isArabicDecimal c = true) :
    48 ≤ c.val.toNat ∧ c.val.toNat ≤ 57 ∨ 0x660 ≤ c.val.toNat ∧ c.val.toNat ≤ 0x669 := by
  simp only [isArabicDecimal, Char.isDigit, Bool.or_eq_true, Bool.and_eq_true, decide_eq_true_eq] at h
  rcases h with h | h
  · exact .inl ⟨UInt32.le_iff_toNat_le.1 h.1, UInt32.le_iff_toNat_le.1 h.2⟩
  · exact .inr h

/-- None of these digits is whitespace. -/
theorem isSpace_of_isArabicDecimal (c : Char) (h : isArabicDecimal c = true) :
    Text.isSpace c = false := by
  have hrange := toNat_of_isArabicDecimal h
  rw [Bool.eq_false_iff]
  intro hspace
  simp only [Text.isSpace, Bool.or_eq_true, Bool.and_eq_true, decide_eq_true_eq, beq_iff_eq] at hspace
  omega

/-- Those of them that are in ASCII are the usual ones. -/
theorem isDigit_of_isArabicDecimal (c : Char) (hascii : c.val.toNat < 128)
    (h : isArabicDecimal c = true) : c.isDigit = true := by
  have hrange := toNat_of_isArabicDecimal h
  simp only [Char.isDigit, Bool.and_eq_true, decide_eq_true_eq]
  exact ⟨UInt32.le_iff_toNat_le.2 (show 48 ≤ c.val.toNat by omega),
    UInt32.le_iff_toNat_le.2 (show c.val.toNat ≤ 57 by omega)⟩

/-- The libraries as far as texts with these digits depend on them. -/
def arabicPlatform : UrlPlatform where
  nfc := id
  isDecimal := isArabicDecimal
  urlsplit url := (Url.split (fun netloc => netloc.all fun c => c.val.toNat < 128 && c != '[')
    url.toList).map splitUrl
  parseQs query := if query = "" then [] else
    [(String.ofList (Url.partition '=' query.toList).1,
      [String.ofList ((Url.partition '=' query.toList).2.getD [])])]
  strptime _ _ := none
  isDecimal_isSpace := isSpace_of_isArabicDecimal
  isDecimal_ascii c h := by simp [isArabicDecimal, h]
  nfc_plain _ _ := rfl
  isWord c := c.isAlphanum || c == '_'
  lower s := String.ofList (s.toList.map Char.toLower)
  readInteger _ := none
  urljoin _ _ := none
  requestUrl _ _ := "https://["
  isDigit_of_isDecimal := isDigit_of_isArabicDecimal
  parseQs_requestUrl _ _ parts _ _ h := by
    have hnone : (Url.split (fun netloc => netloc.all fun c => c.val.toNat < 128 && c != '[')
      "https://[".toList).map splitUrl = none := by decide +kernel
    exact absurd (hnone.symm.trans h) (by simp)
  acceptsNetloc netloc := netloc.all fun c => c.val.toNat < 128 && c != '['
  acceptsNetloc_plain netloc h := by simpa using h
  urlsplit_eq _ := rfl
  parseQs_empty := rfl
  parseQs_mode := by decide +kernel

end UrlPlatform

end NplgMcp
