import NplgMcp.Security

/-!
# Document records

`DocumentRecord` of `parsers.py` and how it is made of the metadata fields that were read.
-/

open Library

namespace NplgMcp

/-- `RawMetadataField`. -/
structure RawMetadataField where
  key : String
  value : String
  language : Option String := none
  deriving DecidableEq, Repr

/-- `Bitstream`. -/
structure Bitstream where
  bitstreamId : String
  handle : String
  filename : String
  sourceUrl : String
  reportedSize : Option ℕ := none
  reportedFormat : Option String := none
  description : Option String := none
  accessStatus : String := "public"
  deriving DecidableEq, Repr

/-- `DocumentRecord`. -/
structure DocumentRecord where
  handle : String
  canonicalUrl : String
  title : String
  issueDate : Option String := none
  creators : List String := []
  contributors : List String := []
  publishers : List String := []
  descriptions : List String := []
  subjects : List String := []
  languages : List String := []
  identifiers : List String := []
  rights : List String := []
  owners : List String := []
  collections : List String := []
  types : List String := []
  rawFields : List RawMetadataField := []
  bitstreams : List Bitstream := []
  restricted : Bool := false
  restrictionReason : Option String := none
  metadataSource : String := "xmlui_summary"
  deriving DecidableEq, Repr

/-- `_RecordContext`. -/
structure RecordContext where
  metadataSource : String
  collections : List String := []
  bitstreams : List Bitstream := []
  restricted : Bool := false
  restrictionReason : Option String := none
  fallbackTitle : Option String := none
  deriving DecidableEq, Repr

/-- The name under which the repository lists an item. -/
def oaiIdentifier (handle : String) : String := "oai:" ++ nplgHost ++ ":" ++ handle

namespace Platform

variable (py : Platform)

/-- `_normalize`. -/
def normalize (value : String) : String :=
  Text.strip (py.nfc (Text.join (Text.split value)))

/-- `_unique`: the normalized values, without blank ones, dashes and repetitions. -/
def unique (values : List String) : List String :=
  (values.foldl (fun result value =>
    let normalized := py.normalize value
    if normalized = "" ∨ normalized ∈ result ∨ normalized = "-" then result
    else result ++ [normalized]) [])

/-- `_normalize_date`. -/
def normalizeDate (value : Option String) : Option String :=
  value.bind fun value =>
    let normalized := py.normalize value
    if normalized = "" ∨ normalized = "-" then none
    else
      some (((["%d-%b-%Y", "%Y-%m-%d", "%Y-%m-%dT%H:%M:%SZ"]).findSome?
        fun format => py.strptime normalized format).getD normalized)

/-- `_field_values`. -/
def fieldValues (fields : List RawMetadataField) (keys prefixes : List String) : List String :=
  py.unique ((fields.filter fun field =>
    keys.contains field.key || prefixes.any (Text.startsWith field.key)).map RawMetadataField.value)

/-- The title of a record: the first one there is, or else the handle. -/
def recordTitle (handle : String) (fields : List RawMetadataField) (context : RecordContext) :
    String :=
  match py.fieldValues fields ["dc.title"] [] with
  | title :: _ => title
  | [] =>
    let fallback := py.normalize (context.fallbackTitle.getD "")
    if fallback = "" then handle else fallback

/-- `_record_from_fields`. -/
def recordFromFields (handle : String) (fields : List RawMetadataField) (context : RecordContext) :
    DocumentRecord where
  handle := handle
  canonicalUrl := nplgOrigin ++ "/handle/" ++ handle
  title := py.recordTitle handle fields context
  issueDate := py.normalizeDate (py.fieldValues fields ["dc.date.issued"] []).head?
  creators := py.fieldValues fields ["dc.creator"] []
  contributors := py.fieldValues fields [] ["dc.contributor"]
  publishers := py.fieldValues fields ["dc.publisher"] []
  descriptions := py.fieldValues fields ["dc.description"] ["dc.description."]
  subjects := py.fieldValues fields ["dc.subject"] ["dc.subject."]
  languages := py.fieldValues fields ["dc.language", "dc.language.iso"] ["dc.language."]
  identifiers := py.fieldValues fields ["dc.identifier"] ["dc.identifier."]
  rights := py.fieldValues fields ["dc.rights"] ["dc.rights."]
  owners := py.fieldValues fields ["dc.rights.holder"] []
  collections := context.collections
  types := py.fieldValues fields ["dc.type"] ["dc.type."]
  rawFields := fields
  bitstreams := context.bitstreams
  restricted := context.restricted
  restrictionReason := context.restrictionReason
  metadataSource := context.metadataSource

variable {py} {handle : String}

/-- The name of an item is normalized as it is. -/
theorem normalize_oaiIdentifier (h : py.isHandle handle = true) :
    py.normalize (oaiIdentifier handle) = oaiIdentifier handle := by
  have hplain : ("oai:" ++ nplgHost ++ ":").toList.all
      (fun c => c.val.toNat < 128 && !Text.isSpace c) = true := by
    decide
  have hhost : ∀ c ∈ ("oai:" ++ nplgHost ++ ":").toList,
      c.val.toNat < 128 ∧ Text.isSpace c = false := by
    intro c hc
    simpa using List.all_eq_true.1 hplain c hc
  have hchars : ∀ c ∈ (oaiIdentifier handle).toList,
      (c.val.toNat < 128 ∨ py.isDecimal c = true) ∧ Text.isSpace c = false := by
    intro c hc
    rw [oaiIdentifier, String.toList_append] at hc
    rcases List.mem_append.1 hc with hc | hc
    · exact ⟨.inl (hhost c hc).1, (hhost c hc).2⟩
    · rcases isDecimal_or_slash_of_isHandle h hc with rfl | hdecimal
      · exact ⟨.inl (by decide), by decide⟩
      · exact ⟨.inr hdecimal, py.isDecimal_isSpace c hdecimal⟩
  have hspaceless : Text.Spaceless (oaiIdentifier handle) := fun c hc => (hchars c hc).2
  have hne : oaiIdentifier handle ≠ "" := by
    simp [oaiIdentifier]
  rw [normalize, Text.split_of_spaceless hspaceless hne, Text.join_singleton,
    py.nfc_plain _ fun c hc => (hchars c hc).1, Text.strip_of_spaceless hspaceless]

end Platform

end NplgMcp
