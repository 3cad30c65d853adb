import NplgMcp.Markup.Record
import NplgMcp.Markup.Xml

/-!
# OAI-PMH records

`parse_oai_record` of `parsers.py`. Elements are compared by identity there, so they come here with
the place they have in the tree.
-/

open Library

namespace NplgMcp

/-! ## Elements and their places -/

/-- An element and its place: which child it is, of which child, and so on up to the root. -/
structure XmlNode where
  path : List ℕ
  element : XmlElement

mutual

/-- `element.iter()`: the element and all below it, in document order. -/
def XmlElement.iterAt (path : List ℕ) : XmlElement → List XmlNode
  | .mk tag attrib text children tail =>
    ⟨path, .mk tag attrib text children tail⟩ :: XmlElement.iterFrom path 0 children

/-- The elements of a list of children, from that with the given index on. -/
def XmlElement.iterFrom (path : List ℕ) (index : ℕ) : List XmlElement → List XmlNode
  | [] => []
  | child :: rest => child.iterAt (index :: path) ++ XmlElement.iterFrom path (index + 1) rest

end

/-- The children of an element whose first one has the given index, with their places. -/
def XmlElement.placed (path : List ℕ) (index : ℕ) : List XmlElement → List XmlNode
  | [] => []
  | child :: rest => ⟨index :: path, child⟩ :: XmlElement.placed path (index + 1) rest

namespace XmlNode

/-- `node.iter()`. -/
def iter (node : XmlNode) : List XmlNode := node.element.iterAt node.path

/-- The children. -/
def children (node : XmlNode) : List XmlNode := XmlElement.placed node.path 0 node.element.children

/-- `_local_name(node.tag)`. -/
def name (node : XmlNode) : String := localName node.element.tag

end XmlNode

/-! ## The record -/

/-- `_OAI_NAMESPACE`. -/
def oaiNamespace : String := "http://www.openarchives.org/OAI/2.0/"

/-- A tag of the namespace. -/
def oaiTag (name : String) : String := "\x7b" ++ oaiNamespace ++ "\x7d" ++ name

/-- What is raised where an element of the contract is not where it belongs. -/
def ownershipFailure : AppError :=
  upstreamFailure "The OAI-PMH response had invalid contract marker structural ownership."

/-- The child has the tag that is required, or if none is, the name. -/
def XmlNode.isAsked (name : String) (requiredTag : Option String) (child : XmlNode) : Bool :=
  match requiredTag with
  | some tag => child.element.tag == tag
  | none => child.name == name

/-- `_require_exact_owned_child`. -/
def requireExactOwnedChild (scope owner : XmlNode) (name : String)
    (requiredTag : Option String := none) : Except AppError XmlNode :=
  let direct := owner.children.filter (XmlNode.isAsked name requiredTag)
  let found := scope.iter.filter (·.name == name)
  match direct, found with
  | [child], [other] => if child.path = other.path then .ok child else .error ownershipFailure
  | _, _ => .error ownershipFailure

/-- `_raise_for_oai_error`. -/
def raiseForOaiError (root : XmlNode) : Except AppError Unit :=
  match root.iter.find? (·.name == "error") with
  | none => .ok ()
  | some error => .error
      { code := .upstreamFailure
        message := "The repository could not return the requested OAI-PMH record."
        httpStatus := 502
        safeDetails := some [("oai_error", (error.element.attrib.lookup "code").getD "unknown")] }

namespace Platform

variable (py : Platform)

/-- `_validate_oai_identifier`. -/
def validateOaiIdentifier (identifier : XmlNode) (expected : String) : Except AppError Unit :=
  if identifier.element.text = "" then
    .error (upstreamFailure "The OAI-PMH record did not contain an identifier.")
  else if py.normalize identifier.element.text ≠ oaiIdentifier expected then
    .error (upstreamFailure "The OAI-PMH record did not match the requested handle.")
  else .ok ()

/-- One turn of the loop of `_dim_fields` and `_dc_fields`: the field that `read` finds in the
element is added, up to the limit. -/
def collectField (read : XmlElement → Option RawMetadataField) (fields : List RawMetadataField)
    (node : XmlNode) : Except AppError (List RawMetadataField) :=
  match read node.element with
  | none => .ok fields
  | some field =>
    if fields.length ≥ parserLimits.maxMetadataFields then
      .error (upstreamFailure "The OAI-PMH record exceeded the metadata field limit.")
    else .ok (fields ++ [field])

/-- The loop. -/
def collectFields (read : XmlElement → Option RawMetadataField) (elements : List XmlNode) :
    Except AppError (List RawMetadataField) :=
  elements.foldlM (collectField read) []

/-- A `field` element of a DIM record: its key is made of the schema, the element and the qualifier;
one without an element or without a value is passed over. -/
def dimField (element : XmlElement) : Option RawMetadataField :=
  let schema := (element.attrib.lookup "mdschema").getD "dc"
  let fieldElement := (element.attrib.lookup "element").getD ""
  let qualifier := (element.attrib.lookup "qualifier").getD ""
  let value := py.normalize element.text
  if fieldElement = "" then none
  else if value = "" then none
  else some
    { key := schema ++ "." ++ fieldElement ++ (if qualifier = "" then "" else "." ++ qualifier)
      value := value
      language := element.attrib.lookup "lang" }

/-- An element of a Dublin Core record; one without a value is passed over. -/
def dcField (element : XmlElement) : Option RawMetadataField :=
  let value := py.normalize element.text
  if value = "" then none
  else some
    { key := "dc." ++ localName element.tag
      value := value
      language := element.attrib.lookup "\x7bhttp://www.w3.org/XML/1998/namespace\x7dlang" }

/-- `_dim_fields`. -/
def dimFields (record metadata : XmlNode) : Except AppError (List RawMetadataField) := do
  let container ← requireExactOwnedChild record metadata "dim"
  if metadata.children.length ≠ 1 then
    throw (upstreamFailure "The OAI-PMH response had invalid DIM metadata ownership.")
  let approved := container.children.filter (·.name == "field")
  let discovered := record.iter.filter (·.name == "field")
  if approved.length ≠ container.children.length ∨
      approved.map XmlNode.path ≠ discovered.map XmlNode.path then
    throw (upstreamFailure "The OAI-PMH response had invalid DIM field ownership.")
  collectFields py.dimField approved

/-- `_dc_fields`. -/
def dcFields (record metadata : XmlNode) : Except AppError (List RawMetadataField) := do
  let container ← requireExactOwnedChild record metadata "dc"
  if metadata.children.length ≠ 1 ∨
      container.children.any (fun child => child.children.length ≠ 0) then
    throw (upstreamFailure "The OAI-PMH response had invalid Dublin Core field ownership.")
  collectFields py.dcField container.children

/-- `_oai_fields`. -/
def oaiFields (record metadata : XmlNode) (metadataPrefix : String) :
    Except AppError (List RawMetadataField × String) :=
  let stripped := Text.strip metadataPrefix
  if stripped = "dim" then do return (← py.dimFields record metadata, "oai_dim")
  else if stripped = "oai_dc" then do return (← py.dcFields record metadata, "oai_dc")
  else .error
    { invalid "Unsupported OAI-PMH metadata format." with
      safeDetails := some [("metadata_prefix", stripped)] }

/-- The children a record may have. -/
def recordTags : List String := [oaiTag "header", oaiTag "metadata", oaiTag "about"]

/-- The children a header may have. -/
def headerTags : List String := [oaiTag "identifier", oaiTag "datestamp", oaiTag "setSpec"]

/-- What `parse_oai_record` does with the record once its header and its metadata are found. -/
def readLocatedRecord (record header metadata : XmlNode) (expected metadataPrefix : String) :
    Except AppError DocumentRecord := do
  let identifier ← requireExactOwnedChild record header "identifier" (some (oaiTag "identifier"))
  if record.children.any (fun child => !recordTags.contains child.element.tag) ∨
      header.children.any (fun child => !headerTags.contains child.element.tag) then
    throw (upstreamFailure "The OAI-PMH response had invalid record child ownership.")
  py.validateOaiIdentifier identifier expected
  let (fields, source) ← py.oaiFields record metadata metadataPrefix
  if fields = [] then
    throw (upstreamFailure "The OAI-PMH record did not contain usable metadata fields.")
  return py.recordFromFields expected fields { metadataSource := source }

/-- What `parse_oai_record` does with the tree. -/
def readOaiRecord (root : XmlNode) (expected metadataPrefix : String) :
    Except AppError DocumentRecord := do
  raiseForOaiError root
  if root.element.tag ≠ oaiTag "OAI-PMH" then
    throw (upstreamFailure "The OAI-PMH response had an invalid root element.")
  let getRecord ← requireExactOwnedChild root root "GetRecord" (some (oaiTag "GetRecord"))
  let record ← requireExactOwnedChild root getRecord "record" (some (oaiTag "record"))
  let header ← requireExactOwnedChild record record "header" (some (oaiTag "header"))
  let metadata ← requireExactOwnedChild record record "metadata" (some (oaiTag "metadata"))
  py.readLocatedRecord record header metadata expected metadataPrefix

/-- `parse_oai_record`. -/
def parseOaiRecord (document : XmlDocument) (sizes : List ℕ) (expired : ℕ → Bool)
    (expectedHandle metadataPrefix : String) : Except Raised DocumentRecord := do
  let expected ← py.parseHandleInput expectedHandle
  let root ← (parseXml document sizes expired).mapError Raised.app
  (py.readOaiRecord ⟨[], root⟩ expected metadataPrefix).mapError Raised.app

end Platform

end NplgMcp
