import NplgMcp.Markup.Html
import NplgMcp.Markup.Record

/-!
# Tags of a tree

What `parsers.py` uses of `BeautifulSoup`: tags with the elements around them, the search for tags in
document order, attributes and texts.
-/

open Library

namespace NplgMcp

/-- An element of the tree. -/
structure HtmlElement where
  name : String
  attrs : List (String × AttributeValue)
  contents : List (HtmlNode AttributeValue)

/-- `Tag`: an element with its place, the indices on the way to it with the last one first, and the
elements around it, the innermost one first. -/
structure Tag where
  element : HtmlElement
  path : List ℕ
  above : List HtmlElement

mutual

/-- The tags of a node at a place, in document order. -/
def HtmlNode.tagsAt (path : List ℕ) (above : List HtmlElement) :
    HtmlNode AttributeValue → List Tag
  | .text _ => []
  | .element name _ attrs contents =>
    ⟨⟨name, attrs, contents⟩, path, above⟩ ::
      HtmlNode.tagsFrom path (⟨name, attrs, contents⟩ :: above) 0 contents

/-- The tags of nodes, the first of which has the index `index`. -/
def HtmlNode.tagsFrom (path : List ℕ) (above : List HtmlElement) (index : ℕ) :
    List (HtmlNode AttributeValue) → List Tag
  | [] => []
  | node :: rest => node.tagsAt (index :: path) above ++ HtmlNode.tagsFrom path above (index + 1) rest

end

/-- The elements among nodes, the first of which has the index `index`. -/
def HtmlNode.childTags (path : List ℕ) (above : List HtmlElement) (index : ℕ) :
    List (HtmlNode AttributeValue) → List Tag
  | [] => []
  | .text _ :: rest => HtmlNode.childTags path above (index + 1) rest
  | .element name _ attrs contents :: rest =>
    ⟨⟨name, attrs, contents⟩, index :: path, above⟩ :: HtmlNode.childTags path above (index + 1) rest

/-- The elements whose texts are of a type of their own. -/
def stringContainers : List String := ["rt", "rp", "style", "script", "template"]

mutual

/-- The texts below a node that are of the type of `wanted`, in an element of the type of `around`. -/
def HtmlNode.textsIn (around wanted : Option String) : HtmlNode AttributeValue → List String
  | .text data => if around = wanted then [data] else []
  | .element name _ _ contents =>
    HtmlNode.textsOfIn (if name ∈ stringContainers then some name else around) wanted contents

@[inherit_doc HtmlNode.textsIn]
def HtmlNode.textsOfIn (around wanted : Option String) :
    List (HtmlNode AttributeValue) → List String
  | [] => []
  | node :: rest => node.textsIn around wanted ++ HtmlNode.textsOfIn around wanted rest

end

/-- How `find_all` compares an attribute with a test for strings: a list of words is tested word by
word and then as a whole. -/
def attributeMatches (test : String → Bool) : Option AttributeValue → Bool
  | none => false
  | some (.string value) => test value
  | some (.tokens values) => values.any test || (values.length != 1 && test (Text.join values))

/-- `_class_contains`. -/
def classContains (value : Option AttributeValue) (expected : String) : Bool :=
  match value with
  | none => false
  | some (.string value) => (Text.split value).contains expected
  | some (.tokens values) => values.contains expected

/-- `_class_contains` for a value that is a string. -/
def classTextContains (value expected : String) : Bool := (Text.split value).contains expected

namespace Tag

variable (tag : Tag)

/-- `tag.name`. -/
def name : String := tag.element.name

/-- `tag.get(name)`. -/
def get (name : String) : Option AttributeValue := tag.element.attrs.lookup name

/-- `tag.parent`. -/
def parent : Option Tag :=
  match tag.above, tag.path with
  | element :: above, _ :: path => some ⟨element, path, above⟩
  | _, _ => none

/-- What `tag.find_all()` goes through. -/
def descendants : List Tag :=
  HtmlNode.tagsFrom tag.path (tag.element :: tag.above) 0 tag.element.contents

/-- What `tag.find_all(recursive=False)` goes through. -/
def children : List Tag :=
  HtmlNode.childTags tag.path (tag.element :: tag.above) 0 tag.element.contents

/-- `tag.find_all(test)`. -/
def findAll (test : Tag → Bool) : List Tag := tag.descendants.filter test

/-- `tag.find_all(test, recursive=False)`. -/
def findChildren (test : Tag → Bool) : List Tag := tag.children.filter test

/-- The tag is named so. -/
def isNamed (name : String) : Bool := tag.name == name

/-- `class_=…`. -/
def hasClass (test : String → Bool) : Bool := attributeMatches test (tag.get "class")

/-- An attribute is this text. -/
def hasValue (name value : String) : Bool := attributeMatches (· == value) (tag.get name)

/-- `tag.select("ancestor descendant")`: the ancestor may be outside of the tag. -/
def select (ancestor descendant : String) : List Tag :=
  tag.findAll fun found =>
    found.isNamed descendant && found.above.any fun element => element.name == ancestor

/-- The same tag of the tree. -/
def same (other : Tag) : Bool := tag.path == other.path

/-- The type of the texts in a tag: that of the innermost element that has one of its own. -/
def textType : Option String :=
  ((tag.element :: tag.above).find? fun element => element.name ∈ stringContainers).map HtmlElement.name

/-- `tag.get_text(" ", strip=True)`. -/
def getText : String :=
  let wanted := if tag.name ∈ stringContainers then some tag.name else none
  Text.join (((HtmlNode.textsOfIn tag.textType wanted tag.element.contents).map Text.strip).filter
    (· ≠ ""))

/-- `_tag_attribute`. -/
def attributeText (name : String) : String :=
  match tag.get name with
  | some (.string value) => value
  | _ => ""

/-- `_single_token_attribute`. -/
def singleToken (name : String) : Option String :=
  let token := match tag.get name with
    | some (.string value) => some value
    | some (.tokens [value]) => some value
    | _ => none
  token.filter fun token => token ≠ "" ∧ token = Text.strip token ∧ (Text.split token).length = 1

end Tag

/-- `_tag_text`. -/
def Platform.tagText (py : Platform) (tag : Tag) : String := py.normalize tag.getText

/-- The document as a tag. -/
def documentTag (soup : HtmlNode AttributeValue) : Tag :=
  match soup with
  | .text data => ⟨⟨"[document]", [], [.text data]⟩, [], []⟩
  | .element name _ attrs contents => ⟨⟨name, attrs, contents⟩, [], []⟩

end NplgMcp
