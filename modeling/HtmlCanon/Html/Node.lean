import HtmlCanon.Text

/-!
# Nodes of a page

A page is a forest of nodes: texts, comments, doctypes and elements. An element has a tag, the
nodes below it and, when it is a template, content of its own that is kept apart from them.
-/

namespace HtmlCanon.Html

/-- The vocabulary that gives an element its meaning. -/
inductive Vocabulary where
  | html | mathml | svg
  deriving DecidableEq, Repr

/-- The namespace URL of a vocabulary. -/
def Vocabulary.url : Vocabulary → String
  | .html => "http://www.w3.org/1999/xhtml"
  | .mathml => "http://www.w3.org/1998/Math/MathML"
  | .svg => "http://www.w3.org/2000/svg"

/-- Namespace URLs tell vocabularies apart, so an element holds the vocabulary in place of the URL. -/
@[simp] theorem Vocabulary.url_inj {v w : Vocabulary} : v.url = w.url ↔ v = w := by
  cases v <;> cases w <;> decide

/-- The namespace of an attribute, in the order of the namespace URLs. -/
inductive AttrSpace where
  | plain | xlink | xmlns | xml
  deriving DecidableEq, Repr

/-- The place of a namespace in the order of attributes. -/
def AttrSpace.rank : AttrSpace → Nat
  | .plain => 0
  | .xlink => 1
  | .xmlns => 2
  | .xml => 3

/-- An attribute of an element. -/
structure Attr where
  space : AttrSpace
  name : String
  value : Text
  deriving DecidableEq, Repr

namespace Attr

/-- The letters that stand for the namespace of the attribute, if it has one. The attribute that
declares a namespace has empty ones. -/
def qualifier? (a : Attr) : Option String :=
  match a.space with
  | .plain => none
  | .xlink => some "xlink"
  | .xml => some "xml"
  | .xmlns => some (if a.name = "xmlns" then "" else "xmlns")

/-- The full name: the qualifier, a colon and the name. -/
def label (a : Attr) : String :=
  match a.qualifier? with
  | none => a.name
  | some q => q ++ ":" ++ a.name

/-- The name in markup, which has no colon after an empty qualifier. -/
def markupName (a : Attr) : String := if a.qualifier? = some "" then a.name else a.label

/-- Two attributes of the same name in the same namespace. -/
def sameName (a b : Attr) : Bool := a.space == b.space && a.name == b.name

/-- The order in which an element keeps its attributes: by namespace, then by name. -/
def before (a b : Attr) : Bool :=
  a.space.rank < b.space.rank || (a.space.rank == b.space.rank && a.name < b.name)

/-- Adds an attribute at its place, unless its name is taken. -/
def insert (a : Attr) : List Attr → List Attr
  | [] => [a]
  | b :: bs =>
    if a.sameName b then b :: bs
    else if a.before b then a :: b :: bs
    else b :: insert a bs

/-- Attributes in order; of two with one name the first stays. -/
def sort (as : List Attr) : List Attr := as.foldl (fun acc a => insert a acc) []

end Attr

/-- What the start tag of an element says. -/
structure Tag where
  space : Vocabulary
  name : String
  attrs : List Attr
  deriving DecidableEq, Repr

namespace Tag

/-- A tag of the HTML vocabulary without attributes. -/
def plain (name : String) : Tag := ⟨.html, name, []⟩

/-- The value of an attribute in no namespace. -/
def attr? (t : Tag) (name : String) : Option Text :=
  (t.attrs.find? fun a => a.space == .plain && a.name == name).map Attr.value

/-- Gives an attribute in no namespace a new value. -/
def setAttr (t : Tag) (name : String) (value : Text) : Tag :=
  { t with attrs := t.attrs.map fun a =>
      if a.space == .plain && a.name == name then { a with value } else a }

/-- Takes an attribute in no namespace away. -/
def eraseAttr (t : Tag) (name : String) : Tag :=
  { t with attrs := t.attrs.filter fun a => !(a.space == .plain && a.name == name) }

/-- The tag of a template, the one kind of element that has content of its own. -/
def isTemplate (t : Tag) : Bool := t.space == .html && t.name == "template"

end Tag

/-- A document type declaration. An identifier that is not given is empty. -/
structure Doctype where
  name : Text
  publicId : Text
  systemId : Text
  deriving DecidableEq, Repr

/-- A node. The `content` of an element that is no template is empty. -/
inductive Node where
  | text (data : Text)
  | comment (data : Text)
  | doctype (d : Doctype)
  | element (tag : Tag) (content children : List Node)
  deriving Repr

namespace Node

/-- The nodes directly below a node. -/
def children : Node → List Node
  | element _ _ ns => ns
  | _ => []

/-- The tag of an element. -/
def tag? : Node → Option Tag
  | element t _ _ => some t
  | _ => none

/-- The characters of a text node. -/
def text? : Node → Option Text
  | text d => some d
  | _ => none

/-- Whether a node is an element. -/
def isElement : Node → Bool
  | element .. => true
  | _ => false

/-- Whether a node is a text. -/
def isText : Node → Bool
  | text _ => true
  | _ => false

/-- An element without attributes above the given nodes. -/
def wrapper (name : String) (ns : List Node) : Node := element (Tag.plain name) [] ns

/-- Changes the tag of an element. -/
def mapTag (f : Tag → Tag) : Node → Node
  | element t c ns => element (f t) c ns
  | n => n

mutual

/-- Changes every text at or below a node; template content is left alone. -/
def mapText (f : Text → Text) : Node → Node
  | text d => text (f d)
  | comment d => comment d
  | doctype d => doctype d
  | element t c ns => element t c (mapTexts f ns)

/-- Changes every text of a forest; template content is left alone. -/
def mapTexts (f : Text → Text) : List Node → List Node
  | [] => []
  | n :: ns => mapText f n :: mapTexts f ns

end

mutual

/-- The texts at or below a node, in document order. -/
def texts : Node → List Text
  | text d => [d]
  | comment _ => []
  | doctype _ => []
  | element _ _ ns => forestTexts ns

/-- The texts of a forest, in document order. -/
def forestTexts : List Node → List Text
  | [] => []
  | n :: ns => texts n ++ forestTexts ns

end

end Node

end HtmlCanon.Html
