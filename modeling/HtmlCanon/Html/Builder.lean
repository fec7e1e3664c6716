import HtmlCanon.Html.Arena
import HtmlCanon.Html.Foreign
import HtmlCanon.Html.TagSets

/-!
# The state of tree construction

While the tokens of a page come in, the builder keeps the elements that are still open, the
formatting elements that wait to be reopened, and the insertion mode that says what may come next.
-/

namespace HtmlCanon.Html

/-- What the builder expects next. -/
inductive InsertionMode where
  | initial | beforeHtml | beforeHead | inHead | afterHead | inBody | text | inTable | inTableText
  | inCaption | inColumnGroup | inTableBody | inRow | inCell | inSelect | inSelectInTable
  | inTemplate | afterBody | inFrameset | afterFrameset | afterAfterBody | afterAfterFrameset
  deriving DecidableEq, Repr

/-- An entry of the list of formatting elements. -/
inductive Formatting where
  | marker
  | element (id : NodeId) (tag : StartTag)

/-- The state of tree construction. The stack and the formatting elements come latest first. -/
structure Builder where
  arena : Arena
  mode : InsertionMode
  /-- The mode to go back to after text. -/
  resume : InsertionMode
  templateModes : List InsertionMode
  stack : List NodeId
  formatting : List Formatting
  head : Option NodeId
  form : Option NodeId
  framesetOk : Bool
  /-- The page is legacy markup. -/
  legacy : Bool
  /-- A line feed that comes next is dropped. -/
  skipNewline : Bool
  /-- Misplaced content goes before the table. -/
  fostering : Bool
  /-- How many tokens were placed that way. -/
  fostered : Nat
  tableText : List Text
  /-- How the input is to be read on. -/
  reading : ReadingMode

/-- A step of tree construction. -/
abbrev Build := StateM Builder

namespace Builder

/-- The state before the first token. -/
def start : Builder where
  arena := Arena.new
  mode := .initial
  resume := .initial
  templateModes := []
  stack := []
  formatting := []
  head := none
  form := none
  framesetOk := true
  legacy := false
  skipNewline := false
  fostering := false
  fostered := 0
  tableText := []
  reading := .markup

/-- The tag of a node, if it is an element. -/
def tag? (b : Builder) (i : NodeId) : Option Tag := b.arena.tag? i

/-- Whether a node is an element with a tag that satisfies `p`. -/
def hasTag (b : Builder) (p : Tag → Bool) (i : NodeId) : Bool := (b.tag? i).any p

/-- The current node: the latest element on the stack. -/
def current? (b : Builder) : Option NodeId := b.stack.head?

/-- Whether the tag of the current node satisfies `p`. -/
def currentIs (b : Builder) (p : Tag → Bool) : Bool := b.current?.any (b.hasTag p)

/-- Whether the current node is an HTML element of a name. -/
def currentNamed (b : Builder) (name : String) : Bool := b.currentIs (·.isHtml [name])

/-- Whether an HTML element of a name is open. -/
def isOpen (b : Builder) (name : String) : Bool := b.stack.any (b.hasTag (·.isHtml [name]))

/-- Whether an open element satisfies `p` before the bounds of a scope are met. -/
def inScope (b : Builder) (bounds : Tag → Bool) (p : NodeId → Bool) : Bool :=
  match b.stack.find? fun i => p i || b.hasTag bounds i with
  | some i => p i
  | none => false

/-- Whether an HTML element of a name is in a scope. -/
def inScopeNamed (b : Builder) (bounds : Tag → Bool) (name : String) : Bool :=
  b.inScope bounds (b.hasTag (·.isHtml [name]))

/-- The body element, if the page has one that is open. -/
def body? (b : Builder) : Option NodeId :=
  match b.stack.reverse with
  | _ :: i :: _ => if b.hasTag (·.isHtml ["body"]) i then some i else none
  | _ => none

/-! ### Places -/

/-- Where a node can be put. -/
inductive Place where
  | last (parent : NodeId)
  | before (table above : NodeId)

/-- The place for content that is misplaced in a table: before the innermost table. -/
def fosterPlace (b : Builder) : List NodeId → Option Place
  | [] => b.stack.getLast?.map .last
  | i :: rest =>
    if b.hasTag (·.isTemplate) i then (b.arena.content? i).map .last
    else if b.hasTag (·.isHtml ["table"]) i then rest.head?.map (.before i)
    else fosterPlace b rest

/-- The place for a new node below a target. -/
def placeBelow (b : Builder) (target : NodeId) : Place :=
  if b.fostering && b.hasTag Tag.isTablePart target then
    (b.fosterPlace b.stack).getD (.last target)
  else .last ((b.arena.content? target).getD target)

/-- The place for a new node. -/
def place (b : Builder) : Place := b.placeBelow (b.current?.getD 0)

end Builder

namespace Arena

/-- Puts a node at a place. A table that stands nowhere leaves its content to the element above. -/
def put (a : Arena) (p : Builder.Place) (i : NodeId) : Arena :=
  match p with
  | .last parent => a.append parent i
  | .before table above =>
    if (a.parent? table).isSome then a.insertBefore table i else a.append above i

/-- Puts characters at a place. -/
def putText (a : Arena) (p : Builder.Place) (t : Text) : Arena :=
  match p with
  | .last parent => a.appendText parent t
  | .before table above =>
    if (a.parent? table).isSome then a.insertTextBefore table t else a.appendText above t

end Arena

namespace Build

open Builder

/-- Changes the arena. -/
def arena (f : Arena → Arena) : Build Unit := modify fun b => { b with arena := f b.arena }

/-- Puts characters at the current place. -/
def text (t : Text) : Build Unit := do
  let b ← get
  arena (·.putText b.place t)

/-- Puts a comment below a node. -/
def commentIn (parent : NodeId) (t : Text) : Build Unit :=
  arena fun a =>
    let (a, i) := a.add (.comment t)
    a.append parent i

/-- Puts a comment at the current place. -/
def comment (t : Text) : Build Unit := do
  let b ← get
  arena fun a =>
    let (a, i) := a.add (.comment t)
    a.put b.place i

/-- Makes an element that stands nowhere yet. -/
def element (t : Tag) : Build NodeId := do
  let b ← get
  let (a, i) := b.arena.addElement t
  set { b with arena := a }
  return i

/-- Opens an element. -/
def push (i : NodeId) : Build Unit := modify fun b => { b with stack := i :: b.stack }

/-- Closes the current node. -/
def pop : Build Unit := modify fun b => { b with stack := b.stack.tail }

/-- Takes an element out of the stack. -/
def unstack (i : NodeId) : Build Unit :=
  modify fun b => { b with stack := b.stack.filter (· != i) }

/-- Puts a new element at the current place without opening it. -/
def insertClosed (t : Tag) : Build NodeId := do
  let b ← get
  let i ← element t
  arena (·.put b.place i)
  return i

/-- Puts a new element at the current place and opens it. -/
def insert (t : Tag) : Build NodeId := do
  let i ← insertClosed t
  push i
  return i

/-- The tag of an HTML element with the attributes of a start tag. -/
def htmlTag (t : StartTag) : Tag := Foreign.tag .html t

/-- Opens the HTML element of a start tag. -/
def insertFor (t : StartTag) : Build Unit := discard (insert (htmlTag t))

/-- Puts the HTML element of a start tag, which never has content. -/
def insertVoid (t : StartTag) : Build Unit := discard (insertClosed (htmlTag t))

/-- Opens an HTML element that no tag asked for. -/
def insertImplied (name : String) : Build Unit := discard (insert (Tag.plain name))

/-- Sets the insertion mode. -/
def mode (m : InsertionMode) : Build Unit := modify fun b => { b with mode := m }

/-- Content that rules out a frameset was met. -/
def noFrameset : Build Unit := modify fun b => { b with framesetOk := false }

/-- Opens an element whose content is text, to be read in its own way. -/
def insertTextual (t : StartTag) (r : ReadingMode) : Build Unit := do
  insertFor t
  modify fun b => { b with resume := b.mode, mode := .text, reading := r }

/-- Closes elements up to one that satisfies `p`, which stays open. -/
def popTo (p : Tag → Bool) : Build Unit :=
  modify fun b => { b with stack := b.stack.dropWhile fun i => !b.hasTag p i }

/-- Closes elements up to and including one that satisfies `p`. -/
def popThrough (p : Tag → Bool) : Build Unit := do
  popTo p
  pop

/-- Closes elements up to and including an HTML element of a name. -/
def popThroughNamed (name : String) : Build Unit := popThrough (·.isHtml [name])

/-- Closes the elements at the end of the stack that satisfy `p`. -/
def closeImplied (p : Tag → Bool) : Build Unit := popTo fun t => !p t

/-- Closes the elements whose end tag may be left out, but for one name. -/
def closeImpliedBut (name : String) : Build Unit :=
  closeImplied fun t => t.isImplied && t.name != name

/-- Closes an open paragraph. -/
def closeParagraph : Build Unit := do
  closeImpliedBut "p"
  popThroughNamed "p"

/-- Closes a paragraph if one is in scope. -/
def closeParagraphInScope : Build Unit := do
  if (← get).inScopeNamed Tag.boundsButtonScope "p" then closeParagraph

/-- Forgets the formatting elements since the last marker, and the marker. -/
def clearFormatting : Build Unit :=
  modify fun b => { b with
    formatting := (b.formatting.dropWhile fun
      | .marker => false
      | _ => true).tail }

/-- Adds a marker to the formatting elements. -/
def markFormatting : Build Unit := modify fun b => { b with formatting := .marker :: b.formatting }

/-- Closes the cell that is open. -/
def closeCell : Build Unit := do
  closeImplied Tag.isImplied
  popThrough Tag.isCell
  clearFormatting

/-- The insertion mode that the open elements ask for, from the latest to the first. -/
def modeFor (b : Builder) : List NodeId → InsertionMode
  | [] => .inBody
  | i :: rest =>
    match b.tag? i with
    | some ⟨.html, name, _⟩ =>
      let isLast := rest.isEmpty
      if name == "select" then
        match rest.find? fun j => b.hasTag (·.isHtml ["template", "table"]) j with
        | some j => if b.hasTag (·.isHtml ["table"]) j then .inSelectInTable else .inSelect
        | none => .inSelect
      else if name ∈ ["td", "th"] && !isLast then .inCell
      else if name == "tr" then .inRow
      else if name ∈ ["tbody", "thead", "tfoot"] then .inTableBody
      else if name == "caption" then .inCaption
      else if name == "colgroup" then .inColumnGroup
      else if name == "table" then .inTable
      else if name == "template" then b.templateModes.head?.getD .inBody
      else if name == "head" && !isLast then .inHead
      else if name == "body" then .inBody
      else if name == "frameset" then .inFrameset
      else if name == "html" then if b.head.isSome then .afterHead else .beforeHead
      else modeFor b rest
    | _ => modeFor b rest

/-- Sets the insertion mode that the open elements ask for. -/
def resetMode : Build Unit := modify fun b => { b with mode := modeFor b b.stack }

end Build

end HtmlCanon.Html
