import HtmlCanon.Html.Node

/-!
# Trees under construction

While a page is read its nodes move about, so they are kept by number in an arena, each with the
numbers of its parent and children. A finished arena is turned into a forest.
-/

namespace HtmlCanon.Html

/-- The number of a node in an arena. -/
abbrev NodeId := Nat

/-- What a node of an arena is. A root stands for a document or for the content of a template. -/
inductive Payload where
  | root
  | text (t : Text)
  | comment (t : Text)
  | doctype (d : Doctype)
  | element (tag : Tag) (content : Option NodeId)

/-- A node of an arena. -/
structure Cell where
  payload : Payload
  parent : Option NodeId
  kids : List NodeId

/-- Nodes by number. -/
structure Arena where
  cells : Array Cell

namespace Arena

/-- The arena that holds a document only, as node 0. -/
def new : Arena := ⟨#[⟨.root, none, []⟩]⟩

/-- The children of a node. -/
def kids (a : Arena) (i : NodeId) : List NodeId := (a.cells[i]?.map Cell.kids).getD []

/-- The parent of a node. -/
def parent? (a : Arena) (i : NodeId) : Option NodeId := a.cells[i]?.bind Cell.parent

/-- The tag of an element. -/
def tag? (a : Arena) (i : NodeId) : Option Tag :=
  match a.cells[i]?.map Cell.payload with
  | some (.element t _) => some t
  | _ => none

/-- The root of the content of a template. -/
def content? (a : Arena) (i : NodeId) : Option NodeId :=
  match a.cells[i]?.map Cell.payload with
  | some (.element _ c) => c
  | _ => none

/-- Changes a node. -/
def modify (a : Arena) (i : NodeId) (f : Cell → Cell) : Arena := ⟨a.cells.modify i f⟩

/-- Adds a node that stands nowhere yet. -/
def add (a : Arena) (p : Payload) : Arena × NodeId :=
  (⟨a.cells.push ⟨p, none, []⟩⟩, a.cells.size)

/-- Adds an element that stands nowhere yet, with a root for its content if it is a template. -/
def addElement (a : Arena) (t : Tag) : Arena × NodeId :=
  if t.isTemplate then
    let (a, c) := a.add .root
    a.add (.element t (some c))
  else a.add (.element t none)

/-- Takes a node from its parent. -/
def detach (a : Arena) (i : NodeId) : Arena :=
  match a.parent? i with
  | none => a
  | some p =>
    (a.modify p fun c => { c with kids := c.kids.filter (· != i) }).modify i
      fun c => { c with parent := none }

/-- Makes a node the last child of another. -/
def append (a : Arena) (p i : NodeId) : Arena :=
  ((a.detach i).modify p fun c => { c with kids := c.kids ++ [i] }).modify i
    fun c => { c with parent := some p }

/-- Puts a node before a sibling. -/
def insertBefore (a : Arena) (sibling i : NodeId) : Arena :=
  match (a.detach i).parent? sibling with
  | none => a
  | some p =>
    ((a.detach i).modify p fun c =>
      { c with kids := c.kids.flatMap fun k => if k == sibling then [i, k] else [k] }).modify i
      fun c => { c with parent := some p }

/-- Adds characters to a node if it is a text. -/
def extendText? (a : Arena) (i : Option NodeId) (t : Text) : Option Arena := do
  let i ← i
  match (← a.cells[i]?).payload with
  | .text old => some (a.modify i fun c => { c with payload := .text (old ++ t) })
  | _ => none

/-- Puts characters after the last child of a node. -/
def appendText (a : Arena) (p : NodeId) (t : Text) : Arena :=
  match a.extendText? (a.kids p).getLast? t with
  | some a => a
  | none =>
    let (a, i) := a.add (.text t)
    a.append p i

/-- The sibling just before a node. -/
def previous? (a : Arena) (i : NodeId) : Option NodeId := do
  let p ← a.parent? i
  ((a.kids p).takeWhile (· != i)).getLast?

/-- Puts characters before a sibling. -/
def insertTextBefore (a : Arena) (sibling : NodeId) (t : Text) : Arena :=
  match a.extendText? (a.previous? sibling) t with
  | some a => a
  | none =>
    let (a, i) := a.add (.text t)
    a.insertBefore sibling i

/-- Moves the children of a node to the end of another. -/
def moveKids (a : Arena) (source target : NodeId) : Arena :=
  (a.kids source).foldl (fun a k => a.append target k) a

/-- Gives an element the attributes that it lacks. -/
def addAttrs (a : Arena) (i : NodeId) (attrs : List Attr) : Arena :=
  a.modify i fun c =>
    match c.payload with
    | .element t content =>
      let all := attrs.foldl (fun acc b => b.insert acc) t.attrs
      { c with payload := .element { t with attrs := all } content }
    | _ => c

/-- The forest below a node, to a depth of `n` levels. -/
def forest (a : Arena) : (n : Nat) → NodeId → List Node
  | 0, _ => []
  | n + 1, i =>
    (a.kids i).filterMap fun k =>
      match a.cells[k]?.map Cell.payload with
      | some (.text t) => some (.text t)
      | some (.comment t) => some (.comment t)
      | some (.doctype d) => some (.doctype d)
      | some (.element t c) => some (.element t (c.elim [] (forest a n)) (forest a n k))
      | _ => none

/-- The finished document. No node lies deeper than there are nodes. -/
def document (a : Arena) : List Node := a.forest a.cells.size 0

end Arena

end HtmlCanon.Html
