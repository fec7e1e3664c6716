import HtmlCanon.Html.Parser

/-!
# Pages

A page is a whole document or a fragment of one. Which of the two a text holds is read off its first
words; of a text that is a fragment only what lands in the head and the body counts.
-/

namespace HtmlCanon

open Html

/-- Whether a page is a whole document or a fragment. -/
inductive Shape where
  | document | fragment
  deriving DecidableEq, Repr

/-- A page: its shape and its top-level nodes. -/
structure Page where
  shape : Shape
  nodes : List Node
  deriving Repr

namespace Page

/-- Whether a doctype or the start tag of the `html` element stands here. -/
def opensDocument (s : Text) : Bool :=
  (afterNoCase? "<!doctype".toList s).isSome ||
    match afterNoCase? "<html".toList s with
    | some (c :: _) => isBlank c || c == '>'
    | _ => false

/-- Whether somewhere in a text the end of a comment stands, with the opening of a document after
it and only blanks between. -/
def closesBeforeDocument : Text → Bool
  | [] => false
  | c :: r =>
    (match after? "-->".toList (c :: r) with
      | some t => opensDocument (t.dropWhile isBlank)
      | none => false) || closesBeforeDocument r

/-- The text after an XML declaration and the blanks that follow it, if one stands here. -/
def afterDeclaration (s : Text) : Text :=
  match (afterNoCase? "<?xml".toList s).bind (splitAt? ['>']) with
  | some (_, r) => r.dropWhile isBlank
  | none => s

/-- Whether a text opens a document: after an XML declaration, if there is one, it goes on with a
doctype or the `html` element, at once or after a comment. What counts as that comment reaches up
to any end mark that the document follows. -/
def isDocument (s : Text) : Bool :=
  let s := afterDeclaration (s.dropWhile isBlank)
  opensDocument s ||
    match after? "<!--".toList s with
    | some r => closesBeforeDocument r
    | none => false

mutual

/-- The first element of a name at or below a node, in document order. -/
def findIn (name : String) : Node → Option Node
  | .element t c ns => if t.name == name then some (.element t c ns) else findAmong name ns
  | _ => none

/-- The first element of a name in a forest, in document order. -/
def findAmong (name : String) : List Node → Option Node
  | [] => none
  | n :: ns => (findIn name n).or (findAmong name ns)

end

/-- What the first element of a name holds. -/
def contentOf (name : String) (ns : List Node) : List Node :=
  ((findAmong name ns).map Node.children).getD []

/-- A page as it was read, and how many tokens were moved out of a table. -/
def parseCounting (s : Text) : Page × Nat :=
  let p := Html.parse s
  if isDocument s then (⟨.document, p.nodes⟩, p.fostered)
  else (⟨.fragment, contentOf "head" p.nodes ++ contentOf "body" p.nodes⟩, p.fostered)

/-- Reads a page. -/
def parse (s : Text) : Page := (parseCounting s).1

/-- The fragment of the given nodes. -/
def fragment (ns : List Node) : Page := ⟨.fragment, ns⟩

end Page

end HtmlCanon
