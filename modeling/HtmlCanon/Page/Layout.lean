import HtmlCanon.Html.Markup
import HtmlCanon.Page

/-!
# The layout of a page

A page is laid out with every element on a line of its own, set in by one step for each level.
An element that holds nothing but text on one line stays on one line; some elements have no end
tag, and some keep their content as it is. A fragment is laid out inside an element that the
canonical form takes away again.
-/

namespace HtmlCanon.Page

open Html

/-- The name of the element around a fragment. -/
def wrapperName : String := "html"

/-- Elements laid out without an end tag and without content. -/
def voidNames : List String :=
  ["area", "base", "br", "col", "embed", "hr", "img", "input", "link", "meta", "param", "source",
    "track", "wbr"]

/-- Elements whose content is laid out as it is. -/
def verbatimNames : List String := ["pre", "textarea", "script", "style"]

/-- The white space that sets a line in. -/
def indent (depth : Nat) : Text := List.replicate (2 * depth) ' '

/-- A character of a text as it is laid out. -/
def textChar : Char → Text
  | '&' => "&amp;".toList
  | '<' => "&lt;".toList
  | '>' => "&gt;".toList
  | c => [c]

/-- A character of an attribute value as it is laid out. -/
def valueChar : Char → Text
  | '"' => "&quot;".toList
  | c => textChar c

/-- A text with its markup characters escaped. -/
def escapeText (t : Text) : Text := t.flatMap textChar

/-- An attribute with the space before it. -/
def attr (a : Attr) : Text :=
  ' ' :: a.label.toList ++ "=\"".toList ++ a.value.flatMap valueChar ++ ['"']

/-- A start tag. -/
def opening (t : Tag) : Text := '<' :: t.name.toList ++ t.attrs.flatMap attr ++ ['>']

/-- An end tag. -/
def closing (name : String) : Text := "</".toList ++ name.toList ++ ['>']

/-- The lines of a text that are not blank, without the blanks around them. -/
def textLines (t : Text) : List Text := ((splitLines t).map trim).filter (!·.isEmpty)

/-- A comment. An XML declaration, which is kept as a comment, is written as a declaration. -/
def commentText (t : Text) : Text :=
  if (after? "?xml".toList t).isSome then '<' :: t ++ ['>']
  else "<!--".toList ++ t ++ "-->".toList

/-- A doctype. -/
def doctypeText (d : Doctype) : Text :=
  "<!DOCTYPE ".toList ++ d.name ++
    (if d.publicId.isEmpty then [] else " PUBLIC \"".toList ++ d.publicId ++ ['"']) ++
    (if d.systemId.isEmpty then [] else " \"".toList ++ d.systemId ++ ['"']) ++ ['>']

/-- Whether a node below an element shows: a text that is not blank, a comment or an element. -/
def isSignificant : Node → Bool
  | .text t => !isBlankText t
  | .comment _ => true
  | .doctype _ => false
  | .element .. => true

/-- The text between the tags of an element that stays on one line: that of its children, when all
of them that show are texts and there is no line feed in it. -/
def inlineText? (ns : List Node) : Option Text :=
  let shown := ns.filter isSignificant
  let joined := trim (shown.filterMap Node.text?).flatten
  if shown.all Node.isText && !joined.contains '\n' then some joined else none

mutual

/-- The lines of a node. A doctype shows at the top of a page only. Markup that is kept as it is
counts as one line, whatever line feeds it holds. -/
def nodeLines (isTop : Bool) (depth : Nat) : Node → List Text
  | .text t => (textLines t).map fun l => indent depth ++ escapeText l
  | .comment t => [indent depth ++ commentText t]
  | .doctype d => if isTop then [indent depth ++ doctypeText d] else []
  | .element t c ns =>
    if t.name ∈ verbatimNames then [indent depth ++ (Node.element t c ns).markup]
    else if t.name ∈ voidNames then [indent depth ++ opening t]
    else match inlineText? ns with
      | some text => [indent depth ++ opening t ++ escapeText text ++ closing t.name]
      | none =>
        (indent depth ++ opening t) :: forestLines false (depth + 1) ns ++
          [indent depth ++ closing t.name]

/-- The lines of siblings. -/
def forestLines (isTop : Bool) (depth : Nat) : List Node → List Text
  | [] => []
  | n :: ns => nodeLines isTop depth n ++ forestLines isTop depth ns

end

/-- The lines of a page. -/
def lines (p : Page) : List Text :=
  match p.shape with
  | .document => forestLines true 0 p.nodes
  | .fragment =>
    opening (Tag.plain wrapperName) :: forestLines true 1 p.nodes ++ [closing wrapperName]

/-- The layout of a page, every line with a line feed after it. -/
def layout (p : Page) : Text := p.lines.flatMap (· ++ ['\n'])

end HtmlCanon.Page
