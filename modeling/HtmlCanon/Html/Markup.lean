import HtmlCanon.Html.Node

/-!
# Markup of nodes

The markup of a node is what is written for it in HTML: tags, escaped texts and comments. Elements
that never have content get no end tag, and no element below them is written. The content that a
template keeps apart is not written.
-/

namespace HtmlCanon.Html

/-- Elements whose markup is a start tag only. -/
def unclosedNames : List String :=
  ["area", "base", "basefont", "bgsound", "br", "col", "embed", "frame", "hr", "img", "input",
    "keygen", "link", "meta", "param", "source", "track", "wbr"]

/-- Elements whose own text is written as it is. -/
def rawTextNames : List String :=
  ["style", "script", "xmp", "iframe", "noembed", "noframes", "plaintext", "noscript"]

/-- A character of a text, escaped. -/
def markupTextChar : Char → Text
  | '&' => "&amp;".toList
  | '\u00a0' => "&nbsp;".toList
  | '<' => "&lt;".toList
  | '>' => "&gt;".toList
  | c => [c]

/-- A character of an attribute value, escaped. -/
def markupValueChar : Char → Text
  | '&' => "&amp;".toList
  | '\u00a0' => "&nbsp;".toList
  | '"' => "&quot;".toList
  | c => [c]

/-- An attribute with the space before it. -/
def Attr.markup (a : Attr) : Text :=
  ' ' :: a.markupName.toList ++ "=\"".toList ++ a.value.flatMap markupValueChar ++ ['"']

/-- A start tag. -/
def Tag.markup (t : Tag) : Text :=
  '<' :: t.name.toList ++ t.attrs.flatMap Attr.markup ++ ['>']

/-- An end tag. -/
def Tag.closing (t : Tag) : Text := "</".toList ++ t.name.toList ++ ['>']

/-- Whether the text below an element of this tag is written as it is. -/
def Tag.holdsRawText (t : Tag) : Bool := t.space == .html && t.name ∈ rawTextNames

/-- Whether an element of this tag is written without its end. -/
def Tag.isUnclosed (t : Tag) : Bool := t.space == .html && t.name ∈ unclosedNames

/-- What a node inherits from the element it is written in. -/
structure Surroundings where
  /-- Texts are written without escapes. -/
  raw : Bool
  /-- Elements are left out, though not the texts in them. -/
  silent : Bool

namespace Node

mutual

/-- The markup of a node inside an element. -/
def markupIn (s : Surroundings) : Node → Text
  | text d => if s.raw then d else d.flatMap markupTextChar
  | comment d => "<!--".toList ++ d ++ "-->".toList
  | doctype d => "<!DOCTYPE ".toList ++ d.name ++ ['>']
  | element t _ ns =>
    let body := markupsIn ⟨t.holdsRawText, s.silent || t.isUnclosed⟩ ns
    if s.silent then body
    else if t.isUnclosed then t.markup ++ body
    else t.markup ++ body ++ t.closing

/-- The markup of siblings inside an element. -/
def markupsIn (s : Surroundings) : List Node → Text
  | [] => []
  | n :: ns => markupIn s n ++ markupsIn s ns

end

/-- The markup of a node that stands alone. -/
def markup (n : Node) : Text := markupIn ⟨false, false⟩ n

/-- The markup of a forest. -/
def markups (ns : List Node) : Text := markupsIn ⟨false, false⟩ ns

end Node

end HtmlCanon.Html
