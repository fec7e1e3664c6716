import HtmlCanon.Html.Node

/-!
# Sets of elements

The construction of a page asks again and again whether an element belongs to one of a few sets:
the elements that bound a scope, the elements whose end tags may be left out, the special ones.
-/

namespace HtmlCanon.Html

namespace Tag

/-- An HTML element with one of the given names. -/
def isHtml (t : Tag) (names : List String) : Bool := t.space == .html && t.name ∈ names

/-- The MathML elements that hold text. -/
def isMathText (t : Tag) : Bool :=
  t.space == .mathml && t.name ∈ ["mi", "mo", "mn", "ms", "mtext"]

/-- The SVG elements that hold HTML. -/
def isSvgHtml (t : Tag) : Bool :=
  t.space == .svg && t.name ∈ ["foreignObject", "desc", "title"]

/-- The elements that stop an end tag from reaching further up. -/
def isSpecial (t : Tag) : Bool :=
  t.isMathText || t.isSvgHtml || t.isHtml
    ["address", "applet", "area", "article", "aside", "base", "basefont", "bgsound", "blockquote",
      "body", "br", "button", "caption", "center", "col", "colgroup", "dd", "details", "dir", "div",
      "dl", "dt", "embed", "fieldset", "figcaption", "figure", "footer", "form", "frame",
      "frameset", "h1", "h2", "h3", "h4", "h5", "h6", "head", "header", "hgroup", "hr", "html",
      "iframe", "img", "input", "isindex", "li", "link", "listing", "main", "marquee", "menu",
      "meta", "nav", "noembed", "noframes", "noscript", "object", "ol", "p", "param", "plaintext",
      "pre", "script", "section", "select", "source", "style", "summary", "table", "tbody", "td",
      "template", "textarea", "tfoot", "th", "thead", "title", "tr", "track", "ul", "wbr", "xmp"]

/-- The bounds of the default scope. -/
def boundsScope (t : Tag) : Bool :=
  t.isMathText || t.isSvgHtml || t.isHtml
    ["applet", "caption", "html", "table", "td", "th", "marquee", "object", "template"]

/-- The bounds of the scope of list items. -/
def boundsListScope (t : Tag) : Bool := t.boundsScope || t.isHtml ["ol", "ul"]

/-- The bounds of the scope of paragraphs. -/
def boundsButtonScope (t : Tag) : Bool := t.boundsScope || t.isHtml ["button"]

/-- The bounds of the scope of table parts. -/
def boundsTableScope (t : Tag) : Bool := t.isHtml ["html", "table", "template"]

/-- The bounds of the scope of selection lists: all but options and their groups. -/
def boundsSelectScope (t : Tag) : Bool := !t.isHtml ["optgroup", "option"]

/-- The elements whose end tag may be left out. -/
def isImplied (t : Tag) : Bool :=
  t.isHtml ["dd", "dt", "li", "option", "optgroup", "p", "rb", "rp", "rt", "rtc"]

/-- The elements that the end of a template closes. -/
def isImpliedInTemplate (t : Tag) : Bool :=
  t.isImplied ||
    t.isHtml ["caption", "colgroup", "tbody", "td", "tfoot", "th", "thead", "tr"]

/-- Headings. -/
def isHeading (t : Tag) : Bool := t.isHtml ["h1", "h2", "h3", "h4", "h5", "h6"]

/-- The elements in which a table body stands. -/
def isBodyContext (t : Tag) : Bool := t.isHtml ["tbody", "tfoot", "thead", "template", "html"]

/-- The elements in which a table row stands. -/
def isRowContext (t : Tag) : Bool := t.isHtml ["tr", "template", "html"]

/-- Table cells. -/
def isCell (t : Tag) : Bool := t.isHtml ["td", "th"]

/-- The table parts in which misplaced content is moved before the table. -/
def isTablePart (t : Tag) : Bool := t.isHtml ["table", "tbody", "tfoot", "thead", "tr"]

end Tag

end HtmlCanon.Html
