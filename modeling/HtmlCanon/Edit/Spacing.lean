import HtmlCanon.Page

/-!
# Spacing

Several spaces in a row count as one. Other blanks are left alone.
-/

namespace HtmlCanon

/-- Puts one space in place of every run of spaces. -/
def collapseSpaces : Text → Text
  | [] => []
  | [c] => [c]
  | c :: d :: r =>
    if c == ' ' && d == ' ' then collapseSpaces (d :: r) else c :: collapseSpaces (d :: r)

/-- The page with one space in place of every run of spaces in its texts. -/
def Page.collapseSpaces (p : Page) : Page :=
  { p with nodes := Html.Node.mapTexts HtmlCanon.collapseSpaces p.nodes }

end HtmlCanon
