import HtmlCanon.Encoding
import HtmlCanon.Page.Layout

/-!
# The canonical form of a page

The canonical form is the layout, cleaned line by line: an XML declaration on the first line and the
element around a fragment are dropped, lines are set out by the indentation of the first, blank
lines go, and so do carriage returns at the ends of lines, as characters or as references.
-/

namespace HtmlCanon.Page

/-- Whether a line is an XML declaration and nothing else. -/
def isXmlDeclaration (l : Text) : Bool :=
  match (after? "<?xml".toList (l.dropWhile isBlank)).bind (splitAt? ['>']) with
  | some (_, r) => isBlankText r
  | none => false

/-- Drops the first line if it satisfies `p`. -/
def dropFirstIf (p : Text → Bool) : List Text → List Text
  | [] => []
  | l :: ls => if p l then ls else l :: ls

/-- Drops the last line if it satisfies `p`. -/
def dropLastIf (p : Text → Bool) (ls : List Text) : List Text := (dropFirstIf p ls.reverse).reverse

/-- Drops the blank lines at the end. -/
def dropBlankEnd (ls : List Text) : List Text := (ls.reverse.dropWhile isBlankText).reverse

/-- Takes the element around a fragment away. -/
def unwrapLines (ls : List Text) : List Text :=
  let opens := fun l => trim l == '<' :: wrapperName.toList ++ ['>']
  let closes := fun l => trim l == closing wrapperName
  dropLastIf closes (dropBlankEnd (dropFirstIf opens ls))

/-- A space or a tab. -/
def isIndent (c : Char) : Bool := c == ' ' || c == '\t'

/-- Drops the indentation of a line, up to a width. -/
def dedent : (width : Nat) → Text → Text
  | 0, l => l
  | _, [] => []
  | n + 1, c :: l => if isIndent c then dedent n l else c :: l

/-- Drops carriage returns, and references to them, from a text that is read from its end. -/
def dropReturns : Text → Text
  | '\r' :: r => dropReturns r
  | ';' :: '3' :: '1' :: '#' :: '&' :: r => dropReturns r
  | ';' :: 'D' :: 'x' :: '#' :: '&' :: r => dropReturns r
  | ';' :: 'd' :: 'x' :: '#' :: '&' :: r => dropReturns r
  | r => r

/-- Drops the carriage returns, and references to them, at the end of a line. -/
def stripReturns (l : Text) : Text := (dropReturns l.reverse).reverse

/-- The clean lines of a laid-out text. -/
def cleanLines (shape : Shape) (ls : List Text) : List Text :=
  let ls := dropFirstIf isXmlDeclaration ls
  let ls := match shape with
    | .document => ls
    | .fragment => unwrapLines ls
  let width := match ls with
    | [] => 0
    | l :: _ => (l.takeWhile isIndent).length
  ((ls.map (dedent width)).filter (!isBlankText ·)).map stripReturns

/-- The canonical form of a page. -/
def canonical (p : Page) : Text :=
  joinLines (cleanLines p.shape (splitLines (repairText p.layout)))

end HtmlCanon.Page
