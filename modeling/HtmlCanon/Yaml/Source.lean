import HtmlCanon.Text

/-!
# YAML source text

The characters of a YAML stream, each with the place where it stands. A line break is one character
here, however it is written.
-/

namespace HtmlCanon.Yaml

/-- A character and its place: how many characters come before it in the stream, how many lines, and
how many characters on its own line. -/
structure Mark where
  char : Char
  index : Nat
  line : Nat
  column : Nat
  deriving Repr

/-- A part of a stream. -/
abbrev Source := List Mark

/-- The characters that a stream may hold. -/
def isStreamChar (c : Char) : Bool :=
  let n := c.toNat
  n == 0x09 || n == 0x0A || n == 0x0D || (0x20 ≤ n && n ≤ 0x7E) || n == 0x85 ||
    (0xA0 ≤ n && n ≤ 0xFFFD) || 0x10000 ≤ n

/-- The characters that end a line: a line feed, which all of the ASCII breaks and U+0085 are read
as, and the two separators of Unicode. -/
def isBreak (c : Char) : Bool := c == '\n' || c == '\u2028' || c == '\u2029'

/-- A space or a tab. -/
def isBlankChar (c : Char) : Bool := c == ' ' || c == '\t'

/-- A letter, a digit, an underscore or a hyphen. -/
def isWordChar (c : Char) : Bool := isAsciiAlphanum c || c == '_' || c == '-'

namespace Source

/-- Places the characters of a text. -/
def place (index line column : Nat) : Text → Source
  | [] => []
  | '\r' :: '\n' :: r => ⟨'\n', index, line, column⟩ :: place (index + 2) (line + 1) 0 r
  | c :: r =>
    if c == '\r' || c == '\n' || c == '\u0085' then
      ⟨'\n', index, line, column⟩ :: place (index + 1) (line + 1) 0 r
    else if isBreak c then ⟨c, index, line, column⟩ :: place (index + 1) (line + 1) 0 r
    else ⟨c, index, line, column⟩ :: place (index + 1) line (column + 1) r

/-- The stream of a text, a byte-order mark at its start left out; none if it holds a character that
a stream may not hold. -/
def ofText? (t : Text) : Option Source :=
  let t := if t.head? == some '\uFEFF' then t.tail else t
  if t.all isStreamChar then some (place 0 0 0 t) else none

/-- The characters of a part of a stream. -/
def chars (s : Source) : Text := s.map Mark.char

/-- The next character. -/
def peek? (s : Source) : Option Char := s.head?.map Mark.char

/-- Whether a part of a stream starts with a blank, a break or nothing at all. -/
def startsBlank : Source → Bool
  | [] => true
  | m :: _ => isBlankChar m.char || isBreak m.char

/-- Whether a part of a stream starts with a break or nothing at all. -/
def atLineEnd : Source → Bool
  | [] => true
  | m :: _ => isBreak m.char

/-- The longest part at the start whose characters satisfy `p`. -/
def takeWhile (p : Char → Bool) (s : Source) : Source := List.takeWhile (p ·.char) s

/-- What follows the longest part at the start whose characters satisfy `p`. -/
def dropWhile (p : Char → Bool) (s : Source) : Source := List.dropWhile (p ·.char) s

/-- Whether the mark of a document's start or end stands here, at the start of a line. -/
def startsDocumentMark : Source → Bool
  | a :: b :: c :: r =>
    a.column == 0 && a.char == b.char && b.char == c.char && (a.char == '-' || a.char == '.') &&
      startsBlank r
  | _ => false

end Source

end HtmlCanon.Yaml
