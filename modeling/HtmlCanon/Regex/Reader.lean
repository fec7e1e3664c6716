import HtmlCanon.Digits
import HtmlCanon.Regex.Syntax
import HtmlCanon.Unicode.Property

/-!
# Reading the parts of a pattern

A pattern is read from left to right. In verbose mode blanks and comments between its parts do not
count. Here are the steps of a reader and the escapes, which begin with a backslash.
-/

namespace HtmlCanon.Regex

/-- What is left of a pattern, whether verbose mode is on, how many groups capture so far and the
names among them. -/
structure PatternState where
  rest : Text
  verbose : Bool
  captures : Nat
  names : List Text

/-- A step of reading a pattern. -/
abbrev Reader := StateT PatternState Option

namespace Reader

/-- Skips blanks and comments, which go on to the end of their line. -/
def skipVerbose (inComment : Bool) : Text → Text
  | [] => []
  | c :: r =>
    if inComment then skipVerbose (c != '\n') r
    else if isBlank c then skipVerbose false r
    else if c == '#' then skipVerbose true r
    else c :: r

/-- Skips blanks and comments in verbose mode. -/
def skipSpace : Reader Unit :=
  modify fun s => if s.verbose then { s with rest := skipVerbose false s.rest } else s

/-- The next character, if there is one. -/
def peek? : Reader (Option Char) := do pure (← get).rest.head?

/-- Whether the pattern ends here. -/
def atEnd : Reader Bool := do pure (← get).rest.isEmpty

/-- The next character; fails at the end. -/
def current : Reader Char := do
  match (← get).rest with
  | c :: _ => pure c
  | [] => failure

/-- Passes over the next character. -/
def advance : Reader Unit := modify fun s => { s with rest := s.rest.tail }

/-- Passes over the next character and what does not count after it. -/
def advanceSpace : Reader Unit := do advance; skipSpace

/-- Passes over the next character and what does not count after it; fails if nothing follows. -/
def advanceInside : Reader Unit := do
  advanceSpace
  if ← atEnd then failure

/-- Passes over a text if it stands here. -/
def accept (t : String) : Reader Bool := do
  let s ← get
  match after? t.toList s.rest with
  | some r => set { s with rest := r }; pure true
  | none => pure false

/-- The character after the next one, in verbose mode after blanks. -/
def peekSecond? : Reader (Option Char) := do
  let s ← get
  let after := s.rest.tail
  if !s.verbose then pure after.head?
  else
    let after := after.dropWhile isBlank
    match after with
    | '#' :: r => pure (r.dropWhile isBlank).head?
    | r => pure r.head?

/-! ### Escapes -/

/-- The characters that have a meaning of their own. -/
def isMeta (c : Char) : Bool := "\\.+*?()|[]\x7b\x7d^$#&-~".contains c

/-- The characters that may follow a backslash and then stand for themselves. -/
def isEscapable (c : Char) : Bool :=
  isMeta c || (c.toNat < 0x80 && !isAsciiAlphanum c && c != '<' && c != '>')

/-- The character with a code in hexadecimal. -/
def charOfHex? (t : Text) : Option Char :=
  let n := ofDigits 16 t
  if n.isValidChar then some (Char.ofNat n) else none

/-- Reads up to `n` hexadecimal digits; fails if there are fewer. -/
def hexDigitsFrom : Nat → Text → Reader Text
  | 0, acc => pure acc.reverse
  | n + 1, acc => do
    let c ← current
    if !isDigitIn 16 c then failure
    advanceSpace
    hexDigitsFrom n (c :: acc)

/-- Reads hexadecimal digits up to a closing brace. The bound is the length of the pattern. -/
def hexUntilBrace : Nat → Text → Reader Text
  | 0, _ => failure
  | n + 1, acc => do
    let c ← current
    advanceSpace
    if c == '\x7d' then pure acc.reverse
    else if isDigitIn 16 c then hexUntilBrace n (c :: acc)
    else failure

/-- How many more steps a loop over the pattern can take. -/
def bound : Reader Nat := do pure ((← get).rest.length + 1)

/-- Reads the code of a character, with `digits` digits or in braces. -/
def hexEscape (digits : Nat) : Reader Literal := do
  advanceInside
  if (← current) == '\x7b' then
    advanceSpace
    let t ← hexUntilBrace (← bound) []
    if t.isEmpty then failure
    pure ⟨← charOfHex? t, false⟩
  else
    let t ← hexDigitsFrom digits []
    pure ⟨← charOfHex? t, digits == 2⟩

/-- Reads the name of a property up to a closing brace. -/
def propertyName : Nat → Text → Reader Text
  | 0, _ => failure
  | n + 1, acc => do
    let c ← current
    if c == '\x7d' then advance; pure acc.reverse
    else
      advanceSpace
      propertyName n (c :: acc)

/-- What the text between the braces of a property asks for. -/
def propertyOf (t : Text) : Property :=
  match splitAt? "!=".toList t with
  | some (n, v) => .valued n v
  | none =>
    match splitAt? [':'] t with
    | some (n, v) => .valued n v
    | none =>
      match splitAt? ['='] t with
      | some (n, v) => .valued n v
      | none => .named t

/-- Reads a class of characters with a property. -/
def propertyClass (negated : Bool) : Reader ClassExpr := do
  advanceInside
  let c ← current
  if c == '\x7b' then
    advanceSpace
    let t ← propertyName (← bound) []
    pure (.property (propertyOf t) negated)
  else
    if c == '\\' then failure
    advanceSpace
    pure (.property (.named [c]) negated)

/-- A part of a pattern that is read as a whole. Only some of them may stand in brackets. -/
inductive Part where
  | literal (l : Literal)
  | charClass (c : ClassExpr)
  | anchor (a : Anchor)
  | dot

/-- Reads letters and hyphens. -/
def boundaryName : Nat → Text → Reader Text
  | 0, acc => pure acc.reverse
  | n + 1, acc => do
    match ← peek? with
    | some c =>
      if c.isAlpha || c == '-' then
        advanceSpace
        boundaryName n (c :: acc)
      else pure acc.reverse
    | none => pure acc.reverse

/-- Reads what may follow `\b`: the kind of word boundary in braces. What starts with neither a
letter nor a hyphen is left alone. -/
def boundaryKind : Reader Anchor := do
  let before ← get
  if (← peek?) != some '\x7b' then pure .wordBoundary
  else
    advanceInside
    let c ← current
    if !(c.isAlpha || c == '-') then
      set before
      pure .wordBoundary
    else
      let name ← boundaryName (← bound) []
      if (← current) != '\x7d' then failure
      advance
      match String.ofList name with
      | "start" => pure .wordStart
      | "end" => pure .wordEnd
      | "start-half" => pure .wordStartHalf
      | "end-half" => pure .wordEndHalf
      | _ => failure

/-- Reads an escape, which stands at its backslash. -/
def escape : Reader Part := do
  advance
  let c ← current
  let verbatim (c : Char) : Reader Part := do advance; pure (.literal ⟨c, false⟩)
  match c with
  | 'x' => pure (.literal (← hexEscape 2))
  | 'u' => pure (.literal (← hexEscape 4))
  | 'U' => pure (.literal (← hexEscape 8))
  | 'p' => pure (.charClass (← propertyClass false))
  | 'P' => pure (.charClass (← propertyClass true))
  | 'd' => advance; pure (.charClass (.letter .digit false))
  | 'D' => advance; pure (.charClass (.letter .digit true))
  | 's' => advance; pure (.charClass (.letter .space false))
  | 'S' => advance; pure (.charClass (.letter .space true))
  | 'w' => advance; pure (.charClass (.letter .word false))
  | 'W' => advance; pure (.charClass (.letter .word true))
  | 'a' => do advance; pure (.literal ⟨'\x07', false⟩)
  | 'f' => do advance; pure (.literal ⟨'\x0c', false⟩)
  | 't' => do advance; pure (.literal ⟨'\t', false⟩)
  | 'n' => do advance; pure (.literal ⟨'\n', false⟩)
  | 'r' => do advance; pure (.literal ⟨'\r', false⟩)
  | 'v' => do advance; pure (.literal ⟨'\x0b', false⟩)
  | 'A' => do advance; pure (.anchor .textStart)
  | 'z' => do advance; pure (.anchor .textEnd)
  | 'b' => do advance; pure (.anchor (← boundaryKind))
  | 'B' => do advance; pure (.anchor .notWordBoundary)
  | '<' => do advance; pure (.anchor .wordStart)
  | '>' => do advance; pure (.anchor .wordEnd)
  | c => if isEscapable c then verbatim c else failure

end Reader

end HtmlCanon.Regex
