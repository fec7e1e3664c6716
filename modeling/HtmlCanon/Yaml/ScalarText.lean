import HtmlCanon.Digits
import HtmlCanon.Yaml.Source

/-!
# The text of YAML scalars

A plain or quoted scalar may go over several lines, which are folded: a single line break counts as
a space, and of several the first is dropped. A block scalar keeps its lines, or folds them where no
line involved is indented further. Each reader starts behind the indicator, if there is one, and
returns the text and what follows the scalar.
-/

namespace HtmlCanon.Yaml.ScalarText

open Source

/-- The breaks in a run of blanks and breaks. -/
def breaksOf (gap : Source) : Text := gap.chars.filter isBreak

/-- What a run of blanks and breaks between two words of a scalar stands for. -/
def fold (gap : Source) : Text :=
  match breaksOf gap with
  | [] => gap.chars
  | ['\n'] => [' ']
  | '\n' :: more => more
  | bs => bs

/-- Whether a character is a blank or a break. -/
def isGap (c : Char) : Bool := isBlankChar c || isBreak c

/-- Whether a run of blanks and breaks holds a break. -/
def hasBreak (gap : Source) : Bool := gap.any (isBreak ·.char)

/-! ### Plain scalars -/

/-- The characters that structure flow collections. -/
def isFlowIndicator (c : Char) : Bool :=
  c == ',' || c == '[' || c == ']' || c == '\x7b' || c == '\x7d'

/-- Whether a colon that is followed by this character has no meaning in a flow collection. -/
def isStrayAfterColon (c : Char) : Bool := isFlowIndicator c || c == '?'

/-- A plain scalar as it was read. -/
structure Plain where
  text : Text
  rest : Source
  /-- Whether a line break stands between the scalar and what follows it. -/
  endsLine : Bool

/-- The plain scalar that ends where `rest` begins. -/
def Plain.ending (text : Text) (gap rest : Source) : Plain := ⟨text.reverse, rest, hasBreak gap⟩

/-- Reads a plain scalar whose continuation lines have at least `indent` columns before them. The
text so far and the blanks and breaks after it are given last character first. -/
def plainFrom (inFlow : Bool) (indent : Int) (text : Text) (gap : Source) : Source → Option Plain
  | [] => some (.ending text gap [])
  | m :: r =>
    if isGap m.char then
      if m.char == '\t' && hasBreak gap && m.column < indent then none
      else plainFrom inFlow indent text (m :: gap) r
    else if !gap.isEmpty &&
        ((!inFlow && hasBreak gap && m.column < indent) || m.char == '#' ||
          startsDocumentMark (m :: r)) then some (.ending text gap (m :: r))
    else if inFlow && m.char == ':' && (peek? r).any isStrayAfterColon then none
    else if (m.char == ':' && startsBlank r) || (inFlow && isFlowIndicator m.char) then
      some (.ending text gap (m :: r))
    else plainFrom inFlow indent (m.char :: ((fold gap.reverse).reverse ++ text)) [] r

/-- Reads a plain scalar. -/
def plain? (inFlow : Bool) (indent : Int) (s : Source) : Option Plain :=
  plainFrom inFlow indent [] [] s

/-! ### Quoted scalars -/

/-- Reads a scalar in single quotes, where a quote is written twice. -/
def singleFrom (text : Text) (gap : Source) : Source → Option (Text × Source)
  | [] => none
  | m :: r =>
    if isGap m.char then singleFrom text (m :: gap) r
    else if startsDocumentMark (m :: r) then none
    else
      let text := (fold gap.reverse).reverse ++ text
      if m.char != '\'' then singleFrom (m.char :: text) [] r
      else match r with
        | ⟨'\'', _, _, _⟩ :: r => singleFrom ('\'' :: text) [] r
        | r => some (text.reverse, r)

/-- Reads a scalar in single quotes. -/
def single? (s : Source) : Option (Text × Source) := singleFrom [] [] s

/-- What stands for a character after a backslash: the character itself, or a number of hexadecimal
digits that give its code. -/
inductive Escape where
  | char (c : Char)
  | code (digits : Nat)

/-- The escapes of scalars in double quotes. -/
def escape? : Char → Option Escape
  | '0' => some (.char '\x00')
  | 'a' => some (.char '\x07')
  | 'b' => some (.char '\x08')
  | 't' => some (.char '\t')
  | '\t' => some (.char '\t')
  | 'n' => some (.char '\n')
  | 'v' => some (.char '\x0b')
  | 'f' => some (.char '\x0c')
  | 'r' => some (.char '\r')
  | 'e' => some (.char '\x1b')
  | ' ' => some (.char ' ')
  | '"' => some (.char '"')
  | '/' => some (.char '/')
  | '\\' => some (.char '\\')
  | 'N' => some (.char '\u0085')
  | '_' => some (.char '\u00a0')
  | 'L' => some (.char '\u2028')
  | 'P' => some (.char '\u2029')
  | 'x' => some (.code 2)
  | 'u' => some (.code 4)
  | 'U' => some (.code 8)
  | _ => none

/-- The character of a code, unless it is a surrogate or too large. -/
def ofCode? (n : Nat) : Option Char := if n.isValidChar then some (Char.ofNat n) else none

/-- What a reader of a scalar in double quotes is in the middle of. -/
inductive DoubleState where
  /-- Text, or a gap after text. -/
  | text
  /-- The gap after an escaped line break, whose blanks do not count and whose breaks all do. -/
  | joined
  /-- An escape, whose backslash was read. -/
  | escape
  /-- The code of an escape, with the number of digits to come and the value so far. -/
  | code (left value : Nat)

/-- Reads a scalar in double quotes. -/
def doubleFrom (state : DoubleState) (text : Text) (gap : Source) : Source → Option (Text × Source)
  | [] => none
  | m :: r =>
    match state with
    | .escape =>
      if isBreak m.char then doubleFrom .joined text [] r
      else match escape? m.char with
        | none => none
        | some (.char c) => doubleFrom .text (c :: text) [] r
        | some (.code n) => doubleFrom (.code n 0) text [] r
    | .code left value =>
      match digit? 16 m.char with
      | none => none
      | some d =>
        if left ≤ 1 then (ofCode? (value * 16 + d)).bind fun c => doubleFrom .text (c :: text) [] r
        else doubleFrom (.code (left - 1) (value * 16 + d)) text [] r
    | state =>
      if isGap m.char then doubleFrom state text (m :: gap) r
      else if startsDocumentMark (m :: r) then none
      else
        let between := match state with
          | .joined => breaksOf gap.reverse
          | _ => fold gap.reverse
        let text := between.reverse ++ text
        if m.char == '"' then some (text.reverse, r)
        else if m.char == '\\' then doubleFrom .escape text [] r
        else doubleFrom .text (m.char :: text) [] r

/-- Reads a scalar in double quotes. -/
def double? (s : Source) : Option (Text × Source) := doubleFrom .text [] [] s

/-! ### Block scalars -/

/-- What becomes of the line breaks at the end of a block scalar. -/
inductive Chomping where
  | strip | clip | keep
  deriving DecidableEq

/-- The indicators in the header of a block scalar. An `indent` of zero means that the first line
decides. -/
structure BlockHeader where
  chomping : Chomping
  indent : Nat

/-- The chomping indicator, if one stands here. -/
def chomping? : Source → Option (Chomping × Source)
  | m :: r =>
    if m.char == '+' then some (.keep, r) else if m.char == '-' then some (.strip, r) else none
  | [] => none

/-- The indentation indicator, zero if there is none; none if it is a zero. -/
def indentation? : Source → Option (Nat × Source)
  | m :: r =>
    match digit? 10 m.char with
    | some 0 => none
    | some d => some (d, r)
    | none => some (0, m :: r)
  | [] => some (0, [])

/-- The two indicators of a block scalar, in either order. -/
def blockHeader? (s : Source) : Option (BlockHeader × Source) :=
  match chomping? s with
  | some (c, r) => (indentation? r).map fun (n, r) => (⟨c, n⟩, r)
  | none =>
    (indentation? s).map fun (n, r) =>
      match (if n == 0 then none else chomping? r) with
      | some (c, r) => (⟨c, n⟩, r)
      | none => (⟨.clip, n⟩, r)

/-- What follows blanks, a comment and the end of the line; none if anything else stands before the
end of the line. -/
def afterLine? (s : Source) : Option Source :=
  let s := s.dropWhile isBlankChar
  let s := if s.peek? == some '#' then s.dropWhile (!isBreak ·) else s
  if s.atLineEnd then some s.tail else none

/-- Reads empty lines and indentation. An `indent` of zero stands for one that is not known yet.
The result holds the breaks, the widest indentation met and the rest; a tab in place of indentation
is an error. -/
def indentationFrom (indent widest : Nat) : Source → Option (Text × Nat × Source)
  | [] => some ([], widest, [])
  | m :: r =>
    let inMargin := indent == 0 || m.column < indent
    if inMargin && m.char == ' ' then indentationFrom indent (max widest (m.column + 1)) r
    else if inMargin && m.char == '\t' then none
    else if isBreak m.char then
      (indentationFrom indent widest r).map fun (bs, w, rest) => (m.char :: bs, w, rest)
    else some ([], widest, m :: r)

/-- The lines of a block scalar, read so far: the text, the break of the last line, the empty lines
after it, and whether the last line starts with a blank. -/
structure BlockText where
  text : Text
  lastBreak : Text
  emptyLines : Text
  indented : Bool

/-- Reads the lines of a block scalar whose indentation is known. -/
def blockLines (folded : Bool) (indent : Nat) :
    Nat → BlockText → Source → Option (BlockText × Source)
  | 0, b, s => some (b, s)
  | n + 1, b, s =>
    match s with
    | [] => some (b, [])
    | m :: _ =>
      if m.column != indent then some (b, s)
      else
        let blank := isBlankChar m.char
        let between :=
          if folded && b.lastBreak.head? == some '\n' && !b.indented && !blank then
            if b.emptyLines.isEmpty then [' '] else b.emptyLines
          else b.lastBreak ++ b.emptyLines
        let line := s.takeWhile (!isBreak ·)
        let rest := s.dropWhile (!isBreak ·)
        (indentationFrom indent 0 rest.tail).bind fun (bs, _, after) =>
          blockLines folded indent n
            ⟨b.text ++ between ++ line.chars, chars (rest.take 1), bs, blank⟩ after

/-- Reads a block scalar inside a collection with the given indentation, which is negative at the
top of a document. -/
def block? (folded : Bool) (parent : Int) (s : Source) : Option (Text × Source) := do
  let (header, s) ← blockHeader? s
  let s ← afterLine? s
  let given := if header.indent == 0 then 0 else (max parent 0).toNat + header.indent
  let (bs, widest, s) ← indentationFrom given 0 s
  let indent := if given == 0 then max widest (max (parent + 1) 1).toNat else given
  let (b, s) ← blockLines folded indent (s.length + 1) ⟨[], [], bs, false⟩ s
  let text := b.text ++ (if header.chomping == .strip then [] else b.lastBreak) ++
    (if header.chomping == .keep then b.emptyLines else [])
  pure (text, s)

end HtmlCanon.Yaml.ScalarText
