import HtmlCanon.Encoding
import HtmlCanon.Yaml.ScalarText

/-!
# YAML tokens

A stream is cut into tokens. Indentation becomes tokens of its own that open and close block
collections. That a node is a key shows only at the colon behind it, so the place of each node that
can be one is kept, and the tokens that open its mapping are put there afterwards.
-/

namespace HtmlCanon.Yaml

/-- A token. The handle of a tag selects the directive that says what stands before its suffix. -/
inductive Token where
  | version (major minor : Nat)
  | tagDirective (handle : String) (start : List UInt8)
  | documentStart
  | documentEnd
  | blockSequence
  | blockMapping
  | blockEnd
  | flowSequence
  | flowSequenceEnd
  | flowMapping
  | flowMappingEnd
  | entry
  | flowEntry
  | key
  | value
  | reference (name : String)
  | anchor (name : String)
  | tag (handle : String) (suffix : List UInt8)
  | scalar (plain : Bool) (text : String)
  deriving DecidableEq, Repr

namespace Token

open Source

/-- A node that a colon can turn into a key: how many tokens stand before it, and its place. A key
is required where nothing but a key may stand. -/
structure Candidate where
  required : Bool
  count : Nat
  index : Nat
  line : Nat
  column : Nat

/-- The state of cutting a stream into tokens. -/
structure State where
  rest : Source
  /-- The tokens so far, the last one first. -/
  tokens : List Token
  /-- The column of the innermost block collection, negative outside of all. -/
  indent : Int
  /-- The columns of the block collections around it. -/
  outer : List Int
  /-- Whether a key or a block collection may start here. -/
  keyAllowed : Bool
  /-- The candidate of each flow collection around this place, the innermost first, and last that of
  the block around them. -/
  candidates : List (Option Candidate)

namespace State

/-- Whether this place is inside a flow collection. -/
def inFlow (s : State) : Bool := 1 < s.candidates.length

/-- Adds a token. -/
def push (s : State) (t : Token) : State := { s with tokens := t :: s.tokens }

/-- Puts tokens behind the first `count` ones. -/
def insertAt (s : State) (count : Nat) (ts : List Token) : State :=
  let n := s.tokens.length - count
  { s with tokens := s.tokens.take n ++ ts.reverse ++ s.tokens.drop n }

/-- Goes on with another part of the stream. -/
def goto (s : State) (rest : Source) : State := { s with rest }

/-- Allows or forbids a key at this place. -/
def allowKey (s : State) (b : Bool) : State := { s with keyAllowed := b }

/-- The column of this place. -/
def column (s : State) : Int := (s.rest.head?.map fun m => (m.column : Int)).getD 0

/-- Skips blanks, comments and breaks. A tab separates tokens only where no key may start. -/
def skipBlanks (s : State) : Source → State
  | [] => s.goto []
  | m :: r =>
    if m.index == 0 && m.char == '\uFEFF' then skipBlanks s r
    else if m.char == ' ' || (m.char == '\t' && (s.inFlow || !s.keyAllowed)) then skipBlanks s r
    else if isBreak m.char then skipBlanks (s.allowKey (s.keyAllowed || !s.inFlow)) r
    else s.goto (m :: r)

/-- Skips blanks, comments and breaks; a comment goes on to the end of its line. -/
def skipToToken : Nat → State → State
  | 0, s => s
  | n + 1, s =>
    let s := s.skipBlanks s.rest
    if s.rest.peek? == some '#' then skipToToken n (s.goto (s.rest.dropWhile (!isBreak ·))) else s

/-- Drops the candidates that lie on an earlier line or too far back; one that is required is an
error. -/
def dropStale (s : State) : Option State :=
  match s.rest with
  | [] => some s
  | m :: _ => do
    let cs ← s.candidates.mapM fun c =>
      match c with
      | none => some none
      | some c =>
        if c.line < m.line || c.index + 1024 < m.index then if c.required then none else some none
        else some (some c)
    pure { s with candidates := cs }

/-- Drops the innermost candidate; one that is required is an error. -/
def dropCandidate (s : State) : Option State :=
  match s.candidates with
  | some c :: cs => if c.required then none else some { s with candidates := none :: cs }
  | _ => some s

/-- Makes this place a candidate if a key may start here. -/
def addCandidate (s : State) : Option State :=
  if !s.keyAllowed then some s
  else match s.rest with
    | [] => some s
    | m :: _ => do
      let s ← s.dropCandidate
      let c : Candidate :=
        ⟨!s.inFlow && s.indent == m.column, s.tokens.length, m.index, m.line, m.column⟩
      pure { s with candidates := some c :: s.candidates.tail }

/-- Closes the block collections that are indented further than a column. -/
def closeTo (column : Int) (s : State) : State :=
  let rec go (tokens : List Token) (indent : Int) : List Int → State
    | [] => { s with tokens, indent, outer := [] }
    | o :: os =>
      if column < indent then go (.blockEnd :: tokens) o os
      else { s with tokens, indent, outer := o :: os }
  if s.inFlow then s else go s.tokens s.indent s.outer

/-- Opens a block collection at a column behind the first `count` tokens, unless it is open. -/
def openAt (t : Token) (column : Int) (count : Nat) (s : State) : State :=
  if s.inFlow || column ≤ s.indent then s
  else { s.insertAt count [t] with indent := column, outer := s.indent :: s.outer }

/-- Opens a block collection here; an error where no collection may start. -/
def openBlock (t : Token) (s : State) : Option State :=
  if s.inFlow then some s
  else if !s.keyAllowed then none
  else some (s.openAt t s.column s.tokens.length)

end State

/-! ### Tags and directives -/

/-- The characters of a tag. Those that structure flow collections are allowed in some places. -/
def isTagChar (flow : Bool) (c : Char) : Bool :=
  isWordChar c || ";/?:@&=+$.%!~*'()".contains c || (flow && (c == ',' || c == '[' || c == ']'))

/-- The value of two hexadecimal digits. -/
def octet? (a b : Mark) : Option Nat := do
  pure (16 * (← digit? 16 a.char) + (← digit? 16 b.char))

/-- How many bytes a character has whose first byte is `n`; zero if there is none. -/
def widthOf (n : Nat) : Nat :=
  if n < 0x80 then 1 else if n / 32 == 6 then 2 else if n / 16 == 14 then 3
  else if n / 8 == 30 then 4 else 0

/-- Reads the characters of a tag, last byte first. A percent sign and two digits stand for a byte,
and `more` further bytes of the same character have to follow in the same way. -/
def tagBytes (flow : Bool) (more : Nat) (acc : List UInt8) : Source → Option (List UInt8 × Source)
  | [] => if more == 0 then some (acc, []) else none
  | ⟨'%', _, _, _⟩ :: a :: b :: r =>
    match octet? a b with
    | none => none
    | some n =>
      if more != 0 then
        if n / 64 == 2 then tagBytes flow (more - 1) (n.toUInt8 :: acc) r else none
      else match widthOf n with
        | 0 => none
        | w + 1 => tagBytes flow w (n.toUInt8 :: acc) r
  | m :: r =>
    if more != 0 || m.char == '%' then none
    else if isTagChar flow m.char then tagBytes flow 0 (m.char.toNat.toUInt8 :: acc) r
    else some (acc, m :: r)

/-- Reads a part of a tag that may not be empty. -/
def tagPart? (flow : Bool) (s : Source) : Option (List UInt8 × Source) := do
  let (bs, r) ← tagBytes flow 0 [] s
  if bs.isEmpty then none else pure (bs.reverse, r)

/-- Reads the handle of a tag: an exclamation mark and, if another one follows them, word
characters and that mark. Without it the word characters are not part of the handle yet. -/
def handle? (s : Source) : Option (Text × Source) :=
  match s with
  | ⟨'!', _, _, _⟩ :: r =>
    let name := chars (Source.takeWhile isWordChar r)
    match Source.dropWhile isWordChar r with
    | ⟨'!', _, _, _⟩ :: r => some ('!' :: name ++ ['!'], r)
    | r => some ('!' :: name, r)
  | _ => none

/-- Reads a tag, which stands at its exclamation mark. -/
def tag? (inFlow : Bool) (s : Source) : Option (Token × Source) := do
  let (t, r) ← match s with
    | _ :: ⟨'<', _, _, _⟩ :: r => do
      let (bs, r) ← tagPart? true r
      match r with
      | ⟨'>', _, _, _⟩ :: r => pure (Token.tag "" bs, r)
      | _ => none
    | s => do
      let (h, r) ← handle? s
      if 1 < h.length && h.getLast? == some '!' then
        let (bs, r) ← tagPart? false r
        pure (Token.tag (String.ofList h) bs, r)
      else
        let (bs, r) ← tagBytes false 0 [] r
        -- no second exclamation mark: what was read as a handle begins the suffix
        let suffix := h.tail.map (·.toNat.toUInt8) ++ bs.reverse
        pure (if suffix.isEmpty then Token.tag "" [0x21] else Token.tag "!" suffix, r)
  if startsBlank r || (inFlow && peek? r == some ',') then pure (t, r) else none

/-- Reads a number of at most nine digits. -/
def versionNumber? (s : Source) : Option (Nat × Source) :=
  let ds := (s.takeWhile Char.isDigit).chars
  if ds.isEmpty || 9 < ds.length then none else some (ofDigits 10 ds, s.dropWhile Char.isDigit)

/-- Reads what a directive says; its name was read. -/
def directiveValue? (name : Text) (s : Source) : Option (Token × Source) := do
  let s := s.dropWhile isBlankChar
  if name == "YAML".toList then
    let (major, s) ← versionNumber? s
    match s with
    | ⟨'.', _, _, _⟩ :: s =>
      let (minor, s) ← versionNumber? s
      pure (.version major minor, s)
    | _ => none
  else if name == "TAG".toList then
    let (h, r) ← handle? s
    if h != ['!'] && (h.length < 2 || h.getLast? != some '!') then none
    if !(r.peek?.any isBlankChar) then none
    let (bs, r) ← tagPart? true (r.dropWhile isBlankChar)
    if !r.startsBlank then none
    pure (.tagDirective (String.ofList h) bs, r)
  else none

/-- Reads a directive, which stands at its percent sign, and the rest of its line. -/
def directive? (s : Source) : Option (Token × Source) := do
  let s := s.tail
  let name := (Source.takeWhile isWordChar s).chars
  let r := Source.dropWhile isWordChar s
  if name.isEmpty || !r.startsBlank then none
  let (t, r) ← directiveValue? name r
  let r := r.dropWhile isBlankChar
  let r := if r.peek? == some '#' then r.dropWhile (!isBreak ·) else r
  if r.atLineEnd then pure (t, r.tail) else none

/-! ### Cutting a stream -/

/-- The characters that may follow the name of an anchor or an alias at once. -/
def endsName (s : Source) : Bool :=
  s.startsBlank || (s.peek?.any fun c => "?:,]\x7d%@\x60".contains c)

/-- Reads the name of an anchor or an alias, which stands at its indicator. -/
def name? (s : Source) : Option (String × Source) :=
  let name := (Source.takeWhile isWordChar s.tail).chars
  let r := Source.dropWhile isWordChar s.tail
  if name.isEmpty || !endsName r then none else some (String.ofList name, r)

namespace State

/-- A token at this place that a key may start with. -/
def keyPart (s : State) (read : Source → Option (Token × Source)) : Option State := do
  let s ← s.addCandidate
  let (t, r) ← read s.rest
  pure ((s.allowKey false).push t |>.goto r)

/-- A token that ends every block and stands for itself. -/
def atMargin (s : State) (read : Source → Option (Token × Source)) : Option State := do
  let s ← (s.closeTo (-1)).dropCandidate
  let (t, r) ← read s.rest
  pure ((s.allowKey false).push t |>.goto r)

/-- The start of a flow collection. -/
def openFlow (t : Token) (s : State) : Option State := do
  let s ← s.addCandidate
  let s := { s with candidates := none :: s.candidates }
  pure ((s.allowKey true).push t |>.goto s.rest.tail)

/-- The end of a flow collection. -/
def closeFlow (t : Token) (s : State) : Option State := do
  let s ← s.dropCandidate
  let s := if s.inFlow then { s with candidates := s.candidates.tail } else s
  pure ((s.allowKey false).push t |>.goto s.rest.tail)

/-- A comma between the items of a flow collection. -/
def flowEntry (s : State) : Option State := do
  let s ← s.dropCandidate
  pure ((s.allowKey true).push .flowEntry |>.goto s.rest.tail)

/-- The hyphen before an item of a block sequence. -/
def blockEntry (s : State) : Option State := do
  let s ← s.openBlock .blockSequence
  let s ← s.dropCandidate
  pure ((s.allowKey true).push .entry |>.goto s.rest.tail)

/-- The question mark before a key. -/
def explicitKey (s : State) : Option State := do
  let s ← s.openBlock .blockMapping
  let s ← s.dropCandidate
  pure ((s.allowKey !s.inFlow).push .key |>.goto s.rest.tail)

/-- The colon before a value. It turns a candidate into a key. -/
def mappingValue (s : State) : Option State := do
  let s ← match s.candidates with
    | some c :: cs =>
      -- the mapping is opened before the key, at the place of the candidate
      let s := (s.insertAt c.count [.key]).openAt .blockMapping c.column c.count
      pure ({ s with candidates := none :: cs }.allowKey false)
    | _ => do
      let s ← s.openBlock .blockMapping
      pure (s.allowKey !s.inFlow)
  pure (s.push .value |>.goto s.rest.tail)

/-- A block scalar. -/
def blockScalar (folded : Bool) (s : State) : Option State := do
  let s ← s.dropCandidate
  let (t, r) ← ScalarText.block? folded s.indent s.rest.tail
  pure ((s.allowKey true).push (.scalar false (String.ofList t)) |>.goto r)

/-- A plain scalar. A key may follow it if a line ends between. -/
def plainScalar (s : State) : Option State := do
  let s ← s.addCandidate
  let p ← ScalarText.plain? s.inFlow (s.indent + 1) s.rest
  pure ((s.allowKey p.endsLine).push (.scalar true (String.ofList p.text)) |>.goto p.rest)

/-- Whether a plain scalar may start with a character, given what follows it. -/
def startsPlain (inFlow : Bool) (c : Char) (r : Source) : Bool :=
  !(isBlankChar c || "-?:,[]\x7b\x7d#&*!|>'\"%@\x60".contains c) ||
    (c == '-' && !(r.peek?.any isBlankChar)) ||
    (!inFlow && (c == '?' || c == ':') && !r.startsBlank)

/-- Reads the next token, which starts with the character `c`. -/
def tokenAt (c : Char) (column : Nat) (r : Source) (s : State) : Option State :=
  if column == 0 && c == '%' then s.atMargin directive?
  else if s.rest.startsDocumentMark then
    s.atMargin fun s => some (if c == '-' then .documentStart else .documentEnd, s.drop 3)
  else if c == '[' then s.openFlow .flowSequence
  else if c == '\x7b' then s.openFlow .flowMapping
  else if c == ']' then s.closeFlow .flowSequenceEnd
  else if c == '\x7d' then s.closeFlow .flowMappingEnd
  else if c == ',' then s.flowEntry
  else if c == '-' && r.startsBlank then s.blockEntry
  else if c == '?' && (s.inFlow || r.startsBlank) then s.explicitKey
  else if c == ':' && (s.inFlow || r.startsBlank) then s.mappingValue
  else if c == '*' then s.keyPart fun s => (name? s).map fun (n, r) => (.reference n, r)
  else if c == '&' then s.keyPart fun s => (name? s).map fun (n, r) => (.anchor n, r)
  else if c == '!' then s.keyPart (tag? s.inFlow)
  else if c == '|' && !s.inFlow then s.blockScalar false
  else if c == '>' && !s.inFlow then s.blockScalar true
  else if c == '\'' then
    s.keyPart fun s =>
      (ScalarText.single? s.tail).map fun (t, r) => (.scalar false (String.ofList t), r)
  else if c == '"' then
    s.keyPart fun s =>
      (ScalarText.double? s.tail).map fun (t, r) => (.scalar false (String.ofList t), r)
  else if startsPlain s.inFlow c r then s.plainScalar
  else none

/-- Reads the tokens up to the end of the stream. Every step but the last takes a character, so
`n` steps suffice for fewer than `n` characters. -/
def run : Nat → State → Option State
  | 0, _ => none
  | n + 1, s => do
    let s := s.skipToToken (s.rest.length + 1)
    let s ← s.dropStale
    match s.rest with
    | [] => (s.closeTo (-1)).dropCandidate
    | m :: r => do
      -- collections that are indented further than the token end before it
      let s ← (s.closeTo m.column).tokenAt m.char m.column r
      run n s

end State

/-- The tokens of a stream; none if it cannot be cut into tokens. -/
def ofSource? (s : Source) : Option (List Token) :=
  let start : State := ⟨s, [], -1, [], true, [none]⟩
  (start.run (s.length + 1)).map fun s => s.tokens.reverse

end Token

end HtmlCanon.Yaml
