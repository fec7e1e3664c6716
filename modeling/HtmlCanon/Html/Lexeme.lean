import HtmlCanon.Html.Token

/-!
# Lexemes of an HTML page

A lexeme is a stretch of input that is read in one go, with the tokens it yields. A tag that the
input ends in yields none.
-/

namespace HtmlCanon.Html

/-- The tokens of a stretch of input, and the input after it. -/
structure Lexeme where
  tokens : List Token
  rest : Text

namespace Lexeme

/-! ### Comments -/

/-- What stands before the end of a comment, and what stands after it. -/
def commentEnd : Text → Option (Text × Text)
  | '-' :: '-' :: '>' :: r => some ([], r)
  | '-' :: '-' :: '!' :: '>' :: r => some ([], r)
  | c :: r => (commentEnd r).map fun (a, b) => (c :: a, b)
  | [] => none

/-- Drops the part of an end mark that a comment was cut short in. -/
def dropCutEnd (t : Text) : Text :=
  match t.reverse with
  | '!' :: '-' :: '-' :: r => r.reverse
  | '-' :: '-' :: r => r.reverse
  | '-' :: r => r.reverse
  | _ => t

/-- Reads a comment after its opening mark. -/
def comment : Text → Lexeme
  | '>' :: r => ⟨[.comment []], r⟩
  | '-' :: '>' :: r => ⟨[.comment []], r⟩
  | s =>
    match commentEnd s with
    | some (t, r) => ⟨[.comment (Token.plainText t)], r⟩
    | none => ⟨[.comment (Token.plainText (dropCutEnd s))], []⟩

/-- Reads a declaration that is none: all up to the next `>` becomes a comment. -/
def bogusComment (s : Text) : Lexeme :=
  ⟨[.comment (Token.plainText (s.takeWhile (· != '>')))], (s.dropWhile (· != '>')).drop 1⟩

/-! ### Doctypes -/

/-- A doctype whose rest, up to the next `>`, is skipped. -/
def bogusDoctype (d : DoctypeToken) (s : Text) : Lexeme :=
  ⟨[.doctype d], (s.dropWhile (· != '>')).drop 1⟩

/-- Reads a quoted identifier: its text, whether the quote is closed, and the rest. -/
def identifier (q : Char) (s : Text) : Text × Bool × Text :=
  let t := s.takeWhile fun c => c != q && c != '>'
  match s.dropWhile fun c => c != q && c != '>' with
  | c :: r => (Token.plainText t, c == q, r)
  | [] => (Token.plainText t, false, [])

/-- Reads a doctype after its public identifier. -/
def afterPublicId (d : DoctypeToken) (s : Text) : Lexeme :=
  match s.dropWhile isMarkupSpace with
  | [] => ⟨[.doctype { d with faulty := true }], []⟩
  | '>' :: r => ⟨[.doctype d], r⟩
  | c :: r =>
    if c == '"' || c == '\'' then
      match identifier c r with
      | (t, true, r') => bogusDoctypeOrEnd { d with systemId := some t } r'
      | (t, false, r') => ⟨[.doctype { d with systemId := some t, faulty := true }], r'⟩
    else bogusDoctype { d with faulty := true } (c :: r)
where
  /-- Reads a doctype after its system identifier. -/
  bogusDoctypeOrEnd (d : DoctypeToken) (s : Text) : Lexeme :=
    match s.dropWhile isMarkupSpace with
    | [] => ⟨[.doctype { d with faulty := true }], []⟩
    | r => bogusDoctype d r

/-- Reads a doctype after the word that announces an identifier. -/
def afterKeyword (isPublic : Bool) (d : DoctypeToken) (s : Text) : Lexeme :=
  match s.dropWhile isMarkupSpace with
  | [] => ⟨[.doctype { d with faulty := true }], []⟩
  | '>' :: r => ⟨[.doctype { d with faulty := true }], r⟩
  | c :: r =>
    if c == '"' || c == '\'' then
      match isPublic, identifier c r with
      | true, (t, true, r') => afterPublicId { d with publicId := some t } r'
      | true, (t, false, r') => ⟨[.doctype { d with publicId := some t, faulty := true }], r'⟩
      | false, (t, true, r') => afterPublicId.bogusDoctypeOrEnd { d with systemId := some t } r'
      | false, (t, false, r') => ⟨[.doctype { d with systemId := some t, faulty := true }], r'⟩
    else bogusDoctype { d with faulty := true } (c :: r)

/-- Reads a doctype after its name. -/
def afterDoctypeName (d : DoctypeToken) (s : Text) : Lexeme :=
  match s.dropWhile isMarkupSpace with
  | [] => ⟨[.doctype { d with faulty := true }], []⟩
  | '>' :: r => ⟨[.doctype d], r⟩
  | r =>
    match afterNoCase? "public".toList r, afterNoCase? "system".toList r with
    | some r', _ => afterKeyword true d r'
    | none, some r' => afterKeyword false d r'
    | none, none => bogusDoctype { d with faulty := true } r

/-- Reads a doctype after its opening mark. -/
def doctype (s : Text) : Lexeme :=
  match s.dropWhile isMarkupSpace with
  | [] => ⟨[.doctype ⟨none, none, none, true⟩], []⟩
  | '>' :: r => ⟨[.doctype ⟨none, none, none, true⟩], r⟩
  | r =>
    let inName := fun c => !(isMarkupSpace c || c == '>')
    let name := (r.takeWhile inName).map fun c => Token.replaceNull (asciiLower c)
    afterDoctypeName ⟨some name, none, none, false⟩ (r.dropWhile inName)

/-! ### Character data -/

/-- Cuts a text into runs and null characters. -/
def nulls (t : Text) : List Token :=
  let runs := (splitWhere (· == '\x00') t).map fun r =>
    if r.isEmpty then [] else [Token.text (Token.unifyNewlines r)]
  List.intercalate [Token.null] runs

/-- Reads a section of character data after its opening mark. -/
def characterData (s : Text) : Lexeme :=
  match splitAt? "]]>".toList s with
  | some (t, r) => ⟨nulls t, r⟩
  | none => ⟨nulls s, []⟩

/-! ### Tags and declarations -/

/-- Whether a character can stand in a tag name. -/
def inTagName (c : Char) : Bool := !(isMarkupSpace c || c == '/' || c == '>')

/-- Reads a tag from its name on. -/
def tag (isStart : Bool) (s : Text) : Lexeme :=
  let name := Token.properName (s.takeWhile inTagName)
  match Token.attributes [] (s.dropWhile inTagName) with
  | none => ⟨[], []⟩
  | some (attrs, closing, r) =>
    ⟨[if isStart then .start ⟨name, attrs, closing⟩ else .stop name], r⟩

/-- Reads what follows `<!`. Character data counts only where `cdata` allows it. -/
def declaration (cdata : Bool) (s : Text) : Lexeme :=
  match after? "--".toList s with
  | some r => comment r
  | none =>
    match afterNoCase? "doctype".toList s with
    | some r => doctype r
    | none =>
      match if cdata then after? "[CDATA[".toList s else none with
      | some r => characterData r
      | none => bogusComment s

/-- Reads what follows `<`. An end tag without a name is a fault. -/
def angle (cdata : Bool) (s : Text) : Lexeme :=
  match s with
  | '!' :: r => declaration cdata r
  | '?' :: _ => bogusComment s
  | '/' :: '>' :: r => ⟨[.fault], r⟩
  | '/' :: c :: r => if c.isAlpha then tag false (c :: r) else bogusComment (c :: r)
  | ['/'] => ⟨[.text "</".toList], []⟩
  | c :: r => if c.isAlpha then tag true (c :: r) else ⟨[.text ['<']], c :: r⟩
  | [] => ⟨[.text ['<']], []⟩

/-- A character that begins nothing in markup. -/
def isOrdinary (c : Char) : Bool :=
  c != '<' && c != '&' && c != '\x00' && c != '\n' && c != '\r'

/-- Reads a reference, after its ampersand, in a text. Each character it stands for is a token, and
so is the part of the input that was looked at in vain. -/
def reference (s : Text) : Lexeme :=
  let ref := Reference.read false s
  let tokens := (if ref.fault then [.fault] else []) ++ ref.chars.map fun c => Token.text [c]
  if ref.held.isEmpty || !ref.held.all isOrdinary then ⟨tokens, ref.left⟩
  else ⟨tokens ++ [.text ref.held], ref.rest⟩

/-- Reads a run of characters that satisfy `p`. -/
def run (p : Char → Bool) (s : Text) : Lexeme :=
  ⟨[.text (Token.plainText (s.takeWhile p))], s.dropWhile p⟩

/-- Reads markup. A line feed is a token of its own. -/
def markup (cdata : Bool) (s : Text) : Lexeme :=
  match s with
  | [] => ⟨[], []⟩
  | '<' :: r => angle cdata r
  | '&' :: r => reference r
  | '\x00' :: r => ⟨[.null], r⟩
  | '\n' :: r => ⟨[.text ['\n']], r⟩
  | '\r' :: r => ⟨[.text ['\n']], Token.dropNewline r⟩
  | _ => run isOrdinary s

/-! ### Text up to an end tag -/

/-- Whether the end tag of an element begins here. -/
def endsHere (name : Text) (s : Text) : Bool :=
  match (after? "</".toList s).bind (afterNoCase? name) with
  | some (c :: _) => !inTagName c
  | _ => false

/-- Reads the text of an element in which references count. -/
def escapable (name : Text) (s : Text) : Lexeme :=
  match s with
  | [] => ⟨[], []⟩
  | '<' :: r => if endsHere name s then tag false (r.drop 1) else ⟨[.text ['<']], r⟩
  | '&' :: r => reference r
  | _ => run (fun c => c != '<' && c != '&') s

/-- What stands before the end tag of an element, and the input from there on. -/
def untilEnd (name : Text) : Text → Text × Text
  | [] => ([], [])
  | c :: r =>
    if endsHere name (c :: r) then ([], c :: r)
    else ((c :: (untilEnd name r).1), (untilEnd name r).2)

/-- Whether a script is inside a comment, or inside a script inside a comment. -/
inductive ScriptDepth where
  | top | comment | nested
  deriving DecidableEq

/-- Whether the word `script` stands here with the end of a tag name after it. -/
def scriptWord (s : Text) : Bool :=
  match afterNoCase? "script".toList s with
  | some (c :: _) => !inTagName c
  | _ => false

/-- What stands before the end tag of a script, and the input from there on. An end tag inside a
comment inside the script ends it too, unless a start tag before it in the comment has none yet.
`dashes` counts the dashes just before. -/
def scriptUntilEnd (depth : ScriptDepth) (dashes : Nat) : Text → Text × Text
  | [] => ([], [])
  | c :: r =>
    let go (depth : ScriptDepth) (dashes : Nat) : Text × Text :=
      ((c :: (scriptUntilEnd depth dashes r).1), (scriptUntilEnd depth dashes r).2)
    if depth != .nested && endsHere "script".toList (c :: r) then ([], c :: r)
    else match depth with
      | .top => if (after? "<!--".toList (c :: r)).isSome then go .comment 0 else go .top 0
      | .comment =>
        if c == '-' then go .comment (dashes + 1)
        else if c == '>' && 2 ≤ dashes then go .top 0
        else if c == '<' && scriptWord r then go .nested 0
        else go .comment 0
      | .nested =>
        if c == '-' then go .nested (dashes + 1)
        else if c == '>' && 2 ≤ dashes then go .top 0
        else if c == '<' && r.head? == some '/' && scriptWord r.tail then go .comment 0
        else go .nested 0

/-- The text before an end tag or, if there is none, the end tag. -/
def upTo (split : Text × Text) : Lexeme :=
  if split.1.isEmpty then tag false (split.2.drop 2)
  else ⟨[.text (Token.plainText split.1)], split.2⟩

/-- Drops a byte-order mark at the start. -/
def dropMark (s : Text) : Text := (after? ['\uFEFF'] s).getD s

theorem dropMark_eq_self {s : Text} (h : s.head? ≠ some '\uFEFF') : dropMark s = s := by
  cases s with
  | nil => rfl
  | cons c r =>
    have hc : ('\uFEFF' == c) = false := beq_false_of_ne fun hc => h (by rw [← hc]; rfl)
    rw [dropMark, after?, hc]
    rfl

/-- The text of a script or, if there is none before its end tag, the end tag. The page is read on
after that tag as if it started there: a byte-order mark is skipped. -/
def script (s : Text) : Lexeme :=
  let split := scriptUntilEnd .top 0 s
  if split.1.isEmpty then ⟨(upTo split).tokens, dropMark (upTo split).rest⟩ else upTo split

/-- The first lexeme of an input. `name` is the name of the last start tag. -/
def next (mode : ReadingMode) (name : Text) (cdata : Bool) (s : Text) : Lexeme :=
  match mode with
  | .markup => markup cdata s
  | .escapable => escapable name s
  | .raw => upTo (untilEnd name s)
  | .script => script s
  | .plain => ⟨[.text (Token.plainText s)], []⟩

end Lexeme

end HtmlCanon.Html
