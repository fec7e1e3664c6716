import HtmlCanon.Digits

/-!
# CSS tokens

The tokens of a selector. Comments separate tokens but are none; what no selector holds is a token
of its own kind.
-/

namespace HtmlCanon.Css

/-- A token. The text of a name or a string is what its escapes stand for. -/
inductive Token where
  | ident (t : Text)
  | function (name : Text)
  | idHash (t : Text)
  | string (t : Text)
  /-- A number; its value is given if it is written as an integer. -/
  | number (signed : Bool) (value : Option Int)
  | dimension (value : Option Int) (unit : Text)
  | delim (c : Char)
  | whitespace
  | colon
  | comma
  | includeMatch
  | dashMatch
  | prefixMatch
  | suffixMatch
  | substringMatch
  | openParen
  | openSquare
  | openCurly
  | closeParen
  | closeSquare
  | closeCurly
  | other
  deriving DecidableEq, Repr

namespace Token

/-- The characters that end a line. -/
def isNewline (c : Char) : Bool := c == '\n' || c == '\r' || c == '\x0c'

/-- The characters of a name, escapes aside. -/
def isNameChar (c : Char) : Bool :=
  isAsciiAlphanum c || c == '_' || c == '-' || c == '\x00' || 0x80 ≤ c.toNat

/-- The characters that a name starts with, escapes aside. -/
def isNameStart (c : Char) : Bool := c.isAlpha || c == '_' || c == '\x00' || 0x80 ≤ c.toNat

/-- Whether a name starts here. A backslash starts an escape unless the line ends behind it. -/
def startsName : Text → Bool
  | '-' :: c :: _ => isNameStart c || c == '-' || c == '\\'
  | '\\' :: c :: _ => !isNewline c
  | ['\\'] => true
  | c :: _ => isNameStart c
  | [] => false

/-- Whether a number starts here, a sign aside. -/
def startsDigits : Text → Bool
  | '.' :: c :: _ => c.isDigit
  | c :: _ => c.isDigit
  | [] => false

/-- The character that stands for what is no character. -/
def replacement : Char := '\uFFFD'

/-- What follows a line break, which two characters may make up. -/
def afterNewline : Text → Text
  | '\r' :: '\n' :: r => r
  | _ :: r => r
  | [] => []

/-- The character of a hexadecimal code. -/
def ofCode (n : Nat) : Char := if n != 0 && n.isValidChar then Char.ofNat n else replacement

/-- Reads an escape behind its backslash: a code of at most six digits and one blank, or any other
character for itself. -/
def escape (s : Text) : Char × Text :=
  match s with
  | [] => (replacement, [])
  | c :: r =>
    let ds := (s.take 6).takeWhile (isDigitIn 16)
    if ds.isEmpty then (if c == '\x00' then replacement else c, r)
    else
      let rest := s.drop ds.length
      let rest := match rest with
        | d :: r =>
          if isNewline d then afterNewline rest else if d == ' ' || d == '\t' then r else rest
        | [] => []
      (ofCode (ofDigits 16 ds), rest)

/-- Reads a name, its characters so far given last one first. Every step takes a character. -/
def nameFrom : Nat → Text → Text → Text × Text
  | 0, acc, s => (acc.reverse, s)
  | n + 1, acc, s =>
    match s with
    | [] => (acc.reverse, [])
    | '\\' :: r =>
      if r.head?.any isNewline then (acc.reverse, s)
      else
        let (c, r) := escape r
        nameFrom n (c :: acc) r
    | c :: r =>
      if isNameChar c then nameFrom n ((if c == '\x00' then replacement else c) :: acc) r
      else (acc.reverse, s)

/-- Reads a name. -/
def name (s : Text) : Text × Text := nameFrom s.length [] s

/-- Reads a string up to its closing quote or the end of the text, the opening quote being read. A
string that holds an unescaped line break is none. -/
def stringFrom (quote : Char) : Nat → Text → Text → Token × Text
  | 0, acc, s => (.string acc.reverse, s)
  | n + 1, acc, s =>
    match s with
    | [] => (.string acc.reverse, [])
    | '\\' :: r =>
      match r with
      | [] => (.string acc.reverse, [])
      | c :: _ =>
        if isNewline c then stringFrom quote n acc (afterNewline r)
        else
          let (c, r) := escape r
          stringFrom quote n (c :: acc) r
    | c :: r =>
      if c == quote then (.string acc.reverse, r)
      else if isNewline c then (.other, s)
      else stringFrom quote n ((if c == '\x00' then replacement else c) :: acc) r

/-- What follows a comment; without an end the comment goes on to the end of the text. -/
def afterComment (s : Text) : Text := ((splitAt? "*/".toList s).map (·.2)).getD []

/-- The largest integer of a selector; greater ones count as it. -/
def maxInt : Int := 2147483647

/-- An integer within the bounds of a selector. -/
def clamp (n : Int) : Int := max (-maxInt - 1) (min maxInt n)

/-- Whether an exponent stands here, and how many characters come before its digits. -/
def exponentStart? : Text → Option Nat
  | e :: '+' :: d :: _ => if (e == 'e' || e == 'E') && d.isDigit then some 2 else none
  | e :: '-' :: d :: _ => if (e == 'e' || e == 'E') && d.isDigit then some 2 else none
  | e :: d :: _ => if (e == 'e' || e == 'E') && d.isDigit then some 1 else none
  | _ => none

/-- Reads a number with its sign, and the unit behind it. -/
def numeric (s : Text) : Token × Text :=
  let (signed, negative, r) := match s with
    | '+' :: r => (true, false, r)
    | '-' :: r => (true, true, r)
    | r => (false, false, r)
  let whole := r.takeWhile Char.isDigit
  let r := r.dropWhile Char.isDigit
  let (part, r) := match r with
    | '.' :: d :: t => if d.isDigit then (true, (d :: t).dropWhile Char.isDigit) else (false, r)
    | _ => (false, r)
  let (exponent, r) := match exponentStart? r with
    | some n => (true, (r.drop n).dropWhile Char.isDigit)
    | none => (false, r)
  let n : Int := ofDigits 10 whole
  let value := if part || exponent then none else some (clamp (if negative then -n else n))
  match r with
  | '%' :: r => (.other, r)
  | r =>
    if startsName r then
      let (unit, r) := name r
      (.dimension value unit, r)
    else (.number signed value, r)

/-- Reads a name, and the parenthesis behind it if it is that of a function. -/
def identLike (s : Text) : Token × Text :=
  let (t, r) := name s
  match r with
  | '(' :: r => (.function t, r)
  | r => (.ident t, r)

/-- Reads a token or a comment. -/
def next (c : Char) (r : Text) : Option Token × Text :=
  let one (t : Token) : Option Token × Text := (some t, r)
  let read (p : Token × Text) : Option Token × Text := (some p.1, p.2)
  let orMatch (t : Token) : Option Token × Text :=
    match r with
    | '=' :: r => (some t, r)
    | r => (some (.delim c), r)
  let blank (c : Char) : Bool := c == ' ' || c == '\t' || isNewline c
  if blank c then (some .whitespace, r.dropWhile blank)
  else match c with
    | '"' => read (stringFrom '"' (r.length + 1) [] r)
    | '\'' => read (stringFrom '\'' (r.length + 1) [] r)
    | '#' =>
      if startsName r then
        let (t, r) := name r
        (some (.idHash t), r)
      else one .other
    | '$' => orMatch .suffixMatch
    | '*' => orMatch .substringMatch
    | '^' => orMatch .prefixMatch
    | '|' => orMatch .dashMatch
    | '~' => orMatch .includeMatch
    | '(' => one .openParen
    | ')' => one .closeParen
    | '[' => one .openSquare
    | ']' => one .closeSquare
    | '\x7b' => one .openCurly
    | '\x7d' => one .closeCurly
    | ',' => one .comma
    | ':' => one .colon
    | '+' => if startsDigits r then read (numeric (c :: r)) else one (.delim c)
    | '-' =>
      if startsDigits r then read (numeric (c :: r))
      else if (after? "->".toList r).isSome then one .other
      else if startsName (c :: r) then read (identLike (c :: r))
      else one (.delim c)
    | '/' =>
      match r with
      | '*' :: r => (none, afterComment r)
      | r => (some (.delim c), r)
    | c =>
      if startsDigits (c :: r) then read (numeric (c :: r))
      else if startsName (c :: r) then read (identLike (c :: r))
      else one (.delim c)

/-- Cuts a text into tokens. Every step takes a character. -/
def cut : Nat → Text → List Token
  | 0, _ => []
  | n + 1, s =>
    match s with
    | [] => []
    | c :: r =>
      match next c r with
      | (some t, r) => t :: cut n r
      | (none, r) => cut n r

/-- The tokens of a text. -/
def ofText (s : Text) : List Token := cut s.length s

end Token

end HtmlCanon.Css
