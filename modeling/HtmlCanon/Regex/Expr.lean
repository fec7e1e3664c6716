import HtmlCanon.Regex.Syntax
import HtmlCanon.Unicode.CaseFold
import HtmlCanon.Unicode.Property

/-!
# The meaning of patterns

A pattern with its flags resolved: classes are sets of characters, anchors are exact, and every
repetition says how often and how eagerly. Where Unicode is switched off, a pattern may ask for
ASCII characters only.
-/

namespace HtmlCanon.Regex

open Unicode

/-- A condition on the place between two characters. -/
inductive Look where
  | textStart | textEnd
  | lineStart | lineEnd
  | crlfLineStart | crlfLineEnd
  | boundary (unicode : Bool)
  | notBoundary (unicode : Bool)
  | wordStart (unicode : Bool)
  | wordEnd (unicode : Bool)
  | wordStartHalf (unicode : Bool)
  | wordEndHalf (unicode : Bool)
  deriving DecidableEq, Repr

/-- A regular expression. -/
inductive Expr where
  | empty
  | char (c : Char)
  | oneOf (set : CharSet)
  | look (l : Look)
  | repetition (min : Nat) (max : Option Nat) (greedy : Bool) (sub : Expr)
  | capture (index : Nat) (name : Option Text) (sub : Expr)
  | concat (items : List Expr)
  | alternation (items : List Expr)
  deriving Repr

namespace Expr

/-- One character of a set. -/
def ofSet : CharSet → Expr
  | [(a, b)] => if a == b then char (Char.ofNat a) else oneOf [(a, b)]
  | s => oneOf s

mutual

/-- Whether an expression matches nothing but the empty text. -/
def isEmptyOnly : Expr → Bool
  | empty => true
  | char _ => false
  | oneOf _ => false
  | look _ => true
  | repetition _ _ _ e => isEmptyOnly e
  | capture _ _ e => isEmptyOnly e
  | concat es => areEmptyOnly es
  | alternation es => areEmptyOnly es

/-- Whether all of some expressions match nothing but the empty text. -/
def areEmptyOnly : List Expr → Bool
  | [] => true
  | e :: es => isEmptyOnly e && areEmptyOnly es

end

mutual

/-- Whether every match of an expression holds a character; so it is if there is no match. -/
def isProductive : Expr → Bool
  | empty => false
  | char _ => true
  | oneOf s => !s.isEmpty
  | look _ => false
  | repetition min _ _ e => min != 0 && isProductive e
  | capture _ _ e => isProductive e
  | concat es => someProductive es
  | alternation es => !es.isEmpty && allProductive es

/-- Whether one of some expressions matches no empty text. -/
def someProductive : List Expr → Bool
  | [] => false
  | e :: es => isProductive e || someProductive es

/-- Whether none of some expressions matches the empty text. -/
def allProductive : List Expr → Bool
  | [] => true
  | e :: es => isProductive e && allProductive es

end

/-- Repeats an expression. What matches nothing but the empty text is not repeated more
than once. -/
def repeated (min : Nat) (max : Option Nat) (greedy : Bool) (sub : Expr) : Expr :=
  let (min, max) :=
    if sub.isEmptyOnly then (Nat.min min 1, some ((max.map (Nat.min 1)).getD 1)) else (min, max)
  if min == 0 && max == some 0 then empty
  else if min == 1 && max == some 1 then sub
  else repetition min max greedy sub

end Expr

/-- The state of the flags, verbose mode apart. -/
structure Flags where
  caseInsensitive : Bool
  multiLine : Bool
  dotAll : Bool
  swapGreed : Bool
  unicode : Bool
  crlf : Bool

namespace Flags

/-- The flags at the start of a pattern. -/
def initial : Flags := ⟨false, false, false, false, true, false⟩

/-- The flags after some of them are set. -/
def update (f : Flags) (fs : FlagSettings) : Flags :=
  { caseInsensitive := (fs.lookup .caseInsensitive).getD f.caseInsensitive
    multiLine := (fs.lookup .multiLine).getD f.multiLine
    dotAll := (fs.lookup .dotAll).getD f.dotAll
    swapGreed := (fs.lookup .swapGreed).getD f.swapGreed
    unicode := (fs.lookup .unicode).getD f.unicode
    crlf := (fs.lookup .crlf).getD f.crlf }

/-- The ASCII letters of a set in both cases. -/
def closeAsciiCase (s : CharSet) : CharSet :=
  let capitals := s.inter [('A'.toNat, 'Z'.toNat)]
  let smalls := s.inter [('a'.toNat, 'z'.toNat)]
  CharSet.normalize (s ++ (capitals.map fun (a, b) => (a + 32, b + 32)) ++
    smalls.map fun (a, b) => (a - 32, b - 32))

/-- A set together with what differs in case alone, if the flags ask for it. -/
def fold (f : Flags) (s : CharSet) : CharSet :=
  if !f.caseInsensitive then s else if f.unicode then s.closeCase else closeAsciiCase s

/-- The set that a class names. Without Unicode it has to be ASCII. -/
def checked (f : Flags) (s : CharSet) : Option CharSet :=
  if f.unicode || s.isAscii then some s else none

/-- The complement of a set if a class is negated; then case is taken into account first. -/
def foldNegate (f : Flags) (negated : Bool) (s : CharSet) : Option CharSet :=
  let s := f.fold s
  f.checked (if negated then s.compl else s)

/-- The character that a literal stands for. Without Unicode two digits give a byte, which has to be
ASCII. -/
def literal? (f : Flags) (l : Literal) : Option Char :=
  if f.unicode || !l.twoDigits || l.char.toNat < 0x80 then some l.char else none

/-- A literal inside brackets; without Unicode it has to be ASCII. -/
def member? (f : Flags) (l : Literal) : Option Char :=
  if f.unicode || l.char.toNat < 0x80 then some l.char else none

/-- The characters of a class of ASCII characters. -/
def asciiSet (name : String) : CharSet :=
  let of (s : String) : List (Nat × Nat) := s.toList.map fun c => (c.toNat, c.toNat)
  let digits := ('0'.toNat, '9'.toNat)
  let capitals := ('A'.toNat, 'Z'.toNat)
  let smalls := ('a'.toNat, 'z'.toNat)
  CharSet.normalize <| match name with
    | "alnum" => [digits, capitals, smalls]
    | "alpha" => [capitals, smalls]
    | "ascii" => [(0, 0x7F)]
    | "blank" => of "\t "
    | "cntrl" => [(0, 0x1F), (0x7F, 0x7F)]
    | "digit" => [digits]
    | "graph" => [(0x21, 0x7E)]
    | "lower" => [smalls]
    | "print" => [(0x20, 0x7E)]
    | "punct" => [(0x21, 0x2F), (0x3A, 0x40), (0x5B, 0x60), (0x7B, 0x7E)]
    | "space" => of "\t\n\x0b\x0c\r "
    | "upper" => [capitals]
    | "word" => [digits, capitals, smalls, (0x5F, 0x5F)]
    | "xdigit" => [digits, ('A'.toNat, 'F'.toNat), ('a'.toNat, 'f'.toNat)]
    | _ => []

/-- The characters of a class that is named by a letter. -/
def letterSet (f : Flags) : LetterClass → CharSet
  | .digit => if f.unicode then decimalDigits else asciiSet "digit"
  | .space => if f.unicode then whiteSpace else asciiSet "space"
  | .word => if f.unicode then wordChars else asciiSet "word"

/-- The characters with a property. -/
def propertySet? : Property → Option CharSet
  | .named n => named? n
  | .valued n v => valued? n v

/-- Combines two sets. -/
def applyOp : SetOp → CharSet → CharSet → CharSet
  | .intersection, s, t => s.inter t
  | .difference, s, t => s.diff t
  | .symmetricDifference, s, t => s.symmDiff t

mutual

/-- The characters of a class. -/
def set? (f : Flags) : ClassExpr → Option CharSet
  | .empty => some []
  | .literal l => (f.member? l).map CharSet.singleton
  | .range a b => do pure (CharSet.range (← f.member? a) (← f.member? b))
  | .ascii name negated => f.foldNegate negated (asciiSet name)
  | .letter k negated => f.checked (if negated then (f.letterSet k).compl else f.letterSet k)
  | .property p negated => if f.unicode then (propertySet? p).bind (f.foldNegate negated) else none
  | .brackets negated inner => (set? f inner).bind (f.foldNegate negated)
  | .union items => unionSet? f items
  | .op o l r => do
    let s ← set? f l
    let t ← set? f r
    pure (applyOp o (f.fold s) (f.fold t))

/-- The characters of some classes together. -/
def unionSet? (f : Flags) : List ClassExpr → Option CharSet
  | [] => some []
  | c :: cs => do pure ((← set? f c).union (← unionSet? f cs))

end

/-- A literal character, in both cases if the flags ask for it. -/
def charExpr (f : Flags) (c : Char) : Expr :=
  if f.caseInsensitive && (f.unicode || c.toNat < 0x80) then
    Expr.ofSet (f.fold (CharSet.singleton c))
  else .char c

/-- Any character, or any but those that end a line. -/
def dot? (f : Flags) : Option Expr :=
  if !f.unicode then none
  else if f.dotAll then some (.oneOf CharSet.full)
  else if f.crlf then some (.oneOf (CharSet.compl [(0x0A, 0x0A), (0x0D, 0x0D)]))
  else some (.oneOf (CharSet.compl [(0x0A, 0x0A)]))

/-- The condition that an anchor stands for. -/
def lookOf (f : Flags) : Anchor → Look
  | .lineStart => if !f.multiLine then .textStart else if f.crlf then .crlfLineStart else .lineStart
  | .lineEnd => if !f.multiLine then .textEnd else if f.crlf then .crlfLineEnd else .lineEnd
  | .textStart => .textStart
  | .textEnd => .textEnd
  | .wordBoundary => .boundary f.unicode
  | .notWordBoundary => .notBoundary f.unicode
  | .wordStart => .wordStart f.unicode
  | .wordEnd => .wordEnd f.unicode
  | .wordStartHalf => .wordStartHalf f.unicode
  | .wordEndHalf => .wordEndHalf f.unicode

end Flags

mutual

/-- The expression that a pattern stands for under some flags, and the flags behind it. A group
leaves the flags as they were before it. -/
def Syntax.toExpr? (f : Flags) : Syntax → Option (Expr × Flags)
  | .empty => some (.empty, f)
  | .flags fs => some (.empty, f.update fs)
  | .literal l => do pure (f.charExpr (← f.literal? l), f)
  | .dot => do pure (← f.dot?, f)
  | .anchor a => some (.look (f.lookOf a), f)
  | .charClass c => do pure (Expr.ofSet (← f.set? c), f)
  | .repetition min max greedy s => do
    let (e, g) ← s.toExpr? f
    pure (Expr.repeated min max (greedy != g.swapGreed) e, g)
  | .capture i name s => do
    let (e, _) ← s.toExpr? f
    pure (.capture i name e, f)
  | .group fs s => do
    let (e, _) ← s.toExpr? (f.update fs)
    pure (e, f)
  | .alternation ss => do
    let (es, g) ← Syntax.toExprs? f ss
    pure (.alternation es, g)
  | .concat ss => do
    let (es, g) ← Syntax.toExprs? f ss
    pure (.concat es, g)

/-- The expressions that some patterns stand for, one after the other. -/
def Syntax.toExprs? (f : Flags) : List Syntax → Option (List Expr × Flags)
  | [] => some ([], f)
  | s :: ss => do
    let (e, f) ← s.toExpr? f
    let (es, f) ← Syntax.toExprs? f ss
    pure (e :: es, f)

end

end HtmlCanon.Regex
