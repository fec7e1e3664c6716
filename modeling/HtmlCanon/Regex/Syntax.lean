import HtmlCanon.Text

/-!
# The syntax of patterns

A pattern as it is written. What its parts mean depends on the flags that hold where they stand.
-/

namespace HtmlCanon.Regex

/-- A switch that a pattern can set. -/
inductive Flag where
  | caseInsensitive | multiLine | dotAll | swapGreed | unicode | crlf | verbose
  deriving DecidableEq, Repr

/-- Switches with their new states, in the order in which they are written. -/
abbrev FlagSettings := List (Flag × Bool)

/-- A place in a text that a pattern asks for. -/
inductive Anchor where
  | lineStart | lineEnd | textStart | textEnd
  | wordBoundary | notWordBoundary | wordStart | wordEnd | wordStartHalf | wordEndHalf
  deriving DecidableEq, Repr

/-- A literal character. One that is written as `\x` and two digits may stand for a byte. -/
structure Literal where
  char : Char
  twoDigits : Bool
  deriving DecidableEq, Repr

/-- The classes that are named by a letter. -/
inductive LetterClass where
  | digit | space | word
  deriving DecidableEq, Repr

/-- A property of characters that a class asks for: one name, or a name and a value. -/
inductive Property where
  | named (name : Text)
  | valued (name value : Text)
  deriving DecidableEq, Repr

/-- How two sets are combined inside brackets. -/
inductive SetOp where
  | intersection | difference | symmetricDifference
  deriving DecidableEq, Repr

/-- A class of characters. -/
inductive ClassExpr where
  | empty
  | literal (l : Literal)
  | range (first last : Literal)
  | ascii (name : String) (negated : Bool)
  | letter (k : LetterClass) (negated : Bool)
  | property (p : Property) (negated : Bool)
  | brackets (negated : Bool) (inner : ClassExpr)
  | union (items : List ClassExpr)
  | op (o : SetOp) (l r : ClassExpr)
  deriving Repr

/-- A pattern. -/
inductive Syntax where
  | empty
  | flags (fs : FlagSettings)
  | literal (l : Literal)
  | dot
  | anchor (a : Anchor)
  | charClass (c : ClassExpr)
  | repetition (min : Nat) (max : Option Nat) (greedy : Bool) (sub : Syntax)
  | capture (index : Nat) (name : Option Text) (sub : Syntax)
  | group (fs : FlagSettings) (sub : Syntax)
  | alternation (items : List Syntax)
  | concat (items : List Syntax)
  deriving Repr

/-- The union of some classes. -/
def ClassExpr.ofItems : List ClassExpr → ClassExpr
  | [] => empty
  | [c] => c
  | cs => union cs

namespace Syntax

/-- Parts one after the other. -/
def ofParts : List Syntax → Syntax
  | [] => empty
  | [s] => s
  | ss => concat ss

/-- Alternatives, of which there is at least one. -/
def ofBranches : List Syntax → Syntax
  | [s] => s
  | ss => alternation ss

end Syntax

mutual

/-- How deep a class is nested. -/
def ClassExpr.depth : ClassExpr → Nat
  | .brackets _ inner => inner.depth + 1
  | .union items => ClassExpr.maxDepth items + 1
  | .op _ l r => max l.depth r.depth + 1
  | _ => 0

/-- The greatest depth among some classes. -/
def ClassExpr.maxDepth : List ClassExpr → Nat
  | [] => 0
  | c :: cs => max c.depth (ClassExpr.maxDepth cs)

end

mutual

/-- How deep a pattern is nested. -/
def Syntax.depth : Syntax → Nat
  | .charClass c => c.depth
  | .repetition _ _ _ s => s.depth + 1
  | .capture _ _ s => s.depth + 1
  | .group _ s => s.depth + 1
  | .alternation items => Syntax.maxDepth items + 1
  | .concat items => Syntax.maxDepth items + 1
  | _ => 0

/-- The greatest depth among some patterns. -/
def Syntax.maxDepth : List Syntax → Nat
  | [] => 0
  | s :: ss => max s.depth (Syntax.maxDepth ss)

end

end HtmlCanon.Regex
