import HtmlCanon.Regex.Reader

/-!
# Classes in brackets

A class lists characters, ranges and other classes. Lists joined by `&&`, `--` or `~~` are combined
from left to right.
-/

namespace HtmlCanon.Regex

namespace Reader

/-- The names of the classes of ASCII characters. -/
def asciiNames : List String :=
  ["alnum", "alpha", "ascii", "blank", "cntrl", "digit", "graph", "lower", "print", "punct",
    "space", "upper", "word", "xdigit"]

/-- A class of ASCII characters such as `[:alpha:]`, if one stands here. -/
def asciiClass? : Reader (Option ClassExpr) := do
  let s ← get
  match after? "[:".toList s.rest with
  | none => pure none
  | some r =>
    let (negated, r) := match r with
      | '^' :: r => (true, r)
      | r => (false, r)
    let name := String.ofList (r.takeWhile (· != ':'))
    match after? ":]".toList (r.dropWhile (· != ':')) with
    | some r =>
      if asciiNames.contains name then
        set { s with rest := r }
        pure (some (.ascii name negated))
      else pure none
    | none => pure none

/-- A single part inside brackets. -/
def classPart : Reader Part := do
  let c ← current
  if c == '\\' then escape
  else
    advance
    pure (.literal ⟨c, false⟩)

/-- A part inside brackets as a class; anchors have no place there. -/
def Part.toClass? : Part → Option ClassExpr
  | .literal l => some (.literal l)
  | .charClass c => some c
  | _ => none

/-- A part inside brackets as the end of a range. -/
def Part.toLiteral? : Part → Option Literal
  | .literal l => some l
  | _ => none

/-- A part inside brackets or a range of characters. -/
def classRange : Reader ClassExpr := do
  let first ← classPart
  skipSpace
  let c ← current
  let second ← peekSecond?
  if c != '-' || second == some ']' || second == some '-' then first.toClass?
  else
    advanceInside
    let last ← classPart
    let a ← first.toLiteral?
    let b ← last.toLiteral?
    if b.char < a.char then failure
    pure (.range a b)

/-- Hyphens at the start of a class, which stand for themselves. -/
def leadingHyphens : Nat → List ClassExpr → Reader (List ClassExpr)
  | 0, acc => pure acc
  | n + 1, acc => do
    if (← current) == '-' then
      advanceInside
      leadingHyphens n (.literal ⟨'-', false⟩ :: acc)
    else pure acc

/-- The operator between two sets that stands here. -/
def setOp? : Reader (Option SetOp) := do
  if ← accept "&&" then pure (some .intersection)
  else if ← accept "--" then pure (some .difference)
  else if ← accept "~~" then pure (some .symmetricDifference)
  else pure none

/-- The sets combined so far with the items that follow. -/
def combine (left : Option (ClassExpr × SetOp)) (items : List ClassExpr) : ClassExpr :=
  let right := ClassExpr.ofItems items.reverse
  match left with
  | none => right
  | some (l, o) => .op o l right

mutual

/-- Reads a class that stands at its opening bracket. -/
def brackets : Nat → Reader ClassExpr
  | 0 => failure
  | n + 1 => do
    advanceInside
    let negated := (← current) == '^'
    if negated then advanceInside
    let hyphens ← leadingHyphens (← bound) []
    let items ←
      if hyphens.isEmpty && (← current) == ']' then do
        advanceInside
        pure [ClassExpr.literal ⟨']', false⟩]
      else pure hyphens
    pure (.brackets negated (← bracketItems n none items))

/-- Reads the rest of a class, given the sets before an operator and the items after it, the last
one first. -/
def bracketItems : Nat → Option (ClassExpr × SetOp) → List ClassExpr → Reader ClassExpr
  | 0, _, _ => failure
  | n + 1, left, items => do
    skipSpace
    let c ← current
    if c == '[' then
      match ← asciiClass? with
      | some k => bracketItems n left (k :: items)
      | none => do
        let k ← brackets n
        bracketItems n left (k :: items)
    else if c == ']' then
      advance
      pure (combine left items)
    else
      match ← setOp? with
      | some o => bracketItems n (some (combine left items, o)) []
      | none => do
        let k ← classRange
        bracketItems n left (k :: items)

end

end Reader

end HtmlCanon.Regex
