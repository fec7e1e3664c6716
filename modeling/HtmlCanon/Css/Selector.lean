import HtmlCanon.Css.Token

/-!
# Selectors

A selector is a list of alternatives. Each describes an element by conditions on it and, through
combinators, by conditions on elements above it and before it.
-/

namespace HtmlCanon.Css

/-- How the value of an attribute is compared with a given text. -/
inductive AttrOp where
  | equal | includes | dash | start | stop | substring
  deriving DecidableEq, Repr

/-- Whether capitals and small letters are told apart; for some attributes that depends on whether
the element is one of HTML. -/
inductive CaseRule where
  | sensitive | insensitive | insensitiveInHtml
  deriving DecidableEq, Repr

/-- A condition on the value of an attribute. -/
structure ValueTest where
  op : AttrOp
  value : Text
  caseRule : CaseRule
  deriving DecidableEq, Repr

/-- A condition that a single word asks for. -/
inductive PseudoClass where
  | firstChild | lastChild | onlyChild | firstOfType | lastOfType | onlyOfType
  | root | empty | link | never
  deriving DecidableEq, Repr

/-- A condition on an element. -/
inductive Condition where
  /-- The name of the element. -/
  | type (name : Text)
  | universal
  /-- An element without a namespace, of which there are none. -/
  | noNamespace
  | id (t : Text)
  | classToken (t : Text)
  /-- An attribute in no namespace, or in any. -/
  | attribute (anyNamespace : Bool) (name : Text) (test : Option ValueTest)
  | pseudo (p : PseudoClass)
  /-- The place among the siblings, or among those of the same type, from the start or from the end:
  of the form `a * n + b` for a natural number `n`. -/
  | nth (a b : Int) (fromEnd ofType : Bool)
  | not (cs : List Condition)
  deriving Repr

/-- How an element lies to another one. -/
inductive Combinator where
  | descendant | child | nextSibling | laterSibling
  deriving DecidableEq, Repr

/-- A description of an element: conditions on it and, from the nearest on, how elements lie to each
other and conditions on them. -/
structure Complex where
  conditions : List Condition
  before : List (Combinator × List Condition)
  deriving Repr

/-- A selector: an element fits if it fits one of the alternatives. -/
abbrev Selector := List Complex

namespace Selector

/-- The tokens that are left to read. -/
abbrev Tokens := List Token

/-- Skips white space. -/
def skipSpace : Tokens → Tokens
  | .whitespace :: ts => skipSpace ts
  | ts => ts

/-! ### Names and attributes -/

/-- The name behind a namespace and its bar; none stands for a star. -/
def nameAfterBar? (star : Bool) : Tokens → Option (Option Text × Tokens)
  | .ident t :: ts => some (some t, ts)
  | .delim c :: ts => if star && c == '*' then some (none, ts) else none
  | _ => none

/-- The condition on the name of an element. -/
def typeCondition : Option Text → Condition
  | some t => .type t
  | none => .universal

/-- Reads the name of an element type, with or without a namespace. No namespace has a name here.
The outer result is none for an error, the inner one if no type stands here. -/
def type? : Tokens → Option (Option (List Condition × Tokens))
  | .ident _ :: .delim '|' :: _ => none
  | .ident t :: ts => some (some ([.type t], ts))
  | .delim '*' :: .delim '|' :: ts =>
    (nameAfterBar? true ts).map fun (n, ts) => some ([typeCondition n], ts)
  | .delim '*' :: ts => some (some ([.universal], ts))
  | .delim '|' :: ts =>
    (nameAfterBar? true ts).map fun (n, ts) => some ([.noNamespace, typeCondition n], ts)
  | _ => some none

/-- The comparison that a token stands for. -/
def attrOp? : Token → Option AttrOp
  | .delim '=' => some .equal
  | .includeMatch => some .includes
  | .dashMatch => some .dash
  | .prefixMatch => some .start
  | .suffixMatch => some .stop
  | .substringMatch => some .substring
  | _ => none

/-- The attributes of HTML whose values are compared without regard to case. -/
def caselessAttrs : List String :=
  ["accept", "accept-charset", "align", "alink", "axis", "bgcolor", "charset", "checked", "clear",
    "codetype", "color", "compact", "declare", "defer", "dir", "direction", "disabled", "enctype",
    "face", "frame", "hreflang", "http-equiv", "lang", "language", "link", "media", "method",
    "multiple", "nohref", "noresize", "noshade", "nowrap", "readonly", "rel", "rev", "rules",
    "scope", "scrolling", "selected", "shape", "target", "text", "type", "valign", "valuetype",
    "vlink"]

/-- The case rule of an attribute without a flag. -/
def defaultCase (anyNamespace : Bool) (name : Text) : CaseRule :=
  if !anyNamespace && caselessAttrs.contains (String.ofList (lowerText name)) then
    .insensitiveInHtml
  else .sensitive

/-- Reads what closes a block; the end of the text does too. -/
def close? (stop : Token) (ts : Tokens) : Option Tokens :=
  match skipSpace ts with
  | [] => some []
  | t :: ts => if t == stop then some ts else none

/-- Reads the flag of an attribute condition, if there is one. -/
def caseFlag? (default : CaseRule) (ts : Tokens) : Option (CaseRule × Tokens) :=
  match skipSpace ts with
  | .ident t :: ts =>
    if lowerText t == ['i'] then some (.insensitive, ts)
    else if lowerText t == ['s'] then some (.sensitive, ts)
    else none
  | ts => some (default, ts)

/-- Reads the name of an attribute and whether its namespace does not matter. -/
def attrName? : Tokens → Option (Bool × Text × Tokens)
  | .ident _ :: .delim '|' :: _ => none
  | .ident t :: ts => some (false, t, ts)
  | .delim '*' :: .delim '|' :: .ident t :: ts => some (true, t, ts)
  | .delim '|' :: .ident t :: ts => some (false, t, ts)
  | _ => none

/-- Reads an attribute condition behind its bracket. -/
def attribute? (ts : Tokens) : Option (Condition × Tokens) := do
  let (anyNs, name, ts) ← attrName? (skipSpace ts)
  match close? .closeSquare ts with
  | some ts => pure (.attribute anyNs name none, ts)
  | none =>
    match skipSpace ts with
    | [] => none
    | t :: ts =>
      let op ← attrOp? t
      let (value, ts) ← match skipSpace ts with
        | .ident v :: ts => some (v, ts)
        | .string v :: ts => some (v, ts)
        | _ => none
      let (caseRule, ts) ← caseFlag? (defaultCase anyNs name) ts
      let ts ← close? .closeSquare ts
      pure (.attribute anyNs name (some ⟨op, value, caseRule⟩), ts)

/-! ### Places among siblings -/

/-- The number behind a sign that stands apart. -/
def apartNumber? (negative : Bool) (ts : Tokens) : Option (Int × Tokens) :=
  match skipSpace ts with
  | .number false (some b) :: ts => some (if negative then -b else b, ts)
  | _ => none

/-- Reads what is added to the multiple of `n`, if anything is. -/
def added? (ts : Tokens) : Option (Int × Tokens) :=
  match skipSpace ts with
  | .delim '+' :: ts => apartNumber? false ts
  | .delim '-' :: ts => apartNumber? true ts
  | .number true (some b) :: ts => some (b, ts)
  | _ => some (0, ts)

/-- Reads what follows a multiple of `n`, given the text from the letter on. -/
def multiple? (a : Int) (unit : Text) (ts : Tokens) : Option ((Int × Int) × Tokens) :=
  match lowerText unit with
  | ['n'] => (added? ts).map fun (b, ts) => ((a, b), ts)
  | ['n', '-'] => (apartNumber? true ts).map fun (b, ts) => ((a, b), ts)
  | 'n' :: '-' :: ds =>
    if !ds.isEmpty && ds.all Char.isDigit then
      some ((a, Token.clamp (-(ofDigits 10 ds : Int))), ts)
    else none
  | _ => none

/-- Reads the places that are asked for. -/
def places? (ts : Tokens) : Option ((Int × Int) × Tokens) :=
  match skipSpace ts with
  | .number _ (some b) :: ts => some ((0, b), ts)
  | .dimension (some a) unit :: ts => multiple? a unit ts
  | .ident t :: ts =>
    if lowerText t == "even".toList then some ((2, 0), ts)
    else if lowerText t == "odd".toList then some ((2, 1), ts)
    else match t with
      | '-' :: unit => multiple? (-1) unit ts
      | unit => multiple? 1 unit ts
  | .delim '+' :: .ident t :: ts => multiple? 1 t ts
  | _ => none

/-! ### Conditions -/

/-- The conditions that a single word asks for. -/
def pseudoClass? (name : Text) : Option PseudoClass :=
  match String.ofList (lowerText name) with
  | "first-child" => some .firstChild
  | "last-child" => some .lastChild
  | "only-child" => some .onlyChild
  | "first-of-type" => some .firstOfType
  | "last-of-type" => some .lastOfType
  | "only-of-type" => some .onlyOfType
  | "root" => some .root
  | "scope" => some .root
  | "empty" => some .empty
  | "link" => some .link
  | "any-link" => some .link
  | "visited" => some .never
  | "active" => some .never
  | "focus" => some .never
  | "hover" => some .never
  | "enabled" => some .never
  | "disabled" => some .never
  | "checked" => some .never
  | "indeterminate" => some .never
  | _ => none

/-- The places that a function asks for: whether they are counted from the end, and whether among
siblings of the same type. -/
def nthKind? (name : Text) : Option (Bool × Bool) :=
  match String.ofList (lowerText name) with
  | "nth-child" => some (false, false)
  | "nth-last-child" => some (true, false)
  | "nth-of-type" => some (false, true)
  | "nth-last-of-type" => some (true, true)
  | _ => none

/-- Reads a condition other than a type or a negation. The outer result is none for an error, the
inner one if no condition stands here. -/
def plainCondition? : Tokens → Option (Option (Condition × Tokens))
  | .idHash t :: ts => some (some (.id t, ts))
  | .delim '.' :: ts =>
    match ts with
    | .ident t :: ts => some (some (.classToken t, ts))
    | _ => none
  | .openSquare :: ts => (attribute? ts).map some
  | .colon :: .ident t :: ts => (pseudoClass? t).map fun p => some (.pseudo p, ts)
  | .colon :: .function t :: ts => do
    let (fromEnd, ofType) ← nthKind? t
    let ((a, b), ts) ← places? ts
    let ts ← close? .closeParen ts
    pure (some (.nth a b fromEnd ofType, ts))
  | .colon :: _ => none
  | _ => some none

/-- Reads what is negated: a type or a single condition that is no negation itself. -/
def negated? (ts : Tokens) : Option (Condition × Tokens) := do
  let ts := skipSpace ts
  let (cs, ts) ← match ← type? ts with
    | some r => some r
    | none => do
      let (c, ts) ← (← plainCondition? ts)
      pure ([c], ts)
  let ts ← close? .closeParen ts
  pure (.not cs, ts)

/-- Reads a condition other than a type. -/
def condition? : Tokens → Option (Option (Condition × Tokens))
  | .colon :: .function t :: ts =>
    if lowerText t == "not".toList then (negated? ts).map some
    else plainCondition? (.colon :: .function t :: ts)
  | ts => plainCondition? ts

/-- Reads conditions as long as there are any. Each takes a token. -/
def conditions? : Nat → Tokens → Option (List Condition × Tokens)
  | 0, ts => some ([], ts)
  | n + 1, ts => do
    match ← condition? ts with
    | none => pure ([], ts)
    | some (c, ts) =>
      let (cs, ts) ← conditions? n ts
      pure (c :: cs, ts)

/-- Reads the conditions on one element, of which there is at least one. -/
def compound? (ts : Tokens) : Option (List Condition × Tokens) := do
  let ts := skipSpace ts
  let (type, ts) := (← type? ts).getD ([], ts)
  let (cs, ts) ← conditions? ts.length ts
  if type.isEmpty && cs.isEmpty then none else pure (type ++ cs, ts)

/-- The combinator that stands here, white space included; none if no element follows. -/
def combinator? (ts : Tokens) : Option (Combinator × Tokens) :=
  match skipSpace ts with
  | [] => none
  | .delim '>' :: r => some (.child, r)
  | .delim '+' :: r => some (.nextSibling, r)
  | .delim '~' :: r => some (.laterSibling, r)
  | .comma :: _ => none
  | r => if r.length < ts.length then some (.descendant, r) else none

/-- Reads one alternative, given what comes before the next element. -/
def complexFrom : Nat → List (Combinator × List Condition) → Tokens → Option (Complex × Tokens)
  | 0, _, _ => none
  | n + 1, before, ts => do
    let (cs, ts) ← compound? ts
    match combinator? ts with
    | none => pure (⟨cs, before⟩, skipSpace ts)
    | some (k, ts) => complexFrom n ((k, cs) :: before) ts

/-- Reads alternatives with commas between them, up to the end of the text. -/
def alternatives? : Nat → Tokens → Option Selector
  | 0, _ => none
  | n + 1, ts => do
    let (c, ts) ← complexFrom (ts.length + 1) [] ts
    match ts with
    | [] => pure [c]
    | .comma :: ts => pure (c :: (← alternatives? n ts))
    | _ => none

/-- Reads a selector. -/
def parse? (s : Text) : Option Selector :=
  let ts := Token.ofText s
  alternatives? (ts.length + 1) ts

end Selector

end HtmlCanon.Css
