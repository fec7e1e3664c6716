import HtmlCanon.Css.Selector
import HtmlCanon.Html.Address

/-!
# Matching selectors

Which elements of a forest a selector describes. An element is seen from its trail, which shows its
siblings and the elements above it; the top level of the forest counts as lying below no element.
-/

namespace HtmlCanon

open Html

namespace Html.Trail

/-- The tag of the element that a trail ends in. -/
def tag? : Trail → Option Tag
  | l :: _ => l.here.tag?
  | [] => none

/-- The trail of the element just above. -/
def parent? : Trail → Option Trail
  | _ :: l :: up => some (l :: up)
  | _ => none

/-- The trails of the elements above, the nearest first. -/
def above : Trail → List Trail
  | [] => []
  | _ :: up => if up.isEmpty then [] else up :: above up

/-- The trails of the siblings before, the nearest first. -/
def precedingFrom (up : Trail) : List Node → List Node → List Trail
  | [], _ => []
  | b :: bs, after => (⟨bs, b, after⟩ :: up) :: precedingFrom up bs (b :: after)

/-- The trails of the elements before it under the same parent, the nearest first. -/
def preceding : Trail → List Trail
  | [] => []
  | l :: up => (precedingFrom up l.before (l.here :: l.after)).filter fun t => t.tag?.isSome

/-- The tags of the elements before it under the same parent, the nearest first. -/
def tagsBefore : Trail → List Tag
  | [] => []
  | l :: _ => l.before.filterMap Node.tag?

/-- The tags of the elements after it under the same parent. -/
def tagsAfter : Trail → List Tag
  | [] => []
  | l :: _ => l.after.filterMap Node.tag?

end Html.Trail

namespace Css

/-- The classes of an element: the parts between the white space of its `class` attribute. -/
def classes (t : Tag) : List Text := ((t.attr? "class").map (fields isMarkupSpace)).getD []

/-- Two tags of the same type. -/
def sameType (a b : Tag) : Bool := a.space == b.space && a.name == b.name

/-- The name as it is compared: elements of HTML have names in small letters. -/
def nameFor (t : Tag) (name : Text) : String :=
  String.ofList (if t.space == .html then lowerText name else name)

namespace ValueTest

/-- Whether the value of an attribute passes; `fold` makes equal what is not told apart. -/
def eval (test : ValueTest) (fold : Text → Text) (value : Text) : Bool :=
  let v := fold value
  let s := fold test.value
  match test.op with
  | .equal => v == s
  | .includes => !s.isEmpty && !s.any isMarkupSpace && (splitWhere isMarkupSpace v).contains s
  | .dash => v == s || (s ++ ['-']).isPrefixOf v
  | .start => !s.isEmpty && s.isPrefixOf v
  | .stop => !s.isEmpty && s.isSuffixOf v
  | .substring => !s.isEmpty && (splitAt? s v).isSome

/-- Whether an attribute of an element passes. -/
def passes (test : ValueTest) (t : Tag) (value : Text) : Bool :=
  let caseless : Bool := match test.caseRule with
    | .sensitive => false
    | .insensitive => true
    | .insensitiveInHtml => t.space == .html
  test.eval (if caseless then lowerText else id) value

end ValueTest

/-- Whether the place `index` is of the form `a * n + b`. -/
def isPlace (a b : Int) (index : Nat) : Bool :=
  let d := (index : Int) - b
  if Token.maxInt < d then false
  else if a == 0 then d == 0
  else Int.tmod d a == 0 && 0 ≤ Int.tdiv d a

/-- The place of an element, one being the first, given the tags on one side of it. -/
def placeOf (t : Tag) (ofType : Bool) (side : List Tag) : Nat :=
  (if ofType then side.filter (sameType t) else side).length + 1

/-- Whether nothing but empty texts, comments and doctypes stands below an element. -/
def isEmptyElement (n : Node) : Bool :=
  n.children.all fun c =>
    match c with
    | .element .. => false
    | .text d => d.isEmpty
    | _ => true

/-- Whether an element is a link. -/
def isLink (t : Tag) : Bool :=
  t.space == .html && ["a", "area", "link"].contains t.name && (t.attr? "href").isSome

/-- Whether a single word describes an element. -/
def PseudoClass.holds (p : PseudoClass) (here : Trail) (t : Tag) : Bool :=
  let first (ofType : Bool) : Bool := placeOf t ofType here.tagsBefore == 1
  let last (ofType : Bool) : Bool := placeOf t ofType here.tagsAfter == 1
  match p with
  | .firstChild => first false
  | .lastChild => last false
  | .onlyChild => first false && last false
  | .firstOfType => first true
  | .lastOfType => last true
  | .onlyOfType => first true && last true
  | .root => here.parent?.isNone
  | .empty => here.head?.all fun l => isEmptyElement l.here
  | .link => isLink t
  | .never => false

mutual

/-- Whether a condition holds for the element that a trail ends in, whose tag is given. -/
def Condition.holds (here : Trail) (t : Tag) : Condition → Bool
  | .type name => nameFor t name == t.name
  | .universal => true
  | .noNamespace => false
  | .id s => t.attr? "id" == some s
  | .classToken s => !s.isEmpty && (classes t).contains s
  | .attribute anyNamespace name test =>
    t.attrs.any fun a =>
      (anyNamespace || a.space == .plain) && a.name == nameFor t name &&
        test.all fun test => test.passes t a.value
  | .pseudo p => p.holds here t
  | .nth a b fromEnd ofType =>
    isPlace a b (placeOf t ofType (if fromEnd then here.tagsAfter else here.tagsBefore))
  | .not cs => !Condition.allHold here t cs

/-- Whether some conditions all hold. -/
def Condition.allHold (here : Trail) (t : Tag) : List Condition → Bool
  | [] => true
  | c :: cs => c.holds here t && Condition.allHold here t cs

end

/-- Whether conditions all hold for the element that a trail ends in. -/
def fits (cs : List Condition) (here : Trail) : Bool :=
  match here.tag? with
  | some t => Condition.allHold here t cs
  | none => false

/-- The elements that lie to an element as a combinator says. -/
def Combinator.related (here : Trail) : Combinator → List Trail
  | .descendant => here.above
  | .child => here.parent?.toList
  | .nextSibling => here.preceding.take 1
  | .laterSibling => here.preceding

/-- Whether the elements around an element fit, from the nearest on. -/
def fitsBefore (here : Trail) : List (Combinator × List Condition) → Bool
  | [] => true
  | (k, cs) :: rest => (k.related here).any fun u => fits cs u && fitsBefore u rest

/-- Whether an alternative describes the element that a trail ends in. -/
def Complex.describes (c : Complex) (here : Trail) : Bool :=
  fits c.conditions here && fitsBefore here c.before

/-- Whether a selector describes the element that a trail ends in. -/
def Selector.describes (s : Selector) (here : Trail) : Bool := s.any fun c => c.describes here

/-- The trails of the elements of a forest that a selector describes, in document order. -/
def Selector.trailsIn (s : Selector) (ns : List Node) : List Trail :=
  (Forest.trails ns).filter s.describes

/-- The addresses of the elements of a forest that a selector describes, in document order. -/
def Selector.select (s : Selector) (ns : List Node) : List Address :=
  (s.trailsIn ns).map Trail.address

end Css

end HtmlCanon
