import HtmlCanon.Config
import HtmlCanon.Edit.Region
import HtmlCanon.Edit.Spacing
import HtmlCanon.Encoding
import HtmlCanon.Page.Canonical

/-!
# Bringing a page into canonical form

First the rules that apply are settled. Then the page is read, its spacing is collapsed, it is put
together from regions or cut down to what a selector describes, it is transformed, and the text
rules for elements are applied. What is written for it in canonical form is changed by the other
text rules.
-/

namespace HtmlCanon

open Yaml (Value)

/-- The rules that apply to a run. -/
structure Settled where
  removeSpacing : Bool
  selector : Option String
  regions : Option Value
  transforms : List Transform
  textRules : TextRules

namespace Config

/-- The selector that a record gives; null and blank strings give none. -/
def selectorOf (v : Value) : Except Fault (Option String) :=
  match v with
  | .null => pure none
  | .string s => pure (if isBlankText s.toList then none else some s)
  | v => throw (.invalidRule .selector (.selectorValue v))

/-- Whether spacing is to be collapsed in a run. -/
def wantsSpacing (c : Config) (o : Options) : Except Fault Bool := do
  pure ((← c.single .removeSpacing o).any fun r => r.value.isTruthy)

/-- The selector that a page is cut down to in a run. -/
def selectorFor (c : Config) (o : Options) : Except Fault (Option String) := do
  match ← c.single .selector o with
  | none => pure none
  | some r => selectorOf r.value

/-- Settles the rules for a run. -/
def settle (c : Config) (o : Options) : Except Fault Settled := do
  let removeSpacing ← c.wantsSpacing o
  let selector ← c.selectorFor o
  let regions ← c.applicable .regions o
  let transforms ← Transform.ofRecords (← c.applicable .domTransform o)
  let textRules ← TextRules.ofRecords (← c.applicable .sanitization o)
  pure ⟨removeSpacing, selector, regions.head?.map Record.value, transforms, textRules⟩

/-- What is to be said while the rules for a run are settled. It is not reached when an earlier kind
of rule fails. -/
def ruleNotices (c : Config) (o : Options) : List Notice :=
  match c.wantsSpacing o, c.selectorFor o, c.applicable .regions o with
  | .ok _, .ok _, .ok rs => if 1 < rs.length then [.severalRegions rs.length] else []
  | _, _, _ => []

/-- What is to be said during a run. -/
def runNotices (c : Config) (o : Options) (html : Text) : List Notice :=
  if html.isEmpty then []
  else
    c.ruleNotices o ++
      match c.settle o with
      | .ok _ => List.replicate (Page.parseCounting html).2 .movedOutOfTable
      | .error _ => []

end Config

namespace Settled

/-- Puts a page together from regions if that is asked for, and otherwise cuts it down to what the
selector describes, if there is one. -/
def reroot (s : Settled) (o : Options) (p : Page) : Except Fault Page :=
  match Region.plan s.regions o.output with
  | .ok plan => p.compose plan
  | .error _ =>
    match s.selector with
    | some c => p.excerpt c
    | none => pure p

/-- The page with its spacing collapsed, if that is asked for. -/
def space (s : Settled) (p : Page) : Page := if s.removeSpacing then p.collapseSpaces else p

/-- The page after all rules but those for the written page. -/
def edit (s : Settled) (o : Options) (p : Page) : Except Fault Page := do
  let p ← s.reroot o (s.space p)
  let p ← p.transformAll s.transforms
  p.applyRules s.textRules.inElements

/-- The written page after the rules for it. -/
def write (s : Settled) (p : Page) : Text :=
  TextRules.applyAll s.textRules.onPage (repairText p.canonical)

end Settled

namespace Config

/-- Brings a page into canonical form. -/
def canonicalize (c : Config) (o : Options) (html : Text) : Except Fault Text :=
  if html.isEmpty then pure []
  else do
    let s ← c.settle o
    pure (s.write (← s.edit o (Page.parse html)))

/-- Brings a page into canonical form that is given as bytes. -/
def canonicalizeBytes (c : Config) (o : Options) (bytes : List UInt8) : Except Fault Text :=
  c.canonicalize o (repairBytes bytes)

end Config

end HtmlCanon
