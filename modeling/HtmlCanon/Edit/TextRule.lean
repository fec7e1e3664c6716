import HtmlCanon.Edit.Transform
import HtmlCanon.Regex

/-!
# Text rules

Replacements of patterns. A rule with a selector is for the texts below the elements that the
selector describes; the other rules are for the written page as a whole.
-/

namespace HtmlCanon

open Html
open Yaml (Value Entries)

/-- A replacement of a pattern. -/
structure TextRule where
  pattern : String
  regex : Regex
  replacement : String
  selector : Option String

namespace TextRule

/-- Replaces every match of the pattern in a text. -/
def apply (r : TextRule) (t : Text) : Text := r.regex.replaceAll r.replacement.toList t

/-! ### Reading rules -/

/-- A pattern and its replacement. -/
abbrev Pair := String × String

/-- A field that is a string, or something that is written like one; null is the empty string. -/
def field (name : String) : Value → Except Fault String
  | .string s => pure s
  | .number n => pure n.toText
  | .bool b => pure (if b then "true" else "false")
  | .null => pure ""
  | v => throw (.invalidRule .sanitization (.pairField name v))

/-- The keys of a pair that is written as a mapping. -/
def keys : List String := ["pattern", "replacement", "replace_with"]

mutual

/-- The pairs that a value describes: a string is a pattern whose matches are deleted, a mapping is
one pair, a sequence is one or, if it starts with a sequence or a mapping, any number. -/
def pairsOf : Value → Except Fault (List Pair)
  | .string s => pure [(s, "")]
  | .sequence items =>
    if items.isEmpty then pure []
    else if items.head?.any Transform.isGroup then pairsOfItems items
    else if 2 < items.length then throw (.invalidRule .sanitization (.pairItems items.length))
    else do
      let p ← field "pattern" (items[0]?.getD .null)
      let r ← field "replacement" (items[1]?.getD .null)
      pure [(p, r)]
  | .mapping es => do
    checkKeys .sanitization keys es
    match Entries.get? es "pattern" with
    | none => throw (.invalidRule .sanitization .pairMissingPattern)
    | some v =>
      let p ← field "pattern" v
      let r := (Entries.get? es "replacement").or (Entries.get? es "replace_with")
      let r ← field "replacement" (r.getD .null)
      pure [(p, r)]
  | .tagged _ v => pairsOf v
  | v => throw (.invalidRule .sanitization (.pairValue v))

/-- The pairs that some values describe. -/
def pairsOfItems : List Value → Except Fault (List Pair)
  | [] => pure []
  | v :: vs => do
    let ps ← pairsOf v
    pure (ps ++ (← pairsOfItems vs))

end

/-- Compiles a pattern that is not too long. -/
def compilePattern (p : String) : Except Fault Regex :=
  if maxPatternLength < p.utf8ByteSize then throw (.patternTooLong p)
  else match Regex.compile? p.toList with
    | some r => pure r
    | none => throw (.badPattern p)

/-- The rule of a pair in a record with the given selector. -/
def ofPair (selector : Option String) (p : Pair) : Except Fault TextRule := do
  pure ⟨p.1, ← compilePattern p.1, p.2, selector⟩

/-- The rules that a record describes. -/
def ofRecord (r : Record) : Except Fault (List TextRule) := do
  (← pairsOf r.value).mapM (ofPair r.selector)

/-- The rules that some records describe, in order. -/
def ofRecords : List Record → Except Fault (List TextRule)
  | [] => pure []
  | r :: rs => do
    let ts ← ofRecord r
    pure (ts ++ (← ofRecords rs))

/-- Whether a rule is for some elements only. -/
def isScoped (r : TextRule) : Bool := r.selector.isSome

end TextRule

/-- Text rules, divided by what they are for; each part keeps the order of the rules. -/
structure TextRules where
  inElements : List TextRule
  onPage : List TextRule

namespace TextRules

/-- Divides rules by what they are for. -/
def ofList (rs : List TextRule) : TextRules :=
  ⟨rs.filter TextRule.isScoped, rs.filter fun r => !r.isScoped⟩

/-- The rules that some records describe. -/
def ofRecords (rs : List Record) : Except Fault TextRules := do
  pure (ofList (← TextRule.ofRecords rs))

/-- How many rules there are. -/
def size (rs : TextRules) : Nat := rs.inElements.length + rs.onPage.length

/-- Applies rules to a text, one after the other. -/
def applyAll (rs : List TextRule) (t : Text) : Text := rs.foldl (fun t r => r.apply t) t

end TextRules

namespace Page

/-- Changes every text below the elements that a selector describes. A text below several of them is
changed once. -/
def mapTextsAt (p : Page) (f : Text → Text) (s : Css.Selector) : Page :=
  let as := Forest.outermost (s.select p.nodes)
  { p with nodes := Forest.replaceAll (fun n => [n.mapText f]) as p.nodes }

/-- The page after a rule that is for some elements. -/
def applyRule (p : Page) (r : TextRule) : Except Fault Page :=
  match r.selector with
  | none => pure p
  | some s => do pure (p.mapTextsAt r.apply (← compileSelector s))

/-- The page after some rules that are for some elements, one after the other. -/
def applyRules (p : Page) (rs : List TextRule) : Except Fault Page := rs.foldlM applyRule p

end Page

end HtmlCanon
