import HtmlCanon.Edit.Transform

/-!
# Regions

A page can be put together anew from named regions in a chosen order. Each region is a new element
that holds the elements its selector describes; an element that several regions ask for goes to the
last of them.
-/

namespace HtmlCanon

open Html
open Yaml (Value)

/-- A named part of a page. -/
structure Region where
  name : String
  selector : String
  deriving DecidableEq, Repr

/-- Why a page is not put together from regions. -/
inductive RegionFault where
  | notConfigured
  | noOutput
  | notAList
  | malformedEntry (index : Nat)
  | duplicateName (name : String)
  | unknownOutput (name : String)
  deriving DecidableEq, Repr

/-- The message of a fault in the regions. -/
def RegionFault.message : RegionFault → String
  | notConfigured => "no regions are configured"
  | noOutput => "no output ordering was requested"
  | notAList => "regions must be a list of \x7b name, selector \x7d entries"
  | malformedEntry i =>
    "region entry " ++ toString i ++ " is missing a \x60name\x60 or \x60selector\x60"
  | duplicateName n => "region name '" ++ n ++ "' is declared more than once"
  | unknownOutput n => "requested output '" ++ n ++ "' has no matching region"

namespace Region

/-- A field of a region, without the blanks around it; it may not be blank. -/
def field? (entry : Value) (name : String) : Option Text := do
  let es ← entry.asMapping?
  let v ← es.get? name
  let t := trim (← v.asString?).toList
  if t.isEmpty then none else some t

/-- The region that a value describes. Its name is a single word. -/
def ofEntry? (entry : Value) : Option Region := do
  let n ← field? entry "name"
  let s ← field? entry "selector"
  if n.any isBlank then none else some ⟨String.ofList n, String.ofList s⟩

/-- The regions that some entries describe, from the one with the given number on. The names of the
regions before are given. -/
def ofEntries (index : Nat) (names : List String) : List Value → Except RegionFault (List Region)
  | [] => pure []
  | e :: es =>
    match ofEntry? e with
    | none => throw (.malformedEntry index)
    | some r =>
      if names.contains r.name then throw (.duplicateName r.name)
      else do pure (r :: (← ofEntries (index + 1) (r.name :: names) es))

/-- The regions that a value describes. -/
def ofValue (v : Value) : Except RegionFault (List Region) :=
  match v.asSequence? with
  | none => throw .notAList
  | some [] => throw .notConfigured
  | some es => ofEntries 0 [] es

/-- The regions with the names that are asked for. -/
def withNames (rs : List Region) : List String → Except RegionFault (List Region)
  | [] => pure []
  | n :: ns =>
    match rs.find? fun r => r.name == n with
    | none => throw (.unknownOutput n)
    | some r => do pure (r :: (← withNames rs ns))

/-- The regions to put a page together from, in order. -/
def plan (v : Option Value) (output : Option (List String)) : Except RegionFault (List Region) :=
  match v with
  | none => throw .notConfigured
  | some v => do
    let rs ← ofValue v
    match output with
    | none => throw .noOutput
    | some [] => throw .noOutput
    | some ns => withNames rs ns

end Region

namespace Page

/-- What is left of a page and the regions put together so far. -/
structure Composition where
  source : List Node
  regions : List Node

/-- The elements of regions that a selector describes; the regions themselves are not asked. -/
def claimed (s : Css.Selector) (regions : List Node) : List Address :=
  (s.select regions).filter fun a => 1 < a.length

/-- Moves the elements that a selector describes into a new region, first those that are left in the
page and then those of regions before it. -/
def Composition.add (c : Composition) (name : String) (s : Css.Selector) : Composition :=
  let (fresh, source) := Forest.extract (s.select c.source) c.source
  let (again, regions) := Forest.extract (claimed s c.regions) c.regions
  ⟨source, regions ++ [Node.wrapper name (fresh ++ again)]⟩

/-- Moves elements into a new region. -/
def Composition.addRegion (c : Composition) (r : Region) : Except Fault Composition := do
  pure (c.add r.name (← compileSelector r.selector))

/-- The page put together from regions, in order. What no region asks for is left out. -/
def compose (p : Page) (rs : List Region) : Except Fault Page := do
  let c ← rs.foldlM Composition.addRegion ⟨p.nodes, []⟩
  pure (fragment c.regions)

/-- The elements that a selector describes and that lie below no other one of them, as
a fragment. -/
def excerptAt (p : Page) (s : Css.Selector) : Page :=
  fragment ((Forest.outermost (s.select p.nodes)).filterMap fun a => Forest.get? a p.nodes)

/-- The elements that a selector describes, as a fragment. -/
def excerpt (p : Page) (selector : String) : Except Fault Page := do
  pure (p.excerptAt (← compileSelector selector))

end Page

end HtmlCanon
