import HtmlCanon.Regex
import HtmlCanon.Rule.Record

/-!
# The rules that apply

A record applies to a run unless it is disabled, or the path of the page is known and the record has
a pattern for paths that matches nowhere in it.
-/

namespace HtmlCanon

open Yaml (Value)

/-- What is asked for in one run: the path of the page and the regions to put out, if any. -/
structure Options where
  path : Option String
  output : Option (List String)
  deriving Repr

/-- Compiles a pattern for paths. -/
def compilePath (p : String) : Except Fault Regex :=
  match Regex.compile? p.toList with
  | some r => pure r
  | none => throw (.badPattern p)

namespace Record

/-- Whether a record is disabled. -/
def isDisabled (r : Record) : Bool := r.disabled == some true

/-- Whether a record applies to a run. -/
def applies (r : Record) (o : Options) : Except Fault Bool :=
  if r.isDisabled then pure false
  else match r.path, o.path with
    | some pattern, some path => do pure ((← compilePath pattern).isMatch path.toList)
    | _, _ => pure true

/-- The records that apply to a run, in order. -/
def applicable (o : Options) : List Record → Except Fault (List Record)
  | [] => pure []
  | r :: rs => do
    let yes ← r.applies o
    let rest ← applicable o rs
    pure (if yes then r :: rest else rest)

end Record

end HtmlCanon
