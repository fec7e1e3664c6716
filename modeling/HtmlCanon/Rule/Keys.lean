import HtmlCanon.Rule.Fault

/-!
# Keys of rule values

A mapping inside the value of a rule may hold a few keys only, so that a field that belongs beside
the value is not passed over in silence.
-/

namespace HtmlCanon

open Yaml (Value Entries)

/-- The name of a key: the string that it is, tags aside, or else what it looks like. -/
def keyName (k : Value) : String := k.asString?.getD k.describe

/-- The first key of a mapping that is not among the allowed ones. -/
def strayKey? (allowed : List String) (es : Entries) : Option String :=
  (es.map fun e => keyName e.1).find? fun k => !allowed.contains k

/-- Refuses a mapping with a key that is not allowed. -/
def checkKeys (kind : RuleKind) (allowed : List String) (es : Entries) : Except Fault Unit :=
  match strayKey? allowed es with
  | some k => throw (.invalidRule kind (.unexpectedKey k allowed))
  | none => pure ()

end HtmlCanon
