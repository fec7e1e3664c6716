import HtmlCanon.Yaml.Describe

/-!
# Notices

What is said about a run that goes on nevertheless.
-/

namespace HtmlCanon

/-- Something that a user is told without stopping a run. -/
inductive Notice where
  /-- A key of the configuration that is no kind of rule. -/
  | unknownKey (key : String)
  /-- A key of the configuration that is not a string. -/
  | notStringKey (key : Yaml.Value)
  /-- Several records for regions apply, of which the first counts. -/
  | severalRegions (count : Nat)
  /-- Something stood in a table that may not stand there and was moved in front of it. -/
  | movedOutOfTable
  deriving Repr

/-- The message of a notice. -/
def Notice.message : Notice → String
  | unknownKey k => "Ignoring unknown configuration key '" ++ k ++ "'."
  | notStringKey k => "Ignoring non-string configuration key " ++ k.describe ++ "."
  | severalRegions n => toString n ++ " 'regions' records apply; using the first one."
  | movedOutOfTable => "foster parenting not implemented"

end HtmlCanon
