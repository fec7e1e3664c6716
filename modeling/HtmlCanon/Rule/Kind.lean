import HtmlCanon.Yaml.Value

/-!
# Kinds of rules

A configuration has one entry for each kind of rule.
-/

namespace HtmlCanon

/-- The kinds of rules, in the order in which a configuration is checked. -/
inductive RuleKind where
  | selector | removeSpacing | regions | domTransform | sanitization
  deriving DecidableEq, Repr

namespace RuleKind

/-- All kinds, in the order in which a configuration is checked. -/
def all : List RuleKind := [selector, removeSpacing, regions, domTransform, sanitization]

/-- The key of a kind in a configuration. -/
def key : RuleKind → String
  | selector => "selector"
  | removeSpacing => "remove_spacing"
  | regions => "regions"
  | domTransform => "dom_transform"
  | sanitization => "sanitization"

/-- The kind with a key. -/
def ofKey? (key : String) : Option RuleKind := all.find? fun k => k.key == key

end RuleKind

end HtmlCanon
