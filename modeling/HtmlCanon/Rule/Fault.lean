import HtmlCanon.Rule.Kind
import HtmlCanon.Yaml.Describe

/-!
# Faults

What can be wrong with a configuration, and the message for each cause.
-/

namespace HtmlCanon

open Yaml (Value)

/-- What a field of a record should have been. -/
inductive Expected where
  | string | boolean | fieldName
  deriving DecidableEq, Repr

/-- What is wrong with a record. -/
inductive RecordFault where
  | wrongType (found : Value) (expected : Expected)
  | duplicateField (name : String)
  deriving Repr

/-- What is wrong with the value of a rule. -/
inductive RuleFault where
  | record (f : RecordFault)
  /-- The value of a selector rule is not a string; found while checking. -/
  | selectorShape
  /-- The value of a selector rule is not a string; found when it applies. -/
  | selectorValue (found : Value)
  | unexpectedKey (key : String) (allowed : List String)
  | transformField (field : String) (found : Value)
  | transformMissing (field : String)
  | transformItems (count : Nat)
  | transformValue (found : Value)
  | missingClass
  | pairField (field : String) (found : Value)
  | pairMissingPattern
  | pairItems (count : Nat)
  | pairValue (found : Value)
  deriving Repr

/-- Why a page cannot be brought into canonical form. -/
inductive Fault where
  /-- More than one record applies where at most one may. -/
  | ambiguous (kind : RuleKind)
  | unknownTransform (name : String)
  | invalidRule (kind : RuleKind) (f : RuleFault)
  /-- The configuration is not a mapping. -/
  | notMapping (found : Value)
  | badPattern (pattern : String)
  | patternTooLong (pattern : String)
  | badSelector (selector : String)
  /-- The configuration is not a YAML document. -/
  | notYaml
  deriving Repr

/-- The greatest length of a pattern of a text rule, in bytes. -/
def maxPatternLength : Nat := 500

/-- What was expected, as messages say it. -/
def Expected.describe : Expected → String
  | string => "a string"
  | boolean => "a boolean"
  | fieldName => "field identifier"

/-- What was found instead, as messages on records say it. -/
def RecordFault.describeFound (v : Value) : String :=
  match v.untag with
  | .null => "unit value"
  | .bool b => "boolean \x60" ++ (if b then "true" else "false") ++ "\x60"
  | .number (.int n) => "integer \x60" ++ toString n ++ "\x60"
  | .number (.float x) => "floating point \x60" ++ x.toPlainText ++ "\x60"
  | .string s => "string " ++ Yaml.quoted s
  | .sequence _ => "sequence"
  | .mapping _ => "map"
  | .tagged .. => "enum"

/-- The message of a fault in a record. -/
def RecordFault.message : RecordFault → String
  | wrongType v e => "invalid type: " ++ describeFound v ++ ", expected " ++ e.describe
  | duplicateField n => "duplicate field \x60" ++ n ++ "\x60"

/-- The message of a fault in the value of a rule. -/
def RuleFault.message : RuleFault → String
  | record f => f.message
  | selectorShape => "value must be a CSS selector string"
  | selectorValue v => "expected a CSS selector string, found " ++ v.describe
  | unexpectedKey k allowed =>
    "unexpected key \x60" ++ k ++ "\x60 (expected one of: " ++ Yaml.commaList allowed ++ ")"
  | transformField f v => "\x60" ++ f ++ "\x60 must be a string, found " ++ v.describe
  | transformMissing f => "missing \x60" ++ f ++ "\x60"
  | transformItems n => "expected [kind, selector, class], found " ++ toString n ++ " items"
  | transformValue v => "unsupported transform value " ++ v.describe
  | missingClass => "remove_class needs a class name"
  | pairField f v => f ++ " must be a string, found " ++ v.describe
  | pairMissingPattern => "mapping is missing \x60pattern\x60"
  | pairItems n => "expected [pattern, replacement], found " ++ toString n ++ " items"
  | pairValue v => "unsupported rule value " ++ v.describe

/-- The message of a fault. -/
def Fault.message : Fault → String
  | ambiguous k => "too many matching rules of type " ++ k.key
  | unknownTransform n => "Unknown dom_transform kind '" ++ n ++ "'"
  | invalidRule k f => "Invalid " ++ k.key ++ " rule: " ++ f.message
  | notMapping v =>
    "Invalid configuration rule: expected a mapping of rule kinds, found " ++ v.describe
  | badPattern p => "Failed to compile pattern '" ++ p ++ "'"
  | patternTooLong p =>
    "Pattern '" ++ p ++ "': length (" ++ toString p.utf8ByteSize ++ ") exceeds maximum allowed (" ++
      toString maxPatternLength ++ ")"
  | badSelector s => "Invalid CSS selector: '" ++ s ++ "'"
  | notYaml => "Failed to parse configuration"

end HtmlCanon
