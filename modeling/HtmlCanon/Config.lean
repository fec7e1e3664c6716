import HtmlCanon.Edit.TextRule
import HtmlCanon.Notice
import HtmlCanon.Rule.Selection
import HtmlCanon.Yaml.Document

/-!
# Configurations

A configuration is a mapping from kinds of rules to their values. It can be checked as a whole
before any page is read.
-/

namespace HtmlCanon

open Yaml (Value Entries)

/-- A configuration. -/
structure Config where
  entries : Entries
  deriving Repr

namespace Config

/-- The configuration without entries. -/
def empty : Config := ⟨[]⟩

/-- The configuration that a value holds; null holds none. -/
def ofValue : Value → Except Fault Config
  | .null => pure empty
  | .mapping es => pure ⟨es⟩
  | v => throw (.notMapping v)

/-- Reads a configuration. -/
def ofText (t : Text) : Except Fault Config :=
  match Value.ofText? t with
  | none => throw .notYaml
  | some v => ofValue v

/-- What is to be said about the keys of a configuration. -/
def keyNotices (c : Config) : List Notice :=
  c.entries.filterMap fun (k, _) =>
    match k.asString? with
    | some s => if (RuleKind.ofKey? s).isSome then none else some (.unknownKey s)
    | none => some (.notStringKey k)

/-- The value of a kind of rule as it is written. -/
def raw? (c : Config) (kind : RuleKind) : Option Value := c.entries.get? kind.key

/-- Gives a kind of rule a value. -/
def set (c : Config) (kind : RuleKind) (v : Value) : Config := ⟨c.entries.set kind.key v⟩

/-- The records of a kind; none if there is no entry for it. -/
def records (c : Config) (kind : RuleKind) : Except Fault (Option (List Record)) :=
  Record.normalize kind (c.raw? kind)

/-- The records of a kind that apply to a run. -/
def applicable (c : Config) (kind : RuleKind) (o : Options) : Except Fault (List Record) := do
  Record.applicable o ((← c.records kind).getD [])

/-- The only record of a kind that applies to a run; more than one is an error. -/
def single (c : Config) (kind : RuleKind) (o : Options) : Except Fault (Option Record) := do
  match ← c.applicable kind o with
  | [] => pure none
  | [r] => pure (some r)
  | _ => throw (.ambiguous kind)

/-! ### Checking -/

/-- Compiles the patterns for paths of some records. -/
def checkPaths : List Record → Except Fault Unit
  | [] => pure ()
  | r :: rs => do
    match r.path with
    | some p => discard (compilePath p)
    | none => pure ()
    checkPaths rs

/-- Checks the values of selector rules, which are strings or null. -/
def checkSelectors (rs : List Record) : Except Fault Unit :=
  if rs.all fun r => r.value.isNull || r.value.asString?.isSome then pure ()
  else throw (.invalidRule .selector .selectorShape)

/-- Checks the values of the records of a kind. Regions are not checked, since a fault in them never
stops a run. -/
def checkValues (kind : RuleKind) (rs : List Record) : Except Fault Unit :=
  match kind with
  | .selector => checkSelectors rs
  | .removeSpacing => pure ()
  | .regions => pure ()
  | .domTransform => discard (Transform.ofRecords rs)
  | .sanitization => discard (TextRules.ofRecords rs)

/-- Checks the rules of a kind. -/
def checkKind (c : Config) (kind : RuleKind) : Except Fault Unit := do
  match ← c.records kind with
  | none => pure ()
  | some rs =>
    checkPaths rs
    checkValues kind rs

/-- Checks all rules, whatever run they may apply to. -/
def check (c : Config) : Except Fault Unit := RuleKind.all.forM c.checkKind

end Config

end HtmlCanon
