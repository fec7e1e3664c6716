import HtmlCanon.Rule.Fault

/-!
# Rule records

The entry of a kind of rule is written in one of three shapes: as a list of records, as one record,
or as a bare value. All of them are read as a list of records.
-/

namespace HtmlCanon

open Yaml (Value Entries)

/-- A rule: its value and the conditions under which it applies. -/
structure Record where
  value : Value
  /-- A pattern that has to match somewhere in the path of the page. -/
  path : Option String
  disabled : Option Bool
  /-- The selector of the elements whose text the rule is for. -/
  selector : Option String
  deriving Repr

namespace Record

/-- A value without any conditions. -/
def bare (v : Value) : Record := ⟨v, none, none, none⟩

/-- The fields of a record that were read so far. -/
structure Fields where
  value : Option Value
  path : Option (Option String)
  disabled : Option (Option Bool)
  selector : Option (Option String)

/-- A field that is a string or, being null, is left out. A tag hides a null. -/
def optionalString (v : Value) : Except RecordFault (Option String) :=
  match v with
  | .null => pure none
  | v =>
    match v.untag with
    | .string s => pure (some s)
    | _ => throw (.wrongType v .string)

/-- A field that is a boolean or, being null, is left out. A tag hides a null. -/
def optionalBool (v : Value) : Except RecordFault (Option Bool) :=
  match v with
  | .null => pure none
  | v =>
    match v.untag with
    | .bool b => pure (some b)
    | _ => throw (.wrongType v .boolean)

/-- Reads one entry of a record. Fields with other names do not count. -/
def addField (f : Fields) (entry : Value × Value) : Except RecordFault Fields := do
  let (k, v) := entry
  match k.asString? with
  | none => throw (.wrongType k .fieldName)
  | some name =>
    if name == "value" then
      if f.value.isSome then throw (.duplicateField name)
      pure { f with value := some v }
    else if name == "path" then
      if f.path.isSome then throw (.duplicateField name)
      pure { f with path := some (← optionalString v) }
    else if name == "disabled" then
      if f.disabled.isSome then throw (.duplicateField name)
      pure { f with disabled := some (← optionalBool v) }
    else if name == "selector" then
      if f.selector.isSome then throw (.duplicateField name)
      pure { f with selector := some (← optionalString v) }
    else pure f

/-- The record that a mapping describes, whose value is given. -/
def ofEntries (value : Value) (es : Entries) : Except RecordFault Record := do
  let f ← es.foldlM addField ⟨none, none, none, none⟩
  pure ⟨f.value.getD value, f.path.join, f.disabled.join, f.selector.join⟩

/-- The value of a mapping that describes a record, which is any mapping with a value, and the
entries. -/
def shape? (v : Value) : Option (Value × Entries) := do
  let es ← v.asMapping?
  pure (← es.get? "value", es)

/-- Whether a value describes a record. -/
def isShaped (v : Value) : Bool := (shape? v).isSome

/-- The record that a value stands for: the one that it describes, or else a bare one. -/
def ofValue (kind : RuleKind) (v : Value) : Except Fault Record :=
  match shape? v with
  | some (value, es) =>
    match ofEntries value es with
    | .ok r => pure r
    | .error e => throw (.invalidRule kind (.record e))
  | none => pure (bare v)

/-- The records that a value stands for. A sequence is a list of records if the first item describes
one. -/
def listOf (kind : RuleKind) (raw : Value) : Except Fault (List Record) :=
  match raw with
  | .sequence items =>
    if items.head?.any isShaped then items.mapM (ofValue kind) else pure [bare raw]
  | raw => do pure [← ofValue kind raw]

/-- The records of a kind, given its entry in a configuration. -/
def normalize (kind : RuleKind) (raw : Option Value) : Except Fault (Option (List Record)) :=
  match raw with
  | none => pure none
  | some raw => do pure (some (← listOf kind raw))

end Record

end HtmlCanon
