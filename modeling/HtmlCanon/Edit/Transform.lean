import HtmlCanon.Css.Matching
import HtmlCanon.Page
import HtmlCanon.Rule.Keys
import HtmlCanon.Rule.Record

/-!
# Transforms

Structural edits of a page: taking elements away with or without what they hold, taking a class
away, and keeping only what one element holds. A transform is made on all elements that its selector
describes in the page as it is before.
-/

namespace HtmlCanon

open Html
open Yaml (Value Entries)

/-- What a transform does with the elements that it is for. -/
inductive TransformKind where
  | remove | strip | unwrapRoot | unwrap | removeClass
  deriving DecidableEq, Repr

/-- The kind of transform with a name. -/
def TransformKind.ofName? : String → Option TransformKind
  | "remove" => some remove
  | "strip" => some strip
  | "unwrap_root" => some unwrapRoot
  | "unwrap" => some unwrap
  | "remove_class" => some removeClass
  | _ => none

/-- A structural edit. -/
inductive Transform where
  /-- Takes elements away with all they hold. -/
  | remove (selector : String)
  /-- Puts what elements hold in their place. -/
  | strip (selector : String)
  /-- Keeps what the first element holds and nothing else. -/
  | unwrapRoot (selector : String)
  /-- The same as `strip`. -/
  | unwrap (selector : String)
  /-- Takes a class away from elements. -/
  | removeClass (selector name : String)
  deriving DecidableEq, Repr

namespace Transform

/-- The selector of the elements that a transform is for. -/
def selector : Transform → String
  | remove s => s
  | strip s => s
  | unwrapRoot s => s
  | unwrap s => s
  | removeClass s _ => s

/-! ### Reading transforms -/

/-- A transform of a kind. The name of a class is needed for one kind only and may not be blank. -/
def make (kind : TransformKind) (selector : String) (name : Option String) :
    Except Fault Transform :=
  match kind with
  | .remove => pure (remove selector)
  | .strip => pure (strip selector)
  | .unwrapRoot => pure (unwrapRoot selector)
  | .unwrap => pure (unwrap selector)
  | .removeClass =>
    match name with
    | some c =>
      if isBlankText c.toList then throw (.invalidRule .domTransform .missingClass)
      else pure (removeClass selector c)
    | none => throw (.invalidRule .domTransform .missingClass)

/-- A field that is a string; null counts as left out. -/
def field? (name : String) (v : Option Value) : Except Fault (Option String) :=
  match v with
  | none => pure none
  | some .null => pure none
  | some (.string s) => pure (some s)
  | some v => throw (.invalidRule .domTransform (.transformField name v))

/-- A field that is a string and may not be left out. -/
def field (name : String) (v : Option Value) : Except Fault String := do
  match ← field? name v with
  | some s => pure s
  | none => throw (.invalidRule .domTransform (.transformMissing name))

/-- The transform that three fields describe. -/
def ofFields (kind selector name : Option Value) : Except Fault Transform := do
  let k ← field "kind" kind
  let s ← field "selector" selector
  let c ← field? "class" name
  match TransformKind.ofName? k with
  | some kind => make kind s c
  | none => throw (.unknownTransform k)

/-- The keys of a transform that is written as a mapping. -/
def keys : List String := ["kind", "selector", "class"]

/-- Whether a value at the start of a sequence makes it a list of values. -/
def isGroup : Value → Bool
  | .sequence _ => true
  | .mapping _ => true
  | _ => false

mutual

/-- The transforms that a value describes: a mapping is one, a sequence is one or, if it starts with
a sequence or a mapping, any number. -/
def ofValue : Value → Except Fault (List Transform)
  | .mapping es => do
    checkKeys .domTransform keys es
    let get := Entries.get? es
    pure [← ofFields (get "kind") (get "selector") (get "class")]
  | .sequence items =>
    if items.isEmpty then pure []
    else if items.head?.any isGroup then ofItems items
    else if 3 < items.length then
      throw (.invalidRule .domTransform (.transformItems items.length))
    else do pure [← ofFields items[0]? items[1]? items[2]?]
  | .tagged _ v => ofValue v
  | v => throw (.invalidRule .domTransform (.transformValue v))

/-- The transforms that some values describe. -/
def ofItems : List Value → Except Fault (List Transform)
  | [] => pure []
  | v :: vs => do
    let ts ← ofValue v
    pure (ts ++ (← ofItems vs))

end

/-- The transforms that some records describe, in order. -/
def ofRecords : List Record → Except Fault (List Transform)
  | [] => pure []
  | r :: rs => do
    let ts ← ofValue r.value
    pure (ts ++ (← ofRecords rs))

/-! ### Making transforms -/

/-- Takes a class away from an element. The other classes stay in order with a space between them;
an element that has none left has no such attribute. -/
def dropClass (name : Text) (t : Tag) : Tag :=
  match t.attr? "class" with
  | none => t
  | some v =>
    let rest := (words v).filter (· != name)
    if rest.isEmpty then t.eraseAttr "class"
    else t.setAttr "class" (List.intercalate [' '] rest)

/-- What stands in place of an element after a transform. -/
def replacement (t : Transform) (n : Node) : List Node :=
  match t with
  | remove _ => []
  | strip _ => n.children
  | unwrap _ => n.children
  | unwrapRoot _ => [n]
  | removeClass _ c => [n.mapTag (dropClass c.toList)]

end Transform

/-- The compiled selector of a text. -/
def compileSelector (s : String) : Except Fault Css.Selector :=
  match Css.Selector.parse? s.toList with
  | some c => pure c
  | none => throw (.badSelector s)

namespace Page

/-- The page after a transform on the elements that a selector describes. -/
def transformAt (p : Page) (t : Transform) (s : Css.Selector) : Page :=
  let as := s.select p.nodes
  match t with
  | .unwrapRoot _ =>
    match as.head?.bind fun a => Forest.get? a p.nodes with
    | some n => fragment n.children
    | none => p
  | t => { p with nodes := Forest.replaceAll t.replacement as p.nodes }

/-- The page after a transform. -/
def transform (p : Page) (t : Transform) : Except Fault Page := do
  pure (p.transformAt t (← compileSelector t.selector))

/-- The page after some transforms, one after the other. -/
def transformAll (p : Page) (ts : List Transform) : Except Fault Page :=
  ts.foldlM transform p

end Page

end HtmlCanon
