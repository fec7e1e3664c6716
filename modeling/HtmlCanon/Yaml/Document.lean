import HtmlCanon.Yaml.Node
import HtmlCanon.Yaml.Scalar

/-!
# YAML documents

A text that holds one YAML document stands for a value. Collections may nest 128 deep, and aliases
may be followed a hundred times for each step of reading the document.
-/

namespace HtmlCanon.Yaml

/-- The name in a tag of the document's own: what follows the exclamation mark, or that mark if
nothing follows it. -/
def ownTag? (tag : Option (List UInt8)) : Option String :=
  match tag with
  | some [0x21] => some "!"
  | some (0x21 :: name) =>
    if Utf8.isValid name then some (String.ofList (Utf8.decode name)) else none
  | _ => none

/-- Puts a tag of the document's own on a value. -/
def Value.withTag (tag : Option (List UInt8)) (v : Value) : Value :=
  match ownTag? tag with
  | some t => .tagged t v
  | none => v

/-- What a scalar says. Only a plain one without a tag, or with a tag of the document's own, is
looked at for its meaning. -/
def Value.ofScalar? (tag : Option (List UInt8)) (plain : Bool) (text : String) : Option Value :=
  match tag with
  | none => if plain then Scalar.plain? text else some (.string text)
  | some (0x21 :: _) =>
    (if plain then Scalar.plain? text else some (.string text)).map (withTag tag)
  | some name =>
    let known := if Utf8.isValid name then
        Scalar.underTag? (String.ofList (Utf8.decode name)) text else none
    known.getD (some (.string text))

namespace Node

/-- Reading with a limited number of aliases to follow. -/
abbrev Following := StateT Nat Option

/-- A node, or the one that an alias stands for: of those with its number, the last one. -/
def follow (table : List (Nat × Node Nat)) : Node Nat → Following (Node Nat)
  | reference i => do
    match ← get with
    | 0 => failure
    | n + 1 =>
      set n
      match table.reverse.lookup i with
      | some n => pure n
      | none => failure
  | n => pure n

/-- The entries of a mapping; a key that is already there is an error. -/
def entriesWith (inner : Node Nat → Following Value) (entries : List (Node Nat × Node Nat)) :
    Following Entries :=
  entries.foldlM (fun es (k, v) => do
    let k ← inner k
    if es.any (·.1.same k) then failure
    pure (es ++ [(k, ← inner v)])) []

/-- The value of a node, given how to read what is inside a collection. -/
def valueWith (table : List (Nat × Node Nat)) (inner : Option (Node Nat → Following Value))
    (n : Node Nat) : Following Value := do
  match ← follow table n, inner with
  | scalar p plain text, _ => (Value.ofScalar? p.tag plain text : Option Value)
  | sequence p items, some inner => do
    pure (Value.withTag p.tag (.sequence (← items.mapM inner)))
  | mapping p entries, some inner => do
    pure (Value.withTag p.tag (.mapping (← entriesWith inner entries)))
  | _, _ => failure

/-- The value of a node in which collections nest at most `depth` deep. -/
def value (table : List (Nat × Node Nat)) : (depth : Nat) → Node Nat → Following Value
  | 0 => valueWith table none
  | d + 1 => valueWith table (some (value table d))

/-- The value of a document. -/
def toValue? (n : Node String) : Option Value := do
  let (n, _) ← n.number? []
  let (v, _) ← (n.value n.targets 128).run (100 * n.steps)
  pure v

end Node

/-- Reads the value of a text that holds one YAML document; null if it holds none. -/
def Value.ofText? (t : Text) : Option Value := do
  let s ← Source.ofText? t
  let ts ← Token.ofSource? s
  match ← Node.ofTokens? ts with
  | none => pure .null
  | some n => n.toValue?

end HtmlCanon.Yaml
