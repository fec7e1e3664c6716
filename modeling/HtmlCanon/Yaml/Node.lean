import HtmlCanon.Yaml.Token

/-!
# YAML nodes

The tree that the tokens of a document describe, in which scalars are not resolved yet and an alias
is a node of its own. Anchors are named by texts at first and by numbers later.
-/

namespace HtmlCanon.Yaml

/-- What may stand before a node. -/
structure Properties (ν : Type) where
  anchor : Option ν
  tag : Option (List UInt8)
  deriving Repr

/-- A node of a document, with anchors named by `ν`. -/
inductive Node (ν : Type) where
  | reference (name : ν)
  | scalar (props : Properties ν) (plain : Bool) (text : String)
  | sequence (props : Properties ν) (items : List (Node ν))
  | mapping (props : Properties ν) (entries : List (Node ν × Node ν))
  deriving Repr

namespace Node

/-- A node that is left out. -/
def missing {ν : Type} : Node ν := scalar ⟨none, none⟩ true ""

mutual

/-- How many steps it takes to read a node: one for a scalar or an alias, and one each to open and
to close a collection. -/
def steps {ν : Type} : Node ν → Nat
  | reference _ => 1
  | scalar .. => 1
  | sequence _ items => itemSteps items + 2
  | mapping _ entries => entrySteps entries + 2

/-- The steps of the items of a sequence. -/
def itemSteps {ν : Type} : List (Node ν) → Nat
  | [] => 0
  | n :: ns => steps n + itemSteps ns

/-- The steps of the entries of a mapping. -/
def entrySteps {ν : Type} : List (Node ν × Node ν) → Nat
  | [] => 0
  | (k, v) :: es => steps k + steps v + entrySteps es

end

/-! ### Reading nodes from tokens -/

/-- What the handles of tags stand for. -/
abbrev Handles := List (String × List UInt8)

/-- The tokens that are left to read. -/
abbrev Tokens := List Token

/-- The tag that a handle and a suffix name; an error if the handle is unknown. -/
def fullTag? (handles : Handles) (handle : String) (suffix : List UInt8) : Option (List UInt8) :=
  if handle == "" then some suffix else (handles.lookup handle).map (· ++ suffix)

/-- Reads an anchor and a tag, in either order, each at most once. -/
def properties? (handles : Handles) : Tokens → Option (Properties String × Tokens)
  | .anchor a :: .tag h s :: ts => (fullTag? handles h s).map fun t => (⟨some a, some t⟩, ts)
  | .anchor a :: ts => some (⟨some a, none⟩, ts)
  | .tag h s :: .anchor a :: ts => (fullTag? handles h s).map fun t => (⟨some a, some t⟩, ts)
  | .tag h s :: ts => (fullTag? handles h s).map fun t => (⟨none, some t⟩, ts)
  | ts => some (⟨none, none⟩, ts)

/-- A tag that is a lone exclamation mark, which says nothing about a scalar. -/
def isBareTag (tag : Option (List UInt8)) : Bool := tag == some [0x21]

/-- Whether the next token is one of some tokens. -/
def nextIs (ts : List Token) (stops : List Token) : Bool := ts.head?.any stops.contains

mutual

/-- Reads a node. Block collections are allowed if `block` holds, and a sequence without indentation
of its own if `loose` does. -/
def node? (handles : Handles) (block loose : Bool) : Nat → Tokens → Option (Node String × Tokens)
  | 0, _ => none
  | n + 1, ts =>
    match ts with
    | .reference a :: ts => some (.reference a, ts)
    | ts => do
      let (p, ts) ← properties? handles ts
      match ts with
      | .scalar plain text :: ts =>
        let p := if isBareTag p.tag then { p with tag := none } else p
        pure (.scalar p plain text, ts)
      | .flowSequence :: ts =>
        let (items, ts) ← flowItems? handles true n ts
        pure (.sequence p items, ts)
      | .flowMapping :: ts =>
        let (entries, ts) ← flowEntries? handles true n ts
        pure (.mapping p entries, ts)
      | ts =>
        if loose && nextIs ts [.entry] then
          let (items, ts) ← looseItems? handles n ts
          pure (.sequence p items, ts)
        else if block && nextIs ts [.blockSequence] then
          let (items, ts) ← blockItems? handles n ts.tail
          pure (.sequence p items, ts)
        else if block && nextIs ts [.blockMapping] then
          let (entries, ts) ← blockEntries? handles n ts.tail
          pure (.mapping p entries, ts)
        else if p.anchor.isSome || p.tag.isSome then pure (.scalar p true "", ts)
        else none

/-- Reads a node, or nothing where one of the `stops` follows. -/
def nodeUnless? (handles : Handles) (block loose : Bool) (stops : List Token) :
    Nat → Tokens → Option (Node String × Tokens)
  | 0, _ => none
  | n + 1, ts => if nextIs ts stops then some (missing, ts) else node? handles block loose n ts

/-- Reads the items of a block sequence up to its end. -/
def blockItems? (handles : Handles) : Nat → Tokens → Option (List (Node String) × Tokens)
  | 0, _ => none
  | n + 1, ts =>
    match ts with
    | .entry :: ts => do
      let (x, ts) ← nodeUnless? handles true false [.entry, .blockEnd] n ts
      let (xs, ts) ← blockItems? handles n ts
      pure (x :: xs, ts)
    | .blockEnd :: ts => some ([], ts)
    | _ => none

/-- Reads the items of a sequence that stands in a mapping without indentation of its own. -/
def looseItems? (handles : Handles) : Nat → Tokens → Option (List (Node String) × Tokens)
  | 0, _ => none
  | n + 1, ts =>
    match ts with
    | .entry :: ts => do
      let (x, ts) ← nodeUnless? handles true false [.entry, .key, .value, .blockEnd] n ts
      let (xs, ts) ← looseItems? handles n ts
      pure (x :: xs, ts)
    | ts => some ([], ts)

/-- Reads the entries of a block mapping up to its end. -/
def blockEntries? (handles : Handles) :
    Nat → Tokens → Option (List (Node String × Node String) × Tokens)
  | 0, _ => none
  | n + 1, ts =>
    match ts with
    | .key :: ts => do
      let (k, ts) ← nodeUnless? handles true true [.key, .value, .blockEnd] n ts
      let (v, ts) ←
        if nextIs ts [.value] then
          nodeUnless? handles true true [.key, .value, .blockEnd] n ts.tail
        else some (missing, ts)
      let (es, ts) ← blockEntries? handles n ts
      pure ((k, v) :: es, ts)
    | .blockEnd :: ts => some ([], ts)
    | _ => none

/-- Reads the items of a flow sequence up to its end. A pair of its own is a mapping with one entry;
after a question mark with no key behind it, one more token is passed over. -/
def flowItems? (handles : Handles) (first : Bool) :
    Nat → Tokens → Option (List (Node String) × Tokens)
  | 0, _ => none
  | n + 1, ts =>
    if nextIs ts [.flowSequenceEnd] then some ([], ts.tail)
    else do
      let ts ← if first then some ts else if nextIs ts [.flowEntry] then some ts.tail else none
      match ts with
      | .flowSequenceEnd :: ts => pure ([], ts)
      | .key :: ts =>
        let (k, ts) ←
          if nextIs ts [.value, .flowEntry, .flowSequenceEnd] then some (missing, ts.tail)
          else node? handles false false n ts
        let (v, ts) ←
          if nextIs ts [.value] then
            nodeUnless? handles false false [.flowEntry, .flowSequenceEnd] n ts.tail
          else some (missing, ts)
        let (xs, ts) ← flowItems? handles false n ts
        pure (.mapping ⟨none, none⟩ [(k, v)] :: xs, ts)
      | ts =>
        let (x, ts) ← node? handles false false n ts
        let (xs, ts) ← flowItems? handles false n ts
        pure (x :: xs, ts)

/-- Reads the entries of a flow mapping up to its end. -/
def flowEntries? (handles : Handles) (first : Bool) :
    Nat → Tokens → Option (List (Node String × Node String) × Tokens)
  | 0, _ => none
  | n + 1, ts =>
    if nextIs ts [.flowMappingEnd] then some ([], ts.tail)
    else do
      let ts ← if first then some ts else if nextIs ts [.flowEntry] then some ts.tail else none
      match ts with
      | .flowMappingEnd :: ts => pure ([], ts)
      | .key :: ts =>
        let (k, ts) ← nodeUnless? handles false false [.value, .flowEntry, .flowMappingEnd] n ts
        let (v, ts) ←
          if nextIs ts [.value] then
            nodeUnless? handles false false [.flowEntry, .flowMappingEnd] n ts.tail
          else some (missing, ts)
        let (es, ts) ← flowEntries? handles false n ts
        pure ((k, v) :: es, ts)
      | ts =>
        let (k, ts) ← node? handles false false n ts
        let (es, ts) ← flowEntries? handles false n ts
        pure ((k, missing) :: es, ts)

end

/-- The directives of a document: whether one names a version, and the handles. -/
structure Directives where
  version : Bool
  handles : Handles

/-- Reads directives. A second version, one that is not known, and a handle given twice
are errors. -/
def directives? (d : Directives) : Tokens → Option (Directives × Tokens)
  | .version major minor :: ts =>
    if d.version || major != 1 || (minor != 1 && minor != 2) then none
    else directives? { d with version := true } ts
  | .tagDirective h s :: ts =>
    if (d.handles.lookup h).isSome then none
    else directives? { d with handles := d.handles ++ [(h, s)] } ts
  | ts => some (d, ts)

/-- The handles that need no directive, behind those that have one. -/
def withDefaults (hs : Handles) : Handles :=
  hs ++ [("!", [0x21]), ("!!", "tag:yaml.org,2002:".toUTF8.toList)]

/-- Whether the content of a document that starts with a mark is left out. -/
def isLeftOut : List Token → Bool
  | [] => true
  | .version .. :: _ => true
  | .tagDirective .. :: _ => true
  | .documentStart :: _ => true
  | .documentEnd :: _ => true
  | _ => false

/-- The root node of the only document of a stream. The outer result is none if the tokens make no
document or more than one, the inner one if there are no tokens. -/
def ofTokens? (ts : List Token) : Option (Option (Node String)) :=
  let bound := 2 * ts.length + 4
  let alone (r : Option (Node String × Tokens)) : Option (Option (Node String)) := do
    let (n, ts) ← r
    if (ts.dropWhile (· == .documentEnd)).isEmpty then pure (some n) else none
  match ts with
  | [] => some none
  | .documentEnd :: _ => none
  | ts =>
    if isLeftOut ts then do
      let (d, ts) ← directives? ⟨false, []⟩ ts
      if !nextIs ts [.documentStart] then none
      let ts := ts.tail
      if isLeftOut ts then alone (some (missing, ts))
      else alone (node? (withDefaults d.handles) true false bound ts)
    else alone (node? (withDefaults []) true false bound ts)

/-! ### Anchors -/

/-- The anchors met so far, each with the number that its aliases stand for. -/
abbrev Anchors := List (String × Nat)

/-- Gives an anchor the number of anchors known before it. An anchor that is defined again counts as
one, so that two anchors may come to have one number. -/
def Anchors.define (as : Anchors) (name : String) : Anchors :=
  (name, as.length) :: as.filter (·.1 != name)

/-- Numbers the anchor of a node. -/
def numberProperties (as : Anchors) (p : Properties String) : Properties Nat × Anchors :=
  match p.anchor with
  | some a => (⟨some as.length, p.tag⟩, as.define a)
  | none => (⟨none, p.tag⟩, as)

mutual

/-- Numbers the anchors of a node in document order; an alias without an anchor before it is an
error. -/
def number? (as : Anchors) : Node String → Option (Node Nat × Anchors)
  | reference a => (as.lookup a).map fun i => (reference i, as)
  | scalar p plain text =>
    let (p, as) := numberProperties as p
    some (scalar p plain text, as)
  | sequence p items => do
    let (p, as) := numberProperties as p
    let (items, as) ← numberItems? as items
    pure (sequence p items, as)
  | mapping p entries => do
    let (p, as) := numberProperties as p
    let (entries, as) ← numberEntries? as entries
    pure (mapping p entries, as)
termination_by structural n => n

/-- Numbers the anchors of the items of a sequence. -/
def numberItems? (as : Anchors) : List (Node String) → Option (List (Node Nat) × Anchors)
  | [] => some ([], as)
  | n :: ns => do
    let (n, as) ← number? as n
    let (ns, as) ← numberItems? as ns
    pure (n :: ns, as)
termination_by structural ns => ns

/-- Numbers the anchors of the entries of a mapping. -/
def numberEntries? (as : Anchors) :
    List (Node String × Node String) → Option (List (Node Nat × Node Nat) × Anchors)
  | [] => some ([], as)
  | (k, v) :: es => do
    let (k, as) ← number? as k
    let (v, as) ← number? as v
    let (es, as) ← numberEntries? as es
    pure ((k, v) :: es, as)
termination_by structural es => es

end

/-- A node with its number, if it has one. -/
def target (p : Properties Nat) (n : Node Nat) : List (Nat × Node Nat) :=
  match p.anchor with
  | some i => [(i, n)]
  | none => []

mutual

/-- The anchored nodes at or below a node, in document order. -/
def targets : Node Nat → List (Nat × Node Nat)
  | reference _ => []
  | scalar p plain text => target p (scalar p plain text)
  | sequence p items => target p (sequence p items) ++ itemTargets items
  | mapping p entries => target p (mapping p entries) ++ entryTargets entries

/-- The anchored nodes of the items of a sequence. -/
def itemTargets : List (Node Nat) → List (Nat × Node Nat)
  | [] => []
  | n :: ns => targets n ++ itemTargets ns

/-- The anchored nodes of the entries of a mapping. -/
def entryTargets : List (Node Nat × Node Nat) → List (Nat × Node Nat)
  | [] => []
  | (k, v) :: es => targets k ++ targets v ++ entryTargets es

end

end Node

end HtmlCanon.Yaml
