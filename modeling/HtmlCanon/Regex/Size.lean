import HtmlCanon.Regex.Expr

/-!
# The size of an expression

An expression is refused if the automaton that works on the UTF-8 encoding of texts would take too
much room. The automaton is measured in both directions: forwards, where the nodes for a set of
characters are shared as far as possible, and backwards, where they are shared only as far as their
encodings begin alike.
-/

namespace HtmlCanon.Regex

open Unicode

/-- A range of bytes for each place of an encoded character. -/
abbrev ByteRanges := List (Nat × Nat)

/-- The sequences of byte ranges of the numbers from `a` to `b`, written with `k` bytes of six bits
behind a first one that starts at `lead`. -/
def splitRange (lead : Nat) : (k a b : Nat) → List ByteRanges
  | 0, a, b => [[(lead + a, lead + b)]]
  | k + 1, a, b =>
    let unit := 64 ^ (k + 1)
    let ha := a / unit
    let hb := b / unit
    let under (h : Nat) (rs : List ByteRanges) : List ByteRanges :=
      rs.map ((lead + h, lead + h) :: ·)
    let rest (a b : Nat) : List ByteRanges := splitRange 0x80 k a b
    if ha == hb then under ha (rest (a % unit) (b % unit))
    else
      let low := if a % unit == 0 then [] else under ha (rest (a % unit) (unit - 1))
      let high := if b % unit == unit - 1 then [] else under hb (rest 0 (b % unit))
      let first := if a % unit == 0 then ha else ha + 1
      let last := if b % unit == unit - 1 then hb + 1 else hb
      let middle :=
        if first < last then
          (rest 0 (unit - 1)).map ((lead + first, lead + last - 1) :: ·)
        else []
      low ++ middle ++ high

/-- The lengths of encodings: the last number with one, the first byte, and how many
bytes follow. -/
def encodingClasses : List (Nat × Nat × Nat × Nat) :=
  [(0, 0x7F, 0, 0), (0x80, 0x7FF, 0xC0, 1), (0x800, 0xFFFF, 0xE0, 2), (0x10000, 0x10FFFF, 0xF0, 3)]

/-- The byte ranges of the encodings of a set of characters, in order. -/
def encodings (s : CharSet) : List ByteRanges :=
  (s.inter CharSet.full).flatMap fun (a, b) =>
    encodingClasses.flatMap fun (low, high, lead, k) =>
      if max a low ≤ min b high then splitRange lead k (max a low) (min b high) else []

/-- A tree of byte ranges. -/
inductive ByteTree where
  | node (next : List (Nat × Nat × ByteTree))
  deriving BEq

/-- Adds byte ranges at the end of a tree, sharing what the last ones begin with. The branches of a
node are given last one first. -/
def ByteTree.add : ByteTree → ByteRanges → ByteTree
  | t, [] => t
  | .node ((a, b, t) :: next), (c, d) :: rs =>
    if a == c && b == d then .node ((a, b, t.add rs) :: next)
    else .node ((c, d, (ByteTree.node []).add rs) :: (a, b, t) :: next)
  | .node [], (c, d) :: rs => .node [(c, d, (ByteTree.node []).add rs)]

mutual

/-- The branches of a tree at all its nodes. -/
def ByteTree.edges : ByteTree → Nat
  | .node next => ByteTree.edgesOf next

/-- The branches of a node and of those below it. -/
def ByteTree.edgesOf : List (Nat × Nat × ByteTree) → Nat
  | [] => 0
  | (_, _, t) :: next => t.edges + 1 + ByteTree.edgesOf next

end

/-- The kinds of nodes met so far: the branches of each, with the kinds of the nodes below. -/
abbrev NodeKinds := List (List (Nat × Nat × Nat))

/-- The number of a kind of node, a new one if it was not met before. -/
def kindOf (kinds : NodeKinds) (next : List (Nat × Nat × Nat)) : Nat × NodeKinds :=
  match kinds.idxOf? next with
  | some i => (kinds.length - i, kinds)
  | none => (kinds.length + 1, next :: kinds)

mutual

/-- Numbers the kinds of the nodes of a tree. The end of all encodings has the number zero. -/
def ByteTree.kinds (ks : NodeKinds) : ByteTree → Nat × NodeKinds
  | .node [] => (0, ks)
  | .node (e :: next) =>
    let (branches, ks) := ByteTree.kindsOf ks (e :: next)
    kindOf ks branches

/-- Numbers the kinds of the nodes below the branches of a node. -/
def ByteTree.kindsOf (ks : NodeKinds) :
    List (Nat × Nat × ByteTree) → List (Nat × Nat × Nat) × NodeKinds
  | [] => ([], ks)
  | (a, b, t) :: next =>
    let (i, ks) := t.kinds ks
    let (rest, ks) := ByteTree.kindsOf ks next
    ((a, b, i) :: rest, ks)

end

/-- The room that a state takes, and that each branch of a node and each alternative adds. -/
def stateSize : Nat := 32

/-- The room that a branch of a node adds. -/
def branchSize : Nat := 8

/-- The room that an alternative adds. -/
def alternativeSize : Nat := 4

/-- The room for a set of characters. -/
def setSize (backward : Bool) (s : CharSet) : Nat :=
  if s.isEmpty then stateSize
  else if s.isAscii then 2 * stateSize + branchSize * s.length
  else
    let seqs := encodings s
    let tree := seqs.foldl ByteTree.add (.node [])
    if backward then stateSize * (2 + tree.edges) + alternativeSize * seqs.length
    else
      let (_, ks) := tree.kinds []
      stateSize * (1 + ks.length) + branchSize * ks.flatten.length

/-- No set takes more room than this for each of its ranges. -/
def roughSetSize (s : CharSet) : Nat := 4096 * (s.length + 1)

namespace Expr

mutual

/-- The room for an expression, given that for a set of characters. -/
def size (ofSet : CharSet → Nat) (backward : Bool) : Expr → Nat
  | empty => stateSize
  | char c => stateSize * c.utf8Size
  | oneOf s => ofSet s
  | look _ => stateSize
  | repetition min max _ e =>
    let n := size ofSet backward e
    match max with
    | some m =>
      if m == min then m * n
      else m * n + stateSize + (m - min) * (stateSize + 2 * alternativeSize)
    | none =>
      (Nat.max min 1) * n + stateSize + 2 * alternativeSize +
        (if min == 0 && !e.isProductive then 2 * stateSize + 2 * alternativeSize else 0)
  | capture _ _ e => size ofSet backward e + (if backward then 0 else 2 * stateSize)
  | concat es => sizes ofSet backward es
  | alternation es =>
    sizes ofSet backward es + 2 * stateSize + alternativeSize * es.length

/-- The room for some expressions. -/
def sizes (ofSet : CharSet → Nat) (backward : Bool) : List Expr → Nat
  | [] => 0
  | e :: es => size ofSet backward e + sizes ofSet backward es

end

/-- The room that an expression may take. -/
def sizeLimit : Nat := 10 * Nat.pow 2 20

/-- Whether an expression is small enough. A rough bound spares most expressions the count. -/
def fits (e : Expr) : Bool :=
  e.size roughSetSize false ≤ sizeLimit ||
    (e.size (setSize false) false ≤ sizeLimit && e.size (setSize true) true ≤ sizeLimit)

end Expr

end HtmlCanon.Regex
