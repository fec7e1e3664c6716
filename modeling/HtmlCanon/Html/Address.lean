import HtmlCanon.Html.Node

/-!
# Addresses in a forest

A node of a forest is named by its address: its index among the top-level nodes, then the index
among the children of that node, and so on. An edit at an address replaces one node by a list of
nodes, so it moves no node that stands before it; a list of edits is therefore made from the last
address to the first.

A trail is a node seen from where it stands: its siblings and, level by level, the elements above.
-/

namespace HtmlCanon.Html

/-- The way from the top of a forest down to a node. -/
abbrev Address := List Nat

/-- A node among its siblings, those before it nearest first. -/
structure Level where
  before : List Node
  here : Node
  after : List Node

/-- A node with everything around it: its own level first, then the levels of the elements above. -/
abbrev Trail := List Level

namespace Trail

/-- The address of the node that a trail ends in. -/
def address (t : Trail) : Address := (t.map fun l => l.before.length).reverse

/-- The trail of the sibling just before. -/
def previous? : Trail → Option Trail
  | ⟨b :: bs, n, as⟩ :: up => some (⟨bs, b, n :: as⟩ :: up)
  | _ => none

end Trail

namespace Forest

mutual

/-- The trails of a node and of all nodes below it, in document order. -/
def trailsAt (up : Trail) (before : List Node) (n : Node) (after : List Node) : List Trail :=
  (⟨before, n, after⟩ :: up) ::
    match n with
    | .element _ _ ns => trailsFrom (⟨before, n, after⟩ :: up) [] ns
    | _ => []
termination_by structural n

/-- The trails of a list of siblings, those before them given nearest first. -/
def trailsFrom (up : Trail) (before : List Node) : List Node → List Trail
  | [] => []
  | n :: ns => trailsAt up before n ns ++ trailsFrom up (n :: before) ns
termination_by structural ns => ns

end

/-- The trails of all nodes of a forest, in document order. -/
def trails (ns : List Node) : List Trail := trailsFrom [] [] ns

/-- The node at an address. -/
def get? : Address → List Node → Option Node
  | [], _ => none
  | _, [] => none
  | [0], n :: _ => some n
  | 0 :: i :: a, n :: _ => get? (i :: a) n.children
  | (k + 1) :: a, _ :: ns => get? (k :: a) ns
termination_by a ns => (a.length, ns.length)

/-- Replaces the node at an address by the nodes that `f` makes of it. -/
def replaceAt (f : Node → List Node) : Address → List Node → List Node
  | [], ns => ns
  | _, [] => []
  | [0], n :: ns => f n ++ ns
  | 0 :: i :: a, .element t c cs :: ns => .element t c (replaceAt f (i :: a) cs) :: ns
  | 0 :: _ :: _, n :: ns => n :: ns
  | (k + 1) :: a, n :: ns => n :: replaceAt f (k :: a) ns
termination_by a ns => (a.length, ns.length)

/-- Replaces the nodes at several addresses in document order, the last one first. -/
def replaceAll (f : Node → List Node) (as : List Address) (ns : List Node) : List Node :=
  as.foldr (fun a ns => replaceAt f a ns) ns

/-- Takes the nodes at several addresses in document order out of a forest. A node that lies below
another one of them is taken out of it and stands beside it. The first result holds the nodes taken,
the second what is left. -/
def extract (as : List Address) (ns : List Node) : List Node × List Node :=
  as.foldr (fun a (taken, rest) =>
    match get? a rest with
    | some n => (n :: taken, replaceAt (fun _ => []) a rest)
    | none => (taken, rest)) ([], ns)

/-- The addresses, of a list in document order, that lie below no other one of it. -/
def outermost (as : List Address) : List Address :=
  (as.foldl (fun kept a => if kept.any (·.isPrefixOf a) then kept else a :: kept) []).reverse

end Forest

end HtmlCanon.Html
