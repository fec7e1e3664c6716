import HtmlCanon.Html.Builder

/-!
# Formatting elements

Elements such as `b` and `font` go on over the ends of blocks: they are reopened in the next block,
and an end tag that is misnested is repaired by splitting the element in two.
-/

namespace HtmlCanon.Html

namespace Builder

/-- The formatting elements since the last marker, latest first. -/
def recentFormatting (b : Builder) : List (NodeId × StartTag) :=
  (b.formatting.takeWhile fun
    | .marker => false
    | _ => true).filterMap fun
    | .marker => none
    | .element i t => some (i, t)

/-- Whether an entry is the given element. -/
def isEntryOf (i : NodeId) : Formatting → Bool
  | .marker => false
  | .element j _ => i == j

/-- The start tag that a formatting element was made for. -/
def formattingTag? (b : Builder) (i : NodeId) : Option StartTag :=
  b.formatting.findSome? fun
    | .marker => none
    | .element j t => if i == j then some t else none

/-- Forgets a formatting element. -/
def forget (i : NodeId) (b : Builder) : Builder :=
  { b with formatting := b.formatting.filter (!isEntryOf i ·) }

/-- Puts a new element into the place of a formatting element. -/
def renew (old new : NodeId) (b : Builder) : Builder :=
  { b with formatting := b.formatting.map fun
      | .marker => .marker
      | .element j t => if old == j then .element new t else .element j t }

end Builder

namespace Build

open Builder

/-- Opens elements again, the earliest first, and puts each in the place of the old one. -/
def reopenAll : List (NodeId × StartTag) → Build Unit
  | [] => return
  | (old, t) :: rest => do
    let new ← insert (htmlTag t)
    modify (renew old new)
    reopenAll rest

/-- Reopens the formatting elements that were closed since the last one that is still open. -/
def reopenFormatting : Build Unit := do
  let b ← get
  let closed := b.recentFormatting.takeWhile fun (i, _) => !b.stack.contains i
  reopenAll closed.reverse

/-- Opens a formatting element. Of more than three alike the earliest is forgotten. -/
def insertFormatting (t : StartTag) : Build Unit := do
  let b ← get
  let alike := b.recentFormatting.filter fun (_, u) => htmlTag t == htmlTag u
  if 3 ≤ alike.length then
    if let some (i, _) := alike.getLast? then modify (forget i)
  let i ← insert (htmlTag t)
  modify fun b => { b with formatting := .element i t :: b.formatting }

/-- Reads an end tag that no other rule covers: closes elements up to the innermost of its name,
unless a special element stands in between. -/
def closeNamed (name : String) : Build Unit := do
  let b ← get
  let target := b.stack.find? fun i => b.hasTag (fun t => t.isHtml [name] || t.isSpecial) i
  match target with
  | some i =>
    if b.hasTag (·.isHtml [name]) i then
      closeImpliedBut name
      modify fun b => { b with stack := (b.stack.dropWhile (· != i)).tail }
  | none => return

/-- Where the split half of a formatting element goes in the list: into the place of the element,
or after a renewed one. -/
inductive Bookmark where
  | replace
  | after (i : NodeId)

/-- Moves a block out of the open elements between it and a formatting element, innermost first.
The first three that are formatting elements are renewed around it, the others are closed. The
answer is the node moved last. -/
def liftBlock (block : NodeId) :
    List NodeId → (count : Nat) → (last : NodeId) → Bookmark → Build (NodeId × Bookmark)
  | [], _, last, mark => return (last, mark)
  | i :: rest, count, last, mark => do
    match (← get).formattingTag? i with
    | none =>
      unstack i
      liftBlock block rest (count + 1) last mark
    | some t =>
      if 3 < count then
        modify (forget i)
        unstack i
        liftBlock block rest (count + 1) last mark
      else
        let new ← element (htmlTag t)
        modify fun b =>
          renew i new { b with stack := b.stack.map fun j => if i == j then new else j }
        let mark := if last == block then .after new else mark
        arena (·.append new last)
        liftBlock block rest (count + 1) new mark

/-- Puts the split half of a formatting element into the list. -/
def settle (old new : NodeId) (t : StartTag) (mark : Bookmark) : Build Unit :=
  modify fun b =>
    match mark with
    | .replace => renew old new b
    | .after i =>
      let marked := b.formatting.flatMap fun e =>
        if isEntryOf i e then [.element new t, e] else [e]
      forget old { b with formatting := marked }

/-- One round of closing a formatting element. The answer is whether another round follows. -/
def splitOnce (name : String) : Build Bool := do
  let b ← get
  match b.recentFormatting.find? fun (_, t) => t.name == name with
  | none =>
    closeNamed name
    return false
  | some (element, t) =>
    if !b.stack.contains element then
      modify (forget element)
      return false
    if !b.inScope Tag.boundsScope (· == element) then return false
    -- the outermost special element inside the formatting element
    let above := b.stack.takeWhile (· != element)
    match (above.filter (b.hasTag Tag.isSpecial)).getLast? with
    | none =>
      -- nothing has to be split
      modify fun b => forget element { b with stack := (b.stack.dropWhile (· != element)).tail }
      return false
    | some block =>
      let ancestor := ((b.stack.dropWhile (· != element)).tail.head?).getD 0
      let between := (above.dropWhile (· != block)).tail
      let (last, mark) ← liftBlock block between 1 block .replace
      arena (·.detach last)
      let b ← get
      arena (·.put (b.placeBelow ancestor) last)
      -- the half of the formatting element that lies inside the block
      let new ← Build.element (htmlTag t)
      arena fun a => (a.moveKids block new).append block new
      settle element new t mark
      unstack element
      modify fun b => { b with
        stack := b.stack.flatMap fun i => if i == block then [new, i] else [i] }
      return true

/-- Repeats `splitOnce` while it asks for more, `n` times at most. -/
def splitRounds (name : String) : Nat → Build Unit
  | 0 => return
  | n + 1 => do
    if ← splitOnce name then splitRounds name n

/-- Closes a formatting element, whatever it is nested in. -/
def closeFormatting (name : String) : Build Unit := do
  let b ← get
  if b.currentNamed name && b.current?.any fun i => (b.formattingTag? i).isNone then pop
  -- eight rounds, after which a page is left as it is
  else splitRounds name 8

end Build

end HtmlCanon.Html
