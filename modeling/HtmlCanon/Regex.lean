import HtmlCanon.Regex.Parser
import HtmlCanon.Regex.Replacement
import HtmlCanon.Regex.Search
import HtmlCanon.Regex.Size

/-!
# Regular expressions

Patterns are compiled once and then searched for, or replaced in a text: all matches from left to
right, none of which overlap. Where several matches start at one place the pattern says which one is
preferred.
-/

namespace HtmlCanon

/-- A compiled pattern. -/
structure Regex where
  program : Regex.Program
  /-- The names of groups, with their numbers. -/
  names : List (Text × Nat)

namespace Regex

mutual

/-- The named groups of a pattern. -/
def Syntax.groupNames : Syntax → List (Text × Nat)
  | .capture i (some n) s => (n, i) :: s.groupNames
  | .capture _ none s => s.groupNames
  | .repetition _ _ _ s => s.groupNames
  | .group _ s => s.groupNames
  | .alternation ss => Syntax.groupNamesOf ss
  | .concat ss => Syntax.groupNamesOf ss
  | _ => []

/-- The named groups of some patterns. -/
def Syntax.groupNamesOf : List Syntax → List (Text × Nat)
  | [] => []
  | s :: ss => s.groupNames ++ Syntax.groupNamesOf ss

end

mutual

/-- The number of capturing groups of a pattern. -/
def Syntax.captures : Syntax → Nat
  | .capture _ _ s => s.captures + 1
  | .repetition _ _ _ s => s.captures
  | .group _ s => s.captures
  | .alternation ss => Syntax.capturesOf ss
  | .concat ss => Syntax.capturesOf ss
  | _ => 0

/-- The number of capturing groups of some patterns. -/
def Syntax.capturesOf : List Syntax → Nat
  | [] => 0
  | s :: ss => s.captures + Syntax.capturesOf ss

end

/-- Compiles a pattern; none if it is not well formed or too large. -/
def compile? (pattern : Text) : Option Regex := do
  let s ← Syntax.parse? pattern
  let (e, _) ← s.toExpr? Flags.initial
  if e.fits then pure ⟨Program.ofExpr e s.captures, s.groupNames⟩ else none

/-- Whether a pattern matches somewhere in a text. -/
def isMatch (r : Regex) (t : Text) : Bool := (r.program.search ⟨0, none, t⟩).isSome

/-- A match: where it starts and where it ends. -/
structure Match where
  start : Nat
  stop : Nat
  slots : Slots

/-- The first match from a place on. -/
def find? (r : Regex) (s : Spot) : Option Match := do
  let slots ← r.program.search s
  pure ⟨(← (slots[0]?).join), (← (slots[1]?).join), slots⟩

/-- The place `n` characters further on. -/
def Spot.skip (s : Spot) (n : Nat) : Spot :=
  match n with
  | 0 => s
  | n + 1 => ⟨s.index + n + 1, s.rest[n]?, s.rest.drop (n + 1)⟩

/-- The next match from a place on, where the last one ended at `last`. An empty match that only
repeats the end of the last one does not count. -/
def next? (r : Regex) (s : Spot) (last : Option Nat) : Option Match :=
  match r.find? s with
  | some m =>
    if m.start == m.stop && some m.stop == last then
      if s.rest.isEmpty then none else r.find? (s.skip 1)
    else some m
  | none => none

/-- The characters of a group in a match, none at all if it took no part. -/
def groupText (whole : Array Char) (m : Match) (i : Nat) : Text :=
  match (m.slots[2 * i]?).join, (m.slots[2 * i + 1]?).join with
  | some a, some b => (whole.extract a b).toList
  | _, _ => []

/-- What a part of a replacement stands for in a match; a group that does not exist is empty. -/
def pieceText (r : Regex) (whole : Array Char) (m : Match) : Piece → Text
  | .text t => t
  | .group (.number i) => groupText whole m i
  | .group (.name n) => ((r.names.lookup n).map (groupText whole m)).getD []

/-- Replaces the matches from a place on. A match that is not empty takes a character, and after an
empty one the next match is further on, so `n` steps suffice for fewer than `n` characters. -/
def replaceFrom (r : Regex) (whole : Array Char) (ps : List Piece) :
    (n : Nat) → Spot → (last : Option Nat) → Text
  | 0, s, _ => s.rest
  | n + 1, s, last =>
    match r.next? s last with
    | none => s.rest
    | some m =>
      s.rest.take (m.start - s.index) ++ ps.flatMap (r.pieceText whole m) ++
        replaceFrom r whole ps n (s.skip (m.stop - s.index)) (some m.stop)

/-- Replaces every match of a pattern. -/
def replaceAll (r : Regex) (replacement t : Text) : Text :=
  r.replaceFrom t.toArray (pieces replacement) (2 * t.length + 2) ⟨0, none, t⟩ none

end Regex

end HtmlCanon
