import HtmlCanon.Regex.Program

/-!
# Searching

A program runs over a text once, with all the places where it may stand kept in the order of
preference. No place is kept twice, so the work for a character is bounded by the size of the
program.
-/

namespace HtmlCanon.Regex

open Unicode

/-- Whether a number lies in one of the ranges from `low` up to `high`, which are in order. -/
def inRanges (ranges : Array (Nat × Nat)) (n : Nat) : (fuel low high : Nat) → Bool
  | 0, _, _ => false
  | fuel + 1, low, high =>
    if low < high then
      let mid := (low + high) / 2
      match ranges[mid]? with
      | some (a, b) =>
        if n < a then inRanges ranges n fuel low mid
        else if b < n then inRanges ranges n fuel (mid + 1) high
        else true
      | none => false
    else false

/-- The characters of words, for a fast search. -/
def wordRanges : Array (Nat × Nat) := wordChars.toArray

/-- Whether a character belongs to words. -/
def isWord (unicode : Bool) (c : Char) : Bool :=
  isAsciiAlphanum c || c == '_' ||
    (unicode && 0x80 ≤ c.toNat &&
      inRanges wordRanges c.toNat (wordRanges.size + 1) 0 wordRanges.size)

namespace Look

/-- Whether a condition holds between two characters, where nothing stands for an end of
the text. -/
def holds (before after : Option Char) : Look → Bool
  | textStart => before.isNone
  | textEnd => after.isNone
  | lineStart => before.all (· == '\n')
  | lineEnd => after.all (· == '\n')
  | crlfLineStart => before.all fun c => c == '\n' || (c == '\r' && after != some '\n')
  | crlfLineEnd => after.all fun c => c == '\r' || (c == '\n' && before != some '\r')
  | boundary u => before.any (isWord u) != after.any (isWord u)
  | notBoundary u => before.any (isWord u) == after.any (isWord u)
  | wordStart u => !before.any (isWord u) && after.any (isWord u)
  | wordEnd u => before.any (isWord u) && !after.any (isWord u)
  | wordStartHalf u => !before.any (isWord u)
  | wordEndHalf u => !after.any (isWord u)

end Look

/-- The places noted so far, by number. -/
abbrev Slots := Array (Option Nat)

/-- A place in a program that waits for a character or accepts. -/
structure Thread where
  inst : Nat
  slots : Slots

/-- A place between two characters of a text: how many come before it, the last of them, and those
after it. -/
structure Spot where
  index : Nat
  before : Option Char
  rest : Text

namespace Program

/-- The instructions met at a place, each marked with the number of the place plus one, and the
threads there, the last one first. -/
structure Wave where
  seen : Array Nat
  threads : List Thread

/-- Follows instructions up to those that wait for a character or accept. -/
def follow (p : Program) (s : Spot) : (fuel : Nat) → List Thread → Wave → Wave
  | 0, _, w => w
  | _, [], w => w
  | n + 1, t :: ts, ⟨seen, threads⟩ =>
    if seen[t.inst]? == some (s.index + 1) then follow p s n ts ⟨seen, threads⟩
    else
      let seen := seen.setIfInBounds t.inst (s.index + 1)
      match p.code[t.inst]? with
      | some (.check l next) =>
        if l.holds s.before s.rest.head? then follow p s n (⟨next, t.slots⟩ :: ts) ⟨seen, threads⟩
        else follow p s n ts ⟨seen, threads⟩
      | some (.note slot next) =>
        follow p s n (⟨next, t.slots.setIfInBounds slot (some s.index)⟩ :: ts) ⟨seen, threads⟩
      | some (.choose next) =>
        follow p s n (next.map (⟨·, t.slots⟩) ++ ts) ⟨seen, threads⟩
      | some _ => follow p s n ts ⟨seen, t :: threads⟩
      | none => follow p s n ts ⟨seen, threads⟩

/-- The threads after a character, and the match that is preferred to all of them, if there is one.
Threads behind one that accepts are dropped. -/
def step (p : Program) (c : Option Char) (next : Spot) : List Thread → Wave → Wave × Option Slots
  | [], w => (w, none)
  | t :: ts, w =>
    match p.code[t.inst]?, c with
    | some .accept, _ => (w, some t.slots)
    | some (.take ranges i), some c =>
      if inRanges ranges c.toNat (ranges.size + 1) 0 ranges.size then
        step p (some c) next ts (follow p next (p.steps + 1) [⟨i, t.slots⟩] w)
      else step p (some c) next ts w
    | _, _ => step p c next ts w

/-- Goes on with a search. The match so far, if there is one, is given up for what a thread finds,
and no new threads start once there is one. -/
def searchFrom (p : Program) (index : Nat) (before : Option Char) (seen : Array Nat)
    (threads : List Thread) (best : Option Slots) : Text → Option Slots
  | [] =>
    let s : Spot := ⟨index, before, []⟩
    let w := if best.isSome then ⟨seen, threads.reverse⟩ else
      follow p s (p.steps + 1) [⟨p.start, Array.replicate p.slots none⟩] ⟨seen, threads.reverse⟩
    ((step p none s w.threads.reverse ⟨w.seen, []⟩).2).or best
  | c :: r =>
    let s : Spot := ⟨index, before, c :: r⟩
    let w := if best.isSome then ⟨seen, threads.reverse⟩ else
      follow p s (p.steps + 1) [⟨p.start, Array.replicate p.slots none⟩] ⟨seen, threads.reverse⟩
    let (w, found) := step p (some c) ⟨index + 1, some c, r⟩ w.threads.reverse ⟨w.seen, []⟩
    let best := found.or best
    -- no thread is left that could find a match preferred to the best one
    if best.isSome && w.threads.isEmpty then best
    else searchFrom p (index + 1) (some c) w.seen w.threads.reverse best r

/-- The first match from a place on: the places noted in it. -/
def search (p : Program) (s : Spot) : Option Slots :=
  searchFrom p s.index s.before (Array.replicate p.code.size 0) [] none s.rest

end Program

end HtmlCanon.Regex
