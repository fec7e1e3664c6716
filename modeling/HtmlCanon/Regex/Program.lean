import HtmlCanon.Regex.Expr

/-!
# Programs for matching

An expression becomes a list of instructions, each of which names those that may come next. Of
several the first is preferred, and so it is known, wherever two matches start at one place, which
of them counts.
-/

namespace HtmlCanon.Regex

/-- An instruction. -/
inductive Inst where
  | accept
  | fail
  /-- One character of a set. -/
  | take (ranges : Array (Nat × Nat)) (next : Nat)
  /-- A condition on the place. -/
  | check (l : Look) (next : Nat)
  /-- Notes the place under a number. -/
  | note (slot next : Nat)
  /-- One of several instructions, in the order of preference. -/
  | choose (next : List Nat)
  deriving Repr, Inhabited

/-- Instructions, numbered by their places. -/
abbrev Code := Array Inst

namespace Code

/-- Adds an instruction; the first result is its number. -/
def add (i : Inst) (code : Code) : Nat × Code := (code.size, code.push i)

/-- How to put instructions in front of a given one: the number of the first one, and all
of them. -/
abbrev Emitter := (next : Nat) → Code → Nat × Code

/-- The instructions of `e`, `n` times in a row. -/
def times (e : Emitter) : Nat → Emitter
  | 0, next, code => (next, code)
  | n + 1, next, code =>
    let (mid, code) := times e n next code
    e mid code

/-- A choice between going on inside a repetition and leaving it. -/
def choice (greedy : Bool) (inside outside : Nat) : Inst :=
  .choose (if greedy then [inside, outside] else [outside, inside])

/-- The instructions of `e` up to `n` times, each time by choice. -/
def upTo (greedy : Bool) (e : Emitter) (exit : Nat) : Nat → Code → Nat × Code
  | 0, code => (exit, code)
  | n + 1, code =>
    let (mid, code) := upTo greedy e exit n code
    let (inside, code) := e mid code
    add (choice greedy inside exit) code

/-- The instructions of `e` at least once. The first results are the number of the choice at the end
and that of the first instruction. -/
def loop (greedy : Bool) (e : Emitter) : (next : Nat) → Code → (Nat × Nat) × Code :=
  fun next code =>
    let (again, code) := add .fail code
    let (start, code) := e again code
    ((again, start), code.setIfInBounds again (choice greedy start next))

end Code

open Code

mutual

/-- The instructions of an expression. What may match the empty text is repeated any number of times
by choosing whether to enter a loop that is run at least once. -/
def Expr.emit : Expr → Emitter
  | .empty, next, code => (next, code)
  | .char c, next, code => add (.take #[(c.toNat, c.toNat)] next) code
  | .oneOf s, next, code => add (.take s.toArray next) code
  | .look l, next, code => add (.check l next) code
  | .capture i _ e, next, code =>
    let (stop, code) := add (.note (2 * i + 1) next) code
    let (start, code) := e.emit stop code
    add (.note (2 * i) start) code
  | .concat es, next, code => Expr.emitAll es next code
  | .alternation es, next, code =>
    let (starts, code) := Expr.emitEach es next code
    add (.choose starts) code
  | .repetition min (some max) greedy e, next, code =>
    let (mid, code) := upTo greedy e.emit next (max - min) code
    times e.emit min mid code
  | .repetition 0 none greedy e, next, code =>
    let ((again, start), code) := loop greedy e.emit next code
    if e.isProductive then (again, code) else add (choice greedy start next) code
  | .repetition (n + 1) none greedy e, next, code =>
    let ((_, start), code) := loop greedy e.emit next code
    times e.emit n start code

/-- The instructions of some expressions in a row. -/
def Expr.emitAll : List Expr → Emitter
  | [], next, code => (next, code)
  | e :: es, next, code =>
    let (mid, code) := Expr.emitAll es next code
    e.emit mid code

/-- The instructions of some expressions side by side. -/
def Expr.emitEach : List Expr → (next : Nat) → Code → List Nat × Code
  | [], _, code => ([], code)
  | e :: es, next, code =>
    let (start, code) := e.emit next code
    let (starts, code) := Expr.emitEach es next code
    (start :: starts, code)

end

/-- A program: its instructions, the first one to run, the number of noted places, and how many
steps from one instruction to the next there are. -/
structure Program where
  code : Code
  start : Nat
  slots : Nat
  steps : Nat

/-- The steps from an instruction to the next. -/
def Inst.steps : Inst → Nat
  | .choose next => next.length
  | _ => 1

/-- The program of an expression with `captures` capturing groups. The whole match counts as the
group with the number zero. -/
def Program.ofExpr (e : Expr) (captures : Nat) : Program :=
  let (last, code) := add .accept #[]
  let (start, code) := (Expr.capture 0 none e).emit last code
  ⟨code, start, 2 * (captures + 1), code.foldl (fun n i => n + i.steps) 0⟩

end HtmlCanon.Regex
