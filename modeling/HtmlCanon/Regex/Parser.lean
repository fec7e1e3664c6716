import HtmlCanon.Regex.Brackets

/-!
# Reading patterns

Groups, repetitions and whole patterns. A pattern that is not well formed has no reading.
-/

namespace HtmlCanon.Regex

namespace Reader

/-! ### Groups -/

/-- The flag that a letter stands for. -/
def flagOf? : Char → Option Flag
  | 'i' => some .caseInsensitive
  | 'm' => some .multiLine
  | 's' => some .dotAll
  | 'U' => some .swapGreed
  | 'u' => some .unicode
  | 'R' => some .crlf
  | 'x' => some .verbose
  | _ => none

/-- Reads flags up to a colon or a closing parenthesis, which is left. A flag may stand once, and so
may the hyphen, which a flag has to follow. -/
def flagItems : Nat → (negated : Bool) → (dangling : Bool) → FlagSettings → Reader FlagSettings
  | 0, _, _, _ => failure
  | n + 1, negated, dangling, acc => do
    let c ← current
    if c == ':' || c == ')' then
      if dangling then failure
      pure acc.reverse
    else if c == '-' then
      if negated then failure
      advance
      flagItems n true true acc
    else
      let f ← flagOf? c
      if acc.any (·.1 == f) then failure
      advance
      flagItems n negated false ((f, !negated) :: acc)

/-- Whether a character may stand in the name of a group. -/
def isNameChar (first : Bool) (c : Char) : Bool :=
  c == '_' || Unicode.alphabetic.contains c ||
    (!first && (c == '.' || c == '[' || c == ']' || (Unicode.categoryGroup 'N').contains c))

/-- Reads the name of a group up to the angle bracket behind it. -/
def groupName : Reader Text := do
  let s ← get
  let name := s.rest.takeWhile (· != '>')
  match s.rest.dropWhile (· != '>') with
  | _ :: r =>
    let good := match name with
      | [] => false
      | c :: cs => isNameChar true c && cs.all (isNameChar false)
    if !good || s.names.contains name then failure
    set { s with rest := r, names := name :: s.names }
    pure name
  | [] => failure

/-- Whether the pattern goes on as a group that looks ahead or behind, which is not supported. -/
def isLookAround : Reader Bool := do
  let r := (← get).rest
  pure (["?=", "?!", "?<=", "?<!"].any fun p => (after? p.toList r).isSome)

/-- The number of a new capturing group. -/
def newCapture : Reader Nat := do
  let s ← get
  set { s with captures := s.captures + 1 }
  pure (s.captures + 1)

/-- What opens at a parenthesis. -/
inductive Opening where
  | settings (fs : FlagSettings)
  | group (fs : FlagSettings)
  | capture (index : Nat) (name : Option Text)

/-- Reads what opens at a parenthesis. -/
def opening : Reader Opening := do
  advanceSpace
  if ← isLookAround then failure
  if (← accept "?P<") || (← accept "?<") then
    let i ← newCapture
    pure (.capture i (some (← groupName)))
  else if ← accept "?" then
    let fs ← flagItems (← bound) false false []
    let c ← current
    advance
    if c == ')' then
      if fs.isEmpty then failure
      pure (.settings fs)
    else pure (.group fs)
  else pure (.capture (← newCapture) none)

/-! ### Repetitions -/

/-- Reads a decimal number, with blanks around it. -/
def decimal : Reader Nat := do
  modify fun s => { s with rest := s.rest.dropWhile isBlank }
  let ds ← digits (← bound) []
  blanks (← bound)
  if ds.isEmpty then failure
  let n := ofDigits 10 ds
  if n < Nat.pow 2 32 then pure n else failure
where
  digits : Nat → Text → Reader Text
    | 0, acc => pure acc.reverse
    | n + 1, acc => do
      match ← peek? with
      | some c => if c.isDigit then advanceSpace; digits n (c :: acc) else pure acc.reverse
      | none => pure acc.reverse
  blanks : Nat → Reader Unit
    | 0 => pure ()
    | n + 1 => do
      match ← peek? with
      | some c => if isBlank c then advanceSpace; blanks n else pure ()
      | none => pure ()

/-- Reads the bounds of a counted repetition, which stands at its opening brace. -/
def counts : Reader (Nat × Option Nat) := do
  advanceInside
  if (← current) == ',' then failure
  let low ← decimal
  let r ←
    if (← current) == ',' then do
      advanceInside
      if (← current) == '\x7d' then pure (low, none)
      else
        let high ← decimal
        if high < low then failure
        pure (low, some high)
    else pure (low, some low)
  if (← current) != '\x7d' then failure
  advanceSpace
  pure r

/-- Whether a repetition may follow a part. -/
def isRepeatable : Syntax → Bool
  | .empty => false
  | .flags _ => false
  | _ => true

/-- Repeats the last of some parts, which are given last one first. A question mark behind makes the
repetition reluctant. -/
def repeatLast (parts : List Syntax) (min : Nat) (max : Option Nat) : Reader (List Syntax) := do
  match parts with
  | [] => failure
  | p :: ps =>
    if !isRepeatable p then failure
    let reluctant ← accept "?"
    pure (.repetition min max (!reluctant) p :: ps)

/-! ### Whole patterns -/

/-- A part that stands for itself. -/
def primitive (c : Char) : Reader Syntax := do
  let part ← match c with
    | '\\' => escape
    | '.' => do advance; pure Part.dot
    | '^' => do advance; pure (Part.anchor .lineStart)
    | '$' => do advance; pure (Part.anchor .lineEnd)
    | c => do advance; pure (Part.literal ⟨c, false⟩)
  pure (match part with
    | .literal l => .literal l
    | .charClass c => .charClass c
    | .anchor a => .anchor a
    | .dot => .dot)

/-- Switches verbose mode if one of the flags says so. -/
def setVerbose (fs : FlagSettings) : Reader Unit :=
  modify fun s => { s with verbose := (fs.lookup .verbose).getD s.verbose }

mutual

/-- Reads alternatives up to the end of the pattern or a closing parenthesis, which is left. The
branches and the parts of the last branch are given last one first. -/
def branches : Nat → List Syntax → List Syntax → Reader Syntax
  | 0, _, _ => failure
  | n + 1, done, parts => do
    skipSpace
    let finish : Reader Syntax :=
      pure (Syntax.ofBranches (Syntax.ofParts parts.reverse :: done).reverse)
    match ← peek? with
    | none => finish
    | some ')' => finish
    | some '|' =>
      advance
      branches n (Syntax.ofParts parts.reverse :: done) []
    | some '(' =>
      let g ← group n
      branches n done (g :: parts)
    | some '[' =>
      let c ← brackets (← bound)
      branches n done (.charClass c :: parts)
    | some '?' =>
      advance
      branches n done (← repeatLast parts 0 (some 1))
    | some '*' =>
      advance
      branches n done (← repeatLast parts 0 none)
    | some '+' =>
      advance
      branches n done (← repeatLast parts 1 none)
    | some '\x7b' =>
      if !(parts.head?.any isRepeatable) then failure
      let (low, high) ← counts
      branches n done (← repeatLast parts low high)
    | some c =>
      let p ← primitive c
      branches n done (p :: parts)

/-- Reads a group, or flags for what follows. Verbose mode is as before after a group. -/
def group : Nat → Reader Syntax
  | 0 => failure
  | n + 1 => do
    let verbose := (← get).verbose
    match ← opening with
    | .settings fs =>
      setVerbose fs
      pure (.flags fs)
    | .group fs =>
      setVerbose fs
      let s ← branches n [] []
      close verbose
      pure (.group fs s)
    | .capture i name =>
      let s ← branches n [] []
      close verbose
      pure (.capture i name s)

/-- Passes over a closing parenthesis. -/
def close (verbose : Bool) : Reader Unit := do
  if (← current) != ')' then failure
  advance
  modify fun s => { s with verbose }

end

end Reader

/-- A pattern may be nested 250 deep. -/
def nestLimit : Nat := 250

/-- Reads a pattern. -/
def Syntax.parse? (t : Text) : Option Syntax := do
  let (s, st) ← (Reader.branches (2 * t.length + 2) [] []).run ⟨t, false, 0, []⟩
  if st.rest.isEmpty && s.depth ≤ nestLimit then pure s else none

end HtmlCanon.Regex
