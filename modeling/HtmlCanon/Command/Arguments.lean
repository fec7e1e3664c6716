import HtmlCanon.Rule.Selection

/-!
# Command lines

The options that a command line may give, and what it asks for. An option has a letter and a word.
Its value, if it takes one, is written in the same argument or in the next one, unless that looks
like an option itself. Letters of options without a value can be written together.
-/

namespace HtmlCanon.Command

/-- An option of the command line. -/
inductive Switch where
  | config | input | outputFile | path | regions | quiet | debug | help | version
  deriving DecidableEq, Repr

/-- Why a command line does not start a run. -/
inductive Stop where
  | help
  | version
  /-- No configuration is given. -/
  | missing
  /-- An option has no value, or an empty one where a file is to be named. -/
  | badValue (s : Switch)
  /-- An option that takes no value has one. -/
  | surplusValue (s : Switch)
  /-- Two options are given that do not go together, which may be the same one. -/
  | conflict (s t : Switch)
  /-- An argument that is no option and no value of one. -/
  | unknown (argument : String)
  deriving DecidableEq, Repr

/-- What is asked for on a command line. -/
structure Arguments where
  config : String
  input : Option String
  output : Option String
  path : Option String
  /-- The names of regions, in order; empty if none are asked for. -/
  regions : List String
  quiet : Bool
  debug : Bool
  deriving DecidableEq, Repr

namespace Switch

/-- All options. -/
def all : List Switch :=
  [config, input, outputFile, path, regions, quiet, debug, help, version]

/-- The letter of an option. -/
def letter : Switch → Char
  | config => 'c'
  | input => 'i'
  | outputFile => 'o'
  | path => 'p'
  | regions => 'r'
  | quiet => 'q'
  | debug => 'd'
  | help => 'h'
  | version => 'V'

/-- The word of an option. -/
def word : Switch → String
  | config => "config"
  | input => "input"
  | outputFile => "output-file"
  | path => "path"
  | regions => "regions"
  | quiet => "quiet"
  | debug => "debug"
  | help => "help"
  | version => "version"

/-- The option with a letter. -/
def ofLetter? (c : Char) : Option Switch := all.find? fun s => s.letter == c

/-- The option with a word. -/
def ofWord? (w : Text) : Option Switch := all.find? fun s => s.word.toList == w

/-- Whether an option takes a value. -/
def takesValue : Switch → Bool
  | config | input | outputFile | path | regions => true
  | quiet | debug | help | version => false

/-- Whether the value of an option is the name of a file. -/
def namesFile : Switch → Bool
  | config | input | outputFile => true
  | _ => false

end Switch

/-- An option as it is given. -/
structure Given where
  switch : Switch
  value : Option Text
  deriving DecidableEq, Repr

/-- How an argument with options ends. -/
inductive Ending where
  | complete
  /-- The value of the last option is still to come. -/
  | awaiting (s : Switch)
  | stopped (why : Stop)
  deriving Repr

/-- What a single argument says. -/
inductive Argument where
  /-- No options come after this one. -/
  | separator
  | options (given : List Given) (ending : Ending)
  | word
  deriving Repr

namespace Argument

/-- Reads letters of options. The first one that takes a value has what is left, if anything, after
an equals sign or at once. -/
def ofLetters (given : List Given) : Text → Argument
  | [] => .options given .complete
  | c :: r =>
    match Switch.ofLetter? c with
    | none => .options given (.stopped (.unknown (String.ofList ['-', c])))
    | some s =>
      if s.takesValue then
        match r with
        | [] => .options given (.awaiting s)
        | '=' :: v => .options (given ++ [⟨s, some v⟩]) .complete
        | v => .options (given ++ [⟨s, some v⟩]) .complete
      else ofLetters (given ++ [⟨s, none⟩]) r

/-- Reads the word of an option and the value that is written after it, if there is one. -/
def ofWord (name : Text) (value : Option Text) : Argument :=
  match Switch.ofWord? name with
  | none => .options [] (.stopped (.unknown (String.ofList ('-' :: '-' :: name))))
  | some s =>
    match s.takesValue, value with
    | true, some v => .options [⟨s, some v⟩] .complete
    | true, none => .options [] (.awaiting s)
    | false, some _ => .options [] (.stopped (.surplusValue s))
    | false, none => .options [⟨s, none⟩] .complete

/-- Reads an argument. A single hyphen is a word. -/
def ofText : Text → Argument
  | ['-', '-'] => .separator
  | '-' :: '-' :: r =>
    match splitAt? ['='] r with
    | some (name, value) => ofWord name (some value)
    | none => ofWord r none
  | ['-'] => .word
  | '-' :: r => ofLetters [] r
  | _ => .word

end Argument

/-- The options that some arguments give, up to the first argument that cannot be read. The option
before them, if its value was or is to be read from an argument of its own, is given too. It does
not count when the next argument cannot be read. -/
def givenIn (before : Option Given) : List Text → List (Except Stop Given)
  | [] => before.toList.map .ok
  | a :: as =>
    match Argument.ofText a with
    | .separator =>
      match as with
      | [] => before.toList.map .ok
      | b :: _ => [.error (.unknown (String.ofList b))]
    | .word =>
      match before with
      | some ⟨s, none⟩ => givenIn (some ⟨s, some a⟩) as
      | _ => [.error (.unknown (String.ofList a))]
    | .options [] (.stopped why) => [.error why]
    | .options given ending =>
      (before.toList ++ given).map .ok ++
        match ending with
        | .complete => givenIn none as
        | .awaiting s => givenIn (some ⟨s, none⟩) as
        | .stopped why => [.error why]

/-- Adds an option to those that were given before. Only regions may be given more than once. -/
def addGiven (gs : List Given) (g : Given) : Except Stop (List Given) :=
  match g.switch with
  | .help => throw .help
  | .version => throw .version
  | s =>
    if s.takesValue && g.value.isNone then throw (.badValue s)
    else if s != .regions && gs.any fun h => h.switch == s then throw (.conflict s s)
    else if s.namesFile && g.value == some [] then throw (.badValue s)
    else pure (gs ++ [g])

namespace Arguments

/-- The values that an option is given. -/
def valuesOf (gs : List Given) (s : Switch) : List Text :=
  gs.filterMap fun g => if g.switch == s then g.value else none

/-- The value that an option is given. -/
def valueOf? (gs : List Given) (s : Switch) : Option String :=
  (valuesOf gs s).head?.map String.ofList

/-- Whether an option is given. -/
def has (gs : List Given) (s : Switch) : Bool := gs.any fun g => g.switch == s

/-- The name of the configuration: the one that is given, or else the usual one. -/
def configOf (usual : Option String) (gs : List Given) : Except Stop (Option String) :=
  match valueOf? gs .config with
  | some f => pure (some f)
  | none =>
    match usual with
    | some f => if f.isEmpty then throw (.badValue .config) else pure (some f)
    | none => pure none

/-- What some options ask for. -/
def ofGiven (usual : Option String) (gs : List Given) : Except Stop Arguments := do
  let config ← configOf usual gs
  if has gs .quiet && has gs .debug then throw (.conflict .quiet .debug)
  match config with
  | none => throw .missing
  | some config =>
    pure {
      config
      input := valueOf? gs .input
      output := valueOf? gs .outputFile
      path := valueOf? gs .path
      regions := ((valuesOf gs .regions).flatMap (splitWhere (· == ','))).map String.ofList
      quiet := has gs .quiet
      debug := has gs .debug }

/-- Reads a command line. The usual name of a configuration counts when none is given. -/
def read (usual : Option String) (args : List String) : Except Stop Arguments := do
  let gs ← (givenIn none (args.map String.toList)).foldlM (fun gs g => do addGiven gs (← g)) []
  ofGiven usual gs

/-- What is asked for in the run. -/
def options (a : Arguments) : Options :=
  ⟨a.path, if a.regions.isEmpty then none else some a.regions⟩

end Arguments

end HtmlCanon.Command
