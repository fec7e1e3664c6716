import HtmlCanon.Command.Arguments
import HtmlCanon.Pipeline

/-!
# Jobs

A job reads a configuration and a page, brings the page into canonical form and writes it. Nothing
is written unless all of this succeeds. How files are read and written is left open, so that a job
can be run on real files as well as on files in memory.
-/

namespace HtmlCanon.Command

/-- What a job is to read and to write. -/
structure Job where
  config : String
  /-- The file with the page; without one, the page is read from standard input. -/
  input : Option String
  /-- The file to write; without one, standard output is written. -/
  output : Option String
  options : Options
  /-- Whether notices are kept back. -/
  quiet : Bool
  deriving Repr

/-- Why a job fails. -/
inductive JobFault where
  | unreadableConfig (file : String)
  | malformedConfig (file : String) (cause : Fault)
  | faultyRule (file : String) (cause : Fault)
  | unreadableInput (file : Option String)
  | failed (cause : Fault)
  | unwritableOutput (file : String)
  deriving Repr

namespace JobFault

/-- The message of a fault in a job, without its cause. -/
def message : JobFault → String
  | unreadableConfig f => "Failed to read config file " ++ f
  | malformedConfig f _ => "Failed to parse config file " ++ f
  | faultyRule f _ => "Invalid rule in config file " ++ f
  | unreadableInput (some f) => "Failed to read input file " ++ f
  | unreadableInput none => "Failed to read input from stdin"
  | failed _ => "Sanitization failed"
  | unwritableOutput f => "Failed to create output file " ++ f

/-- The fault of the configuration that is behind a fault in a job. -/
def cause? : JobFault → Option Fault
  | malformedConfig _ c => some c
  | faultyRule _ c => some c
  | failed c => some c
  | _ => none

end JobFault

/-- How a job reaches files and streams. -/
structure Access (m : Type → Type) where
  /-- The bytes of a file, if it can be read. -/
  readFile : String → m (Option (List UInt8))
  /-- The bytes of standard input, if it can be read. -/
  readInput : m (Option (List UInt8))
  /-- Writes a file anew and tells whether that was possible. -/
  writeFile : String → Text → m Bool
  /-- Writes to standard output. -/
  writeOutput : Text → m Unit
  /-- Tells the user something. -/
  tell : Notice → m Unit

namespace Job

variable {m : Type → Type} [Monad m]

/-- A configuration that is given as bytes, which have to be UTF-8. -/
def configOf (file : String) (bytes : Option (List UInt8)) : Except JobFault Config :=
  match bytes with
  | none => throw (.unreadableConfig file)
  | some bs =>
    if Utf8.isValid bs then
      match Config.ofText (Utf8.decode bs) with
      | .ok c => pure c
      | .error f => throw (.malformedConfig file f)
    else throw (.unreadableConfig file)

/-- Checks a configuration. -/
def check (file : String) (c : Config) : Except JobFault Unit :=
  match c.check with
  | .ok _ => pure ()
  | .error f => throw (.faultyRule file f)

/-- What is written for a page: its canonical form and a line feed. -/
def produce (c : Config) (o : Options) (page : Text) : Except JobFault Text :=
  match c.canonicalize o page with
  | .ok t => pure (t ++ ['\n'])
  | .error f => throw (.failed f)

/-- Tells everything in a list, unless notices are kept back. -/
def tellAll (a : Access m) (j : Job) (ns : List Notice) : ExceptT JobFault m Unit :=
  if j.quiet then pure () else ns.forM fun n => a.tell n

/-- Reads the configuration of a job and checks it. -/
def load (a : Access m) (j : Job) : ExceptT JobFault m Config := do
  let c ← configOf j.config (← a.readFile j.config)
  tellAll a j c.keyNotices
  check j.config c
  pure c

/-- Reads the page of a job. -/
def readPage (a : Access m) (j : Job) : ExceptT JobFault m Text := do
  let bytes ← match j.input with
    | some f => a.readFile f
    | none => a.readInput
  match bytes with
  | some bs => pure (repairBytes bs)
  | none => throw (.unreadableInput j.input)

/-- Writes what a job makes. -/
def write (a : Access m) (j : Job) (t : Text) : ExceptT JobFault m Unit := do
  match j.output with
  | some f => if !(← a.writeFile f t) then throw (.unwritableOutput f)
  | none => a.writeOutput t

/-- Does a job. -/
def run (a : Access m) (j : Job) : ExceptT JobFault m Unit := do
  let c ← load a j
  let page ← readPage a j
  tellAll a j (c.runNotices j.options page)
  write a j (← produce c j.options page)

end Job

/-- The job that a command line asks for. -/
def Arguments.job (a : Arguments) : Job :=
  ⟨a.config, a.input, a.output, a.options, a.quiet⟩

end HtmlCanon.Command
