import HtmlCanon.Command.Job

/-!
# Outcomes

How a command line ends: what the user is told about it and the exit code.
-/

namespace HtmlCanon.Command

/-- How a command line ends. -/
inductive Outcome where
  /-- The command line does not start a job. -/
  | stopped (why : Stop)
  | failed (fault : JobFault)
  | done
  deriving Repr

/-- The name of the command and its version. -/
def versionLine : String := "domscrub 0.1.0"

/-- A short guide to the options. -/
def helpText : String :=
  String.intercalate "\n"
    ["Normalize HTML snapshots into a canonical, diff-friendly form",
      "",
      "  -c, --config <FILE>       Path to the sanitization configuration file (YAML)",
      "  -i, --input <FILE>        Read HTML from this file instead of stdin",
      "  -o, --output-file <FILE>  Write the result to this file instead of stdout",
      "  -p, --path <PATH>         Document path matched against rule \x60path\x60 patterns",
      "  -r, --regions <NAMES>     Region names to emit, in order (comma-separated)",
      "  -q, --quiet               Suppress all log output",
      "  -d, --debug               Enable debug logging",
      "  -h, --help                Print help",
      "  -V, --version             Print version"]

/-- The message about a command line that does not start a job. -/
def Stop.message : Stop → String
  | help => helpText
  | version => versionLine
  | missing => "error: --config <FILE> is required"
  | badValue s => "error: a value is required for --" ++ s.word
  | surplusValue s => "error: --" ++ s.word ++ " takes no value"
  | conflict s t =>
    if s = t then "error: --" ++ s.word ++ " cannot be used multiple times"
    else "error: --" ++ s.word ++ " cannot be used with --" ++ t.word
  | unknown a => "error: unexpected argument '" ++ a ++ "'"

/-- Whether a command line that does not start a job is answered by some information. -/
def Stop.informs : Stop → Bool
  | help | version => true
  | _ => false

/-- A notice as it is shown; further lines of it are set in. -/
def noticeText (n : Notice) : Text :=
  "[WARN ] ".toList ++ n.message.toList.flatMap fun c =>
    if c == '\n' then "\n    ".toList else [c]

/-- A fault in a job as it is shown, with its cause. -/
def JobFault.report (f : JobFault) : String :=
  "Error: " ++ f.message ++
    match f.cause? with
    | some c => "\n\nCaused by:\n    " ++ c.message
    | none => ""

namespace Outcome

/-- The exit code of an outcome. -/
def exitCode : Outcome → UInt32
  | stopped why => if why.informs then 0 else 2
  | failed _ => 1
  | done => 0

/-- What an outcome adds to standard output. -/
def output : Outcome → Option String
  | stopped why => if why.informs then some why.message else none
  | _ => none

/-- What an outcome adds to the error stream. -/
def complaint : Outcome → Option String
  | stopped why => if why.informs then none else some why.message
  | failed f => some f.report
  | done => none

end Outcome

variable {m : Type → Type} [Monad m]

/-- Does what a command line asks for. The usual name of a configuration counts when the command
line gives none. -/
def execute (a : Access m) (usual : Option String) (args : List String) : m Outcome := do
  match Arguments.read usual args with
  | .error why => pure (.stopped why)
  | .ok arguments =>
    match ← (arguments.job.run a).run with
    | .ok _ => pure .done
    | .error f => pure (.failed f)

end HtmlCanon.Command
