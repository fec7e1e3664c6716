import HtmlCanon.Command.Outcome

/-!
# The command

Does what the command line asks for on real files.
-/

namespace HtmlCanon.Command

/-- The environment variable that names a configuration when the command line does not. -/
def configVariable : String := "DOMSCRUB_CONFIG"

/-- The result of an action, unless it fails. -/
def orNone {α : Type} (act : IO α) : IO (Option α) := do
  try pure (some (← act)) catch _ => pure none

/-- How files and streams of the system are reached. -/
def systemAccess : Access IO where
  readFile f := orNone do pure (← IO.FS.readBinFile f).toList
  readInput := orNone do pure (← (← IO.getStdin).readBinToEnd).toList
  writeFile f t := do pure (← orNone (IO.FS.writeFile f (String.ofList t))).isSome
  writeOutput t := IO.print (String.ofList t)
  tell n := IO.eprintln (String.ofList (noticeText n))

end HtmlCanon.Command

open HtmlCanon.Command in
/-- Runs the command. -/
def main (args : List String) : IO UInt32 := do
  let outcome ← execute systemAccess (← IO.getEnv configVariable) args
  if let some t := outcome.output then IO.println t
  if let some t := outcome.complaint then IO.eprintln t
  pure outcome.exitCode
