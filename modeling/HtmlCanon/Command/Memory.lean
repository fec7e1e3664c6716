import HtmlCanon.Command.Job

/-!
# Files in memory

Files and streams as a value, on which a job can be run.
-/

namespace HtmlCanon.Command

/-- Files and streams. -/
structure Memory where
  /-- The contents of each file that exists. -/
  files : String → Option (List UInt8)
  input : List UInt8
  output : Text
  /-- What the user was told, in order. -/
  notices : List Notice

namespace Memory

/-- The bytes of a text. -/
def encode (t : Text) : List UInt8 := t.flatMap String.utf8EncodeChar

/-- Gives a file new contents. -/
def put (s : Memory) (file : String) (t : Text) : Memory :=
  { s with files := fun f => if f == file then some (encode t) else s.files f }

/-- How files and streams in memory are reached. -/
def access : Access (StateM Memory) where
  readFile f := do pure ((← get).files f)
  readInput := do pure (some (← get).input)
  writeFile f t := do
    modify fun s => s.put f t
    pure true
  writeOutput t := modify fun s => { s with output := s.output ++ t }
  tell n := modify fun s => { s with notices := s.notices ++ [n] }

/-- Does a job on files in memory. -/
def run (j : Job) (s : Memory) : Except JobFault Unit × Memory := (j.run access).run.run s

end Memory

end HtmlCanon.Command
