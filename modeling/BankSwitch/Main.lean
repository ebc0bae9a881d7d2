import BankSwitch.CommandLine.Run

/-!
# The program

Reads the files that a command names, runs it, shows what it printed, and writes the file that it
wrote.
-/

namespace BankSwitch.Main

/-- how the program is used, line by line -/
def usage : List String :=
  ["usage: bank-dsl [-h] [--config CONFIG] [--target TARGET] [-v] COMMAND ...",
   "commands:",
   "  parse FILE [-v]",
   "  eval FILE ADDRESS ... [--input NAME=VALUE]",
   "  verify FILE TRACE",
   "  emit FILE [--style STYLE] [-o OUTPUT]",
   "  smt-constraints FILE [OUTPUT]",
   "  version"]

/-- the files that a command may read; those of targets are found as seen from `fs` -/
def inputs (fs : Files) (c : Command) : List String :=
  c.config.toList ++ c.target.toList.map (Settings.targetPath fs) ++ match c.task with
    | .parse file _ | .eval file _ _ | .emit file _ _ | .constraints file _ => [file]
    | .verify file trace => [file, trace]
    | .version => []

/-- the file that a command may write -/
def output? (c : Command) : Option String :=
  match c.task with
  | .emit _ _ output | .constraints _ output => output
  | _ => none

/-- a file with its text, if it can be read -/
def fetch (name : String) : IO (Option (String × String)) := do
  try
    let text ← IO.FS.readFile name
    return some (name, text)
  catch _ => return none

/-- the files that matter to a command; the directory of its output is taken to be there -/
def snapshot (c : Command) : IO Files := do
  let here := filePath [] (← IO.currentDir).toString
  let home := filePath [] (← IO.appDir).toString
  let found ← (inputs (.ofNames here home []) c).mapM fetch
  let files := Settings.install (.ofNames here home (found.filterMap id))
  match output? c with
  | none => return files
  | some name =>
    let directory := parentPath (filePath here name)
    return { files with entries := files.entries ++ [(directory ++ ["."], "")] }

/-- writes what a command changed -/
def store (c : Command) (before after : Files) : IO Unit := do
  match output? c, before.changes after with
  | some name, (_, text) :: _ => IO.FS.writeFile name text
  | _, _ => return

def perform (words : List String) : IO UInt32 := do
  let command ← match Command.ofWords words with
    | .ok (some c) => pure (some c)
    | _ => pure none
  let before ← match command with
    | some c => snapshot c
    | none => pure (.ofNames [] [] [])
  match run words before with
  | .usage status =>
    for line in usage do IO.println line
    return UInt32.ofNat status
  | .failed cause =>
    IO.eprintln cause.message
    return 1
  | .done status printed log after =>
    if let some c := command then store c before after
    for line in log do IO.eprintln line
    IO.print printed
    return UInt32.ofNat status

end BankSwitch.Main

def main (words : List String) : IO UInt32 := BankSwitch.Main.perform words
