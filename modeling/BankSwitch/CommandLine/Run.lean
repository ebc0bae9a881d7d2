import BankSwitch.CommandLine.Command
import BankSwitch.CommandLine.Failure
import BankSwitch.CommandLine.Log
import BankSwitch.Smt.Script

/-!
# Running commands

A command reads files, prints, notes events, and may write one file as its last act.  It ends with a
status, or it fails; `run` puts an expected failure to the user and ends with status 1.
-/

namespace BankSwitch

/-- what a command has done so far -/
structure Session where
  files : Files
  /-- what was printed -/
  printed : String
  events : List Event

abbrev Act := ExceptT Failure (StateM Session)

namespace Act

def say (line : String) : Act Unit :=
  modify fun s => { s with printed := s.printed ++ line ++ "\n" }

/-- prints text that ends its lines itself -/
def put (text : String) : Act Unit := modify fun s => { s with printed := s.printed ++ text }

def note (events : List Event) : Act Unit := modify fun s => { s with events := s.events ++ events }

/-- an outcome that was computed, its error being a failure -/
def take {ε β : Type} (cause : ε → Failure) (r : Except ε β) : Act β :=
  match r with
  | .ok x => pure x
  | .error e => throw (cause e)

def readFile (name : String) : Act String := do
  take .file ((← get).files.read name)

def writeFile (name text : String) : Act Unit := do
  let files ← take .file ((← get).files.write name text)
  modify fun s => { s with files := files }

/-! ## what commands share -/

def loadSettings (c : Command) : Act Settings := do
  let (s, origin) ← take .settings (Settings.load (← get).files c.config c.target)
  note (origin.events s)
  return s

/-- the component in a text -/
def readComponent (s : Settings) (text : String) : Act (Component Empty) := do
  let c ← take .read (Component.ofText s text)
  note [c.readEvent]
  return c

/-- settings, and the component in a file -/
def load (c : Command) (file : String) : Act (Settings × Component Empty) := do
  let s ← loadSettings c
  let text ← readFile file
  let component ← readComponent s text
  return (s, component)

/-! ## commands -/

/-- a failure that is put to the user by the command itself ends it with status 1 -/
def reporting (isOwn : Failure → Bool) (line : Failure → String) (act : Act Nat) : Act Nat :=
  tryCatch act fun e => if isOwn e then do say (line e); return 1 else throw e

def isReadFault : Failure → Bool
  | .read fault => Failure.isTextFault fault
  | _ => false

def parse (c : Command) (file : String) (details : Bool) : Act Nat :=
  reporting isReadFault (fun e => "✗ Parse error: " ++ e.message) do
    let (_, component) ← load c file
    say s!"✓ Parsed {file} successfully!"
    say s!"Found {component.banks.length} banks"
    if details then component.describe.forM say
    else say "\nUse -v for detailed output"
    return 0

/-- translates one address; the outcome says whether a slot was found -/
def evalAddress (limit : Option Nat) (component : Component Empty) (inputs : Inputs)
    (text : String) : Act Bool := do
  let a ← take .number (IntegerText.readNumeral limit text)
  note (component.evalEvents a inputs)
  match component.eval a inputs with
  | .ok slot =>
    say s!"{hexText a} -> {hexText slot}"
    return true
  | .error e =>
    match e with
    | .noBankMatch _ | .missingInput _ =>
      say s!"{hexText a} -> error: {e.message}"
      return false
    | e => throw (.eval e)

def eval (c : Command) (file : String) (addresses bindings : List String) : Act Nat := do
  let (settings, component) ← load c file
  let bound ← take .binding (Binding.readAll settings.digits bindings)
  let found ← addresses.mapM (evalAddress settings.digits component (.ofList bound))
  return if found.all id then 0 else 1

def verify (c : Command) (file traceFile : String) : Act Nat := do
  let (_, component) ← load c file
  let trace ← take .trace (Trace.ofFile (← get).files traceFile)
  let violations ← take .eval (component.verify trace)
  note (component.verifyEvents trace violations.length)
  if violations.isEmpty then
    say (s!"✓ {file} satisfies {traceFile} " ++
      s!"({trace.cycles.length} cycles, {trace.numPorts} ports)")
    return 0
  else
    say s!"✗ {violations.length} of the trace's requests cannot be served:"
    violations.forM fun v => say ("  " ++ v.text)
    return 1

def emit (c : Command) (file : String) (style : Option Style) (output : Option String) :
    Act Nat := do
  let (settings, component) ← load c file
  let text ← take .print (component.print (style.getD settings.style) settings)
  match output with
  | some name =>
    writeFile name text
    say s!"✓ Saved to: {name}"
  | none => put text
  return 0

/-- the files at fault are put to the user here, whatever their fault -/
def isLoadFault (e : Failure) : Bool := e.isExpected || e.file?.isSome

/-- the component in a file, or nothing when the failure was put to the user -/
def loadReporting (c : Command) (file : String) : Act (Option (Component Empty)) :=
  tryCatch (do
    let (_, component) ← load c file
    return some component) fun e =>
      if isLoadFault e then do
        say ("ERROR: " ++ e.message)
        return none
      else throw e

def constraints (c : Command) (file : String) (output : Option String) : Act Nat := do
  let file := tidyPath file
  if !(← get).files.holds file then
    say s!"ERROR: Description file not found: {file}"
    return 1
  else
    match ← loadReporting c file with
    | none => return 1
    | some component =>
      let text ← take .eval (component.smt (lastPart file))
      match output with
      | some name =>
        let name := tidyPath name
        writeFile name text
        say s!"✓ Saved to: {name}"
      | none => say text
      return 0

/-- the version of the program -/
def versionName : String := "0.1.0"

def perform (c : Command) : Act Nat :=
  match c.task with
  | .parse file details => parse c file details
  | .eval file addresses bindings => eval c file addresses bindings
  | .verify file trace => verify c file trace
  | .emit file style output => emit c file style output
  | .constraints file output => constraints c file output
  | .version => do
    say s!"bank-dsl version {versionName}"
    return 0

/-- a command whose expected failures are put to the user -/
def guarded (c : Command) : Act Nat := reporting Failure.isExpected Failure.report (perform c)

end Act

/-- how the program ends -/
inductive Ending where
  /-- the words gave no command: help is shown, or how the program is used -/
  | usage (status : Nat)
  /-- a command ended with a status -/
  | done (status : Nat) (printed : String) (log : List String) (files : Files)
  /-- a command failed as none expects to -/
  | failed (cause : Failure)

/-- runs the program on its words and the files it finds -/
def run (words : List String) (files : Files) : Ending :=
  match Command.ofWords words with
  | .error e => .usage e.status
  | .ok none => .usage 0
  | .ok (some c) =>
    match (Act.guarded c).run.run ⟨files, "", []⟩ with
    | (.ok status, s) => .done status s.printed (shownLog c.verbose s.events) s.files
    | (.error e, _) => .failed e

end BankSwitch
