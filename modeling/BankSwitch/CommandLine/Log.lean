import BankSwitch.Component.Basic
import BankSwitch.Settings.Load
import BankSwitch.Trace.Basic

/-!
# Log

What the program notes on its way: warnings, and details that are shown on demand.
-/

namespace BankSwitch

inductive Event where
  | settingsLoaded (path : String) (settings : Settings)
  | unknownTarget (name : String)
  | componentRead (banks : Nat) (paramA paramB : Int) (width : Nat)
  | bankSelected (address : Int) (bank : Nat)
  | caseSelected (address : Int) (index : Nat)
  | defaultSelected (address : Int)
  | violation (v : TraceViolation)
  | traceChecked (cycles ports violations : Nat)
  deriving DecidableEq

namespace Event

def isWarning : Event → Bool
  | .unknownTarget _ => true
  | .violation _ => true
  | _ => false

/-- the part of the program that speaks -/
def speaker : Event → String
  | .settingsLoaded _ _ | .unknownTarget _ => "bank_dsl.config"
  | .componentRead _ _ _ _ => "bank_dsl.parser"
  | .bankSelected _ _ | .caseSelected _ _ | .defaultSelected _ => "bank_dsl.evaluator"
  | .violation _ | .traceChecked _ _ _ => "bank_dsl.trace"

def message : Event → String
  | .settingsLoaded path s => s!"loaded config from {path}: {s.shown}"
  | .unknownTarget name => s!"No builtin config named '{name}', using defaults"
  | .componentRead n a b w => s!"parsed component with {n} banks (params {a}, {b}, width {w})"
  | .bankSelected a i => s!"address {hexText a} selected bank {i}"
  | .caseSelected a i => s!"switch case {i} selected for {hexText a}"
  | .defaultSelected a => s!"switch default selected for {hexText a}"
  | .violation v => v.text
  | .traceChecked c p n => s!"checked {c} cycles on {p} ports: {n} violations"

def line (e : Event) : String :=
  (if e.isWarning then "WARNING " else "DEBUG ") ++ e.speaker ++ ": " ++ e.message

end Event

/-- the lines that are shown: warnings, and with `verbose` everything -/
def shownLog (verbose : Bool) (events : List Event) : List String :=
  (events.filter fun e => verbose || e.isWarning).map Event.line

variable {α : Type}

/-! ## what is noted -/

def Settings.Origin.events (s : Settings) : Settings.Origin → List Event
  | .path name => [.settingsLoaded name s]
  | .unknownTarget name => [.unknownTarget name]
  | .standard => []

/-- how a body was chosen for an address -/
def Choice.events (a : Int) : Choice → List Event
  | .only => []
  | .case i => [.caseSelected a i]
  | .default => [.defaultSelected a]

def Translation.events (w : Nat) (a : Int) (inputs : Inputs) (t : Translation α) : List Event :=
  match t.choose w a inputs with
  | .ok (choice, _) => choice.events a
  | .error _ => []

namespace Component

def readEvent (c : Component α) : Event :=
  .componentRead c.banks.length c.paramA c.paramB c.width

/-- what is noted while an address is translated -/
def evalEvents (c : Component α) (a : Int) (inputs : Inputs) : List Event :=
  match c.claiming? a with
  | some (i, b) => .bankSelected a i :: b.translation.events c.width a inputs
  | none => []

/-- what is noted while a request is checked -/
def requestEvents (c : Component α) (q : Request) : List Event :=
  let chosen := match c.banks[q.port]? with
    | some b => b.translation.events c.width q.address Inputs.none
    | none => []
  match c.objection q with
  | .ok (some v) => chosen ++ [.violation v]
  | _ => chosen

/-- what is noted while a trace with `n` violations is checked -/
def verifyEvents (c : Component α) (t : Trace) (n : Nat) : List Event :=
  t.requests.flatMap c.requestEvents ++ [.traceChecked t.cycles.length t.numPorts n]

end Component

end BankSwitch
