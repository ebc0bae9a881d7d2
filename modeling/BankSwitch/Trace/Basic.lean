import BankSwitch.Component.Basic
import BankSwitch.Document.Check
import BankSwitch.Document.Json
import BankSwitch.Files
import BankSwitch.Text.Basic

/-!
# Access traces

Which address every port asked for in every cycle; an idle port asks for nothing.  A trace file is a
JSON document, a mapping whose only name `trace` holds one list per cycle, of naturals and nulls.
-/

namespace BankSwitch

structure Trace where
  cycles : List (List (Option Nat))
  deriving DecidableEq

/-- one address that a port asks for -/
structure Request where
  cycle : Nat
  port : Nat
  address : Nat
  deriving DecidableEq

namespace Trace

/-- what a document must be like to hold a trace -/
def check : Document.Check :=
  let entry := Document.Check.anyOf [.kind .integer [.minimum 0], .kind .null []]
  .kind .object [.required "trace",
    .property "trace" (.kind .array [.items (.kind .array [.items entry])]), .closed ["trace"]]

/-- the address in an entry; one that is written with a point, as `4.0`, passes for an integer and is
taken for that one here, which a host would keep as it is written -/
def addressIn (d : Document) : Option Nat :=
  match d with
  | .bool _ => none
  | d => d.integral?.map Int.toNat

/-- the trace in a document, or what is wrong with the document -/
def ofDocument (d : Document) : Except String Trace :=
  match Document.worst? (check d), d with
  | some v, _ => .error v.message
  | none, .mapping es =>
    match Document.get? es "trace" with
    | some (.list cycles) => .ok ⟨cycles.map fun cycle =>
        match cycle with
        | .list entries => entries.map addressIn
        | _ => []⟩
    | _ => .ok ⟨[]⟩
  | none, _ => .ok ⟨[]⟩

/-- what is asked for, cycle after cycle and within a cycle port after port -/
def requests (t : Trace) : List Request :=
  t.cycles.zipIdx.flatMap fun (cycle, i) => cycle.zipIdx.filterMap fun (a, p) =>
    a.map fun a => ⟨i, p, a⟩

/-! ## summary numbers -/

def addresses (t : Trace) : List Nat := t.cycles.flatMap fun cycle => cycle.filterMap id

/-- how many ports the trace speaks of -/
def numPorts (t : Trace) : Nat := (t.cycles.map List.length).foldl max 0

/-- one past the greatest address -/
def size (t : Trace) : Nat := (t.addresses.map (· + 1)).foldl max 0

/-- how many binary digits an integer has, its sign apart; zero has none -/
def bitLength (n : Int) : Nat := if n = 0 then 0 else n.natAbs.log2 + 1

/-- how many lines address everything below `size`, never fewer than one; without an address the
greatest one counts as minus one -/
def bitsRequired (t : Trace) : Nat := max 1 (bitLength ((t.size : Int) - 1))

end Trace

/-! ## traces in files -/

/-- why a trace file gives no trace -/
inductive TraceError where
  | file (fault : FileError)
  | notJson (path : String)
  /-- the document in the file does not hold a trace -/
  | invalid (path reason : String)
  deriving DecidableEq

def TraceError.message : TraceError → String
  | .file fault => fault.message
  | .notJson path => s!"Invalid trace file {path}: not a JSON document"
  | .invalid path reason => s!"Invalid trace file {path}: {reason}"

/-- the trace in a file -/
def Trace.ofFile (fs : Files) (path : String) : Except TraceError Trace := do
  let text ← (fs.read path).mapError .file
  match Json.read text with
  | none => throw (.notJson path)
  | some d => (ofDocument d).mapError (.invalid path)

/-! ## checking components

Port `p` is served by bank `p`.  A request is met when there is such a bank and it can be read at
the address; every other request is a violation.
-/

variable {α : Type}

/-- why a request is not met -/
inductive Reason where
  /-- the component has only so many banks -/
  | noBank (banks : Nat)
  | unreadable (bank : Nat)
  deriving DecidableEq

def Reason.text : Reason → String
  | .noBank n => s!"has no bank (component has {n} banks)"
  | .unreadable i => s!"is not readable from bank {i}"

/-- a request that is not met -/
structure TraceViolation where
  request : Request
  reason : Reason
  deriving DecidableEq

def TraceViolation.text (v : TraceViolation) : String :=
  s!"cycle {v.request.cycle}, port {v.request.port}: address {hexText v.request.address} " ++
    v.reason.text

namespace Component

/-- what speaks against a request -/
def objection (c : Component α) (q : Request) : Except (EvalError α) (Option TraceViolation) :=
  match c.banks[q.port]? with
  | none => .ok (some ⟨q, .noBank c.banks.length⟩)
  | some b => do
    let readable ← b.canRead c.width q.address
    return if readable then none else some ⟨q, .unreadable q.port⟩

/-- the requests of a trace that the component does not meet, in the order of the trace -/
def verify (c : Component α) (t : Trace) : Except (EvalError α) (List TraceViolation) := do
  let found ← t.requests.mapM c.objection
  return found.filterMap id

end Component

end BankSwitch
