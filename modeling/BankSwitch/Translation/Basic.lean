import BankSwitch.Bus
import BankSwitch.Guard.Basic

/-!
# Translations

How a bank turns an address into a slot: one primitive, a sequence of primitives applied from left
to right, or a switch whose first case with a true guard gives the body.  Bodies of a switch are no
switches.  As for guards, the parameter `α` holds the nodes that a host put in by mistake.
-/

namespace BankSwitch

inductive Primitive where
  | noop
  /-- the value, whatever the address -/
  | constant (value : Int)
  /-- address plus value -/
  | add (value : Int)
  /-- value minus address -/
  | subFrom (value : Int)
  /-- address minus value -/
  | sub (value : Int)
  /-- address shifted right by so many lines -/
  | shiftRight (value : Int)
  deriving DecidableEq

/-- what a case of a switch may do -/
inductive Body (α : Type) where
  | primitive (p : Primitive)
  | sequence (first : Primitive) (rest : List Primitive)
  /-- a node of the host's own, which no rule can apply -/
  | alien (node : α)
  deriving DecidableEq

structure Case (α : Type) where
  guard : Guard α
  body : Body α
  deriving DecidableEq

inductive Translation (α : Type) where
  | body (b : Body α)
  | switch (first : Case α) (rest : List (Case α)) (default : Body α)
  deriving DecidableEq

/-! ## evaluation

All arithmetic is that of the bus: every primitive wraps its outcome.  The names that a host binds
decide which case of a switch is taken and nothing else; the body always works on the address.
-/

variable {α : Type}

/-- the number of lines that a width stands for; there are no fewer than none -/
def busWidth (width : Int) : Except (EvalError α) Nat :=
  if width < 0 then .error .negativeShift else .ok width.toNat

/-- one primitive on a bus of `w` lines -/
def Primitive.apply (w : Nat) (v : Int) : Primitive → Except (EvalError α) Nat
  | .noop => .ok (wrap w v)
  | .constant k => .ok (wrap w k)
  | .add k => .ok (wrap w (v + k))
  | .subFrom k => .ok (wrap w (k - v))
  | .sub k => .ok (wrap w (v - k))
  | .shiftRight k => if k < 0 then .error .negativeShift else .ok (wrap w v >>> k.toNat)

/-- primitives one after the other, each on the outcome of the one before -/
def applyAll (w : Nat) (v : Int) (first : Primitive) (rest : List Primitive) :
    Except (EvalError α) Nat := do
  let x ← first.apply w v
  rest.foldlM (fun (x : Nat) p => p.apply w x) x

def Body.eval (w : Nat) (v : Int) : Body α → Except (EvalError α) Nat
  | .primitive p => p.apply w v
  | .sequence first rest => applyAll w v first rest
  | .alien node => .error (.notAPrimitive node)

/-- what guards see: the address under its name, unless the host binds that name, and the host's
values, all of them as numbers on the bus -/
def guardInputs (w : Nat) (v : Int) (inputs : Inputs) : Inputs := fun name =>
  match inputs name with
  | some x => some (wrap w x)
  | none => if name = addressName then some (wrap w v) else none

/-- how a body came to be chosen -/
inductive Choice where
  /-- there was no switch -/
  | only
  | case (index : Nat)
  | default
  deriving DecidableEq

/-- the first case with a true guard, cases being numbered from `i` -/
def firstTrue (inputs : Inputs) (i : Nat) :
    List (Case α) → Except (EvalError α) (Option (Nat × Body α))
  | [] => .ok none
  | c :: cs => do
    let b ← c.guard.eval inputs
    if b then return some (i, c.body) else firstTrue inputs (i + 1) cs

namespace Translation

/-- the body that an address is sent through -/
def choose (w : Nat) (v : Int) (inputs : Inputs) :
    Translation α → Except (EvalError α) (Choice × Body α)
  | .body b => .ok (.only, b)
  | .switch first rest default => do
    match ← firstTrue (guardInputs w v inputs) 0 (first :: rest) with
    | some (i, b) => return (.case i, b)
    | none => return (.default, default)

/-- the slot of an address -/
def eval (w : Nat) (v : Int) (inputs : Inputs) (t : Translation α) : Except (EvalError α) Nat := do
  let (_, b) ← t.choose w v inputs
  b.eval w v

end Translation

end BankSwitch
