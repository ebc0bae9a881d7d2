import BankSwitch.Description.Fields
import BankSwitch.Translation.Basic

/-!
# Assembling parts

A host may put components together from loose parts instead of reading a description.  A guard that
stands where a translation belongs, or a translation where a guard belongs, is kept as an alien
node: the mistake shows only when something tries to use it.  What a whole cannot do without is
checked at once.
-/

namespace BankSwitch

/-- a guard or a translation, as a host hands it over -/
inductive Part (α : Type) where
  | guard (g : Guard α)
  | translation (t : Translation α)

/-- alien nodes that can stand for any part -/
class Stray (α : Type) extends Alien α where
  keep : Part α → α

namespace Part

variable {α : Type}

/-- the name of a part's kind -/
def kind [Alien α] : Part α → String
  | .guard (.compare _) => "Comparison"
  | .guard (.negation _) => "Not"
  | .guard (.chain _) => "Combine"
  | .guard (.alien node) => Alien.kind node
  | .translation (.body (.primitive .noop)) => "Noop"
  | .translation (.body (.primitive (.constant _))) => "Constant"
  | .translation (.body (.primitive (.add _))) => "Add"
  | .translation (.body (.primitive (.subFrom _))) => "SubPV"
  | .translation (.body (.primitive (.sub _))) => "SubVP"
  | .translation (.body (.primitive (.shiftRight _))) => "RShift"
  | .translation (.body (.sequence _ _)) => "Sequence"
  | .translation (.body (.alien node)) => Alien.kind node
  | .translation (.switch _ _ _) => "Switch"

def text [Alien α] : Part α → String
  | .guard g => g.text
  | .translation t => t.text

def shown [Alien α] : Part α → String
  | .guard g => g.shown
  | .translation t => t.shown

variable [Stray α]

/-- the part as a guard -/
def toGuard : Part α → Guard α
  | .guard g => g
  | p => .alien (Stray.keep p)

/-- the part as a translation -/
def toTranslation : Part α → Translation α
  | .translation t => t
  | p => .body (.alien (Stray.keep p))

/-- the part as the body of a case, if it is no switch -/
def toBody? : Part α → Option (Body α)
  | .translation (.body b) => some b
  | .translation (.switch _ _ _) => none
  | p => some (.alien (Stray.keep p))

/-- the part as a primitive -/
def toPrimitive (p : Part α) : Except BuildError Primitive :=
  match p with
  | .translation (.body (.primitive q)) => .ok q
  | p => .error (.notAPrimitive p.kind)

/-- the part applied as one primitive on a bus of `w` lines -/
def applyPrimitive (w : Nat) (v : Int) (p : Part α) : Except (EvalError α) Nat :=
  match p with
  | .translation (.body (.primitive q)) => q.apply w v
  | p => .error (.notAPrimitive (Stray.keep p))

/-- a chain of the given operands and connectives -/
def chain (operands : List (Part α)) (connectives : List Connective) :
    Except BuildError (Part α) :=
  match operands with
  | first :: second :: more =>
    if connectives.length + 1 ≠ operands.length then
      .error (.operatorCount operands.length connectives.length)
    else .ok (.guard (first.toGuard.join
      (connectives.zip ((second :: more).map toGuard))))
  | _ => .error .fewOperands

/-- a sequence of the given steps -/
def sequence (steps : List (Part α)) : Except BuildError (Part α) := do
  match ← steps.mapM toPrimitive with
  | [] => .error .emptySequence
  | first :: rest => .ok (.translation (.body (.sequence first rest)))

/-- a switch of the given cases -/
def switch (cases : List (Part α × Part α)) (default : Part α) : Except BuildError (Part α) := do
  if cases.isEmpty then .error .noCases
  let made := cases.mapM fun (g, b) => b.toBody?.map fun b => (⟨g.toGuard, b⟩ : Case α)
  match made, default.toBody? with
  | some (first :: rest), some d => .ok (.translation (.switch first rest d))
  | _, _ => .error .nestedSwitch

end Part

end BankSwitch
