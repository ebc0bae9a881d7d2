import BankSwitch.Layout.Partition
import BankSwitch.Translation.Basic

/-!
# Banks and components

A bank claims the addresses of its layout and translates them to slots.  A component is one or more
banks on a bus of some width.  An address goes through the first bank whose layout holds it.  A bank
can be read at an address if the slot of the address holds that address again.
-/

namespace BankSwitch

variable {α : Type}

structure Bank (α : Type) where
  layout : Partition
  translation : Translation α
  deriving DecidableEq

structure Component (α : Type) where
  /-- the two numbers in the head of a description, free for the host to use -/
  paramA : Int
  paramB : Int
  banks : List (Bank α)
  width : Nat
  nonempty : banks ≠ []
  width_pos : 0 < width
  deriving DecidableEq

namespace Component

/-- a component of the given parts -/
def ofBanks (paramA paramB : Int) (banks : List (Bank α)) (width : Int) :
    Except BuildError (Component α) :=
  if h : banks = [] then .error .noBanks
  else if hw : width ≤ 0 then .error (.widthNotPositive width)
  else .ok ⟨paramA, paramB, banks, width.toNat, h, toNat_pos hw⟩

/-- number and bank of the first bank that claims an address -/
def claiming? (c : Component α) (a : Int) : Option (Nat × Bank α) :=
  (c.banks.zipIdx.find? fun b => b.1.layout.contains a).map fun b => (b.2, b.1)

end Component

/-! ## evaluation -/

namespace Component

/-- number and bank of the first bank that claims an address -/
def select (c : Component α) (a : Int) : Except (EvalError α) (Nat × Bank α) :=
  match c.claiming? a with
  | some b => .ok b
  | none => .error (.noBankMatch a)

/-- the slot of an address in the bank that claims it -/
def eval (c : Component α) (a : Int) (inputs : Inputs) : Except (EvalError α) Nat := do
  let (_, b) ← c.select a
  b.translation.eval c.width a inputs

end Component

/-- the bank finds the address again in the slot that it translates it to -/
def Bank.canRead (w : Nat) (b : Bank α) (a : Int) : Except (EvalError α) Bool := do
  let slot ← b.translation.eval w a Inputs.none
  return (b.layout.get? slot).any fun x => decide ((x : Int) = a)

end BankSwitch
