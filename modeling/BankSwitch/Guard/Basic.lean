/-!
# Guards

Conditions on named numbers.  A chain joins two or more guards by `&&` and `||` and is read strictly
from left to right, neither connective binding closer.

A host may put a node of its own where a guard belongs.  Such nodes form the type parameter `α`; a
guard read from a description is a `Guard Empty`, which has none.
-/

namespace BankSwitch

/-- the name under which a guard sees the address being translated -/
def addressName : String := "INPUT"

inductive Comparator where
  | atMost
  | atLeast
  | equal
  | unequal
  | below
  | above
  deriving DecidableEq

namespace Comparator

def spelling : Comparator → String
  | .atMost => "<="
  | .atLeast => ">="
  | .equal => "=="
  | .unequal => "!="
  | .below => "<"
  | .above => ">"

def holds : Comparator → Int → Int → Bool
  | .atMost, a, b => decide (a ≤ b)
  | .atLeast, a, b => decide (b ≤ a)
  | .equal, a, b => decide (a = b)
  | .unequal, a, b => decide (a ≠ b)
  | .below, a, b => decide (a < b)
  | .above, a, b => decide (b < a)

end Comparator

/-- the side of a comparison on which the name stands -/
inductive Side where
  | left
  | right
  deriving DecidableEq

/-- a named number against a literal -/
structure Comparison where
  side : Side
  comparator : Comparator
  literal : Int
  operand : String
  deriving DecidableEq

inductive Connective where
  | and
  | or
  deriving DecidableEq

def Connective.spelling : Connective → String
  | .and => "&&"
  | .or => "||"

mutual
inductive Guard (α : Type) where
  | compare (c : Comparison)
  | negation (operand : Guard α)
  | chain (operands : Chain α)
  /-- a node of the host's own, which no rule can judge -/
  | alien (node : α)
  deriving DecidableEq

/-- two or more guards, joined from left to right -/
inductive Chain (α : Type) where
  | pair (left : Guard α) (connective : Connective) (right : Guard α)
  | snoc (init : Chain α) (connective : Connective) (last : Guard α)
  deriving DecidableEq
end

namespace Chain

variable {α : Type}

/-- a chain that goes on with more guards -/
def extend (c : Chain α) (more : List (Connective × Guard α)) : Chain α :=
  more.foldl (fun c p => .snoc c p.1 p.2) c

/-- the guards of a chain, in order -/
def operands : Chain α → List (Guard α)
  | .pair a _ b => [a, b]
  | .snoc c _ b => c.operands ++ [b]

/-- the connectives of a chain, in order -/
def connectives : Chain α → List Connective
  | .pair _ k _ => [k]
  | .snoc c k _ => c.connectives ++ [k]

theorem extend_nil (c : Chain α) : c.extend [] = c := rfl

theorem extend_cons (c : Chain α) (k : Connective) (g : Guard α)
    (more : List (Connective × Guard α)) :
    c.extend ((k, g) :: more) = (Chain.snoc c k g).extend more := rfl

end Chain

namespace Guard

variable {α : Type}

/-- a guard joined with more guards; alone it stays as it is -/
def join (first : Guard α) : List (Connective × Guard α) → Guard α
  | [] => first
  | (k, g) :: more => .chain ((Chain.pair first k g).extend more)

end Guard

/-! ## evaluation

A guard is judged by the values of the names that it compares.  The right side of a connective is
looked at only when the left side leaves the outcome open, so a name that is not bound matters only
when it is reached.
-/

/-- why an address has no translation -/
inductive EvalError (α : Type) where
  | noBankMatch (address : Int)
  | missingInput (name : String)
  | negativeShift
  /-- a host's node where a condition belongs -/
  | notAGuard (node : α)
  /-- a host's node where a primitive belongs -/
  | notAPrimitive (node : α)
  deriving DecidableEq

/-- the values that names are bound to -/
abbrev Inputs := String → Option Int

namespace Inputs

/-- no name is bound -/
def none : Inputs := fun _ => Option.none

/-- the bindings of a list; of two for one name the later holds -/
def ofList (bs : List (String × Int)) : Inputs := fun name =>
  (bs.reverse.find? fun b => b.1 = name).map Prod.snd

end Inputs

/-- the left side settles the outcome -/
def Connective.settles : Connective → Bool → Bool
  | .and, left => !left
  | .or, left => left

variable {α : Type}

def Comparison.eval (inputs : Inputs) (c : Comparison) : Except (EvalError α) Bool :=
  match inputs c.operand with
  | none => .error (.missingInput c.operand)
  | some v =>
    match c.side with
    | .left => .ok (c.comparator.holds v c.literal)
    | .right => .ok (c.comparator.holds c.literal v)

mutual
def Guard.eval (inputs : Inputs) : Guard α → Except (EvalError α) Bool
  | .compare c => c.eval inputs
  | .negation g => do
    let b ← g.eval inputs
    return !b
  | .chain c => c.eval inputs
  | .alien node => .error (.notAGuard node)

def Chain.eval (inputs : Inputs) : Chain α → Except (EvalError α) Bool
  | .pair a k b => do
    let left ← a.eval inputs
    if k.settles left then return left else b.eval inputs
  | .snoc c k b => do
    let left ← c.eval inputs
    if k.settles left then return left else b.eval inputs
end

end BankSwitch
