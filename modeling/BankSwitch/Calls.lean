import BankSwitch.Component.Reader

/-!
# Reading by calls

The readers of the grammar can be called one after the other on the tokens of a text, each for the
part that is expected next.  A call goes on where the one before it stopped; the first that fails
ends the calls.
-/

namespace BankSwitch

variable {α : Type}

/-- what may be asked for -/
inductive Call where
  | component
  | bank
  | partition
  | range
  /-- a range in parentheses -/
  | rangeTerm
  /-- a range between brackets -/
  | rangeBracket
  | comparison
  | comparator
  | guard
  | guardTerm
  | translation
  | body
  | sequence
  | primitive
  /-- a primitive in parentheses -/
  | primitiveTerm
  | switch
  | number
  | token (kind : Token.Kind)
  deriving DecidableEq

/-- what a call gives -/
inductive Answer (α : Type) where
  | component (c : Component α)
  | bank (b : Bank α)
  | partition (p : Partition)
  | range (r : Range)
  | comparison (c : Comparison)
  | comparator (c : Comparator)
  | guard (g : Guard α)
  | translation (t : Translation α)
  | body (b : Body α)
  | primitive (p : Primitive)
  | number (n : Nat)
  | token (t : Token)

namespace Call

/-- reads what is asked for off the front of the tokens -/
def read (x : Source) (s : List Token) : Call → Except ReadError (Reading (Answer α) s)
  | .component => (Component.read x s).map (.map .component)
  | .bank => (Bank.read x s).map (.map .bank)
  | .partition => (Partition.read x s).map (.map .partition)
  | .range => (Range.read x s).map (.map .range)
  | .rangeTerm => (Range.readTerm x s).map (.map .range)
  | .rangeBracket => (Range.readBracket x s).map (.map .range)
  | .comparison => (Comparison.read x s).map (.map .comparison)
  | .comparator => (Comparator.read x s).map (.map .comparator)
  | .guard => (Guard.read x s).map (.map .guard)
  | .guardTerm => (Guard.readTerm x s).map (.map .guard)
  | .translation => (Translation.read x s).map (.map .translation)
  | .body => (Body.read x s).map (.map .body)
  | .sequence => (Body.readSequence x s).map (.map .body)
  | .primitive => (Primitive.read x s).map (.map .primitive)
  | .primitiveTerm => (Primitive.readTerm x s).map (.map .primitive)
  | .switch => (Translation.readSwitch x s).map (.map .translation)
  | .number => (x.number s).map (.map .number)
  | .token k => (x.expect k s).map (.map .token)

/-- the answer to a call behind the first `pos` tokens, and how many tokens lie behind it then -/
def run (x : Source) (ts : List Token) (pos : Nat) (c : Call) : Except ReadError (Answer α × Nat) :=
  (c.read x (ts.drop pos)).map fun r => (r.value, ts.length - r.rest.length)

/-- the outcomes of calls one after the other, up to the first failure -/
def runAll (x : Source) (ts : List Token) (pos : Nat) :
    List Call → List (Except ReadError (Answer α × Nat))
  | [] => []
  | c :: cs =>
    match c.run x ts pos with
    | .ok (a, next) => .ok (a, next) :: runAll x ts next cs
    | .error e => [.error e]

end Call

end BankSwitch
