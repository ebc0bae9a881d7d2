import BankSwitch.Layout.Range
import BankSwitch.Source.Error

/-!
# Partitions

The addresses that one bank claims: ranges in the order they were declared.  The numbering of a
partition runs through its ranges one after the other, so an address in two ranges has two numbers,
and `indexOf?` gives the first.
-/

namespace BankSwitch

structure Partition where
  ranges : List Range
  nonempty : ranges ≠ []
  deriving DecidableEq

namespace Partition

def ofRanges : List Range → Except BuildError Partition
  | [] => .error .emptyPartition
  | r :: rs => .ok ⟨r :: rs, List.cons_ne_nil r rs⟩

/-- the partition of one range -/
def single (r : Range) : Partition := ⟨[r], List.cons_ne_nil r []⟩

def contains (p : Partition) (a : Int) : Bool := p.ranges.any (·.contains a)

/-- how many addresses a list of ranges holds, shared ones counted for each range -/
def sizeIn : List Range → Nat
  | [] => 0
  | r :: rs => r.size + sizeIn rs

def size (p : Partition) : Nat := sizeIn p.ranges

/-- the number of an address in a list of ranges -/
def indexIn? (a : Int) : List Range → Option Nat
  | [] => none
  | r :: rs =>
    match r.indexOf? a with
    | some i => some i
    | none => (indexIn? a rs).map (r.size + ·)

def indexOf? (p : Partition) (a : Int) : Option Nat := indexIn? a p.ranges

/-- the address of a number in a list of ranges -/
def getIn? : List Range → Nat → Option Nat
  | [], _ => none
  | r :: rs, i => if i < r.size then r.get? i else getIn? rs (i - r.size)

def get? (p : Partition) (i : Int) : Option Nat :=
  if i < 0 then none else getIn? p.ranges i.toNat

/-- the first `n` addresses of a list of ranges -/
def firstIn : List Range → Nat → List Nat
  | [], _ => []
  | r :: rs, n =>
    let found := r.firstAddresses n
    found ++ firstIn rs (n - found.length)

/-- the first `n` addresses -/
def firstAddresses (p : Partition) (n : Nat) : List Nat := firstIn p.ranges n

/-- all addresses, range after range -/
def addresses (p : Partition) : List Nat := p.ranges.flatMap Range.addresses

end Partition

end BankSwitch
