import BankSwitch.Text.Basic

/-!
# Address ranges

A range is `start, start + step, ...` below `stop`; without a stride the step is one.  Its addresses
are numbered from zero: `indexOf?` gives the number of an address, `get?` the address of a number,
and `addresses` lists them all.
-/

namespace BankSwitch

theorem toNat_pos {k : Int} (h : ¬ k ≤ 0) : 0 < k.toNat :=
  Int.pos_iff_toNat_pos.mp (Int.not_le.mp h)

/-! ## ranges and their bounds -/

structure Range where
  start : Nat
  /-- one past the last address that the range may hold -/
  stop : Nat
  stride : Option Nat
  start_le_stop : start ≤ stop
  step_pos : 0 < stride.getD 1
  deriving DecidableEq

namespace Range

/-- why numbers bound no range -/
inductive Flaw where
  | negativeStart
  | stopBelowStart
  | strideNotPositive
  /-- `base` and `extent`, as they were written, lead past the addresses of a bus of that width -/
  | pastBus (base extent : Nat) (width : Int)
  deriving DecidableEq

/-- numbers that bound no range -/
structure Malformed where
  flaw : Flaw
  start : Int
  stop : Int
  stride : Option Int
  deriving DecidableEq

def Malformed.message (m : Malformed) : String :=
  match m.flaw with
  | .negativeStart => s!"Range start {m.start} is negative"
  | .stopBelowStart => s!"Range end {hexText m.stop} is below start {hexText m.start}"
  | .strideNotPositive => s!"Range stride must be positive, got {m.stride.getD 1}"
  | .pastBus base extent width =>
    s!"Range {hexText base}+{hexText extent} extends past the {width}-bit address space"

/-- the range with the given bounds -/
def ofBounds (start stop : Int) (stride : Option Int) : Except Malformed Range :=
  if start < 0 then .error ⟨.negativeStart, start, stop, stride⟩
  else if h₁ : stop < start then .error ⟨.stopBelowStart, start, stop, stride⟩
  else match stride with
    | none =>
      .ok ⟨start.toNat, stop.toNat, none, Int.toNat_le_toNat (Int.not_lt.mp h₁), Nat.one_pos⟩
    | some k =>
      if h₂ : k ≤ 0 then .error ⟨.strideNotPositive, start, stop, some k⟩
      else .ok ⟨start.toNat, stop.toNat, some k.toNat, Int.toNat_le_toNat (Int.not_lt.mp h₁),
        toNat_pos h₂⟩

/-! ## the addresses of a range -/

def step (r : Range) : Nat := r.stride.getD 1

theorem step_pos' (r : Range) : 0 < r.step := r.step_pos

def contains (r : Range) (a : Int) : Bool :=
  decide ((r.start : Int) ≤ a) && decide (a < r.stop) && decide ((a - r.start) % r.step = 0)

/-- how many addresses the range holds -/
def size (r : Range) : Nat := (r.stop - r.start + r.step - 1) / r.step

/-- the number of an address -/
def indexOf? (r : Range) (a : Int) : Option Nat :=
  if r.contains a then some ((a.toNat - r.start) / r.step) else none

/-- the address of a number -/
def get? (r : Range) (i : Int) : Option Nat :=
  if 0 ≤ i && i < r.size then some (r.start + i.toNat * r.step) else none

/-- up to `n` addresses from `a` on -/
def enumerateFrom (r : Range) : Nat → Nat → List Nat
  | 0, _ => []
  | n + 1, a => if a < r.stop then a :: r.enumerateFrom n (a + r.step) else []

/-- the first `n` addresses -/
def firstAddresses (r : Range) (n : Nat) : List Nat := r.enumerateFrom n r.start

/-- all addresses, in ascending order -/
def addresses (r : Range) : List Nat := r.firstAddresses (r.stop - r.start)

end Range

end BankSwitch
