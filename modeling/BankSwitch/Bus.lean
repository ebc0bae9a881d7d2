/-!
# The address bus

A bus of `w` lines has `addressCount w` addresses, and numbers on it are taken modulo that count,
negative ones too.  A literal must be below that count for the width that was set (`Width.limit`),
and a decimal must be no longer than the host reads (`Measure`).
-/

namespace BankSwitch

/-! ## lines and addresses -/

/-- how many addresses `w` lines tell apart: two to the power `w` -/
def addressCount (w : Nat) : Nat := Nat.pow 2 w

theorem addressCount_pos (w : Nat) : 0 < addressCount w := Nat.pow_pos Nat.two_pos

theorem addressCount_le {w w' : Nat} (h : w ≤ w') : addressCount w ≤ addressCount w' :=
  Nat.pow_le_pow_right Nat.two_pos h

/-- the number on the bus that is congruent to `v` -/
def wrap (w : Nat) (v : Int) : Nat := (v % addressCount w).toNat

theorem wrap_lt (w : Nat) (v : Int) : wrap w v < addressCount w := by
  have hp := addressCount_pos w
  have h := Int.emod_lt_of_pos v (Int.ofNat_lt.mpr hp)
  unfold wrap
  omega

theorem wrap_of_lt {w n : Nat} (h : n < addressCount w) : wrap w n = n := by
  unfold wrap
  rw [Int.emod_eq_of_lt (Int.natCast_nonneg n) (Int.ofNat_lt.mpr h), Int.toNat_natCast]

/-! ## what literals are measured by -/

/-- the width as it was set: a whole number, or a whole number written with a decimal point, which
passes for one but measures no literal -/
inductive Width where
  | whole (n : Int)
  | real (n : Nat)
  deriving DecidableEq

/-- why a width measures no literal -/
inductive WidthError where
  | negative
  | real
  deriving DecidableEq

def WidthError.message : WidthError → String
  | .negative => "negative shift count"
  | .real => "unsupported operand type(s) for <<: 'int' and 'float'"

namespace Width

/-- one past the greatest number that fits -/
def limit : Width → Except WidthError Nat
  | .whole n => if n < 0 then .error .negative else .ok (addressCount n.toNat)
  | .real _ => .error .real

def text : Width → String
  | .whole n => toString n
  | .real n => s!"{n}.0"

/-- the width as a number -/
def value : Width → Int
  | .whole n => n
  | .real n => n

end Width

/-- what the literals of a text are measured by -/
structure Measure where
  width : Width
  /-- how many digits of a decimal the host reads; any number of them if it has no limit -/
  digits : Option Nat
  deriving DecidableEq

namespace Measure

/-- a bus of `w` lines -/
abbrev whole (w : Nat) (digits : Option Nat) : Measure := ⟨.whole w, digits⟩

/-- one past the greatest number that fits -/
def limit (m : Measure) : Except WidthError Nat := m.width.limit

/-- the width as a number -/
def value (m : Measure) : Int := m.width.value

end Measure

end BankSwitch
