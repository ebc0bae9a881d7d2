import BankSwitch.Bus
import BankSwitch.Text.Basic

/-!
# Settings

What a description is read and printed under: the width of the bus and what else its literals are
measured by, how the second number of a `Range` term is meant, and the style to print in.
-/

namespace BankSwitch

/-- what the second number of a `Range` term says -/
inductive RangeForm where
  /-- how many addresses follow the base -/
  | size
  /-- where the range ends -/
  | stop
  /-- a name that stands for no form is taken for a size -/
  | unknown (name : String)
  deriving DecidableEq

namespace RangeForm

def ofName (s : String) : RangeForm :=
  if s = "size" then .size else if s = "end" then .stop else .unknown s

def name : RangeForm → String
  | .size => "size"
  | .stop => "end"
  | .unknown s => s

/-- start and stop of a `Range` term -/
def bounds : RangeForm → Int → Int → Int × Int
  | .stop, base, extent => (base, extent)
  | _, base, extent => (base, base + extent)

/-- the second number of a `Range` term with the given start and stop -/
def extent : RangeForm → Nat → Nat → Nat
  | .stop, _, last => last
  | _, first, last => last - first

end RangeForm

/-- how to print: with operators, with terms, or under a name that stands for no style -/
inductive Style where
  | compact
  | terms
  | unknown (name : String)
  deriving DecidableEq

namespace Style

def ofName (s : String) : Style :=
  if s = "compact" then .compact else if s = "z3" then .terms else .unknown s

def name : Style → String
  | .compact => "compact"
  | .terms => "z3"
  | .unknown s => s

end Style

structure Settings extends Measure where
  rangeForm : RangeForm
  style : Style
  deriving DecidableEq

/-- a bus of 64 lines, sizes in `Range` terms, operators in print -/
def Settings.standard : Settings := ⟨.whole 64 (some hostDigits), .size, .compact⟩

/-- the settings as the log shows them -/
def Settings.shown (s : Settings) : String :=
  s!"DslConfig(width={s.width.text}, z3_range='{s.rangeForm.name}', style='{s.style.name}')"

end BankSwitch
