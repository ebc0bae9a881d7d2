import BankSwitch.Component.Basic

/-!
# Describing parts

The short text of every part, as listings and messages show it.  Unlike a printed description it
gives bounds in base sixteen, puts every chain in parentheses, and can show any part.
-/

namespace BankSwitch

/-- what can be told of a host's own node -/
class Alien (α : Type) where
  /-- the name of its kind -/
  kind : α → String
  /-- its short text -/
  text : α → String
  /-- all its fields, as errors quote it -/
  shown : α → String

instance : Alien Empty := ⟨nofun, nofun, nofun⟩

/-! ## layouts -/

def Range.text (r : Range) : String :=
  match r.stride with
  | none => s!"[{hexText r.start}:{hexText r.stop}]"
  | some k => s!"[{hexText r.start}:{hexText r.stop}:{k}]"

def Partition.text (p : Partition) : String :=
  match p.ranges with
  | [r] => r.text
  | rs => "[" ++ " ".intercalate (rs.map Range.text) ++ "]"

/-! ## guards -/

variable {α : Type} [Alien α]

def Comparison.text (c : Comparison) : String :=
  match c.side with
  | .left => s!"{c.operand} {c.comparator.spelling} {c.literal}"
  | .right => s!"{c.literal} {c.comparator.spelling} {c.operand}"

mutual
def Guard.text : Guard α → String
  | .compare c => c.text
  | .negation g => "!(" ++ g.text ++ ")"
  | .chain c => "(" ++ c.text ++ ")"
  | .alien node => Alien.text node

def Chain.text : Chain α → String
  | .pair a k b => a.text ++ " " ++ k.spelling ++ " " ++ b.text
  | .snoc c k b => c.text ++ " " ++ k.spelling ++ " " ++ b.text
end

/-! ## translations -/

def Primitive.text : Primitive → String
  | .noop => "NOOP"
  | .constant v => toString v
  | .add v => s!"INPUT + {v}"
  | .subFrom v => s!"{v} - INPUT"
  | .sub v => s!"INPUT - {v}"
  | .shiftRight v => s!"INPUT >> {v}"

/-- primitives between brackets -/
def sequenceText (steps : List String) : String := "[" ++ "; ".intercalate steps ++ "]"

/-- cases and default between braces -/
def switchText (arms : List String) : String := "switch \x7b " ++ ", ".intercalate arms ++ " \x7d"

def Body.text : Body α → String
  | .primitive p => p.text
  | .sequence first rest => sequenceText ((first :: rest).map Primitive.text)
  | .alien node => Alien.text node

def Case.text (c : Case α) : String := c.guard.text ++ " -> " ++ c.body.text

def Translation.text : Translation α → String
  | .body b => b.text
  | .switch first rest default =>
    switchText ((first :: rest).map Case.text ++ ["-> " ++ default.text])

/-! ## components -/

/-- the lines that describe one bank -/
def Bank.describe (i : Nat) (b : Bank α) : List String :=
  [s!"  bank {i}:",
   s!"    layout:      {b.layout.text} ({b.layout.size} addresses)",
   s!"    translation: {b.translation.text}"]

/-- the lines that describe a component bank by bank -/
def Component.describe (c : Component α) : List String :=
  s!"memory<{c.paramA}, {c.paramB}> ({c.width}-bit)" ::
    c.banks.zipIdx.flatMap fun (b, i) => b.describe i

end BankSwitch
