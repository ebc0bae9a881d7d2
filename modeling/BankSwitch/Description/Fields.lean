import BankSwitch.Description.Text
import BankSwitch.Guard.Basic
import BankSwitch.Text.Basic

/-!
# Parts field by field

Errors about a part in the wrong place quote it with the name of its kind and all its fields, so
that the host recognises what it built.
-/

namespace BankSwitch

variable {α : Type} [Alien α]

/-- values in parentheses, a single one with a comma behind it -/
def tupleText : List String → String
  | [x] => "(" ++ x ++ ",)"
  | xs => "(" ++ ", ".intercalate xs ++ ")"

def Side.shown : Side → String
  | .left => "<ComparisonSide.INPUT_LEFT: 'left'>"
  | .right => "<ComparisonSide.INPUT_RIGHT: 'right'>"

def Comparator.shown (c : Comparator) : String :=
  let name := match c with
    | .atMost => "LEQ"
    | .atLeast => "GEQ"
    | .equal => "EQ"
    | .unequal => "NEQ"
    | .below => "LT"
    | .above => "GT"
  "<ComparisonOperator." ++ name ++ ": '" ++ c.spelling ++ "'>"

def Connective.shown : Connective → String
  | .and => "<BoolOp.AND: '&&'>"
  | .or => "<BoolOp.OR: '||'>"

def Comparison.shown (c : Comparison) : String :=
  s!"Comparison(side={c.side.shown}, operator={c.comparator.shown}, literal={c.literal}, " ++
    s!"operand={quoted c.operand})"

mutual
def Guard.shown : Guard α → String
  | .compare c => c.shown
  | .negation g => "Not(operand=" ++ g.shown ++ ")"
  | .chain c =>
    let operators := tupleText (c.connectives.map Connective.shown)
    "Combine(operands=" ++ tupleText c.operandsShown ++ ", operators=" ++ operators ++ ")"
  | .alien node => Alien.shown node

def Chain.operandsShown : Chain α → List String
  | .pair a _ b => [a.shown, b.shown]
  | .snoc c _ b => c.operandsShown ++ [b.shown]
end

def Primitive.shown : Primitive → String
  | .noop => "Noop()"
  | .constant v => s!"Constant(value={v})"
  | .add v => s!"Add(value={v})"
  | .subFrom v => s!"SubPV(value={v})"
  | .sub v => s!"SubVP(value={v})"
  | .shiftRight v => s!"RShift(value={v})"

def Body.shown : Body α → String
  | .primitive p => p.shown
  | .sequence first rest =>
    "Sequence(steps=" ++ tupleText ((first :: rest).map Primitive.shown) ++ ")"
  | .alien node => Alien.shown node

def Case.shown (c : Case α) : String :=
  "SwitchCase(guard=" ++ c.guard.shown ++ ", body=" ++ c.body.shown ++ ")"

def Translation.shown : Translation α → String
  | .body b => b.shown
  | .switch first rest default =>
    "Switch(cases=" ++ tupleText ((first :: rest).map Case.shown) ++ ", default=" ++
      default.shown ++ ")"

def EvalError.message : EvalError α → String
  | .noBankMatch a => s!"No bank layout contains address {hexText a}"
  | .missingInput name =>
    s!"Switch guard references input '{name}' but no value was supplied"
  | .negativeShift => "negative shift count"
  | .notAGuard node => "Not a boolean expression: " ++ Alien.shown node
  | .notAPrimitive node => "Not a translation primitive: " ++ Alien.shown node

end BankSwitch
