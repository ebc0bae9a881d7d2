import BankSwitch.Description.Text
import BankSwitch.Settings.Basic

/-!
# Printing descriptions

Writes parts back as text that reads as the same part.  The compact style uses brackets and
operators, the term style `(Range ...)` and `(Add ...)` where the grammar has such a term; sequences
and switches look the same in both.  What the grammar cannot say is refused: a range past the
greatest literal, a guard on another name than `INPUT`.
-/

namespace BankSwitch

variable {α : Type}

inductive PrintError (α : Type) where
  | unknownStyle (name : String)
  | width (fault : WidthError)
  /-- the stop of the range is no literal -/
  | stopTooLarge (r : Range) (width : Width)
  /-- the second number of its term is no literal -/
  | extentTooLarge (r : Range) (width : Width) (form : RangeForm)
  /-- a guard can compare nothing but the address -/
  | otherName (c : Comparison)
  /-- a host's node where a guard belongs -/
  | notAGuard (node : α)
  /-- a host's node that no term stands for -/
  | noTerm (node : α)
  deriving DecidableEq

/-- how a part is printed, if its style is known -/
def knownStyle (style : Style) : Except (PrintError α) Unit :=
  match style with
  | .unknown name => .error (.unknownStyle name)
  | _ => .ok ()

/-! ## layouts -/

/-- `(Range base extent stride)` or `[start:stop:stride]`; only the first can say a stop that is no
literal, and only with a stride -/
def Range.print (style : Style) (settings : Settings) (r : Range) : Except (PrintError α) String :=
  match style, settings.width.limit with
  | .unknown name, _ => .error (.unknownStyle name)
  | _, .error fault => .error (.width fault)
  | style, .ok limit =>
    let atTop : Bool := limit ≤ r.stop
    match r.stride with
    | some k =>
      if style = .terms || atTop then
        let extent := settings.rangeForm.extent r.start r.stop
        if limit ≤ extent then .error (.extentTooLarge r settings.width settings.rangeForm)
        else .ok s!"(Range {r.start} {extent} {k})"
      else .ok s!"[{r.start}:{r.stop}:{k}]"
    | none =>
      if atTop then .error (.stopTooLarge r settings.width)
      else .ok s!"[{r.start}:{r.stop}]"

def Partition.print (style : Style) (settings : Settings) (p : Partition) :
    Except (PrintError α) String :=
  match p.ranges with
  | [r] => r.print style settings
  | rs => do
    let texts ← rs.mapM (Range.print style settings)
    return "[" ++ " ".intercalate texts ++ "]"

/-! ## guards -/

/-- text in parentheses, where it is part of something larger -/
def nest (nested : Bool) (text : String) : String := if nested then "(" ++ text ++ ")" else text

mutual
/-- a guard; chains and negations inside a chain get parentheses, since both would take what
follows -/
def Guard.print (nested : Bool) : Guard α → Except (PrintError α) String
  | .compare c => if c.operand = addressName then .ok c.text else .error (.otherName c)
  | .negation g => do
    let text ← g.print false
    return nest nested ("!(" ++ text ++ ")")
  | .chain c => do
    let text ← c.print
    return nest nested text
  | .alien node => .error (.notAGuard node)

def Chain.print : Chain α → Except (PrintError α) String
  | .pair a k b => do
    let left ← a.print true
    let right ← b.print true
    return left ++ " " ++ k.spelling ++ " " ++ right
  | .snoc c k b => do
    let left ← c.print
    let right ← b.print true
    return left ++ " " ++ k.spelling ++ " " ++ right
end

/-- a guard as the single term that a case begins with -/
def Guard.printTerm : Guard α → Except (PrintError α) String
  | .chain c => do
    let text ← c.print
    return "(" ++ text ++ ")"
  | g => g.print false

/-! ## translations -/

/-- a number as a literal in base sixteen -/
def hexLiteral (n : Int) : String := "#x" ++ signedHexDigits n

/-- a primitive as a term; `NOOP` has none -/
def Primitive.term : Primitive → String
  | .noop => "NOOP"
  | .constant v => "(Constant " ++ hexLiteral v ++ ")"
  | .add v => "(Add " ++ hexLiteral v ++ ")"
  | .subFrom v => "(SubPV " ++ hexLiteral v ++ ")"
  | .sub v => "(SubVP " ++ hexLiteral v ++ ")"
  | .shiftRight v => "(RShift " ++ hexLiteral v ++ ")"

def Primitive.print (style : Style) (p : Primitive) : Except (PrintError α) String :=
  match style with
  | .compact => .ok p.text
  | .terms => .ok p.term
  | .unknown name => .error (.unknownStyle name)

variable [Alien α]

def Body.print (style : Style) : Body α → Except (PrintError α) String
  | .primitive p => p.print style
  | .sequence first rest => do
    let texts ← (first :: rest).mapM (Primitive.print style)
    return sequenceText texts
  | .alien node =>
    match style with
    | .compact => .ok (Alien.text node)
    | .terms => .error (.noTerm node)
    | .unknown name => .error (.unknownStyle name)

def Case.print (style : Style) (c : Case α) : Except (PrintError α) String := do
  let guard ← c.guard.printTerm
  let body ← c.body.print style
  return guard ++ " -> " ++ body

def Translation.print (style : Style) : Translation α → Except (PrintError α) String
  | .body b => b.print style
  | .switch first rest default => do
    let arms ← (first :: rest).mapM (Case.print style)
    let last ← default.print style
    return switchText (arms ++ ["-> " ++ last])

/-! ## components -/

def Bank.print (style : Style) (settings : Settings) (b : Bank α) :
    Except (PrintError α) String := do
  let layout ← b.layout.print style settings
  let translation ← b.translation.print style
  return "bank \x7b layout: " ++ layout ++ " translation: " ++ translation ++ " \x7d"

/-- a component, one bank a line -/
def Component.print (style : Style) (settings : Settings) (c : Component α) :
    Except (PrintError α) String := do
  knownStyle style
  let banks ← c.banks.mapM (Bank.print style settings)
  let lines := s!"memory<{c.paramA}, {c.paramB}> \x7b" :: banks.map ("    " ++ ·) ++ ["\x7d"]
  return "\n".intercalate lines ++ "\n"

/-- the settings that a component prints under when none are given -/
def Component.ownSettings (c : Component α) : Settings :=
  { Settings.standard with width := .whole c.width }

def PrintError.message : PrintError α → String
  | .unknownStyle name => s!"Unknown style '{name}' (expected one of: compact, z3)"
  | .width fault => fault.message
  | .stopTooLarge r w => s!"Range {r.text} cannot be written with {w.text}-bit literals"
  | .extentTooLarge r w form =>
    s!"Range {r.text} cannot be written with {w.text}-bit literals (z3_range: {form.name})"
  | .otherName c =>
    s!"Guard '{c.text}' compares selector '{c.operand}', which has no DSL spelling"
  | .notAGuard node => "Not a boolean expression: " ++ Alien.shown node
  | .noTerm node => "<class 'bank_dsl.structures." ++ Alien.kind node ++ "'>"

end BankSwitch
