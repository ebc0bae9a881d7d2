import BankSwitch.Guard.Reader
import BankSwitch.Translation.Basic

/-!
# Reading translations

A primitive is written with operators (`INPUT + 4`, `8 - INPUT`), as a term (`(Add 4)`), as a bare
number or as `NOOP`.  A sequence holds primitives between brackets, a switch guarded bodies and a
default between braces.  The guard of a case is a single term.
-/

namespace BankSwitch

variable {α : Type}

namespace Primitive

/-- the primitive that a term's word makes of its number -/
def ofKind? : Token.Kind → Option (Int → Primitive)
  | .constant => some .constant
  | .add => some .add
  | .subFrom => some .subFrom
  | .sub => some .sub
  | .shiftRight => some .shiftRight
  | _ => none

/-- the word of a term -/
def readWord (x : Source) : (s : List Token) → Except ReadError (Reading (Int → Primitive) s)
  | [] => .error (x.fault [] .noTerm)
  | t :: r =>
    match ofKind? t.kind with
    | some make => .ok (.front t r make)
    | none => .error (x.fault (t :: r) .noTerm)

/-- `( Word number )` -/
def readTerm (x : Source) (s : List Token) : Except ReadError (Reading Primitive s) := do
  let ⟨_, s₁, h₁⟩ ← x.expect .leftParen s
  let ⟨make, s₂, h₂⟩ ← readWord x s₁
  let ⟨n, s₃, h₃⟩ ← x.number s₂
  let ⟨_, s₄, h₄⟩ ← x.expect .rightParen s₃
  return ⟨make n, s₄, by omega⟩

/-- the primitive that an operator behind `INPUT` makes of the number behind it -/
def ofOperator? : Token.Kind → Option (Int → Primitive)
  | .plus => some .add
  | .minus => some .sub
  | .shift => some .shiftRight
  | _ => none

/-- an operator and a number, behind `INPUT` -/
def readOperation (x : Source) : (s : List Token) → Except ReadError (Reading Primitive s)
  | [] => .error (x.fault [] .noOperator)
  | t :: r =>
    match ofOperator? t.kind with
    | some make => do
      let n ← x.number r
      return (n.map fun (n : Nat) => make n).behind t
    | none => .error (x.fault (t :: r) .noOperator)

/-- the primitive that an operator between a number and `INPUT` makes of the number -/
def ofMiddle? : Token.Kind → Option (Int → Primitive)
  | .plus => some .add
  | .minus => some .subFrom
  | _ => none

/-- what follows a number: an operator and `INPUT`, or nothing -/
def readOperand (x : Source) (n : Nat) : (s : List Token) → Except ReadError (Trailing Primitive s)
  | [] => .ok (.nothing (.constant n) [])
  | t :: r =>
    match ofMiddle? t.kind with
    | some make => do
      let i ← x.expect .input r
      return ((i.map fun _ => make n).behind t).trailing
    | none => .ok (.nothing (.constant n) (t :: r))

def read (x : Source) (s : List Token) : Except ReadError (Reading Primitive s) :=
  match Source.next? s with
  | none => .error .exhausted
  | some .noop => do
    let t ← x.expect .noop s
    return t.map fun _ => .noop
  | some .leftParen => readTerm x s
  | some .input => do
    let i ← x.expect .input s
    let p ← readOperation x i.rest
    return p.trailing.after i.shorter
  | some .number => do
    let n ← x.number s
    let p ← readOperand x n.value n.rest
    return p.after n.shorter
  | some _ => .error (x.fault s .noTranslation)

/-- primitives, each behind a semicolon -/
def readMore (x : Source) : (s : List Token) → Except ReadError (Trailing (List Primitive) s)
  | [] => .ok (.nothing [] [])
  | t :: r =>
    if t.kind = .semicolon then do
      let p ← read x r
      let ps ← readMore x p.rest
      return (p.behind t).cons ps
    else .ok (.nothing [] (t :: r))
termination_by s => s.length
decreasing_by exact (p.behind t).shorter

end Primitive

namespace Body

/-- primitives between brackets -/
def readSequence (x : Source) (s : List Token) : Except ReadError (Reading (Body α) s) := do
  let r ← x.enclosed .leftBracket .rightBracket (Primitive.read x) (Primitive.readMore x) s
  return r.map fun (p, ps) => .sequence p ps

def read (x : Source) (s : List Token) : Except ReadError (Reading (Body α) s) :=
  if Source.next? s = some .leftBracket then readSequence x s
  else do
    let p ← Primitive.read x s
    return p.map .primitive

end Body

namespace Case

/-- `guard -> body ,` -/
def read (x : Source) (s : List Token) : Except ReadError (Reading (Case α) s) := do
  let ⟨g, s₁, h₁⟩ ← Guard.readTerm x s
  let ⟨_, s₂, h₂⟩ ← x.expect .arrow s₁
  let ⟨b, s₃, h₃⟩ ← Body.read x s₂
  let ⟨_, s₄, h₄⟩ ← x.expect .comma s₃
  return ⟨⟨g, b⟩, s₄, by omega⟩

/-- cases up to the arrow of the default -/
def readMore (x : Source) (s : List Token) : Except ReadError (Trailing (List (Case α)) s) :=
  if Source.next? s = some .arrow then .ok (.nothing [] s)
  else do
    let c ← read x s
    let cs ← readMore x c.rest
    return c.cons cs
termination_by s.length
decreasing_by exact c.shorter

end Case

namespace Translation

/-- `switch { guard -> body , ... -> body }` -/
def readSwitch (x : Source) (s : List Token) : Except ReadError (Reading (Translation α) s) := do
  let ⟨_, s₁, h₁⟩ ← x.expect .switch s
  let ⟨_, s₂, h₂⟩ ← x.expect .leftBrace s₁
  let ⟨cases, s₃, h₃⟩ ← Case.readMore x s₂
  match cases with
  | [] => .error (x.fault s₃ .noCase)
  | first :: rest =>
    let ⟨_, s₄, h₄⟩ ← x.expect .arrow s₃
    let ⟨default, s₅, h₅⟩ ← Body.read x s₄
    let ⟨_, s₆, h₆⟩ ← x.expect .rightBrace s₅
    return ⟨.switch first rest default, s₆, by omega⟩

def read (x : Source) (s : List Token) : Except ReadError (Reading (Translation α) s) :=
  if Source.next? s = some .switch then readSwitch x s
  else do
    let b ← Body.read x s
    return b.map .body

/-- the translation that a whole text describes -/
def ofText (settings : Settings) (text : String) : Except ReadError (Translation α) :=
  Source.readAll settings text read

end Translation

end BankSwitch
