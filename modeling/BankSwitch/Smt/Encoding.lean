import BankSwitch.Component.Basic
import BankSwitch.Smt.Term

/-!
# Layouts, guards and translations as terms

Membership in a layout becomes a condition on the symbol `addr`, a translation a term over it.  A
guard on another name than `INPUT` speaks of a symbol of that name.  An upper bound that every
address keeps is left out, an empty range is never met.
-/

namespace BankSwitch

open Smt

variable {α : Type}

/-- the symbol of the address -/
def addrName : String := "addr"

def addr : Term := .symbol addrName

/-! ## layouts -/

def Range.formula (width : Int) (r : Range) : Except (EvalError α) Formula :=
  if r.start = r.stop then .ok .never
  else do
    let w ← busWidth width
    let lower := Formula.relation .atLeast addr (.literal r.start width)
    let upper := if r.stop < addressCount w then
      [Formula.relation .below addr (.literal r.stop width)] else []
    let offset := Term.binary .sub addr (.literal r.start width)
    let stepping := if 1 < r.step then
      [Formula.relation .equal (.binary .remainder offset (.literal r.step width))
        (.literal 0 width)] else []
    return .conjunction (lower :: upper ++ stepping)

def Partition.formula (width : Int) (p : Partition) : Except (EvalError α) Formula := do
  let fs ← p.ranges.mapM (Range.formula width)
  return .disjunction fs

/-! ## guards -/

def Comparator.relation : Comparator → Relation
  | .atMost => .atMost
  | .atLeast => .atLeast
  | .equal => .equal
  | .unequal => .distinct
  | .below => .below
  | .above => .above

def Comparison.formula (width : Int) (c : Comparison) : Formula :=
  let operand := if c.operand = addressName then addr else .symbol c.operand
  let literal := Term.literal c.literal width
  match c.side with
  | .left => .relation c.comparator.relation operand literal
  | .right => .relation c.comparator.relation literal operand

def Connective.join : Connective → Formula → Formula → Formula
  | .and, a, b => .all [a, b]
  | .or, a, b => .any [a, b]

mutual
def Guard.formula (width : Int) : Guard α → Except (EvalError α) Formula
  | .compare c => .ok (c.formula width)
  | .negation g => do
    let f ← g.formula width
    return .negation f
  | .chain c => c.formula width
  | .alien node => .error (.notAGuard node)

def Chain.formula (width : Int) : Chain α → Except (EvalError α) Formula
  | .pair a k b => do
    let f ← a.formula width
    let g ← b.formula width
    return k.join f g
  | .snoc c k b => do
    let f ← c.formula width
    let g ← b.formula width
    return k.join f g
end

/-! ## translations -/

def Primitive.smtTerm (width : Int) (argument : Term) : Primitive → Term
  | .noop => argument
  | .constant v => .literal v width
  | .add v => .binary .add argument (.literal v width)
  | .subFrom v => .binary .sub (.literal v width) argument
  | .sub v => .binary .sub argument (.literal v width)
  | .shiftRight v => .binary .shiftRight argument (.literal v width)

def Body.smtTerm (width : Int) : Body α → Except (EvalError α) Term
  | .primitive p => .ok (p.smtTerm width addr)
  | .sequence first rest =>
    .ok ((first :: rest).foldl (fun t p => p.smtTerm width t) addr)
  | .alien node => .error (.notAPrimitive node)

/-- cases before a term that holds when no case does -/
def casesTerm (width : Int) : List (Case α) → Term → Except (EvalError α) Term
  | [], last => .ok last
  | c :: cs, last => do
    let otherwise ← casesTerm width cs last
    let f ← c.guard.formula width
    let t ← c.body.smtTerm width
    return .ite f t otherwise

def Translation.smtTerm (width : Int) : Translation α → Except (EvalError α) Term
  | .body b => b.smtTerm width
  | .switch first rest default => do
    let last ← default.smtTerm width
    casesTerm width (first :: rest) last

/-! ## the names that guards speak of -/

mutual
/-- the names that a guard compares, `INPUT` left out, in order of mention -/
def Guard.selectors : Guard α → List String
  | .compare c => if c.operand = addressName then [] else [c.operand]
  | .negation g => g.selectors
  | .chain c => c.selectors
  | .alien _ => []

def Chain.selectors : Chain α → List String
  | .pair a _ b => a.selectors ++ b.selectors
  | .snoc c _ b => c.selectors ++ b.selectors
end

def Translation.selectors : Translation α → List String
  | .body _ => []
  | .switch first rest _ => (first :: rest).flatMap fun c => c.guard.selectors

/-- the names that the guards of a component compare, each once, in the order of their code
points -/
def Component.selectors (c : Component α) : List String :=
  (c.banks.flatMap fun b => b.translation.selectors).eraseDups.mergeSort fun a b => !(b < a)

end BankSwitch
