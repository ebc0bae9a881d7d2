import BankSwitch.Smt.Encoding

/-!
# SMT-LIB scripts

The script of a component defines, for every bank, which addresses it claims and where it sends
them, and then the same for the component as a whole: the first bank that claims an address
translates it, an address that no bank claims stays as it is.
-/

namespace BankSwitch

open Smt

variable {α : Type}

namespace Smt

inductive Command where
  | comment (text : String)
  | blank
  /-- a bit vector that the reader of the script chooses -/
  | declare (name : String) (width : Nat)
  /-- a condition on `addr` -/
  | defineFormula (name : String) (width : Nat) (body : Formula)
  /-- a bit vector that depends on `addr` -/
  | defineTerm (name : String) (width : Nat) (body : Term)

/-- the sort of bit vectors of a width -/
def vectorSort (width : Nat) : Sexp := .list [.atom "_", .atom "BitVec", .atom (toString width)]

/-- the two lines of a function of `addr` -/
def functionLines (name : String) (width : Nat) (result body : Sexp) : List String :=
  let parameters := Sexp.list [.list [.atom addrName, vectorSort width]]
  ["(define-fun " ++ name ++ " " ++ parameters.text ++ " " ++ result.text, "  " ++ body.text ++ ")"]

def Command.lines : Command → List String
  | .comment text => ["; " ++ text]
  | .blank => [""]
  | .declare name width =>
    [(Sexp.list [.atom "declare-const", .atom name, vectorSort width]).text]
  | .defineFormula name width body => functionLines name width (.atom "Bool") body.sexp
  | .defineTerm name width body => functionLines name width (vectorSort width) body.sexp

abbrev Script := List Command

def Script.text (s : Script) : String := "\n".intercalate (s.flatMap Command.lines)

end Smt

/-- the function that says whether bank `i` claims an address -/
def containsName (i : Nat) : String := s!"bank_{i}_contains"

/-- the function that translates an address through bank `i` -/
def translateName (i : Nat) : String := s!"bank_{i}_translate"

/-- the definitions of bank `i` -/
def Bank.script (width : Nat) (i : Nat) (b : Bank α) : Except (EvalError α) Script := do
  let contains ← b.layout.formula width
  let translate ← b.translation.smtTerm width
  return [.comment s!"Bank {i}", .defineFormula (containsName i) width contains,
    .defineTerm (translateName i) width translate, .blank]

/-- the definitions of banks numbered from `i` -/
def bankScripts (width : Nat) : Nat → List (Bank α) → Except (EvalError α) Script
  | _, [] => .ok []
  | i, b :: bs => do
    let s ← b.script width i
    let more ← bankScripts width (i + 1) bs
    return s ++ more

/-- the first of `n` banks from `i` on that claims the address translates it -/
def priorityTerm (i : Nat) : Nat → Term
  | 0 => addr
  | n + 1 =>
    .ite (.call (containsName i) addr) (.call (translateName i) addr) (priorityTerm (i + 1) n)

/-- the comments at the head of a script; an unnamed source is not mentioned -/
def Component.header (source : String) (c : Component α) : Script :=
  .comment "Definitions generated from bank DSL" ::
    (if source.isEmpty then [] else [.comment s!"Source: {source}"]) ++
    [.comment (s!"memory<{c.paramA}, {c.paramB}>, {c.banks.length} banks, " ++
      s!"{c.width}-bit addresses"), .blank]

/-- declarations of the names that guards compare -/
def Component.declarations (c : Component α) : Script :=
  match c.selectors with
  | [] => []
  | names => .comment "Guard inputs supplied by the caller" ::
      names.map (Command.declare · c.width) ++ [.blank]

/-- the definitions of the component as a whole -/
def Component.summary (c : Component α) : Script :=
  let claims := (List.range c.banks.length).map fun i => Formula.call (containsName i) addr
  [.comment "True when some bank claims the address",
   .defineFormula "mapped" c.width (.disjunction claims), .blank,
   .comment "Bank priority follows declaration order",
   .defineTerm "translate" c.width (priorityTerm 0 c.banks.length), .blank]

def Component.script (source : String) (c : Component α) : Except (EvalError α) Script := do
  let banks ← bankScripts c.width 0 c.banks
  return c.header source ++ c.declarations ++ banks ++ c.summary

/-- the script of a component as text -/
def Component.smt (source : String) (c : Component α) : Except (EvalError α) String := do
  let s ← c.script source
  return s.text

end BankSwitch
