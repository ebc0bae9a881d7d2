import BankSwitch.Bus
import BankSwitch.Proofs.Smt.Reader

/-!
# What scripts mean

The meaning of s-expressions and of commands, as the SMT-LIB theories of Booleans and of bit vectors
of fixed size have it.  A scope gives every defined name its function; a definition adds one to it,
a declaration adds a constant that the reader of the script has chosen.  Names of the logic and
names that are taken cannot be defined, the parameters of a function hide what their names stand for
outside, and arguments must have the sorts that a function asks for.  An expression that breaks one
of these rules has no value, and a script that does has no meaning.
-/

namespace BankSwitch.Smt

/-! ## values -/

inductive Kind where
  | bool
  | vector (width : Nat)
  deriving DecidableEq

inductive Value where
  | bool (b : Bool)
  | vector (width : Nat) (v : BitVec width)
  deriving DecidableEq

def Value.kind : Value → Kind
  | .bool _ => .bool
  | .vector w _ => .vector w

def Value.allEqual (vs : List Value) : Bool := vs.all fun v => vs.all fun u => decide (u = v)

def Value.allDistinct (vs : List Value) : Bool := decide vs.Nodup

abbrev Function := List Value → Option Value

/-! ## the functions of the logic -/

namespace Function

def constant (v : Value) : Function
  | [] => some v
  | _ => none

def negation : Function
  | [.bool b] => some (.bool !b)
  | _ => none

/-- a connective between the outcome so far and what follows -/
def connectiveFrom (op : Bool → Bool → Bool) (b : Bool) : Function
  | [] => some (.bool b)
  | .bool c :: vs => connectiveFrom op (op b c) vs
  | _ => none

/-- a connective between two or more conditions -/
def connective (op : Bool → Bool → Bool) : Function
  | .bool a :: .bool b :: vs => connectiveFrom op (op a b) vs
  | _ => none

/-- a comparison of two or more values of one sort -/
def comparison (holds : List Value → Bool) : Function
  | a :: b :: vs =>
    if (b :: vs).all (·.kind = a.kind) then some (.bool (holds (a :: b :: vs))) else none
  | _ => none

def choice : Function
  | [.bool c, a, b] => if b.kind = a.kind then some (if c then a else b) else none
  | _ => none

def arithmetic (op : {w : Nat} → BitVec w → BitVec w → BitVec w) : Function
  | [.vector w x, .vector w' y] =>
    if h : w' = w then some (.vector w (op x (h ▸ y))) else none
  | _ => none

def relation (rel : {w : Nat} → BitVec w → BitVec w → Bool) : Function
  | [.vector w x, .vector w' y] => if h : w' = w then some (.bool (rel x (h ▸ y))) else none
  | _ => none

end Function

/-- the functions of the logic that scripts use -/
def logic : List (String × Function) :=
  [("true", .constant (.bool true)), ("false", .constant (.bool false)), ("not", .negation),
   ("and", .connective and), ("or", .connective or), ("=", .comparison Value.allEqual),
   ("distinct", .comparison Value.allDistinct), ("ite", .choice),
   ("bvadd", .arithmetic fun x y => x + y), ("bvsub", .arithmetic fun x y => x - y),
   ("bvurem", .arithmetic fun x y => x.umod y), ("bvlshr", .arithmetic fun x y => x >>> y),
   ("bvult", .relation fun x y => x.ult y), ("bvule", .relation fun x y => x.ule y),
   ("bvugt", .relation fun x y => y.ult x), ("bvuge", .relation fun x y => y.ule x)]

/-- the other names that no script may define -/
def otherReserved : List String :=
  ["BINARY", "DECIMAL", "HEXADECIMAL", "NUMERAL", "STRING", "_", "!", "as", "exists", "forall",
   "let", "match", "par", "assert", "check-sat", "check-sat-assuming", "declare-const",
   "declare-datatype", "declare-datatypes", "declare-fun", "declare-sort", "define-const",
   "define-fun", "define-fun-rec", "define-funs-rec", "define-sort", "echo", "exit",
   "get-assertions", "get-assignment", "get-info", "get-model", "get-option", "get-proof",
   "get-unsat-assumptions", "get-unsat-core", "get-value", "pop", "push", "reset",
   "reset-assertions", "set-info", "set-logic", "set-option", "=>", "xor", "concat", "extract",
   "repeat", "zero_extend", "sign_extend", "rotate_left", "rotate_right", "bvnot", "bvneg",
   "bvand", "bvor", "bvnand", "bvnor", "bvxor", "bvxnor", "bvcomp", "bvmul", "bvudiv", "bvsdiv",
   "bvsrem", "bvsmod", "bvshl", "bvashr", "bvslt", "bvsle", "bvsgt", "bvsge"]

def isReserved (name : String) : Bool :=
  (logic.map Prod.fst).contains name || otherReserved.contains name

/-! ## expressions -/

/-- the functions that names stand for, those of the logic left out -/
abbrev Scope := String → Option Function

namespace Scope

def empty : Scope := fun _ => none

def bind (σ : Scope) (name : String) (f : Function) : Scope :=
  fun n => if n = name then some f else σ n

/-- values under the names of parameters -/
def bindAll (σ : Scope) : List String → List Value → Scope
  | p :: ps, v :: vs => (σ.bindAll ps vs).bind p (.constant v)
  | _, _ => σ

/-- the value of a function at some arguments -/
def apply (σ : Scope) (name : String) (vs : List Value) : Option Value :=
  match logic.lookup name with
  | some f => f vs
  | none => (σ name).bind fun f => f vs

end Scope

def numeral? (word : List Char) : Option Nat :=
  if isNumeral word then some (Nat.ofDigitChars 10 word 0) else none

/-- the bit vector behind an underscore: `bv` with its value, then its width -/
def vectorLiteral : List Sexp → Option Value
  | [.atom name, .atom width] =>
    match name.toList, numeral? width.toList with
    | 'b' :: 'v' :: digits, some w => do
      let n ← numeral? digits
      if 0 < w ∧ n < addressCount w then some (.vector w (BitVec.ofNat w n)) else none
    | _, _ => none
  | _ => none

mutual
def Sexp.eval (σ : Scope) : Sexp → Option Value
  | .atom name => σ.apply name []
  | .list (.atom f :: args) =>
    if f = "_" then vectorLiteral args else do
      let vs ← Sexp.evalAll σ args
      σ.apply f vs
  | .list _ => none

def Sexp.evalAll (σ : Scope) : List Sexp → Option (List Value)
  | [] => some []
  | s :: ss => do
    let v ← s.eval σ
    let vs ← Sexp.evalAll σ ss
    return v :: vs
end

/-! ## commands -/

def kind? : Sexp → Option Kind
  | .atom name => if name = "Bool" then some .bool else none
  | .list [.atom u, .atom name, .atom width] =>
    if u = "_" ∧ name = "BitVec" then
      (numeral? width.toList).bind fun w => if 0 < w then some (.vector w) else none
    else none
  | .list _ => none

/-- name and sort of a parameter -/
def parameter? : Sexp → Option (String × Kind)
  | .list [.atom name, sort] => (kind? sort).map fun k => (name, k)
  | _ => none

/-- the function that a definition gives: defined where the arguments have the sorts of the
parameters, and the body that of the result -/
def Function.defined (σ : Scope) (params : List (String × Kind)) (result : Kind) (body : Sexp) :
    Function := fun vs =>
  if vs.map Value.kind = params.map Prod.snd then
    (body.eval (σ.bindAll (params.map Prod.fst) vs)).filter (·.kind = result)
  else none

/-- the name can be given a meaning -/
def Scope.free (σ : Scope) (name : String) : Bool :=
  isSimpleSymbol name.toList && !isReserved name && (σ name).isNone

/-- the names can be parameters of one function -/
def areParameters (names : List String) : Bool :=
  decide names.Nodup && names.all fun p => isSimpleSymbol p.toList && !isReserved p

def define (σ : Scope) : List Sexp → Option Scope
  | [.atom name, .list ps, sort, body] => do
    let params ← ps.mapM parameter?
    let result ← kind? sort
    if σ.free name && areParameters (params.map Prod.fst) then
      some (σ.bind name (.defined σ params result body))
    else none
  | _ => none

def declare (chosen : String → Value) (σ : Scope) : List Sexp → Option Scope
  | [.atom name, sort] => do
    let k ← kind? sort
    if σ.free name && (chosen name).kind = k then some (σ.bind name (.constant (chosen name)))
    else none
  | _ => none

/-- one command -/
def execute (chosen : String → Value) (σ : Scope) : Sexp → Option Scope
  | .list (.atom command :: rest) =>
    if command = "define-fun" then define σ rest
    else if command = "declare-const" then declare chosen σ rest
    else none
  | _ => none

/-- the scope that a script leaves, if the constants that it declares have the chosen values -/
def meaning (chosen : String → Value) (text : String) : Option Scope :=
  (read text).bind fun commands => commands.foldlM (execute chosen) Scope.empty

end BankSwitch.Smt
