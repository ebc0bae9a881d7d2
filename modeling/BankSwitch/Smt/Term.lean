/-!
# Terms over bit vectors

The part of SMT-LIB that translations are written in: bit vectors of one width, conditions on them,
and calls of defined functions of one bit vector.  `Sexp` is the written form, symbols and nested
lists; `Sexp.text` sets it on one line with single spaces.
-/

namespace BankSwitch.Smt

/-! ## written form -/

inductive Sexp where
  | atom (name : String)
  | list (items : List Sexp)

namespace Sexp

mutual
def text : Sexp → String
  | .atom name => name
  | .list items => "(" ++ " ".intercalate (texts items) ++ ")"

def texts : List Sexp → List String
  | [] => []
  | s :: ss => s.text :: texts ss
end

end Sexp

/-! ## terms and conditions -/

inductive Operation where
  | add
  | sub
  | remainder
  | shiftRight
  deriving DecidableEq

def Operation.name : Operation → String
  | .add => "bvadd"
  | .sub => "bvsub"
  | .remainder => "bvurem"
  | .shiftRight => "bvlshr"

inductive Relation where
  | below
  | atMost
  | above
  | atLeast
  | equal
  | distinct
  deriving DecidableEq

def Relation.name : Relation → String
  | .below => "bvult"
  | .atMost => "bvule"
  | .above => "bvugt"
  | .atLeast => "bvuge"
  | .equal => "="
  | .distinct => "distinct"

mutual
/-- a bit vector -/
inductive Term where
  /-- whatever the symbol names where it stands -/
  | symbol (name : String)
  | literal (value width : Int)
  | binary (op : Operation) (a b : Term)
  | ite (condition : Formula) (a b : Term)
  | call (function : String) (argument : Term)

/-- a condition -/
inductive Formula where
  | never
  | relation (rel : Relation) (a b : Term)
  | negation (f : Formula)
  | all (fs : List Formula)
  | any (fs : List Formula)
  | call (function : String) (argument : Term)
end

/-- a number as a bit vector -/
def literalSexp (value width : Int) : Sexp :=
  .list [.atom "_", .atom s!"bv{value}", .atom (toString width)]

mutual
def Term.sexp : Term → Sexp
  | .symbol name => .atom name
  | .literal value width => literalSexp value width
  | .binary op a b => .list [.atom op.name, a.sexp, b.sexp]
  | .ite c a b => .list [.atom "ite", c.sexp, a.sexp, b.sexp]
  | .call f a => .list [.atom f, a.sexp]

def Formula.sexp : Formula → Sexp
  | .never => .atom "false"
  | .relation rel a b => .list [.atom rel.name, a.sexp, b.sexp]
  | .negation f => .list [.atom "not", f.sexp]
  | .all fs => .list (.atom "and" :: Formula.sexps fs)
  | .any fs => .list (.atom "or" :: Formula.sexps fs)
  | .call f a => .list [.atom f, a.sexp]

def Formula.sexps : List Formula → List Sexp
  | [] => []
  | f :: fs => f.sexp :: Formula.sexps fs
end

namespace Formula

/-- a condition that all of the given ones hold; a single one stands for itself -/
def conjunction : List Formula → Formula
  | [f] => f
  | fs => .all fs

/-- a condition that one of the given ones holds; a single one stands for itself -/
def disjunction : List Formula → Formula
  | [f] => f
  | fs => .any fs

end Formula

end BankSwitch.Smt
