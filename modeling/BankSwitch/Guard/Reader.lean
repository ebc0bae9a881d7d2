import BankSwitch.Guard.Basic
import BankSwitch.Source.Stream

/-!
# Reading guards

A guard is a chain of terms joined by `&&` and `||`.  A term is a comparison of `INPUT` with a
number, a guard in parentheses, or `!` before a guard; the `!` takes the whole chain that follows
it.  Parentheses only group.
-/

namespace BankSwitch

variable {α : Type}

/-- the comparator that a token stands for -/
def Comparator.ofKind? : Token.Kind → Option Comparator
  | .atMost => some .atMost
  | .atLeast => some .atLeast
  | .equal => some .equal
  | .unequal => some .unequal
  | .below => some .below
  | .above => some .above
  | _ => none

/-- the connective that a token stands for -/
def Connective.ofKind? : Token.Kind → Option Connective
  | .and => some .and
  | .or => some .or
  | _ => none

def Comparator.read (x : Source) : (s : List Token) → Except ReadError (Reading Comparator s)
  | [] => .error (x.fault [] .noComparator)
  | t :: r =>
    match Comparator.ofKind? t.kind with
    | some c => .ok (.front t r c)
    | none => .error (x.fault (t :: r) .noComparator)

/-- `INPUT` and a number, in either order, with a comparator between them -/
def Comparison.read (x : Source) (s : List Token) : Except ReadError (Reading Comparison s) :=
  match Source.next? s with
  | some .input => do
    let ⟨_, s₁, h₁⟩ ← x.expect .input s
    let ⟨c, s₂, h₂⟩ ← Comparator.read x s₁
    let ⟨n, s₃, h₃⟩ ← x.number s₂
    return ⟨⟨.left, c, n, addressName⟩, s₃, by omega⟩
  | some .number => do
    let ⟨n, s₁, h₁⟩ ← x.number s
    let ⟨c, s₂, h₂⟩ ← Comparator.read x s₁
    let ⟨_, s₃, h₃⟩ ← x.expect .input s₂
    return ⟨⟨.right, c, n, addressName⟩, s₃, by omega⟩
  | _ => .error (x.fault s .noComparison)

namespace Guard

mutual
/-- a term, and the terms that are joined to it -/
def read (x : Source) (s : List Token) : Except ReadError (Reading (Guard α) s) := do
  let ⟨g, s₁, h₁⟩ ← readTerm x s
  let ⟨more, s₂, h₂⟩ ← readMore x s₁
  return ⟨g.join more, s₂, by omega⟩
termination_by (s.length, 1)

/-- connectives, each with the term behind it -/
def readMore (x : Source) :
    (s : List Token) → Except ReadError (Trailing (List (Connective × Guard α)) s)
  | [] => .ok ⟨[], [], Nat.le_refl _⟩
  | t :: r =>
    match Connective.ofKind? t.kind with
    | some k => do
      let ⟨g, s₁, h₁⟩ ← readTerm x r
      let ⟨more, s₂, h₂⟩ ← readMore x s₁
      return ⟨(k, g) :: more, s₂, by simp only [List.length_cons]; omega⟩
    | none => .ok ⟨[], t :: r, Nat.le_refl _⟩
termination_by s => (s.length, 2)

/-- a guard that chains need no parentheses around, or one in parentheses -/
def readTerm (x : Source) : (s : List Token) → Except ReadError (Reading (Guard α) s)
  | [] => .error (x.fault [] .noComparison)
  | t :: r =>
    match t.kind with
    | .bang => do
      let ⟨g, s₁, h₁⟩ ← read x r
      return ⟨.negation g, s₁, by simp only [List.length_cons]; omega⟩
    | .leftParen => do
      let ⟨g, s₁, h₁⟩ ← read x r
      let ⟨_, s₂, h₂⟩ ← x.expect .rightParen s₁
      return ⟨g, s₂, by simp only [List.length_cons]; omega⟩
    | _ => do
      let ⟨c, s₁, h₁⟩ ← Comparison.read x (t :: r)
      return ⟨.compare c, s₁, h₁⟩
termination_by s => (s.length, 0)
end

/-- the guard that a whole text describes -/
def ofText (settings : Settings) (text : String) : Except ReadError (Guard α) :=
  Source.readAll settings text read

end Guard

end BankSwitch
