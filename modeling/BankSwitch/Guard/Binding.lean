import BankSwitch.Guard.Basic
import BankSwitch.Text.Integer

/-!
# Binding names

A person binds a name that guards compare by typing `NAME=VALUE`.  The name ends at the first equals
sign, white space around name and value does not count, and of two bindings for one name the later
holds.
-/

namespace BankSwitch

/-- why a text binds no name -/
inductive BindingError where
  /-- there is no equals sign -/
  | noSign (text : String)
  | value (fault : IntegerText.Fault)
  deriving DecidableEq

def BindingError.message : BindingError → String
  | .noSign text => s!"Expected NAME=VALUE for --input, got '{text}'"
  | .value fault => fault.message

namespace Binding

def dropBlanks (s : List Char) : List Char := s.dropWhile CharClass.isSpace

/-- text without the white space around it -/
def trimmed (s : List Char) : List Char := (dropBlanks (dropBlanks s).reverse).reverse

/-- name and value in one binding -/
def read (limit : Option Nat) (text : String) : Except BindingError (String × Int) :=
  let name := text.toList.takeWhile (· ≠ '=')
  match text.toList.dropWhile (· ≠ '=') with
  | [] => .error (.noSign text)
  | _ :: value =>
    match IntegerText.readNumeral limit (String.ofList (trimmed value)) with
    | .ok n => .ok (String.ofList (trimmed name), n)
    | .error fault => .error (.value fault)

/-- binds a name, which keeps its place if it was bound before -/
def insert (name : String) (value : Int) : List (String × Int) → List (String × Int)
  | [] => [(name, value)]
  | b :: bs => if b.1 = name then (name, value) :: bs else b :: insert name value bs

/-- several bindings, one entry for each name -/
def readAll (limit : Option Nat) (texts : List String) :
    Except BindingError (List (String × Int)) :=
  texts.foldlM (fun bs text => do
    let (name, value) ← read limit text
    return insert name value bs) []

end Binding

end BankSwitch
