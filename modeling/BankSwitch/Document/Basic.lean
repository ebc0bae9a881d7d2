import BankSwitch.Number.Binary64
import BankSwitch.Text.Basic

/-!
# Documents

The values that a settings or trace file holds: nothing, truth values, numbers, text, lists and
mappings in the order of their first keys.  `Document.shown` is the value as messages quote it,
`Document.plain` the same with text left bare.
-/

namespace BankSwitch

inductive Document where
  | null
  | bool (b : Bool)
  | integer (n : Int)
  | real (x : Binary64)
  | text (s : String)
  | list (items : List Document)
  | mapping (entries : List (Document × Document))
  /-- a value of a kind that no check knows, such as a date: how it is quoted, and its bare text -/
  | other (quotedForm bareForm : String)

namespace Document

mutual
/-- the value as messages quote it -/
def shown : Document → String
  | .null => "None"
  | .bool b => if b then "True" else "False"
  | .integer n => toString n
  | .real x => x.text
  | .text s => quoted s
  | .list items => "[" ++ ", ".intercalate (shownAll items) ++ "]"
  | .mapping entries => "\x7b" ++ ", ".intercalate (shownEntries entries) ++ "\x7d"
  | .other s _ => s

def shownAll : List Document → List String
  | [] => []
  | d :: ds => d.shown :: shownAll ds

def shownEntries : List (Document × Document) → List String
  | [] => []
  | (k, v) :: es => (k.shown ++ ": " ++ v.shown) :: shownEntries es
end

/-- the value with text left bare -/
def plain : Document → String
  | .text s => s
  | .other _ s => s
  | d => d.shown

/-- the integer that a number or truth value equals -/
def integral? : Document → Option Int
  | .bool b => some (if b then 1 else 0)
  | .integer n => some n
  | .real x => x.toInt?
  | _ => none

/-- two scalars that count as one key: numbers by value, everything else by kind and content -/
def sameKey (a b : Document) : Bool :=
  match a.integral?, b.integral? with
  | some m, some n => decide (m = n)
  | none, none =>
    match a, b with
    | .null, .null => true
    | .text s, .text t => decide (s = t)
    | .real x, .real y => decide (x = y)
    | .other s _, .other t _ => decide (s = t)
    | _, _ => false
  | _, _ => false

/-- binds a key: a key that is there keeps its place and gets the new value -/
def bind (entries : List (Document × Document)) (k v : Document) : List (Document × Document) :=
  match entries with
  | [] => [(k, v)]
  | (k', v') :: es => if sameKey k' k then (k', v) :: es else (k', v') :: bind es k v

/-- the value under a text key -/
def get? (entries : List (Document × Document)) (name : String) : Option Document :=
  (entries.find? fun e => sameKey e.1 (.text name)).map Prod.snd

end Document

end BankSwitch
