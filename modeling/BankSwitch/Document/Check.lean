import BankSwitch.Document.Basic

/-!
# Checking documents

A check lists what is wrong with a document, each violation with the path to the offending part.
`worst?` picks the one to report: the shallowest, among those the one with the greatest path, and on
one path the first.  A part that fits none of several alternatives is reported as the alternative
that it fails least, when one stands out.
-/

namespace BankSwitch.Document

/-- the kinds of value that a check can ask for -/
inductive Kind where
  | object
  | array
  | string
  | integer
  | null
  deriving DecidableEq

def Kind.name : Kind → String
  | .object => "object"
  | .array => "array"
  | .string => "string"
  | .integer => "integer"
  | .null => "null"

/-- a real number without fraction counts as an integer, a truth value does not -/
def hasKind (d : Document) : Kind → Bool
  | .object => match d with | .mapping _ => true | _ => false
  | .array => match d with | .list _ => true | _ => false
  | .string => match d with | .text _ => true | _ => false
  | .integer => match d with
    | .integer _ => true
    | .real x => x.toInt?.isSome
    | _ => false
  | .null => match d with | .null => true | _ => false

inductive Step where
  | key (name : String)
  | index (i : Nat)
  deriving DecidableEq

structure Violation where
  /-- from the checked document to the offending part -/
  path : List Step
  /-- no alternative fits -/
  alternatives : Bool
  /-- the part has the kind that was asked for -/
  rightKind : Bool
  message : String

def Step.compare : Step → Step → Ordering
  | .key a, .key b => Ord.compare a b
  | .index i, .index j => Ord.compare i j
  | .key _, .index _ => .gt
  | .index _, .key _ => .lt

def comparePaths : List Step → List Step → Ordering
  | [], [] => .eq
  | [], _ :: _ => .lt
  | _ :: _, [] => .gt
  | a :: p, b :: q => (a.compare b).then (comparePaths p q)

/-- a greater violation is reported before a smaller one -/
def Violation.compare (a b : Violation) : Ordering :=
  (Ord.compare b.path.length a.path.length).then <|
  (comparePaths a.path b.path).then <|
  (Ord.compare (!a.alternatives) (!b.alternatives)).then <|
  Ord.compare (!a.rightKind) (!b.rightKind)

/-- the first of the greatest violations -/
def worst? : List Violation → Option Violation
  | [] => none
  | v :: vs => some (vs.foldl (fun best w => if best.compare w = .lt then w else best) v)

/-- the least violation, if no other is as small -/
def leastAlone? : List Violation → Option Violation
  | [] => none
  | v :: vs =>
    let least := vs.foldl (fun best w => if w.compare best = .lt then w else best) v
    if ((v :: vs).filter fun w => w.compare least = .eq).length = 1 then some least else none

abbrev Check := Document → List Violation

namespace Check

def all (cs : List Check) : Check := fun d => cs.flatMap (· d)

private def fail (message : String) : List Violation := [⟨[], false, true, message⟩]

/-- the kind asked for, and further checks of the same part -/
def kind (k : Kind) (more : List Check) : Check := fun d =>
  let own := if d.hasKind k then [] else fail s!"{d.shown} is not of type '{k.name}'"
  (own ++ all more d).map fun v => if v.path.isEmpty then { v with rightKind := d.hasKind k } else v

/-- a number below the bound is refused; what is no number passes -/
def minimum (bound : Int) : Check := fun d =>
  let below := match d with
    | .integer n => decide (n < bound)
    | .real x => x.ltInt bound
    | _ => false
  if below then fail s!"{d.shown} is less than the minimum of {bound}" else []

def maximum (bound : Int) : Check := fun d =>
  let above := match d with
    | .integer n => decide (bound < n)
    | .real x => x.gtInt bound
    | _ => false
  if above then fail s!"{d.shown} is greater than the maximum of {bound}" else []

def oneOf (names : List String) : Check := fun d =>
  let isListed := match d with
    | .text s => names.contains s
    | _ => false
  if isListed then []
  else
    let listed := (Document.list (names.map .text)).shown
    fail s!"{d.shown} is not one of {listed}"

/-- a name that must be bound -/
def required (name : String) : Check := fun d =>
  match d with
  | .mapping es =>
    if (get? es name).isSome then [] else fail (quoted name ++ " is a required property")
  | _ => []

/-- no other names may be bound; the strangers are listed in the order of their bare text -/
def closed (names : List String) : Check := fun d =>
  match d with
  | .mapping es =>
    let strangers := (es.map Prod.fst).filter fun k =>
      !names.any fun name => sameKey k (.text name)
    let sorted := strangers.mergeSort fun a b => !(Ord.compare a.plain b.plain == .gt)
    if strangers.isEmpty then []
    else
      let verb := if strangers.length = 1 then "was" else "were"
      let listed := ", ".intercalate (sorted.map shown)
      fail s!"Additional properties are not allowed ({listed} {verb} unexpected)"
  | _ => []

/-- a check of the part under a name, if it is bound -/
def property (name : String) (c : Check) : Check := fun d =>
  match d with
  | .mapping es =>
    match get? es name with
    | some v => (c v).map fun w => { w with path := .key name :: w.path }
    | none => []
  | _ => []

/-- a check of every item of a list -/
def items (c : Check) : Check := fun d =>
  match d with
  | .list ds => ds.zipIdx.flatMap fun (v, i) =>
    (c v).map fun w => { w with path := .index i :: w.path }
  | _ => []

/-- at least one of the alternatives must hold -/
def anyOf (cs : List Check) : Check := fun d =>
  let outcomes := cs.map (· d)
  if outcomes.any List.isEmpty then []
  else
    let own := s!"{d.shown} is not valid under any of the given schemas"
    let message := match leastAlone? outcomes.flatten with
      | some v => v.message
      | none => own
    [⟨[], true, false, message⟩]

/-- nothing is wrong with the document -/
def Passes (c : Check) (d : Document) : Prop := c d = []

end Check

end BankSwitch.Document
