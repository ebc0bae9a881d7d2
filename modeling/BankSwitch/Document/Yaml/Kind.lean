import BankSwitch.Document.Yaml.Node
import BankSwitch.Document.Yaml.Timestamp

/-!
# Kinds of YAML values and merging

What a node is: its tag says so, or else the form of its text does when it stands without quotes.
-/

namespace BankSwitch.Yaml

inductive Kind where
  | null
  | truth
  | integer
  | real
  | timestamp
  | binary
  | text
  | list
  | mapping
  | set
  /-- a list of single bindings -/
  | bindings
  /-- the key whose value is merged into the mapping -/
  | merge
  /-- the key whose value stands for the mapping where text is asked for -/
  | default
  deriving DecidableEq

namespace Kind

/-- the kind that a tag stands for -/
def ofTag (tag : String) : Option Kind :=
  (([("null", .null), ("bool", .truth), ("int", .integer), ("float", .real),
    ("timestamp", .timestamp), ("binary", .binary), ("str", .text), ("seq", .list),
    ("map", .mapping), ("set", .set), ("omap", .bindings), ("pairs", .bindings),
    ("merge", .merge), ("value", .default)] : List (String × Kind)).find? fun e =>
      standardStem ++ e.1 = tag).map Prod.snd

/-! ## forms of text -/

def isNullWord (s : List Char) : Bool :=
  ["~", "null", "Null", "NULL"].contains (String.ofList s)

def isTruthWord (s : List Char) : Bool :=
  ["yes", "Yes", "YES", "no", "No", "NO", "true", "True", "TRUE", "false", "False", "FALSE",
    "on", "On", "ON", "off", "Off", "OFF"].contains (String.ofList s)

def dropSign : List Char → List Char
  | '+' :: r => r
  | '-' :: r => r
  | s => s

/-- digits and underscores -/
def isGrouped (s : List Char) : Bool := s.all fun c => c.isDigit || c = '_'

/-- digits and underscores behind a first digit -/
def isNumeral : List Char → Bool
  | c :: r => c.isDigit && isGrouped r
  | [] => false

/-- a part of a number in base sixty -/
def isSixtieth (s : List Char) : Bool :=
  match s with
  | [d] => d.isDigit
  | [t, d] => decide ('0' ≤ t) && decide (t ≤ '5') && d.isDigit
  | _ => false

/-- the parts between colons -/
def colonParts (s : List Char) : List (List Char) := s.splitOn ':'

/-- a numeral followed by parts in base sixty, at least one -/
def isSexagesimal (s : List Char) : Bool :=
  match colonParts s with
  | first :: second :: rest => isNumeral first && (second :: rest).all isSixtieth
  | _ => false

def isIntegerForm (s : List Char) : Bool :=
  match dropSign s with
  | '0' :: 'b' :: c :: r => (c :: r).all fun c => c = '0' || c = '1' || c = '_'
  | '0' :: 'x' :: c :: r => (c :: r).all fun c => CharClass.isHexDigit c || c = '_'
  | '0' :: r => r.all fun c => (decide ('0' ≤ c) && decide (c ≤ '7')) || c = '_'
  | s => isNumeral s || isSexagesimal s

/-- an exponent with its sign, or nothing -/
def isExponentForm : List Char → Bool
  | [] => true
  | m :: sign :: r =>
    (m = 'e' || m = 'E') && (sign = '+' || sign = '-') && !r.isEmpty && r.all Char.isDigit
  | _ => false

def isRealForm (s : List Char) : Bool :=
  let isRest (r : List Char) : Bool :=
    isExponentForm (r.dropWhile fun c => c.isDigit || c = '_')
  let unsigned := dropSign s
  let front := unsigned.takeWhile (· ≠ '.')
  match unsigned.dropWhile (· ≠ '.') with
  | '.' :: r =>
    (isNumeral front && isRest r) || (isSexagesimal front && isGrouped r) ||
    (front.isEmpty && ["inf", "Inf", "INF"].contains (String.ofList r)) ||
    (front.isEmpty && unsigned = s &&
      ((isNumeral r && isRest r) || ["nan", "NaN", "NAN"].contains (String.ofList r)))
  | _ => false

/-- a day alone has two digits for month and day -/
def isTimestampForm (s : List Char) : Bool :=
  match Timestamp.ofChars? s with
  | some t => t.time.isSome || t.isPadded
  | none => false

/-- text without the line feed that may end it -/
def dropFinalBreak (s : List Char) : List Char :=
  if s.getLast? = some '\n' then s.dropLast else s

/-- the kind of plain text; marks that no plain text starts with have none -/
def ofText (text : String) : Option Kind :=
  let s := dropFinalBreak text.toList
  if text.isEmpty || isNullWord s then some .null
  else if isTruthWord s then some .truth
  else if isRealForm s then some .real
  else if isIntegerForm s then some .integer
  else if s = ['<', '<'] then some .merge
  else if isTimestampForm s then some .timestamp
  else if s = ['='] then some .default
  else if s = ['!'] || s = ['&'] || s = ['*'] then none
  else some .text

end Kind

namespace Node

/-- a tag that leaves the kind to the form -/
def isOpenTag (tag : Option String) : Bool := tag = none || tag = some "!"

/-- the kind of a node, if its tag stands for one -/
def kind? : Node → Option Kind
  | .scalar none text plain => if plain then Kind.ofText text else some .text
  | .scalar (some tag) text _ => if tag = "!" then Kind.ofText text else Kind.ofTag tag
  | .sequence tag _ => if isOpenTag tag then some .list else Kind.ofTag (tag.getD "")
  | .mapping tag _ => if isOpenTag tag then some .mapping else Kind.ofTag (tag.getD "")

end Node

/-! ## merging

A merge key is replaced by the entries of the mapping that it names, or of several, the last first.
They stand before the mapping's own entries.  A default key becomes text on the way.
-/

namespace Graph

/-- the place of the first merge key, with what it names -/
def firstMerge? (g : Graph) (id : NodeId) : Option (Nat × NodeId) :=
  ((g.entries id).zipIdx.find? fun e => (g.node e.1.1).kind? = some .merge).map fun e =>
    (e.2, e.1.2)

/-- default keys become text -/
def nameDefaults (g : Graph) (id : NodeId) : Graph :=
  (g.entries id).foldl (fun g e =>
    if (g.node e.1).kind? = some .default then
      g.setIfInBounds e.1 ((g.node e.1).retag (standardStem ++ "str"))
    else g) g

/-- the entries that a merge key brings in, when `flatten` replaces the merge keys of a mapping -/
def brought (flatten : Graph → NodeId → Except Error Graph) (g : Graph) (source : NodeId) :
    Except Error (Graph × List (NodeId × NodeId)) :=
  match g.node source with
  | .mapping _ _ => one g source
  | .sequence _ ids => ids.foldlM (fun (g, later) id => do
      let (g, es) ← one g id
      return (g, es ++ later)) (g, [])
  | .scalar _ _ _ => .error .malformed
where
  one (g : Graph) (id : NodeId) : Except Error (Graph × List (NodeId × NodeId)) :=
    match g.node id with
    | .mapping _ _ => do
      let g ← flatten g id
      return (g, g.entries id)
    | _ => .error .malformed

/-- replaces merge keys as long as there are any; each step takes one away -/
def flattenWithin : Nat → Graph → NodeId → Except Error Graph
  | 0, g, _ => .ok g
  | n + 1, g, id =>
    match g.firstMerge? id with
    | none => .ok (g.nameDefaults id)
    | some (i, source) => do
      let g := g.setEntries id ((g.entries id).eraseIdx i)
      let (g, es) ← brought (flattenWithin n) g source
      let g ← flattenWithin n g id
      return g.setEntries id (es ++ g.entries id)

/-- a mapping without merge keys -/
def flatten (g : Graph) (id : NodeId) : Except Error Graph :=
  flattenWithin (g.entryCount + 1) g id

end Graph

end BankSwitch.Yaml
