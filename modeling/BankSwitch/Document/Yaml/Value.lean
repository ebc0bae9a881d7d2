import BankSwitch.Document.Yaml.Lexer
import BankSwitch.Document.Yaml.Kind
import BankSwitch.Document.Yaml.Scalar
import BankSwitch.Document.Yaml.Node

/-!
# YAML values

Reads YAML text as a document.  Values are made level by level: a scalar at once, a list or mapping
when everything nearer to the root has been made, so of two bad values the one nearer to the root is
found.  In a mapping a key that is bound twice keeps its first place and its last value.
-/

namespace BankSwitch.Yaml

/-- the text of a node; a mapping with a default key has that of its value -/
def Graph.textWithin (g : Graph) : Nat → NodeId → Option String
  | 0, _ => none
  | n + 1, id =>
    match g.node id with
    | .scalar _ s _ => some s
    | .sequence _ _ => none
    | .mapping _ es =>
      (es.find? fun e => (g.node e.1).kind? = some .default).bind fun e => g.textWithin n e.2

def Graph.text? (g : Graph) (id : NodeId) : Option String := g.textWithin (g.size + 1) id

/-- a value whose parts are known by the nodes they come from -/
inductive Value where
  | leaf (d : Document)
  | list (items : List NodeId)
  | mapping (entries : List (Document × NodeId))
  | set (members : List Document)
  /-- a list of single bindings -/
  | bindings (entries : List (NodeId × NodeId))

/-- an empty value of a kind that holds others -/
def Value.empty? : Kind → Option Value
  | .list => some (.list [])
  | .mapping => some (.mapping [])
  | .set => some (.set [])
  | .bindings => some (.bindings [])
  | _ => none

structure Values where
  graph : Graph
  /-- the value of each node, if it has been begun -/
  known : Array (Option Value)
  /-- the nodes whose values are begun and still empty, in order -/
  waiting : List NodeId

namespace Values

def ofGraph (g : Graph) : Values := ⟨g, Array.replicate g.size none, []⟩

def get? (vs : Values) (id : NodeId) : Option Value := (vs.known[id]?).join

def put (vs : Values) (id : NodeId) (v : Value) : Values :=
  { vs with known := vs.known.setIfInBounds id (some v) }

/-! ## making values -/

/-- the value of a node that holds no others -/
def leafValue (g : Graph) (id : NodeId) (k : Kind) : Except Error Document :=
  match g.text? id, g.node id, k with
  | none, _, _ => .error .malformed
  | some _, .mapping _ _, .timestamp => .error .mappingForDate
  | some s, _, k => scalarValue k s

/-- begins the value of a node, once -/
def start (vs : Values) (id : NodeId) : Except Error Values :=
  match vs.get? id, (vs.graph.node id).kind? with
  | some _, _ => .ok vs
  | none, none => .error .malformed
  | none, some k =>
    match Value.empty? k with
    | some v => .ok { vs.put id v with waiting := vs.waiting ++ [id] }
    | none => do
      let d ← leafValue vs.graph id k
      return vs.put id (.leaf d)

/-- begins keys and values; a node that holds others is no key -/
def startEntries (vs : Values) :
    List (NodeId × NodeId) → Except Error (Values × List (Document × NodeId))
  | [] => .ok (vs, [])
  | (k, v) :: es => do
    let vs ← vs.start k
    match vs.get? k with
    | some (.leaf key) => do
      let vs ← vs.start v
      let (vs, rest) ← vs.startEntries es
      return (vs, (key, v) :: rest)
    | _ => .error .malformed

/-- begins what a mapping holds, once merge keys are replaced -/
def startMapping (vs : Values) (id : NodeId) :
    Except Error (Values × List (Document × NodeId)) :=
  match vs.graph.node id with
  | .mapping _ _ => do
    let g ← vs.graph.flatten id
    { vs with graph := g }.startEntries (g.entries id)
  | _ => .error .malformed

/-- begins what single bindings hold, one mapping with one entry each -/
def startBindings (vs : Values) : List NodeId → Except Error (Values × List (NodeId × NodeId))
  | [] => .ok (vs, [])
  | id :: ids =>
    match vs.graph.node id with
    | .mapping _ [(k, v)] => do
      let vs ← (← vs.start k).start v
      let (vs, rest) ← vs.startBindings ids
      return (vs, (k, v) :: rest)
    | _ => .error .malformed

/-- fills a value that is waiting -/
def fill (vs : Values) (id : NodeId) : Except Error Values :=
  match vs.get? id, vs.graph.node id with
  | some (.list _), .sequence _ items => do
    let vs ← items.foldlM start vs
    return vs.put id (.list items)
  | some (.bindings _), .sequence _ items => do
    let (vs, es) ← vs.startBindings items
    return vs.put id (.bindings es)
  | some (.mapping _), _ => do
    let (vs, es) ← vs.startMapping id
    return vs.put id (.mapping es)
  | some (.set _), _ => do
    let (vs, es) ← vs.startMapping id
    return vs.put id (.set (es.map Prod.fst))
  | _, _ => .error .malformed

/-- fills values in the order in which they were begun, `n` of them at most -/
def fillAll : Nat → Values → Except Error Values
  | 0, vs => .ok vs
  | n + 1, vs =>
    match vs.waiting with
    | [] => .ok vs
    | id :: rest => do
      let vs ← { vs with waiting := rest }.fill id
      fillAll n vs

/-- all values that the value of the root holds; each node is filled once at most -/
def ofRoot (g : Graph) (root : NodeId) : Except Error Values := do
  let vs ← (ofGraph g).start root
  fillAll g.size vs

/-! ## values as documents -/

/-- bindings in turn -/
def bindAll (es : List (Document × Document)) : List (Document × Document) :=
  es.foldl (fun bound e => Document.bind bound e.1 e.2) []

def setDocument (members : List Document) : Document :=
  let bound := bindAll (members.map fun d => (d, .null))
  let s := if bound.isEmpty then "set()"
    else "\x7b" ++ ", ".intercalate (bound.map fun e => e.1.shown) ++ "\x7d"
  .other s s

def pairDocument (k v : Document) : Document :=
  let s := "(" ++ k.shown ++ ", " ++ v.shown ++ ")"
  .other s s

/-- a value that stands inside of itself -/
def insideItself : Value → Document
  | .mapping _ => .other "\x7b...\x7d" "\x7b...\x7d"
  | _ => .other "[...]" "[...]"

/-- the document of a value that stands inside of the values at `path`; values whose nodes differ
stand at most `n` deep in one another -/
def documentWithin (vs : Values) : Nat → List NodeId → NodeId → Document
  | 0, _, _ => .null
  | n + 1, path, id =>
    let part := vs.documentWithin n (id :: path)
    match vs.get? id with
    | none => .null
    | some (.leaf d) => d
    | some (.set members) => setDocument members
    | some v =>
      if path.contains id then insideItself v
      else match v with
        | .list items => .list (items.map part)
        | .mapping es => .mapping (bindAll (es.map fun e => (e.1, part e.2)))
        | .bindings es => .list (es.map fun e => pairDocument (part e.1) (part e.2))
        | _ => .null

/-- the document of a value that stands for itself -/
def document (vs : Values) (id : NodeId) : Document := vs.documentWithin (vs.known.size + 1) [] id

/-- the document of the root; what it binds stands for itself -/
def rootDocument (vs : Values) (root : NodeId) : Document :=
  match vs.get? root with
  | some (.mapping es) => .mapping (bindAll (es.map fun e => (e.1, vs.document e.2)))
  | _ => vs.document root

end Values

/-- the document that a text holds, if it holds one -/
def read (text : String) : Except Error (Option Document) := do
  match ← onlyDocument (tokens text) with
  | none => return none
  | some (root, g) =>
    let vs ← Values.ofRoot g root
    return some (vs.rootDocument root)

end BankSwitch.Yaml
