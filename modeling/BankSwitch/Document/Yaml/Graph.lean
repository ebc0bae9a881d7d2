import BankSwitch.Document.Yaml.Token

/-!
# Node graphs

The nodes of a document, each under a number.  An alias is the number of the node that it names, and
it may stand inside of that node, so nodes can hold themselves.
-/

namespace BankSwitch.Yaml

abbrev NodeId := Nat

inductive Node where
  /-- text, and whether it stands there without quotes or a block header -/
  | scalar (tag : Option String) (text : String) (plain : Bool)
  | sequence (tag : Option String) (items : List NodeId)
  | mapping (tag : Option String) (entries : List (NodeId × NodeId))
  deriving DecidableEq

/-- the node that is left out -/
def Node.empty : Node := .scalar none "" true

/-- the same node under another tag -/
def Node.retag (tag : String) : Node → Node
  | .scalar _ text plain => .scalar (some tag) text plain
  | .sequence _ items => .sequence (some tag) items
  | .mapping _ entries => .mapping (some tag) entries

abbrev Graph := Array Node

namespace Graph

def node (g : Graph) (id : NodeId) : Node := (g[id]?).getD .empty

/-- what a mapping holds; other nodes hold no entries -/
def entries (g : Graph) (id : NodeId) : List (NodeId × NodeId) :=
  match g.node id with
  | .mapping _ es => es
  | _ => []

def setEntries (g : Graph) (id : NodeId) (es : List (NodeId × NodeId)) : Graph :=
  match g.node id with
  | .mapping tag _ => g.setIfInBounds id (.mapping tag es)
  | _ => g

/-- how many entries all mappings hold together -/
def entryCount (g : Graph) : Nat :=
  g.foldl (fun n node => match node with
    | .mapping _ es => n + es.length
    | _ => n) 0

end Graph

/-! ## nodes as they are read -/

/-- what may stand before the content of a node; the tag is given in full -/
structure Properties where
  anchor : Option String
  tag : Option String
  deriving DecidableEq

def Properties.none : Properties := ⟨Option.none, Option.none⟩

/-- the nodes read so far, and the names given to some of them -/
structure Nodes where
  graph : Graph
  anchors : List (String × NodeId)

namespace Nodes

def none : Nodes := ⟨#[], []⟩

/-- the node that a name was given to -/
def find (ns : Nodes) (name : String) : Except Error NodeId :=
  match ns.anchors.find? fun a => a.1 = name with
  | some a => .ok a.2
  | Option.none => .error .malformed

/-- one more node; a name is given once -/
def add (ns : Nodes) (anchor : Option String) (n : Node) : Except Error (NodeId × Nodes) :=
  let id := ns.graph.size
  match anchor with
  | Option.none => .ok (id, ⟨ns.graph.push n, ns.anchors⟩)
  | some name =>
    if ns.anchors.any fun a => a.1 = name then .error .malformed
    else .ok (id, ⟨ns.graph.push n, (name, id) :: ns.anchors⟩)

/-- one more node, left out -/
def addEmpty (ns : Nodes) : NodeId × Nodes :=
  (ns.graph.size, { ns with graph := ns.graph.push .empty })

/-- gives a node its content -/
def complete (ns : Nodes) (id : NodeId) (n : Node) : Nodes :=
  { ns with graph := ns.graph.setIfInBounds id n }

end Nodes

end BankSwitch.Yaml
