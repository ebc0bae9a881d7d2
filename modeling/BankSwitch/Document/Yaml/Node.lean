import BankSwitch.Document.Yaml.Graph
import BankSwitch.Document.Yaml.Token
import BankSwitch.Reading

/-!
# Reading nodes

The graph that the tokens of a document stand for.  A node may be left out almost everywhere; it is
then empty plain text.  Of several errors the one that stands first in the text is found.
-/

namespace BankSwitch.Yaml

/-- what each tag handle stands for -/
abbrev Handles := List (String × String)

/-- the stem of the tags that every document knows -/
def standardStem : String := "tag:yaml.org,2002:"

def Handles.standard : Handles := [("!", "!"), ("!!", standardStem)]

/-- the tag in full; its handle must stand for something -/
def Handles.resolve (hs : Handles) (t : Tag) : Except Error String :=
  match t.handle with
  | none => .ok t.suffix
  | some h =>
    match hs.find? fun e => e.1 = h with
    | some e => .ok (e.2 ++ t.suffix)
    | none => .error .malformed

/-- why no reader goes on here -/
def refusal : List Token → Error
  | .fault e :: _ => e
  | _ => .malformed

/-- anchor and tag, in either order, and what follows them -/
def takeProperties (hs : Handles) : (s : List Token) → Except Error (Trailing Properties s)
  | .anchor a :: .tag t :: r => do
    let tag ← hs.resolve t
    return ⟨⟨some a, some tag⟩, r, by simp only [List.length_cons]; omega⟩
  | .tag t :: .anchor a :: r => do
    let tag ← hs.resolve t
    return ⟨⟨some a, some tag⟩, r, by simp only [List.length_cons]; omega⟩
  | .tag _ :: .fault e :: _ => .error e
  | .anchor a :: r => .ok ⟨⟨some a, none⟩, r, by simp only [List.length_cons]; omega⟩
  | .tag t :: r => do
    let tag ← hs.resolve t
    return ⟨⟨none, some tag⟩, r, by simp only [List.length_cons]; omega⟩
  | s => .ok (.nothing .none s)

/-- the next token is one of these -/
def startsWith (ts : List Token) : List Token → Bool
  | [] => false
  | t :: _ => ts.contains t

/-- a node without content, which must have properties -/
def emptyNode {s : List Token} (ns : Nodes) (p : Properties) (r : List Token) :
    Except Error (Reading (NodeId × Nodes) s) :=
  match r with
  | .fault e :: _ => .error e
  | r =>
    if h : r.length < s.length then do
      let added ← ns.add p.anchor (.scalar p.tag "" true)
      return ⟨added, r, h⟩
    else .error .malformed

/-- the comma before every item but the first -/
def comma (first : Bool) (s : List Token) : Except Error (Trailing Unit s) :=
  if first then .ok (.nothing () s)
  else match s with
    | .flowEntry :: r => .ok (Reading.front .flowEntry r ()).trailing
    | s => .error (refusal s)

mutual
/-- a node; `block` where block collections may stand, `loose` where a sequence need not be indented
more deeply than the mapping around it -/
def node (hs : Handles) (block loose : Bool) (ns : Nodes) (s : List Token) :
    Except Error (Reading (NodeId × Nodes) s) :=
  match s with
  | .alias name :: r => do
    let id ← ns.find name
    return .front (.alias name) r (id, ns)
  | s =>
    match takeProperties hs s with
    | .error e => .error e
    | .ok ⟨p, r, h⟩ =>
      match r, h with
      | .scalar text plain :: t, h => do
        let added ← ns.add p.anchor (.scalar p.tag text plain)
        return ⟨added, t, by grind⟩
      | .flowSequenceStart :: t, h => do
        let (id, ns) ← ns.add p.anchor (.sequence p.tag [])
        let ⟨(items, ns), u, h'⟩ ← flowItems hs true ns t
        return ⟨(id, ns.complete id (.sequence p.tag items)), u, by grind⟩
      | .flowMappingStart :: t, h => do
        let (id, ns) ← ns.add p.anchor (.mapping p.tag [])
        let ⟨(entries, ns), u, h'⟩ ← flowEntries hs true ns t
        return ⟨(id, ns.complete id (.mapping p.tag entries)), u, by grind⟩
      | .blockSequenceStart :: t, h =>
        if block then do
          let (id, ns) ← ns.add p.anchor (.sequence p.tag [])
          let ⟨(items, ns), u, h'⟩ ← blockItems hs ns t
          return ⟨(id, ns.complete id (.sequence p.tag items)), u, by grind⟩
        else emptyNode ns p (.blockSequenceStart :: t)
      | .blockMappingStart :: t, h =>
        if block then do
          let (id, ns) ← ns.add p.anchor (.mapping p.tag [])
          let ⟨(entries, ns), u, h'⟩ ← blockEntries hs ns t
          return ⟨(id, ns.complete id (.mapping p.tag entries)), u, by grind⟩
        else emptyNode ns p (.blockMappingStart :: t)
      | .blockEntry :: t, h =>
        if loose then do
          let (id, ns) ← ns.add p.anchor (.sequence p.tag [])
          let ⟨(item, ns), u, h'⟩ ← looseItem hs ns t
          let ⟨(items, ns), v, h''⟩ ← looseItems hs ns u
          return ⟨(id, ns.complete id (.sequence p.tag (item :: items))), v, by grind⟩
        else emptyNode ns p (.blockEntry :: t)
      | r, _ => emptyNode ns p r
termination_by 5 * s.length + 1
decreasing_by all_goals grind

/-- the items of a block sequence up to its end -/
def blockItems (hs : Handles) (ns : Nodes) (s : List Token) :
    Except Error (Reading (List NodeId × Nodes) s) :=
  match s with
  | .blockEnd :: r => .ok (.front .blockEnd r ([], ns))
  | .blockEntry :: r =>
    if startsWith [.blockEntry, .blockEnd] r then do
      let (id, ns) := ns.addEmpty
      let ⟨(items, ns), t, h⟩ ← blockItems hs ns r
      return ⟨(id :: items, ns), t, by grind⟩
    else do
      let ⟨(item, ns), t, h⟩ ← node hs true false ns r
      let ⟨(items, ns), u, h'⟩ ← blockItems hs ns t
      return ⟨(item :: items, ns), u, by grind⟩
  | s => .error (refusal s)
termination_by 5 * s.length
decreasing_by all_goals grind

/-- an item of a sequence that is not indented, behind its dash -/
def looseItem (hs : Handles) (ns : Nodes) (s : List Token) :
    Except Error (Trailing (NodeId × Nodes) s) :=
  if startsWith [.blockEntry, .key, .value, .blockEnd] s then .ok (.nothing ns.addEmpty s)
  else do
    let r ← node hs true false ns s
    return r.trailing
termination_by 5 * s.length + 2
decreasing_by all_goals grind

/-- further items of a sequence that is not indented -/
def looseItems (hs : Handles) (ns : Nodes) (s : List Token) :
    Except Error (Trailing (List NodeId × Nodes) s) :=
  match s with
  | .fault e :: _ => .error e
  | .blockEntry :: r => do
    let ⟨(item, ns), t, h⟩ ← looseItem hs ns r
    let ⟨(items, ns), u, h'⟩ ← looseItems hs ns t
    return ⟨(item :: items, ns), u, by grind⟩
  | s => .ok (.nothing ([], ns) s)
termination_by 5 * s.length
decreasing_by all_goals grind

/-- a key or value of a block mapping, if one stands here -/
def blockPart (hs : Handles) (ns : Nodes) (s : List Token) :
    Except Error (Trailing (NodeId × Nodes) s) :=
  if startsWith [.key, .value, .blockEnd] s then .ok (.nothing ns.addEmpty s)
  else do
    let r ← node hs true true ns s
    return r.trailing
termination_by 5 * s.length + 2
decreasing_by all_goals grind

/-- the entries of a block mapping up to its end; a key may do without a value -/
def blockEntries (hs : Handles) (ns : Nodes) (s : List Token) :
    Except Error (Reading (List (NodeId × NodeId) × Nodes) s) :=
  match s with
  | .blockEnd :: r => .ok (.front .blockEnd r ([], ns))
  | .key :: r => do
    let ⟨(k, ns), t, h⟩ ← blockPart hs ns r
    match t, h with
    | .fault e :: _, _ => .error e
    | .value :: u, h => do
      let ⟨(v, ns), w, h'⟩ ← blockPart hs ns u
      let ⟨(entries, ns), y, h''⟩ ← blockEntries hs ns w
      return ⟨((k, v) :: entries, ns), y, by grind⟩
    | t, h => do
      let (v, ns) := ns.addEmpty
      let ⟨(entries, ns), y, h'⟩ ← blockEntries hs ns t
      return ⟨((k, v) :: entries, ns), y, by grind⟩
  | s => .error (refusal s)
termination_by 5 * s.length
decreasing_by all_goals grind

/-- a key or value in brackets, which `ends` leave out -/
def flowPart (hs : Handles) (ends : List Token) (ns : Nodes) (s : List Token) :
    Except Error (Trailing (NodeId × Nodes) s) :=
  if startsWith ends s then .ok (.nothing ns.addEmpty s)
  else do
    let r ← node hs false false ns s
    return r.trailing
termination_by 5 * s.length + 2
decreasing_by all_goals grind

/-- an entry in brackets behind its key mark -/
def flowEntry (hs : Handles) (close : Token) (ns : Nodes) (s : List Token) :
    Except Error (Trailing ((NodeId × NodeId) × Nodes) s) := do
  let ⟨(k, ns), t, h⟩ ← flowPart hs [.value, .flowEntry, close] ns s
  match t, h with
  | .fault e :: _, _ => .error e
  | .value :: u, h => do
    let ⟨(v, ns), w, h'⟩ ← flowPart hs [.flowEntry, close] ns u
    return ⟨((k, v), ns), w, by grind⟩
  | t, h =>
    let (v, ns) := ns.addEmpty
    return ⟨((k, v), ns), t, h⟩
termination_by 5 * s.length + 3
decreasing_by all_goals grind

/-- the items of a flow sequence up to its bracket; an entry stands for a mapping of its own -/
def flowItems (hs : Handles) (first : Bool) (ns : Nodes) (s : List Token) :
    Except Error (Reading (List NodeId × Nodes) s) :=
  match s with
  | .flowSequenceEnd :: r => .ok (.front .flowSequenceEnd r ([], ns))
  | s => do
    let ⟨_, r, h⟩ ← comma first s
    match r, h with
    | .flowSequenceEnd :: t, h => return ⟨([], ns), t, by grind⟩
    | .key :: t, h => do
      let ⟨(e, ns), u, h'⟩ ← flowEntry hs .flowSequenceEnd ns t
      let (id, ns) ← ns.add none (.mapping none [e])
      let ⟨(items, ns), v, h''⟩ ← flowItems hs false ns u
      return ⟨(id :: items, ns), v, by grind⟩
    | r, h => do
      let ⟨(item, ns), u, h'⟩ ← node hs false false ns r
      let ⟨(items, ns), v, h''⟩ ← flowItems hs false ns u
      return ⟨(item :: items, ns), v, by grind⟩
termination_by 5 * s.length + 4
decreasing_by all_goals grind

/-- the entries of a flow mapping up to its brace; a node without a key mark is a key alone -/
def flowEntries (hs : Handles) (first : Bool) (ns : Nodes) (s : List Token) :
    Except Error (Reading (List (NodeId × NodeId) × Nodes) s) :=
  match s with
  | .flowMappingEnd :: r => .ok (.front .flowMappingEnd r ([], ns))
  | s => do
    let ⟨_, r, h⟩ ← comma first s
    match r, h with
    | .flowMappingEnd :: t, h => return ⟨([], ns), t, by grind⟩
    | .key :: t, h => do
      let ⟨(e, ns), u, h'⟩ ← flowEntry hs .flowMappingEnd ns t
      let ⟨(entries, ns), v, h''⟩ ← flowEntries hs false ns u
      return ⟨(e :: entries, ns), v, by grind⟩
    | r, h => do
      let ⟨(k, ns), u, h'⟩ ← node hs false false ns r
      let (v, ns) := ns.addEmpty
      let ⟨(entries, ns), w, h''⟩ ← flowEntries hs false ns u
      return ⟨((k, v) :: entries, ns), w, by grind⟩
termination_by 5 * s.length + 4
decreasing_by all_goals grind

end

/-! ## one document

A settings text holds one document: directives and a start mark, or neither, a node that may be left
out behind the mark, and end marks.
-/

/-- the directives at the front, the version being the first if there may be one: the handles that
they define, and what follows -/
def takeDirectives (versionSeen : Bool) (hs : Handles) :
    List Token → Except Error (Handles × List Token)
  | .directive (.version major) :: r =>
    if versionSeen || major ≠ 1 then .error .malformed else takeDirectives true hs r
  | .directive (.handle name stem) :: r =>
    if hs.any fun e => e.1 = name then .error .malformed
    else takeDirectives versionSeen (hs ++ [(name, stem)]) r
  | .directive .unknown :: r => takeDirectives versionSeen hs r
  | r => .ok (hs, r)

/-- directives and the start mark behind them: the handles, and what follows -/
def takeStart (s : List Token) : Except Error (Handles × List Token) := do
  match ← takeDirectives false [] s with
  | (hs, .documentStart :: r) => return (hs, r)
  | (_, r) => .error (refusal r)

/-- the next token belongs to no document or to another one -/
def atDocumentBound : List Token → Bool
  | [] => true
  | .directive _ :: _ => true
  | .documentStart :: _ => true
  | .documentEnd :: _ => true
  | _ => false

/-- the root of the document at the front with all nodes, and what follows it -/
def documentNode (s : List Token) : Except Error ((NodeId × Nodes) × List Token) :=
  match s with
  | .directive _ :: _ | .documentStart :: _ => do
    let (hs, r) ← takeStart s
    if atDocumentBound r then return (Nodes.none.addEmpty, r)
    else
      let n ← node (hs ++ Handles.standard) true false .none r
      return (n.value, n.rest)
  | s => do
    let n ← node Handles.standard true false .none s
    return (n.value, n.rest)

/-- nothing but end marks may follow the document -/
def closeStream (s : List Token) : Except Error Unit :=
  match s.dropWhile (· = .documentEnd) with
  | [] => .ok ()
  | r => do
    let _ ← takeStart r
    .error .malformed

/-- the root of the only document with all nodes; a text of blanks and comments holds no document -/
def onlyDocument (s : List Token) : Except Error (Option (NodeId × Graph)) :=
  if s.isEmpty then .ok none
  else do
    let ((root, ns), r) ← documentNode s
    closeStream r
    return some (root, ns.graph)

end BankSwitch.Yaml
