import NodeGate.Yaml.Graph

/-!
# What a document says

The value of a document is made from its graph, breadth first: a collection is there before its
parts are, so a node may contain itself. On the way everything is checked that can be wrong with a
graph: the values of scalars, keys that cannot be keys, and merges of what is no mapping. A merge
key `<<` stands for the entries of other mappings, over which the entries of its own mapping go.

Main function: `Document.load`.
-/

set_option autoImplicit false

namespace NodeGate

namespace Yaml

/-! ## Merges -/

abbrev Nodes := Array GraphNode

namespace Nodes

def node (nodes : Nodes) (id : Nat) : GraphNode := nodes.getD id default

def tag (nodes : Nodes) (id : Nat) : Tag := (nodes.node id).tag

/-- The entries of a mapping; of anything else, none. -/
def entries (nodes : Nodes) (id : Nat) : List (Nat × Nat) :=
  match nodes.node id with
  | .mapping _ es => es
  | _ => []

def setEntries (nodes : Nodes) (id : Nat) (es : List (Nat × Nat)) : Nodes :=
  nodes.set! id (.mapping (nodes.tag id) es)

/-- The node, now tagged as text. -/
def asText : GraphNode → GraphNode
  | .scalar _ t => .scalar .text t
  | .sequence _ items => .sequence .text items
  | .mapping _ es => .mapping .text es

/-- Resolves the merges of a mapping from its entry number `i` on; `merged` are the entries that
came from the merges before. They go in front, those of a list of mappings in reverse order, so that
of two with the same key the own one counts, else the one from the first mapping of a list. The key
`=` becomes text. Each step resolves a merge or passes an entry. -/
def merge : Nat → Nat → Nat → List (Nat × Nat) → Nodes → Except Fault Nodes
  | 0, _, _, _, _ => .error .malformed
  | fuel + 1, id, i, merged, nodes =>
    let es := nodes.entries id
    match es[i]? with
    | none => .ok (nodes.setEntries id (merged ++ es))
    | some (k, v) =>
      match nodes.tag k with
      | .merge => do
        let nodes := nodes.setEntries id (es.eraseIdx i)
        match nodes.node v with
        | .mapping .. =>
          let nodes ← merge fuel v 0 [] nodes
          merge fuel id i (merged ++ nodes.entries v) nodes
        | .sequence _ items =>
          let (nodes, more) ← items.foldlM (fun (nodes, more) item =>
            match nodes.node item with
            | .mapping .. => do
              let nodes ← merge fuel item 0 [] nodes
              return (nodes, nodes.entries item ++ more)
            | _ => throw .malformed) (nodes, ([] : List (Nat × Nat)))
          merge fuel id i (merged ++ more) nodes
        | .scalar .. => .error .malformed
      | .default => merge fuel id (i + 1) merged (nodes.set! k (asText (nodes.node k)))
      | _ => merge fuel id (i + 1) merged nodes

/-- How many mappings may stand for each other. -/
def maxChain : Nat := 970

/-- The text of a scalar. A mapping stands for the scalar at its key `=`. -/
def scalarText (nodes : Nodes) : Nat → Nat → Except Fault RawText
  | 0, _ => .error .tooDeep
  | fuel + 1, id =>
    match nodes.node id with
    | .scalar _ t => .ok t
    | .sequence .. => .error .malformed
    | .mapping _ es =>
      match es.find? fun e => nodes.tag e.1 = .default with
      | some (_, v) => nodes.scalarText fuel v
      | none => .error .malformed

/-- The value of a node that is no collection. A moment has to be a scalar itself. -/
def scalar (nodes : Nodes) (id : Nat) : Except Fault Value := do
  let tag := nodes.tag id
  if !tag.isScalar then throw .malformed
  let t ← nodes.scalarText maxChain id
  match tag, nodes.node id with
  | .moment, .mapping .. => throw (.scalar .notPlain)
  | _, _ => scalarValue tag t

/-- Does the node spell out what is no number? -/
def isNaN (nodes : Nodes) (id : Nat) : Bool :=
  nodes.tag id == .float &&
    match nodes.scalarText maxChain id with
    | .ok t => spellsNaN t.shownChars
    | .error _ => false

end Nodes

/-! ## Checking a graph -/

/-- How far a graph is checked: which nodes are made, and the collections among them in the order in
which they came, whose parts are made in turn. -/
structure Making where
  nodes : Nodes
  made : Array Bool
  queue : Array Nat

namespace Making

def start (nodes : Nodes) : Making := ⟨nodes, Array.replicate nodes.size false, #[]⟩

/-- Makes a node: a scalar has to have a value, a collection waits for its parts. -/
def visit (m : Making) (id : Nat) : Except Fault Making := do
  if m.made.getD id false then return m
  let m := { m with made := m.made.setIfInBounds id true }
  if (m.nodes.tag id).isCollection then return { m with queue := m.queue.push id }
  let _ ← m.nodes.scalar id
  return m

/-- Makes a key and its value. -/
def visitEntry (m : Making) (e : Nat × Nat) : Except Fault Making := do
  let m ← m.visit e.1
  if (m.nodes.tag e.1).isCollection then throw .malformed
  m.visit e.2

/-- The most steps that the merges of a mapping are followed. -/
def mergeSteps (m : Making) : Nat := Nat.pow (m.nodes.size + 2) 3

/-- Makes the parts of a collection, which has to be written in the form that its tag asks for. -/
def expand (m : Making) (id : Nat) : Except Fault Making := do
  match m.nodes.tag id, m.nodes.node id with
  | .sequence, .sequence _ items => items.foldlM visit m
  | .mapping, .mapping .. | .set, .mapping .. =>
    let nodes ← m.nodes.merge m.mergeSteps id 0 []
    (nodes.entries id).foldlM visitEntry { m with nodes }
  | .orderedMap, .sequence _ items | .pairs, .sequence _ items =>
    items.foldlM (fun m item =>
      match m.nodes.node item with
      | .mapping _ [(k, v)] => do (← m.visit k).visit v
      | _ => throw .malformed) m
  | _, _ => throw .malformed

/-- Makes the parts of the collections from number `i` on. No collection waits twice. -/
def run : Nat → Nat → Making → Except Fault Making
  | 0, _, m => .ok m
  | fuel + 1, i, m =>
    match m.queue[i]? with
    | none => .ok m
    | some id => do run fuel (i + 1) (← m.expand id)

end Making

/-! ## Values -/

namespace Nodes

/-- Are the two nodes, with these values, one key? Besides equal values only a node and itself are,
and nodes that spell out what is no number. -/
def sameKey (nodes : Nodes) (a b : Nat × Value) : Bool :=
  a.1 == b.1 || a.2.sameKey b.2 || (nodes.isNaN a.1 && nodes.isNaN b.1)

/-- The entries with one more. A key that is there keeps its place and its form and takes the new
value. -/
def putEntry (nodes : Nodes) (key : Nat × Value) (value : Value) :
    List ((Nat × Value) × Value) → List ((Nat × Value) × Value)
  | [] => [(key, value)]
  | (k, v) :: rest =>
    if nodes.sameKey k key then (k, value) :: rest else (k, v) :: nodes.putEntry key value rest

/-- The entries of a mapping without repetitions. `part` gives the values of the nodes in it. -/
def distinctEntries (nodes : Nodes) (part : Nat → Value) (es : List (Nat × Nat)) :
    List (Value × Value) :=
  let put es (e : Nat × Nat) := nodes.putEntry (e.1, part e.1) (part e.2) es
  (es.foldl put []).map fun (k, v) => (k.2, v)

/-- The value of a node, if `part` gives the values of its parts. -/
def valueOf (nodes : Nodes) (part : Nat → Value) (id : Nat) : Value :=
  match nodes.node id, nodes.tag id with
  | .mapping _ es, .mapping => .map (nodes.distinctEntries part es)
  | .mapping _ es, .set => .set ((nodes.distinctEntries part es).map Prod.fst)
  | .sequence _ items, .sequence => .list (items.map part)
  | .sequence _ items, .orderedMap | .sequence _ items, .pairs =>
    .list (items.map fun item =>
      .list ((nodes.entries item).flatMap fun e => [part e.1, part e.2]))
  | _, _ =>
    match nodes.scalar id with
    | .ok v => v
    | .error _ => .null

/-- The values of all nodes, down to a depth; what lies deeper is left out. -/
def values (nodes : Nodes) : Nat → Array Value
  | 0 => #[]
  | depth + 1 =>
    let below := nodes.values depth
    (Array.range nodes.size).map (nodes.valueOf fun id => below.getD id .null)

end Nodes

/-- The value of the one document in a text, down to a depth. A text without a document stands for
nothing. -/
def Document.load (depth : Nat) (src : Source) : Except Fault Value := do
  match ← Graph.ofSource src with
  | none => return .null
  | some g =>
    let m ← (Making.start g.nodes).visit g.root
    let m ← m.run (g.nodes.size + 1) 0
    return (m.nodes.values depth).getD g.root .null

end Yaml

end NodeGate
