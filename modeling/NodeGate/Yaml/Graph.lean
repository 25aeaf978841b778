import NodeGate.Yaml.Tag
import NodeGate.Yaml.Token

/-!
# Documents as graphs

The nodes of a document make a graph: an alias stands for the node that has its anchor, so a node
can be part of several others, and even of itself. A `Graph` numbers its nodes. `Graph.ofSource` reads
the one document of a text.
-/

set_option autoImplicit false

namespace NodeGate.Yaml

/-! ## Graphs -/

/-- A node. Parts are given by their numbers. -/
inductive GraphNode
  | scalar (tag : Tag) (text : RawText)
  | sequence (tag : Tag) (items : List Nat)
  | mapping (tag : Tag) (entries : List (Nat × Nat))

instance : Inhabited GraphNode := ⟨.scalar .null .empty⟩

def GraphNode.tag : GraphNode → Tag
  | scalar tag _ | sequence tag _ | mapping tag _ => tag

structure Graph where
  nodes : Array GraphNode
  root : Nat

/-! ## Reading -/

/-- A graph under construction: the tokens that are left, the nodes so far, how many collections are
open, and what the anchors and the handles of tags stand for. -/
structure Draft where
  tokens : List Token
  nodes : Array GraphNode
  depth : Nat
  anchors : List (String × Nat)
  handles : List (String × String)

abbrev Drafting := StateT Draft (Except Fault)

namespace Drafting

def refuse {α : Type} : Drafting α := throw .malformed

/-- The next token. -/
def peek : Drafting Token := do
  match (← get).tokens with
  | .stop f :: _ => throw f
  | t :: _ => return t
  | [] => refuse

def advance : Drafting Unit := modify fun d => { d with tokens := d.tokens.tail }

/-- Takes the token, if it is the next. -/
def accept (t : Token) : Drafting Bool := do
  if (← peek) = t then
    advance
    return true
  return false

def expect (t : Token) : Drafting Unit := do
  if !(← accept t) then refuse

/-- Is the next token one of these? -/
def isNext (ts : List Token) : Drafting Bool := return ts.contains (← peek)

/-- Adds a node. Its anchor must be new. -/
def add (anchor : Option String) (n : GraphNode) : Drafting Nat := do
  let d ← get
  let id := d.nodes.size
  let anchors ← match anchor with
    | none => pure d.anchors
    | some name =>
      if (d.anchors.lookup name).isSome then refuse else pure ((name, id) :: d.anchors)
  set { d with nodes := d.nodes.push n, anchors }
  return id

/-- Gives a node its parts, which may refer back to it. -/
def fill (id : Nat) (n : GraphNode) : Drafting Unit :=
  modify fun d => { d with nodes := d.nodes.set! id n }

/-- The most collections that may be open at a time. -/
def maxDepth : Nat := 486

/-- Reads a part of a collection. -/
def within {α : Type} (part : Drafting α) : Drafting α := do
  if maxDepth ≤ (← get).depth then throw .tooDeep
  modify fun d => { d with depth := d.depth + 1 }
  let a ← part
  modify fun d => { d with depth := d.depth - 1 }
  return a

/-- The node that stands where nothing is written. -/
def absent : Drafting Nat := add none (.scalar .null .empty)

/-- A node unless one of the tokens comes, and then the absent one. -/
def absentIf (ts : List Token) (node : Drafting Nat) : Drafting Nat := do
  if ← isNext ts then absent else node

/-- What stands behind a colon, if there is one. -/
def valueOr (ts : List Token) (node : Drafting Nat) : Drafting Nat := do
  if ← accept .value then absentIf ts node else absent

/-- The text of a tag, with its handle replaced by what that stands for. -/
def tagText : TagForm → Drafting String
  | .verbatim text => return text
  | .short handle suffix => do
    match (← get).handles.lookup handle with
    | some stem => return stem ++ suffix
    | none => refuse

/-- Anchor and tag in front of a node, in either order. -/
def properties : Drafting (Option String × Option String) := do
  match ← peek with
  | .anchor name =>
    advance
    match ← peek with
    | .tag form =>
      advance
      return (some name, some (← tagText form))
    | _ => return (some name, none)
  | .tag form =>
    advance
    match ← peek with
    | .anchor name =>
      advance
      return (some name, some (← tagText form))
    | _ => return (none, some (← tagText form))
  | _ => return (none, none)

/-- The tag of a node: the written one, or else `implied`. The tag `!` counts as not written. -/
def tagOr (written : Option String) (implied : Tag) : Tag :=
  match written with
  | none => implied
  | some s => if s = "!" then implied else .ofText s

/-- The tag of a scalar. Between quotes it is text, but not behind the tag `!`. -/
def scalarTag (written : Option String) (plain : Bool) (t : RawText) : Tag :=
  tagOr written (if plain || written = some "!" then .ofPlain t.shownChars else .text)

/-! ### Nodes and collections

`lines` says whether a collection of lines may begin here, `sameIndent` whether the entries of a
sequence may stand without an indentation of their own, as they do under a key. -/

mutual

def node : Nat → Bool → Bool → Drafting Nat
  | 0, _, _ => refuse
  | fuel + 1, lines, sameIndent => do
    if let .alias name ← peek then
      advance
      match (← get).anchors.lookup name with
      | some id => return id
      | none => refuse
    let (anchor, tag) ← properties
    let sequence (items : Drafting (List Nat)) : Drafting Nat := do
      let tag := tagOr tag .sequence
      let id ← add anchor (.sequence tag [])
      fill id (.sequence tag (← within items))
      return id
    let mapping (entries : Drafting (List (Nat × Nat))) : Drafting Nat := do
      let tag := tagOr tag .mapping
      let id ← add anchor (.mapping tag [])
      fill id (.mapping tag (← within entries))
      return id
    match ← peek with
    | .scalar text plain =>
      advance
      add anchor (.scalar (scalarTag tag (plain && tag.isNone) text) text)
    | .flowSequenceStart => advance; sequence (flowItems fuel true)
    | .flowMappingStart => advance; mapping (flowEntries fuel true)
    | .blockEntry => if sameIndent then sequence (items fuel true) else blank anchor tag
    | .blockSequenceStart =>
      if lines then
        advance
        sequence (items fuel false)
      else blank anchor tag
    | .blockMappingStart =>
      if lines then
        advance
        mapping (entries fuel)
      else blank anchor tag
    | _ => blank anchor tag

/-- A node with an anchor or a tag and no content. -/
def blank (anchor tag : Option String) : Drafting Nat := do
  if anchor.isNone && tag.isNone then refuse
  add anchor (.scalar (scalarTag tag tag.isNone .empty) .empty)

/-- The items of a sequence of lines. -/
def items : Nat → Bool → Drafting (List Nat)
  | 0, _ => refuse
  | fuel + 1, sameIndent => do
    if ← accept .blockEntry then
      let ends := if sameIndent then [.blockEntry, .key, .value, .blockEnd]
        else [Token.blockEntry, .blockEnd]
      let item ← absentIf ends (node fuel true false)
      return item :: (← items fuel sameIndent)
    if !sameIndent then expect .blockEnd
    return []

/-- The entries of a mapping of lines. -/
def entries : Nat → Drafting (List (Nat × Nat))
  | 0 => refuse
  | fuel + 1 => do
    if ← accept .key then
      let k ← absentIf [.key, .value, .blockEnd] (node fuel true true)
      let v ← valueOr [.key, .value, .blockEnd] (node fuel true true)
      return (k, v) :: (← entries fuel)
    expect .blockEnd
    return []

/-- The items of a sequence in brackets. An item may be a single entry, which is a mapping then. -/
def flowItems : Nat → Bool → Drafting (List Nat)
  | 0, _ => refuse
  | fuel + 1, first => do
    if ← accept .flowSequenceEnd then return []
    if !first then expect .flowEntry
    if ← isNext [.key] then
      let id ← add none (.mapping .mapping [])
      advance
      let k ← within (absentIf [.value, .flowEntry, .flowSequenceEnd] (node fuel false false))
      let v ← within (valueOr [.flowEntry, .flowSequenceEnd] (node fuel false false))
      fill id (.mapping .mapping [(k, v)])
      return id :: (← flowItems fuel false)
    if ← accept .flowSequenceEnd then return []
    let item ← node fuel false false
    return item :: (← flowItems fuel false)

/-- The entries of a mapping in brackets. One without a colon has no value. -/
def flowEntries : Nat → Bool → Drafting (List (Nat × Nat))
  | 0, _ => refuse
  | fuel + 1, first => do
    if ← accept .flowMappingEnd then return []
    if !first then expect .flowEntry
    if ← accept .key then
      let k ← absentIf [.value, .flowEntry, .flowMappingEnd] (node fuel false false)
      let v ← valueOr [.flowEntry, .flowMappingEnd] (node fuel false false)
      return (k, v) :: (← flowEntries fuel false)
    if ← accept .flowMappingEnd then return []
    let k ← node fuel false false
    let v ← absent
    return (k, v) :: (← flowEntries fuel false)

end

/-! ### Documents -/

/-- Reads directives: at most one version, which has to be 1, and each handle once. -/
def directives (versioned : Bool) (handles : List (String × String)) :
    List Token → Except Fault (List (String × String))
  | .directive (.version major) :: rest =>
    if versioned || major != 1 then .error .malformed else directives true handles rest
  | .directive (.handle name stem) :: rest =>
    if (handles.lookup name).isSome then .error .malformed
    else directives versioned ((name, stem) :: handles) rest
  | .directive .other :: rest => directives versioned handles rest
  | _ => .ok handles

def isDirective : Token → Bool
  | .directive _ => true
  | _ => false

/-- The handles that need no directive. -/
def usualHandles : List (String × String) := [("!", "!"), ("!!", Tag.stem)]

/-- A document that begins with directives or the mark of its start. -/
def markedDocument (fuel : Nat) : Drafting Nat := do
  let handles ← directives false [] (← get).tokens
  modify fun d => { d with
    tokens := d.tokens.dropWhile isDirective, handles := handles ++ usualHandles }
  expect .documentStart
  if isDirective (← peek) then absent
  else absentIf [.documentStart, .documentEnd, .textEnd] (node fuel true false)

/-- The one document; a text may also have none. -/
def document (fuel : Nat) : Drafting (Option Nat) := do
  let t ← peek
  if t = .textEnd then return none
  let id ← if isDirective t || t = .documentStart then markedDocument fuel
    else node fuel true false
  discard (accept .documentEnd)
  modify fun d => { d with tokens := d.tokens.dropWhile (· = .documentEnd) }
  expect .textEnd
  return some id

end Drafting

/-- The graph of the document in a text; a text without one gives nothing. Each step of reading
takes a token or goes into a part, so a few steps for each token are enough. -/
def Graph.ofSource (src : Source) : Except Fault (Option Graph) := do
  let tokens := Token.ofSource src
  let start : Draft := ⟨tokens, #[], 0, [], Drafting.usualHandles⟩
  let (root, d) ← (Drafting.document (4 * tokens.length + 4)).run start
  return root.map fun root => ⟨d.nodes, root⟩

end NodeGate.Yaml
