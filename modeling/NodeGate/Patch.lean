import NodeGate.Object

/-!
# Patches

What the gate sends to the API server to bring a node to a wanted state. The taints are sent as a
whole and replace those of the node. Annotations are merged by the server, so only those that belong
to the gate are sent and all others stay as the cluster has them. `Patch.apply` is the server's
side.
-/

set_option autoImplicit false

namespace NodeGate

/-- A taint as it is sent: an empty value is left out. -/
structure TaintForm where
  key : String
  value : Option String
  effect : Effect
deriving DecidableEq, Repr

/-- Without taints the field is removed from the node; empty annotations are not sent. -/
structure Patch where
  taints : Option (List TaintForm)
  annotations : Dict String
deriving DecidableEq

def Taint.form (t : Taint) : TaintForm :=
  ⟨t.key, t.value.filter fun v => !v.isEmpty, t.effect⟩

/-- The patch that brings a node object to the taints and owned annotations of `n`. -/
def Node.toPatch (n : Node) : Patch where
  taints := if n.taints.isEmpty then none else some (n.taints.map Taint.form)
  annotations := n.annotations.filterKeys isOwned

namespace Patch

/-- The object that a sent taint becomes. -/
def taintObject (t : TaintForm) : TaintObject where
  key := .text t.key
  value := match t.value with
    | some v => .text v
    | none => .null
  effect := .text t.effect.text

/-- Is it the text `key`? -/
def isText (key : String) (v : Value) : Bool :=
  match Check.text v with
  | .ok s => s == key
  | .error _ => false

/-- Writes text at the key: in its place if it is there, at the end otherwise. -/
def writeEntry (key value : String) (es : List (Value × Value)) : List (Value × Value) :=
  if es.any fun e => isText key e.1 then
    es.map fun e => if isText key e.1 then (e.1, .text value) else e
  else es ++ [(.text key, .text value)]

/-- The entries of a mapping. What is no mapping has none. -/
def entriesOf : Value → List (Value × Value)
  | .map es => es
  | _ => []

/-- Writes the entries into a mapping, key by key. -/
def mergeInto (v : Value) (d : Dict String) : Value :=
  .map (d.entries.foldl (fun es e => writeEntry e.1 e.2 es) (entriesOf v))

/-- What the API server makes of a node: the taints replaced, the annotations merged key by key. -/
def apply (p : Patch) (o : NodeObject) : NodeObject where
  name := o.name
  labels := o.labels
  annotations :=
    if p.annotations.isEmpty then o.annotations else mergeInto o.annotations p.annotations
  spec := some ⟨p.taints.map fun ts => ts.map taintObject⟩

end Patch

end NodeGate
