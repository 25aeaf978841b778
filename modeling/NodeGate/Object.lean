import NodeGate.Node
import NodeGate.Pod

/-!
# API objects

Nodes and pods as the API server gives them. Any field may be absent or hold anything, so fields are
untyped data and parts are optional; `Node.ofObject` and `Pod.ofObject` check them. Absent maps and
lists come out empty, and so does a taint value that is blank.
-/

set_option autoImplicit false

namespace NodeGate

/-! ## Nodes -/

structure TaintObject where
  key : Value
  value : Value
  effect : Value

structure NodeSpec where
  taints : Option (List TaintObject)

structure NodeObject where
  name : Value
  labels : Value
  annotations : Value
  spec : Option NodeSpec

/-- `v`, or `default` if `v` is blank. -/
def Value.orElse (v default : Value) : Value := if v.isBlank then default else v

namespace Taint

/-- The data of a taint object. -/
def dataOf (o : TaintObject) : Value :=
  .map [(.text "key", o.key), (.text "value", o.value.orElse .null), (.text "effect", o.effect)]

def ofObject (o : TaintObject) : Except Invalid Taint := (check (dataOf o)).named "Taint"

end Taint

namespace NodeObject

/-- The taint objects of a node, however their absence is written. -/
def taintObjects (o : NodeObject) : List TaintObject :=
  match o.spec with
  | some ⟨some ts⟩ => ts
  | _ => []

/-- The data of a node object without its taints. -/
def data (o : NodeObject) : Value :=
  .map [(.text "name", o.name), (.text "labels", o.labels.orElse (.map [])),
    (.text "annotations", o.annotations.orElse (.map []))]

end NodeObject

namespace Node

/-- The taints are converted one by one before the node is looked at, so a bad taint is reported as
a taint. -/
def ofObject (o : NodeObject) : Except Invalid Node := do
  let taints ← o.taintObjects.mapM Taint.ofObject
  let node ← (check o.data).named "NodeSnapshot"
  return { node with taints }

end Node

/-! ## Pods -/

structure PodSpec where
  node : Value

/-- `containers` are the ready marks of the container statuses. -/
structure PodStatus where
  containers : Option (List Value)

/-- `owners` are the names of the owner references. -/
structure PodObject where
  name : Value
  ns : Value
  owners : Option (List Value)
  spec : Option PodSpec
  status : Option PodStatus

namespace PodObject

/-- The node that the pod is bound to, however its absence is written. -/
def node (o : PodObject) : Value :=
  match o.spec with
  | some spec => spec.node
  | none => .null

/-- The ready marks of the containers, however their absence is written. -/
def marks (o : PodObject) : List Value :=
  match o.status with
  | some ⟨some vs⟩ => vs
  | _ => []

end PodObject

namespace Pod

/-- The data of a pod object. A container is ready if its mark is anything but blank. -/
def dataOf (o : PodObject) : Value :=
  .map [(.text "name", o.name), (.text "namespace", o.ns), (.text "node_name", o.node),
    (.text "owner_names", .list (o.owners.getD [])),
    (.text "container_ready", .list (o.marks.map fun v => .bool (!v.isBlank)))]

def ofObject (o : PodObject) : Except Invalid Pod := (check (dataOf o)).named "PodSnapshot"

end Pod

end NodeGate
