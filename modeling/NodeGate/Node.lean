import NodeGate.Taint

/-!
# Nodes

The parts of a cluster node that the gate reads and writes: its labels, its taints in order and its
annotations.
-/

set_option autoImplicit false

namespace NodeGate

structure Node where
  name : String
  labels : Dict String
  taints : List Taint
  annotations : Dict String
deriving DecidableEq

namespace Node

/-- The taints that belong to the gate, in node order. -/
def ownedTaints (n : Node) : List Taint := n.taints.filter Taint.owned

def check : Value → Checked Node
  | .map es =>
    let name := Check.required "name" Check.text es
    let labels := Check.optional "labels" Dict.empty (Check.dict Check.text) es
    let taints := Check.optional "taints" [] (Check.list Taint.check) es
    let annotations := Check.optional "annotations" Dict.empty (Check.dict Check.text) es
    (Checked.both name (Checked.both labels (Checked.both taints annotations))).map
      fun (name, labels, taints, annotations) => ⟨name, labels, taints, annotations⟩
  | _ => Checked.fail (.notRecord "NodeSnapshot")

end Node

end NodeGate
