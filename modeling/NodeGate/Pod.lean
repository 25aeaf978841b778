import NodeGate.Check

/-!
# Pods

A pod reduced to what readiness needs: its owners, the node it is bound to and whether its
containers are ready.
-/

set_option autoImplicit false

namespace NodeGate

/-- A pod. `node` is absent until the pod is scheduled. -/
structure Pod where
  name : String
  ns : String
  node : Option String
  owners : List String
  containers : List Bool
deriving DecidableEq, Repr

namespace Pod

/-- Every container is ready. A pod that reports none counts as ready. -/
def ready (p : Pod) : Bool := p.containers.all id

def isOwnedBy (p : Pod) (name : String) : Bool := p.owners.contains name

def check : Value → Checked Pod
  | .map es =>
    let name := Check.required "name" Check.text es
    let ns := Check.required "namespace" Check.text es
    let node := Check.optional "node_name" none Check.optionalText es
    let owners := Check.optional "owner_names" [] (Check.list Check.text) es
    let containers := Check.optional "container_ready" [] (Check.list Check.truth) es
    (Checked.both name (Checked.both ns (Checked.both node (Checked.both owners containers)))).map
      fun (name, ns, node, owners, containers) => ⟨name, ns, node, owners, containers⟩
  | _ => Checked.fail (.notRecord "PodSnapshot")

end Pod

end NodeGate
