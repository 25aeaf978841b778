import NodeGate.Controller

/-!
# Sessions

A controller at work over time: between the nodes it handles, its policy may be replaced, dry runs
switched on or off, and the cluster and the clock may change. Handling a node changes none of these,
so what is handled later does not depend on it.
-/

set_option autoImplicit false

namespace NodeGate

/-- What can happen to a controller. -/
inductive Order
  | adopt (policy : Policy)
  | setDryRun (dryRun : Bool)
  | connect (cluster : Cluster)
  | setClock (now : Moment)
  | handle (node : Node)

structure Session where
  controller : Controller
  cluster : Cluster
  now : Moment

namespace Session

/-- The session after an order, and the run if a node was handled. -/
def obey (s : Session) : Order → Session × Option (Run Result)
  | .adopt policy => ({ s with controller := { s.controller with policy } }, none)
  | .setDryRun dryRun => ({ s with controller := { s.controller with dryRun } }, none)
  | .connect cluster => ({ s with cluster }, none)
  | .setClock now => ({ s with now }, none)
  | .handle node => (s, some (s.controller.handle s.cluster s.now node))

/-- The runs of a sequence of orders. -/
def runs (s : Session) : List Order → List (Run Result)
  | [] => []
  | order :: rest =>
    match s.obey order with
    | (s, none) => s.runs rest
    | (s, some run) => run :: s.runs rest

end Session

end NodeGate
