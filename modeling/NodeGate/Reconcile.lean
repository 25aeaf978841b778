import NodeGate.Readiness

/-!
# Reconciliation

One pass over a node: which owned taints should it carry, and is it free of them for the first time?
`settle` is the decision, from the node and the workloads that are not ready; `reconcile` asks for
readiness first and stamps the node last. Nothing is written here; the result says what to write.
-/

set_option autoImplicit false

namespace NodeGate

/-! ## The result of a pass -/

/-- Keys of owned taints that a pass put on the node and took off it. -/
structure Changes where
  added : List String
  removed : List String
deriving DecidableEq, Repr

def Changes.isEmpty (c : Changes) : Bool := c.added.isEmpty && c.removed.isEmpty

/-- The annotation that holds when a node was first free of gates. -/
def firstReadyKey : String := reserved ++ "/first-time-ready"

structure Result where
  node : Node
  changes : Changes
  inScope : Bool
  firstReadyMarked : Bool
deriving DecidableEq

namespace Result

/-- Does the node differ from the one that the pass began with? -/
def changed (r : Result) : Bool := !r.changes.isEmpty || r.firstReadyMarked

/-- The node carries no owned taint. -/
def taintless (r : Result) : Bool := r.node.ownedTaints.isEmpty

def firstTimeReady (r : Result) : Option String := r.node.annotations.get? firstReadyKey

end Result

/-! ## Taints -/

/-- Goes through the workloads that are not ready. `stale` are the owned keys that no workload has
claimed yet: a workload whose key is there claims it, any other needs a fresh taint. Gives the keys
that stay unclaimed and the workloads that need a taint. -/
def claim (stale : List String) : List Workload → List String × List Workload
  | [] => (stale, [])
  | w :: rest =>
    if w.taintKey ∈ stale then claim (stale.erase w.taintKey) rest
    else
      let (left, fresh) := claim stale rest
      (left, w :: fresh)

/-- The keys of the owned taints, each once, in node order. -/
def Node.ownedKeys (n : Node) : List String := (n.ownedTaints.map Taint.key).eraseDups

/-- The node with a gate for every workload that is not ready. Owned taints that none of them claims
go away if `sweep` is set, whatever policy they come from. -/
def settle (n : Node) (unready : List Workload) (sweep : Bool) : Node × Changes :=
  let (left, fresh) := claim n.ownedKeys unready
  let removed := if sweep then left else []
  let taints := n.taints ++ fresh.map Workload.gate
  ({ n with taints := taints.filter fun t => !removed.contains t.key },
    { added := fresh.map Workload.taintKey, removed })

/-- Asks for the readiness of the workloads and settles the taints. -/
def calculateTaints (lister : Lister) (n : Node) (workloads : List Workload) (sweep : Bool) :
    Run (Node × Changes) := do
  let unready ← Readiness.unready lister n.name 0 workloads
  return settle n unready sweep

/-! ## The first-ready stamp -/

/-- Stamps a node that carries no owned taint and has no stamp yet. The stamp never goes away, even
if gates come back. -/
def markFirstReady (n : Node) (now : Moment) : Node × Bool :=
  if n.ownedTaints.isEmpty && !n.annotations.contains firstReadyKey then
    ({ n with annotations := n.annotations.insert firstReadyKey now.stamp }, true)
  else (n, false)

/-! ## A pass -/

/-- A node outside the scope gets no gates. Those it has are swept only if the policy says so. -/
def reconcile (lister : Lister) (policy : Policy) (now : Moment) (n : Node) : Run Result := do
  let inScope := policy.inScope n.labels
  if !inScope then
    Run.log .debug "reconciler" s!"Node {n.name} is outside the policy selectors"
  let (node, changes) ← calculateTaints lister n (if inScope then policy.workloads else [])
    (inScope || policy.sweepOutOfScope)
  let (node, firstReadyMarked) := if policy.markFirstReady then markFirstReady node now
    else (node, false)
  return { node, changes, inScope, firstReadyMarked }

end NodeGate
