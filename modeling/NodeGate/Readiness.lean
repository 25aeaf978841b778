import NodeGate.Policy
import NodeGate.Run

/-!
# Readiness

Is the pod that a workload runs on a node ready? The pods of a namespace come from a `Lister`, which
is asked anew for every question, also twice about one namespace. Pods that cannot be listed leave
the question open: that is an error, never the answer no.
-/

set_option autoImplicit false

namespace NodeGate

/-- What comes back when the pods of a namespace are listed. The cluster moves on while a pass asks,
so the answer may differ from turn to turn; the turns of a pass are numbered from 0. -/
abbrev Lister := Nat → String → Except Failure (List Pod)

namespace Readiness

/-- The pod of the workload on the node: owned by the one and bound to the other. Of several the
first listed counts. -/
def select (node : String) (w : Workload) (pods : List Pod) : Option Pod :=
  pods.find? fun p => p.isOwnedBy w.name && p.node == some node

/-- A failed listing as the failure to answer for the workload. An error that already says so is
passed on. -/
def unknown (w : Workload) : Failure → Failure
  | .gate e => if e.kind = .resolution then .gate e else .gate (.readinessUnknown w.ns w.text e)
  | f => f

def findPod (lister : Lister) (turn : Nat) (node : String) (w : Workload) : Run (Option Pod) :=
  Run.ask (.listPods w.ns) ((lister turn w.ns).map (select node w) |>.mapError (unknown w))

/-- Truth values as log lines show them. -/
def shown (b : Bool) : String := if b then "True" else "False"

/-- A workload without a pod on the node is not ready. -/
def isReady (lister : Lister) (turn : Nat) (node : String) (w : Workload) : Run Bool := do
  match ← findPod lister turn node w with
  | none =>
    Run.log .debug "readiness" s!"No pod for {w.text} on node {node}"
    return false
  | some pod =>
    Run.log .debug "readiness"
      s!"Pod {pod.name} for {w.text} on node {node} ready={shown pod.ready}"
    return pod.ready

/-- The workloads that are not ready, in order; each takes a turn, from `turn` on. Nothing is asked
after a question that stays open. -/
def unready (lister : Lister) (node : String) (turn : Nat) : List Workload → Run (List Workload)
  | [] => return []
  | w :: rest => do
    let ready ← isReady lister turn node w
    let others ← unready lister node (turn + 1) rest
    return if ready then others else w :: others

end Readiness

end NodeGate
