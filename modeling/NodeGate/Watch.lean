import NodeGate.Api

/-!
# Watching

The gate lists all nodes and handles them, then follows their changes until the watch ends, and
begins anew. A listing or a watch that fails is logged, and the gate rests before it goes on. A node
that cannot be handled is logged and does not hold up the others. Nothing but an interruption or a
failure that is not the gate's ends the loop; each round takes up one listing, so it ends when the
listings do.
-/

set_option autoImplicit false

namespace NodeGate.Watch

/-- How long the gate rests after a failed listing or watch, in seconds. -/
def rest : Nat := 5

/-- Handles a node; an error of the gate is logged. -/
def handleNode (c : Controller) (cluster : Cluster) (now : Moment) (n : Node) : Run Unit := do
  match ← (c.handle cluster now n).outcome with
  | .ok _ => return
  | .error e => Run.log .error "cli" s!"Failed to reconcile node {n.name}: {e.message}"

/-- Logs a failed listing or watch and rests. -/
def recover (e : GateError) : Run Unit := do
  Run.log .error "cli" s!"Node watch error: {e.text}"
  Run.step (.sleep rest)

/-- The nodes that changes are about, in order. One that was deleted needs nothing any more. -/
def arrivals (changes : List (String × Node)) : List Node :=
  (changes.filter fun change => change.1 ≠ "DELETED").map Prod.snd

/-- The watch of one round: the next of the streams, and none is left once someone interrupts. -/
def streamOf : List (List Delivery) → List (String × Node) × Api.Ending
  | stream :: _ => Api.readStream stream
  | [] => ([], .failed (.fault .interrupted))

/-- Lists and watches again and again, with these answers of the server. A failed listing leaves the
streams for the next round. The nodes are numbered from `turn` on as they are handled, because what
comes of a node may be another thing each time. -/
def loop (handle : Nat → Node → Run Unit) (seconds : Int) :
    Nat → List (Except Failure (List NodeObject)) → List (List Delivery) → Run Unit
  | _, [], _ => Run.ask .listNodes (.error (.fault .interrupted))
  | turn, answer :: lists, streams => do
    match ← (Run.ask .listNodes (Api.nodesOf answer)).outcome with
    | .error e =>
      recover e
      loop handle seconds turn lists streams
    | .ok nodes =>
      (nodes.zipIdx turn).forM fun (n, i) => handle i n
      let (changes, ending) := streamOf streams
      let arrived := (arrivals changes).zipIdx (turn + nodes.length)
      match ← (Api.follow seconds (arrived, ending) fun (n, i) => handle i n).outcome with
      | .error e => recover e
      | .ok _ => pure ()
      loop handle seconds (turn + nodes.length + arrived.length) lists streams.tail

end NodeGate.Watch
