import NodeGate.Patch

/-!
# Calls and requests

What the gate asks of a cluster, as data. A `Call` says it in the gate's own terms, and
`Call.request` is what then goes to the API server. Runs record calls, so what was sent can be read
off a run.
-/

set_option autoImplicit false

namespace NodeGate

/-- A notification about a node. -/
structure Event where
  subject : String
  kind : String
  reason : String
  message : String
deriving DecidableEq, Repr

/-- An event as the API server records it. A node has no namespace and no uid at hand, so events on
nodes go to the default namespace and the name stands for the uid. -/
structure EventObject where
  ns : String
  generateName : String
  objectKind : String
  objectName : String
  objectUid : String
  kind : String
  reason : String
  message : String
  component : String
  count : Nat
  first : Moment
  last : Moment
deriving DecidableEq, Repr

/-- The record of an event that happens now. -/
def EventObject.ofEvent (e : Event) (now : Moment) : EventObject where
  ns := "default"
  generateName := e.subject ++ "."
  objectKind := "Node"
  objectName := e.subject
  objectUid := e.subject
  kind := e.kind
  reason := e.reason
  message := e.message
  component := "readiness-gate"
  count := 1
  first := now
  last := now

/-- What is asked of a cluster. A watch is opened for a number of seconds and stopped at its end. -/
inductive Call
  | listPods (ns : String)
  | getNode (name : String)
  | listNodes
  | update (node : Node)
  | emit (event : Event)
  | watch (seconds : Int)
  | stopWatch
deriving DecidableEq

/-- Requests to the API server. -/
inductive Request
  | listPods (ns : String)
  | readNode (name : String)
  | listNodes
  | patchNode (name : String) (patch : Patch)
  | createEvent (event : EventObject)
  | watch (seconds : Int)
  | stopWatch
deriving DecidableEq

/-- The request for a call that is made at the time `now`. -/
def Call.request (now : Moment) : Call → Request
  | listPods ns => .listPods ns
  | getNode name => .readNode name
  | listNodes => .listNodes
  | update node => .patchNode node.name node.toPatch
  | emit event => .createEvent (.ofEvent event now)
  | watch seconds => .watch seconds
  | stopWatch => .stopWatch

/-- Where client settings are looked for. -/
inductive Lookup
  | inCluster
  | kubeconfig (file : Option String)
deriving DecidableEq, Repr

/-- What is put on the console: text with markup, or a table. -/
inductive Printed
  | markup (s : String)
  | table (title : String) (columns : List String) (rows : List (List String))
deriving DecidableEq, Repr

end NodeGate
