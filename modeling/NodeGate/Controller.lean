import NodeGate.Reconcile

/-!
# The controller

Reconciles a node, writes it if it changed, and then tells about it. The order is read, write,
report: a pass that could not be read writes nothing, and only what was written is reported. The
report is best effort.
-/

set_option autoImplicit false

namespace NodeGate

/-! ## What is reported -/

/-- The keys in brackets, with blanks between them. -/
def keyList (keys : List String) : String := "[" ++ " ".intercalate keys ++ "]"

/-- What an event says about a pass. -/
structure Announcement where
  added : List String
  removed : List String
  taintless : Bool
  firstTimeReady : Option String
deriving DecidableEq, Repr

def Result.announcement (r : Result) : Announcement :=
  ⟨r.changes.added, r.changes.removed, r.taintless, r.firstTimeReady⟩

/-- The text of an event. A node without a stamp is shown with an empty one. -/
def Announcement.text (a : Announcement) : String :=
  "Taints added: " ++ keyList a.added ++ ", Taints removed: " ++ keyList a.removed ++
    ", TaintLess: " ++ (if a.taintless then "true" else "false") ++
    ", FirstTimeReady: \"" ++ a.firstTimeReady.getD "" ++ "\""

/-- The event for a node that was written. -/
def Result.event (r : Result) : Event :=
  ⟨r.node.name, "Normal", "TaintsChanged", r.announcement.text⟩

/-! ## The controller -/

/-- The ways to the cluster. -/
structure Cluster where
  list : Lister
  update : Node → Except Failure Unit
  emit : Event → Except Failure Unit

structure Controller where
  policy : Policy
  dryRun : Bool

namespace Controller

/-- The log line before a node is written. -/
def updating (node : String) (r : Result) : String :=
  let stamp := r.firstTimeReady.getD "None"
  s!"Updating node taints: node={node} added={Quoted.list r.changes.added} " ++
    s!"removed={Quoted.list r.changes.removed} taintless={Readiness.shown r.taintless} " ++
    s!"first_time_ready={stamp}"

/-- A pass that could not be finished, as the failure for the whole node. -/
def unresolved (node : String) : Failure → Failure
  | .gate e => .gate (if e.kind = .resolution then .taintsUnknown node e else e)
  | f => f

/-- A write that failed, as the failure for the node. An error that already says so is passed on. -/
def unwritten (node : String) : Failure → Failure
  | .gate e => .gate (if e.kind = .persistence then e else .nodeNotUpdated node e)
  | f => f

/-- Writes the node. -/
def write (cluster : Cluster) (n : Node) : Run Unit :=
  (Run.ask (.update n) (cluster.update n)).mapFailure (unwritten n.name)

/-- Tells about a node that was written. It stays written if that fails. -/
def report (cluster : Cluster) (r : Result) : Run Unit :=
  (Run.ask (.emit r.event) (cluster.emit r.event)).rescue fun e =>
    .log .warning "handler" s!"Failed to record event for node {r.node.name}: {e.message}"

/-- Writes the node of a result that changed anything, and reports it. In a dry run nothing is
written. -/
def carryOut (c : Controller) (cluster : Cluster) (node : String) (r : Result) : Run Unit := do
  if !r.changed then
    Run.log .debug "handler" s!"Node {node} is up to date"
  else
    Run.log .info "handler" (updating node r)
    if c.dryRun then
      Run.log .info "handler" s!"Dry run: not writing node {node}"
    else
      write cluster r.node
      report cluster r

/-- Works out what the node needs and writes it if anything changed. -/
def handle (c : Controller) (cluster : Cluster) (now : Moment) (n : Node) : Run Result := do
  let result ← (reconcile cluster.list c.policy now n).mapFailure (unresolved n.name)
  c.carryOut cluster n.name result
  return result

end Controller

end NodeGate
