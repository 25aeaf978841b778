import NodeGate.Controller

/-!
# The API server

The ways to the cluster go through an API server. `Api` says what the server answers; its answers to
listings and watches may differ from one time to the next, so those come in order. Objects are
converted as they arrive, and a request that fails becomes an error of the gate that says what was
asked.
-/

set_option autoImplicit false

namespace NodeGate

/-- What comes over a watch: a change of a node, or the fault that ends it. -/
inductive Delivery
  | change (kind : String) (object : NodeObject)
  | fault (f : Failure)

/-- The answers of an API server. -/
structure Api where
  pods : String → Except Failure (List PodObject)
  read : String → Except Failure NodeObject
  lists : List (Except Failure (List NodeObject))
  watches : List (List Delivery)
  patch : String → Patch → Except Failure Unit
  event : EventObject → Except Failure Unit

namespace Api

/-! ## Single requests -/

/-- A failure of the request itself becomes an error of the gate; all others pass. -/
def explain (wrap : CallFault → GateError) : Failure → Failure
  | .fault (.call f) => .gate (wrap f)
  | f => f

/-- A converted object; one that does not fit is a failure. -/
def converted {α : Type} (e : Except Invalid α) : Except Failure α := e.mapError .invalid

def listPods (api : Api) (ns : String) : Except Failure (List Pod) := do
  let objects ← (api.pods ns).mapError (explain (.podsNotListed ns))
  objects.mapM fun o => converted (Pod.ofObject o)

/-- A node that is not there has an error of its own. -/
def nodeMissing (name : String) : CallFault → GateError
  | .refused r => if r.status = some 404 then .nodeNotFound name else .nodeNotRead name (.refused r)
  | f => .nodeNotRead name f

def getNode (api : Api) (name : String) : Except Failure Node := do
  let object ← (api.read name).mapError (explain (nodeMissing name))
  converted (Node.ofObject object)

/-- The nodes of one listing. -/
def nodesOf (answer : Except Failure (List NodeObject)) : Except Failure (List Node) := do
  let objects ← answer.mapError (explain .nodesNotListed)
  objects.mapM fun o => converted (Node.ofObject o)

/-- The next listing. When there is none left, someone pressed the key that stops the program. -/
def listNodes (api : Api) : Except Failure (List Node) :=
  match api.lists with
  | answer :: _ => nodesOf answer
  | [] => .error (.fault .interrupted)

def update (api : Api) (n : Node) : Except Failure Unit :=
  (api.patch n.name n.toPatch).mapError (explain (.nodeNotWritten n.name))

def emit (api : Api) (now : Moment) (e : Event) : Except Failure Unit :=
  (api.event (.ofEvent e now)).mapError (explain (.eventNotRecorded e.subject))

/-- The server as the cluster that a controller works on. -/
def cluster (api : Api) (now : Moment) : Cluster where
  list _ ns := api.listPods ns
  update := api.update
  emit := api.emit now

/-! ## Watches -/

/-- How a watch ends: on its own, because the server forgot the past, or by a failure. -/
inductive Ending
  | finished
  | expired
  | failed (f : Failure)

def endingOf : Failure → Ending
  | .fault (.call (.refused r)) =>
    if r.status = some 410 then .expired else .failed (.gate (.watchFailed (.refused r)))
  | f => .failed (explain .watchFailed f)

/-- The nodes that come over a watch with the kinds of their changes, and its end. A node that
cannot be converted ends it. -/
def readStream : List Delivery → List (String × Node) × Ending
  | [] => ([], .finished)
  | .fault f :: _ => ([], endingOf f)
  | .change kind object :: rest =>
    match Node.ofObject object with
    | .ok n =>
      let (changes, ending) := readStream rest
      ((kind, n) :: changes, ending)
    | .error e => ([], .failed (.invalid e))

/-- The next watch. -/
def nextStream (api : Api) : List (String × Node) × Ending :=
  match api.watches with
  | stream :: _ => readStream stream
  | [] => ([], .failed (.fault .interrupted))

/-- What the end of a watch means for the run: only a failure is one. -/
def conclude : Ending → Run Unit
  | .finished => return
  | .expired => Run.log .info "kube" "Node watch expired, restarting"
  | .failed f => .fail f

/-- Opens a watch, handles what comes over it, and stops it however that ends. -/
def follow {α : Type} (seconds : Int) (stream : List α × Ending) (handle : α → Run Unit) : Run Unit :=
  let followed : Run Unit := do
    Run.step (.call (.watch seconds))
    stream.1.forM handle
    conclude stream.2
  followed.closing (.call .stopWatch)

end Api

end NodeGate
