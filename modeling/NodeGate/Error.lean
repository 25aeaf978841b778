import NodeGate.Check
import NodeGate.Yaml.Cursor

/-!
# Errors

What can go wrong, as causes. `GateError` lists the errors the gate itself reports; each has a kind,
a message and perhaps details, which `kind`, `message` and `details` derive from the cause. An error
that was caught further down keeps its cause inside the new one. `Failure` adds what the gate
does not report but passes on: data that does not fit, trouble of a collaborator that is not the
gate's to explain, and files that cannot be read at all.
-/

set_option autoImplicit false

namespace NodeGate

/-! ## What collaborators raise -/

/-- The API server's refusal. -/
structure Refusal where
  status : Option Int
  reason : Option String
  body : Option String
deriving DecidableEq, Repr

/-- Status and reason; what is absent is spelled out. -/
def Refusal.text (r : Refusal) : String :=
  let status := match r.status with
    | some n => toString n
    | none => "None"
  status ++ " " ++ r.reason.getD "None"

/-- The server was not reached, or the stream broke. -/
inductive Transport
  | http (text : String)
  | protocol (text : String)
  | timeout (text : String)
  | system (number : Option Int) (text : String)
deriving DecidableEq, Repr

def Transport.text : Transport → String
  | http s | protocol s | timeout s | system none s => s
  | system (some n) s => s!"[Errno {n}] {s}"

/-- Why a request to the API server failed. -/
inductive CallFault
  | refused (r : Refusal)
  | unreachable (t : Transport)
deriving DecidableEq, Repr

/-- What a collaborator may raise that is not an error of the gate. `foreign` stands for everything
that nobody expects. -/
inductive Fault
  | call (f : CallFault)
  | configuration (text : String)
  | interrupted
  | foreign (text : String)
deriving DecidableEq, Repr

/-! ## Errors of the gate -/

/-- The kinds of errors. `general` stands above the others. -/
inductive ErrorKind
  | general
  | resolution
  | persistence
  | kubernetes
  | configuration
deriving DecidableEq, Repr

/-- Errors by their cause. `reported` is one that a collaborator raised ready-made. -/
inductive GateError
  | reported (kind : ErrorKind) (message : String) (details : Option String)
  | policyMissing (path location : String)
  | policyNotYaml (path : String)
  | policyEmpty (path : String)
  | policyNotMapping (path kind : String)
  | policyInvalid (path : String) (issues : Invalid)
  | clientNotLoaded (reason : String)
  | podsNotListed (ns : String) (cause : CallFault)
  | nodeNotFound (name : String)
  | nodeNotRead (name : String) (cause : CallFault)
  | nodesNotListed (cause : CallFault)
  | watchFailed (cause : CallFault)
  | nodeNotWritten (name : String) (cause : CallFault)
  | eventNotRecorded (subject : String) (cause : CallFault)
  | readinessUnknown (ns workload : String) (cause : GateError)
  | taintsUnknown (node : String) (cause : GateError)
  | nodeNotUpdated (node : String) (cause : GateError)
deriving DecidableEq, Repr

namespace GateError

def kind : GateError → ErrorKind
  | reported kind _ _ => kind
  | policyMissing .. | policyNotYaml _ | policyEmpty _ | policyNotMapping .. | policyInvalid .. =>
    .configuration
  | clientNotLoaded _ | podsNotListed .. | nodeNotFound _ | nodeNotRead .. | nodesNotListed _
  | watchFailed _ | eventNotRecorded .. => .kubernetes
  | nodeNotWritten .. | nodeNotUpdated .. => .persistence
  | readinessUnknown .. | taintsUnknown .. => .resolution

/-- A refusal stands in the message, with `body` as details where it is wanted. Transport trouble is
all in the details. -/
def callWords (what : String) (withBody : Bool) : CallFault → String × Option String
  | .refused r => (s!"{what}: {r.text}", if withBody then r.body else none)
  | .unreachable t => (what, some t.text)

/-- Message and details in one text. Empty details count as none. -/
def joinWords (words : String × Option String) : String :=
  match words.2 with
  | some details => if details.isEmpty then words.1 else s!"{words.1}\n\nDetails: {details}"
  | none => words.1

/-- The message and the details of an error. An error that wraps another one has the whole text of
that one as details. What is wrong with a document that is no YAML is told by the reader of documents
in words of its own, which are not modelled: `<yaml error>` stands for them. -/
def words : GateError → String × Option String
  | reported _ message details => (message, details)
  | policyMissing path location =>
    (s!"Policy file not found: {path}", some s!"Expected location: {location}")
  | policyNotYaml path => (s!"Failed to parse policy file {path}", some "<yaml error>")
  | policyEmpty path =>
    (s!"Policy file is empty: {path}", some "List at least the daemonsets that should gate nodes.")
  | policyNotMapping path kind => (s!"Policy file {path} must contain a mapping, got {kind}", none)
  | policyInvalid path issues => (s!"Invalid policy file {path}", some issues.text)
  | clientNotLoaded reason =>
    (s!"Failed to load Kubernetes configuration: {reason}",
      some "Run inside the cluster, set KUBECONFIG, or pass --kubeconfig")
  | podsNotListed ns cause => callWords s!"Failed to list pods in namespace {ns}" false cause
  | nodeNotFound name => (s!"Node not found: {name}", some "Check the name with kubectl get nodes")
  | nodeNotRead name cause => callWords s!"Failed to read node {name}" false cause
  | nodesNotListed cause => callWords "Failed to list nodes" false cause
  | watchFailed cause => callWords "Node watch failed" false cause
  | nodeNotWritten name cause => callWords s!"Failed to update node {name}" true cause
  | eventNotRecorded subject cause => callWords s!"Failed to record event for {subject}" false cause
  | readinessUnknown ns workload cause =>
    (s!"Failed to list pods in namespace {ns} for {workload}", some (joinWords cause.words))
  | taintsUnknown node cause =>
    (s!"Error calculating taints for node {node}", some (joinWords cause.words))
  | nodeNotUpdated node cause => (s!"Failed to update node {node}", some (joinWords cause.words))

def message (e : GateError) : String := e.words.1

def details (e : GateError) : Option String := e.words.2

/-- The whole text of an error. -/
def text (e : GateError) : String := joinWords e.words

end GateError

/-! ## Failures -/

/-- Why a file could not be read as a document, although it may be one. `unsayable` is invalid data
of which not even that can be said. -/
inductive Unreadable
  | directory
  | notUnicode
  | pathTooLong
  | tooDeep
  | unsayable
  | scalar (why : Yaml.ScalarFault)
deriving DecidableEq, Repr

/-- How a computation of the gate can end without a result. -/
inductive Failure
  | gate (e : GateError)
  | invalid (e : Invalid)
  | fault (f : Fault)
  | unreadable (u : Unreadable)
deriving DecidableEq, Repr

end NodeGate
