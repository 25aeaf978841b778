import NodeGate.Error
import NodeGate.Log
import NodeGate.Request

/-!
# Runs

A run is what a computation of the gate did and how it ended: the steps in order, and a result or a
failure. Collaborators are functions into `Run`, so whatever they do is in the trace, and nothing
else happens. A run that fails keeps the steps it took.
-/

set_option autoImplicit false

namespace NodeGate

/-! ## Steps -/

/-- What a run does. -/
inductive Step
  | log (record : LogRecord)
  | call (c : Call)
  | look (l : Lookup)
  | print (p : Printed)
  | sleep (seconds : Nat)
deriving DecidableEq

/-! ## Runs -/

structure Run (α : Type) where
  trace : List Step
  result : Except Failure α

namespace Run

variable {α β : Type}

def ok (a : α) : Run α := ⟨[], .ok a⟩

def fail (f : Failure) : Run α := ⟨[], .error f⟩

def step (s : Step) : Run Unit := ⟨[s], .ok ()⟩

/-- Goes on with the result; after a failure nothing more is done. -/
def andThen (r : Run α) (next : α → Run β) : Run β :=
  match r.result with
  | .ok a => ⟨r.trace ++ (next a).trace, (next a).result⟩
  | .error f => ⟨r.trace, .error f⟩

instance : Monad Run where
  pure := ok
  bind := andThen

def log (level : Level) (part message : String) : Run Unit :=
  step (.log ⟨level, loggerOf part, message⟩)

def ofExcept (result : Except Failure α) : Run α := ⟨[], result⟩

/-- On an error of the gate goes on with the handler. Other failures pass. -/
def rescue (r : Run α) (handler : GateError → Run α) : Run α :=
  match r.result with
  | .error (.gate e) => ⟨r.trace ++ (handler e).trace, (handler e).result⟩
  | _ => r

/-- Rewords what went wrong. -/
def mapFailure (r : Run α) (reword : Failure → Failure) : Run α :=
  ⟨r.trace, r.result.mapError reword⟩

/-- Takes the step at the end in any case. -/
def closing (r : Run α) (s : Step) : Run α := ⟨r.trace ++ [s], r.result⟩

/-- The run with errors of the gate made part of its result. Other failures pass. -/
def outcome (r : Run α) : Run (Except GateError α) :=
  match r.result with
  | .ok a => ⟨r.trace, .ok (.ok a)⟩
  | .error (.gate e) => ⟨r.trace, .ok (.error e)⟩
  | .error f => ⟨r.trace, .error f⟩

/-- Asks the cluster, whose answer is known. -/
def ask (c : Call) (answer : Except Failure α) : Run α := ⟨[.call c], answer⟩

/-! ## What is in a trace -/

def logs (r : Run α) : List LogRecord :=
  r.trace.filterMap fun
    | .log record => some record
    | _ => none

def calls (r : Run α) : List Call :=
  r.trace.filterMap fun
    | .call c => some c
    | _ => none

/-- The namespaces whose pods were asked for. -/
def listed (r : Run α) : List String :=
  r.calls.filterMap fun
    | .listPods ns => some ns
    | _ => none

/-- The nodes that were to be written. -/
def updates (r : Run α) : List Node :=
  r.calls.filterMap fun
    | .update node => some node
    | _ => none

def events (r : Run α) : List Event :=
  r.calls.filterMap fun
    | .emit event => some event
    | _ => none

/-- The places where settings were looked for. -/
def looks (r : Run α) : List Lookup :=
  r.trace.filterMap fun
    | .look l => some l
    | _ => none

def printed (r : Run α) : List Printed :=
  r.trace.filterMap fun
    | .print p => some p
    | _ => none

/-- The pauses, in seconds. -/
def pauses (r : Run α) : List Nat :=
  r.trace.filterMap fun
    | .sleep seconds => some seconds
    | _ => none

end Run

end NodeGate
