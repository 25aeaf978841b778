import NodeGate.Client
import NodeGate.Command.Line
import NodeGate.Command.Report
import NodeGate.Logging
import NodeGate.PolicyFile
import NodeGate.Watch

/-!
# Executing commands

What a command line does in its surroundings. `Command.execute` is the run of one command with its
exit code; `execute` is the whole program, with logging set up before the command is looked at more
closely.
-/

set_option autoImplicit false

namespace NodeGate

/-- What the program finds when it is started: files, the preset place of the policy, settings for
the server, the server, the time, and the console. -/
structure Surroundings where
  files : Files
  preset : Option String
  settings : Settings
  api : Api
  now : Moment
  console : Console := .verbatim

namespace Surroundings

/-- The program asks for the time in UTC. -/
def clock (s : Surroundings) : Moment := s.now.toUtc

def cluster (s : Surroundings) : Cluster := s.api.cluster s.clock

/-- The controller that the options ask for. First the policy is loaded, then the settings. -/
def connect (s : Surroundings) (c : Common) : Run Controller := do
  let policy ← Run.ofExcept (PolicyFile.load s.files c.config)
  s.settings.load c.kubeconfig
  return ⟨policy, c.dryRun⟩

/-! ## Checking a policy -/

def validate (s : Surroundings) (config : String) : Run Nat := do
  match ← (Run.ofExcept (PolicyFile.load s.files config)).outcome with
  | .error e =>
    Report.error e
    return 1
  | .ok policy =>
    Report.policy s.console policy
    return 0

/-! ## Reconciling once -/

/-- Handles a node. An error of the gate is logged and shown in its row. -/
def reconcileNode (c : Controller) (cluster : Cluster) (now : Moment) (n : Node) :
    Run Report.Row := do
  let outcome ← (c.handle cluster now n).outcome
  if let .error e := outcome then
    Run.log .error "cli" s!"Failed to reconcile node {n.name}: {e.message}"
  return ⟨n.name, outcome⟩

/-- The nodes in the order of their names. -/
def inOrder (nodes : List Node) : List Node := nodes.mergeSort fun a b => a.name ≤ b.name

/-- The nodes to reconcile, and the controller for them. -/
def gather (s : Surroundings) (node : Option String) (all : Bool) (c : Common) :
    Run (Controller × List Node) := do
  let controller ← s.connect c
  let nodes ← if all then Run.ask .listNodes s.api.listNodes
    else
      let name := node.getD ""
      Run.ask (.getNode name) ((s.api.getNode name).map ([·]))
  return (controller, nodes)

/-- Reconciles the nodes in this order and shows the table. The exit code says whether one of them
failed. The cluster may be another one, at another time, for each node that is handled. -/
def reconcileInOrder (cluster : Nat → Cluster) (clock : Nat → Moment) (controller : Controller)
    (nodes : List Node) : Run Nat := do
  let rows ← nodes.zipIdx.mapM fun (n, i) => reconcileNode controller (cluster i) (clock i) n
  Run.step (.print (Report.nodes controller.dryRun rows))
  let failures := rows.countP Report.Row.failed
  if failures = 0 then return 0
  Report.print s!"\n[red]✗ {failures} node(s) failed to reconcile[/red]"
  return 1

/-- Reconciles over a cluster that may be another one, at another time, for each node. -/
def reconcileOver (s : Surroundings) (cluster : Nat → Cluster) (clock : Nat → Moment)
    (node : Option String) (all : Bool) (c : Common) : Run Nat := do
  if (node.getD "").isEmpty && !all then
    Report.print "[red]Error:[/red] Give a node name or --all"
    return 1
  match ← (s.gather node all c).outcome with
  | .error e =>
    Report.error e
    return 1
  | .ok (controller, nodes) => reconcileInOrder cluster clock controller (inOrder nodes)

def reconcile (s : Surroundings) (node : Option String) (all : Bool) (c : Common) : Run Nat :=
  s.reconcileOver (fun _ => s.cluster) (fun _ => s.clock) node all c

/-! ## Watching -/

/-- Ends the run well if it was interrupted. -/
def untilInterrupted (r : Run Unit) : Run Nat :=
  match r.result with
  | .error (.fault .interrupted) =>
    let farewell := Report.print "\n[yellow]Watch interrupted by user[/yellow]"
    ⟨r.trace ++ farewell.trace, .ok 130⟩
  | .error f => ⟨r.trace, .error f⟩
  | .ok _ => ⟨r.trace, .ok 0⟩

/-- Watches over a cluster that may be another one, at another time, for each node that is handled. -/
def watchOver (s : Surroundings) (cluster : Nat → Cluster) (clock : Nat → Moment) (resync : Int)
    (c : Common) : Run Nat := do
  match ← (s.connect c).outcome with
  | .error e =>
    Report.error e
    return 1
  | .ok controller =>
    Report.print s!"[bold cyan]Watching nodes[/bold cyan] (resync every {resync}s)"
    let handle (turn : Nat) := Watch.handleNode controller (cluster turn) (clock turn)
    untilInterrupted (Watch.loop handle resync 0 s.api.lists s.api.watches)

def watch (s : Surroundings) (resync : Int) (c : Common) : Run Nat :=
  s.watchOver (fun _ => s.cluster) (fun _ => s.clock) resync c

end Surroundings

/-! ## All commands -/

namespace Command

/-- The run of a command, with its exit code. -/
def execute (s : Surroundings) : Command → Run Nat
  | .version => return 0
  | .validate config => s.validate config
  | .reconcile node all common => s.reconcile node all common
  | .watch resync common => s.watch resync common

def versionLine : String := "readiness-gate version 0.1.0\n"

/-- What a command writes to the standard output; the rest goes to the console. -/
def output : Command → String
  | .version => versionLine
  | _ => ""

end Command

/-! ## The program -/

/-- What nobody handled: a failure of the command, or a fault of setting up logging. -/
inductive Unhandled
  | failure (f : Failure)
  | logging (f : Logging.SetUpFault)

/-- What the program did: its exit code, the steps that it took, what it wrote to the standard
output and the log lines on the console, what nobody handled, and the files when it ended. -/
structure Ended where
  exitCode : Nat
  steps : List Step
  output : String
  logLines : List String
  unhandled : Option Unhandled
  files : Files

namespace Ended

/-- Nothing was done but to set up logging, if that. -/
def halted (files : Files) (steps : List Step) (logLines : List String) : Halt → Ended
  | .usage => ⟨2, steps, "", logLines, none, files⟩
  | .help => ⟨0, steps, "", logLines, none, files⟩

/-- The exit code of a run. An interruption is no failure. -/
def codeOf : Except Failure Nat → Nat × Option Unhandled
  | .ok code => (code, none)
  | .error (.fault .interrupted) => (130, none)
  | .error f => (1, some (.failure f))

end Ended

namespace Logging

/-- The steps without the log records that do not pass. -/
def heard (lg : Logging) (steps : List Step) : List Step :=
  steps.filter fun
    | .log r => lg.passes r
    | _ => true

/-- The lines that the records put on the console. -/
def lines (lg : Logging) (time : String) (steps : List Step) : List String :=
  steps.flatMap fun
    | .log r => lg.onConsole time r
    | _ => []

/-- The files after the records were written to them. -/
def written (lg : Logging) (time : String) (files : Files) (steps : List Step) : Files :=
  steps.foldl (fun fs step =>
    match step with
    | .log r => lg.intoFiles time fs r
    | _ => fs) files

end Logging

/-- Carries out a command line; `time` is how log lines show the time. The log file is written
before the policy is read, so it may even be the same file. -/
def execute (s : Surroundings) (time : String) (args : List String) : Ended :=
  match Globals.read args with
  | .error halt => .halted s.files [] [] halt
  | .ok (globals, name, rest) =>
    let started := Logging.start.setUp s.files "INFO" globals.verbose
      (globals.logFile.map Path.ofString)
    match started.fault with
    | some fault => ⟨1, [], "", [], some (.logging fault), started.files⟩
    | none =>
      let lg := started.logging
      let initial := started.records.map Step.log ++
        [.log ⟨.debug, loggerOf "cli", "Logging initialized"⟩]
      let files := lg.written time started.files initial
      match Command.read s.preset name rest with
      | .error halt => .halted files (lg.heard initial) (lg.lines time initial) halt
      | .ok command =>
        let run := command.execute { s with files }
        let (exitCode, unhandled) := Ended.codeOf run.result
        { exitCode, unhandled
          steps := lg.heard (initial ++ run.trace)
          output := command.output
          logLines := lg.lines time (initial ++ run.trace)
          files := lg.written time files run.trace }

end NodeGate
