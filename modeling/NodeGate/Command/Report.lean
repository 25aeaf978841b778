import NodeGate.Reconcile
import NodeGate.Text.Markup

/-!
# Console output

What the commands put on the console: errors, the summary of a policy, and the table of reconciled
nodes. All of it is markup, and what comes from files and servers is escaped where it is an error
text. The selectors of a policy are not escaped, so what the console makes of them is up to it.
-/

set_option autoImplicit false

namespace NodeGate

/-- What a console makes of text that nobody escaped: it takes it, or raises an error with this text.
Marks in it may close what was never opened, and halves of surrogate pairs cannot be encoded. -/
abbrev Console := RawText → Except String Unit

/-- A console that takes every text, as one does that renders nothing. -/
def Console.verbatim : Console := fun _ => .ok ()

namespace Report

/-- The gate's own words, and what is escaped; both are good markup. -/
def print (s : String) : Run Unit := Run.step (.print (.markup s))

/-- What the console raises is caught by nobody. -/
def unescaped (console : Console) (t : RawText) : Run Unit :=
  match console t with
  | .ok () => print t.shown
  | .error text => Run.fail (.fault (.foreign text))

/-- The message of an error, and its details if there are any. -/
def error (e : GateError) : Run Unit := do
  print ("[red]Error:[/red] " ++ Markup.escape e.message)
  match e.details with
  | some details => if details.isEmpty then return else print ("\n" ++ Markup.escape details)
  | none => return

/-! ## Policies -/

/-- The entries of a selector, or what an empty one means. -/
def selector (s : Selector) (empty : String) : RawText :=
  if s.isEmpty then .ofString empty
  else RawText.intercalate (.ofString ", ") (s.entries.map fun (k, v) => k ++ .ofString "=" ++ v)

def workloads (p : Policy) : Printed :=
  .table "Gating Workloads" ["Namespace", "Name", "Taint Key"]
    (p.workloads.map fun w => [w.ns, w.name, w.taintKey])

def policy (console : Console) (p : Policy) : Run Unit := do
  Run.step (.print (workloads p))
  unescaped console
    (.ofString "\n[bold]Node selector:[/bold] " ++ selector p.selector "(all nodes)")
  unescaped console (.ofString "[bold]Node rejecter:[/bold] " ++ selector p.rejecter "(none)")
  print ("[bold]Sweep out-of-scope nodes:[/bold] " ++ Readiness.shown p.sweepOutOfScope)
  print ("[bold]Mark first ready:[/bold] " ++ Readiness.shown p.markFirstReady)
  print "\n[green]✓ Policy is valid[/green]"

/-! ## Nodes -/

/-- A node that was to be reconciled, and what came of it. -/
structure Row where
  node : String
  outcome : Except GateError Result

def yesNo (b : Bool) : String := if b then "Yes" else "No"

def keys (ks : List String) : String := if ks.isEmpty then "-" else ", ".intercalate ks

def Row.cells (r : Row) : List String :=
  match r.outcome with
  | .ok result =>
    [r.node, yesNo result.inScope, keys result.changes.added, keys result.changes.removed,
      yesNo result.taintless]
  | .error e => [r.node, "?", "[red]error: " ++ Markup.escape e.message ++ "[/red]", "", ""]

def Row.failed (r : Row) : Bool :=
  match r.outcome with
  | .ok _ => false
  | .error _ => true

def nodes (dryRun : Bool) (rows : List Row) : Printed :=
  .table (if dryRun then "Dry Run" else "Reconciled Nodes")
    ["Node", "In Scope", "Added", "Removed", "Taintless"] (rows.map Row.cells)

end Report

end NodeGate
