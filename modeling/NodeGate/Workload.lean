import NodeGate.Taint
import NodeGate.Text.Pattern

/-!
# Workloads

A workload is a per-node agent, known by the name of its controller and its namespace. Only such
names are admitted as can stand in a taint key, and only pairs that fit into one; all three rules
are fields of `Workload`, so that whoever holds a workload holds them.
-/

set_option autoImplicit false

namespace NodeGate

/-! ## Names -/

/-- A character at either end, and between the ends any of the characters for the inside. -/
def bounded (edge inside : Char → Bool) : Pattern :=
  .cat (.one edge) (.maybe (.cat (.many (.one inside)) (.one edge)))

/-- The form of object names: letters and digits, inside also `-`, `_` and `.`. -/
def namePattern : Pattern :=
  bounded Char.isAlphanum fun c => c.isAlphanum || c == '-' || c == '_' || c == '.'

/-- The form of namespaces, which are DNS labels: small letters and digits, inside also `-`. -/
def namespacePattern : Pattern :=
  bounded (fun c => c.isLower || c.isDigit) fun c => c.isLower || c.isDigit || c == '-'

/-- The longest name that a taint key may have after its prefix. -/
def longest : Nat := 63

def isName (s : String) : Bool := namePattern.acceptsLine s.toList

def isNamespace (s : String) : Bool :=
  decide (s.length ≤ longest) && namespacePattern.acceptsLine s.toList

def checkName (v : Value) : Checked { s : String // isName s = true } := do
  let s ← Check.text v
  if s = "" then Checked.fail (.rule "workload name cannot be empty")
  else if h : isName s = true then .ok ⟨s, h⟩
  else
    Checked.fail (.rule (s!"workload name '{s}' must consist of alphanumerics, '-', '_' or '.', " ++
      "and start and end with an alphanumeric"))

def checkNamespace (v : Value) : Checked { s : String // isNamespace s = true } := do
  let s ← Check.text v
  if s = "" then Checked.fail (.rule "workload namespace cannot be empty")
  else if h : isNamespace s = true then .ok ⟨s, h⟩
  else
    Checked.fail (.rule (s!"namespace '{s}' must be a DNS label: lowercase alphanumerics and " ++
      "hyphens, at most 63 characters"))

/-! ## Workloads -/

/-- A workload whose taint key is legal: name and namespace have their forms, and with a dot between
them they are at most `longest` characters. -/
structure Workload where
  name : String
  ns : String
  name_ok : isName name = true
  ns_ok : isNamespace ns = true
  fits : ns.length + 1 + name.length ≤ longest
deriving DecidableEq

namespace Workload

def taintKey (w : Workload) : String := ownedKey w.ns w.name

/-- The taint that gates a node for the workload. -/
def gate (w : Workload) : Taint := Taint.gate w.ns w.name

def text (w : Workload) : String := w.ns ++ "/" ++ w.name

/-- The two names must fit into one taint key. -/
def ofNames (name : { s : String // isName s = true })
    (ns : { s : String // isNamespace s = true }) : Checked Workload :=
  if h : ns.1.length + 1 + name.1.length ≤ longest then .ok ⟨name.1, ns.1, name.2, ns.2, h⟩
  else
    Checked.fail (.rule (s!"workload '{ns.1}/{name.1}' is too long for a taint key: " ++
      s!"'{ns.1}.{name.1}' has {ns.1.length + 1 + name.1.length} characters, " ++
      s!"at most {longest} are allowed"))

/-- The length is looked at only if both names have their forms. -/
def check : Value → Checked Workload
  | .map es => do
    let (name, ns) ← Checked.both (Check.required "name" checkName es)
      (Check.required "namespace" checkNamespace es)
    ofNames name ns
  | _ => Checked.fail (.notRecord "Workload")

end Workload

end NodeGate
