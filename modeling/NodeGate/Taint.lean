import NodeGate.Check

/-!
# Taints and who owns them

A taint keeps pods off a node. The gate owns the taints whose key carries its prefix and touches no
other. The key for a workload holds its namespace and its name; a namespace has no dot, so the first
dot after the slash parts the two again.
-/

set_option autoImplicit false

namespace NodeGate

/-! ## Ownership -/

/-- The prefix of everything that the gate owns. -/
def reserved : String := "readiness-gate.io"

/-- The key of the taint that gates a node for the workload `name` in the namespace `ns`. -/
def ownedKey (ns name : String) : String := reserved ++ "/" ++ ns ++ "." ++ name

/-- Does the key belong to the gate? The bare prefix does too: it once was a key that all workloads
shared. -/
def isOwned (key : String) : Bool :=
  key == reserved || (reserved ++ "/").toList.isPrefixOf key.toList

/-! ## Taints -/

inductive Effect
  | noSchedule
  | preferNoSchedule
  | noExecute
deriving DecidableEq, Repr

namespace Effect

def text : Effect → String
  | noSchedule => "NoSchedule"
  | preferNoSchedule => "PreferNoSchedule"
  | noExecute => "NoExecute"

def all : List Effect := [noSchedule, preferNoSchedule, noExecute]

def ofText? (s : String) : Option Effect := all.find? fun e => e.text == s

def check (v : Value) : Checked Effect := do
  let s ← Check.text v
  match ofText? s with
  | some e => .ok e
  | none =>
    Checked.fail (.rule s!"effect must be one of {Quoted.list (all.map text)}, got {s}")

end Effect

/-- A taint of a node. Its key is never empty. -/
structure Taint where
  key : String
  value : Option String
  effect : Effect
  key_ne : key ≠ ""
deriving DecidableEq

namespace Taint

def owned (t : Taint) : Bool := isOwned t.key

theorem ownedKey_ne (ns name : String) : ownedKey ns name ≠ "" := by
  intro h
  have := congrArg String.length h
  simp [ownedKey, reserved] at this

/-- The taint that gates a node for a workload: no value, and nothing new is scheduled. -/
def gate (ns name : String) : Taint :=
  ⟨ownedKey ns name, none, .noSchedule, ownedKey_ne ns name⟩

/-- Keys are text, and not empty. -/
def checkKey (v : Value) : Checked { key : String // key ≠ "" } := do
  let s ← Check.text v
  if h : s = "" then Checked.fail (.rule "taint key cannot be empty") else .ok ⟨s, h⟩

/-- Without an effect the data means the mildest hard one. -/
def check : Value → Checked Taint
  | .map es =>
    let key := Check.required "key" checkKey es
    let value := Check.optional "value" none Check.optionalText es
    let effect := Check.optional "effect" .noSchedule Effect.check es
    (Checked.both key (Checked.both value effect)).map
      fun (key, value, effect) => ⟨key.1, value, effect, key.2⟩
  | _ => Checked.fail (.notRecord "Taint")

end Taint

end NodeGate
