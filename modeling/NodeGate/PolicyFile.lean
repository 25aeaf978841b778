import NodeGate.Error
import NodeGate.Files.Tree
import NodeGate.Policy
import NodeGate.Yaml.Document

/-!
# Policy files

A policy is kept in a YAML file. What is wrong with the file, from its absence to a name that does not
fit, is an error of the gate that says which file it was, as far as the file can be read at all.
-/

set_option autoImplicit false

namespace NodeGate

namespace PolicyFile

/-- A policy is four levels deep: what lies deeper in a document is never looked at. -/
def depth : Nat := 5

/-- The data in a file. -/
def read (path : Path) (bytes : ByteArray) : Except Failure Value :=
  match Yaml.Document.load depth (.ofBytes bytes) with
  | .ok v => .ok v
  | .error .malformed | .error .unfinished => .error (.gate (.policyNotYaml path.text))
  | .error .notUnicode => .error (.unreadable .notUnicode)
  | .error .tooDeep => .error (.unreadable .tooDeep)
  | .error (.scalar why) => .error (.unreadable (.scalar why))

/-- The policy that the data of a file says. -/
def ofData (path : Path) : Value → Except Failure Policy
  | .null => .error (.gate (.policyEmpty path.text))
  | .map es =>
    match Checked.named "Policy" (Policy.check (.map es)) with
    | .ok p => .ok p
    | .error e =>
      if e.isSayable then .error (.gate (.policyInvalid path.text e))
      else .error (.unreadable .unsayable)
  | v => .error (.gate (.policyNotMapping path.text v.kind))

/-- Loads the policy at a path. Nothing is at a broken path. -/
def load (files : Files) (path : String) : Except Failure Policy := do
  let path := Path.ofString path
  let missing := Failure.gate (.policyMissing path.text (files.location path))
  if path.isBroken then throw missing
  match files.get path with
  | .error .tooLong => throw (.unreadable .pathTooLong)
  | .error _ => throw missing
  | .ok (.folder _) => throw (.unreadable .directory)
  | .ok (.file bytes) => ofData path (← read path bytes)

end PolicyFile

end NodeGate
