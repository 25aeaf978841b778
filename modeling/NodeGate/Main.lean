import NodeGate.Command.Execute
import Std.Time.DateTime.Timestamp

/-!
# The program

Takes the surroundings of the process, executes the command line, and shows what came of it. There
is no client for an API server here: commands that need one say so.
-/

set_option autoImplicit false

namespace NodeGate.Main

/-- Settings of a program that has no client. -/
def noClient : Settings :=
  let answer := Except.error (.fault (.configuration "no client for the API server"))
  ⟨answer, answer⟩

/-- A server that nobody reaches. -/
def noServer : Api :=
  let away {α : Type} : Except Failure α := .error (.fault (.configuration "no API server"))
  ⟨fun _ => away, fun _ => away, [], [], fun _ _ => away, fun _ => away⟩

/-- The files that a command line names. -/
def filesNamed (preset : Option String) (args : List String) : List String :=
  match Globals.read args with
  | .error _ => []
  | .ok (globals, name, rest) =>
    let config := match Command.read preset name rest with
      | .ok command => command.config?
      | .error _ => none
    globals.logFile.toList ++ config.toList

/-- Looks at a place, unless it is known already. -/
def lookAt (fs : Files) (names : List String) : IO Files := do
  let place := "/" ++ "/".intercalate names
  if let .ok _ := fs.walk [] names then return fs
  try
    if ← (← IO.FS.realPath place).isDir then return fs.put names (.folder [])
    return fs.put names (.file (← IO.FS.readBinFile place))
  catch _ => return fs

/-- Looks at a path and at everything on the way. -/
def lookAlong (fs : Files) (path : String) : IO Files :=
  let names := fs.straighten (.ofString path)
  (List.range names.length).foldlM (fun fs n => lookAt fs (names.take (n + 1))) fs

/-- Writes a file back, with the folders above it. -/
def writeBack (fs : Files) (path : String) : IO Unit := do
  let names := fs.straighten (.ofString path)
  if let .ok (.file bytes) := (fs.walk [] names).map fs.content then
    IO.FS.createDirAll ("/" ++ "/".intercalate names.dropLast)
    IO.FS.writeBinFile ("/" ++ "/".intercalate names) bytes

/-- Marks are shown as they are written, and halves of surrogate pairs cannot be encoded. -/
def console : Console := fun t =>
  if t.string?.isSome then .ok () else .error "surrogates not allowed"

def display : Printed → IO Unit
  | .markup s => IO.println s
  | .table title columns rows => do
    IO.println title
    for row in columns :: rows do IO.println ("  ".intercalate row)

end NodeGate.Main

open NodeGate in
def main (args : List String) : IO UInt32 := do
  let cwd := (← IO.currentDir).toString
  let preset ← IO.getEnv "READINESS_GATE_CONFIG"
  let seconds := (← Std.Time.Timestamp.now).toSecondsSinceUnixEpoch.val.toNat
  let now := Moment.ofSeconds seconds
  let start := Files.start (Path.ofString cwd).steps cwd
  let files ← (Main.filesNamed preset args).foldlM Main.lookAlong start
  let s : Surroundings := ⟨files, preset, Main.noClient, Main.noServer, now, Main.console⟩
  let ended := execute s now.logTime args
  for line in ended.logLines do IO.eprintln line
  for step in ended.steps do
    if let .print p := step then Main.display p
  IO.print ended.output
  if let .ok (globals, _) := Globals.read args then
    if let some path := globals.logFile then Main.writeBack ended.files path
  if ended.unhandled.isSome then IO.eprintln "the command failed"
  return ended.exitCode.toUInt32
