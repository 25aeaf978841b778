import NodeGate.Text.Quoted

/-!
# Paths

A path is read in a normal form: empty steps and steps to the same place are dropped, steps to the
parent are kept. Whether it can be used at all depends on its text: no character may be zero, and
neither the whole nor a name in it may be too long. What the system says of a path that it refuses
is a `PathError`.
-/

set_option autoImplicit false

namespace NodeGate

/-! ## Paths -/

/-- The steps of a path. `root` is empty for a path from the working directory. -/
structure Path where
  root : String
  steps : List String
deriving DecidableEq, Repr

namespace Path

/-- A root of exactly two slashes is not the same as one of one; more count as one. -/
def ofString (s : String) : Path where
  root := match (s.toList.takeWhile (· == '/')).length with
    | 0 => ""
    | 2 => "//"
    | _ => "/"
  steps := (s.splitOn "/").filter fun step => step != "" && step != "."

def isAbsolute (p : Path) : Bool := p.root != ""

def text (p : Path) : String :=
  let s := p.root ++ "/".intercalate p.steps
  if s = "" then "." else s

def parent (p : Path) : Path := { p with steps := p.steps.dropLast }

/-- The number of bytes from which on a path is too long. -/
def tooManyBytes : Nat := 4096

/-- The most bytes that a name may have. -/
def maxNameBytes : Nat := 255

/-- Is the text too long for the system? -/
def isTooLong (text : String) : Bool := decide (tooManyBytes ≤ text.utf8ByteSize)

/-- A path with a zero character is none for the system, which takes it for the end. -/
def isBroken (p : Path) : Bool := p.steps.any fun step => step.toList.contains '\x00'

end Path

/-! ## Trouble with paths -/

/-- What the system says when a path cannot be used. -/
inductive PathTrouble
  | missing
  | present
  | notFolder
  | isFolder
  | tooLong
deriving DecidableEq, Repr

def PathTrouble.number : PathTrouble → Nat
  | missing => 2
  | present => 17
  | notFolder => 20
  | isFolder => 21
  | tooLong => 36

def PathTrouble.words : PathTrouble → String
  | missing => "No such file or directory"
  | present => "File exists"
  | notFolder => "Not a directory"
  | isFolder => "Is a directory"
  | tooLong => "File name too long"

structure PathError where
  trouble : PathTrouble
  path : String
deriving DecidableEq, Repr

def PathError.text (e : PathError) : String :=
  s!"[Errno {e.trouble.number}] {e.trouble.words}: {Quoted.text e.path}"

/-- Why a file cannot be opened: the system refuses its path, the path is none, or more folders are
missing than are made at a time. -/
inductive OpenFault
  | refused (e : PathError)
  | broken
  | tooManyFolders
deriving DecidableEq, Repr

end NodeGate
