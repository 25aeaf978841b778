import NodeGate.Files.Path

/-!
# Files

The files that the program finds, as a tree of folders: what is where, how paths lead there, and how
a log file comes to be there. What is done to files gives new files, also if it breaks off: folders
that were made stay.
-/

set_option autoImplicit false

namespace NodeGate

/-! ## Contents -/

/-- A file with its bytes, or a folder with what is in it by name. -/
inductive Content
  | file (bytes : ByteArray)
  | folder (entries : List (String × Content))

abbrev Folder := List (String × Content)

namespace Folder

/-- The folder with the content under the name. -/
def set (name : String) (c : Content) : Folder → Folder
  | [] => [(name, c)]
  | (n, d) :: rest => if n = name then (name, c) :: rest else (n, d) :: set name c rest

/-- What is in the folder of that name. -/
def below (name : String) (es : Folder) : Folder :=
  match es.lookup name with
  | some (.folder es) => es
  | _ => []

/-- The folder with the content where the names lead. Folders on the way come to be there. -/
def put (c : Content) : List String → Folder → Folder
  | [], es => es
  | [name], es => es.set name c
  | name :: rest, es => es.set name (.folder (put c rest (es.below name)))

end Folder

/-! ## Files -/

/-- What is in the root folder; the working directory; and how that is called. -/
structure Files where
  root : Folder
  here : List String
  hereName : String

/-- A place in a tree of files: the names and contents on the way there, the last one first. -/
abbrev Trail := List (String × Content)

def Trail.names (t : Trail) : List String := (t.map Prod.fst).reverse

namespace Files

/-- There is nothing but the working directory. -/
def start (here : List String) (hereName : String) : Files :=
  ⟨Folder.put (.folder []) here [], here, hereName⟩

def put (fs : Files) (names : List String) (c : Content) : Files :=
  { fs with root := fs.root.put c names }

/-- What is at a place. -/
def content (fs : Files) : Trail → Content
  | [] => .folder fs.root
  | (_, c) :: _ => c

/-- Goes along the steps. Only a folder can be left, also to its parent; the root is its own. -/
def walk (fs : Files) : Trail → List String → Except PathTrouble Trail
  | trail, [] => .ok trail
  | trail, step :: rest =>
    match fs.content trail with
    | .file _ => .error .notFolder
    | .folder es =>
      if step = ".." then fs.walk trail.tail rest
      else if Path.maxNameBytes < step.utf8ByteSize then .error .tooLong
      else match es.lookup step with
        | some c => fs.walk ((step, c) :: trail) rest
        | none => .error .missing

/-- Where a path begins. -/
def origin (fs : Files) (p : Path) : List String := if p.isAbsolute then [] else fs.here

/-- What is at the end of a path. -/
def get (fs : Files) (p : Path) : Except PathTrouble Content :=
  if Path.isTooLong p.text then .error .tooLong
  else (fs.walk [] (fs.origin p ++ p.steps)).map fs.content

/-- The path with the working directory in front. -/
def location (fs : Files) (p : Path) : String :=
  if p.isAbsolute then p.text else "/".intercalate (fs.hereName :: p.steps)

/-! ### New folders -/

/-- Makes one folder; its parent has to be there. -/
def makeFolder (fs : Files) (p : Path) : Except PathTrouble Files := do
  if Path.isTooLong p.text then throw .tooLong
  match p.steps.getLast? with
  | none => throw .present
  | some name =>
    let trail ← fs.walk [] (fs.origin p ++ p.steps.dropLast)
    match fs.content trail with
    | .file _ => throw .notFolder
    | .folder es =>
      if name = ".." then throw .present
      if Path.maxNameBytes < name.utf8ByteSize then throw .tooLong
      if (es.lookup name).isSome then throw .present
      return fs.put (trail.names ++ [name]) (.folder [])

/-- It does not matter that a folder could not be made if it is there. -/
def settleFolder (fs : Files) (p : Path) :
    Except PathTrouble Files → Files × Except OpenFault Unit
  | .ok fs => (fs, .ok ())
  | .error trouble =>
    match fs.get p with
    | .ok (.folder _) => (fs, .ok ())
    | _ => (fs, .error (.refused ⟨trouble, p.text⟩))

/-- Makes the folder and, if they are missing, up to `n` of those above it. -/
def makeFoldersUp (fs : Files) (p : Path) : Nat → Files × Except OpenFault Unit
  | 0 => (fs, .error .tooManyFolders)
  | n + 1 =>
    match fs.makeFolder p with
    | .error .missing =>
      match fs.makeFoldersUp p.parent n with
      | (fs, .ok ()) => fs.settleFolder p (fs.makeFolder p)
      | failed => failed
    | made => fs.settleFolder p made

/-- The most folders that are made at a time. -/
def maxNewFolders : Nat := 985

/-- Makes the folder and those above it, as far as they are not there. -/
def makeFolders (fs : Files) (p : Path) : Files × Except OpenFault Unit :=
  if p.isBroken then (fs, .error .broken) else fs.makeFoldersUp p maxNewFolders

/-! ### Writing -/

/-- The names with the steps to a parent carried out, wherever they would lead. -/
def straighten (fs : Files) (p : Path) : List String :=
  (p.steps.foldl (fun done step => if step = ".." then done.tail else step :: done)
    (fs.origin p).reverse).reverse

/-- How a place is called that a path of that root leads to. -/
def nameOf (fs : Files) (root : String) (names : List String) : String :=
  if fs.here.isPrefixOf names then
    "/".intercalate (fs.hereName :: names.drop fs.here.length)
  else (if root = "" then "/" else root) ++ "/".intercalate names

/-- Opens a file for writing at its end and makes it if it is not there. Gives the names that lead
to it. -/
def openEnd (fs : Files) (p : Path) : Files × Except OpenFault (List String) :=
  let names := fs.straighten p
  let name := fs.nameOf p.root names
  let refuse (t : PathTrouble) : Files × Except OpenFault (List String) :=
    (fs, .error (.refused ⟨t, name⟩))
  if p.isBroken then (fs, .error .broken)
  else if Path.isTooLong name then refuse .tooLong
  else match fs.walk [] names with
    | .ok trail =>
      match fs.content trail with
      | .folder _ => refuse .isFolder
      | .file _ => (fs, .ok names)
    | .error .missing =>
      match fs.walk [] names.dropLast with
      | .ok _ => (fs.put names (.file .empty), .ok names)
      | .error t => refuse t
    | .error t => refuse t

/-- Writes lines at the end of a file. -/
def writeLines (fs : Files) (names : List String) (lines : List String) : Files :=
  match (fs.walk [] names).map fs.content with
  | .ok (.file bytes) =>
    fs.put names (.file (bytes ++ (String.join (lines.map (· ++ "\n"))).toUTF8))
  | _ => fs

end Files

end NodeGate
