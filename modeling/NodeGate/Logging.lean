import NodeGate.Files.Tree
import NodeGate.Log

/-!
# Logging

Where log records go. A record has to pass the level of its logger, which is that of the nearest
logger above it that has one, and then the level of each handler. There is a handler for the console
and perhaps one for a file.
-/

set_option autoImplicit false

namespace NodeGate

/-! ## State -/

/-- Where a handler writes. A file is given by the names that lead to it. -/
inductive Sink
  | nowhere
  | console
  | file (names : List String)
deriving DecidableEq, Repr

structure Handler where
  sink : Sink
  level : Level
deriving DecidableEq, Repr

/-- The level of the root, the handlers, and the levels of the loggers that have one of their
own. -/
structure Logging where
  root : Level
  handlers : List Handler
  levels : List (String × Level)
deriving DecidableEq, Repr

namespace Logging

/-- Before anything is set up all records count and none is written. -/
def start : Logging := ⟨.debug, [⟨.nowhere, .unset⟩], []⟩

/-- The level that was set for a logger. -/
def ownLevel (lg : Logging) (logger : String) : Level := (lg.levels.lookup logger).getD .unset

/-! ## Records -/

/-- The names above one that is given in reverse. Each ends before a dot, but of two dots in a row
only the later one counts, and none is empty. -/
def shorter : List Char → List (List Char)
  | [] | [_] => []
  | '.' :: c :: rest => (c :: rest) :: shorter rest
  | _ :: rest => shorter rest

/-- A logger and those above it, the nearest first. -/
def above (logger : String) : List String :=
  logger :: (shorter logger.toList.reverse).map fun cs => String.ofList cs.reverse

/-- The level that counts for a logger. -/
def levelFor (lg : Logging) (logger : String) : Level :=
  (((above logger).map lg.ownLevel).find? (· != .unset)).getD lg.root

def passes (lg : Logging) (r : LogRecord) : Bool :=
  decide (0 < r.level.number ∧ (lg.levelFor r.logger).number ≤ r.level.number)

/-- A record without a name is one of the root. -/
def shownName (logger : String) : String := if logger.isEmpty then "root" else logger

/-- The line for a record at a time. -/
def line (time : String) (r : LogRecord) : String :=
  s!"{time} - {shownName r.logger} - {r.level.name} - {r.message}"

/-- The handlers that take a record. -/
def takers (lg : Logging) (r : LogRecord) : List Handler :=
  if lg.passes r then lg.handlers.filter fun h => h.level.number ≤ r.level.number else []

/-- What a record puts on the console. -/
def onConsole (lg : Logging) (time : String) (r : LogRecord) : List String :=
  ((lg.takers r).filter (·.sink = .console)).flatMap fun _ => (line time r).splitOn "\n"

/-- What a record puts into files. -/
def intoFiles (lg : Logging) (time : String) (fs : Files) (r : LogRecord) : Files :=
  (lg.takers r).foldl (fun fs h =>
    match h.sink with
    | .file names => fs.writeLines names [line time r]
    | _ => fs) fs

/-! ## Setting up -/

/-- Why logging could not be set up: the level is none, because nothing has that name, or a text
has, or something else has; or the path of the log file is none, or too many folders above it are
missing. -/
inductive SetUpFault
  | unknownLevel
  | levelNamesText
  | levelNamesOther
  | brokenPath
  | tooManyFolders
deriving DecidableEq, Repr

/-- The letters outside of ASCII, with joined ones among them, that are of ASCII in upper case. -/
def wideUpper : List (Char × String) :=
  [('ı', "I"), ('ſ', "S"), ('ß', "SS"), ('ﬀ', "FF"), ('ﬁ', "FI"), ('ﬂ', "FL"), ('ﬃ', "FFI"),
    ('ﬄ', "FFL"), ('ﬅ', "ST"), ('ﬆ', "ST")]

/-- A word in upper case; letters that stay outside of ASCII are as they are. -/
def upper (word : String) : String :=
  String.join (word.toList.map fun c => (wideUpper.lookup c).getD (String.singleton c.toUpper))

def levelNames : List (String × Level) :=
  [("CRITICAL", .critical), ("FATAL", .critical), ("ERROR", .error), ("WARNING", .warning),
    ("WARN", .warning), ("INFO", .info), ("DEBUG", .debug), ("NOTSET", .unset)]

/-- The names that are taken by something else: the usual format, which is a text, and the table of
the styles of formats. -/
def takenNames : List (String × SetUpFault) :=
  [("BASIC_FORMAT", .levelNamesText), ("_STYLES", .levelNamesOther)]

/-- The level of a name in any case. -/
def levelOf (word : String) : Except SetUpFault Level :=
  let name := upper word
  match levelNames.lookup name with
  | some level => .ok level
  | none => .error ((takenNames.lookup name).getD .unknownLevel)

/-- The loggers of the libraries in use, which say too much. -/
def noisy : List String := ["urllib3", "kubernetes"]

/-- The levels with those of the noisy loggers set, so that only their warnings count. -/
def hush (lg : Logging) : Logging :=
  { lg with
    levels := noisy.map (·, Level.warning) ++ lg.levels.filter fun e => !noisy.contains e.1 }

/-- Opens the log file and makes the folders above it. -/
def openFile (fs : Files) (p : Path) : Files × Except OpenFault (List String) :=
  match fs.makeFolders p.parent with
  | (fs, .ok ()) => fs.openEnd p
  | (fs, .error e) => (fs, .error e)

/-- What setting up came to: the logging and the files, the records of what went wrong on the way,
and the fault that broke it off, if one did. -/
structure Started where
  logging : Logging
  files : Files
  records : List LogRecord
  fault : Option SetUpFault

/-- Adds the handler of the log file. A refusal of the system is not a fault, only a record. -/
def addFile (lg : Logging) (fs : Files) (p : Path) : Started :=
  match openFile fs p with
  | (fs, .ok names) =>
    let handler : Handler := ⟨.file names, .debug⟩
    ⟨{ lg with handlers := lg.handlers ++ [handler] }.hush, fs, [], none⟩
  | (fs, .error (.refused e)) =>
    let trouble : LogRecord := ⟨.warning, "", s!"Failed to create log file handler: {e.text}"⟩
    ⟨lg.hush, fs, [trouble], none⟩
  | (fs, .error .broken) => ⟨lg, fs, [], some .brokenPath⟩
  | (fs, .error .tooManyFolders) => ⟨lg, fs, [], some .tooManyFolders⟩

/-- Replaces all handlers and sets the levels. A level that is none changes nothing; a fault of the
log file leaves only the noisy loggers as they were. -/
def setUp (lg : Logging) (fs : Files) (level : String) (verbose : Bool) (file : Option Path) :
    Started :=
  match levelOf (if verbose then "DEBUG" else level) with
  | .error fault => ⟨lg, fs, [], some fault⟩
  | .ok root =>
    let lg := { lg with root, handlers := [⟨.console, if verbose then .debug else .info⟩] }
    match file with
    | none => ⟨lg.hush, fs, [], none⟩
    | some p => lg.addFile fs p

end Logging

end NodeGate
