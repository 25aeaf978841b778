/-!
# Log records

What the gate reports while it works: a level, the name of the logger and a message.
-/

set_option autoImplicit false

namespace NodeGate

/-- Levels are numbers; the usual ones have names. -/
structure Level where
  number : Int
deriving DecidableEq, Repr

namespace Level

def unset : Level := ⟨0⟩
def debug : Level := ⟨10⟩
def info : Level := ⟨20⟩
def warning : Level := ⟨30⟩
def error : Level := ⟨40⟩
def critical : Level := ⟨50⟩

def name (l : Level) : String :=
  if l = unset then "NOTSET" else if l = debug then "DEBUG" else if l = info then "INFO"
  else if l = warning then "WARNING" else if l = error then "ERROR"
  else if l = critical then "CRITICAL" else s!"Level {l.number}"

end Level

structure LogRecord where
  level : Level
  logger : String
  message : String
deriving DecidableEq, Repr

/-- The name of the logger for a part of the gate. -/
def loggerOf (part : String) : String := "readiness_gate." ++ part

/-- Does the record come from the gate itself? -/
def LogRecord.isOwn (r : LogRecord) : Bool := r.logger.startsWith (loggerOf "")

end NodeGate
