import NodeGate.Decimal.Numeral

/-!
# Command lines

What may stand on the command line. Options of the program come first, then the command, then its
options and arguments in any order. An option has a long name and perhaps a letter; letters may be
joined, and a value may be joined to its option. Of an option that is given twice the last value
counts. `Globals.read` and `Command.read` say what a line asks for.
-/

set_option autoImplicit false

namespace NodeGate

/-! ## Options -/

/-- The options that the program and its commands know. -/
inductive OptionName
  | verbose
  | logFile
  | config
  | kubeconfig
  | dryRun
  | all
  | resync
  | help
deriving DecidableEq, Repr

namespace OptionName

def long : OptionName → String
  | verbose => "--verbose"
  | logFile => "--log-file"
  | config => "--config"
  | kubeconfig => "--kubeconfig"
  | dryRun => "--dry-run"
  | all => "--all"
  | resync => "--resync"
  | help => "--help"

def letter? : OptionName → Option Char
  | verbose => some 'v'
  | config => some 'c'
  | all => some 'a'
  | _ => none

def takesValue : OptionName → Bool
  | logFile | config | kubeconfig | resync => true
  | _ => false

end OptionName

/-- The line is wrong, or asks for help. In neither case anything is done. -/
inductive Halt
  | usage
  | help
deriving DecidableEq, Repr

/-- What is given: options with their values, in order, and arguments. -/
structure Given where
  options : List (OptionName × String)
  arguments : List String

namespace Given

def nothing : Given := ⟨[], []⟩

def withOption (name : OptionName) (value : String) (g : Given) : Given :=
  { g with options := (name, value) :: g.options }

def withArgument (arg : String) (g : Given) : Given := { g with arguments := arg :: g.arguments }

def has (g : Given) (name : OptionName) : Bool := g.options.any (·.1 == name)

/-- The last value of an option. -/
def value? (g : Given) (name : OptionName) : Option String := g.options.reverse.lookup name

/-! ## Reading options -/

/-- The name and the value on both sides of the first `=`. -/
def splitValue (arg : String) : String × Option String :=
  let cs := arg.toList
  match cs.dropWhile (· != '=') with
  | _ :: value => (String.ofList (cs.takeWhile (· != '=')), some (String.ofList value))
  | [] => (arg, none)

/-- What the letters of one argument stand for. An option that takes a value takes the rest of the
argument, or else the next argument; then it is `pending`. -/
def letters (known : List OptionName) : List Char →
    Except Halt (List (OptionName × String) × Option OptionName)
  | [] => .ok ([], none)
  | c :: more =>
    match known.find? fun name => name.letter? == some c with
    | none => .error .usage
    | some name =>
      if name.takesValue then
        if more.isEmpty then .ok ([], some name) else .ok ([(name, String.ofList more)], none)
      else do
        let (options, pending) ← letters known more
        return ((name, "") :: options, pending)

/-- What an argument that begins with `-` stands for; an option may still need its value. -/
def optionsOf (known : List OptionName) (arg : String) :
    Except Halt (List (OptionName × String) × Option OptionName) :=
  let (name, value) := splitValue arg
  match known.find? fun o => o.long == name with
  | some o =>
    match o.takesValue, value with
    | true, some v => .ok ([(o, v)], none)
    | true, none => .ok ([], some o)
    | false, some _ => .error .usage
    | false, none => .ok ([(o, "")], none)
  | none => if arg.startsWith "--" then .error .usage else letters known (arg.toList.drop 1)

def isOption (arg : String) : Bool := arg.startsWith "-" && arg != "-"

/-- Reads arguments. `pending` is an option that still needs its value, which may be any argument.
Behind `--` there are no options any more. Unless options are `mixed` with arguments there are none
behind the first argument. -/
def read (known : List OptionName) (mixed : Bool) :
    Option OptionName → List String → Except Halt Given
  | some _, [] => .error .usage
  | some name, arg :: more => (read known mixed none more).map (withOption name arg)
  | none, [] => .ok nothing
  | none, arg :: more =>
    if arg = "--" then .ok ⟨[], more⟩
    else if isOption arg then do
      let (options, pending) ← optionsOf known arg
      let g ← read known mixed pending more
      return { g with options := options ++ g.options }
    else if mixed then (read known mixed none more).map (withArgument arg)
    else .ok ⟨[], arg :: more⟩

/-- As `read`, but a line that asks for help asks for nothing else. -/
def readAll (known : List OptionName) (mixed : Bool) (args : List String) : Except Halt Given := do
  let g ← read (.help :: known) mixed none args
  if g.has .help then throw .help
  return g

end Given

/-! ## Commands -/

/-- The options in front of the command. An empty file name counts as none. -/
structure Globals where
  verbose : Bool
  logFile : Option String
deriving DecidableEq, Repr

/-- The options that `reconcile` and `watch` share. -/
structure Common where
  config : String
  kubeconfig : Option String
  dryRun : Bool
deriving DecidableEq, Repr

inductive Command
  | version
  | validate (config : String)
  | reconcile (node : Option String) (all : Bool) (common : Common)
  | watch (resync : Int) (common : Common)
deriving DecidableEq, Repr

/-- The commands by name. -/
inductive CommandName
  | version
  | validate
  | reconcile
  | watch
deriving DecidableEq, Repr

def CommandName.ofText? (s : String) : Option CommandName :=
  [("version", version), ("validate-config", validate), ("reconcile", reconcile),
    ("watch", watch)].lookup s

/-- What stands in front of the command, the command, and the arguments behind it. -/
def Globals.read (args : List String) : Except Halt (Globals × CommandName × List String) := do
  let g ← Given.readAll [.verbose, .logFile] false args
  match g.arguments with
  | [] => throw .usage
  | name :: rest =>
    let some name := CommandName.ofText? name | throw .usage
    return (⟨g.has .verbose, (g.value? .logFile).filter (· != "")⟩, name, rest)

namespace Command

/-- Where the policy is: as the option says, else as it was preset, else in the usual place. An
empty preset counts as none. -/
def configOf (preset : Option String) (g : Given) : String :=
  ((g.value? .config).or (preset.filter (· != ""))).getD "config.yaml"

def commonOf (preset : Option String) (g : Given) : Common :=
  ⟨configOf preset g, g.value? .kubeconfig, g.has .dryRun⟩

/-- The policy file that a command reads. -/
def config? : Command → Option String
  | version => none
  | validate config => some config
  | reconcile _ _ common | watch _ common => some common.config

/-- The seconds between two listings, if nothing else is given. -/
def usualResync : Int := 300

def resyncOf (g : Given) : Except Halt Int :=
  match g.value? .resync with
  | none => .ok usualResync
  | some s =>
    match Numeral.whole? s.toList with
    | some n => .ok n
    | none => .error .usage

/-- No arguments but those options. -/
def readOptions (known : List OptionName) (args : List String) : Except Halt Given := do
  let g ← Given.readAll known true args
  if g.arguments.isEmpty then return g else throw .usage

/-- What a command with its arguments asks for. The place of the policy may be preset. -/
def read (preset : Option String) (name : CommandName) (args : List String) :
    Except Halt Command := do
  match name with
  | .version =>
    let _ ← readOptions [] args
    return .version
  | .validate =>
    let g ← readOptions [.config] args
    return .validate (configOf preset g)
  | .reconcile =>
    let g ← Given.readAll [.all, .config, .kubeconfig, .dryRun] true args
    match g.arguments with
    | [] => return .reconcile none (g.has .all) (commonOf preset g)
    | [node] => return .reconcile (some node) (g.has .all) (commonOf preset g)
    | _ => throw .usage
  | .watch =>
    let g ← readOptions [.config, .kubeconfig, .dryRun, .resync] args
    return .watch (← resyncOf g) (commonOf preset g)

end Command

end NodeGate
