import NodeGate.Dict
import NodeGate.Value

/-!
# Checking data

Untyped data becomes typed by a check. A check finds all faults, not only the first: `Checked` is a
value or the list of issues, each with its place in the data. The rules are lenient where intent is
plain: a truth value may be written as a number or a word, text may be given as bytes. Records come
from mappings, whose unknown entries are ignored.
-/

set_option autoImplicit false

namespace NodeGate

/-! ## Issues -/

/-- A step from a value into one of its parts. -/
inductive Segment
  | name (s : String)
  | index (n : Nat)
deriving DecidableEq, Repr

def Segment.text : Segment → String
  | .name s => s
  | .index n => toString n

/-- What is wrong with a value. `rule` is a rule of the record itself, with its words. `unsayable`
is a rule whose words would quote halves of surrogate pairs, so that they cannot be said. -/
inductive Problem
  | missing
  | notText
  | notUnicode
  | notTruthValue
  | notTruthWord
  | notList
  | notTuple
  | notMapping
  | notRecord (model : String)
  | rule (words : String)
  | unsayable
deriving DecidableEq, Repr

namespace Problem

def code : Problem → String
  | missing => "missing"
  | notText => "string_type"
  | notUnicode => "string_unicode"
  | notTruthValue => "bool_type"
  | notTruthWord => "bool_parsing"
  | notList => "list_type"
  | notTuple => "tuple_type"
  | notMapping => "dict_type"
  | notRecord _ => "model_type"
  | rule _ | unsayable => "value_error"

def words : Problem → String
  | missing => "Field required"
  | notText => "Input should be a valid string"
  | notUnicode => "Input should be a valid string, unable to parse raw data as a unicode string"
  | notTruthValue => "Input should be a valid boolean"
  | notTruthWord => "Input should be a valid boolean, unable to interpret input"
  | notList => "Input should be a valid list"
  | notTuple => "Input should be a valid tuple"
  | notMapping => "Input should be a valid dictionary"
  | notRecord model => "Input should be a valid dictionary or instance of " ++ model
  | rule words => "Value error, " ++ words
  | unsayable => "Value error"

end Problem

/-- A problem and where it is. -/
structure Issue where
  place : List Segment
  problem : Problem
deriving DecidableEq, Repr

def Issue.line (i : Issue) : String :=
  let place := ".".intercalate (i.place.map Segment.text)
  s!"{place}: {i.problem.words} [{i.problem.code}]"

/-- Data that is no `model`, with all that is wrong. -/
structure Invalid where
  model : String
  issues : List Issue
deriving DecidableEq, Repr

namespace Invalid

def headline (e : Invalid) : String :=
  let n := e.issues.length
  let errors := if n = 1 then "error" else "errors"
  s!"{n} validation {errors} for {e.model}"

/-- Can all issues be written down? -/
def isSayable (e : Invalid) : Bool := e.issues.all fun i => i.problem != .unsayable

/-- The headline and a line for every issue. -/
def text (e : Invalid) : String := "\n".intercalate (e.headline :: e.issues.map Issue.line)

end Invalid

/-! ## Checks -/

/-- A value, or everything that is wrong with the data it was to come from. -/
abbrev Checked (α : Type) := Except (List Issue) α

namespace Checked

variable {α β : Type}

def fail (p : Problem) : Checked α := .error [⟨[], p⟩]

/-- Both, or the issues of both in order. -/
def both : Checked α → Checked β → Checked (α × β)
  | .ok a, .ok b => .ok (a, b)
  | .ok _, .error e => .error e
  | .error e, .ok _ => .error e
  | .error e, .error f => .error (e ++ f)

/-- Moves the issues into a part of the data. -/
def within (s : Segment) : Checked α → Checked α
  | .ok a => .ok a
  | .error e => .error (e.map fun i => { i with place := s :: i.place })

/-- Names the record that was to be made. -/
def named (model : String) : Checked α → Except Invalid α
  | .ok a => .ok a
  | .error e => .error ⟨model, e⟩

end Checked

namespace Check

variable {α : Type}

/-- Text as it is, which may hold halves of surrogate pairs. -/
def rawText : Value → Checked RawText
  | .text s => .ok (.ofString s)
  | .broken t => .ok t
  | .bytes bs =>
    match String.fromUTF8? ⟨bs.toArray⟩ with
    | some s => .ok (.ofString s)
    | none => Checked.fail .notUnicode
  | _ => Checked.fail .notText

/-- Text that is shown and sent on. What it may hold has rules, by which no half of a surrogate pair
is allowed. -/
def text : Value → Checked String
  | .text s => .ok s
  | .broken _ => Checked.fail .unsayable
  | .bytes bs =>
    match String.fromUTF8? ⟨bs.toArray⟩ with
    | some s => .ok s
    | none => Checked.fail .notUnicode
  | _ => Checked.fail .notText

def optionalText : Value → Checked (Option String)
  | .null => .ok none
  | v => (text v).map some

/-- The words for the truth values, in lower case. -/
def truthOf (word : String) : Option Bool :=
  if ["0", "off", "f", "false", "n", "no"].contains word then some false
  else if ["1", "on", "t", "true", "y", "yes"].contains word then some true else none

def truthWord (s : String) : Checked Bool :=
  match truthOf (s.map Char.toLower) with
  | some b => .ok b
  | none => Checked.fail .notTruthWord

/-- A number is a truth value if it is 0 or 1. A number that does not fit is not even looked at. -/
def truthNumber (i : Int) (fits : Bool) : Checked Bool :=
  if i = 0 then .ok false else if i = 1 then .ok true
  else if fits then Checked.fail .notTruthWord else Checked.fail .notTruthValue

/-- The first integer above those of 64 bits. -/
def wordLimit : Int := 0x8000000000000000

/-- Integers have 64 bits; of floats only those strictly between the ends of that range count. -/
def truth : Value → Checked Bool
  | .bool b => .ok b
  | .int i => truthNumber i (decide (-wordLimit ≤ i ∧ i < wordLimit))
  | .float x =>
    match wholeNumber? x with
    | some i => truthNumber i (decide (-wordLimit < i ∧ i < wordLimit))
    | none => Checked.fail .notTruthValue
  | .text s => truthWord s
  | .broken _ => Checked.fail .notUnicode
  | .bytes bs =>
    match String.fromUTF8? ⟨bs.toArray⟩ with
    | some s => truthWord s
    | none => Checked.fail .notTruthWord
  | _ => Checked.fail .notTruthValue

/-- Checks the items one by one; `n` is the index of the first. -/
def items (check : Value → Checked α) (n : Nat) : List Value → Checked (List α)
  | [] => .ok []
  | v :: rest =>
    (Checked.both (Checked.within (.index n) (check v)) (items check (n + 1) rest)).map
      fun (a, as) => a :: as

def list (check : Value → Checked α) : Value → Checked (List α)
  | .list vs => items check 0 vs
  | _ => Checked.fail .notList

/-- A fixed sequence; a set is taken for one too. -/
def tuple (check : Value → Checked α) : Value → Checked (List α)
  | .list vs | .set vs => items check 0 vs
  | _ => Checked.fail .notTuple

/-- The entries of a dictionary. A bad key has its issue at the place `[key]` under its text. -/
def entries (check : Value → Checked α) : List (Value × Value) → Checked (List (α × α))
  | [] => .ok []
  | (k, v) :: rest =>
    let place := Segment.name k.keyText
    let key := Checked.within place (Checked.within (.name "[key]") (check k))
    let value := Checked.within place (check v)
    (Checked.both (Checked.both key value) (entries check rest)).map fun (e, es) => e :: es

/-- A dictionary whose keys and values pass the same check. -/
def dict [DecidableEq α] (check : Value → Checked α) : Value → Checked (Dict α)
  | .map es => (entries check es).map Dict.ofList
  | _ => Checked.fail .notMapping

/-- The entry `name`, which has to be there. -/
def required (name : String) (check : Value → Checked α) (es : List (Value × Value)) : Checked α :=
  match Value.entry? name es with
  | some v => Checked.within (.name name) (check v)
  | none => Checked.within (.name name) (.fail .missing)

/-- The entry `name`, or the default. -/
def optional (name : String) (default : α) (check : Value → Checked α)
    (es : List (Value × Value)) : Checked α :=
  match Value.entry? name es with
  | some v => Checked.within (.name name) (check v)
  | none => .ok default

/-- The entry under its written name, else under its own, else the default. If both are there the
written name alone counts. -/
def aliased (written own : String) (default : α) (check : Value → Checked α)
    (es : List (Value × Value)) : Checked α :=
  match Value.entry? written es with
  | some v => Checked.within (.name written) (check v)
  | none => optional own default check es

end Check

end NodeGate
