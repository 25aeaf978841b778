import NodeGate.Calendar
import NodeGate.Decimal.Shortest
import NodeGate.Text.Quoted
import NodeGate.Text.Raw

/-!
# Untyped data

What a policy file or an API object holds before it is checked: a tree of scalars, lists, sets and
mappings. A mapping keeps its entries in order and may have keys of any kind.
-/

set_option autoImplicit false

namespace NodeGate

/-- Untyped data. `broken` is text that holds halves of surrogate pairs. -/
inductive Value
  | null
  | bool (b : Bool)
  | int (i : Int)
  | float (x : Float)
  | text (s : String)
  | broken (t : RawText)
  | bytes (bs : List UInt8)
  | day (d : Day)
  | moment (m : Moment)
  | list (items : List Value)
  | set (items : List Value)
  | map (entries : List (Value × Value))
deriving Inhabited

namespace Value

/-- The name of the kind of data, as error texts give it. -/
def kind : Value → String
  | null => "NoneType"
  | bool _ => "bool"
  | int _ => "int"
  | float _ => "float"
  | text _ | broken _ => "str"
  | bytes _ => "bytes"
  | day _ => "date"
  | moment _ => "datetime"
  | list _ => "list"
  | set _ => "set"
  | map _ => "dict"

/-- Does the value count as absent where a default stands in for absent values? Nothing, zero and
everything empty does. -/
def isBlank : Value → Bool
  | null => true
  | bool b => !b
  | int i => i == 0
  | float x => x == 0.0
  | text s => s.isEmpty
  | bytes bs => bs.isEmpty
  | list items | set items => items.isEmpty
  | map entries => entries.isEmpty
  | broken _ | day _ | moment _ => false

/-- The integer that a number stands for; a truth value counts as 0 or 1. -/
def integer? : Value → Option Int
  | bool b => some (if b then 1 else 0)
  | int i => some i
  | float x => wholeNumber? x
  | _ => none

/-- Do the two count as one key of a mapping? Numbers do by value, whatever their kind; what is no
number differs from everything. -/
def sameKey : Value → Value → Bool
  | null, null => true
  | text s, text t => s == t
  | broken s, broken t => s == t
  | bytes s, bytes t => s == t
  | day d, day e => d == e
  | moment m, moment n => m.same n
  | float x, float y => x == y
  | v, w =>
    match v.integer?, w.integer? with
    | some i, some j => i == j
    | _, _ => false

/-- The fields of a moment from the year down, without the zeros of second and microsecond. -/
def momentFields (m : Moment) : List Nat :=
  let upToMinute := [m.day.year, m.day.month, m.day.day, m.hour, m.minute]
  if m.micro != 0 then upToMinute ++ [m.second, m.micro]
  else if m.second != 0 then upToMinute ++ [m.second] else upToMinute

/-- The clause that shows the offset of a moment. A negative offset is a day less and the rest of
that day. -/
def offsetClause : Option Int → List String
  | none => []
  | some 0 => ["tzinfo=datetime.timezone.utc"]
  | some o =>
    let delta := if o < 0 then s!"days=-1, seconds={o + 86400}" else s!"seconds={o}"
    [s!"tzinfo=datetime.timezone(datetime.timedelta({delta}))"]

/-- Integers with more digits than this are not written out. -/
def maxShownDigits : Nat := 4300

def integerText (i : Int) : String :=
  if i.natAbs < Nat.pow 10 maxShownDigits then toString i else "<unprintable int object>"

/-- How a key is shown in the place of an error. Collections are never keys. -/
def keyText : Value → String
  | null => "None"
  | bool b => if b then "1" else "0"
  | int i => integerText i
  | float x => Shortest.text x
  | text s => s
  | broken t => t.shown
  | bytes bs => Quoted.bytes bs
  | day d => s!"datetime.date({d.year}, {d.month}, {d.day})"
  | moment m =>
    "datetime.datetime(" ++
      ", ".intercalate ((momentFields m).map toString ++ offsetClause m.offset) ++ ")"
  | list _ | set _ | map _ => ""

/-- The value at the text key `name`. -/
def entry? (name : String) (entries : List (Value × Value)) : Option Value :=
  entries.findSome? fun
    | (text key, value) => if key = name then some value else none
    | _ => none

end Value

end NodeGate
