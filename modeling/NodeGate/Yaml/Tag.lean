import NodeGate.Decimal.Numeral
import NodeGate.Text.Base64
import NodeGate.Text.Pattern
import NodeGate.Value
import NodeGate.Yaml.Scalar

/-!
# Tags and what scalars mean

Every node of a document has a tag, which says what kind of value it is. A tag is written, or
follows from how the node is written: `Tag.ofPlain` recognises the plain scalars that are no text.
`scalarValue` gives the value of a scalar under its tag.
-/

set_option autoImplicit false

namespace NodeGate.Yaml

/-! ## Tags -/

/-- The kinds of values. `merge` and `default` are the tags of the two keys that mean something in a
mapping; they and `unknown` have no values of their own. -/
inductive Tag
  | null
  | bool
  | int
  | float
  | binary
  | moment
  | text
  | sequence
  | mapping
  | set
  | orderedMap
  | pairs
  | merge
  | default
  | unknown
deriving DecidableEq, Repr

namespace Tag

/-- The tags of the standard, by their names. -/
def names : List (String × Tag) :=
  [("null", null), ("bool", bool), ("int", int), ("float", float), ("binary", binary),
    ("timestamp", moment), ("str", text), ("seq", sequence), ("map", mapping), ("set", set),
    ("omap", orderedMap), ("pairs", pairs), ("merge", merge), ("value", default)]

/-- The stem of all tags of the standard. -/
def stem : String := "tag:yaml.org,2002:"

def ofText (s : String) : Tag :=
  ((names.find? fun e => stem ++ e.1 == s).map Prod.snd).getD unknown

/-- Does the tag stand for a collection? Collections are never keys. -/
def isCollection : Tag → Bool
  | sequence | mapping | set | orderedMap | pairs => true
  | _ => false

/-! ## Plain scalars -/

def digit : Pattern := .one Char.isDigit

/-- Digits behind a first one, and underscores among them. -/
def digits : Pattern := .many (.one fun c => c.isDigit || c == '_')

def signs : Pattern := .one fun c => c == '+' || c == '-'

/-- One or more parts of a number in base 60 behind the first. -/
def sixtieths : Pattern :=
  .some (.seq [.char ':', .maybe (.one fun c => '0' ≤ c && c ≤ '5'), digit])

def boolPattern : Pattern :=
  .words ["yes", "Yes", "YES", "no", "No", "NO", "true", "True", "TRUE", "false", "False", "FALSE",
    "on", "On", "ON", "off", "Off", "OFF"]

def floatPattern : Pattern :=
  let exponent : Pattern := .seq [.one fun c => c == 'e' || c == 'E', signs, .some digit]
  .any [
    .seq [.maybe signs, digit, digits, .char '.', digits, .maybe exponent],
    .seq [.char '.', digit, digits, .maybe exponent],
    .seq [.maybe signs, digit, digits, sixtieths, .char '.', digits],
    .seq [.maybe signs, .words [".inf", ".Inf", ".INF"]],
    .words [".nan", ".NaN", ".NAN"]]

def intPattern : Pattern :=
  let first : Pattern := .one fun c => '1' ≤ c && c ≤ '9'
  let among (p : Char → Bool) : Pattern := .some (.one fun c => p c || c == '_')
  .cat (.maybe signs) (.any [
    .cat (.word "0b") (among fun c => c == '0' || c == '1'),
    .cat (.char '0') (among fun c => '0' ≤ c && c ≤ '7'),
    .char '0',
    .cat first digits,
    .cat (.word "0x") (among fun c => (hexDigit? c).isSome),
    .seq [first, digits, sixtieths]])

/-- A day, or a day and a time; the time may have a fraction and a distance from UTC. -/
def momentPattern : Pattern :=
  let two : Pattern := .cat digit digit
  let oneOrTwo : Pattern := .cat digit (.maybe digit)
  let blank : Pattern := .one fun c => c == ' ' || c == '\t'
  let offset : Pattern :=
    .either (.char 'Z') (.seq [signs, oneOrTwo, .maybe (.cat (.char ':') two)])
  .any [
    .seq [two, two, .char '-', two, .char '-', two],
    .seq [two, two, .char '-', oneOrTwo, .char '-', oneOrTwo,
      .either (.one fun c => c == 'T' || c == 't') (.some blank),
      oneOrTwo, .char ':', two, .char ':', two, .maybe (.cat (.char '.') (.many digit)),
      .maybe (.cat (.many blank) offset)]]

def nullPattern : Pattern := .words ["~", "null", "Null", "NULL"]

/-- What plain scalars may be besides text, with the patterns that they are recognised by. -/
def plainPatterns : List (Tag × Pattern) :=
  [(bool, boolPattern), (float, floatPattern), (int, intPattern), (merge, .word "<<"),
    (null, nullPattern), (moment, momentPattern), (default, .word "="),
    (unknown, .words ["!", "&", "*"])]

/-- The tag of a plain scalar. -/
def ofPlain (cs : List Char) : Tag :=
  if cs.isEmpty then null
  else ((plainPatterns.find? fun e => e.2.acceptsLine cs).map Prod.fst).getD text

end Tag

/-! ## Numbers and truth values -/

def dropUnderscores (cs : List Char) : List Char := cs.filter (· != '_')

/-- The value of digits in base 60; each is given by a number of its own. -/
def ofSixtieths {α : Type} [Add α] [Mul α] (zero sixty : α) (parts : List α) : α :=
  parts.foldl (fun n part => n * sixty + part) zero

/-- The parts between colons. -/
def splitColons (cs : List Char) : List (List Char) :=
  cs.foldr (fun c parts =>
    if c = ':' then [] :: parts
    else match parts with
      | part :: rest => (c :: part) :: rest
      | [] => [[c]]) [[]]

/-- The integer without its sign: in base 2, 8, 16, 60 or 10, as its form says. -/
def unsignedInteger? (cs : List Char) : Option Int :=
  if cs = ['0'] then some 0
  else match cs with
    | '0' :: 'b' :: rest => Numeral.integer? 2 rest
    | '0' :: 'x' :: rest => Numeral.integer? 16 rest
    | '0' :: _ => Numeral.integer? 8 cs
    | _ =>
      if cs.contains ':' then
        ((splitColons cs).mapM (Numeral.integer? 10)).map (ofSixtieths 0 60)
      else Numeral.integer? 10 cs

def integerOf (cs : List Char) : Except Fault Int := do
  let cs := dropUnderscores cs
  let (negative, digits) := Numeral.sign cs
  if cs.isEmpty || digits.isEmpty then throw (.scalar .emptyNumber)
  let some n := unsignedInteger? digits | throw (.scalar .badNumber)
  return if negative then -n else n

/-- The sum of the parts in base 60, from the last to the first. The power of each has to fit. -/
def sixtiethFloat (parts : List Float) : Except Fault Float := do
  let (sum, _) ← parts.reverse.foldlM (fun (sum, power) part => do
    let x := nearestFloat power 0
    if x.isInf then throw (.scalar .tooLarge)
    return (sum + part * x, power * 60)) ((0.0 : Float), (1 : Nat))
  return sum

/-- A written fraction without underscores, in small letters. -/
def plainFraction (cs : List Char) : List Char := (dropUnderscores cs).map Char.toLower

/-- Does the text spell out what is no number? -/
def spellsNaN (cs : List Char) : Bool := (Numeral.sign (plainFraction cs)).2 == ".nan".toList

def floatOf (cs : List Char) : Except Fault Float := do
  if (dropUnderscores cs).isEmpty then throw (.scalar .emptyNumber)
  let (negative, digits) := Numeral.sign (plainFraction cs)
  let number (x? : Option Float) : Except Fault Float :=
    x?.elim (.error (.scalar .badNumber)) .ok
  let x ← if digits = ".inf".toList then pure (1.0 / 0.0)
    else if spellsNaN cs then pure (0.0 / 0.0)
    else if digits.contains ':' then do
      let some parts := (splitColons digits).mapM Numeral.float? | throw (.scalar .badNumber)
      sixtiethFloat parts
    else number (Numeral.float? digits)
  return if negative then -x else x

def truthOf (cs : List Char) : Except Fault Bool :=
  let word := String.ofList (cs.map Char.toLower)
  if ["yes", "true", "on"].contains word then .ok true
  else if ["no", "false", "off"].contains word then .ok false
  else .error (.scalar .badTruthWord)

/-! ## Days and moments -/

/-- Takes one or two digits. -/
def oneOrTwo (cs : List Char) : Option (Nat × List Char) :=
  (Moment.takeDigits 2 cs).or (Moment.takeDigits 1 cs)

def isBlank (c : Char) : Bool := c == ' ' || c == '\t'

/-- Nothing more, or a newline. -/
def atTextEnd (cs : List Char) : Bool := cs.isEmpty || cs == ['\n']

/-- A year, month and day. -/
def readDay (cs : List Char) : Option (Day × List Char) := do
  let (year, cs) ← Moment.takeDigits 4 cs
  let (month, cs) ← oneOrTwo (← Moment.takeChar '-' cs)
  let (day, cs) ← oneOrTwo (← Moment.takeChar '-' cs)
  return (⟨year, month, day⟩, cs)

/-- The distance from UTC at the end. -/
def readZone (cs : List Char) : Option (Option Int) := do
  match cs.dropWhile isBlank with
  | 'Z' :: rest => if atTextEnd rest then some (some 0) else none
  | c :: rest =>
    if c != '+' && c != '-' then (if atTextEnd cs then some none else none)
    else
      let (hours, rest) ← oneOrTwo rest
      let (minutes, rest) ← match rest with
        | ':' :: rest => Moment.takeDigits 2 rest
        | _ => some (0, rest)
      if !atTextEnd rest then none
      let total : Int := (hours * 3600 + minutes * 60 : Nat)
      return some (if c = '-' then -total else total)
  | [] => if atTextEnd cs then some none else none

/-- The time of day and the distance from UTC behind a day. -/
def readTime (day : Day) (cs : List Char) : Option Moment := do
  let rest ← match cs with
    | c :: rest =>
      if c = 'T' ∨ c = 't' then some rest
      else if isBlank c then some (rest.dropWhile isBlank) else none
    | [] => none
  let (hour, rest) ← oneOrTwo rest
  let (minute, rest) ← Moment.takeDigits 2 (← Moment.takeChar ':' rest)
  let (second, rest) ← Moment.takeDigits 2 (← Moment.takeChar ':' rest)
  let (micro, rest) := match rest with
    | '.' :: rest => (Moment.microsOf (rest.takeWhile Char.isDigit), rest.dropWhile Char.isDigit)
    | _ => (0, rest)
  return ⟨day, hour, minute, second, micro, ← readZone rest⟩

/-- A day, or a moment if a time follows it. Both have to be of the calendar. -/
def momentOf (cs : List Char) : Except Fault Value :=
  match readDay cs with
  | none => .error (.scalar .badMoment)
  | some (day, rest) =>
    if atTextEnd rest then
      if day.isValid then .ok (.day day) else .error (.scalar .badNumber)
    else
      match readTime day rest with
      | none => .error (.scalar .badMoment)
      | some m => if m.isValid then .ok (.moment m) else .error (.scalar .badNumber)

/-! ## Scalars -/

/-- Bytes are written in base 64, with ASCII characters only. -/
def bytesOf (cs : List Char) : Except Fault (List UInt8) :=
  if cs.all fun c => c.toNat < 128 then
    match Base64.decode? cs with
    | some bytes => .ok bytes
    | none => .error .malformed
  else .error .malformed

/-- Are there scalars of the tag that have values? -/
def Tag.isScalar : Tag → Bool
  | .null | .bool | .int | .float | .binary | .moment | .text => true
  | _ => false

/-- The value of a scalar under its tag. Only text may hold halves of surrogate pairs; elsewhere
what is shown for them fits nowhere either. -/
def scalarValue (tag : Tag) (t : RawText) : Except Fault Value :=
  match tag with
  | .null => .ok .null
  | .bool => (truthOf t.shownChars).map .bool
  | .int => (integerOf t.shownChars).map .int
  | .float => (floatOf t.shownChars).map .float
  | .binary => (bytesOf t.shownChars).map .bytes
  | .moment => momentOf t.shownChars
  | .text => .ok (t.string?.elim (.broken t) .text)
  | _ => .error .malformed

end NodeGate.Yaml
