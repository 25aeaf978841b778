/-!
# Days and moments

The calendar that clocks and policy files use: days of the years 1 to 9999, and moments, which are a
day, a time of day to the microsecond and perhaps a distance from UTC. The gate formats moments in
two ways: as the stamp it writes on nodes (`Moment.stamp`) and in full (`Moment.full`).
-/

set_option autoImplicit false

namespace NodeGate

/-- The decimal digits of `n`, filled up with zeros on the left to `width`. -/
def padded (width n : Nat) : String :=
  let digits := Nat.toDigits 10 n
  String.ofList (List.replicate (width - digits.length) '0' ++ digits)

/-! ## Days -/

/-- A day by its numbers, which need not be one of the calendar; see `Day.Valid`. -/
structure Day where
  year : Nat
  month : Nat
  day : Nat
deriving DecidableEq, Repr

namespace Day

/-- Every fourth year is a leap year, but of the full centuries only every fourth. -/
def isLeapYear (year : Nat) : Bool := year % 4 == 0 && (year % 100 != 0 || year % 400 == 0)

def lastOfMonth (year month : Nat) : Nat :=
  if month == 2 then (if isLeapYear year then 29 else 28)
  else if month == 4 || month == 6 || month == 9 || month == 11 then 30 else 31

/-- Is it a day of the calendar, in the years 1 to 9999? -/
def isValid (d : Day) : Bool :=
  decide (1 ≤ d.year ∧ d.year ≤ 9999 ∧ 1 ≤ d.month ∧ d.month ≤ 12 ∧ 1 ≤ d.day) &&
    decide (d.day ≤ lastOfMonth d.year d.month)

def next (d : Day) : Day :=
  if d.day < lastOfMonth d.year d.month then { d with day := d.day + 1 }
  else if d.month < 12 then ⟨d.year, d.month + 1, 1⟩ else ⟨d.year + 1, 1, 1⟩

def previous (d : Day) : Day :=
  if 1 < d.day then { d with day := d.day - 1 }
  else if 1 < d.month then ⟨d.year, d.month - 1, lastOfMonth d.year (d.month - 1)⟩
  else ⟨d.year - 1, 12, 31⟩

/-- The day that is `n` days after the first of 1970. Years are counted from March, so that a leap
day is the last of its year, and in spans of 400 years, which all have 146097 days. -/
def ofNumber (n : Nat) : Day :=
  let z := n + 719468
  let inSpan := z % 146097
  let year := (inSpan - inSpan / 1460 + inSpan / 36524 - inSpan / 146096) / 365
  let inYear := inSpan - (365 * year + year / 4 - year / 100)
  let month := (5 * inYear + 2) / 153
  let first := year + z / 146097 * 400
  ⟨if month < 10 then first else first + 1, if month < 10 then month + 3 else month - 9,
    inYear - (153 * month + 2) / 5 + 1⟩

/-- The day as `2024-01-02`. -/
def text (d : Day) : String := padded 4 d.year ++ "-" ++ padded 2 d.month ++ "-" ++ padded 2 d.day

end Day

/-! ## Moments -/

/-- A time on a day. `offset` is the distance of the wall clock from UTC in seconds, east counted
positive; without it the moment is only what some wall clock shows. -/
structure Moment where
  day : Day
  hour : Nat
  minute : Nat
  second : Nat
  micro : Nat
  offset : Option Int
deriving DecidableEq, Repr

namespace Moment

def isValid (m : Moment) : Bool :=
  m.day.isValid && decide (m.hour < 24 ∧ m.minute < 60 ∧ m.second < 60 ∧ m.micro < 1000000) &&
    (match m.offset with
      | none => true
      | some o => decide (-86400 < o ∧ o < 86400))

/-- The same instant on a clock that shows UTC. An offset is under a day, so at most one day is
carried. -/
def toUtc (m : Moment) : Moment :=
  match m.offset with
  | none => m
  | some o =>
    let seconds : Int := (m.hour * 3600 + m.minute * 60 + m.second : Nat) - o
    let (day, seconds) :=
      if seconds < 0 then (m.day.previous, seconds + 86400)
      else if 86400 ≤ seconds then (m.day.next, seconds - 86400)
      else (m.day, seconds)
    let n := seconds.toNat
    { day, hour := n / 3600, minute := n / 60 % 60, second := n % 60, micro := m.micro,
      offset := some 0 }

/-- The moment that is so many seconds after the begin of 1970, on a clock that shows UTC. -/
def ofSeconds (n : Nat) : Moment where
  day := .ofNumber (n / 86400)
  hour := n / 3600 % 24
  minute := n / 60 % 60
  second := n % 60
  micro := 0
  offset := some 0

/-- Do the two stand for the same point in time? One with an offset and one without never do. -/
def same (m n : Moment) : Bool :=
  m.offset.isSome == n.offset.isSome && m.toUtc == n.toUtc

/-- What the wall clock shows, to the second, in the form of the stamp that is written on nodes. The
year has no zeros in front. -/
def stamp (m : Moment) : String :=
  toString m.day.year ++ "-" ++ padded 2 m.day.month ++ "-" ++ padded 2 m.day.day ++
    "T" ++ padded 2 m.hour ++ ":" ++ padded 2 m.minute ++ ":" ++ padded 2 m.second ++ "Z"

/-- What the wall clock shows, in the form of log lines. -/
def logTime (m : Moment) : String :=
  m.day.text ++ " " ++ padded 2 m.hour ++ ":" ++ padded 2 m.minute ++ ":" ++ padded 2 m.second

/-- The moment in UTC, in full; the fraction only if there is one. -/
def full (m : Moment) : String :=
  let u := m.toUtc
  u.day.text ++ "T" ++ padded 2 u.hour ++ ":" ++ padded 2 u.minute ++ ":" ++ padded 2 u.second ++
    (if u.micro == 0 then "" else "." ++ padded 6 u.micro) ++ "+00:00"

/-! ## Reading -/

/-- Takes exactly `count` decimal digits. -/
def takeDigits (count : Nat) (cs : List Char) : Option (Nat × List Char) :=
  let ds := cs.take count
  if ds.length = count ∧ ds.all Char.isDigit = true then
    some (ds.foldl (fun n c => n * 10 + (c.toNat - '0'.toNat)) 0, cs.drop count)
  else none

/-- Takes the character `c`. -/
def takeChar (c : Char) : List Char → Option (List Char)
  | d :: rest => if d = c then some rest else none
  | [] => none

/-- The digits after the point as microseconds; what is finer is dropped. -/
def microsOf (digits : List Char) : Nat :=
  ((digits ++ List.replicate 6 '0').take 6).foldl (fun n c => n * 10 + (c.toNat - '0'.toNat)) 0

/-- Takes two digits and what separates them from those before. A part that is not there is zero. -/
def takePart (separator : Char) (cs : List Char) : Option (Nat × List Char) :=
  match takeChar separator cs with
  | some rest => takeDigits 2 rest
  | none => some (0, cs)

/-- Reads the offset at the end: nothing, `Z`, or a sign with hours and perhaps minutes and
seconds. -/
def readOffset : List Char → Option (Option Int)
  | [] => some none
  | ['Z'] => some (some 0)
  | sign :: rest =>
    if sign = '+' ∨ sign = '-' then do
      let (hours, rest) ← takeDigits 2 rest
      let (minutes, rest) ← (takeDigits 2 rest).or (takePart ':' rest)
      let (seconds, rest) ← takePart ':' rest
      if !rest.isEmpty then none
      let total : Int := (hours * 3600 + minutes * 60 + seconds : Nat)
      some (some (if sign = '-' then -total else total))
    else none

/-- Reads `2024-01-02T03:04:05`, perhaps with a fraction and an offset. The time may be cut short or
left out. -/
def read? (text : String) : Option Moment := do
  let (year, cs) ← takeDigits 4 text.toList
  let (month, cs) ← takeDigits 2 (← takeChar '-' cs)
  let (day, cs) ← takeDigits 2 (← takeChar '-' cs)
  let (hour, cs) ← if cs.isEmpty then some (0, cs) else takeDigits 2 cs.tail
  let (minute, cs) ← takePart ':' cs
  let (second, cs) ← takePart ':' cs
  let (micro, cs) := match cs with
    | '.' :: rest | ',' :: rest =>
      (microsOf (rest.takeWhile Char.isDigit), rest.dropWhile Char.isDigit)
    | _ => (0, cs)
  let offset ← readOffset cs
  let m : Moment := { day := ⟨year, month, day⟩, hour, minute, second, micro, offset }
  if m.isValid then some m else none

end Moment

end NodeGate
