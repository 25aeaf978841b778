import NodeGate.Decimal.Binary

/-!
# Written numbers

Integers and decimal fractions as people write them: blanks around, a sign, digits of any script,
and single underscores between digits. `Numeral.integer?` reads a number in some base, with the mark
of the base in front or without it, and `Numeral.float?` a decimal fraction. `Numeral.whole?` reads
the numbers of the command line.
-/

set_option autoImplicit false

namespace NodeGate.Numeral

/-! ## Digits -/

/-- The zeros of all scripts. The nine other digits of a script follow its zero. -/
def zeros : List Nat :=
  [ 0x30, 0x660, 0x6F0, 0x7C0, 0x966, 0x9E6, 0xA66, 0xAE6, 0xB66, 0xBE6, 0xC66, 0xCE6, 0xD66,
    0xDE6, 0xE50, 0xED0, 0xF20, 0x1040, 0x1090, 0x17E0, 0x1810, 0x1946, 0x19D0, 0x1A80, 0x1A90,
    0x1B50, 0x1BB0, 0x1C40, 0x1C50, 0xA620, 0xA8D0, 0xA900, 0xA9D0, 0xA9F0, 0xAA50, 0xABF0,
    0xFF10, 0x104A0, 0x10D30, 0x11066, 0x110F0, 0x11136, 0x111D0, 0x112F0, 0x11450, 0x114D0,
    0x11650, 0x116C0, 0x11730, 0x118E0, 0x11950, 0x11C50, 0x11D50, 0x11DA0, 0x16A60, 0x16AC0,
    0x16B50, 0x1D7CE, 0x1D7D8, 0x1D7E2, 0x1D7EC, 0x1D7F6, 0x1E140, 0x1E2F0, 0x1E950, 0x1FBF0 ]

/-- A digit of any script as one of ASCII; other characters as they are. -/
def plainDigit (c : Char) : Char :=
  match zeros.find? fun z => z ≤ c.toNat && c.toNat < z + 10 with
  | some z => Char.ofNat ('0'.toNat + (c.toNat - z))
  | none => c

/-- The value of a digit of ASCII in a base up to 16, where letters go on after 9. -/
def digitIn? (base : Nat) (c : Char) : Option Nat :=
  let value? :=
    if c.isDigit then some (c.toNat - '0'.toNat)
    else if 'a' ≤ c ∧ c ≤ 'f' then some (c.toNat - 'a'.toNat + 10)
    else if 'A' ≤ c ∧ c ≤ 'F' then some (c.toNat - 'A'.toNat + 10)
    else none
  value?.filter (· < base)

/-- The values of digits with single underscores between them. `inside` says that a digit came last,
so that an underscore or the end may follow. -/
def digitsFrom? (base : Nat) (inside : Bool) : List Char → Option (List Nat)
  | [] => if inside then some [] else none
  | c :: rest =>
    if c = '_' then (if inside then digitsFrom? base false rest else none)
    else do return (← digitIn? base c) :: (← digitsFrom? base true rest)

def digits? (base : Nat) (cs : List Char) : Option (List Nat) := digitsFrom? base false cs

def ofDigits (base : Nat) (ds : List Nat) : Nat := ds.foldl (fun n d => n * base + d) 0

/-! ## Around the digits -/

/-- The blanks of all scripts. -/
def isBlank (c : Char) : Bool :=
  c == ' ' || ('\t' ≤ c && c ≤ '\r') || c == '\x85' || c == '\xa0' || c == '\u1680' ||
    ('\u2000' ≤ c && c ≤ '\u200a') || c == '\u2028' || c == '\u2029' || c == '\u202f' ||
    c == '\u205f' || c == '\u3000'

def trim (cs : List Char) : List Char :=
  ((cs.dropWhile isBlank).reverse.dropWhile isBlank).reverse

/-- Digits of any script as those of ASCII, and blanks and separators of any kind as spaces; other
characters as they are. -/
def plain (c : Char) : Char :=
  if isBlank c || ('\x1c' ≤ c && c ≤ '\x1f') then ' ' else plainDigit c

/-- A number without the blanks around it. Only text that is not in ASCII is made plain before. -/
def normal (cs : List Char) : List Char :=
  trim (if cs.all fun c => c.toNat < 128 then cs else cs.map plain)

/-- Is there a minus sign, and what follows the sign. -/
def sign : List Char → Bool × List Char
  | '-' :: rest => (true, rest)
  | '+' :: rest => (false, rest)
  | cs => (false, cs)

/-- The letter that marks a base. -/
def baseMark : Nat → Option Char
  | 2 => some 'b'
  | 8 => some 'o'
  | 16 => some 'x'
  | _ => none

/-- What follows the mark of the base, if it is there. -/
def dropMark (base : Nat) (cs : List Char) : List Char :=
  match cs with
  | '0' :: c :: rest =>
    if baseMark base ≠ some c.toLower then cs
    else if rest.head? = some '_' then rest.tail else rest
  | _ => cs

/-- The longest decimal integer that is read. -/
def maxDigits : Nat := 4300

/-! ## Numbers -/

def integer? (base : Nat) (cs : List Char) : Option Int := do
  let (negative, cs) := sign (normal cs)
  let ds ← digits? base (dropMark base cs)
  if base = 10 ∧ maxDigits < ds.length then none
  let n : Int := ofDigits base ds
  return if negative then -n else n

/-- Nothing, or a point and zeros. -/
def isZeroFraction : List Char → Bool
  | [] => true
  | _ :: zeros => !zeros.isEmpty && zeros.all (· == '0')

/-- Leading zeros count for nothing, and neither do underscores among them, single or not. What comes
last of them stays if no other digit follows. -/
def dropZeros (cs : List Char) : List Char :=
  match cs with
  | '0' :: rest =>
    let zeros := rest.takeWhile fun c => c == '0' || c == '_'
    let rest := rest.dropWhile fun c => c == '0' || c == '_'
    if (rest.headD ' ').isDigit then rest else zeros.getLastD '0' :: rest
  | _ => cs

/-- A whole number in ASCII, of at most `maxDigits` bytes. It may have a fraction of zeros. -/
def whole? (cs : List Char) : Option Int := do
  let cs := trim cs
  if maxDigits < (String.ofList cs).utf8ByteSize then none
  let (negative, cs) := sign cs
  let cs := dropZeros cs
  let n : Int := ofDigits 10 (← digits? 10 (cs.takeWhile (· != '.')))
  if !isZeroFraction (cs.dropWhile (· != '.')) then none
  return if negative then -n else n

/-- Like `digits?` in base 10, but there may be none. -/
def maybeDigits? (cs : List Char) : Option (List Nat) :=
  if cs.isEmpty then some [] else digits? 10 cs

/-- May the character stand in a row of digits? -/
def inRow (c : Char) : Bool := c.isDigit || c == '_'

/-- The exponent at the end of a decimal fraction. -/
def exponent? : List Char → Option Int
  | [] => some 0
  | c :: rest =>
    if c == 'e' || c == 'E' then do
      let (negative, rest) := sign rest
      let n : Int := ofDigits 10 (← digits? 10 rest)
      return if negative then -n else n
    else none

/-- An unsigned decimal fraction. -/
def fraction? (cs : List Char) : Option Float := do
  let whole ← maybeDigits? (cs.takeWhile inRow)
  let rest := cs.dropWhile inRow
  let (part, rest) := match rest with
    | '.' :: rest => (rest.takeWhile inRow, rest.dropWhile inRow)
    | _ => ([], rest)
  let part ← maybeDigits? part
  if whole.isEmpty && part.isEmpty then none
  return nearestFloat (ofDigits 10 (whole ++ part)) ((← exponent? rest) - part.length)

/-- A decimal fraction, or a word for what is no finite number. -/
def float? (cs : List Char) : Option Float := do
  let (negative, cs) := sign (normal cs)
  let word := (String.ofList cs).toLower
  let x ← if word = "inf" ∨ word = "infinity" then some (1.0 / 0.0)
    else if word = "nan" then some (0.0 / 0.0)
    else fraction? cs
  return if negative then -x else x

end NodeGate.Numeral
