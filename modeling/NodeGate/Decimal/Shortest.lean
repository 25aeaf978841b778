import NodeGate.Decimal.Binary

/-!
# The shortest decimal of a floating-point number

A binary floating-point number is written with the fewest decimal digits that read back as the same
number, and of those with the nearest. `Shortest.digits` finds them: it takes the interval of reals
that round to the number, and for one digit, two digits and so on tests the two neighbours of the
number on that decimal grid in exact arithmetic. `Shortest.text` lays the digits out.
-/

set_option autoImplicit false

namespace NodeGate.Shortest

/-- The number and the ends of its rounding interval over one denominator. -/
structure Interval where
  low : Nat
  value : Nat
  high : Nat
  denominator : Nat
  closed : Bool

def Interval.around (b : Binary) : Interval :=
  let up := Nat.pow 2 b.exponent.toNat
  { low := (4 * b.mantissa - (if b.narrow then 1 else 2)) * up
    value := 4 * b.mantissa * up
    high := (4 * b.mantissa + 2) * up
    denominator := 4 * Nat.pow 2 (-b.exponent).toNat
    closed := b.mantissa % 2 == 0 }

/-- Is `d · 10 ^ k` in the interval? -/
def Interval.holds (i : Interval) (d : Nat) (k : Int) : Bool :=
  let x := d * Nat.pow 10 k.toNat * i.denominator
  let scale := Nat.pow 10 (-k).toNat
  if i.closed then decide (i.low * scale ≤ x ∧ x ≤ i.high * scale)
  else decide (i.low * scale < x ∧ x < i.high * scale)

/-- The decimal exponent of the first digit. No finite float is below `10 ^ -340`. -/
def Interval.magnitude (i : Interval) : Int :=
  ((Nat.toDigits 10 (i.value * Nat.pow 10 340 / i.denominator)).length : Int) - 341

/-- The neighbours of the number among the multiples of `10 ^ k`: the one inside the interval, the
nearer if both are, the even one at a tie. -/
def Interval.onGrid (i : Interval) (k : Int) : Option Nat :=
  let top := i.value * Nat.pow 10 (-k).toNat
  let bottom := i.denominator * Nat.pow 10 k.toNat
  let d := top / bottom
  match i.holds d k, i.holds (d + 1) k with
  | false, false => none
  | true, false => some d
  | false, true => some (d + 1)
  | true, true =>
    let twice := 2 * (top % bottom)
    if twice < bottom then some d
    else if bottom < twice then some (d + 1)
    else some (if d % 2 == 0 then d else d + 1)

/-- The first grid with a hit, tried from the coarsest: `tries` digits at most. -/
def Interval.search (i : Interval) (k : Int) : Nat → Nat × Int
  | 0 => (0, k)
  | tries + 1 =>
    match i.onGrid k with
    | some d => (d, k)
    | none => i.search (k - 1) tries

/-- Drops zeros at the end. -/
def trim : List Char → Int → List Char × Int
  | ds, k =>
    let zeros := (ds.reverse.takeWhile (· == '0')).length
    (ds.take (ds.length - zeros), k + zeros)

/-- The digits and the exponent of the last of them. Seventeen digits always suffice. -/
def digits (b : Binary) : List Char × Int :=
  let i := Interval.around b
  let (d, k) := i.search i.magnitude 18
  trim (Nat.toDigits 10 d) k

/-- Positional between `0.0001` and `10 ^ 16`, with at least one digit on both sides of the point;
otherwise with an exponent of at least two digits and its sign. -/
def layout (ds : List Char) (k : Int) : String :=
  let first : Int := k + ds.length - 1
  if -4 ≤ first ∧ first < 16 then
    if 0 ≤ k then String.ofList (ds ++ List.replicate k.toNat '0') ++ ".0"
    else if 0 ≤ first then
      let n := (first + 1).toNat
      String.ofList (ds.take n) ++ "." ++ String.ofList (ds.drop n)
    else "0." ++ String.ofList (List.replicate (-first - 1).toNat '0' ++ ds)
  else
    let point := if ds.length ≤ 1 then "" else "." ++ String.ofList (ds.drop 1)
    let size := toString first.natAbs
    String.ofList (ds.take 1) ++ point ++ "e" ++ (if first < 0 then "-" else "+") ++
      (if size.length < 2 then "0" ++ size else size)

/-- The shortest text that reads back as `x`. -/
def text (x : Float) : String :=
  let bits := x.toBits.toNat
  let sign := if bits / Nat.pow 2 63 = 1 then "-" else ""
  if x.isNaN then "nan"
  else if x.isInf then sign ++ "inf"
  else if bits % Nat.pow 2 63 = 0 then sign ++ "0.0"
  else
    let (ds, k) := digits (Binary.ofBits bits)
    sign ++ layout ds k

end NodeGate.Shortest
