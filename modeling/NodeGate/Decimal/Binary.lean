/-!
# Floating-point numbers exactly

Every finite float is an integer times a power of two. `Binary` is that integer and that power, and
`wholeNumber?` the integer a float stands for, if it stands for one; comparing a float with an
integer goes through it, so no digit is lost.
-/

set_option autoImplicit false

namespace NodeGate

/-- The magnitude `mantissa · 2 ^ exponent` of a finite float. `narrow` says that the gap below it
is half the gap above, which is so at the powers of two. -/
structure Binary where
  mantissa : Nat
  exponent : Int
  narrow : Bool

/-- Decodes the bits of a finite float; the sign bit is not looked at. -/
def Binary.ofBits (bits : Nat) : Binary :=
  let fraction := bits % Nat.pow 2 52
  let biased : Nat := bits / Nat.pow 2 52 % Nat.pow 2 11
  if biased = 0 then ⟨fraction, -1074, false⟩
  else ⟨Nat.pow 2 52 + fraction, Int.ofNat biased - 1075, fraction == 0 && decide (1 < biased)⟩

/-- `num / den` rounded to an integer, a half to the even one. -/
def roundHalfEven (num den : Nat) : Nat :=
  let low := num / den
  match compare (2 * (num % den)) den with
  | .lt => low
  | .gt => low + 1
  | .eq => low + low % 2

/-- The float nearest to `num / den`, which is between 1 and `2 ^ 53`. -/
def Binary.ofFraction (num den : Nat) : Binary :=
  let places := 52 - Nat.log2 (num / den)
  let mantissa := roundHalfEven (num * Nat.pow 2 places) den
  ⟨mantissa, -Int.ofNat places, mantissa % Nat.pow 2 52 == 0⟩

/-- The integer part of a float that is not above `2 ^ 53`. -/
def Binary.floor (b : Binary) : Nat := b.mantissa / Nat.pow 2 (-b.exponent).toNat

/-- The product of a float and an integer, as a float again. -/
def Binary.times (b : Binary) (n : Nat) : Binary :=
  .ofFraction (b.mantissa * n) (Nat.pow 2 (-b.exponent).toNat)

/-- The integer that the float is, if it is one. -/
def wholeNumber? (x : Float) : Option Int :=
  if x.isNaN || x.isInf then none
  else
    let bits := x.toBits.toNat
    let b := Binary.ofBits bits
    let scale := Nat.pow 2 (-b.exponent).toNat
    if b.mantissa % scale = 0 then
      let n : Int := Int.ofNat (b.mantissa / scale * Nat.pow 2 b.exponent.toNat)
      some (if bits / Nat.pow 2 63 = 1 then -n else n)
    else none

/-- The float nearest to `digits · 10 ^ exponent`. Far outside the range of floats the answer is
known without computing the power. -/
def nearestFloat (digits : Nat) (exponent : Int) : Float :=
  let size : Int := (Nat.toDigits 10 digits).length + exponent
  if digits = 0 || size < -400 then 0.0
  else if 400 < size then 1.0 / 0.0
  else if 0 ≤ exponent then Float.ofScientific digits false exponent.toNat
  else Float.ofScientific digits true (-exponent).toNat

end NodeGate
