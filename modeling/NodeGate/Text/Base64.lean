/-!
# Bytes as text in base 64

Four characters of six bits each hold three bytes. Characters outside of the alphabet are skipped,
so line breaks do not matter. The sign `=` fills up the last group; a group that is not full is a
fault.
-/

set_option autoImplicit false

namespace NodeGate.Base64

/-- The value of a character of the alphabet. -/
def sextet? (c : Char) : Option Nat :=
  if 'A' ≤ c ∧ c ≤ 'Z' then some (c.toNat - 'A'.toNat)
  else if 'a' ≤ c ∧ c ≤ 'z' then some (c.toNat - 'a'.toNat + 26)
  else if '0' ≤ c ∧ c ≤ '9' then some (c.toNat - '0'.toNat + 52)
  else if c = '+' then some 62
  else if c = '/' then some 63
  else none

/-- Reads on within a group: `group` are its sextets so far, and `fill` counts the signs that fill
it up. Once it is full of both, the rest of the text is not looked at. -/
def decodeFrom (group : List Nat) (fill : Nat) : List Char → Option (List UInt8)
  | [] => if group.isEmpty then some [] else none
  | c :: rest =>
    if c = '=' then
      if 2 ≤ group.length then
        if 4 ≤ group.length + fill + 1 then some [] else decodeFrom group (fill + 1) rest
      else decodeFrom group fill rest
    else
      match sextet? c with
      | none => decodeFrom group fill rest
      | some n =>
        match group with
        | [] => decodeFrom [n] 0 rest
        | [a] => ((a * 4 + n / 16).toUInt8 :: ·) <$> decodeFrom [a, n] 0 rest
        | [a, b] => ((b % 16 * 16 + n / 4).toUInt8 :: ·) <$> decodeFrom [a, b, n] 0 rest
        | _ => ((group.getLastD 0 % 4 * 64 + n).toUInt8 :: ·) <$> decodeFrom [] 0 rest

def decode? (cs : List Char) : Option (List UInt8) := decodeFrom [] 0 cs

end NodeGate.Base64
