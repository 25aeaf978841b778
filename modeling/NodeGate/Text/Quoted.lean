import NodeGate.Text.Printable

/-!
# Quoted text

Log lines and error texts show a string between quotes, on one line and with nothing invisible in
it. The quote is `'`, but `"` where the string holds a `'` and no `"`. The quote itself and the
backslash are escaped by a backslash, the common blanks have their letters, and any other character
that cannot be printed is given by its code point. Bytes are shown the same way.
-/

set_option autoImplicit false

namespace NodeGate.Quoted

/-- The last `width` hexadecimal digits of `n`. -/
def hex (width n : Nat) : List Char :=
  let digits := Nat.toDigits 16 n
  List.replicate (width - digits.length) '0' ++ digits

/-- The quote for a text that holds these characters. -/
def quoteFor (cs : List Char) : Char :=
  if cs.contains '\x27' && !cs.contains '"' then '"' else '\x27'

/-- What is common to characters and bytes. -/
def common (quote c : Char) : Option (List Char) :=
  if c = quote || c = '\\' then some ['\\', c]
  else if c = '\t' then some ['\\', 't']
  else if c = '\n' then some ['\\', 'n']
  else if c = '\r' then some ['\\', 'r']
  else none

def escape (quote c : Char) : List Char :=
  match common quote c with
  | some cs => cs
  | none =>
    if isPrintable c then [c]
    else if c.toNat < 0x100 then '\\' :: 'x' :: hex 2 c.toNat
    else if c.toNat < 0x10000 then '\\' :: 'u' :: hex 4 c.toNat
    else '\\' :: 'U' :: hex 8 c.toNat

/-- The text between quotes. -/
def text (s : String) : String :=
  let quote := quoteFor s.toList
  String.ofList (quote :: s.toList.flatMap (escape quote) ++ [quote])

/-- The bytes between quotes, after the letter `b`; what is not printable ASCII by its number. -/
def bytes (bs : List UInt8) : String :=
  let cs := bs.map fun b => Char.ofNat b.toNat
  let quote := quoteFor cs
  let escapeByte (c : Char) : List Char :=
    match common quote c with
    | some cs => cs
    | none => if 0x20 ≤ c.toNat ∧ c.toNat < 0x7f then [c] else '\\' :: 'x' :: hex 2 c.toNat
  String.ofList ('b' :: quote :: cs.flatMap escapeByte ++ [quote])

/-- The quoted texts in brackets, with commas between them. -/
def list (ss : List String) : String := "[" ++ ", ".intercalate (ss.map text) ++ "]"

end NodeGate.Quoted
