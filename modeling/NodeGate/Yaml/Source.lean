import NodeGate.Text.Utf8
import NodeGate.Yaml.Cursor

/-!
# Sources

A text is read in blocks, and a block that cannot be read is a fault only for those who get so far:
if something is wrong further up, that is found first. A `Source` is what can be read of a text and
what becomes of those who read on.
-/

set_option autoImplicit false

namespace NodeGate.Yaml

/-- The characters that can be read, and the fault behind them if they are not all. -/
structure Source where
  chars : List Char
  after : Option Fault

namespace Source

/-- The number of characters in a block. The first two blocks are read together. -/
def blockLength : Nat := 4096

/-- Where the blocks begin that are read together with the character number `n`. -/
def blockStart (n : Nat) : Nat := if n < 2 * blockLength then 0 else n - n % blockLength

/-- The number of the first character that may not stand in a document. -/
def firstForbidden? (cs : List Char) : Option Nat := cs.findIdx? fun c => !isAllowed c

/-- A block that is no text is found to be so before the characters in it are looked at. -/
def ofBytes (bytes : ByteArray) : Source :=
  let (cs, isAll) := Utf8.readable blockLength bytes
  let spoiled := if isAll then none else some (blockStart cs.length)
  match spoiled, (firstForbidden? cs).map blockStart with
  | none, none => ⟨cs, none⟩
  | some n, none => ⟨cs.take n, some .notUnicode⟩
  | none, some n => ⟨cs.take n, some .malformed⟩
  | some n, some m =>
    if m < n then ⟨cs.take m, some .malformed⟩ else ⟨cs.take n, some .notUnicode⟩

end Source

end NodeGate.Yaml
