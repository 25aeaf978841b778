import NodeGate.Decimal.Binary

/-!
# Bytes as text

Files hold bytes, and text in them is in UTF-8. A file may be text up to some byte only, and it is
decoded in pieces, of which the one with the first byte that fits nowhere is lost as a whole;
`readable` says what is there before it. Line ends of any kind count as newlines.
-/

set_option autoImplicit false

namespace NodeGate.Utf8

/-- The characters from the byte number `i` on, as far as there are any, and the number of the byte
behind them. Each step takes at least one byte. -/
def charsFrom (bytes : ByteArray) : Nat → Nat → List Char × Nat
  | 0, i => ([], i)
  | fuel + 1, i =>
    match bytes.utf8DecodeChar? i with
    | some c =>
      let (more, last) := charsFrom bytes fuel (i + c.utf8Size)
      (c :: more, last)
    | none => ([], i)

def chars (bytes : ByteArray) : List Char × Nat := charsFrom bytes bytes.size 0

/-- Could bytes that follow make a character of what is at byte number `i`? -/
def isBegun (bytes : ByteArray) (i : Nat) : Bool :=
  [1, 2, 3].any fun n => [0x80, 0xbf].any fun b =>
    ((bytes ++ ⟨Array.replicate n b⟩).utf8DecodeChar? i).isSome

/-- Line ends of any kind become newlines. -/
def unifyLines : List Char → List Char
  | '\r' :: '\n' :: rest => '\n' :: unifyLines rest
  | '\r' :: rest => '\n' :: unifyLines rest
  | c :: rest => c :: unifyLines rest
  | [] => []

/-! ## Pieces -/

/-- No byte so far fits nowhere. A character that is only begun at the end spoils nothing. -/
def isSound (bytes : ByteArray) : Bool :=
  let last := (chars bytes).2
  last == bytes.size || isBegun bytes last

/-- The characters of the first bytes of a file. A carriage return at their end is kept back, since a
newline may follow it. -/
def settled (bytes : ByteArray) (size : Nat) : List Char :=
  let cs := (chars (bytes.extract 0 size)).1
  unifyLines (if cs.getLast? = some '\r' then cs.dropLast else cs)

/-- The least size of a piece. -/
def pieceBytes : Nat := 8192

/-- The size of the next piece when `missing` characters are wanted and the piece before had so many
bytes and characters: as much as is needed if bytes and characters go on in that ratio. The ratio is
a float, and so is its product with the number of characters. -/
def nextPiece (bytes chars missing : Nat) : Nat :=
  let ratio : Binary := if chars = 0 || bytes < chars then .ofFraction 1 1 else .ofFraction bytes chars
  max pieceBytes (ratio.times missing).floor

/-- How many bytes there are before the piece that cannot be decoded, or before the end. So far
`size` bytes are decoded, and `bytes₀` and `chars₀` are the numbers for the last piece of them. Each step
takes at least one byte. -/
def soundFrom (bytes : ByteArray) (block : Nat) : Nat → Nat → Nat → Nat → Nat
  | 0, size, _, _ => size
  | fuel + 1, size, bytes₀, chars₀ =>
    let count := (settled bytes size).length
    let next := min bytes.size (size + nextPiece bytes₀ chars₀ (block - count % block))
    if next = size || !isSound (bytes.extract 0 next) then size
    else soundFrom bytes block fuel next (next - size) ((settled bytes next).length - count)

/-- The characters that can be had of a file that is read in blocks of so many characters, and
whether that is all of it. -/
def readable (block : Nat) (bytes : ByteArray) : List Char × Bool :=
  let (cs, last) := chars bytes
  if last = bytes.size then (unifyLines cs, true)
  else (settled bytes (soundFrom bytes block (bytes.size + 1) 0 0 0), false)

end NodeGate.Utf8
