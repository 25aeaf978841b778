import NodeGate.Text.Raw
import NodeGate.Yaml.Cursor

/-!
# Written scalars

A scalar is written plain, between quotes or as a block of lines. Each of the functions here takes a
cursor at the first character and gives the text and the place behind it. Within a scalar a single
line break counts as a blank, and of several the first is dropped; a block keeps its breaks unless
it is folded.
-/

set_option autoImplicit false

namespace NodeGate.Yaml

/-- What stands for a line break and the breaks of the empty lines behind it. -/
def foldBreaks (first : Char) (more : List Char) : List Char :=
  (if first != '\n' then [first] else if more.isEmpty then [' '] else []) ++ more

/-! ## Plain scalars -/

/-- The word at the head of the text. Inside brackets the marks of collections end a word too. -/
def plainWord (inFlow : Bool) : List Char → List Char
  | [] => []
  | c :: rest =>
    if isGap c || (c == ':' && endsKey rest) ||
        (inFlow && [',', '?', '[', ']', '{', '}'].contains c) then []
    else c :: plainWord inFlow rest
where
  /-- Is a colon before this text the mark of a key? -/
  endsKey (rest : List Char) : Bool :=
    atGap rest || (inFlow && [',', '[', ']', '{', '}'].contains (rest.headD ' '))

/-- The breaks of empty lines and the place behind them; nothing if a separator line comes. -/
def plainBreaks : Nat → Cursor → Option (List Char) × Cursor
  | 0, cur => (some [], cur)
  | fuel + 1, cur =>
    let cur := cur.skipSpaces
    match cur.lineBreak? with
    | none => (some [], cur)
    | some (c, cur) =>
      if isSeparator cur.rest then (none, cur)
      else
        let (more, cur) := plainBreaks fuel cur
        (more.map (c :: ·), cur)

/-- What may lie between two words of a plain scalar: its text (empty if the scalar ends here), the
place behind it, and whether a line ended. -/
def plainSpaces (cur : Cursor) : List Char × Cursor × Bool :=
  let (blanks, cur) := cur.span (· == ' ')
  match cur.lineBreak? with
  | none => (blanks, cur, false)
  | some (c, cur) =>
    if isSeparator cur.rest then ([], cur, true)
    else
      match plainBreaks (cur.left + 1) cur with
      | (some more, cur) => (foldBreaks c more, cur, true)
      | (none, cur) => ([], cur, true)

/-- The words of a plain scalar from here on. Outside of brackets a line that is indented less than
`indent` does not belong to it. Also says whether the scalar ran up to the end of a line. -/
def plainFrom (inFlow : Bool) (indent : Int) : Nat → Cursor → List Char × Cursor × Bool
  | 0, cur => ([], cur, false)
  | fuel + 1, cur =>
    let word := plainWord inFlow cur.rest
    let (spaces, after, lineEnded) := plainSpaces (cur.forward word.length)
    if spaces.isEmpty || after.rest.head? = some '#' ||
        (!inFlow && (after.column : Int) < indent) then
      (word, after, lineEnded)
    else if (plainWord inFlow after.rest).isEmpty then (word, after, lineEnded)
    else
      let (more, last, lineEnded) := plainFrom inFlow indent fuel after
      (word ++ spaces ++ more, last, lineEnded)

def plain (inFlow : Bool) (indent : Int) (cur : Cursor) : List Char × Cursor × Bool :=
  plainFrom inFlow indent (cur.left + 1) cur

/-! ## Quoted scalars -/

/-- The escapes of a single letter. -/
def letterEscapes : List (Char × Char) :=
  [('0', '\x00'), ('a', '\x07'), ('b', '\x08'), ('t', '\t'), ('\t', '\t'), ('n', '\n'),
    ('v', '\x0b'), ('f', '\x0c'), ('r', '\r'), ('e', '\x1b'), (' ', ' '), ('"', '"'),
    ('\\', '\\'), ('/', '/'), ('N', '\x85'), ('_', '\xa0'), ('L', '\u2028'), ('P', '\u2029')]

/-- The escapes by number, with the count of their digits. -/
def numberEscapes : List (Char × Nat) := [('x', 2), ('u', 4), ('U', 8)]

/-- The text for a code point, which may be half of a surrogate pair. Numbers beyond the code points
are bad, and those that take more than 31 bits are not even numbers of characters. -/
def codePoint (n : Nat) : Except Fault RawText :=
  if n.isValidChar then .ok (.ofChars [Char.ofNat n])
  else if n < 0x110000 then .ok ⟨[.half n]⟩
  else if n < Nat.pow 2 31 then .error (.scalar .badNumber)
  else .error (.scalar .tooLarge)

/-- The breaks of empty lines within quotes. A separator line may not come. -/
def quotedBreaks : Nat → Cursor → Except Fault (List Char × Cursor)
  | 0, cur => .ok ([], cur)
  | fuel + 1, cur => do
    if isSeparator cur.rest then throw .malformed
    let cur := cur.skip fun c => c == ' ' || c == '\t'
    match cur.lineBreak? with
    | none => return ([], cur)
    | some (c, cur) =>
      let (more, cur) ← quotedBreaks fuel cur
      return (c :: more, cur)

/-- The blanks and line breaks that are here. -/
def quotedSpaces (cur : Cursor) : Except Fault (List Char × Cursor) := do
  let (blanks, cur) := cur.span fun c => c == ' ' || c == '\t'
  match cur.lineBreak? with
  | none => if cur.rest.isEmpty then throw .unfinished else return (blanks, cur)
  | some (c, cur) =>
    let (more, cur) ← quotedBreaks (cur.left + 1) cur
    return (foldBreaks c more, cur)

/-- What an escape stands for; the cursor is behind the backslash. An escaped line break and the
blanks around it stand for nothing. -/
def escape (cur : Cursor) : Except Fault (RawText × Cursor) := do
  match cur.rest with
  | [] => throw .unfinished
  | c :: rest =>
    if let some d := letterEscapes.lookup c then return (.ofChars [d], cur.next)
    if let some count := numberEscapes.lookup c then
      let digits := rest.take count
      let some n := hexNumber? digits | throw .malformed
      if digits.length < count then throw .unfinished
      return (← codePoint n, cur.forward (count + 1))
    if isBreak c then
      let (more, cur) ← quotedBreaks (cur.left + 1) cur.next
      return (.ofChars more, cur)
    throw .malformed

/-- The text up to the closing quote. -/
def quotedFrom (quote : Char) : Nat → Cursor → Except Fault (RawText × Cursor)
  | 0, _ => .error .malformed
  | fuel + 1, cur => do
    match cur.rest with
    | [] => throw .unfinished
    | c :: rest =>
      let (part, cur) ←
        if c == quote then
          if quote == '\x27' && rest.head? == some quote then
            pure (RawText.ofChars [quote], cur.forward 2)
          else return (.empty, cur.next)
        else if c == '\\' && quote == '"' then escape cur.next
        else if isGap c then
          let (spaces, cur) ← quotedSpaces cur
          pure (RawText.ofChars spaces, cur)
        else pure (RawText.ofChars [c], cur.next)
      let (more, cur) ← quotedFrom quote fuel cur
      return (part ++ more, cur)

/-- A scalar between two of the characters that it begins with. -/
def quoted (cur : Cursor) : Except Fault (RawText × Cursor) :=
  quotedFrom (cur.rest.headD '"') (cur.left + 1) cur.next

/-! ## Blocks -/

/-- What is kept of the breaks at the end of a block. -/
inductive Chomping
  | clip
  | strip
  | keep
deriving DecidableEq

/-- The marks behind the sign of a block, in either order: what to chomp and how far to indent. -/
def blockHeader (cur : Cursor) : Except Fault (Chomping × Option Nat × Cursor) := do
  let (chomping, cur) := chomp cur
  let (indent, cur) ← digit cur
  let (chomping, cur) := if chomping = .clip && indent.isSome then chomp cur else (chomping, cur)
  if !atSpace cur.rest then throw .malformed
  let some cur := cur.endLine? | throw .malformed
  return (chomping, indent, cur)
where
  chomp (cur : Cursor) : Chomping × Cursor :=
    match cur.rest with
    | '+' :: _ => (.keep, cur.next)
    | '-' :: _ => (.strip, cur.next)
    | _ => (.clip, cur)
  digit (cur : Cursor) : Except Fault (Option Nat × Cursor) :=
    match cur.rest with
    | c :: _ =>
      if c == '0' then .error .malformed
      else if c.isDigit then .ok (some (c.toNat - '0'.toNat), cur.next)
      else .ok (none, cur)
    | [] => .ok (none, cur)

/-- The empty lines before a block whose indentation is to be found: their breaks, and the widest
indentation among them and the first line of text. -/
def blockIndentation : Nat → Nat → Cursor → List Char × Nat × Cursor
  | 0, widest, cur => ([], widest, cur)
  | fuel + 1, widest, cur =>
    let cur := cur.skipSpaces
    let widest := max widest cur.column
    match cur.lineBreak? with
    | none => ([], widest, cur)
    | some (c, cur) =>
      let (more, widest, cur) := blockIndentation fuel widest cur
      (c :: more, widest, cur)

/-- Over blanks, but not beyond the column. -/
def blockIndent (indent : Nat) (cur : Cursor) : Cursor :=
  cur.forward ((cur.rest.takeWhile (· == ' ')).length.min (indent - cur.column))

/-- The breaks of the empty lines that are here; then at most the indentation is skipped. -/
def blockBreaks (indent : Nat) : Nat → Cursor → List Char × Cursor
  | 0, cur => ([], cur)
  | fuel + 1, cur =>
    let cur := blockIndent indent cur
    match cur.lineBreak? with
    | none => ([], cur)
    | some (c, cur) =>
      let (more, cur) := blockBreaks indent fuel cur
      (c :: more, cur)

/-- Is here a line of the block? -/
def inBlock (indent : Nat) (cur : Cursor) : Bool := cur.column == indent && !cur.rest.isEmpty

/-- Does the line begin with a blank? Such lines are not folded. -/
def isIndented (cs : List Char) : Bool := [' ', '\t'].contains (cs.headD '\n')

/-- The lines of a block from here on: the text, the break behind the last line, and the breaks of
the empty lines after it. -/
def blockLines (folded : Bool) (indent : Nat) :
    Nat → List Char → Cursor → List Char × List Char × List Char × Cursor
  | 0, breaks, cur => ([], [], breaks, cur)
  | fuel + 1, breaks, cur =>
    if !inBlock indent cur then ([], [], breaks, cur)
    else
      let (line, after) := cur.span (!isBreak ·)
      let (ending, below) := match after.lineBreak? with
        | some (c, below) => ([c], below)
        | none => ([], after)
      let (more, below) := blockBreaks indent (below.left + 1) below
      if inBlock indent below then
        let join :=
          if folded && ending == ['\n'] && !isIndented cur.rest && !isIndented below.rest then
            if more.isEmpty then [' '] else []
          else ending
        let (text, last, trailing, cur) := blockLines folded indent fuel more below
        (breaks ++ line ++ join ++ text, last, trailing, cur)
      else (breaks ++ line, ending, more, below)

/-- A block of lines; the cursor is at its sign. It is indented by more than `parent`. -/
def block (parent : Int) (cur : Cursor) : Except Fault (List Char × Cursor) := do
  let folded := cur.rest.head? == some '>'
  let (chomping, increment, cur) ← blockHeader cur.next
  let least := (max (parent + 1) 1).toNat
  let (breaks, indent, cur) := match increment with
    | some n =>
      let indent := least + n - 1
      let (breaks, cur) := blockBreaks indent (cur.left + 1) cur
      (breaks, indent, cur)
    | none =>
      let (breaks, widest, cur) := blockIndentation (cur.left + 1) 0 cur
      (breaks, max least widest, cur)
  let (text, last, trailing, cur) := blockLines folded indent (cur.left + 1) breaks cur
  return match chomping with
    | .strip => (text, cur)
    | .clip => (text ++ last, cur)
    | .keep => (text ++ last ++ trailing, cur)

end NodeGate.Yaml
