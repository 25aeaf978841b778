/-!
# Reading positions

YAML is read from left to right, and how a line is read depends on where in it one stands. A
`Cursor` is a place in the text: what follows it and how much that is, and its line and column.
-/

set_option autoImplicit false

namespace NodeGate.Yaml

/-! ## Faults -/

/-- Why a scalar has no value of the kind that its tag asks for. `notPlain` is a moment that is
written as a mapping. -/
inductive ScalarFault
  | badNumber
  | emptyNumber
  | tooLarge
  | badTruthWord
  | badMoment
  | notPlain
deriving DecidableEq, Repr

/-- Why a text is no document: it breaks the rules of YAML, it ends too early, it is no text at all,
it is nested too deep, or a scalar in it has no value. -/
inductive Fault
  | malformed
  | unfinished
  | notUnicode
  | tooDeep
  | scalar (why : ScalarFault)
deriving DecidableEq, Repr

/-! ## Characters -/

/-- The characters that may stand in a document. -/
def isAllowed (c : Char) : Bool :=
  c == '\t' || c == '\n' || c == '\r' || c == '\x85' || ('\x20' ≤ c && c ≤ '\x7e') ||
    ('\xa0' ≤ c && c ≤ '\ufffd') || 0x10000 ≤ c.toNat

def isBreak (c : Char) : Bool := c == '\n' || c == '\x85' || c == '\u2028' || c == '\u2029'

def isGap (c : Char) : Bool := c == ' ' || c == '\t' || isBreak c

/-- Letters, digits, `-` and `_` make up the names of anchors, handles and directives. -/
def isWord (c : Char) : Bool := c.isAlphanum || c == '-' || c == '_'

/-- The digit's value in base 16. -/
def hexDigit? (c : Char) : Option Nat :=
  if c.isDigit then some (c.toNat - '0'.toNat)
  else if 'a' ≤ c ∧ c ≤ 'f' then some (c.toNat - 'a'.toNat + 10)
  else if 'A' ≤ c ∧ c ≤ 'F' then some (c.toNat - 'A'.toNat + 10)
  else none

/-- The number that a row of digits in base 16 stands for. -/
def hexNumber? (cs : List Char) : Option Nat :=
  cs.foldl (fun n c => do return (← n) * 16 + (← hexDigit? c)) (some 0)

/-- At the end of the text, of the line or of a word? -/
def atGap (cs : List Char) : Bool :=
  match cs with
  | [] => true
  | c :: _ => isGap c

/-- At the end of the text or of the line? -/
def atLineEnd (cs : List Char) : Bool :=
  match cs with
  | [] => true
  | c :: _ => isBreak c

/-- As `atGap`, but a tab does not count. -/
def atSpace (cs : List Char) : Bool :=
  match cs with
  | [] => true
  | c :: _ => c == ' ' || isBreak c

/-- Does the line begin with the mark, and nothing else right behind it? -/
def isMark (mark : Char) : List Char → Bool
  | a :: b :: c :: rest => a == mark && b == mark && c == mark && atGap rest
  | _ => false

/-- A line that begins or ends a document. -/
def isSeparator (cs : List Char) : Bool := isMark '-' cs || isMark '.' cs

/-! ## Cursors -/

/-- `left` is the length of `rest`. -/
structure Cursor where
  rest : List Char
  left : Nat
  line : Nat
  column : Nat

namespace Cursor

def start (text : List Char) : Cursor := ⟨text, text.length, 0, 0⟩

/-- Moves over one character. A byte order mark has no width. -/
def next (cur : Cursor) : Cursor :=
  match cur.rest with
  | [] => cur
  | c :: rest =>
    if isBreak c then ⟨rest, cur.left - 1, cur.line + 1, 0⟩
    else ⟨rest, cur.left - 1, cur.line, if c = '\ufeff' then cur.column else cur.column + 1⟩

def forward : Nat → Cursor → Cursor
  | 0, cur => cur
  | n + 1, cur => forward n cur.next

/-- The characters from here on that pass the test, and the place behind them. -/
def span (p : Char → Bool) (cur : Cursor) : List Char × Cursor :=
  let cs := cur.rest.takeWhile p
  (cs, cur.forward cs.length)

def skip (p : Char → Bool) (cur : Cursor) : Cursor := (cur.span p).2

/-- What is wrong if something else was to be here. -/
def fault (cur : Cursor) : Fault := if cur.rest.isEmpty then .unfinished else .malformed

def skipSpaces (cur : Cursor) : Cursor := cur.skip (· == ' ')

/-- Over a comment, if here is one, to the end of the line. -/
def skipComment (cur : Cursor) : Cursor :=
  if cur.rest.head? = some '#' then cur.skip (!isBreak ·) else cur

/-- The line break that is here, and the place behind it. All but the two Unicode separators count
as a newline. -/
def lineBreak? (cur : Cursor) : Option (Char × Cursor) :=
  match cur.rest with
  | c :: _ =>
    if isBreak c then some (if c = '\u2028' ∨ c = '\u2029' then c else '\n', cur.next) else none
  | [] => none

/-- Behind the line break, if here is one. -/
def skipBreak (cur : Cursor) : Cursor := if cur.lineBreak?.isSome then cur.next else cur

/-- The rest of a line that may hold nothing but blanks and a comment. -/
def endLine? (cur : Cursor) : Option Cursor :=
  let cur := cur.skipSpaces.skipComment
  if atLineEnd cur.rest then some cur.skipBreak else none

end Cursor

end NodeGate.Yaml
