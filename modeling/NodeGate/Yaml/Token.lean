import NodeGate.Decimal.Numeral
import NodeGate.Yaml.Scalar
import NodeGate.Yaml.Source

/-!
# Tokens

The marks, names and scalars of a YAML text, in order. Indentation becomes tokens too: a collection
of lines begins where a line is indented more than those before it and ends where one is indented
less. The key of a mapping need not be marked; that a token was a key shows only at the colon behind
it, so the places of possible keys are kept, and the mark is put in front of the token afterwards.

Main function: `Token.ofSource`. A text that breaks the rules gives the tokens that are settled before
that place and then a `stop`.
-/

set_option autoImplicit false

namespace NodeGate.Yaml

/-! ## Tokens -/

inductive Directive
  | version (major : Nat)
  | handle (name stem : String)
  | other
deriving DecidableEq, Repr

/-- A tag as it is written: `short` has a handle that a directive may explain. -/
inductive TagForm
  | verbatim (text : String)
  | short (handle suffix : String)
deriving DecidableEq, Repr

inductive Token
  | directive (d : Directive)
  | documentStart
  | documentEnd
  | blockSequenceStart
  | blockMappingStart
  | blockEnd
  | blockEntry
  | flowSequenceStart
  | flowSequenceEnd
  | flowMappingStart
  | flowMappingEnd
  | flowEntry
  | key
  | value
  | alias (name : String)
  | anchor (name : String)
  | tag (form : TagForm)
  | scalar (text : RawText) (plain : Bool)
  | textEnd
  | stop (f : Fault)
deriving DecidableEq, Repr

/-! ## Names, tags and directives -/

/-- A name that has to be there. -/
def name? (cur : Cursor) : Except Fault (String × Cursor) :=
  let (cs, cur) := cur.span isWord
  if cs.isEmpty then .error cur.fault else .ok (String.ofList cs, cur)

/-- The name of an anchor; the cursor is at the sign before it. -/
def anchorName (cur : Cursor) : Except Fault (String × Cursor) := do
  let (name, cur) ← name? cur.next
  let ends := ['?', ':', ',', ']', '}', '%', '@', '\x60']
  if atGap cur.rest || ends.contains (cur.rest.headD ' ') then return (name, cur)
  throw .malformed

def isTagChar (c : Char) : Bool :=
  c.isAlphanum || "-;/?:@&=+$,_.!~*\x27()[]%".toList.contains c

/-- The bytes of a row of escapes such as `%c3%a9`. -/
def tagBytes : Nat → Cursor → Except Fault (List UInt8 × Cursor)
  | 0, cur => .ok ([], cur)
  | fuel + 1, cur => do
    match cur.rest with
    | '%' :: a :: b :: _ =>
      let some n := hexNumber? [a, b] | throw .malformed
      let (more, cur) ← tagBytes fuel (cur.forward 3)
      return (n.toUInt8 :: more, cur)
    | '%' :: a :: _ => throw (if (hexDigit? a).isSome then .unfinished else .malformed)
    | '%' :: _ => throw .unfinished
    | _ => return ([], cur)

/-- The characters of a tag from here on, with the escaped ones in their place. -/
def tagChars : Nat → Cursor → Except Fault (String × Cursor)
  | 0, cur => .ok ("", cur)
  | fuel + 1, cur => do
    if cur.rest.head? = some '%' then
      let (bytes, cur) ← tagBytes (cur.left + 1) cur
      let some part := String.fromUTF8? ⟨bytes.toArray⟩ | throw .malformed
      let (more, cur) ← tagChars fuel cur
      return (part ++ more, cur)
    else
      let (part, cur) := cur.span fun c => isTagChar c && c != '%'
      if part.isEmpty then return ("", cur)
      let (more, cur) ← tagChars fuel cur
      return (String.ofList part ++ more, cur)

/-- A tag or a part of one. It may not be empty. -/
def tagText (cur : Cursor) : Except Fault (String × Cursor) := do
  let (text, after) ← tagChars (cur.left + 1) cur
  if after.left = cur.left then throw cur.fault
  return (text, after)

/-- A handle: `!`, or a name between two of them. -/
def tagHandle (cur : Cursor) : Except Fault (String × Cursor) := do
  if cur.rest.head? ≠ some '!' then throw cur.fault
  let (name, after) := cur.next.span isWord
  if after.rest.head? = some '!' then return ("!" ++ String.ofList name ++ "!", after.next)
  if name.isEmpty && cur.next.rest.head? = some ' ' then return ("!", cur.next)
  throw after.fault

/-- Has the tag a handle with two marks? -/
def hasLongHandle (cs : List Char) : Bool :=
  (cs.takeWhile fun c => !(c == ' ' || isBreak c)).contains '!'

/-- A tag; the cursor is at its mark. -/
def tagForm (cur : Cursor) : Except Fault (TagForm × Cursor) := do
  let (form, cur) ←
    match cur.next.rest with
    | '<' :: _ =>
      let (text, cur) ← tagText (cur.forward 2)
      if cur.rest.head? ≠ some '>' then throw cur.fault
      pure (TagForm.verbatim text, cur.next)
    | rest =>
      if atGap rest then pure (TagForm.verbatim "!", cur.next)
      else
        let (handle, cur) ← if hasLongHandle rest then tagHandle cur else pure ("!", cur.next)
        let (suffix, cur) ← tagText cur
        pure (TagForm.short handle suffix, cur)
  if atSpace cur.rest then return (form, cur) else throw .malformed

/-- A number that has to be there. -/
def number? (cur : Cursor) : Except Fault (Nat × Cursor) :=
  let (cs, cur) := cur.span Char.isDigit
  if cs.isEmpty then .error cur.fault
  else if Numeral.maxDigits < cs.length then .error (.scalar .badNumber)
  else .ok (cs.foldl (fun n c => n * 10 + (c.toNat - '0'.toNat)) 0, cur)

/-- The values of a directive. -/
def directiveValue (name : String) (cur : Cursor) : Except Fault (Directive × Cursor) := do
  if name = "YAML" then
    let (major, cur) ← number? cur.skipSpaces
    if cur.rest.head? ≠ some '.' then throw cur.fault
    let (_, cur) ← number? cur.next
    if atSpace cur.rest then return (.version major, cur) else throw .malformed
  else if name = "TAG" then
    let (handle, cur) ← tagHandle cur.skipSpaces
    if cur.rest.head? ≠ some ' ' then throw cur.fault
    let (stem, cur) ← tagText cur.skipSpaces
    if atSpace cur.rest then return (.handle handle stem, cur) else throw .malformed
  else return (.other, cur.skip (!isBreak ·))

/-- A directive with the rest of its line; the cursor is at its mark. -/
def directive (cur : Cursor) : Except Fault (Directive × Cursor) := do
  let (name, cur) ← name? cur.next
  if !atSpace cur.rest then throw .malformed
  let (d, cur) ← directiveValue name cur
  let some cur := cur.endLine? | throw .malformed
  return (d, cur)

/-! ## Reading tokens -/

/-- A token that may turn out to be a key: where it is, how many tokens come before it, and whether
it has to be a key because nothing else may begin there. `left` is how much of the text was left. -/
structure PossibleKey where
  level : Nat
  before : Nat
  required : Bool
  left : Nat
  line : Nat
  column : Nat

/-- How far the text is read, and the tokens so far. `indent` is the column of the innermost
collection of lines and `outer` those of the ones around it; `flow` counts the open brackets. -/
structure Lexer where
  cur : Cursor
  tokens : Array Token
  indent : Int
  outer : List Int
  flow : Nat
  keyAllowed : Bool
  keys : List PossibleKey

namespace Lexer

def start (text : List Char) : Lexer := ⟨.start text, #[], -1, [], 0, true, []⟩

def emit (t : Token) (lx : Lexer) : Lexer := { lx with tokens := lx.tokens.push t }

/-- Puts tokens in front of all but the first `before`. -/
def putBack (before : Nat) (ts : List Token) (lx : Lexer) : Lexer :=
  { lx with tokens := ts.foldr (fun t tokens => tokens.insertIdxIfInBounds before t) lx.tokens }

/-- A token that has to be a key, and is none, is a fault. -/
def dropKeys (gone : PossibleKey → Bool) (lx : Lexer) : Except Fault Lexer :=
  if lx.keys.any fun k => gone k && k.required then .error .malformed
  else .ok { lx with keys := lx.keys.filter (!gone ·) }

/-- A key is on one line and not too long. -/
def isStale (lx : Lexer) (k : PossibleKey) : Bool :=
  k.line != lx.cur.line || k.left - lx.cur.left > 1024

def dropStaleKeys (lx : Lexer) : Except Fault Lexer := lx.dropKeys lx.isStale

def dropKeyHere (lx : Lexer) : Except Fault Lexer := lx.dropKeys fun k => k.level == lx.flow

/-- The next token may be a key. -/
def saveKey (lx : Lexer) : Except Fault Lexer := do
  if !lx.keyAllowed then return lx
  let required := lx.flow == 0 && lx.indent == (lx.cur.column : Int)
  let lx ← lx.dropKeyHere
  let key : PossibleKey :=
    ⟨lx.flow, lx.tokens.size, required, lx.cur.left, lx.cur.line, lx.cur.column⟩
  return { lx with keys := key :: lx.keys }

/-- Ends the collections of lines that are indented more than `column`. -/
def unwind (column : Int) (lx : Lexer) : Lexer :=
  if lx.flow != 0 then lx else close lx.outer lx
where
  close (outer : List Int) (lx : Lexer) : Lexer :=
    match outer with
    | [] => lx
    | wider :: rest =>
      if lx.indent > column then
        close rest ({ lx with indent := wider, outer := rest }.emit .blockEnd)
      else lx

/-- Enters a collection of lines, if the column is further in. -/
def enter (column : Nat) (lx : Lexer) : Option Lexer :=
  if lx.indent < (column : Int) then
    some { lx with outer := lx.indent :: lx.outer, indent := column }
  else none

/-- Enters a collection of lines here, if here is further in. -/
def enterHere (t : Token) (lx : Lexer) : Except Fault Lexer :=
  if lx.flow != 0 then .ok lx
  else if !lx.keyAllowed then .error .malformed
  else .ok (((lx.enter lx.cur.column).map (emit t)).getD lx)

/-- Over blanks, comments and line breaks to the next token. After a line break a key may come. -/
def toNext : Nat → Lexer → Lexer
  | 0, lx => lx
  | fuel + 1, lx =>
    let cur := lx.cur.skipSpaces.skipComment
    if cur.lineBreak?.isSome then
      toNext fuel { lx with cur := cur.next, keyAllowed := lx.keyAllowed || lx.flow == 0 }
    else { lx with cur }

/-! ### One token each -/

/-- A mark of `width` characters. -/
def mark (width : Nat) (t : Token) (lx : Lexer) : Lexer :=
  { lx with cur := lx.cur.forward width }.emit t

/-- What stands outside of all documents. -/
def outside (lx : Lexer) : Except Fault Lexer := do
  let lx ← (lx.unwind (-1)).dropKeyHere
  return { lx with keyAllowed := false }

def bracket (t : Token) (lx : Lexer) : Except Fault Lexer := do
  let lx ← lx.saveKey
  return { lx with flow := lx.flow + 1, keyAllowed := true }.mark 1 t

def closing (t : Token) (lx : Lexer) : Except Fault Lexer := do
  let lx ← lx.dropKeyHere
  if lx.flow = 0 then throw .malformed
  return { lx with flow := lx.flow - 1, keyAllowed := false }.mark 1 t

def comma (lx : Lexer) : Except Fault Lexer := do
  let lx ← lx.dropKeyHere
  return { lx with keyAllowed := true }.mark 1 .flowEntry

def dash (lx : Lexer) : Except Fault Lexer := do
  let lx ← lx.enterHere .blockSequenceStart
  let lx ← lx.dropKeyHere
  return { lx with keyAllowed := true }.mark 1 .blockEntry

def question (lx : Lexer) : Except Fault Lexer := do
  let lx ← lx.enterHere .blockMappingStart
  let lx ← lx.dropKeyHere
  return { lx with keyAllowed := lx.flow == 0 }.mark 1 .key

/-- A colon makes a key of the token that may be one, and else stands for a key without text. -/
def colon (lx : Lexer) : Except Fault Lexer := do
  match lx.keys.find? fun k => k.level == lx.flow with
  | some k =>
    let lx := { lx with keys := lx.keys.filter (·.level != lx.flow), keyAllowed := false }
    let entered := if lx.flow == 0 then lx.enter k.column else none
    let lx := match entered with
      | some lx => lx.putBack k.before [.blockMappingStart, .key]
      | none => lx.putBack k.before [.key]
    return lx.mark 1 .value
  | none =>
    let lx ← lx.enterHere .blockMappingStart
    return { lx with keyAllowed := lx.flow == 0 }.mark 1 .value

/-- A token that may be a key. -/
def keyLike (read : Cursor → Except Fault (Token × Cursor)) (lx : Lexer) : Except Fault Lexer := do
  let lx ← lx.saveKey
  let (t, cur) ← read lx.cur
  return { lx with cur, keyAllowed := false }.emit t

def blockScalar (lx : Lexer) : Except Fault Lexer := do
  let lx ← lx.dropKeyHere
  let (cs, cur) ← block lx.indent lx.cur
  return { lx with cur, keyAllowed := true }.emit (.scalar (.ofChars cs) false)

/-- A plain scalar that runs up to the end of its line may be followed by a key. -/
def plainScalar (lx : Lexer) : Except Fault Lexer := do
  let lx ← lx.saveKey
  let (cs, cur, lineEnded) := plain (lx.flow != 0) (lx.indent + 1) lx.cur
  return { lx with cur, keyAllowed := lineEnded }.emit (.scalar (.ofChars cs) true)

/-- The characters that mean something at the head of a token. -/
def indicators : List Char := "-?:,[]{}#&*!|>\x27\"%@\x60".toList

/-- May a plain scalar begin here? -/
def startsPlain (inFlow : Bool) : List Char → Bool
  | [] => false
  | c :: rest =>
    !(isGap c || indicators.contains c) ||
      (!atGap rest && (c == '-' || (!inFlow && (c == '?' || c == ':'))))

/-- The next token that is not the end. -/
def token (lx : Lexer) : Except Fault Lexer :=
  let rest := lx.cur.rest
  let c := rest.headD ' '
  let inFlow := lx.flow != 0
  let first := lx.cur.column == 0
  if c == '%' && first then do
    let lx ← lx.outside
    let (d, cur) ← directive lx.cur
    return { lx with cur }.emit (.directive d)
  else if first && isMark '-' rest then return (← lx.outside).mark 3 .documentStart
  else if first && isMark '.' rest then return (← lx.outside).mark 3 .documentEnd
  else if c == '[' then lx.bracket .flowSequenceStart
  else if c == '\x7b' then lx.bracket .flowMappingStart
  else if c == ']' then lx.closing .flowSequenceEnd
  else if c == '\x7d' then lx.closing .flowMappingEnd
  else if c == ',' then lx.comma
  else if c == '-' && atGap rest.tail then lx.dash
  else if c == '?' && (inFlow || atGap rest.tail) then lx.question
  else if c == ':' && (inFlow || atGap rest.tail) then lx.colon
  else if c == '*' then
    lx.keyLike fun cur => do let (name, cur) ← anchorName cur; return (.alias name, cur)
  else if c == '&' then
    lx.keyLike fun cur => do let (name, cur) ← anchorName cur; return (.anchor name, cur)
  else if c == '!' then
    lx.keyLike fun cur => do let (form, cur) ← tagForm cur; return (.tag form, cur)
  else if (c == '|' || c == '>') && !inFlow then lx.blockScalar
  else if c == '\x27' || c == '"' then
    lx.keyLike fun cur => do let (text, cur) ← quoted cur; return (.scalar text false, cur)
  else if startsPlain inFlow rest then lx.plainScalar
  else .error .malformed

/-- How many tokens are settled: in front of the others the mark of a key may still come. -/
def settled (lx : Lexer) : Nat :=
  (lx.keys.filter fun k => !lx.isStale k).foldl (fun n k => min n k.before) lx.tokens.size

/-- The tokens of a text that cannot be read on. Those that are not settled never come. -/
def stop (f : Fault) (lx : Lexer) : List Token :=
  (lx.tokens.take lx.settled).toList ++ [.stop f]

/-- Ends the tokens at the end of the text, unless there is a fault behind it. -/
def finish (after : Option Fault) (lx : Lexer) : Except Fault Lexer := do
  if let some f := after then throw f
  return (← (← lx.dropStaleKeys).outside).emit .textEnd

/-- The next token; nothing lies before it any more. Whoever comes to the end of the text has to do
with the fault behind it, if there is one. -/
def next (after : Option Fault) (lx : Lexer) : Except Fault Lexer := do
  let lx ← lx.dropStaleKeys
  match (lx.unwind lx.cur.column).token, after with
  | .ok lx, some f => if lx.cur.rest.isEmpty then throw f else return lx
  | .ok lx, none => return lx
  | .error .unfinished, _ => throw (after.getD .malformed)
  | .error f, _ => throw f

/-- The tokens from here on, after those that are there. -/
def run (after : Option Fault) : Nat → Lexer → List Token
  | 0, lx => lx.stop .malformed
  | fuel + 1, lx =>
    let here := lx.toNext (lx.cur.left + 1)
    if here.cur.rest.isEmpty then
      match here.finish after with
      | .ok done => done.tokens.toList
      | .error f => lx.stop f
    else
      match here.next after with
      | .ok lx => run after fuel lx
      | .error f => lx.stop f

end Lexer

/-- The tokens of a text. A byte order mark at its head is not part of it. -/
def Token.ofSource (src : Source) : List Token :=
  let lx := Lexer.start src.chars
  let lx := if src.chars.head? = some '\ufeff' then { lx with cur := lx.cur.next } else lx
  lx.run src.after (lx.cur.left + 1)

end NodeGate.Yaml
