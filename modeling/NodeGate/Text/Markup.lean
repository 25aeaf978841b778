/-!
# Markup

Text for the console may hold marks such as `[red]`. Text that comes from elsewhere is escaped, so
that nothing in it is taken for a mark.
-/

set_option autoImplicit false

namespace NodeGate.Markup

/-- The mark at the head of a text, and what follows it: a bracket, one of the characters that marks
begin with, and all up to the closing bracket, but no other opening one. -/
def mark? : List Char → Option (List Char × List Char)
  | '[' :: c :: rest =>
    if c.isLower || c == '#' || c == '/' || c == '@' then
      let inner := rest.takeWhile fun c => c != '[' && c != ']'
      match rest.drop inner.length with
      | ']' :: after => some ('[' :: c :: inner ++ [']'], after)
      | _ => none
    else none
  | _ => none

/-- A backslash goes in front of every mark, and those that are there already are doubled. -/
def escapeMarks : Nat → List Char → List Char
  | 0, cs => cs
  | fuel + 1, cs =>
    let slashes := cs.takeWhile (· == '\\')
    let rest := cs.drop slashes.length
    match mark? rest with
    | some (mark, after) => slashes ++ slashes ++ '\\' :: mark ++ escapeMarks fuel after
    | none =>
      match rest with
      | c :: rest => slashes ++ c :: escapeMarks fuel rest
      | [] => slashes

/-- A single backslash at the end is doubled, lest it escape what is put behind it. -/
def closeEnd (cs : List Char) : List Char :=
  match cs.reverse with
  | '\\' :: '\\' :: _ => cs
  | '\\' :: _ => cs ++ ['\\']
  | _ => cs

def escape (s : String) : String :=
  String.ofList (closeEnd (escapeMarks (s.length + 1) s.toList))

end NodeGate.Markup
