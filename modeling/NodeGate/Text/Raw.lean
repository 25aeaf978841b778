/-!
# Raw text

An escape in a file may name any code point, also half of a surrogate pair, which is no character.
`RawText` is text that may hold such halves. Two raw texts are the same if their code points are;
`string?` gives the string that a raw text without halves is.
-/

set_option autoImplicit false

namespace NodeGate

/-! ## Code points -/

/-- A character, or half of a surrogate pair by its number. -/
inductive CodePoint
  | char (c : Char)
  | half (n : Nat)
deriving DecidableEq, Repr

namespace CodePoint

def char? : CodePoint → Option Char
  | char c => some c
  | half _ => none

/-- What is shown for a code point. A half would take three bytes of UTF-8, and each of them is
replaced. -/
def shown : CodePoint → List Char
  | char c => [c]
  | half _ => List.replicate 3 '\ufffd'

theorem char?_eq_some_iff {p : CodePoint} {c : Char} : p.char? = some c ↔ p = .char c := by
  cases p <;> simp [char?]

end CodePoint

/-! ## Texts -/

structure RawText where
  points : List CodePoint
deriving DecidableEq, Repr

namespace RawText

def empty : RawText := ⟨[]⟩

instance : Inhabited RawText := ⟨empty⟩

def ofChars (cs : List Char) : RawText := ⟨cs.map .char⟩

def ofString (s : String) : RawText := ofChars s.toList

def append (s t : RawText) : RawText := ⟨s.points ++ t.points⟩

instance : Append RawText := ⟨append⟩

/-- The texts with `sep` between them. -/
def intercalate (sep : RawText) (ts : List RawText) : RawText :=
  ⟨sep.points.intercalate (ts.map points)⟩

/-- The characters of a text without halves. -/
def chars? (t : RawText) : Option (List Char) := t.points.mapM CodePoint.char?

def string? (t : RawText) : Option String := t.chars?.map String.ofList

def shownChars (t : RawText) : List Char := t.points.flatMap CodePoint.shown

/-- The text with replacement characters for its halves. -/
def shown (t : RawText) : String := String.ofList t.shownChars

theorem chars?_eq_some_iff {t : RawText} {cs : List Char} :
    t.chars? = some cs ↔ t = ofChars cs := by
  obtain ⟨ps⟩ := t
  simp only [chars?, ofChars, RawText.mk.injEq]
  induction ps generalizing cs with
  | nil => cases cs <;> simp
  | cons p ps ih =>
    cases cs with
    | nil => simp [Option.bind_eq_some_iff]
    | cons c cs => simp [Option.bind_eq_some_iff, CodePoint.char?_eq_some_iff, ih]

/-- Strings are the raw texts without halves. -/
theorem string?_eq_some_iff {t : RawText} {s : String} : t.string? = some s ↔ t = ofString s := by
  simp only [string?, Option.map_eq_some_iff, chars?_eq_some_iff, ofString]
  constructor
  · rintro ⟨cs, rfl, rfl⟩
    simp
  · rintro rfl
    exact ⟨s.toList, rfl, by simp⟩

@[simp]
theorem string?_ofString (s : String) : (ofString s).string? = some s :=
  string?_eq_some_iff.2 rfl

theorem ofString_inj {s t : String} : ofString s = ofString t ↔ s = t := by
  rw [← string?_eq_some_iff, string?_ofString, Option.some.injEq]

end RawText

end NodeGate
