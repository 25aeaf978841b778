/-!
# Regular patterns

Names, numbers and dates are recognised by regular patterns. A `Pattern` is data, `Pattern.Matches`
says which texts it stands for, and `Pattern.accepts` decides that by derivatives: after reading one
character, what the rest has to match is again a pattern.

Main fact: `accepts_iff` — the decision agrees with the meaning.
-/

set_option autoImplicit false

namespace NodeGate

/-- Regular patterns over characters. `one` takes the class of characters as a test. -/
inductive Pattern
  | never
  | empty
  | one (among : Char → Bool)
  | cat (first second : Pattern)
  | either (left right : Pattern)
  | many (body : Pattern)

namespace Pattern

/-! ## Meaning -/

/-- The texts a pattern stands for. -/
inductive Matches : Pattern → List Char → Prop
  | empty : Matches .empty []
  | one {among : Char → Bool} {c : Char} (h : among c = true) : Matches (.one among) [c]
  | cat {p q : Pattern} {s t : List Char} (hp : Matches p s) (hq : Matches q t) :
      Matches (.cat p q) (s ++ t)
  | left {p q : Pattern} {s : List Char} (h : Matches p s) : Matches (.either p q) s
  | right {p q : Pattern} {s : List Char} (h : Matches q s) : Matches (.either p q) s
  | none {p : Pattern} : Matches (.many p) []
  | more {p : Pattern} {s t : List Char} (hp : Matches p s) (hs : Matches (.many p) t) :
      Matches (.many p) (s ++ t)

/-! ## Building -/

/-- Exactly the character `c`. -/
def char (c : Char) : Pattern := .one (· == c)

/-- Exactly the text. -/
def word (s : String) : Pattern := s.toList.foldr (fun c p => .cat (char c) p) .empty

/-- One of the texts. -/
def words (ss : List String) : Pattern := ss.foldr (fun s p => .either (word s) p) .never

def maybe (p : Pattern) : Pattern := .either p .empty

def some (p : Pattern) : Pattern := .cat p (.many p)

/-- The patterns one after the other. -/
def seq (ps : List Pattern) : Pattern := ps.foldr .cat .empty

/-- One of the patterns. -/
def any (ps : List Pattern) : Pattern := ps.foldr .either .never

/-! ## Deciding -/

/-- Does the pattern stand for the empty text? -/
def nullable : Pattern → Bool
  | .never => false
  | .empty => true
  | .one _ => false
  | .cat p q => p.nullable && q.nullable
  | .either p q => p.nullable || q.nullable
  | .many _ => true

/-- Concatenation that drops what cannot matter, so that derivatives stay small. -/
def join : Pattern → Pattern → Pattern
  | .never, _ => .never
  | .empty, q => q
  | p, q => .cat p q

/-- Alternative that drops what cannot matter. -/
def alt : Pattern → Pattern → Pattern
  | .never, q => q
  | p, .never => p
  | p, q => .either p q

/-- What has to follow once `c` was read. -/
def deriv (c : Char) : Pattern → Pattern
  | .never => .never
  | .empty => .never
  | .one among => if among c then .empty else .never
  | .cat p q => if p.nullable then alt (join (p.deriv c) q) (q.deriv c) else join (p.deriv c) q
  | .either p q => alt (p.deriv c) (q.deriv c)
  | .many p => join (p.deriv c) (.many p)

/-- Does the pattern stand for the whole text? -/
def accepts (p : Pattern) : List Char → Bool
  | [] => p.nullable
  | c :: rest => (p.deriv c).accepts rest

/-- Does the pattern stand for the text, or for the text without a newline at its end? -/
def acceptsLine (p : Pattern) (s : List Char) : Bool :=
  p.accepts s || (s.getLast? == Option.some '\n' && p.accepts s.dropLast)

/-! ## The decision agrees with the meaning -/

theorem nullable_iff (p : Pattern) : p.nullable = true ↔ Matches p [] := by
  constructor
  · induction p with
    | never => simp [nullable]
    | empty => exact fun _ => .empty
    | one _ => simp [nullable]
    | cat p q ihp ihq =>
      intro h
      simp only [nullable, Bool.and_eq_true] at h
      exact Matches.cat (ihp h.1) (ihq h.2)
    | either p q ihp ihq =>
      intro h
      simp only [nullable, Bool.or_eq_true] at h
      exact h.elim (fun h => .left (ihp h)) (fun h => .right (ihq h))
    | many _ _ => exact fun _ => .none
  · intro h
    generalize hs : ([] : List Char) = s at h
    induction h with
    | empty => rfl
    | one _ => simp at hs
    | cat _ _ ihp ihq =>
      have h := List.append_eq_nil_iff.1 hs.symm
      simp [nullable, ihp h.1.symm, ihq h.2.symm]
    | left _ ih => simp [nullable, ih hs]
    | right _ ih => simp [nullable, ih hs]
    | none => rfl
    | more _ _ _ _ => rfl

theorem matches_never {s : List Char} : ¬ Matches .never s := nofun

theorem matches_empty_iff {s : List Char} : Matches .empty s ↔ s = [] :=
  ⟨fun h => by cases h; rfl, fun h => h ▸ .empty⟩

theorem matches_cat_iff {p q : Pattern} {s : List Char} :
    Matches (.cat p q) s ↔ ∃ t u, s = t ++ u ∧ Matches p t ∧ Matches q u := by
  constructor
  · intro h
    cases h with
    | cat hp hq => exact ⟨_, _, rfl, hp, hq⟩
  · rintro ⟨t, u, rfl, hp, hq⟩
    exact .cat hp hq

theorem matches_either_iff {p q : Pattern} {s : List Char} :
    Matches (.either p q) s ↔ Matches p s ∨ Matches q s := by
  constructor
  · intro h
    cases h with
    | left h => exact .inl h
    | right h => exact .inr h
  · exact fun h => h.elim .left .right

theorem matches_join_iff {p q : Pattern} {s : List Char} :
    Matches (join p q) s ↔ Matches (.cat p q) s := by
  cases p with
  | never => simp [join, matches_cat_iff, matches_never]
  | empty =>
    simp only [join, matches_cat_iff, matches_empty_iff]
    exact ⟨fun h => ⟨[], s, rfl, rfl, h⟩, fun ⟨_, _, hs, ht, h⟩ => by simpa [hs, ht] using h⟩
  | one _ | cat _ _ | either _ _ | many _ => rfl

theorem matches_alt_iff {p q : Pattern} {s : List Char} :
    Matches (alt p q) s ↔ Matches p s ∨ Matches q s := by
  unfold alt
  split
  · simp [matches_never]
  · simp [matches_never]
  · exact matches_either_iff

/-- A nonempty text of a repetition starts with a nonempty text of its body. -/
theorem matches_many_cons {p : Pattern} {c : Char} {s : List Char}
    (h : Matches (.many p) (c :: s)) :
    ∃ t u, s = t ++ u ∧ Matches p (c :: t) ∧ Matches (.many p) u := by
  generalize hq : Pattern.many p = q at h
  generalize hw : c :: s = w at h
  induction h with
  | empty | one _ | cat _ _ _ _ | left _ _ | right _ _ => simp at hq
  | none => simp at hw
  | @more p' a b hp hs _ ih =>
    cases hq
    cases a with
    | nil => exact ih rfl hw
    | cons d a =>
      simp only [List.cons_append, List.cons.injEq] at hw
      obtain ⟨rfl, rfl⟩ := hw
      exact ⟨a, b, rfl, hp, hs⟩

theorem matches_deriv_iff (p : Pattern) (c : Char) (s : List Char) :
    Matches (p.deriv c) s ↔ Matches p (c :: s) := by
  induction p generalizing s with
  | never => simp [deriv, matches_never]
  | empty => simp [deriv, matches_never, matches_empty_iff]
  | one among =>
    simp only [deriv]
    split
    · rename_i h
      rw [matches_empty_iff]
      constructor
      · rintro rfl
        exact .one h
      · intro h
        cases h
        rfl
    · rename_i h
      constructor
      · exact fun h => (matches_never h).elim
      · intro h'
        cases h' with
        | one h' => exact absurd h' h
  | cat p q ihp ihq =>
    have key : Matches (.cat p q) (c :: s) ↔
        Matches (.cat (p.deriv c) q) s ∨ (p.nullable = true ∧ Matches (q.deriv c) s) := by
      rw [matches_cat_iff, matches_cat_iff, nullable_iff, ihq]
      constructor
      · rintro ⟨t, u, h, hp, hq⟩
        cases t with
        | nil => exact .inr ⟨hp, by simpa using h ▸ hq⟩
        | cons d t =>
          simp only [List.cons_append, List.cons.injEq] at h
          obtain ⟨rfl, rfl⟩ := h
          exact .inl ⟨t, u, rfl, (ihp t).2 hp, hq⟩
      · rintro (⟨t, u, rfl, hp, hq⟩ | ⟨hp, hq⟩)
        · exact ⟨c :: t, u, rfl, (ihp t).1 hp, hq⟩
        · exact ⟨[], c :: s, rfl, hp, hq⟩
    rw [key, deriv]
    split
    · rename_i h
      simp [matches_alt_iff, matches_join_iff, h]
    · rename_i h
      simp [matches_join_iff, h]
  | either p q ihp ihq => simp [deriv, matches_alt_iff, ihp, ihq, matches_either_iff]
  | many p ih =>
    simp only [deriv, matches_join_iff, matches_cat_iff]
    constructor
    · rintro ⟨t, u, rfl, hp, hs⟩
      exact Matches.more ((ih t).1 hp) hs
    · intro h
      obtain ⟨t, u, rfl, hp, hs⟩ := matches_many_cons h
      exact ⟨t, u, rfl, (ih t).2 hp, hs⟩

/-- **The decision agrees with the meaning.** -/
theorem accepts_iff (p : Pattern) (s : List Char) : p.accepts s = true ↔ Matches p s := by
  induction s generalizing p with
  | nil => exact nullable_iff p
  | cons c s ih => rw [accepts, ih, matches_deriv_iff]

end Pattern

end NodeGate
