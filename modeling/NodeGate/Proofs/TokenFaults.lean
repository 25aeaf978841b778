import NodeGate.Yaml.Token

/-!
# Faults of tokens

The tokens of a text end with a fault where the text is no YAML, and then it matters which fault that
is. That the bytes are no text is a fault of the source only: no reader of a scalar or a token finds
it, so it comes up among the tokens only if it lies behind the characters
(`stop_notMem_ofSource`), and behind what was written as text it does not lie
(`Source.after_ofBytes_toUTF8`).
-/

set_option autoImplicit false

namespace NodeGate

/-! ## Text as bytes -/

namespace Utf8

theorem size_utf8Encode_singleton (c : Char) : [c].utf8Encode.size = c.utf8Size := by
  rw [List.utf8Encode_singleton, List.size_toByteArray, String.length_utf8EncodeChar]

theorem length_le_size_utf8Encode (cs : List Char) : cs.length ≤ cs.utf8Encode.size := by
  induction cs with
  | nil => exact Nat.zero_le _
  | cons c cs ih =>
    have hpos := c.utf8Size_pos
    rw [List.utf8Encode_cons, ByteArray.size_append, size_utf8Encode_singleton, List.length_cons]
    omega

theorem utf8DecodeChar?_utf8Encode (before : List Char) (c : Char) (rest : List Char) :
    (before ++ c :: rest).utf8Encode.utf8DecodeChar? before.utf8Encode.size = some c := by
  rw [ByteArray.utf8DecodeChar?_eq_utf8DecodeChar?_extract, List.utf8Encode_append,
    ByteArray.size_append, ByteArray.extract_append_eq_right rfl rfl, List.utf8Encode_cons]
  exact List.utf8DecodeChar?_utf8Encode_singleton_append

theorem utf8DecodeChar?_size (bytes : ByteArray) : bytes.utf8DecodeChar? bytes.size = none := by
  unfold ByteArray.utf8DecodeChar?
  exact dif_neg (Nat.lt_irrefl _)

theorem charsFrom_utf8Encode (before cs : List Char) {fuel : Nat} (h : cs.length ≤ fuel) :
    charsFrom (before ++ cs).utf8Encode fuel before.utf8Encode.size =
      (cs, (before ++ cs).utf8Encode.size) := by
  induction cs generalizing before fuel with
  | nil =>
    rw [List.append_nil]
    cases fuel with
    | zero => rfl
    | succ fuel => simp [charsFrom, utf8DecodeChar?_size]
  | cons c cs ih =>
    cases fuel with
    | zero => simp at h
    | succ fuel =>
      have hnext := ih (before ++ [c]) (Nat.le_of_succ_le_succ h)
      rw [List.utf8Encode_append (l := before), ByteArray.size_append, size_utf8Encode_singleton,
        List.append_assoc, List.singleton_append] at hnext
      unfold charsFrom
      rw [utf8DecodeChar?_utf8Encode]
      dsimp only
      rw [hnext]

theorem chars_toUTF8 (s : String) : chars s.toUTF8 = (s.toList, s.toUTF8.size) := by
  rw [String.toUTF8_eq_toByteArray, ← String.utf8Encode_toList]
  exact charsFrom_utf8Encode [] s.toList (length_le_size_utf8Encode _)

theorem readable_toUTF8 (block : Nat) (s : String) :
    readable block s.toUTF8 = (unifyLines s.toList, true) := by
  unfold readable
  rw [chars_toUTF8]
  exact if_pos rfl

end Utf8

namespace Yaml.Source

theorem after_ofBytes_toUTF8 (s : String) : (ofBytes s.toUTF8).after ≠ some .notUnicode := by
  unfold ofBytes
  rw [Utf8.readable_toUTF8]
  dsimp only
  repeat' split
  all_goals simp_all

end Yaml.Source

namespace Yaml

variable {α β : Type}

/-! ## Other faults only -/

/-- A value with the property `Q`, or a fault, but not that the bytes are no text. -/
def Yields (Q : α → Prop) : Except Fault α → Prop
  | .ok a => Q a
  | .error f => f ≠ .notUnicode

@[simp]
theorem yields_ok {Q : α → Prop} {a : α} : Yields Q (.ok a) ↔ Q a := Iff.rfl

@[simp]
theorem yields_pure {Q : α → Prop} {a : α} : Yields Q (pure a) ↔ Q a := Iff.rfl

@[simp]
theorem yields_error {Q : α → Prop} {f : Fault} : Yields Q (.error f) ↔ f ≠ .notUnicode := Iff.rfl

@[simp]
theorem yields_throw {Q : α → Prop} {f : Fault} :
    Yields Q (throw f) ↔ f ≠ .notUnicode := Iff.rfl

theorem yields_bind {Q : β → Prop} {r : Except Fault α} {next : α → Except Fault β} :
    Yields Q (r >>= next) ↔ Yields (fun a => Yields Q (next a)) r := by
  cases r <;> rfl

theorem yields_map {Q : β → Prop} {r : Except Fault α} {g : α → β} :
    Yields Q (r.map g) ↔ Yields (fun a => Q (g a)) r := by
  cases r <;> rfl

@[simp]
theorem yields_fmap {Q : β → Prop} {r : Except Fault α} {g : α → β} :
    Yields Q (g <$> r) ↔ Yields (fun a => Q (g a)) r := by
  cases r <;> rfl

@[simp]
theorem yields_throw_bind {Q : β → Prop} {f : Fault} {next : α → Except Fault β} :
    Yields Q (throw f >>= next) ↔ f ≠ .notUnicode := Iff.rfl

theorem Yields.mono {Q R : α → Prop} {r : Except Fault α} (h : Yields Q r)
    (hQR : ∀ a, Q a → R a) : Yields R r := by
  cases r with
  | ok a => exact hQR a h
  | error f => exact h

theorem Yields.bind {R : α → Prop} {Q : β → Prop} {r : Except Fault α} {next : α → Except Fault β}
    (h : Yields R r) (hnext : ∀ a, R a → Yields Q (next a)) : Yields Q (r >>= next) :=
  yields_bind.2 (h.mono hnext)

theorem Yields.ite {Q : α → Prop} {c : Prop} [Decidable c] {r s : Except Fault α} (hr : Yields Q r)
    (hs : Yields Q s) : Yields Q (if c then r else s) := by
  split
  · exact hr
  · exact hs

/-- Any value, or a fault, but not that the bytes are no text. -/
abbrev Sound (r : Except Fault α) : Prop := Yields (fun _ => True) r

theorem Sound.bind {Q : β → Prop} {r : Except Fault α} {next : α → Except Fault β} (h : Sound r)
    (hnext : ∀ a, Yields Q (next a)) : Yields Q (r >>= next) :=
  Yields.bind h fun a _ => hnext a

/-! ### Scalars -/

theorem sound_codePoint (n : Nat) : Sound (codePoint n) := by
  unfold codePoint
  repeat' split
  all_goals simp

theorem sound_quotedBreaks (fuel : Nat) (cur : Cursor) : Sound (quotedBreaks fuel cur) := by
  induction fuel generalizing cur with
  | zero => simp [quotedBreaks]
  | succ fuel ih =>
    unfold quotedBreaks
    split
    · simp
    · dsimp only
      split
      · simp
      · exact (ih _).bind fun _ => trivial

theorem sound_quotedSpaces (cur : Cursor) : Sound (quotedSpaces cur) := by
  unfold quotedSpaces
  dsimp only
  split
  · split
    · simp
    · simp
  · exact (sound_quotedBreaks _ _).bind fun _ => trivial

theorem sound_escape (cur : Cursor) : Sound (escape cur) := by
  unfold escape
  dsimp only
  split
  · simp
  · split
    · simp
    · split
      · split
        · split
          · simp
          · exact (sound_codePoint _).bind fun _ => trivial
        · simp
      · split
        · exact (sound_quotedBreaks _ _).bind fun _ => trivial
        · simp

theorem sound_quotedFrom (quote : Char) (fuel : Nat) (cur : Cursor) :
    Sound (quotedFrom quote fuel cur) := by
  induction fuel generalizing cur with
  | zero => simp [quotedFrom]
  | succ fuel ih =>
    unfold quotedFrom
    dsimp only
    split
    · simp
    · split
      · split
        · exact (ih _).bind fun _ => trivial
        · simp
      · split
        · exact (sound_escape _).bind fun _ => (ih _).bind fun _ => trivial
        · split
          · exact (sound_quotedSpaces _).bind fun _ => (ih _).bind fun _ => trivial
          · exact (ih _).bind fun _ => trivial

theorem sound_blockHeader (cur : Cursor) : Sound (blockHeader cur) := by
  have hdigit : ∀ cur, Sound (blockHeader.digit cur) := by
    intro cur
    unfold blockHeader.digit
    repeat' split
    all_goals simp
  unfold blockHeader
  refine Sound.bind (hdigit _) fun p => ?_
  repeat' split
  all_goals simp

theorem sound_block (parent : Int) (cur : Cursor) : Sound (block parent cur) := by
  unfold block
  refine Sound.bind (sound_blockHeader _) fun p => ?_
  simp

/-! ### Parts of tokens -/

theorem Cursor.fault_ne (cur : Cursor) : cur.fault ≠ .notUnicode := by
  unfold Cursor.fault
  split <;> simp

theorem sound_name? (cur : Cursor) : Sound (name? cur) := by
  unfold name?
  dsimp only
  split
  · exact Cursor.fault_ne _
  · simp

theorem sound_anchorName (cur : Cursor) : Sound (anchorName cur) := by
  unfold anchorName
  refine (sound_name? _).bind fun p => ?_
  dsimp only
  split
  · simp
  · simp

theorem sound_tagBytes (fuel : Nat) (cur : Cursor) : Sound (tagBytes fuel cur) := by
  induction fuel generalizing cur with
  | zero => simp [tagBytes]
  | succ fuel ih =>
    unfold tagBytes
    dsimp only
    split
    · split
      · exact (ih _).bind fun _ => trivial
      · simp
    · show ite _ _ _ ≠ _
      split
      · simp
      · simp
    · simp
    · simp

theorem sound_tagChars (fuel : Nat) (cur : Cursor) : Sound (tagChars fuel cur) := by
  induction fuel generalizing cur with
  | zero => simp [tagChars]
  | succ fuel ih =>
    unfold tagChars
    dsimp only
    split
    · refine (sound_tagBytes _ _).bind fun p => ?_
      split
      · exact (ih _).bind fun _ => trivial
      · simp
    · split
      · simp
      · exact (ih _).bind fun _ => trivial

theorem sound_tagText (cur : Cursor) : Sound (tagText cur) := by
  unfold tagText
  refine (sound_tagChars _ _).bind fun p => ?_
  dsimp only
  split
  · exact Cursor.fault_ne _
  · simp

theorem sound_tagHandle (cur : Cursor) : Sound (tagHandle cur) := by
  unfold tagHandle
  dsimp only
  split
  · exact Cursor.fault_ne _
  · split
    · simp
    · split
      · simp
      · exact Cursor.fault_ne _

theorem sound_tagForm (cur : Cursor) : Sound (tagForm cur) := by
  have hform : ∀ p : TagForm × Cursor, Sound (if atSpace p.2.rest then pure p else throw .malformed) := by
    intro p
    split
    · simp
    · simp
  unfold tagForm
  dsimp only
  split
  · refine (sound_tagText _).bind fun p => ?_
    split
    · exact Cursor.fault_ne _
    · exact hform (_, _)
  · split
    · exact hform (_, _)
    · split
      · refine (sound_tagHandle _).bind fun p => ?_
        exact (sound_tagText _).bind fun p => hform (_, _)
      · exact (sound_tagText _).bind fun p => hform (_, _)

theorem sound_number? (cur : Cursor) : Sound (number? cur) := by
  unfold number?
  dsimp only
  split
  · exact Cursor.fault_ne _
  · split
    · simp
    · simp

theorem sound_directiveValue (name : String) (cur : Cursor) : Sound (directiveValue name cur) := by
  unfold directiveValue
  dsimp only
  split
  · refine (sound_number? _).bind fun p => ?_
    split
    · exact Cursor.fault_ne _
    · refine (sound_number? _).bind fun q => ?_
      split
      · simp
      · simp
  · split
    · refine (sound_tagHandle _).bind fun p => ?_
      split
      · exact Cursor.fault_ne _
      · refine (sound_tagText _).bind fun q => ?_
        split
        · simp
        · simp
    · simp

theorem sound_directive (cur : Cursor) : Sound (directive cur) := by
  unfold directive
  refine (sound_name? _).bind fun p => ?_
  dsimp only
  split
  · simp
  · refine (sound_directiveValue _ _).bind fun q => ?_
    split
    · simp
    · simp

/-! ## Tokens -/

namespace Lexer

/-- No fault among the tokens. -/
def Clean (lx : Lexer) : Prop := ∀ f, Token.stop f ∉ lx.tokens

/-- It only matters which tokens there are. -/
theorem Clean.emit {lx here : Lexer} {t : Token} (h : Clean lx) (hhere : here.tokens = lx.tokens)
    (ht : ∀ f, t ≠ .stop f) : Clean (here.emit t) := by
  intro f hf
  rcases Array.mem_push.1 hf with hf | hf
  · exact h f (hhere ▸ hf)
  · exact ht f hf.symm

theorem Clean.mark {lx here : Lexer} {t : Token} (h : Clean lx) (hhere : here.tokens = lx.tokens)
    (width : Nat) (ht : ∀ f, t ≠ .stop f) : Clean (here.mark width t) := h.emit hhere ht

theorem mem_insertIdxIfInBounds {t u : Token} {ts : Array Token} {n : Nat}
    (h : t ∈ ts.insertIdxIfInBounds n u) : t = u ∨ t ∈ ts := by
  unfold Array.insertIdxIfInBounds at h
  split at h
  · exact Array.mem_insertIdx.1 h
  · exact .inr h

theorem Clean.putBack {lx here : Lexer} (h : Clean lx) (hhere : here.tokens = lx.tokens)
    (before : Nat) {ts : List Token} (hts : ∀ t ∈ ts, ∀ f, t ≠ .stop f) :
    Clean (here.putBack before ts) := by
  induction ts with
  | nil => exact fun f hf => h f (hhere ▸ hf)
  | cons t ts ih =>
    intro f hf
    rcases mem_insertIdxIfInBounds hf with hf | hf
    · exact hts t List.mem_cons_self f hf.symm
    · exact ih (fun u hu => hts u (List.mem_cons_of_mem t hu)) f hf

theorem Clean.unwind {lx : Lexer} (h : Clean lx) (column : Int) : Clean (lx.unwind column) := by
  have hclose : ∀ (outer : List Int) (lx : Lexer), Clean lx → Clean (unwind.close column outer lx) := by
    intro outer
    induction outer with
    | nil => exact fun _ h => h
    | cons wider rest ih =>
      intro lx h
      unfold unwind.close
      split
      · exact ih _ (h.emit rfl (by simp))
      · exact h
  unfold Lexer.unwind
  split
  · exact h
  · exact hclose _ _ h

variable {lx : Lexer} (h : Clean lx)
include h

theorem clean_dropKeys (gone : PossibleKey → Bool) : Yields Clean (lx.dropKeys gone) := by
  unfold dropKeys
  split
  · simp
  · exact h

theorem clean_saveKey : Yields Clean lx.saveKey := by
  unfold saveKey
  split
  · exact h
  · exact (clean_dropKeys h _).bind fun _ h => h

theorem clean_enterHere {t : Token} (ht : ∀ f, t ≠ .stop f) : Yields Clean (lx.enterHere t) := by
  unfold enterHere
  split
  · exact h
  · split
    · simp
    · unfold enter
      split
      · exact h.emit rfl ht
      · exact h

theorem clean_outside : Yields Clean lx.outside :=
  (clean_dropKeys (h.unwind _) _).bind fun _ h => h

theorem clean_bracket {t : Token} (ht : ∀ f, t ≠ .stop f) : Yields Clean (lx.bracket t) :=
  (clean_saveKey h).bind fun _ h => h.mark rfl 1 ht

theorem clean_closing {t : Token} (ht : ∀ f, t ≠ .stop f) : Yields Clean (lx.closing t) := by
  refine (clean_dropKeys h _).bind fun lx h => ?_
  split
  · simp
  · exact h.mark rfl 1 ht

theorem clean_comma : Yields Clean lx.comma :=
  (clean_dropKeys h _).bind fun _ h => h.mark rfl 1 (by simp)

theorem clean_dash : Yields Clean lx.dash :=
  (clean_enterHere h (by simp)).bind fun _ h =>
    (clean_dropKeys h _).bind fun _ h => h.mark rfl 1 (by simp)

theorem clean_question : Yields Clean lx.question :=
  (clean_enterHere h (by simp)).bind fun _ h =>
    (clean_dropKeys h _).bind fun _ h => h.mark rfl 1 (by simp)

theorem clean_colon : Yields Clean lx.colon := by
  unfold colon
  split
  · refine Clean.mark ?_ rfl 1 (by simp)
    dsimp only
    split
    · rename_i heq
      refine Clean.putBack ?_ rfl _ (by simp)
      split at heq
      · unfold enter at heq
        split at heq
        · cases heq
          exact h
        · cases heq
      · cases heq
    · exact h.putBack rfl _ (by simp)
  · exact (clean_enterHere h (by simp)).bind fun _ h => h.mark rfl 1 (by simp)

theorem clean_keyLike {read : Cursor → Except Fault (Token × Cursor)}
    (hread : ∀ cur, Yields (fun p => ∀ f, p.1 ≠ .stop f) (read cur)) :
    Yields Clean (lx.keyLike read) :=
  (clean_saveKey h).bind fun lx h => (hread lx.cur).bind fun _ ht => h.emit rfl ht

theorem clean_blockScalar : Yields Clean lx.blockScalar :=
  (clean_dropKeys h _).bind fun _ h =>
    (sound_block _ _).bind fun _ => h.emit rfl (by simp)

theorem clean_plainScalar : Yields Clean lx.plainScalar :=
  (clean_saveKey h).bind fun _ h => h.emit rfl (by simp)

theorem clean_token : Yields Clean lx.token := by
  unfold token
  refine .ite ?directive <| .ite ?start <| .ite ?finish <| .ite (clean_bracket h (by simp)) <|
    .ite (clean_bracket h (by simp)) <| .ite (clean_closing h (by simp)) <|
    .ite (clean_closing h (by simp)) <| .ite (clean_comma h) <| .ite (clean_dash h) <|
    .ite (clean_question h) <| .ite (clean_colon h) <| .ite ?reference <| .ite ?anchor <| .ite ?tag <|
    .ite (clean_blockScalar h) <| .ite ?quoted <| .ite (clean_plainScalar h) (by simp)
  case directive =>
    refine (clean_outside h).bind fun lx h => (sound_directive _).bind fun _ => ?_
    exact h.emit rfl (by simp)
  case start => exact (clean_outside h).bind fun _ h => h.mark rfl 3 (by simp)
  case finish => exact (clean_outside h).bind fun _ h => h.mark rfl 3 (by simp)
  case reference => exact clean_keyLike h fun _ => (sound_anchorName _).bind fun _ => by simp
  case anchor => exact clean_keyLike h fun _ => (sound_anchorName _).bind fun _ => by simp
  case tag => exact clean_keyLike h fun _ => (sound_tagForm _).bind fun _ => by simp
  case quoted => exact clean_keyLike h fun _ => (sound_quotedFrom _ _ _).bind fun _ => by simp

variable {after : Option Fault} (hafter : after ≠ some .notUnicode)
include hafter

theorem clean_finish : Yields Clean (lx.finish after) := by
  have hend : Yields Clean (do return (← (← lx.dropStaleKeys).outside).emit .textEnd) :=
    (clean_dropKeys h _).bind fun _ h => (clean_outside h).bind fun _ h => h.emit rfl (by simp)
  unfold finish
  cases after with
  | none => exact hend
  | some f =>
    rw [yields_throw_bind]
    rintro rfl
    exact hafter rfl

theorem clean_next : Yields Clean (lx.next after) := by
  refine (clean_dropKeys h _).bind fun lx h => ?_
  have htoken := clean_token (h.unwind lx.cur.column)
  have hthrow : ∀ f, after = some f → f ≠ .notUnicode := by
    rintro f rfl rfl
    exact hafter rfl
  have hdefault : after.getD .malformed ≠ .notUnicode := by
    cases after with
    | none => simp
    | some f => exact hthrow f rfl
  generalize (lx.unwind lx.cur.column).token = read at htoken ⊢
  cases read with
  | ok lx =>
    cases after with
    | none => exact htoken
    | some f => exact .ite (hthrow f rfl) htoken
  | error f =>
    cases f with
    | unfinished => exact hdefault
    | _ => exact htoken

omit h hafter in
theorem stop_notMem_stop {lx : Lexer} (h : Clean lx) {f : Fault} (hf : f ≠ .notUnicode) :
    Token.stop .notUnicode ∉ lx.stop f := by
  intro hmem
  rcases List.mem_append.1 hmem with hmem | hmem
  · have htake : Token.stop .notUnicode ∈ lx.tokens.toList.take lx.settled := by simpa using hmem
    exact h _ (Array.mem_toList_iff.1 (List.mem_of_mem_take htake))
  · cases List.mem_singleton.1 hmem
    exact hf rfl

omit h hafter in
theorem Clean.toNext {lx : Lexer} (h : Clean lx) (n : Nat) : Clean (lx.toNext n) := by
  induction n generalizing lx with
  | zero => exact h
  | succ n ih =>
    unfold Lexer.toNext
    dsimp only
    split
    · refine ih ?_
      exact h
    · exact h

theorem stop_notMem_run (fuel : Nat) : Token.stop .notUnicode ∉ run after fuel lx := by
  induction fuel generalizing lx with
  | zero => exact stop_notMem_stop h (by simp)
  | succ fuel ih =>
    have hhere := h.toNext (lx.cur.left + 1)
    unfold run
    dsimp only
    split
    · have hfinish := clean_finish hhere hafter
      generalize (lx.toNext (lx.cur.left + 1)).finish after = read at hfinish ⊢
      cases read with
      | ok done => exact fun hmem => hfinish _ (Array.mem_toList_iff.1 hmem)
      | error f => exact stop_notMem_stop h hfinish
    · have hnext := clean_next hhere hafter
      generalize (lx.toNext (lx.cur.left + 1)).next after = read at hnext ⊢
      cases read with
      | ok lx => exact ih hnext
      | error f => exact stop_notMem_stop h hnext

end Lexer

theorem stop_notMem_ofSource {src : Source} (h : src.after ≠ some .notUnicode) :
    Token.stop .notUnicode ∉ Token.ofSource src := by
  have hstart : (Lexer.start src.chars).Clean := by simp [Lexer.Clean, Lexer.start]
  unfold Token.ofSource
  dsimp only
  refine Lexer.stop_notMem_run ?_ h _
  split
  · exact hstart
  · exact hstart

end Yaml

end NodeGate
