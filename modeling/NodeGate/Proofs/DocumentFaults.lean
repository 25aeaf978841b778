import NodeGate.Proofs.TokenFaults
import NodeGate.Yaml.Document

/-!
# Faults of documents

Whoever reads a document takes the tokens up to the fault at their end, if there is one, and may find
other faults before it; that the bytes are no text is not one of these. So what was written as text is
never found to be none (`Document.load_toUTF8`), whatever else is wrong with it.
-/

set_option autoImplicit false

namespace NodeGate.Yaml

variable {α β : Type}

/-! ## Graphs -/

namespace Drafting

/-- The tokens that are left do not end with the fault that the bytes are no text. -/
def Tidy (d : Draft) : Prop := Token.stop .notUnicode ∉ d.tokens

/-- Reading on from a tidy draft leaves a tidy one, or ends with another fault. -/
def Keeps (x : Drafting α) : Prop := ∀ d, Tidy d → Yields (fun p => Tidy p.2) (x d)

theorem keeps_pure (a : α) : Keeps (pure a) := fun _ h => h

theorem Keeps.bind {x : Drafting α} {next : α → Drafting β} (hx : Keeps x)
    (hnext : ∀ a, Keeps (next a)) : Keeps (x >>= next) :=
  fun d hd => Yields.bind (hx d hd) fun p hp => hnext p.1 p.2 hp

theorem keeps_get_bind {next : Draft → Drafting α} (hnext : ∀ d, Tidy d → Keeps (next d)) :
    Keeps (get >>= next) := fun d hd => hnext d hd d hd

theorem keeps_set {d : Draft} (h : Tidy d) : Keeps (set d) := fun _ _ => h

theorem keeps_throw {f : Fault} (hf : f ≠ .notUnicode) : Keeps (throw f : Drafting α) :=
  fun _ _ => hf

theorem keeps_refuse : Keeps (refuse : Drafting α) := keeps_throw (by simp)

theorem keeps_modify {f : Draft → Draft} (hf : ∀ d, Tidy d → Tidy (f d)) : Keeps (modify f) :=
  fun d hd => hf d hd

theorem keeps_ofExcept {r : Except Fault α} (h : Sound r) : Keeps (monadLift r : Drafting α) := by
  intro d hd
  exact Sound.bind h fun _ => hd

theorem Keeps.ite {c : Prop} [Decidable c] {x y : Drafting α} (hx : Keeps x) (hy : Keeps y) :
    Keeps (if c then x else y) := by
  split
  · exact hx
  · exact hy

theorem keeps_peek : Keeps peek := by
  rintro ⟨tokens, nodes, depth, anchors, handles⟩ hd
  rcases tokens with _ | ⟨t, rest⟩
  · exact fun h => nomatch h
  · cases t with
    | stop f =>
      rintro rfl
      exact hd List.mem_cons_self
    | _ => exact hd

theorem keeps_advance : Keeps advance :=
  keeps_modify fun _ h hmem => h (List.mem_of_mem_tail hmem)

theorem keeps_accept (t : Token) : Keeps (accept t) :=
  keeps_peek.bind fun _ => (keeps_advance.bind fun _ => keeps_pure _).ite (keeps_pure _)

theorem keeps_expect (t : Token) : Keeps (expect t) :=
  (keeps_accept t).bind fun _ => keeps_refuse.ite (keeps_pure _)

theorem keeps_isNext (ts : List Token) : Keeps (isNext ts) := keeps_peek.bind fun _ => keeps_pure _

theorem keeps_add (anchor : Option String) (n : GraphNode) : Keeps (add anchor n) := by
  refine keeps_get_bind fun d hd => ?_
  have hset : ∀ anchors, Keeps (do
      set { d with nodes := d.nodes.push n, anchors }
      return d.nodes.size) := fun anchors => Keeps.bind (keeps_set hd) fun _ => keeps_pure _
  cases anchor with
  | none => exact hset _
  | some name =>
    dsimp only
    split
    · exact keeps_refuse.bind fun _ => hset _
    · exact hset _

theorem keeps_fill (id : Nat) (n : GraphNode) : Keeps (fill id n) := keeps_modify fun _ h => h

theorem Keeps.within {part : Drafting α} (h : Keeps part) : Keeps (within part) := by
  refine keeps_get_bind fun d _ => ?_
  have hpart : Keeps (do
      modify fun d => { d with depth := d.depth + 1 }
      let a ← part
      modify fun d => { d with depth := d.depth - 1 }
      return a) :=
    Keeps.bind (keeps_modify fun _ h => h) fun _ => h.bind fun _ =>
      Keeps.bind (keeps_modify fun _ h => h) fun _ => keeps_pure _
  dsimp only
  split
  · exact keeps_throw (by simp)
  · exact hpart

theorem keeps_absent : Keeps absent := keeps_add _ _

theorem Keeps.absentIf {node : Drafting Nat} (h : Keeps node) (ts : List Token) :
    Keeps (absentIf ts node) := (keeps_isNext ts).bind fun _ => keeps_absent.ite h

theorem Keeps.valueOr {node : Drafting Nat} (h : Keeps node) (ts : List Token) :
    Keeps (valueOr ts node) := (keeps_accept .value).bind fun _ => (h.absentIf ts).ite keeps_absent

theorem keeps_tagText (form : TagForm) : Keeps (tagText form) := by
  cases form with
  | verbatim text => exact keeps_pure text
  | short handle suffix =>
    refine keeps_get_bind fun d _ => ?_
    split
    · exact keeps_pure _
    · exact keeps_refuse

theorem keeps_properties : Keeps properties := by
  refine keeps_peek.bind fun t => ?_
  cases t with
  | anchor name =>
    refine keeps_advance.bind fun _ => keeps_peek.bind fun t => ?_
    cases t with
    | tag form => exact keeps_advance.bind fun _ => (keeps_tagText form).bind fun _ => keeps_pure _
    | _ => exact keeps_pure _
  | tag form =>
    refine keeps_advance.bind fun _ => keeps_peek.bind fun t => ?_
    cases t with
    | anchor name =>
      exact keeps_advance.bind fun _ => (keeps_tagText form).bind fun _ => keeps_pure _
    | _ => exact (keeps_tagText form).bind fun _ => keeps_pure _
  | _ => exact keeps_pure _

theorem keeps_blank (anchor tag : Option String) : Keeps (blank anchor tag) := by
  unfold blank
  exact (keeps_refuse.bind fun _ => keeps_add _ _).ite (keeps_add _ _)

/-- A collection is added before its parts are read and filled with them after. -/
theorem keeps_collection (anchor : Option String) (collect : List β → GraphNode)
    {parts : Drafting (List β)} (h : Keeps parts) : Keeps (do
      let id ← add anchor (collect [])
      fill id (collect (← within parts))
      return id) :=
  (keeps_add _ _).bind fun _ => h.within.bind fun _ => (keeps_fill _ _).bind fun _ => keeps_pure _

/-- All readers of nodes keep drafts tidy. They call each other, so it is shown of all at once. -/
structure NodesKeep (fuel : Nat) : Prop where
  node : ∀ lines sameIndent, Keeps (node fuel lines sameIndent)
  items : ∀ sameIndent, Keeps (items fuel sameIndent)
  entries : Keeps (entries fuel)
  flowItems : ∀ first, Keeps (flowItems fuel first)
  flowEntries : ∀ first, Keeps (flowEntries fuel first)

section Succ

variable {fuel : Nat} (ih : NodesKeep fuel)
include ih

theorem keeps_node_succ (lines sameIndent : Bool) : Keeps (node (fuel + 1) lines sameIndent) := by
  unfold Drafting.node
  refine keeps_peek.bind fun t => ?_
  -- what is read unless the node is an alias
  extract_lets content
  have hcontent : ∀ u, Keeps (content u) := by
    rintro ⟨⟩
    refine keeps_properties.bind fun p => ?_
    obtain ⟨anchor, tag⟩ := p
    dsimp -zeta only
    extract_lets sequenceTag asSequence mappingTag asMapping
    have hsequence : ∀ {x}, Keeps x → Keeps (asSequence x) :=
      keeps_collection anchor (.sequence sequenceTag)
    have hmapping : ∀ {x}, Keeps x → Keeps (asMapping x) :=
      keeps_collection anchor (.mapping mappingTag)
    refine keeps_peek.bind fun t => ?_
    cases t with
    | scalar text plain => exact keeps_advance.bind fun _ => keeps_add _ _
    | flowSequenceStart => exact keeps_advance.bind fun _ => hsequence (ih.flowItems _)
    | flowMappingStart => exact keeps_advance.bind fun _ => hmapping (ih.flowEntries _)
    | blockEntry => exact (hsequence (ih.items _)).ite (keeps_blank _ _)
    | blockSequenceStart =>
      exact (keeps_advance.bind fun _ => hsequence (ih.items _)).ite (keeps_blank _ _)
    | blockMappingStart =>
      exact (keeps_advance.bind fun _ => hmapping ih.entries).ite (keeps_blank _ _)
    | _ => exact keeps_blank _ _
  cases t with
  | «alias» name =>
    refine keeps_advance.bind fun _ => keeps_get_bind fun d _ => ?_
    split
    · exact keeps_pure _
    · exact keeps_refuse.bind hcontent
  | _ => exact hcontent ()

theorem keeps_items_succ (sameIndent : Bool) : Keeps (items (fuel + 1) sameIndent) := by
  unfold Drafting.items
  refine (keeps_accept _).bind fun _ => Keeps.ite ?_ ?_
  · exact ((ih.node _ _).absentIf _).bind fun _ => (ih.items _).bind fun _ => keeps_pure _
  · exact Keeps.ite ((keeps_expect _).bind fun _ => keeps_pure _) (keeps_pure _)

theorem keeps_entries_succ : Keeps (entries (fuel + 1)) := by
  unfold Drafting.entries
  refine (keeps_accept _).bind fun _ => Keeps.ite ?_ ((keeps_expect _).bind fun _ => keeps_pure _)
  exact ((ih.node _ _).absentIf _).bind fun _ => ((ih.node _ _).valueOr _).bind fun _ =>
    ih.entries.bind fun _ => keeps_pure _

theorem keeps_flowItems_succ (first : Bool) : Keeps (flowItems (fuel + 1) first) := by
  unfold Drafting.flowItems
  refine (keeps_accept _).bind fun _ => (keeps_pure _).ite ?_
  extract_lets item
  have hitem : ∀ u, Keeps (item u) := by
    intro u
    refine (keeps_isNext _).bind fun _ => Keeps.ite ?_ ?_
    · exact (keeps_add _ _).bind fun _ => keeps_advance.bind fun _ =>
        ((ih.node _ _).absentIf _).within.bind fun _ =>
          ((ih.node _ _).valueOr _).within.bind fun _ =>
            (keeps_fill _ _).bind fun _ => (ih.flowItems _).bind fun _ => keeps_pure _
    · exact (keeps_accept _).bind fun _ => (keeps_pure _).ite <| (ih.node _ _).bind fun _ =>
        (ih.flowItems _).bind fun _ => keeps_pure _
  exact ((keeps_expect _).bind hitem).ite (hitem ())

theorem keeps_flowEntries_succ (first : Bool) : Keeps (flowEntries (fuel + 1) first) := by
  unfold Drafting.flowEntries
  refine (keeps_accept _).bind fun _ => (keeps_pure _).ite ?_
  extract_lets entry
  have hentry : ∀ u, Keeps (entry u) := by
    intro u
    refine (keeps_accept _).bind fun _ => Keeps.ite ?_ ?_
    · exact ((ih.node _ _).absentIf _).bind fun _ => ((ih.node _ _).valueOr _).bind fun _ =>
        (ih.flowEntries _).bind fun _ => keeps_pure _
    · exact (keeps_accept _).bind fun _ => (keeps_pure _).ite <| (ih.node _ _).bind fun _ =>
        keeps_absent.bind fun _ => (ih.flowEntries _).bind fun _ => keeps_pure _
  exact ((keeps_expect _).bind hentry).ite (hentry ())

end Succ

/-- Without fuel every reader refuses, and with it the readers that it calls have less. -/
theorem nodesKeep (fuel : Nat) : NodesKeep fuel := by
  induction fuel with
  | zero =>
    constructor
    case node =>
      intro lines sameIndent
      unfold Drafting.node
      exact keeps_refuse
    case items =>
      intro sameIndent
      unfold Drafting.items
      exact keeps_refuse
    case entries =>
      unfold Drafting.entries
      exact keeps_refuse
    case flowItems =>
      intro first
      unfold Drafting.flowItems
      exact keeps_refuse
    case flowEntries =>
      intro first
      unfold Drafting.flowEntries
      exact keeps_refuse
  | succ fuel ih =>
    exact ⟨keeps_node_succ ih, keeps_items_succ ih, keeps_entries_succ ih, keeps_flowItems_succ ih,
      keeps_flowEntries_succ ih⟩

theorem sound_directives (versioned : Bool) (handles : List (String × String)) (ts : List Token) :
    Sound (directives versioned handles ts) := by
  fun_induction directives versioned handles ts <;> simp_all

theorem keeps_markedDocument (fuel : Nat) : Keeps (markedDocument fuel) := by
  refine keeps_get_bind fun d _ => (keeps_ofExcept (sound_directives _ _ _)).bind fun _ => ?_
  refine Keeps.bind (keeps_modify fun d h hmem => h (List.dropWhile_subset _ hmem)) fun _ => ?_
  refine (keeps_expect _).bind fun _ => keeps_peek.bind fun _ => ?_
  exact keeps_absent.ite (((nodesKeep fuel).node _ _).absentIf _)

theorem keeps_document (fuel : Nat) : Keeps (document fuel) := by
  have hend : ∀ id : Nat, Keeps (do
      discard (accept .documentEnd)
      modify fun d => { d with tokens := d.tokens.dropWhile (· = .documentEnd) }
      expect .textEnd
      return some id) := fun id =>
    Keeps.bind ((keeps_accept _).bind fun _ => keeps_pure _) fun _ =>
      Keeps.bind (keeps_modify fun d h hmem => h (List.dropWhile_subset _ hmem)) fun _ =>
        (keeps_expect _).bind fun _ => keeps_pure (some id)
  refine keeps_peek.bind fun t => (keeps_pure none).ite ?_
  split
  · exact (keeps_markedDocument fuel).bind hend
  · exact ((nodesKeep fuel).node _ _).bind hend

end Drafting

theorem sound_graph {src : Source} (h : src.after ≠ some .notUnicode) :
    Sound (Graph.ofSource src) :=
  Yields.bind (Drafting.keeps_document _ _ (stop_notMem_ofSource h)) fun _ _ => trivial

/-! ## Scalars -/

theorem sound_foldlM {f : β → α → Except Fault β} (hf : ∀ s a, Sound (f s a)) (s : β)
    (xs : List α) : Sound (xs.foldlM f s) := by
  induction xs generalizing s with
  | nil => trivial
  | cons x xs ih =>
    rw [List.foldlM_cons]
    exact (hf s x).bind fun _ => ih _

theorem sound_integerOf (cs : List Char) : Sound (integerOf cs) := by
  unfold integerOf
  dsimp only
  split
  · simp
  · split
    · trivial
    · simp

theorem sound_sixtiethFloat (parts : List Float) : Sound (sixtiethFloat parts) := by
  unfold sixtiethFloat
  refine Sound.bind (sound_foldlM (fun p part => ?_) _ _) fun _ => trivial
  dsimp only
  split
  · simp
  · trivial

theorem sound_floatOf (cs : List Char) : Sound (floatOf cs) := by
  unfold floatOf
  dsimp only
  split
  · simp
  · split
    · trivial
    · split
      · trivial
      · split
        · split
          · exact (sound_sixtiethFloat _).bind fun _ => trivial
          · simp
        · cases Numeral.float? (Numeral.sign (plainFraction cs)).2 <;> simp

theorem sound_truthOf (cs : List Char) : Sound (truthOf cs) := by
  unfold truthOf
  dsimp only
  repeat' split
  all_goals simp

theorem sound_momentOf (cs : List Char) : Sound (momentOf cs) := by
  unfold momentOf
  repeat' split
  all_goals simp

theorem sound_bytesOf (cs : List Char) : Sound (bytesOf cs) := by
  unfold bytesOf
  repeat' split
  all_goals simp

theorem sound_scalarValue (tag : Tag) (t : RawText) : Sound (scalarValue tag t) := by
  cases tag with
  | bool => exact yields_map.2 (sound_truthOf _)
  | int => exact yields_map.2 (sound_integerOf _)
  | float => exact yields_map.2 (sound_floatOf _)
  | binary => exact yields_map.2 (sound_bytesOf _)
  | moment => exact sound_momentOf _
  | null => trivial
  | text => trivial
  | _ => exact fun h => nomatch h

/-! ## Documents -/

namespace Nodes

theorem sound_merge (fuel id i : Nat) (merged : List (Nat × Nat)) (nodes : Nodes) :
    Sound (merge fuel id i merged nodes) := by
  induction fuel generalizing id i merged nodes with
  | zero => exact fun h => nomatch h
  | succ fuel ih =>
    unfold merge
    dsimp only
    split
    · trivial
    · split
      · split
        · exact (ih _ _ _ _).bind fun _ => ih _ _ _ _
        · refine Sound.bind (sound_foldlM (fun p item => ?_) _ _) fun _ => ih _ _ _ _
          split
          · exact (ih _ _ _ _).bind fun _ => trivial
          · simp
        · simp
      · exact ih _ _ _ _
      · exact ih _ _ _ _

theorem sound_scalarText (nodes : Nodes) (fuel id : Nat) : Sound (nodes.scalarText fuel id) := by
  induction fuel generalizing id with
  | zero => exact fun h => nomatch h
  | succ fuel ih =>
    unfold scalarText
    repeat' split
    · trivial
    · simp
    · exact ih _
    · simp

theorem sound_scalar (nodes : Nodes) (id : Nat) : Sound (nodes.scalar id) := by
  unfold scalar
  dsimp only
  split
  · simp
  · refine (sound_scalarText _ _ _).bind fun t => ?_
    split
    · simp
    · exact sound_scalarValue _ _

end Nodes

namespace Making

theorem sound_visit (m : Making) (id : Nat) : Sound (m.visit id) := by
  unfold visit
  dsimp only
  split
  · trivial
  · split
    · trivial
    · exact (Nodes.sound_scalar _ _).bind fun _ => trivial

theorem sound_visitEntry (m : Making) (e : Nat × Nat) : Sound (m.visitEntry e) := by
  refine (sound_visit _ _).bind fun m => ?_
  split
  · simp
  · exact sound_visit _ _

theorem sound_expand (m : Making) (id : Nat) : Sound (m.expand id) := by
  unfold expand
  split
  case h_1 => exact sound_foldlM sound_visit _ _
  case h_2 | h_3 =>
    exact (Nodes.sound_merge _ _ _ _ _).bind fun _ => sound_foldlM sound_visitEntry _ _
  case h_4 | h_5 =>
    refine sound_foldlM (fun m item => ?_) _ _
    split
    · exact (sound_visit _ _).bind fun _ => sound_visit _ _
    · simp
  case h_6 => simp

theorem sound_run (fuel i : Nat) (m : Making) : Sound (m.run fuel i) := by
  induction fuel generalizing i m with
  | zero => trivial
  | succ fuel ih =>
    unfold run
    split
    · trivial
    · exact (sound_expand _ _).bind fun _ => ih _ _

end Making

/-- **What was written as text is found to be text.** -/
theorem Document.load_toUTF8 (depth : Nat) (s : String) :
    Document.load depth (.ofBytes s.toUTF8) ≠ .error .notUnicode := by
  have hsound : Sound (Document.load depth (.ofBytes s.toUTF8)) := by
    refine (sound_graph (Source.after_ofBytes_toUTF8 s)).bind fun g => ?_
    cases g with
    | none => trivial
    | some g =>
      exact (Making.sound_visit _ _).bind fun m => (Making.sound_run _ _ _).bind fun _ => trivial
  intro h
  rw [h] at hsound
  exact hsound rfl

end NodeGate.Yaml
