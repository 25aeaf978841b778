import NodeGate.Proofs.ClosedLoop
import NodeGate.Proofs.Courses

/-!
# The object over time

The API server keeps one object for a node, and the controller is not alone in writing it. It reads
some state of the object, asks for pods, and sends a patch that does not say which state it was made
from. By then others may have written, and the server applies the patch to whatever is there.

A `Timeline` holds all states of an object. What happens to it is a write of somebody else, or a pass
of the controller over one of its states, the current one or an older one. The patch of a pass is
applied where the pass stands, so what was written between its reading and its patch stands before it.

Taints cannot be written safely this way. Names, labels and foreign annotations are as others left them
after a patch, but the foreign taints are those that the controller has read
(`foreignTaints_after_patch`).
-/

set_option autoImplicit false

namespace NodeGate

/-! ## Parts of an object -/

namespace NodeObject

/-- What an annotation is read as. Where the annotations cannot be read there is none. -/
def annotationAt? (o : NodeObject) (key : String) : Option String :=
  match Check.dict Check.text (o.annotations.orElse (.map [])) with
  | .ok annotations => annotations.get? key
  | .error _ => none

/-- The foreign taints in order, if the taints can be read. -/
def foreignTaints? (o : NodeObject) : Option (List Taint) :=
  match o.taintObjects.mapM Taint.ofObject with
  | .ok taints => some (taints.filter fun t => !t.owned)
  | .error _ => none

variable {o : NodeObject} {n m : Node}

theorem annotationAt?_of_ofObject (h : Node.ofObject o = .ok n) (key : String) :
    o.annotationAt? key = n.annotations.get? key := by
  unfold annotationAt?
  rw [(Node.ofObject_eq_ok_iff.1 h).2.2.2]

theorem foreignTaints?_of_ofObject (h : Node.ofObject o = .ok n) :
    o.foreignTaints? = some n.foreignTaints := by
  unfold foreignTaints?
  rw [(Node.ofObject_eq_ok_iff.1 h).1]
  rfl

/-- Only owned annotations are sent, and what is sent is read first. -/
theorem annotationAt?_apply_of_dict {d : Dict String} (m : Node)
    (hd : Check.dict Check.text (o.annotations.orElse (.map [])) = .ok d) (key : String) :
    (m.toPatch.apply o).annotationAt? key =
      if isOwned key = true then (m.annotations.get? key).or (o.annotationAt? key)
      else o.annotationAt? key := by
  unfold annotationAt?
  rw [annotations_apply m hd, hd]
  show (d.merge (m.annotations.filterKeys isOwned)).get? key = _
  rw [Dict.get?_merge, Dict.get?_filterKeys]
  split
  · rfl
  · rfl

theorem annotationAt?_apply {key value : String} (m : Node) (h : o.annotationAt? key = some value) :
    (m.toPatch.apply o).annotationAt? key =
      if isOwned key = true then (m.annotations.get? key).or (some value) else some value := by
  cases hd : Check.dict Check.text (o.annotations.orElse (.map [])) with
  | ok d => rw [annotationAt?_apply_of_dict m hd, h]
  | error e =>
    unfold annotationAt? at h
    rw [hd] at h
    cases h

/-- Over an object that can be read, what is absent and foreign stays absent. -/
theorem annotationAt?_apply_of_ofObject {key : String} (m : Node) (h : Node.ofObject o = .ok n)
    (hkey : isOwned key = false) : (m.toPatch.apply o).annotationAt? key = o.annotationAt? key := by
  rw [annotationAt?_apply_of_dict m (Node.ofObject_eq_ok_iff.1 h).2.2.2, hkey]
  rfl

theorem foreignTaints?_apply (o : NodeObject) (hm : ∀ t ∈ m.taints, t.value ≠ some "") :
    (m.toPatch.apply o).foreignTaints? = some m.foreignTaints := by
  unfold foreignTaints?
  rw [taintObjects_apply, mapM_ofObject_forms hm]
  rfl

end NodeObject

/-! ## Timelines -/

/-- All states that an object has had, and the one it has. -/
structure Timeline where
  earlier : List NodeObject
  current : NodeObject

/-- What happens to an object: another writer leaves it in some state, or the controller handles the
state with this number. -/
inductive Happening
  | written (o : NodeObject)
  | handled (version : Nat) (p : Pass)

/-- A call of the controller that the cluster lets through. -/
def Pass.handle (p : Pass) (n : Node) : Run Result :=
  Controller.handle ⟨p.policy, false⟩ ⟨p.lister, fun _ => .ok (), fun _ => .ok ()⟩ p.now n

namespace Timeline

def since (o : NodeObject) : Timeline := ⟨[], o⟩

def states (t : Timeline) : List NodeObject := t.earlier ++ [t.current]

def push (t : Timeline) (o : NodeObject) : Timeline := ⟨t.states, o⟩

/-- The nodes that the controller writes when it handles a state. What cannot be read it leaves. -/
def writes (t : Timeline) (version : Nat) (p : Pass) : List Node :=
  match t.states[version]? with
  | none => []
  | some o =>
    match Node.ofObject o with
    | .error _ => []
    | .ok n => (p.handle n).updates

/-- Every patch is applied to the current state, whatever state it was made from. -/
def advance (t : Timeline) : Happening → Timeline
  | .written o => t.push o
  | .handled version p =>
    (t.writes version p).foldl (fun t m => t.push (m.toPatch.apply t.current)) t

def run (t : Timeline) (hs : List Happening) : Timeline := hs.foldl advance t

/-- The state is read as the node. -/
def Shows (t : Timeline) (version : Nat) (n : Node) : Prop :=
  ∃ o, t.states[version]? = some o ∧ Node.ofObject o = .ok n

theorem current_mem_states (t : Timeline) : t.current ∈ t.states :=
  List.mem_append_right t.earlier (List.mem_singleton_self t.current)

/-! ## What one happening does -/

variable {t : Timeline} {version : Nat} {p : Pass} {n : Node} {r : Result}

theorem writes_of_shows (h : t.Shows version n) (p : Pass) :
    t.writes version p = (p.handle n).updates := by
  obtain ⟨o, hstate, hread⟩ := h
  unfold writes
  rw [hstate]
  simp only [hread]

theorem writes_of_unread (h : ∀ n, ¬ t.Shows version n) (p : Pass) :
    t.writes version p = [] := by
  unfold writes
  split
  · rfl
  · rename_i o hstate
    split
    · rfl
    · rename_i n hread
      exact absurd ⟨o, hstate, hread⟩ (h n)

theorem writes_of_passed (hshows : t.Shows version n)
    (hpass : (reconcile p.lister p.policy p.now n).result = .ok r) :
    t.writes version p = if r.changed = true then [r.node] else [] := by
  rw [writes_of_shows hshows, Pass.handle, Controller.updates_handle hpass]
  simp only [and_true]

/-- All that handling a state can do: nothing, or one node is written, because the state could be read
and the pass over it has changed something. -/
theorem writes_cases (t : Timeline) (version : Nat) (p : Pass) :
    t.writes version p = [] ∨
      ∃ n r, t.Shows version n ∧ (reconcile p.lister p.policy p.now n).result = .ok r ∧
        r.changed = true ∧ t.writes version p = [r.node] := by
  by_cases hread : ∃ n, t.Shows version n
  · obtain ⟨n, hshows⟩ := hread
    cases hpass : (reconcile p.lister p.policy p.now n).result with
    | error f =>
      left
      rw [writes_of_shows hshows]
      exact Controller.updates_handle_of_error hpass
    | ok r =>
      have hwrites := writes_of_passed hshows hpass
      by_cases hchanged : r.changed = true
      · exact .inr ⟨n, r, hshows, hpass, hchanged, hwrites.trans (if_pos hchanged)⟩
      · exact .inl (hwrites.trans (if_neg hchanged))
  · exact .inl (writes_of_unread (not_exists.1 hread) p)

theorem advance_of_writes_eq_nil (h : t.writes version p = []) :
    t.advance (.handled version p) = t := by
  show (t.writes version p).foldl _ t = t
  rw [h]
  rfl

theorem advance_of_writes {m : Node} (h : t.writes version p = [m]) :
    t.advance (.handled version p) = t.push (m.toPatch.apply t.current) := by
  show (t.writes version p).foldl _ t = _
  rw [h]
  rfl

theorem advance_cases (t : Timeline) (h : Happening) :
    t.advance h = t ∨ ∃ o, t.advance h = t.push o := by
  cases h with
  | written o => exact .inr ⟨o, rfl⟩
  | handled version p =>
    -- a pass writes at most one node, so at most one state is added
    rcases t.writes_cases version p with hwrites | ⟨_, r, _, _, _, hwrites⟩
    · exact .inl (advance_of_writes_eq_nil hwrites)
    · exact .inr ⟨_, advance_of_writes hwrites⟩

/-! ## States stay -/

theorem states_prefix_advance (t : Timeline) (h : Happening) :
    t.states <+: (t.advance h).states := by
  rcases t.advance_cases h with hadv | ⟨o, hadv⟩
  · exact ⟨[], by rw [hadv, List.append_nil]⟩
  · exact ⟨[o], by rw [hadv]; rfl⟩

theorem states_prefix_run (t : Timeline) (hs : List Happening) : t.states <+: (t.run hs).states := by
  induction hs generalizing t with
  | nil => exact List.prefix_rfl
  | cons h hs ih => exact (t.states_prefix_advance h).trans (ih (t.advance h))

/-- What was current is found under its number ever after. -/
theorem getElem?_states_run (t : Timeline) (hs : List Happening) :
    (t.run hs).states[t.earlier.length]? = some t.current := by
  obtain ⟨more, hmore⟩ := t.states_prefix_run hs
  rw [← hmore, states, List.append_assoc]
  simp

/-! ## Relations between states -/

/-- Every step of the happenings is as `P` says. -/
def Along (P : Timeline → Happening → Prop) (t : Timeline) : List Happening → Prop
  | [] => True
  | h :: hs => P t h ∧ Along P (t.advance h) hs

section Pairwise

variable {R : NodeObject → NodeObject → Prop} (hrefl : ∀ a, R a a) (ht : t.states.Pairwise R)
include hrefl ht

theorem rel_current {o : NodeObject} (ho : o ∈ t.states) : R o t.current := by
  obtain ⟨_, _, hearlier⟩ := List.pairwise_append.1 ht
  rcases List.mem_append.1 ho with ho | ho
  · exact hearlier o ho t.current List.mem_cons_self
  · rw [List.mem_singleton.1 ho]
    exact hrefl t.current

/-- What holds between the states so far, and between the current state and the next, holds between all
of them. -/
theorem pairwise_advance (htrans : ∀ {a b c}, R a b → R b c → R a c) {h : Happening}
    (hnext : R t.current (t.advance h).current) : (t.advance h).states.Pairwise R := by
  rcases t.advance_cases h with hadv | ⟨o, hadv⟩
  · rw [hadv]
    exact ht
  · -- the new state comes last, and every state is related to it through the current one
    rw [hadv] at hnext ⊢
    refine List.pairwise_append.2 ⟨ht, List.pairwise_singleton R o, ?_⟩
    intro a ha b hb
    rw [List.mem_singleton.1 hb]
    exact htrans (rel_current hrefl ht ha) hnext

end Pairwise

end Timeline

/-! ## What a patch undoes -/

theorem value_ne_of_passed {o : NodeObject} {lister : Lister} {p : Policy} {now : Moment} {n : Node}
    {r : Result} (ho : Node.ofObject o = .ok n)
    (hpass : (reconcile lister p now n).result = .ok r) :
    ∀ t ∈ r.node.taints, t.value ≠ some "" := by
  obtain ⟨_, rfl⟩ := reconcile_eq_ok_iff.1 hpass
  exact value_ne_of_mem_verdict (p.nodup_waiting lister n)
    (value_ne_of_mapM (Node.ofObject_eq_ok_iff.1 ho).1)

theorem follows_of_passed {lister : Lister} {p : Policy} {now : Moment} {n : Node} {r : Result}
    (hpass : (reconcile lister p now n).result = .ok r) : n.Follows r.node := by
  obtain ⟨_, rfl⟩ := reconcile_eq_ok_iff.1 hpass
  exact follows_verdict p now n (p.nodup_waiting lister n)

/-- **What a patch does to the parts of others.** The controller reads the object, then anything may
happen `between`, and then its patch is applied. Name and labels stay as the others left them, and so
does every foreign annotation, and none is added to an object that can be read. If there is a patch, the foreign taints are those that the controller
has read. So they stay as the others left them exactly if there is no patch, or they were left as they
were read. -/
theorem foreignTaints_after_patch (t : Timeline) (between : List Happening) (p : Pass) :
    let before := t.run between
    let after := before.advance (.handled t.earlier.length p)
    after.current.name = before.current.name ∧
    after.current.labels = before.current.labels ∧
    (∀ key value, isOwned key = false → before.current.annotationAt? key = some value →
      after.current.annotationAt? key = some value) ∧
    (∀ m key, Node.ofObject before.current = .ok m → isOwned key = false →
      after.current.annotationAt? key = before.current.annotationAt? key) ∧
    (before.writes t.earlier.length p ≠ [] →
      after.current.foreignTaints? = t.current.foreignTaints?) ∧
    (after.current.foreignTaints? = before.current.foreignTaints? ↔
      before.writes t.earlier.length p = [] ∨
        before.current.foreignTaints? = t.current.foreignTaints?) := by
  intro before after
  rcases before.writes_cases t.earlier.length p with hnone | ⟨n, r, hshows, hpass, _, hwrites⟩
  · have hafter : after = before := Timeline.advance_of_writes_eq_nil hnone
    rw [hafter]
    exact ⟨rfl, rfl, fun _ _ _ h => h, fun _ _ _ _ => rfl, fun h => absurd hnone h,
      fun _ => .inl hnone, fun _ => rfl⟩
  · have hafter : after.current = r.node.toPatch.apply before.current :=
      congrArg Timeline.current (Timeline.advance_of_writes hwrites)
    -- the patch was made from the state that was current when the controller read it
    have hread : Node.ofObject t.current = .ok n := by
      obtain ⟨o, hstate, ho⟩ := hshows
      rw [t.getElem?_states_run between] at hstate
      cases hstate
      exact ho
    have hforeign : after.current.foreignTaints? = t.current.foreignTaints? := by
      rw [hafter, NodeObject.foreignTaints?_apply before.current (value_ne_of_passed hread hpass),
        (follows_of_passed hpass).foreignTaints, NodeObject.foreignTaints?_of_ofObject hread]
    have hsome : before.writes t.earlier.length p ≠ [] := by
      rw [hwrites]
      exact List.cons_ne_nil _ _
    refine ⟨by rw [hafter]; rfl, by rw [hafter]; rfl, ?_, ?_, fun _ => hforeign, ?_⟩
    · -- what is not owned is not sent
      intro key value howned hvalue
      rw [hafter, NodeObject.annotationAt?_apply r.node hvalue, howned]
      rfl
    · intro m key hm howned
      rw [hafter]
      exact NodeObject.annotationAt?_apply_of_ofObject r.node hm howned
    · rw [hforeign, or_iff_right hsome, eq_comm]

namespace Overtaken

/-- A node that nobody has marked yet. -/
def bare : NodeObject where
  name := .text "worker-1"
  labels := .null
  annotations := .null
  spec := none

/-- Somebody else taints it. -/
def tainted : NodeObject :=
  { bare with spec := some ⟨some [⟨.text "gpu", .text "true", .text "NoExecute"⟩]⟩ }

def annotated : NodeObject :=
  { tainted with annotations := .map [(.text "team", .text "infra")] }

/-- No workload is asked for, so every pass finds the node ready. -/
def stamping : Pass :=
  ⟨⟨[], Dict.empty, Dict.empty, false, true, by decide⟩, Drifted.pods, Drifted.now⟩

end Overtaken

/-- The tainted object is read to be stamped and gets a foreign annotation in between. The patch has
the taint, which was there all along, and does not have the annotation, which is not touched. One that is
not there does not come. -/
theorem foreignTaints_after_patch_annotated :
    ((Timeline.since Overtaken.tainted).run [.written Overtaken.annotated]).writes 0
      Overtaken.stamping ≠ [] ∧
    ((Timeline.since Overtaken.tainted).run
      [.written Overtaken.annotated, .handled 0 Overtaken.stamping]).current.foreignTaints? =
        some [Drifted.gpu] ∧
    ((Timeline.since Overtaken.tainted).run
      [.written Overtaken.annotated, .handled 0 Overtaken.stamping]).current.annotationAt? "team" =
        some "infra" ∧
    ((Timeline.since Overtaken.tainted).run
      [.written Overtaken.annotated, .handled 0 Overtaken.stamping]).current.annotationAt? "tier" =
        none := by
  have hwrites : ((Timeline.since Overtaken.tainted).run [.written Overtaken.annotated]).writes 0
      Overtaken.stamping ≠ [] := by
    decide
  obtain ⟨_, _, hkept, habsent, hforeign, _⟩ := foreignTaints_after_patch
    (Timeline.since Overtaken.tainted) [.written Overtaken.annotated] Overtaken.stamping
  have hread : Overtaken.tainted.foreignTaints? = some [Drifted.gpu] := by decide
  exact ⟨hwrites, (hforeign hwrites).trans hread, hkept "team" "infra" (by decide) (by decide),
    (habsent _ "tier" rfl (by decide)).trans (by decide)⟩

/-- The bare object is read to be stamped and gets a foreign taint in between. The patch is one to a
node without taints, and takes it off. -/
theorem foreign_taint_lost :
    ((Timeline.since Overtaken.bare).run [.written Overtaken.tainted]).current.foreignTaints? =
      some [Drifted.gpu] ∧
    ((Timeline.since Overtaken.bare).run
      [.written Overtaken.tainted, .handled 0 Overtaken.stamping]).current.foreignTaints? =
        some [] :=
  ⟨by decide, by decide⟩

end NodeGate
