import NodeGate.Proofs.Dicts
import NodeGate.Proofs.Gates

/-!
# Passes one after another

A node sees many passes, each with a policy, a lister and a clock of its own, and some of them fail.
Two things are followed through such a course. What a pass leaves alone is a relation between nodes
that composes (`Node.Follows`), so it holds from the first node to the last. What a pass makes is the
set of owned keys, and that is made anew by every pass in scope (`Course.Gated`): no earlier pass can
be told from it.
-/

set_option autoImplicit false

namespace NodeGate

open Readiness

/-! ## Courses -/

/-- All that one pass has of its own. -/
structure Pass where
  policy : Policy
  lister : Lister
  now : Moment

/-- The node, and the last pass that succeeded. -/
structure Course where
  node : Node
  last : Option Pass

namespace Course

/-- A pass over the node. One that fails gives no node, so the one before stays. -/
def advance (c : Course) (p : Pass) : Course :=
  match (reconcile p.lister p.policy p.now c.node).result with
  | .ok r => ⟨r.node, some p⟩
  | .error _ => c

/-- Pass after pass. -/
def run (c : Course) (ps : List Pass) : Course := ps.foldl advance c

/-- The course of a node that saw no other passes. -/
def after (n : Node) (ps : List Pass) : Course := run ⟨n, none⟩ ps

theorem advance_cases (c : Course) (p : Pass) :
    c.advance p = c ∨
      c.advance p =
        ⟨(verdict p.policy p.now c.node (p.policy.waiting p.lister c.node)).node, some p⟩ := by
  unfold advance
  split
  · rename_i r hr
    obtain ⟨_, rfl⟩ := reconcile_eq_ok_iff.1 hr
    exact .inr rfl
  · exact .inl rfl

theorem run_append (c : Course) (ps later : List Pass) :
    c.run (ps ++ later) = (c.run ps).run later :=
  List.foldl_append

end Course

/-! ## Tidy nodes -/

/-- The owned taints of a node that only passes have written: each key once, and each taint a proper
gate. -/
structure Node.Tidy (n : Node) : Prop where
  nodup : (n.ownedTaints.map Taint.key).Nodup
  proper : ∀ t ∈ n.ownedTaints, t.effect = .noSchedule ∧ t.value = none

theorem Node.ownedTaints_gated (n : Node) (waiting : List Workload) (sweep : Bool) :
    (n.gated waiting sweep).ownedTaints =
      (n.kept waiting sweep).filter Taint.owned ++ (n.ungated waiting).map Workload.gate := by
  have hfresh : ((n.ungated waiting).map Workload.gate).filter Taint.owned =
      (n.ungated waiting).map Workload.gate := by
    rw [List.filter_eq_self]
    intro t ht
    obtain ⟨w, _, rfl⟩ := List.mem_map.1 ht
    exact w.gate_owned
  unfold ownedTaints gated
  rw [List.filter_append, hfresh]

theorem Node.Tidy.gated {n : Node} (h : n.Tidy) {waiting : List Workload} (hw : waiting.Nodup)
    (sweep : Bool) : (n.gated waiting sweep).Tidy := by
  have hkept : ((n.kept waiting sweep).filter Taint.owned).Sublist n.ownedTaints :=
    List.filter_sublist.filter Taint.owned
  constructor
  · rw [ownedTaints_gated, List.map_append, List.nodup_append]
    refine ⟨h.nodup.sublist (hkept.map Taint.key), ?_, ?_⟩
    · rw [List.map_map]
      exact Workload.nodup_taintKeys (hw.filter _)
    · -- a fresh gate has a key that the node lacks
      rintro _ hold _ hnew rfl
      obtain ⟨t, ht, htkey⟩ := List.mem_map.1 hold
      obtain ⟨_, hgate, hkey⟩ := List.mem_map.1 hnew
      obtain ⟨w, hw, rfl⟩ := List.mem_map.1 hgate
      have hmem : t ∈ n.taints := (List.mem_filter.1 (hkept.subset ht)).1
      apply (mem_ungated.1 hw).2
      rw [← w.gate_key, hkey, ← htkey]
      exact List.mem_map_of_mem hmem
  · intro t ht
    rw [ownedTaints_gated, List.mem_append] at ht
    rcases ht with ht | ht
    · exact h.proper t (hkept.subset ht)
    · obtain ⟨w, _, rfl⟩ := List.mem_map.1 ht
      exact ⟨rfl, rfl⟩

/-! ## What passes leave alone -/

/-- The second node is the first with other gates and perhaps a stamp. -/
structure Node.Follows (n m : Node) : Prop where
  name : m.name = n.name
  labels : m.labels = n.labels
  foreignTaints : m.foreignTaints = n.foreignTaints
  annotations : ∀ key, key ≠ firstReadyKey → m.annotations.get? key = n.annotations.get? key
  stamp : ∀ stamp, n.annotations.get? firstReadyKey = some stamp →
    m.annotations.get? firstReadyKey = some stamp
  tidy : n.Tidy → m.Tidy

namespace Node.Follows

theorem refl (n : Node) : n.Follows n := ⟨rfl, rfl, rfl, fun _ _ => rfl, fun _ h => h, id⟩

theorem trans {a b c : Node} (h : a.Follows b) (h' : b.Follows c) : a.Follows c where
  name := h'.name.trans h.name
  labels := h'.labels.trans h.labels
  foreignTaints := h'.foreignTaints.trans h.foreignTaints
  annotations := fun key hkey => (h'.annotations key hkey).trans (h.annotations key hkey)
  stamp := fun stamp hstamp => h'.stamp stamp (h.stamp stamp hstamp)
  tidy := fun ht => h'.tidy (h.tidy ht)

end Node.Follows

theorem follows_gated (n : Node) {waiting : List Workload} (h : waiting.Nodup) (sweep : Bool) :
    n.Follows (n.gated waiting sweep) where
  name := rfl
  labels := rfl
  foreignTaints := Node.foreignTaints_gated
  annotations := fun _ _ => rfl
  stamp := fun _ hstamp => hstamp
  tidy := fun ht => ht.gated h sweep

theorem follows_stamp (p : Policy) (now : Moment) (n : Node) : n.Follows (p.stamp now n).1 := by
  rcases p.stamp_cases now n with h | ⟨hnew, h⟩
  · rw [h]
    exact Node.Follows.refl n
  · rw [h]
    refine ⟨rfl, rfl, rfl, ?_, ?_, fun ht => ⟨ht.nodup, ht.proper⟩⟩
    · intro key hkey
      exact (n.annotations.get?_insert firstReadyKey now.stamp key).trans (if_neg hkey)
    · intro stamp hstamp
      rw [Dict.contains, hstamp] at hnew
      cases hnew

theorem follows_verdict (p : Policy) (now : Moment) (n : Node) {waiting : List Workload}
    (h : waiting.Nodup) : n.Follows (verdict p now n waiting).node := by
  rw [verdict_eq h]
  exact (follows_gated n h _).trans (follows_stamp p now _)

namespace Course

theorem follows_advance (c : Course) (p : Pass) : c.node.Follows (c.advance p).node := by
  rcases c.advance_cases p with h | h
  · rw [h]
    exact Node.Follows.refl c.node
  · rw [h]
    exact follows_verdict p.policy p.now c.node (p.policy.nodup_waiting p.lister c.node)

theorem follows_run (c : Course) (ps : List Pass) : c.node.Follows (c.run ps).node := by
  -- on the passes that are left, from whatever node the ones before gave
  induction ps generalizing c with
  | nil => exact Node.Follows.refl c.node
  | cons p ps ih => exact (c.follows_advance p).trans (ih (c.advance p))

/-! ## What a pass makes -/

/-- If the last pass had the node in scope, the owned keys are those of the workloads that waited
in it. -/
def Gated (c : Course) : Prop :=
  ∀ p, c.last = some p → p.policy.inScope c.node.labels = true → ∀ key,
    key ∈ c.node.ownedKeys ↔
      key ∈ (waiting p.lister c.node.name 0 p.policy.workloads).map Workload.taintKey

/-- A pass that succeeds needs nothing of the pass before it. -/
theorem gated_advance {c : Course} (h : c.Gated) (p : Pass) : (c.advance p).Gated := by
  rcases c.advance_cases p with hadv | hadv
  · rw [hadv]
    exact h
  · -- what was there before the pass is not asked for
    have hnodup := p.policy.nodup_waiting p.lister c.node
    rw [hadv]
    intro q hq hin key
    cases hq
    rw [verdict_labels hnodup] at hin
    rw [mem_ownedKeys_verdict hnodup hin, verdict_name hnodup, Policy.waiting_of_inScope hin]

theorem gated_run {c : Course} (h : c.Gated) (ps : List Pass) : (c.run ps).Gated := by
  induction ps generalizing c with
  | nil => exact h
  | cons p ps ih => exact ih (gated_advance h p)

end Course

/-! ## Any course -/

/-- **A node after any passes.** Name, labels, foreign taints and all annotations but the stamp are
those that the node came with. A stamp that is there stays as it is through whatever comes `later`. A
tidy node stays tidy. And if the last pass that succeeded had the node in scope, then the owned keys
are those of the workloads that waited in that pass: of all earlier passes nothing is left. -/
theorem node_after_passes (n : Node) (ps later : List Pass) :
    (Course.after n ps).node.name = n.name ∧
    (Course.after n ps).node.labels = n.labels ∧
    (Course.after n ps).node.foreignTaints = n.foreignTaints ∧
    (∀ key, key ≠ firstReadyKey →
      (Course.after n ps).node.annotations.get? key = n.annotations.get? key) ∧
    (∀ stamp, (Course.after n ps).node.annotations.get? firstReadyKey = some stamp →
      (Course.after n (ps ++ later)).node.annotations.get? firstReadyKey = some stamp) ∧
    (n.Tidy → (Course.after n ps).node.Tidy) ∧
    ∀ p, (Course.after n ps).last = some p → p.policy.inScope n.labels = true → ∀ key,
      key ∈ (Course.after n ps).node.ownedKeys ↔
        key ∈ (waiting p.lister n.name 0 p.policy.workloads).map Workload.taintKey := by
  have hfollows : n.Follows (Course.after n ps).node := Course.follows_run ⟨n, none⟩ ps
  have hlater : (Course.after n ps).node.Follows (Course.after n (ps ++ later)).node := by
    unfold Course.after
    rw [Course.run_append]
    exact Course.follows_run _ later
  refine ⟨hfollows.name, hfollows.labels, hfollows.foreignTaints, hfollows.annotations,
    hlater.stamp, hfollows.tidy, ?_⟩
  intro p hp hin key
  have hstart : (⟨n, none⟩ : Course).Gated := by
    intro q hq
    cases hq
  have hgated : (Course.after n ps).Gated := Course.gated_run hstart ps
  have hkeys := hgated p hp
  rw [hfollows.labels, hfollows.name] at hkeys
  exact hkeys hin key

namespace Moved

open Drifted

def node : Node := ⟨"worker-1", Dict.empty, [gpu, driver.gate], Dict.empty⟩

def gating : Pass := ⟨policy, pods, now⟩

/-- No listing succeeds. -/
def lost : Pass := ⟨policy, fun _ _ => .error (.fault .interrupted), now⟩

def shrunk : Pass := ⟨driverOnly, pods, now⟩

/-- The node is not selected, and nothing is swept. -/
def away : Pass :=
  ⟨{ policy with selector := Dict.ofList [(.ofString "pool", .ofString "gpu")] }, pods, now⟩

end Moved

/-- The node is gated, the next pass fails, the policy shrinks to the driver, which runs, so the node
is stamped; then it leaves the scope and comes back. The stamp is still there then, and so are the two
gates, each once. -/
theorem node_after_passes_moved :
    Moved.node.Tidy ∧
    (Course.after Moved.node [Moved.gating, Moved.lost, Moved.shrunk]).node.annotations.get?
      firstReadyKey = some Drifted.now.stamp ∧
    (Course.after Moved.node [Moved.gating, Moved.lost, Moved.shrunk, Moved.away]).last =
      some Moved.away ∧
    ∃ m, m = (Course.after Moved.node
        [Moved.gating, Moved.lost, Moved.shrunk, Moved.away, Moved.gating]).node ∧
      m.annotations.get? firstReadyKey = some Drifted.now.stamp ∧
      m.Tidy ∧
      ∀ key, key ∈ m.ownedKeys ↔ key = Drifted.fluentd.taintKey ∨ key = Drifted.exporter.taintKey := by
  have htidy : Moved.node.Tidy := ⟨by decide, by decide⟩
  have hstamp : (Course.after Moved.node
      [Moved.gating, Moved.lost, Moved.shrunk]).node.annotations.get? firstReadyKey =
        some Drifted.now.stamp := by
    decide
  have hwaiting : waiting Drifted.pods Moved.node.name 0 Drifted.policy.workloads =
      [Drifted.fluentd, Drifted.exporter] := by
    decide
  obtain ⟨_, _, _, _, hkeep, _, _⟩ := node_after_passes Moved.node
    [Moved.gating, Moved.lost, Moved.shrunk] [Moved.away, Moved.gating]
  obtain ⟨_, _, _, _, _, htidy', hkeys⟩ := node_after_passes Moved.node
    [Moved.gating, Moved.lost, Moved.shrunk, Moved.away, Moved.gating] []
  refine ⟨htidy, hstamp, rfl, _, rfl, hkeep _ hstamp, htidy' htidy, ?_⟩
  intro key
  rw [hkeys Moved.gating rfl (by decide) key]
  show key ∈ (waiting Drifted.pods Moved.node.name 0 Drifted.policy.workloads).map _ ↔ _
  rw [hwaiting]
  simp

end NodeGate
