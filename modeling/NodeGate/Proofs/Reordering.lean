import NodeGate.Proofs.FirstReady
import NodeGate.Proofs.Listings

/-!
# Workloads in another order

A policy lists its workloads in some order, and a pass goes through them in that order: it asks for them
one by one, lets each claim a key, adds gates as it goes, and stops where a listing fails. If what is
listed depends on the namespace alone, the order shows in two places only, in the order of the gates that
are new and in the order in which they are recorded (`order_immaterial`).

The reason is that a verdict reads the workloads that wait as a set wherever it looks at what is there
already: what is kept, what is swept and whether anything owned is left. Only the new gates are made in
their order.
-/

set_option autoImplicit false

namespace NodeGate

open Readiness

/-! ## Who waits -/

section Steady

variable {answers : String → Except Failure (List Pod)} {node : String} {turn : Nat}
  {ws ws' : List Workload}

theorem Readiness.answered_steady_iff :
    Answered (fun _ => answers) turn ws ↔ ∀ w ∈ ws, ∃ pods, answers w.ns = .ok pods := by
  constructor
  · intro h w hw
    obtain ⟨i, hi⟩ := List.mem_iff_getElem?.1 hw
    exact h i w hi
  · intro h i w hi
    exact h w (List.mem_of_getElem? hi)

theorem Readiness.waiting_steady :
    waiting (fun _ => answers) node turn ws =
      ws.filter fun w => !showsAt (fun _ => answers) node 0 w := by
  induction ws generalizing turn with
  | nil => rfl
  | cons w ws ih =>
    have hshows : showsAt (fun _ => answers) node turn w = showsAt (fun _ => answers) node 0 w := rfl
    rw [waiting_cons, ih, hshows, List.filter_cons]
    cases showsAt (fun _ => answers) node 0 w with
    | true => rfl
    | false => rfl

theorem Readiness.waiting_perm (h : ws'.Perm ws) :
    (waiting (fun _ => answers) node turn ws').Perm (waiting (fun _ => answers) node turn ws) := by
  rw [waiting_steady, waiting_steady]
  exact h.filter _

end Steady

/-! ## What a verdict makes of them -/

namespace Node

variable {n : Node} {waiting waiting' : List Workload} {sweep : Bool}

theorem mem_keys_perm (h : waiting'.Perm waiting) {key : String} :
    key ∈ waiting'.map Workload.taintKey ↔ key ∈ waiting.map Workload.taintKey :=
  (h.map Workload.taintKey).mem_iff

theorem kept_perm (h : waiting'.Perm waiting) : n.kept waiting' sweep = n.kept waiting sweep := by
  refine List.filter_congr fun t _ => ?_
  simp only [mem_keys_perm h]

theorem unclaimed_perm (h : waiting'.Perm waiting) : n.unclaimed waiting' = n.unclaimed waiting := by
  refine List.filter_congr fun key _ => ?_
  simp only [mem_keys_perm h]

theorem ungated_perm (h : waiting'.Perm waiting) : (n.ungated waiting').Perm (n.ungated waiting) :=
  h.filter _

theorem taints_gated_perm (h : waiting'.Perm waiting) :
    (n.gated waiting' sweep).taints.Perm (n.gated waiting sweep).taints := by
  show (n.kept waiting' sweep ++ (n.ungated waiting').map Workload.gate).Perm
    (n.kept waiting sweep ++ (n.ungated waiting).map Workload.gate)
  rw [kept_perm h]
  exact ((ungated_perm h).map Workload.gate).append_left _

/-- Whether anything is owned does not depend on the order. -/
theorem isEmpty_ownedTaints_perm {m : Node} (h : m.taints.Perm n.taints) :
    m.ownedTaints.isEmpty = n.ownedTaints.isEmpty :=
  (h.filter Taint.owned).isEmpty_eq

theorem notMem_taints_of_ungated {t : Taint} (ht : t ∈ (n.ungated waiting).map Workload.gate) :
    t ∉ n.taints := by
  obtain ⟨w, hw, rfl⟩ := List.mem_map.1 ht
  intro hmem
  exact (mem_ungated.1 hw).2 (List.mem_map.2 ⟨w.gate, hmem, rfl⟩)

end Node

/-- Both results are of passes over the node, and they differ in nothing but the order of what is new. -/
structure Result.SameButForOrder (n : Node) (r r' : Result) : Prop where
  removed : r'.changes.removed = r.changes.removed
  added : r'.changes.added.Perm r.changes.added
  /-- The taints of the node that stay, in the order in which they stood, and behind them the new ones. -/
  taints : ∃ kept fresh fresh', kept.Sublist n.taints ∧ (∀ t ∈ fresh, t ∉ n.taints) ∧
    r.node.taints = kept ++ fresh ∧ r'.node.taints = kept ++ fresh' ∧ fresh'.Perm fresh
  name : r'.node.name = r.node.name
  labels : r'.node.labels = r.node.labels
  annotations : r'.node.annotations = r.node.annotations
  inScope : r'.inScope = r.inScope
  marked : r'.firstReadyMarked = r.firstReadyMarked
  taintless : r'.taintless = r.taintless

section Verdict

variable {p : Policy} {now : Moment} {n : Node} {waiting waiting' : List Workload}

theorem verdict_marked_perm (h : waiting'.Perm waiting) (hnodup : waiting.Nodup) :
    (verdict p now n waiting').firstReadyMarked = (verdict p now n waiting).firstReadyMarked := by
  have hnil : waiting' = [] ↔ waiting = [] := by
    rw [← List.isEmpty_iff, ← List.isEmpty_iff, h.isEmpty_eq]
  rw [Bool.eq_iff_iff, verdict_marked_iff (h.nodup_iff.2 hnodup), verdict_marked_iff hnodup, hnil]

/-- **A verdict takes those who wait as a set,** but for the order of the new gates. -/
theorem verdict_perm (h : waiting'.Perm waiting) (hnodup : waiting.Nodup) :
    (verdict p now n waiting).SameButForOrder n (verdict p now n waiting') := by
  have hnodup' : waiting'.Nodup := h.nodup_iff.2 hnodup
  have hmarked : (verdict p now n waiting').firstReadyMarked =
      (verdict p now n waiting).firstReadyMarked := verdict_marked_perm h hnodup
  have htaints : (verdict p now n waiting').node.taints.Perm
      (verdict p now n waiting).node.taints := by
    rw [verdict_taints hnodup, verdict_taints hnodup']
    exact Node.taints_gated_perm h
  constructor
  case removed =>
    rw [verdict_eq hnodup, verdict_eq hnodup']
    simp only [Node.unclaimed_perm h]
  case added =>
    rw [verdict_eq hnodup, verdict_eq hnodup']
    exact (Node.ungated_perm h).map Workload.taintKey
  case taints =>
    refine ⟨n.kept waiting (p.sweeps n.labels), (n.ungated waiting).map Workload.gate,
      (n.ungated waiting').map Workload.gate, List.filter_sublist,
      fun _ => Node.notMem_taints_of_ungated, verdict_taints hnodup, ?_,
      (Node.ungated_perm h).map Workload.gate⟩
    rw [verdict_taints hnodup', ← Node.kept_perm h]
    rfl
  case name => rw [verdict_name hnodup, verdict_name hnodup']
  case labels => rw [verdict_labels hnodup, verdict_labels hnodup']
  case annotations =>
    apply Dict.eq_of_entries
    rw [entries_verdict hnodup, entries_verdict hnodup', hmarked]
  case inScope => rw [verdict_eq hnodup, verdict_eq hnodup']
  case marked => exact hmarked
  case taintless => exact Node.isEmpty_ownedTaints_perm htaints

end Verdict

/-! ## Any pass -/

namespace Policy

variable {p : Policy} {ws : List Workload} {answers : String → Except Failure (List Pod)} {n : Node}

/-- The policy with its workloads in another order. -/
def reordered (p : Policy) (ws : List Workload) (h : ws.Perm p.workloads) : Policy :=
  { p with workloads := ws, distinct := h.nodup_iff.2 p.distinct }

theorem asked_reordered (h : ws.Perm p.workloads) (labels : Dict String) :
    ((p.reordered ws h).asked labels).Perm (p.asked labels) := by
  show (if p.inScope labels then ws else []).Perm (if p.inScope labels then p.workloads else [])
  split
  · exact h
  · exact List.Perm.refl []

theorem waiting_reordered (h : ws.Perm p.workloads) :
    ((p.reordered ws h).waiting (fun _ => answers) n).Perm (p.waiting (fun _ => answers) n) :=
  waiting_perm (asked_reordered h n.labels)

theorem answered_reordered_iff (h : ws.Perm p.workloads) :
    Answered (fun _ => answers) 0 ((p.reordered ws h).asked n.labels) ↔
      Answered (fun _ => answers) 0 (p.asked n.labels) := by
  simp only [answered_steady_iff, (asked_reordered h n.labels).mem_iff]

end Policy

/-- **The order of the workloads is immaterial.** If the pods that are listed depend on the namespace
alone, a pass raises in any order of the workloads if it does in one. If it does not, it removes the same
keys in the same order, the taints that stay are the same in the same order, the new ones are the same in
some order, and so are the keys that it adds; the scope, the stamp, the annotations and whether anything
owned is left are the same. -/
theorem order_immaterial (answers : String → Except Failure (List Pod)) (p : Policy) (now : Moment)
    (n : Node) (ws : List Workload) (h : ws.Perm p.workloads) :
    ((∃ f, (reconcile (fun _ => answers) (p.reordered ws h) now n).result = .error f) ↔
      ∃ f, (reconcile (fun _ => answers) p now n).result = .error f) ∧
    ∀ r r', (reconcile (fun _ => answers) p now n).result = .ok r →
      (reconcile (fun _ => answers) (p.reordered ws h) now n).result = .ok r' →
        r.SameButForOrder n r' := by
  constructor
  · have hraises : ∀ q : Policy, (∃ f, (reconcile (fun _ => answers) q now n).result = .error f) ↔
        ¬ Answered (fun _ => answers) 0 (q.asked n.labels) := by
      intro q
      rw [← (questions_reconcile (fun _ => answers) q now n).known_iff]
      cases (reconcile (fun _ => answers) q now n).result with
      | ok r => simp
      | error f => simp
    rw [hraises, hraises, Policy.answered_reordered_iff h]
  · intro r r' hr hr'
    obtain ⟨_, rfl⟩ := reconcile_eq_ok_iff.1 hr
    obtain ⟨_, rfl⟩ := reconcile_eq_ok_iff.1 hr'
    exact verdict_perm (Policy.waiting_reordered h) (p.nodup_waiting _ n)

namespace Shuffled

open Drifted

def workloads : List Workload := [exporter, driver, fluentd]

theorem perm : workloads.Perm policy.workloads := by decide

/-- Nobody has gated the node for the workloads that wait. -/
def node : Node := { Drifted.node with taints := [legacy, gpu, driver.gate] }

/-- The pods of one namespace cannot be listed. -/
def outage (ns : String) : Except Failure (List Pod) :=
  if ns = "monitoring" then .error (.fault .interrupted) else pods 0 ns

end Shuffled

open Drifted in
/-- The two new gates change places, and nothing else does. A listing that fails is the first in one order
and the last in the other, and both passes raise. -/
theorem order_immaterial_shuffled :
    Shuffled.workloads.Perm policy.workloads ∧
    (∃ r r', (reconcile (fun _ => pods 0) policy now Shuffled.node).result = .ok r ∧
      (reconcile (fun _ => pods 0) (policy.reordered Shuffled.workloads Shuffled.perm) now
        Shuffled.node).result = .ok r' ∧
      r.node.taints = [gpu, fluentd.gate, exporter.gate] ∧
      r'.node.taints = [gpu, exporter.gate, fluentd.gate] ∧
      r.changes.removed = [reserved, driver.taintKey] ∧ r'.changes.removed = r.changes.removed) ∧
    ∃ f, (reconcile (fun _ => Shuffled.outage) (policy.reordered Shuffled.workloads Shuffled.perm) now
      Shuffled.node).result = .error f := by
  refine ⟨Shuffled.perm, ?_, ?_⟩
  · obtain ⟨_, hsame⟩ := order_immaterial (pods 0) policy now Shuffled.node _ Shuffled.perm
    have h := hsame _ _ rfl rfl
    exact ⟨_, _, rfl, rfl, by decide, by decide, by decide, h.removed⟩
  · obtain ⟨hraises, _⟩ := order_immaterial Shuffled.outage policy now Shuffled.node _ Shuffled.perm
    exact hraises.2 ⟨_, rfl⟩

end NodeGate
