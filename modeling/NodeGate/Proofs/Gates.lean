import NodeGate.Proofs.Passes

/-!
# The gates that a pass leaves

Two statements about the taints on a node after a pass. `taints_after_pass` gives the whole list, in
order, for every node and every sequence of distinct workloads. `gates_once_iff` says when each waiting
workload ends up with one gate in its proper form.

The second is an equivalence, because a pass looks at keys only. A key that is there in another form,
with another effect, with a value, or twice, counts as a gate and stays as it is.
-/

set_option autoImplicit false

namespace NodeGate

open Readiness

/-! ## A node that drifted -/

/-! The node of the examples has seen other hands and older versions: a foreign taint, the bare prefix
with a workload as its value, a gate that was softened, and a gate that is no longer needed. -/

namespace Drifted

def fluentd : Workload := ⟨"fluentd", "kube-system", by decide, by decide, by decide⟩

def driver : Workload := ⟨"csi.driver", "kube-system", by decide, by decide, by decide⟩

def exporter : Workload := ⟨"node-exporter", "monitoring", by decide, by decide, by decide⟩

def gpu : Taint := ⟨"gpu", some "true", .noExecute, by decide⟩

def legacy : Taint := ⟨reserved, some "kube-system/fluentd", .noSchedule, by decide⟩

def softened : Taint := { fluentd.gate with effect := .preferNoSchedule }

def node : Node := ⟨"worker-1", Dict.empty, [gpu, legacy, softened, driver.gate], Dict.empty⟩

def policy : Policy := ⟨[fluentd, driver, exporter], Dict.empty, Dict.empty, false, true, by decide⟩

def driverOnly : Policy := ⟨[driver], Dict.empty, Dict.empty, false, true, by decide⟩

/-- Only the driver runs. -/
def pods : Lister := fun _ ns =>
  .ok (if ns = "kube-system" then [⟨"csi-x", ns, some "worker-1", ["csi.driver"], [true, true]⟩]
    else [])

theorem answered : Answered pods 0 policy.workloads := fun _ _ _ => ⟨_, rfl⟩

def now : Moment := ⟨⟨2024, 1, 2⟩, 3, 4, 5, 0, some 0⟩

end Drifted

/-! ## The whole list -/

/-- **The taints after a pass.** First the taints of the node that are kept, in node order: every
foreign one, every owned one that a waiting workload claims, and the other owned ones unless they are
swept. Then a gate for every waiting workload whose key no taint of the node carries, in the order of
the workloads. Nothing else of the node changes but for the stamp. -/
theorem taints_after_pass (lister : Lister) (n : Node) :
    (∀ (ws : List Workload) (sweep : Bool), ws.Nodup → Answered lister 0 ws →
      ∃ changes, (calculateTaints lister n ws sweep).result =
        .ok (n.gated (waiting lister n.name 0 ws) sweep, changes)) ∧
    ∀ (p : Policy) (now : Moment),
      (p.inScope n.labels = true → Answered lister 0 p.workloads) →
      ∃ r, (reconcile lister p now n).result = .ok r ∧
        r.node.name = n.name ∧ r.node.labels = n.labels ∧
        r.node.taints =
          if p.inScope n.labels then
            (n.gated (waiting lister n.name 0 p.workloads) true).taints
          else (n.gated [] p.sweepOutOfScope).taints := by
  constructor
  · intro ws sweep hws hans
    have hnodup := hws.sublist (waiting_sublist lister n.name 0 ws)
    exact ⟨_, calculateTaints_eq_ok_iff.2 ⟨hans, (settle_eq n sweep hnodup).symm⟩⟩
  · intro p now hans
    have hnodup := p.nodup_waiting lister n
    refine ⟨verdict p now n (p.waiting lister n),
      reconcile_eq_ok_iff.2 ⟨Policy.answered_asked_iff.2 hans, rfl⟩,
      verdict_name hnodup, verdict_labels hnodup, ?_⟩
    rw [verdict_taints hnodup]
    unfold Policy.waiting Policy.asked Policy.sweeps
    cases p.inScope n.labels <;> rfl

/-- The softened gate is kept, the bare prefix and the gate of the driver that runs are swept, and the
exporter's gate is new. -/
theorem taints_after_pass_drifted :
    [Drifted.fluentd, Drifted.driver, Drifted.exporter].Nodup ∧
    Answered Drifted.pods 0 [Drifted.fluentd, Drifted.driver, Drifted.exporter] ∧
    (Drifted.policy.inScope Drifted.node.labels = true →
      Answered Drifted.pods 0 Drifted.policy.workloads) ∧
    (∃ changes, (calculateTaints Drifted.pods Drifted.node
        [Drifted.fluentd, Drifted.driver, Drifted.exporter] true).result =
      .ok ({ Drifted.node with
        taints := [Drifted.gpu, Drifted.softened, Drifted.exporter.gate] }, changes)) ∧
    ∃ r, (reconcile Drifted.pods Drifted.policy Drifted.now Drifted.node).result = .ok r ∧
      r.node.taints = [Drifted.gpu, Drifted.softened, Drifted.exporter.gate] := by
  have hnode := taints_after_pass Drifted.pods Drifted.node
  refine ⟨by decide, Drifted.answered, fun _ => Drifted.answered, ?_, ?_⟩
  · have hcalc := hnode.1 Drifted.policy.workloads true Drifted.policy.distinct Drifted.answered
    rwa [show Drifted.node.gated (waiting Drifted.pods Drifted.node.name 0 Drifted.policy.workloads)
      true = { Drifted.node with
        taints := [Drifted.gpu, Drifted.softened, Drifted.exporter.gate] } by decide] at hcalc
  · obtain ⟨r, hr, _, _, htaints⟩ := hnode.2 Drifted.policy Drifted.now fun _ => Drifted.answered
    refine ⟨r, hr, htaints.trans ?_⟩
    decide

/-! ## One gate each -/

/-- The node has one taint with the workload's key, and that is a gate as the workload would get it. -/
def Node.GatedOnce (n : Node) (w : Workload) : Prop :=
  ∃ t, (n.taints.filter fun t => t.key = w.taintKey) = [t] ∧ t.effect = .noSchedule ∧ t.value = none

theorem Node.gatedOnce_iff {n : Node} {w : Workload} :
    n.GatedOnce w ↔ (n.taints.filter fun t => t.key = w.taintKey) = [w.gate] := by
  constructor
  · intro h
    rcases h with ⟨⟨key, value, effect, key_ne⟩, h, rfl, rfl⟩
    have hkey : key = w.taintKey := by
      have hmem := List.mem_filter.1 (h ▸ List.mem_singleton_self _)
      simpa using hmem.2
    subst hkey
    exact h
  · intro h
    exact ⟨_, h, rfl, rfl⟩

instance (n : Node) (w : Workload) : Decidable (n.GatedOnce w) :=
  decidable_of_iff _ Node.gatedOnce_iff.symm

/-- Whoever waits: the taints with its key are those it had, or one fresh gate if it had none. -/
theorem filter_key_gated {n : Node} {waiting : List Workload} {w : Workload} (sweep : Bool)
    (h : waiting.Nodup) (hw : w ∈ waiting) :
    ((n.gated waiting sweep).taints.filter fun t => t.key = w.taintKey) =
      if w.taintKey ∈ n.taints.map Taint.key then n.taints.filter fun t => t.key = w.taintKey
      else [w.gate] := by
  have hkept : ((n.kept waiting sweep).filter fun t => t.key = w.taintKey) =
      n.taints.filter fun t => t.key = w.taintKey := by
    unfold Node.kept
    rw [List.filter_filter]
    refine List.filter_congr fun t _ => ?_
    by_cases hkey : t.key = w.taintKey
    · have hclaimed : t.key ∈ waiting.map Workload.taintKey := hkey ▸ List.mem_map_of_mem hw
      simp [hclaimed]
    · simp [hkey]
  have hfresh : (((n.ungated waiting).map Workload.gate).filter fun t => t.key = w.taintKey) =
      if w.taintKey ∈ n.taints.map Taint.key then [] else [w.gate] := by
    have hcount : (n.ungated waiting).count w =
        if w.taintKey ∈ n.taints.map Taint.key then 0 else 1 := by
      split
      · rename_i hkey
        exact List.count_eq_zero_of_not_mem fun hmem => (Node.mem_ungated.1 hmem).2 hkey
      · rename_i hkey
        exact List.count_eq_one_of_mem (h.filter _) (Node.mem_ungated.2 ⟨hw, hkey⟩)
    -- a key stands for one workload, so the gates with this key are counted by the workload
    rw [List.filter_map]
    have heq : ((fun t : Taint => decide (t.key = w.taintKey)) ∘ Workload.gate) = (· == w) := by
      funext v
      simp [Workload.taintKey_inj, beq_eq_decide]
    rw [heq, List.filter_beq, hcount]
    split <;> rfl
  unfold Node.gated
  rw [List.filter_append, hkept, hfresh]
  split
  · rw [List.append_nil]
  · rename_i hkey
    rw [List.append_left_eq_self, List.filter_eq_nil_iff]
    intro t ht htkey
    exact hkey (of_decide_eq_true htkey ▸ List.mem_map_of_mem ht)

/-- **When each waiting workload has one gate.** After a pass over a node in scope the owned keys are
those of the waiting workloads, all of them and no others. Each of these has exactly one taint, a
proper gate, if and only if the node came with a proper gate and nothing else under its key, or with
nothing under its key. -/
theorem gates_once_iff (lister : Lister) (p : Policy) (now : Moment) (n : Node)
    (hin : p.inScope n.labels = true) (hans : Answered lister 0 p.workloads) :
    ∃ r, (reconcile lister p now n).result = .ok r ∧
      (∀ t ∈ r.node.taints, t.owned = true →
        ∃ w ∈ waiting lister n.name 0 p.workloads, t.key = w.taintKey) ∧
      (∀ w ∈ waiting lister n.name 0 p.workloads, w.taintKey ∈ r.node.taints.map Taint.key) ∧
      ((∀ w ∈ waiting lister n.name 0 p.workloads, r.node.GatedOnce w) ↔
        ∀ w ∈ waiting lister n.name 0 p.workloads,
          n.GatedOnce w ∨ w.taintKey ∉ n.taints.map Taint.key) := by
  have hnodup := p.nodup_waiting lister n
  rw [← Policy.asked_of_inScope hin] at hans
  rw [← Policy.waiting_of_inScope hin lister]
  refine ⟨verdict p now n (p.waiting lister n), reconcile_eq_ok_iff.2 ⟨hans, rfl⟩, ?_, ?_, ?_⟩
  · rw [verdict_taints hnodup, Policy.sweeps_of_inScope hin]
    intro t ht howned
    obtain ⟨w, hw, hkey⟩ := List.mem_map.1 (Node.key_mem_of_owned ht howned)
    exact ⟨w, hw, hkey.symm⟩
  · rw [verdict_taints hnodup]
    exact fun w hw => Node.taintKey_mem_gated hw
  · refine forall₂_congr fun w hw => ?_
    rw [Node.gatedOnce_iff, Node.gatedOnce_iff, verdict_taints hnodup,
      filter_key_gated _ hnodup hw]
    split
    · rename_i hkey
      simp [hkey]
    · rename_i hkey
      simp [hkey]

/-- With the softened gate hardened again every waiting workload has its one gate. -/
theorem gates_once_iff_hardened :
    Drifted.policy.inScope Drifted.node.labels = true ∧
    Answered Drifted.pods 0 Drifted.policy.workloads ∧
    ∃ r, (reconcile Drifted.pods Drifted.policy Drifted.now
        { Drifted.node with taints := [Drifted.gpu, Drifted.legacy, Drifted.fluentd.gate] }).result =
          .ok r ∧
      r.node.GatedOnce Drifted.fluentd ∧ r.node.GatedOnce Drifted.exporter := by
  have hwaiting : waiting Drifted.pods Drifted.node.name 0 Drifted.policy.workloads =
      [Drifted.fluentd, Drifted.exporter] := by decide
  obtain ⟨r, hr, _, _, honce⟩ := gates_once_iff Drifted.pods Drifted.policy Drifted.now
    { Drifted.node with taints := [Drifted.gpu, Drifted.legacy, Drifted.fluentd.gate] } (by decide)
    Drifted.answered
  rw [hwaiting] at honce
  have hall := honce.2 (by decide)
  exact ⟨by decide, Drifted.answered, r, hr, hall _ (by decide), hall _ (by decide)⟩

/-- The softened gate of a workload that waits is taken for its gate: the pass leaves it as it is, and
with it a node that is not closed to new pods. -/
theorem softened_gate_stays :
    Drifted.policy.inScope Drifted.node.labels = true ∧
    Answered Drifted.pods 0 Drifted.policy.workloads ∧
    Drifted.fluentd ∈ waiting Drifted.pods Drifted.node.name 0 Drifted.policy.workloads ∧
    ∃ r, (reconcile Drifted.pods Drifted.policy Drifted.now Drifted.node).result = .ok r ∧
      (r.node.taints.filter fun t => t.key = Drifted.fluentd.taintKey) = [Drifted.softened] ∧
      ¬ r.node.GatedOnce Drifted.fluentd :=
  ⟨by decide, Drifted.answered, by decide, _, rfl, by decide, by decide⟩

end NodeGate
