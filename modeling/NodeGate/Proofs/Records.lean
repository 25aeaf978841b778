import NodeGate.Proofs.Gates
import NodeGate.Proofs.Handling

/-!
# What a pass says it changed

A pass keeps a record of the owned keys that it put on the node and took off it, and whether anything
is written hangs on that record being empty. It is made while the taints are edited, from keys alone;
here it is compared with the node before the pass and the node after it.

The record is their difference, in both directions and in order (`changes_exact`), and a pass without a
record gives the node back as it was (`verdict_changed_iff`). The second needs more than the first: of
two taints with one key none can go without the other, so equal keys do mean equal taints.
-/

set_option autoImplicit false

namespace NodeGate

open Readiness

/-! ## Keys before and after -/

namespace Node

variable {n : Node} {waiting : List Workload} {sweep : Bool}

/-- The keys of those who wait, and without a sweep those that were there. -/
theorem mem_ownedKeys_gated_iff {key : String} :
    key ∈ (n.gated waiting sweep).ownedKeys ↔
      key ∈ waiting.map Workload.taintKey ∨ key ∈ n.ownedKeys ∧ sweep = false := by
  cases sweep with
  | true =>
    rw [mem_ownedKeys_gated]
    simp
  | false =>
    simp only [mem_ownedKeys, and_true]
    constructor
    · rintro ⟨hkey, howned⟩
      obtain ⟨t, ht, rfl⟩ := List.mem_map.1 hkey
      rcases mem_gated.1 ht with ht | ⟨w, hw, rfl⟩
      · exact .inr ⟨List.mem_map_of_mem (mem_kept.1 ht).1, howned⟩
      · exact .inl (List.mem_map_of_mem (mem_ungated.1 hw).1)
    · rintro (hkey | ⟨hkey, howned⟩)
      · obtain ⟨w, hw, rfl⟩ := List.mem_map.1 hkey
        exact ⟨taintKey_mem_gated hw, w.isOwned_taintKey⟩
      · obtain ⟨t, ht, rfl⟩ := List.mem_map.1 hkey
        have hkept : t ∈ n.kept waiting false := mem_kept.2 ⟨ht, fun _ => .inr rfl⟩
        exact ⟨List.mem_map_of_mem (mem_gated.2 (.inl hkept)), howned⟩

theorem mem_keys_ungated {key : String} :
    key ∈ (n.ungated waiting).map Workload.taintKey ↔
      key ∈ (n.gated waiting sweep).ownedKeys ∧ key ∉ n.ownedKeys := by
  rw [mem_ownedKeys_gated_iff]
  constructor
  · intro hkey
    obtain ⟨w, hw, rfl⟩ := List.mem_map.1 hkey
    obtain ⟨hw, hnew⟩ := mem_ungated.1 hw
    exact ⟨.inl (List.mem_map_of_mem hw), mt taintKey_mem_ownedKeys.1 hnew⟩
  · rintro ⟨hkey | ⟨hkey, _⟩, hnew⟩
    · obtain ⟨w, hw, rfl⟩ := List.mem_map.1 hkey
      exact List.mem_map_of_mem (mem_ungated.2 ⟨hw, mt taintKey_mem_ownedKeys.2 hnew⟩)
    · exact absurd hkey hnew

/-- The keys that are swept are those that are gone, in the order in which they stood. -/
theorem swept_eq_filter :
    (if sweep then n.unclaimed waiting else []) =
      n.ownedKeys.filter fun key => key ∉ (n.gated waiting sweep).ownedKeys := by
  cases sweep with
  | true =>
    refine List.filter_congr fun key _ => ?_
    simp only [mem_ownedKeys_gated]
  | false =>
    symm
    rw [if_neg Bool.false_ne_true, List.filter_eq_nil_iff]
    intro key hkey
    simp [mem_ownedKeys_gated_iff, hkey]

/-- Nothing is left to settle if nobody lacks a gate and nothing is to be swept. -/
theorem settled_of_eq_nil (hgates : n.ungated waiting = [])
    (hswept : sweep = true → n.unclaimed waiting = []) : n.Settled waiting sweep where
  gates := by
    intro w hw
    by_contra hnew
    have hmem : w ∈ n.ungated waiting := mem_ungated.2 ⟨hw, hnew⟩
    rw [hgates] at hmem
    cases hmem
  swept := by
    intro hsweep t ht howned
    by_contra hnot
    have hmem : t.key ∈ n.unclaimed waiting :=
      mem_unclaimed.2 ⟨mem_ownedKeys.2 ⟨List.mem_map_of_mem ht, howned⟩, hnot⟩
    rw [hswept hsweep] at hmem
    cases hmem

end Node

/-! ## The record of a verdict -/

section Verdict

variable {p : Policy} {now : Moment} {n : Node} {waiting : List Workload}

theorem ownedKeys_verdict (h : waiting.Nodup) :
    (verdict p now n waiting).node.ownedKeys =
      (n.gated waiting (p.sweeps n.labels)).ownedKeys := by
  unfold Node.ownedKeys Node.ownedTaints
  rw [verdict_taints h]

theorem mem_added_iff (h : waiting.Nodup) {key : String} :
    key ∈ (verdict p now n waiting).changes.added ↔
      key ∈ (verdict p now n waiting).node.ownedKeys ∧ key ∉ n.ownedKeys := by
  rw [ownedKeys_verdict h, verdict_eq h]
  exact Node.mem_keys_ungated

theorem removed_eq_filter (h : waiting.Nodup) :
    (verdict p now n waiting).changes.removed =
      n.ownedKeys.filter fun key => key ∉ (verdict p now n waiting).node.ownedKeys := by
  rw [ownedKeys_verdict h, verdict_eq h]
  exact Node.swept_eq_filter

theorem added_sublist (h : waiting.Nodup) :
    (verdict p now n waiting).changes.added.Sublist (waiting.map Workload.taintKey) := by
  rw [verdict_eq h]
  exact List.filter_sublist.map Workload.taintKey

/-- A stamp is read where nothing was read before. -/
theorem get?_verdict_of_marked (h : waiting.Nodup)
    (hmarked : (verdict p now n waiting).firstReadyMarked = true) :
    (verdict p now n waiting).node.annotations.get? firstReadyKey ≠
      n.annotations.get? firstReadyKey := by
  rw [verdict_eq h] at hmarked ⊢
  rcases p.stamp_cases now (n.gated waiting (p.sweeps n.labels)) with hstamp | ⟨hnew, hstamp⟩
  · rw [hstamp] at hmarked
    cases hmarked
  · have hnone : n.annotations.get? firstReadyKey = none :=
      Option.isNone_iff_eq_none.1 (Option.isSome_eq_false_iff.1 hnew)
    rw [hstamp, hnone]
    intro hread
    have hinsert := (n.annotations.get?_insert firstReadyKey now.stamp firstReadyKey).symm
    rw [if_pos rfl] at hinsert
    cases hinsert.trans hread

theorem verdict_node_of_unchanged (h : waiting.Nodup)
    (hchanged : (verdict p now n waiting).changed = false) :
    (verdict p now n waiting).node = n := by
  unfold Result.changed Changes.isEmpty at hchanged
  rw [verdict_eq h] at hchanged ⊢
  simp only [Bool.or_eq_false_iff, Bool.not_eq_false', Bool.and_eq_true, List.isEmpty_iff,
    List.map_eq_nil_iff] at hchanged
  obtain ⟨⟨hadded, hremoved⟩, hmarked⟩ := hchanged
  have hsettled : n.Settled waiting (p.sweeps n.labels) := by
    refine Node.settled_of_eq_nil hadded fun hsweeps => ?_
    rwa [if_pos hsweeps] at hremoved
  rw [hsettled.gated_eq] at hmarked ⊢
  rcases p.stamp_cases now n with hstamp | ⟨_, hstamp⟩
  · rw [hstamp]
  · rw [hstamp] at hmarked
    cases hmarked

/-- A record that is not empty shows in what is on the node, or in what is read there. -/
theorem differs_of_changed (h : waiting.Nodup)
    (hchanged : (verdict p now n waiting).changed = true) :
    (verdict p now n waiting).node.taints ≠ n.taints ∨
      ∃ key, (verdict p now n waiting).node.annotations.get? key ≠ n.annotations.get? key := by
  by_contra hsame
  obtain ⟨htaints, hannotations⟩ := not_or.1 hsame
  -- the same taints have the same keys, so the record of the keys is empty, and a stamp would show
  have hkeys : (verdict p now n waiting).node.ownedKeys = n.ownedKeys := by
    unfold Node.ownedKeys Node.ownedTaints
    rw [not_not.1 htaints]
  have hadded : (verdict p now n waiting).changes.added = [] := by
    rw [List.eq_nil_iff_forall_not_mem]
    intro key hkey
    obtain ⟨hnow, hbefore⟩ := (mem_added_iff h).1 hkey
    exact hbefore (hkeys ▸ hnow)
  have hremoved : (verdict p now n waiting).changes.removed = [] := by
    rw [removed_eq_filter h, hkeys, List.filter_eq_nil_iff]
    simp
  unfold Result.changed Changes.isEmpty at hchanged
  rw [hadded, hremoved] at hchanged
  exact hannotations ⟨firstReadyKey, get?_verdict_of_marked h hchanged⟩

/-- **The record is empty exactly if the node is as it was.** -/
theorem verdict_changed_iff (h : waiting.Nodup) :
    (verdict p now n waiting).changed = true ↔ (verdict p now n waiting).node ≠ n := by
  constructor
  · intro hchanged hsame
    have hdiffers := differs_of_changed h hchanged
    rw [hsame] at hdiffers
    simp at hdiffers
  · intro hne
    by_contra hchanged
    exact hne (verdict_node_of_unchanged h (Bool.eq_false_iff.2 hchanged))

end Verdict

/-! ## Any pass -/

/-- **The record of a pass is the difference between the nodes.** What was added are the owned keys that
the node has now and did not have, in the order of the policy; what was removed are those that it had
and does not have now, in the order in which they first stood there; each once, and none in both. The
result counts as changed exactly if the node is another one, by its taints or by what is read of its
annotations, and exactly then a controller that is no dry run writes it. -/
theorem changes_exact (lister : Lister) (p : Policy) (now : Moment) (n : Node)
    (hans : p.inScope n.labels = true → Answered lister 0 p.workloads) :
    ∃ r, (reconcile lister p now n).result = .ok r ∧
      r.changes.added.Sublist (p.workloads.map Workload.taintKey) ∧ r.changes.added.Nodup ∧
      (∀ key, key ∈ r.changes.added ↔ key ∈ r.node.ownedKeys ∧ key ∉ n.ownedKeys) ∧
      r.changes.removed = (n.ownedKeys.filter fun key => key ∉ r.node.ownedKeys) ∧
      r.changes.removed.Nodup ∧
      (∀ key ∈ r.changes.added, key ∉ r.changes.removed) ∧
      (r.changed = true ↔ r.node ≠ n) ∧
      (r.changed = true ↔ r.node.taints ≠ n.taints ∨
        ∃ key, r.node.annotations.get? key ≠ n.annotations.get? key) ∧
      ∀ (c : Controller) (cluster : Cluster), c.policy = p → cluster.list = lister →
        (c.handle cluster now n).updates =
          if r.node ≠ n ∧ c.dryRun = false then [r.node] else [] := by
  have hnodup := p.nodup_waiting lister n
  have hpass : (reconcile lister p now n).result = .ok (verdict p now n (p.waiting lister n)) :=
    reconcile_eq_ok_iff.2 ⟨Policy.answered_asked_iff.2 hans, rfl⟩
  have hasked : (p.asked n.labels).Sublist p.workloads := by
    unfold Policy.asked
    split
    · exact List.Sublist.refl _
    · exact List.nil_sublist _
  have hwaiting : (p.waiting lister n).Sublist p.workloads :=
    (waiting_sublist lister n.name 0 _).trans hasked
  have hremoved : (verdict p now n (p.waiting lister n)).changes.removed =
      n.ownedKeys.filter fun key => key ∉ (verdict p now n (p.waiting lister n)).node.ownedKeys :=
    removed_eq_filter hnodup
  refine ⟨_, hpass, (added_sublist hnodup).trans (hwaiting.map _),
    (Workload.nodup_taintKeys hnodup).sublist (added_sublist hnodup), fun _ => mem_added_iff hnodup,
    hremoved, ?nodup, ?disjoint, verdict_changed_iff hnodup, ?differs, ?writes⟩
  case nodup =>
    rw [hremoved]
    exact n.nodup_ownedKeys.filter _
  case disjoint =>
    intro key hadded hgone
    rw [hremoved] at hgone
    exact ((mem_added_iff hnodup).1 hadded).2 (List.mem_filter.1 hgone).1
  case differs =>
    refine ⟨differs_of_changed hnodup, fun hdiffers => (verdict_changed_iff hnodup).2 fun hsame => ?_⟩
    rw [hsame] at hdiffers
    simp at hdiffers
  case writes =>
    rintro c cluster rfl rfl
    rw [Controller.updates_handle hpass]
    simp only [verdict_changed_iff hnodup]

namespace Doubled

open Drifted

/-- The bare prefix stands there twice, with two values, and the gate that is no longer needed twice. -/
def node : Node :=
  { Drifted.node with taints := [driver.gate, gpu, legacy, softened,
      { legacy with value := some "monitoring/node-exporter" }, { driver.gate with effect := .noExecute }] }

end Doubled

open Drifted in
/-- Both taints of a key go, and the key is recorded once, where it first stood. -/
theorem changes_exact_doubled :
    (policy.inScope Doubled.node.labels = true → Answered pods 0 policy.workloads) ∧
    ∃ r, (reconcile pods policy now Doubled.node).result = .ok r ∧
      r.changes.added = [exporter.taintKey] ∧ r.changes.removed = [driver.taintKey, reserved] ∧
      r.node.taints = [gpu, softened, exporter.gate] ∧
      ((⟨policy, false⟩ : Controller).handle ⟨pods, fun _ => .ok (), fun _ => .ok ()⟩ now
        Doubled.node).updates = [r.node] := by
  obtain ⟨r, hr, _, _, _, hremoved, _, _, _, _, hwrites⟩ :=
    changes_exact pods policy now Doubled.node fun _ => answered
  have hupdates := hwrites ⟨policy, false⟩ ⟨pods, fun _ => .ok (), fun _ => .ok ()⟩ rfl rfl
  cases hr
  refine ⟨fun _ => answered, _, rfl, by decide, ?_, by decide, ?_⟩
  · exact hremoved.trans (by decide)
  · exact hupdates.trans (by decide)

end NodeGate
