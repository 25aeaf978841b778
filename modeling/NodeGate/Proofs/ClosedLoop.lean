import NodeGate.Proofs.Gates
import NodeGate.Proofs.Handling
import NodeGate.Proofs.Patching

/-!
# The loop through the API server

The controller reads an object, writes a patch, and sooner or later reads the patched object. If that
came back as anything but the node it meant to write, it would write again, and so on with every event.
`closed_loop` says that this cannot happen. It is put together from two facts: the patch comes back as
the node of the verdict (`ofObject_apply_verdict`), and the same verdict over its own node changes
nothing (`verdict_again`).
-/

set_option autoImplicit false

namespace NodeGate

open Readiness

/-! ## What is stored -/

section Stored

variable {p : Policy} {now : Moment} {n : Node} {waiting : List Workload}

/-- The annotations that are sent are enough to come to those of the verdict. -/
theorem merge_owned_verdict (h : waiting.Nodup) :
    n.annotations.merge ((verdict p now n waiting).node.annotations.filterKeys isOwned) =
      (verdict p now n waiting).node.annotations := by
  rw [verdict_eq h]
  rcases p.stamp_cases now (n.gated waiting (p.sweeps n.labels)) with hstamp | ⟨hnew, hstamp⟩
  · rw [hstamp]
    exact n.annotations.merge_filterKeys isOwned
  · rw [hstamp]
    exact Dict.merge_filterKeys_insert _ hnew (by decide)

/-- A verdict puts no empty value on a node. -/
theorem value_ne_of_mem_verdict (h : waiting.Nodup) (hn : ∀ t ∈ n.taints, t.value ≠ some "") :
    ∀ t ∈ (verdict p now n waiting).node.taints, t.value ≠ some "" := by
  rw [verdict_taints h]
  intro t ht
  rcases Node.mem_gated.1 ht with ht | ⟨w, _, rfl⟩
  · exact hn t (Node.mem_kept.1 ht).1
  · intro hvalue
    cases hvalue

/-- **The patch of a verdict comes back as its node.** -/
theorem ofObject_apply_verdict {o : NodeObject} (h : waiting.Nodup) (ho : Node.ofObject o = .ok n) :
    Node.ofObject ((verdict p now n waiting).node.toPatch.apply o) =
      .ok (verdict p now n waiting).node := by
  have hread : ∀ t ∈ n.taints, t.value ≠ some "" :=
    value_ne_of_mapM (Node.ofObject_eq_ok_iff.1 ho).1
  rw [ofObject_apply ho (value_ne_of_mem_verdict h hread), merge_owned_verdict h]
  rw [← verdict_name h, ← verdict_labels h]

end Stored

/-! ## The loop -/

/-- **What a call writes is read back, and the next call writes nothing.** Let `n` be what an object is
read as. If a call over `n` writes a node `m`, then `m` is the node of its result, the patched object is
read as `m`, and the next call over that, with the same policy and the same pods, at any time, succeeds
with `m` again and neither writes nor reports. And if a call that is no dry run writes nothing, no later
call over the object does. -/
theorem closed_loop {o : NodeObject} {n : Node} (ho : Node.ofObject o = .ok n) (c : Controller)
    (cluster : Cluster) (now : Moment)
    (hans : c.policy.inScope n.labels = true → Answered cluster.list 0 c.policy.workloads) :
    (∀ m ∈ (c.handle cluster now n).updates,
      (∀ r, (c.handle cluster now n).result = .ok r → r.node = m) ∧
      Node.ofObject (m.toPatch.apply o) = .ok m ∧
      ∀ (c' : Controller) (cluster' : Cluster) (later : Moment),
        c'.policy = c.policy → cluster'.list = cluster.list →
        (∃ r, (c'.handle cluster' later m).result = .ok r ∧ r.node = m) ∧
        (c'.handle cluster' later m).updates = [] ∧ (c'.handle cluster' later m).events = []) ∧
    (c.dryRun = false → (c.handle cluster now n).updates = [] →
      ∀ (c' : Controller) (cluster' : Cluster) (later : Moment),
        c'.policy = c.policy → cluster'.list = cluster.list →
        (c'.handle cluster' later n).updates = []) := by
  have hasked : Answered cluster.list 0 (c.policy.asked n.labels) :=
    Policy.answered_asked_iff.2 hans
  have hnodup := c.policy.nodup_waiting cluster.list n
  have hpass : (reconcile cluster.list c.policy now n).result =
      .ok (verdict c.policy now n (c.policy.waiting cluster.list n)) :=
    reconcile_eq_ok_iff.2 ⟨hasked, rfl⟩
  constructor
  · intro m hm
    rw [Controller.updates_handle hpass] at hm
    have hnode : m = (verdict c.policy now n (c.policy.waiting cluster.list n)).node := by
      split at hm
      · exact List.mem_singleton.1 hm
      · cases hm
    refine ⟨?_, ?_, ?_⟩
    · -- a call may fail while it reports, but if it gives a result, then that of the pass
      intro r hr
      have hresult := Controller.reconcile_of_handle hr
      rw [hpass] at hresult
      cases hresult
      exact hnode.symm
    · rw [hnode]
      exact ofObject_apply_verdict hnodup ho
    · intro c' cluster' later hpolicy hlist
      rw [← hpolicy, ← hlist] at hnode hasked
      obtain ⟨r, hr, hsame, hchanged⟩ := reconcile_verdict c'.policy now later n hasked
      rw [← hnode] at hr hsame
      obtain ⟨hresult, hupdates, hevents⟩ := Controller.handle_of_unchanged hr hchanged
      exact ⟨⟨r, hresult, hsame⟩, hupdates, hevents⟩
  · -- nothing written and no dry run means nothing changed, and that does not depend on the time
    intro hdry hnone c' cluster' later hpolicy hlist
    rw [Controller.updates_handle hpass] at hnone
    have hchanged : (verdict c.policy now n (c.policy.waiting cluster.list n)).changed = false := by
      split at hnone
      · cases hnone
      · rename_i hnot
        exact Bool.eq_false_iff.2 fun h => hnot ⟨h, hdry⟩
    rw [← hpolicy, ← hlist] at hasked hnodup hchanged
    have hnext : (reconcile cluster'.list c'.policy later n).result =
        .ok (verdict c'.policy later n (c'.policy.waiting cluster'.list n)) :=
      reconcile_eq_ok_iff.2 ⟨hasked, rfl⟩
    have hstill := (verdict_changed hnodup later).trans hchanged
    exact (Controller.handle_of_unchanged hnext hstill).2.1

namespace Opened

open Drifted

/-- The gate of a driver that runs, with an empty value, is all that the node has. -/
def object : NodeObject where
  name := .text "worker-1"
  labels := .null
  annotations := .map [(.text "team", .text "infra")]
  spec := some ⟨some [⟨.text driver.taintKey, .text "", .text "NoSchedule"⟩]⟩

def node : Node := ⟨"worker-1", Dict.empty, [driver.gate], Dict.ofList [("team", "infra")]⟩

def controller : Controller := ⟨driverOnly, false⟩

def cluster : Cluster := ⟨pods, fun _ => .ok (), fun _ => .ok ()⟩

/-- The node without its gate, stamped. -/
def stamped : Node :=
  { node with taints := [], annotations := node.annotations.insert firstReadyKey now.stamp }

theorem answered : Answered pods 0 driverOnly.workloads := fun _ _ _ => ⟨_, rfl⟩

end Opened

/-- The gate is taken off, which leaves no taint, and the node is stamped. The patch removes the field
and adds an annotation, and what is read then is the stamped node, which nobody writes again. -/
theorem closed_loop_opened :
    Node.ofObject Opened.object = .ok Opened.node ∧
    Answered Opened.cluster.list 0 Opened.controller.policy.workloads ∧
    Opened.stamped ∈ (Opened.controller.handle Opened.cluster Drifted.now Opened.node).updates ∧
    Node.ofObject (Opened.stamped.toPatch.apply Opened.object) = .ok Opened.stamped ∧
    (Opened.controller.handle Opened.cluster Drifted.now Opened.stamped).updates = [] ∧
    (Opened.controller.handle Opened.cluster Drifted.now Opened.stamped).events = [] ∧
    ∀ later, (Opened.controller.handle Opened.cluster later Opened.stamped).updates = [] := by
  have hread : Node.ofObject Opened.object = .ok Opened.node := rfl
  have hwritten : Opened.stamped ∈
      (Opened.controller.handle Opened.cluster Drifted.now Opened.node).updates := by
    decide
  obtain ⟨_, hstored, hnext⟩ := (closed_loop hread Opened.controller Opened.cluster Drifted.now
    fun _ => Opened.answered).1 Opened.stamped hwritten
  obtain ⟨_, hupdates, hevents⟩ := hnext Opened.controller Opened.cluster Drifted.now rfl rfl
  have hstill := (closed_loop hstored Opened.controller Opened.cluster Drifted.now
    fun _ => Opened.answered).2 rfl hupdates
  exact ⟨hread, Opened.answered, hwritten, hstored, hupdates, hevents,
    fun later => hstill Opened.controller Opened.cluster later rfl rfl⟩

end NodeGate
