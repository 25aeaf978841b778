import NodeGate.Proofs.Courses

/-!
# Passes that are repeated

The same pass again changes nothing, for it finds the node that it would make. Two passes are the same
if they have one policy and are shown the same pods for every workload they ask about
(`Readiness.Alike`). The clock may have moved on: a stamp that is there is not written again.

`reconcile_idempotent` looks at the second pass from all sides, `node_after_repeats` follows the node
through any number of them.
-/

set_option autoImplicit false

namespace NodeGate

open Readiness

/-! ## The second pass -/

/-- **A pass over its own result changes nothing.** If both passes are shown the same pods, the second
succeeds as the first did, with nothing to add, to remove or to stamp. Its node is that of the first,
with the taints in the same order and the same annotations. -/
theorem reconcile_idempotent (p : Policy) (now later : Moment) (n : Node) {lister lister' : Lister}
    (h : Alike lister lister' 0 (p.asked n.labels)) :
    ∃ r r', (reconcile lister p now n).result = .ok r ∧
      (reconcile lister' p later r.node).result = .ok r' ∧
      r'.changes = { added := [], removed := [] } ∧ r'.firstReadyMarked = false ∧
      r'.changed = false ∧ r'.inScope = r.inScope ∧ r'.node = r.node := by
  have hpass : (reconcile lister p now n).result = .ok (verdict p now n (p.waiting lister n)) :=
    reconcile_eq_ok_iff.2 ⟨h.answered_left, rfl⟩
  have hscope : (verdict p now n (p.waiting lister n)).inScope = p.inScope n.labels := by
    rw [verdict_eq (p.nodup_waiting lister n)]
  refine ⟨_, _, hpass, reconcile_again p now later n h, rfl, rfl, rfl, hscope.symm, rfl⟩

namespace Repeated

open Drifted

/-- Shows the pods as long as somebody asks for them in time. -/
def brief : Lister := fun turn ns => if turn = 0 then pods 7 ns else .error (.fault .interrupted)

/-- A second later. -/
def later : Moment := { now with second := now.second + 1 }

theorem alike : Alike pods brief 0 (driverOnly.asked node.labels) := by
  intro i w hw
  match i, hw with
  | 0, _ => exact ⟨_, rfl, rfl⟩

end Repeated

/-- The driver runs, so the first pass sweeps the owned taints, three in all, and stamps the node. The
second one would come later and find other listings, had it more to ask, and leaves everything. -/
theorem reconcile_idempotent_drifted :
    Alike Drifted.pods Repeated.brief 0 (Drifted.driverOnly.asked Drifted.node.labels) ∧
    ∃ r r', (reconcile Drifted.pods Drifted.driverOnly Drifted.now Drifted.node).result = .ok r ∧
      (reconcile Repeated.brief Drifted.driverOnly Repeated.later r.node).result = .ok r' ∧
      r.changes.removed =
        [reserved, Drifted.fluentd.taintKey, Drifted.driver.taintKey] ∧
      r.firstTimeReady = some Drifted.now.stamp ∧
      r'.changed = false ∧ r'.node = r.node := by
  obtain ⟨r, r', hr, hr', _, _, hchanged, _, hnode⟩ := reconcile_idempotent Drifted.driverOnly
    Drifted.now Repeated.later Drifted.node Repeated.alike
  refine ⟨Repeated.alike, r, r', hr, hr', ?_, ?_, hchanged, hnode⟩
  all_goals
    cases hr
    decide

/-! ## Any number of passes -/

/-- A node that has been through a pass is not changed by the same pass. -/
theorem Course.node_advance_again {c : Course} {n : Node} {first again : Pass}
    (hnode : c.node = (verdict first.policy first.now n (first.policy.waiting first.lister n)).node)
    (hpolicy : again.policy = first.policy)
    (halike : Alike first.lister again.lister 0 (first.policy.asked n.labels)) :
    (c.advance again).node = c.node := by
  unfold advance
  rw [hnode, hpolicy, reconcile_again first.policy first.now again.now n halike]

/-- **Repeating a pass is doing it once.** However often the first pass is repeated, at whatever times,
the node is the one that the first pass made. -/
theorem node_after_repeats (n : Node) (first : Pass) (ps : List Pass)
    (h : ∀ again ∈ ps, again.policy = first.policy ∧
      Alike first.lister again.lister 0 (first.policy.asked n.labels)) :
    (Course.after n (first :: ps)).node = (Course.after n [first]).node := by
  have hrun : ∀ c : Course,
      c.node = (verdict first.policy first.now n (first.policy.waiting first.lister n)).node →
        (c.run ps).node = c.node := by
    -- on the passes that are left, each of which finds the node of the first
    induction ps with
    | nil => exact fun c _ => rfl
    | cons again ps ih =>
      intro c hc
      obtain ⟨hpolicy, halike⟩ := h again List.mem_cons_self
      have hstep := Course.node_advance_again hc hpolicy halike
      have hrest := ih (fun q hq => h q (List.mem_cons_of_mem _ hq)) (c.advance again)
        (hstep.trans hc)
      exact hrest.trans hstep
  cases ps with
  | nil => rfl
  | cons again ps =>
    refine hrun _ ?_
    have hfirst : (reconcile first.lister first.policy first.now n).result =
        .ok (verdict first.policy first.now n (first.policy.waiting first.lister n)) :=
      reconcile_eq_ok_iff.2 ⟨(h again List.mem_cons_self).2.answered_left, rfl⟩
    show (Course.advance ⟨n, none⟩ first).node = _
    unfold Course.advance
    rw [hfirst]

end NodeGate
