import NodeGate.Proofs.Courses
import NodeGate.Proofs.Records

/-!
# When a node is first ready

A pass stamps the node that it has settled, if that carries no owned taint and no stamp yet. Which taints
are left is seen only after the edits. Here it is told by what the pass is given: in scope nothing owned
is left if every workload is ready, whatever the node carried before; out of scope if there is a sweep,
or nothing to sweep (`ownedTaints_gated_eq_nil_iff`).

So the stamp is a matter of the policy, the answers and the node before the pass, and `stamp_decided` says
which. The clock has no say in it, only in what is written.
-/

set_option autoImplicit false

namespace NodeGate

open Readiness

/-! ## Nobody waits -/

theorem Readiness.waiting_eq_nil_iff {lister : Lister} {node : String} {turn : Nat}
    {ws : List Workload} :
    waiting lister node turn ws = [] ↔
      ∀ i w, ws[i]? = some w → showsAt lister node (turn + i) w = true := by
  induction ws generalizing turn with
  | nil => simp [waiting]
  | cons w ws ih =>
    rw [waiting_cons, forall_turns_cons (P := fun turn w => showsAt lister node turn w = true), ← ih]
    split
    · rename_i hready
      exact (and_iff_right hready).symm
    · rename_i hwaits
      exact iff_of_false (List.cons_ne_nil _ _) fun h => hwaits h.1

theorem Readiness.isReady_eq_true_iff {lister : Lister} {node : String} {turn : Nat} {w : Workload} :
    (isReady lister turn node w).result = .ok true ↔ showsAt lister node turn w = true := by
  rw [isReady_eq_ok_iff, showsAt]
  constructor
  · rintro ⟨pods, hpods, hready⟩
    rw [hpods]
    exact hready.symm
  · intro h
    cases hlist : lister turn w.ns with
    | ok pods =>
      rw [hlist] at h
      exact ⟨pods, rfl, h.symm⟩
    | error f =>
      rw [hlist] at h
      cases h

/-! ## Nodes without owned taints -/

namespace Node

variable {n : Node} {waiting : List Workload} {sweep : Bool}

theorem ownedTaints_eq_nil_iff : n.ownedTaints = [] ↔ ∀ key, key ∉ n.ownedKeys := by
  unfold ownedKeys
  rw [← List.map_eq_nil_iff (f := Taint.key), List.eq_nil_iff_forall_not_mem]
  simp only [List.mem_eraseDups]

/-- Settling leaves nothing owned on a node if nobody waits and what was there is swept. -/
theorem ownedTaints_gated_eq_nil_iff :
    (n.gated waiting sweep).ownedTaints = [] ↔
      waiting = [] ∧ (sweep = true ∨ n.ownedTaints = []) := by
  simp only [ownedTaints_eq_nil_iff, mem_ownedKeys_gated_iff, not_or, forall_and]
  refine and_congr ?_ ?_
  · rw [← List.eq_nil_iff_forall_not_mem, List.map_eq_nil_iff]
  · cases sweep with
    | true => simp
    | false => simp

end Node

/-! ## The stamp of a verdict -/

section Verdict

variable {p : Policy} {now : Moment} {n : Node} {waiting : List Workload}

theorem Policy.stamps_iff :
    p.stamps n = true ↔ p.markFirstReady = true ∧ n.annotations.get? firstReadyKey = none ∧
      n.ownedTaints = [] := by
  unfold stamps Dict.contains
  simp [and_comm]

/-- A policy that stamps leaves no node with neither an owned taint nor a stamp. -/
theorem Policy.gated_or_stamped (p : Policy) (now : Moment) (n : Node)
    (h : p.markFirstReady = true) :
    (p.stamp now n).1.ownedTaints ≠ [] ∨
      ∃ stamp, (p.stamp now n).1.annotations.get? firstReadyKey = some stamp := by
  rw [stamp_eq_ite]
  split
  · right
    exact ⟨now.stamp, (n.annotations.get?_insert firstReadyKey now.stamp firstReadyKey).trans
      (if_pos rfl)⟩
  · rename_i hnot
    rw [Policy.stamps_iff, not_and, not_and] at hnot
    by_cases hnone : n.annotations.get? firstReadyKey = none
    · exact .inl (hnot h hnone)
    · exact .inr (Option.ne_none_iff_exists'.1 hnone)

theorem verdict_marked_iff (h : waiting.Nodup) :
    (verdict p now n waiting).firstReadyMarked = true ↔
      p.markFirstReady = true ∧ n.annotations.get? firstReadyKey = none ∧ waiting = [] ∧
        (p.sweeps n.labels = true ∨ n.ownedTaints = []) := by
  have hmarked : (p.stamp now (n.gated waiting (p.sweeps n.labels))).2 =
      p.stamps (n.gated waiting (p.sweeps n.labels)) := by
    rw [Policy.stamp_eq_ite]
    split
    · rename_i hstamps
      exact hstamps.symm
    · rename_i hstamps
      exact (Bool.eq_false_iff.2 hstamps).symm
  rw [verdict_eq h]
  show (p.stamp now (n.gated waiting (p.sweeps n.labels))).2 = true ↔ _
  rw [hmarked, Policy.stamps_iff, Node.ownedTaints_gated_eq_nil_iff]
  rfl

/-- A stamp is one entry more, after all others. -/
theorem entries_verdict (h : waiting.Nodup) :
    (verdict p now n waiting).node.annotations.entries = n.annotations.entries ++
      if (verdict p now n waiting).firstReadyMarked then [(firstReadyKey, now.stamp)] else [] := by
  rw [verdict_eq h]
  rcases p.stamp_cases now (n.gated waiting (p.sweeps n.labels)) with hstamp | ⟨hnew, hstamp⟩
  · rw [hstamp]
    exact (List.append_nil _).symm
  · rw [hstamp]
    exact putEntry_of_notMem now.stamp (Dict.notMem_keys_of_contains hnew)

end Verdict

/-! ## Any pass -/

/-- **What decides the stamp.** A pass that finds out about its workloads stamps the node exactly if the
policy says so, the node has no stamp yet, and it is free by what the pass is given: in scope with every
workload ready, or out of scope with a sweep or without owned taints. A stamp is one entry at the end of
the annotations, with the time of the clock; the others stay as they are, and without a stamp all do. If
the policy says so every node comes out with an owned taint or with a stamp. -/
theorem stamp_decided (lister : Lister) (p : Policy) (now : Moment) (n : Node)
    (hans : p.inScope n.labels = true → Answered lister 0 p.workloads) :
    ∃ r, (reconcile lister p now n).result = .ok r ∧
      (r.firstReadyMarked = true ↔
        p.markFirstReady = true ∧ n.annotations.get? firstReadyKey = none ∧
          (p.inScope n.labels = true ∧
              (∀ i w, p.workloads[i]? = some w → (isReady lister i n.name w).result = .ok true) ∨
            p.inScope n.labels = false ∧ (p.sweepOutOfScope = true ∨ n.ownedTaints = []))) ∧
      r.node.annotations.entries = n.annotations.entries ++
        (if r.firstReadyMarked then [(firstReadyKey, now.stamp)] else []) ∧
      (p.markFirstReady = true →
        r.node.ownedTaints ≠ [] ∨ ∃ stamp, r.node.annotations.get? firstReadyKey = some stamp) := by
  have hnodup := p.nodup_waiting lister n
  refine ⟨verdict p now n (p.waiting lister n),
    reconcile_eq_ok_iff.2 ⟨Policy.answered_asked_iff.2 hans, rfl⟩, ?marked, entries_verdict hnodup, ?either⟩
  case marked =>
    rw [verdict_marked_iff hnodup]
    refine and_congr_right' (and_congr_right' ?_)
    cases hin : p.inScope n.labels with
    | true =>
      simp only [Policy.waiting_of_inScope hin, waiting_eq_nil_iff, isReady_eq_true_iff,
        Policy.sweeps_of_inScope hin, Nat.zero_add]
      simp
    | false =>
      -- nothing is asked out of scope, so nobody waits
      have hasked : p.asked n.labels = [] := if_neg (Bool.eq_false_iff.1 hin)
      have hwaiting : p.waiting lister n = [] := by
        unfold Policy.waiting
        rw [hasked]
        rfl
      have hsweeps : p.sweeps n.labels = p.sweepOutOfScope := by
        unfold Policy.sweeps
        rw [hin, Bool.false_or]
      simp [hwaiting, hsweeps]
  case either =>
    intro hpolicy
    rw [verdict_eq hnodup]
    exact p.gated_or_stamped now _ hpolicy

namespace Moved

open Drifted

/-- Away from the scope, but clean. -/
def clean : Node := { Drifted.node with taints := [gpu] }

end Moved

/-- Three owned taints do not keep a node from its stamp if the only workload of the policy runs. Out of
scope and without a sweep they do, and a node without them gets its stamp there too. -/
theorem stamp_decided_drifted :
    Answered Drifted.pods 0 Drifted.driverOnly.workloads ∧
    Moved.away.policy.inScope Drifted.node.labels = false ∧
    (∃ r, (reconcile Drifted.pods Drifted.driverOnly Drifted.now Drifted.node).result = .ok r ∧
      r.node.annotations.entries = [(firstReadyKey, Drifted.now.stamp)]) ∧
    (∃ r, (reconcile Drifted.pods Moved.away.policy Drifted.now Drifted.node).result = .ok r ∧
      r.node.annotations.entries = [] ∧ r.node.ownedTaints ≠ []) ∧
    ∃ r, (reconcile Drifted.pods Moved.away.policy Drifted.now Moved.clean).result = .ok r ∧
      r.node.annotations.entries = [(firstReadyKey, Drifted.now.stamp)] := by
  have hans : Answered Drifted.pods 0 Drifted.driverOnly.workloads := fun _ _ _ => ⟨_, rfl⟩
  have haway : Moved.away.policy.inScope Drifted.node.labels = false := by decide
  have hin : Drifted.driverOnly.inScope Drifted.node.labels = true := by decide
  refine ⟨hans, haway, ?_, ?_, ?_⟩
  · obtain ⟨r, hr, hmarked, hentries, _⟩ := stamp_decided Drifted.pods Drifted.driverOnly Drifted.now
      Drifted.node fun _ => hans
    have hready : ∀ i w, Drifted.driverOnly.workloads[i]? = some w →
        (isReady Drifted.pods i Drifted.node.name w).result = .ok true := by
      intro i w hw
      obtain ⟨rfl, rfl⟩ : i = 0 ∧ Drifted.driver = w := by
        cases i with
        | zero => exact ⟨rfl, Option.some.inj hw⟩
        | succ i => cases hw
      rfl
    rw [hmarked.2 ⟨rfl, rfl, .inl ⟨hin, hready⟩⟩] at hentries
    exact ⟨r, hr, hentries⟩
  · obtain ⟨r, hr, hmarked, hentries, heither⟩ := stamp_decided Drifted.pods Moved.away.policy
      Drifted.now Drifted.node fun hin => absurd (hin.symm.trans haway) (by simp)
    have hnot : r.firstReadyMarked = false := by
      refine Bool.eq_false_iff.2 fun hstamped => ?_
      rcases (hmarked.1 hstamped).2.2 with ⟨hin, _⟩ | ⟨_, hswept | hfree⟩
      · exact absurd (hin.symm.trans haway) (by simp)
      · cases hswept
      · exact absurd hfree (by decide)
    have hempty : r.node.annotations.entries = [] := by
      rw [hentries, hnot]
      rfl
    refine ⟨r, hr, hempty, (heither rfl).resolve_right ?_⟩
    rintro ⟨stamp, hstamp⟩
    rw [Dict.get?, hempty] at hstamp
    cases hstamp
  · obtain ⟨r, hr, hmarked, hentries, _⟩ := stamp_decided Drifted.pods Moved.away.policy Drifted.now
      Moved.clean fun hin => absurd (hin.symm.trans haway) (by simp)
    rw [hmarked.2 ⟨rfl, rfl, .inr ⟨haway, .inr rfl⟩⟩] at hentries
    exact ⟨r, hr, hentries⟩

end NodeGate
