import NodeGate.Proofs.Asking
import NodeGate.Proofs.Dicts
import NodeGate.Proofs.Settling

/-!
# A pass as a function of the answers

`reconcile` asks first and decides then. The decision is `verdict`, a function of the node, the
policy, the clock and the workloads found waiting; `reconcile_eq_ok_iff` says that a pass succeeds
exactly if all its questions are answered, and that its result is then the verdict. Every statement
about passes that succeed is a statement about verdicts.
-/

set_option autoImplicit false

namespace NodeGate

open Readiness

/-! ## The decision -/

/-- The workloads that a pass over a node with these labels asks about. -/
def Policy.asked (p : Policy) (labels : Dict String) : List Workload :=
  if p.inScope labels then p.workloads else []

/-- Does a pass over a node with these labels take away the owned taints that nobody claims? -/
def Policy.sweeps (p : Policy) (labels : Dict String) : Bool :=
  p.inScope labels || p.sweepOutOfScope

/-- The stamp of a pass: the node, and whether it was stamped. -/
def Policy.stamp (p : Policy) (now : Moment) (n : Node) : Node × Bool :=
  if p.markFirstReady then NodeGate.markFirstReady n now else (n, false)

/-- What a pass makes of a node once it knows who waits. -/
def verdict (p : Policy) (now : Moment) (n : Node) (waiting : List Workload) : Result :=
  let (settled, changes) := settle n waiting (p.sweeps n.labels)
  let (node, firstReadyMarked) := p.stamp now settled
  { node, changes, inScope := p.inScope n.labels, firstReadyMarked }

/-- Who waits after a pass of the policy over the node. -/
def Policy.waiting (p : Policy) (lister : Lister) (n : Node) : List Workload :=
  Readiness.waiting lister n.name 0 (p.asked n.labels)

theorem Policy.nodup_asked (p : Policy) (labels : Dict String) : (p.asked labels).Nodup := by
  unfold asked
  split
  · exact p.distinct
  · exact List.nodup_nil

theorem Policy.nodup_waiting (p : Policy) (lister : Lister) (n : Node) :
    (p.waiting lister n).Nodup :=
  (p.nodup_asked n.labels).sublist (waiting_sublist lister n.name 0 _)

section InScope

variable {p : Policy} {n : Node} (h : p.inScope n.labels = true)
include h

theorem Policy.asked_of_inScope : p.asked n.labels = p.workloads := if_pos h

theorem Policy.sweeps_of_inScope : p.sweeps n.labels = true := by
  rw [sweeps, h, Bool.true_or]

theorem Policy.waiting_of_inScope (lister : Lister) :
    p.waiting lister n = Readiness.waiting lister n.name 0 p.workloads := by
  rw [waiting, asked_of_inScope h]

end InScope

/-- The listings that a pass needs are those of a node in scope. -/
theorem Policy.answered_asked_iff {p : Policy} {labels : Dict String} {lister : Lister} {turn : Nat} :
    Answered lister turn (p.asked labels) ↔
      (p.inScope labels = true → Answered lister turn p.workloads) := by
  unfold asked
  split
  · rename_i hin
    exact ⟨fun h _ => h, fun h => h hin⟩
  · rename_i hout
    exact ⟨fun _ hin => absurd hin hout, fun _ => answered_nil lister turn⟩

theorem calculateTaints_eq_ok_iff {lister : Lister} {n : Node} {ws : List Workload} {sweep : Bool}
    {out : Node × Changes} :
    (calculateTaints lister n ws sweep).result = .ok out ↔
      Answered lister 0 ws ∧ out = settle n (Readiness.waiting lister n.name 0 ws) sweep := by
  unfold calculateTaints
  simp only [Run.result_bind_eq_ok_iff, unready_eq_ok_iff, Run.result_pure, Except.ok.injEq]
  constructor
  · intro h
    rcases h with ⟨_, ⟨hans, rfl⟩, rfl⟩
    exact ⟨hans, rfl⟩
  · intro h
    rcases h with ⟨hans, rfl⟩
    exact ⟨_, ⟨hans, rfl⟩, rfl⟩

/-- **A pass succeeds exactly if all its questions are answered, and then gives the verdict.** -/
theorem reconcile_eq_ok_iff {lister : Lister} {p : Policy} {now : Moment} {n : Node} {r : Result} :
    (reconcile lister p now n).result = .ok r ↔
      Answered lister 0 (p.asked n.labels) ∧ r = verdict p now n (p.waiting lister n) := by
  simp only [reconcile]
  -- with the note that the node is out of scope or without it, the rest is the same
  split
  all_goals
    simp only [Run.result_bind_eq_ok_iff, Run.result_log, Run.result_pure, Except.ok.injEq,
      calculateTaints_eq_ok_iff, true_and, exists_const]
    constructor
    · intro h
      rcases h with ⟨_, ⟨hans, rfl⟩, rfl⟩
      exact ⟨hans, rfl⟩
    · intro h
      rcases h with ⟨hans, rfl⟩
      exact ⟨_, ⟨hans, rfl⟩, rfl⟩

theorem calculateTaints_eq_error_iff {lister : Lister} {n : Node} {ws : List Workload}
    {sweep : Bool} {g : Failure} :
    (calculateTaints lister n ws sweep).result = .error g ↔
      ∃ w f, FirstLost lister 0 ws w f ∧ g = unknown w f := by
  unfold calculateTaints
  simp only [Run.result_bind_eq_error_iff, unready_eq_error_iff, Run.result_pure, reduceCtorEq,
    and_false, exists_false, or_false]

/-- **A pass fails exactly if one of its questions stays open, at the first that does.** -/
theorem reconcile_eq_error_iff {lister : Lister} {p : Policy} {now : Moment} {n : Node}
    {g : Failure} :
    (reconcile lister p now n).result = .error g ↔
      ∃ w f, FirstLost lister 0 (p.asked n.labels) w f ∧ g = unknown w f := by
  simp only [reconcile]
  split
  all_goals
    simp only [Run.result_bind_eq_error_iff, Run.result_log, Run.result_pure,
      calculateTaints_eq_error_iff, reduceCtorEq, and_false, exists_false, or_false, false_or,
      true_and, exists_const]
    rfl

theorem asks_reconcile (lister : Lister) (p : Policy) (now : Moment) (n : Node) :
    (reconcile lister p now n).Asks := by
  have hcalc : ∀ ws sweep, (calculateTaints lister n ws sweep).Asks := by
    intro ws sweep
    unfold calculateTaints
    exact (asks_unready lister n.name 0 ws).bind fun _ => Run.asks_pure _
  simp only [reconcile]
  split
  · exact (Run.asks_log _ _ _).bind fun _ => (hcalc _ _).bind fun _ => Run.asks_pure _
  · exact (hcalc _ _).bind fun _ => Run.asks_pure _

/-! ## What a verdict leaves of a node -/

section Stamp

variable (p : Policy) (now : Moment) (n : Node)

/-- Is the node stamped by a pass of the policy? -/
def Policy.stamps (p : Policy) (n : Node) : Bool :=
  p.markFirstReady && (n.ownedTaints.isEmpty && !n.annotations.contains firstReadyKey)

theorem Policy.stamp_eq_ite :
    p.stamp now n =
      if p.stamps n then
        ({ n with annotations := n.annotations.insert firstReadyKey now.stamp }, true)
      else (n, false) := by
  unfold stamp stamps NodeGate.markFirstReady
  cases p.markFirstReady with
  | true => rfl
  | false => rfl

/-- A stamp is written only where there is none. -/
theorem Policy.stamp_cases :
    p.stamp now n = (n, false) ∨
      n.annotations.contains firstReadyKey = false ∧
        p.stamp now n =
          ({ n with annotations := n.annotations.insert firstReadyKey now.stamp }, true) := by
  rw [stamp_eq_ite]
  split
  · rename_i hstamps
    unfold stamps at hstamps
    simp only [Bool.and_eq_true, Bool.not_eq_true'] at hstamps
    exact .inr ⟨hstamps.2.2, rfl⟩
  · exact .inl rfl

/-- Stamped or not, a node keeps all but its annotations. -/
theorem Policy.stamp_eq :
    (p.stamp now n).1 = { n with annotations := (p.stamp now n).1.annotations } := by
  rcases p.stamp_cases now n with h | ⟨_, h⟩
  · rw [h]
  · rw [h]

@[simp]
theorem Policy.stamp_name : (p.stamp now n).1.name = n.name := by
  rw [stamp_eq]

@[simp]
theorem Policy.stamp_labels : (p.stamp now n).1.labels = n.labels := by
  rw [stamp_eq]

@[simp]
theorem Policy.stamp_taints : (p.stamp now n).1.taints = n.taints := by
  rw [stamp_eq]

/-- Whether a node is stamped does not depend on the time. -/
theorem Policy.stamp_marked (later : Moment) : (p.stamp later n).2 = (p.stamp now n).2 := by
  rw [stamp_eq_ite, stamp_eq_ite]
  split
  · rfl
  · rfl

/-- A node is not stamped again. -/
theorem Policy.stamp_again (later : Moment) :
    p.stamp later (p.stamp now n).1 = ((p.stamp now n).1, false) := by
  rw [p.stamp_eq_ite now n]
  split
  · have hdone : p.stamps
        { n with annotations := n.annotations.insert firstReadyKey now.stamp } = false := by
      unfold stamps
      rw [Dict.contains_insert_self]
      simp
    rw [stamp_eq_ite, hdone]
    rfl
  · rename_i hnot
    rw [stamp_eq_ite, if_neg hnot]

end Stamp

section Verdict

variable {p : Policy} {now : Moment} {n : Node} {waiting : List Workload}

theorem verdict_eq (h : waiting.Nodup) :
    verdict p now n waiting =
      { node := (p.stamp now (n.gated waiting (p.sweeps n.labels))).1
        changes :=
          { added := (n.ungated waiting).map Workload.taintKey
            removed := if p.sweeps n.labels then n.unclaimed waiting else [] }
        inScope := p.inScope n.labels
        firstReadyMarked := (p.stamp now (n.gated waiting (p.sweeps n.labels))).2 } := by
  unfold verdict
  rw [settle_eq n _ h]

theorem verdict_name (h : waiting.Nodup) : (verdict p now n waiting).node.name = n.name := by
  rw [verdict_eq h]
  exact p.stamp_name now _

theorem verdict_labels (h : waiting.Nodup) : (verdict p now n waiting).node.labels = n.labels := by
  rw [verdict_eq h]
  exact p.stamp_labels now _

theorem verdict_taints (h : waiting.Nodup) :
    (verdict p now n waiting).node.taints = (n.gated waiting (p.sweeps n.labels)).taints := by
  rw [verdict_eq h]
  exact p.stamp_taints now _

/-- A verdict in scope leaves the owned keys of those who wait, whatever was there before. -/
theorem mem_ownedKeys_verdict (h : waiting.Nodup) (hin : p.inScope n.labels = true)
    {key : String} :
    key ∈ (verdict p now n waiting).node.ownedKeys ↔ key ∈ waiting.map Workload.taintKey := by
  rw [Node.mem_ownedKeys, verdict_taints h, Policy.sweeps_of_inScope hin, ← Node.mem_ownedKeys,
    Node.mem_ownedKeys_gated]

/-! ## The same verdict again -/

/-- Whether anything changes does not depend on the time. -/
theorem verdict_changed (h : waiting.Nodup) (later : Moment) :
    (verdict p later n waiting).changed = (verdict p now n waiting).changed := by
  rw [verdict_eq h, verdict_eq h]
  unfold Result.changed
  rw [p.stamp_marked now _ later]

/-- A verdict leaves a node that has nothing left to settle. -/
theorem settled_verdict (h : waiting.Nodup) :
    (verdict p now n waiting).node.Settled waiting (p.sweeps n.labels) := by
  have hgated : (n.gated waiting (p.sweeps n.labels)).Settled waiting (p.sweeps n.labels) :=
    Node.settled_gated
  constructor
  · rw [verdict_taints h]
    exact hgated.gates
  · rw [verdict_taints h]
    exact hgated.swept

/-- **The same verdict over its own node changes nothing.** -/
theorem verdict_again (h : waiting.Nodup) (later : Moment) :
    verdict p later (verdict p now n waiting).node waiting =
      { node := (verdict p now n waiting).node
        changes := { added := [], removed := [] }
        inScope := p.inScope n.labels
        firstReadyMarked := false } := by
  have hsettled : (verdict p now n waiting).node.Settled waiting (p.sweeps n.labels) :=
    settled_verdict h
  have hstamp : p.stamp later (verdict p now n waiting).node =
      ((verdict p now n waiting).node, false) := by
    rw [verdict_eq h]
    exact p.stamp_again now _ later
  have hremoved : (if p.sweeps n.labels then
      (verdict p now n waiting).node.unclaimed waiting else []) = [] := by
    split
    · rename_i hsweeps
      exact hsettled.unclaimed_eq_nil hsweeps
    · rfl
  rw [verdict_eq h (n := (verdict p now n waiting).node), verdict_labels h, hsettled.gated_eq,
    hsettled.ungated_eq_nil, hstamp, hremoved]
  rfl

theorem waiting_verdict {lister : Lister} (h : waiting.Nodup) :
    p.waiting lister (verdict p now n waiting).node = p.waiting lister n := by
  unfold Policy.waiting
  rw [verdict_name h, verdict_labels h]

/-- A pass over the node of the pass before that is shown the same pods succeeds, and finds that node
as it should be. -/
theorem reconcile_again {lister lister' : Lister} (p : Policy) (now later : Moment) (n : Node)
    (h : Alike lister lister' 0 (p.asked n.labels)) :
    (reconcile lister' p later (verdict p now n (p.waiting lister n)).node).result =
      .ok { node := (verdict p now n (p.waiting lister n)).node
            changes := { added := [], removed := [] }
            inScope := p.inScope n.labels
            firstReadyMarked := false } := by
  have hnodup := p.nodup_waiting lister n
  have hlabels : (verdict p now n (p.waiting lister n)).node.labels = n.labels :=
    verdict_labels hnodup
  have hans : Answered lister' 0 (p.asked (verdict p now n (p.waiting lister n)).node.labels) :=
    hlabels ▸ h.answered_right
  have hwaiting : p.waiting lister' (verdict p now n (p.waiting lister n)).node =
      p.waiting lister n :=
    (waiting_verdict hnodup).trans (h.waiting_eq n.name)
  rw [reconcile_eq_ok_iff]
  refine ⟨hans, ?_⟩
  rw [hwaiting, verdict_again hnodup]

/-- A pass over the node of the pass before, with the same pods, succeeds and changes nothing. -/
theorem reconcile_verdict {lister : Lister} (p : Policy) (now later : Moment) (n : Node)
    (hans : Answered lister 0 (p.asked n.labels)) :
    ∃ r, (reconcile lister p later (verdict p now n (p.waiting lister n)).node).result = .ok r ∧
      r.node = (verdict p now n (p.waiting lister n)).node ∧ r.changed = false :=
  ⟨_, reconcile_again p now later n hans.alike_self, rfl, rfl⟩

end Verdict

end NodeGate
