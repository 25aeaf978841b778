import NodeGate.Controller
import NodeGate.Proofs.Passes

/-!
# What a controller asks of the cluster

`Controller.handle` is a pass and what follows from its result. The calls of the two parts do not mix:
a pass asks for pods and for nothing else, and what follows writes at most one node and reports at most
one event, both read off the result (`Controller.written`). So the writes of a whole call are known as
soon as the result of the pass is (`updates_handle`).

How a call ends is told path by path: a pass that fails, a node that is not written, a write that is
refused, and one that is reported. A failure is reworded on the way out, at most twice, and what that
comes to is `Failure.SurfacesAs`.
-/

set_option autoImplicit false

namespace NodeGate

open Readiness

/-- The failure ends a computation as an error of the kind if it is an error of the gate, of whatever
kind itself, and as it is otherwise. -/
def Failure.SurfacesAs {α : Type} (f : Failure) (kind : ErrorKind) (result : Except Failure α) :
    Prop :=
  match f with
  | .gate _ => ∃ e, result = .error (.gate e) ∧ e.kind = kind
  | f => result = .error f

namespace Controller

variable {c : Controller} {cluster : Cluster} {now : Moment} {n : Node} {r : Result}

/-! ## What follows a pass -/

/-- The calls that follow a pass: a result that changed something is written, and what was written is
reported. -/
def written (c : Controller) (cluster : Cluster) (r : Result) : List Call :=
  if r.changed = true ∧ c.dryRun = false then
    match cluster.update r.node with
    | .ok _ => [.update r.node, .emit r.event]
    | .error _ => [.update r.node]
  else []

theorem calls_report (cluster : Cluster) (r : Result) :
    (report cluster r).calls = [.emit r.event] := by
  unfold report Run.rescue
  split
  · rfl
  · rfl

theorem calls_write_report (cluster : Cluster) (r : Result) :
    (write cluster r.node >>= fun _ => report cluster r).calls =
      match cluster.update r.node with
      | .ok _ => [.update r.node, .emit r.event]
      | .error _ => [.update r.node] := by
  cases hupdate : cluster.update r.node with
  | ok u =>
    have hwrite : (write cluster r.node).result = .ok u := by
      unfold write
      rw [hupdate]
      rfl
    rw [Run.calls_bind_of_ok hwrite, calls_report]
    rfl
  | error f =>
    have hwrite : (write cluster r.node).result = .error (unwritten r.node.name f) := by
      unfold write
      rw [hupdate]
      rfl
    rw [Run.calls_bind_of_error hwrite]
    rfl

theorem calls_carryOut (node : String) : (c.carryOut cluster node r).calls = c.written cluster r := by
  unfold carryOut written
  cases r.changed with
  | false => rfl
  | true =>
    cases c.dryRun with
    | true => rfl
    | false => exact calls_write_report cluster r

/-! ## The whole call -/

/-- A call that gives a result gives that of its pass. -/
theorem reconcile_of_handle (h : (c.handle cluster now n).result = .ok r) :
    (reconcile cluster.list c.policy now n).result = .ok r := by
  unfold handle at h
  obtain ⟨r', hr', h⟩ := Run.result_bind_eq_ok_iff.1 h
  obtain ⟨_, _, h⟩ := Run.result_bind_eq_ok_iff.1 h
  cases h
  exact Run.result_mapFailure_eq_ok_iff.1 hr'

theorem calls_handle (h : (reconcile cluster.list c.policy now n).result = .ok r) :
    (c.handle cluster now n).calls =
      (reconcile cluster.list c.policy now n).calls ++ c.written cluster r := by
  unfold handle
  rw [Run.calls_bind_of_ok (Run.result_mapFailure_eq_ok_iff.2 h)]
  congr 1
  cases hcarry : (c.carryOut cluster n.name r).result with
  | ok u =>
    rw [Run.calls_bind_of_ok hcarry, calls_carryOut]
    exact List.append_nil _
  | error f =>
    rw [Run.calls_bind_of_error hcarry, calls_carryOut]

/-- **A call writes the node of its result, once, and only if there is something to write.** -/
theorem updates_handle (h : (reconcile cluster.list c.policy now n).result = .ok r) :
    (c.handle cluster now n).updates =
      if r.changed = true ∧ c.dryRun = false then [r.node] else [] := by
  have hasks := (asks_reconcile cluster.list c.policy now n).updates_eq_nil
  unfold Run.updates at hasks ⊢
  rw [calls_handle h, List.filterMap_append, hasks, List.nil_append]
  unfold written
  split
  · cases cluster.update r.node with
    | ok _ => rfl
    | error _ => rfl
  · rfl

/-- A result that changed nothing is given back, and that is all. -/
theorem handle_of_unchanged (h : (reconcile cluster.list c.policy now n).result = .ok r)
    (hchanged : r.changed = false) :
    (c.handle cluster now n).result = .ok r ∧ (c.handle cluster now n).updates = [] ∧
      (c.handle cluster now n).events = [] := by
  refine ⟨?_, ?_, ?_⟩
  · unfold handle carryOut
    refine Run.result_bind_eq_ok_iff.2 ⟨r, Run.result_mapFailure_eq_ok_iff.2 h, ?_⟩
    rw [hchanged]
    rfl
  · rw [updates_handle h, hchanged]
    exact if_neg (by simp)
  · have hasks := (asks_reconcile cluster.list c.policy now n).events_eq_nil
    have hwritten : c.written cluster r = [] := if_neg (by simp [hchanged])
    unfold Run.events at hasks ⊢
    rw [calls_handle h, hwritten, List.append_nil, hasks]

/-! ## How a call ends -/

/-- A listing that fails is reworded for the workload and then for the node. -/
theorem surfacesAs_unresolved {α : Type} (node : String) (w : Workload) (f : Failure) :
    f.SurfacesAs .resolution (.error (unresolved node (unknown w f)) : Except Failure α) := by
  cases f with
  | gate e =>
    by_cases h : e.kind = .resolution
    · exact ⟨.taintsUnknown node e, by simp [unknown, unresolved, h], rfl⟩
    · refine ⟨.taintsUnknown node (.readinessUnknown w.ns w.text e), ?_, rfl⟩
      simp only [unknown, if_neg h, unresolved]
      rfl
  | invalid e => rfl
  | fault f => rfl
  | unreadable u => rfl

/-- A refused write is reworded unless it says already what it is. -/
theorem surfacesAs_unwritten {α : Type} (node : String) (f : Failure) :
    f.SurfacesAs .persistence (.error (unwritten node f) : Except Failure α) := by
  cases f with
  | gate e =>
    by_cases h : e.kind = .persistence
    · exact ⟨e, by simp [unwritten, h], h⟩
    · exact ⟨.nodeNotUpdated node e, by simp [unwritten, h], rfl⟩
  | invalid e => rfl
  | fault f => rfl
  | unreadable u => rfl

theorem handle_of_error {f : Failure}
    (h : (reconcile cluster.list c.policy now n).result = .error f) :
    (c.handle cluster now n).calls = (reconcile cluster.list c.policy now n).calls ∧
      (c.handle cluster now n).result = .error (unresolved n.name f) := by
  have hfail : ((reconcile cluster.list c.policy now n).mapFailure (unresolved n.name)).result =
      .error (unresolved n.name f) := by
    unfold Run.mapFailure
    rw [h]
    rfl
  unfold handle
  rw [Run.bind_of_error hfail]
  exact ⟨rfl, rfl⟩

theorem updates_handle_of_error {f : Failure}
    (h : (reconcile cluster.list c.policy now n).result = .error f) :
    (c.handle cluster now n).updates = [] := by
  have hasks := (asks_reconcile cluster.list c.policy now n).updates_eq_nil
  unfold Run.updates at hasks ⊢
  rw [(handle_of_error h).1, hasks]

theorem result_handle (h : (reconcile cluster.list c.policy now n).result = .ok r) :
    (c.handle cluster now n).result = (c.carryOut cluster n.name r).result.map fun _ => r := by
  unfold handle
  rw [Run.bind_of_ok (Run.result_mapFailure_eq_ok_iff.2 h), Run.result_bind]
  cases (c.carryOut cluster n.name r).result with
  | ok u => rfl
  | error f => rfl

theorem result_carryOut_of_dryRun (node : String) (h : c.dryRun = true) :
    (c.carryOut cluster node r).result = .ok () := by
  unfold carryOut
  rw [h]
  cases r.changed with
  | false => rfl
  | true => rfl

section Written

variable (node : String) (hchanged : r.changed = true) (hdry : c.dryRun = false)
include hchanged hdry

theorem result_carryOut_of_error {f : Failure} (h : cluster.update r.node = .error f) :
    (c.carryOut cluster node r).result = .error (unwritten r.node.name f) := by
  have hwrite : (write cluster r.node).result = .error (unwritten r.node.name f) := by
    unfold write
    rw [h]
    rfl
  unfold carryOut
  rw [hchanged, hdry]
  show (write cluster r.node >>= fun _ => report cluster r).result = _
  rw [Run.bind_of_error hwrite]

theorem result_carryOut_of_ok {u : Unit} (h : cluster.update r.node = .ok u) :
    (c.carryOut cluster node r).result = (report cluster r).result := by
  have hwrite : (write cluster r.node).result = .ok u := by
    unfold write
    rw [h]
    rfl
  unfold carryOut
  rw [hchanged, hdry]
  show (write cluster r.node >>= fun _ => report cluster r).result = _
  rw [Run.bind_of_ok hwrite]

end Written

/-- What the gate itself says about a report that failed is a note and no more. -/
theorem result_report (cluster : Cluster) (r : Result) :
    (report cluster r).result =
      match cluster.emit r.event with
      | .error (.gate _) => .ok ()
      | answer => answer := by
  unfold report Run.rescue
  rw [Run.result_ask]
  split
  · rename_i h
    rw [h]
    rfl
  · rename_i h
    split
    · rename_i e he
      exact absurd he (h e)
    · rfl

end Controller
end NodeGate
