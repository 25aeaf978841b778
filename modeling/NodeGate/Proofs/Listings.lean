import NodeGate.Proofs.Containment

/-!
# What a pass asks for

A pass over a node in scope lists pods once for every workload of its policy, in the order of the policy,
also if two of them share a namespace. It does so until a listing fails: that one is the last, the pass
raises, and its failure says which workload was left open. A node out of scope calls for no listing.

`Policy.Questions` says that of a run, with both sides told by what the lister answers in each turn;
`pass_questions` shows it. A listing that fails is never read as the answer no: a pass that does not know
of one workload has no result, and so there is no node to write and no stamp.
-/

set_option autoImplicit false

namespace NodeGate

open Readiness

/-! ## How a failed listing ends a pass -/

/-- The first failure, met in listing the pods for `w`, ends the pass as the second one. What already
says that a question stays open is passed on, and so is what is no error of the gate. Any other error is
told as one that names the workload, its namespace and the whole text of what went wrong. -/
inductive Failure.LeavesOpen (w : Workload) : Failure → Failure → Prop
  | said {e : GateError} (hkind : e.kind = .resolution) : LeavesOpen w (.gate e) (.gate e)
  | named {e e' : GateError} (hkind : e.kind ≠ .resolution) (hkind' : e'.kind = .resolution)
      (hmessage : e'.message = s!"Failed to list pods in namespace {w.ns} for {w.ns}/{w.name}")
      (hdetails : e'.details = some e.text) : LeavesOpen w (.gate e) (.gate e')
  | foreign {f : Failure} (hf : ∀ e, f ≠ .gate e) : LeavesOpen w f f

theorem Failure.leavesOpen_unknown (w : Workload) (f : Failure) : f.LeavesOpen w (unknown w f) := by
  cases f with
  | gate e =>
    by_cases hkind : e.kind = .resolution
    · have hsaid : unknown w (.gate e) = .gate e := if_pos hkind
      rw [hsaid]
      exact .said hkind
    · have hnamed : unknown w (.gate e) = .gate (.readinessUnknown w.ns w.text e) := if_neg hkind
      have hmessage : (GateError.readinessUnknown w.ns w.text e).message =
          s!"Failed to list pods in namespace {w.ns} for {w.ns}/{w.name}" := by
        unfold GateError.message GateError.words Workload.text
        dsimp only
        simp only [toString, String.append_assoc]
      rw [hnamed]
      exact .named hkind rfl hmessage rfl
  | invalid e => exact .foreign fun _ h => Failure.noConfusion h
  | fault e => exact .foreign fun _ h => Failure.noConfusion h
  | unreadable u => exact .foreign fun _ h => Failure.noConfusion h

/-! ## The questions of a pass -/

/-- The run is that of a pass of the policy over the node which asks this lister. -/
structure Policy.Questions (p : Policy) (lister : Lister) (n : Node) (run : Run Result) : Prop where
  /-- One listing for each workload, and nothing else, if none fails. -/
  answered : Answered lister 0 (p.asked n.labels) → run.calls = listings (p.asked n.labels)
  /-- The first listing that fails is the last one. -/
  lost : ∀ before w after f, p.asked n.labels = before ++ w :: after → Answered lister 0 before →
    lister before.length w.ns = .error f →
      run.calls = listings (before ++ [w]) ∧ ∃ g, run.result = .error g ∧ f.LeavesOpen w g
  raises_iff : (∃ g, run.result = .error g) ↔ ∃ w f, FirstLost lister 0 (p.asked n.labels) w f
  /-- There is a result only if every workload is known. -/
  known_iff : (∃ r, run.result = .ok r) ↔ Answered lister 0 (p.asked n.labels)

theorem questions_reconcile (lister : Lister) (p : Policy) (now : Moment) (n : Node) :
    p.Questions lister n (reconcile lister p now n) where
  answered := by
    intro hans
    rw [calls_reconcile]
    exact calls_unready_of_answered hans
  lost := by
    intro before w after f hasked hans hlost
    have hturn : lister (0 + before.length) w.ns = .error f := by rwa [Nat.zero_add]
    have hresult : (reconcile lister p now n).result = .error (unknown w f) :=
      reconcile_eq_error_iff.2 ⟨w, f, ⟨before, after, hasked, hans, hturn⟩, rfl⟩
    refine ⟨?_, _, hresult, Failure.leavesOpen_unknown w f⟩
    rw [calls_reconcile, hasked]
    exact calls_unready_of_lost hans hturn
  raises_iff := by
    constructor
    · rintro ⟨g, hg⟩
      obtain ⟨w, f, hlost, _⟩ := reconcile_eq_error_iff.1 hg
      exact ⟨w, f, hlost⟩
    · rintro ⟨w, f, hlost⟩
      exact ⟨_, reconcile_eq_error_iff.2 ⟨w, f, hlost, rfl⟩⟩
  known_iff := by
    constructor
    · rintro ⟨r, hr⟩
      exact (reconcile_eq_ok_iff.1 hr).1
    · intro hans
      exact ⟨_, reconcile_eq_ok_iff.2 ⟨hans, rfl⟩⟩

/-- **A pass asks for one workload after the other, until a listing fails.** The listings are those of
the workloads that the scope gives it, in their order and one for each, cut after the first that fails.
The pass raises exactly if there is such a cut, and then with a failure that answers for the workload
there; it has a result exactly if all workloads are known. A controller whose pass is cut lists pods and
does nothing else. -/
theorem pass_questions (lister : Lister) (p : Policy) (now : Moment) (n : Node) :
    p.Questions lister n (reconcile lister p now n) ∧
    ∀ (c : Controller) (cluster : Cluster), c.policy = p → cluster.list = lister →
      ∀ w f, FirstLost lister 0 (p.asked n.labels) w f →
        OnlyListings (c.handle cluster now n).calls ∧ ∀ r, (c.handle cluster now n).result ≠ .ok r := by
  refine ⟨questions_reconcile lister p now n, ?_⟩
  rintro c cluster rfl rfl w f hlost
  have hpass : (reconcile cluster.list c.policy now n).result = .error (unknown w f) :=
    reconcile_eq_error_iff.2 ⟨w, f, hlost, rfl⟩
  obtain ⟨hcalls, hresult⟩ := Controller.handle_of_error hpass
  constructor
  · -- the call is over with its pass
    rw [hcalls]
    exact onlyListings_reconcile cluster.list c.policy now n
  · intro r hr
    rw [hresult] at hr
    cases hr

namespace Outage

open Drifted

/-- The cluster of the server that refuses the second listing. -/
def interrupted : Cluster := calm.clusterOver listing now

theorem answered_fluentd : Answered interrupted.list 0 [fluentd] :=
  answered_cons.2 ⟨⟨[], rfl⟩, answered_nil _ _⟩

end Outage

open Drifted Outage in
/-- The namespace of the first two workloads is asked for twice, and that of the third is not: the
second listing is refused. -/
theorem pass_questions_refused :
    policy.asked node.labels = [fluentd] ++ driver :: [exporter] ∧
    Answered interrupted.list 0 [fluentd] ∧
    interrupted.list 1 driver.ns = .error (.gate (.podsNotListed "kube-system" forbidden)) ∧
    (reconcile interrupted.list policy now node).calls =
      [.listPods "kube-system", .listPods "kube-system"] ∧
    (∃ e, (reconcile interrupted.list policy now node).result = .error (.gate e) ∧
      e.kind = .resolution ∧
      e.message = "Failed to list pods in namespace kube-system for kube-system/csi.driver" ∧
      e.details = some "Failed to list pods in namespace kube-system: 403 Forbidden") ∧
    ∀ r, (controller.handle interrupted now node).result ≠ .ok r := by
  have hasked : policy.asked node.labels = [fluentd] ++ driver :: [exporter] := rfl
  have hlost : interrupted.list 1 driver.ns =
      .error (.gate (.podsNotListed "kube-system" forbidden)) := rfl
  obtain ⟨hpass, hcontroller⟩ := pass_questions interrupted.list policy now node
  obtain ⟨hcalls, g, hresult, hopen⟩ := hpass.lost _ _ _ _ hasked answered_fluentd hlost
  refine ⟨hasked, answered_fluentd, hlost, hcalls, ?_,
    (hcontroller controller interrupted rfl rfl driver _ ⟨_, _, hasked, answered_fluentd, hlost⟩).2⟩
  cases hopen with
  | said hkind => cases hkind
  | named _ hkind hmessage hdetails => exact ⟨_, hresult, hkind, hmessage, hdetails⟩
  | foreign hf => exact absurd rfl (hf _)

end NodeGate
