import NodeGate.Proofs.Gates
import NodeGate.Proofs.Handling
import NodeGate.Session

/-!
# Calls in a session

A controller works under a policy that is replaced, with dry runs switched on and off, on a cluster
whose collaborators fail in any way and recover. Whatever came before, a call reads, writes and reports
in this order, and each step is taken only if the one before it went well.

`Controller.Lawful` is that order, told path by path: a listing that fails, a node that stays as it is,
a write that is refused, a write that is reported. `lawful_handle` shows it for a call by itself.
`handle_lawful` finds every call of a session in the list of its runs, and shows that the runs after it
are those of the session without it.
-/

set_option autoImplicit false

namespace NodeGate

open Readiness

/-! ## The law of a call -/

/-- Pods are asked for, and nothing else is done. -/
def OnlyListings (calls : List Call) : Prop := ∀ call ∈ calls, ∃ ns, call = .listPods ns

/-- How a call over the node must go, given what the cluster answers. One of the four paths is taken:
if no listing fails there is a result (`read`), and its write is not called for, refused or done. -/
structure Controller.Lawful (c : Controller) (cluster : Cluster) (now : Moment) (n : Node)
    (run : Run Result) : Prop where
  unread : ∀ w f, FirstLost cluster.list 0 (c.policy.asked n.labels) w f →
    OnlyListings run.calls ∧ f.SurfacesAs .resolution run.result
  read : (∀ w f, ¬ FirstLost cluster.list 0 (c.policy.asked n.labels) w f) →
    ∃ r, (reconcile cluster.list c.policy now n).result = .ok r
  kept : ∀ r, (reconcile cluster.list c.policy now n).result = .ok r →
    r.changed = false ∨ c.dryRun = true → OnlyListings run.calls ∧ run.result = .ok r
  refused : ∀ r f, (reconcile cluster.list c.policy now n).result = .ok r → r.changed = true →
    c.dryRun = false → cluster.update r.node = .error f →
      (∃ asked, OnlyListings asked ∧ run.calls = asked ++ [.update r.node]) ∧
      f.SurfacesAs .persistence run.result
  /-- A report that fails is of no account if it is the gate that says so. -/
  reported : ∀ r, (reconcile cluster.list c.policy now n).result = .ok r → r.changed = true →
    c.dryRun = false → cluster.update r.node = .ok () →
      let event : Event := ⟨r.node.name, "Normal", "TaintsChanged", r.announcement.text⟩
      (∃ asked, OnlyListings asked ∧ run.calls = asked ++ [.update r.node, .emit event]) ∧
      run.result =
        match cluster.emit event with
        | .error (.gate _) | .ok _ => .ok r
        | .error f => .error f

theorem onlyListings_reconcile (lister : Lister) (p : Policy) (now : Moment) (n : Node) :
    OnlyListings (reconcile lister p now n).calls :=
  fun _ hcall => (asks_reconcile lister p now n).exists_of_mem_calls hcall

theorem lawful_handle (c : Controller) (cluster : Cluster) (now : Moment) (n : Node) :
    c.Lawful cluster now n (c.handle cluster now n) where
  unread := by
    intro w f hlost
    have hpass : (reconcile cluster.list c.policy now n).result = .error (unknown w f) :=
      reconcile_eq_error_iff.2 ⟨w, f, hlost, rfl⟩
    obtain ⟨hcalls, hresult⟩ := Controller.handle_of_error hpass
    rw [hcalls, hresult]
    exact ⟨onlyListings_reconcile cluster.list c.policy now n,
      Controller.surfacesAs_unresolved n.name w f⟩
  read := by
    intro hnone
    cases hpass : (reconcile cluster.list c.policy now n).result with
    | ok r => exact ⟨r, rfl⟩
    | error g =>
      obtain ⟨w, f, hlost, _⟩ := reconcile_eq_error_iff.1 hpass
      exact absurd hlost (hnone w f)
  kept := by
    intro r hpass hkept
    have hwritten : c.written cluster r = [] := by
      refine if_neg fun hwrite => ?_
      rcases hkept with hkept | hkept
      · exact absurd hwrite.1 (by simp [hkept])
      · exact absurd hwrite.2 (by simp [hkept])
    constructor
    · rw [Controller.calls_handle hpass, hwritten, List.append_nil]
      exact onlyListings_reconcile cluster.list c.policy now n
    · rcases hkept with hchanged | hdry
      · exact (Controller.handle_of_unchanged hpass hchanged).1
      · rw [Controller.result_handle hpass, Controller.result_carryOut_of_dryRun n.name hdry]
        rfl
  refused := by
    intro r f hpass hchanged hdry hupdate
    have hwritten : c.written cluster r = [.update r.node] := by
      unfold Controller.written
      rw [if_pos ⟨hchanged, hdry⟩, hupdate]
    constructor
    · refine ⟨_, onlyListings_reconcile cluster.list c.policy now n, ?_⟩
      rw [Controller.calls_handle hpass, hwritten]
    · rw [Controller.result_handle hpass,
        Controller.result_carryOut_of_error n.name hchanged hdry hupdate]
      exact Controller.surfacesAs_unwritten r.node.name f
  reported := by
    intro r hpass hchanged hdry hupdate event
    have hwritten : c.written cluster r = [.update r.node, .emit event] := by
      unfold Controller.written
      rw [if_pos ⟨hchanged, hdry⟩, hupdate]
      rfl
    constructor
    · refine ⟨_, onlyListings_reconcile cluster.list c.policy now n, ?_⟩
      rw [Controller.calls_handle hpass, hwritten]
    · have hevent : event = r.event := rfl
      rw [Controller.result_handle hpass,
        Controller.result_carryOut_of_ok n.name hchanged hdry hupdate, Controller.result_report,
        hevent]
      -- the report went well, failed by the gate's own account, or failed otherwise
      cases cluster.emit r.event with
      | ok u => rfl
      | error f => cases f <;> rfl

/-! ## Sessions -/

namespace Session

/-- The session after orders. -/
def after (s : Session) (orders : List Order) : Session :=
  orders.foldl (fun s order => (s.obey order).1) s

theorem runs_append (s : Session) (orders later : List Order) :
    s.runs (orders ++ later) = s.runs orders ++ (s.after orders).runs later := by
  induction orders generalizing s with
  | nil => rfl
  | cons order orders ih =>
    cases order with
    | handle n => exact congrArg (_ :: ·) (ih s)
    | adopt policy => exact ih _
    | setDryRun dryRun => exact ih _
    | connect cluster => exact ih _
    | setClock now => exact ih _

/-- **Every call of a session is lawful, and leaves no trace in those after it.** Take a call over `n`
anywhere in a session. Its run stands between the runs before it and those after it; it goes as the law
says for the policy, the dry run, the cluster and the clock that the orders before it have set; and the
runs after it, as those before it, are what they would be without it. -/
theorem handle_lawful (s : Session) (before later : List Order) (n : Node) :
    ∃ run,
      s.runs (before ++ .handle n :: later) = s.runs before ++ run :: (s.after before).runs later ∧
      s.runs (before ++ later) = s.runs before ++ (s.after before).runs later ∧
      (s.after before).controller.Lawful (s.after before).cluster (s.after before).now n run := by
  refine ⟨(s.after before).controller.handle (s.after before).cluster (s.after before).now n,
    ?_, s.runs_append before later, lawful_handle ..⟩
  rw [runs_append]
  rfl

end Session

namespace Troubled

open Drifted

def trouble : GateError := .reported .general "no route" none

def start : Session := ⟨⟨policy, false⟩, ⟨pods, fun _ => .ok (), fun _ => .ok ()⟩, now⟩

/-- No pods can be listed, and a call fails. Then they can, but no node can be written. -/
def before : List Order :=
  [.connect { start.cluster with list := fun _ _ => .error (.gate trouble) }, .handle node,
    .connect { start.cluster with update := fun _ => .error (.gate trouble) }]

/-- The trouble is over. -/
def later : List Order := [.connect start.cluster, .handle node]

end Troubled

/-- The call after the one that could not be read is read, but its write is refused. What refused it
was no failed write by its own account, and comes out as one. -/
theorem Session.handle_lawful_troubled :
    ∃ run r,
      Troubled.start.runs (Troubled.before ++ .handle Drifted.node :: Troubled.later) =
        Troubled.start.runs Troubled.before ++
          run :: (Troubled.start.after Troubled.before).runs Troubled.later ∧
      (reconcile Drifted.pods Drifted.policy Drifted.now Drifted.node).result = .ok r ∧
      r.changed = true ∧
      (∃ asked, OnlyListings asked ∧ run.calls = asked ++ [.update r.node]) ∧
      (∃ e, run.result = .error (.gate e) ∧ e.kind = .persistence) := by
  obtain ⟨run, hruns, _, hlaw⟩ := Session.handle_lawful Troubled.start Troubled.before Troubled.later
    Drifted.node
  obtain ⟨hcalls, hresult⟩ := hlaw.refused _ _ rfl (by decide) rfl rfl
  exact ⟨run, _, hruns, rfl, by decide, hcalls, hresult⟩

end NodeGate
