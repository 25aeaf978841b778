import NodeGate.Proofs.Visits

/-!
# Nodes by themselves

A command that reconciles all nodes does to each what it would do to that node alone: the same requests,
the same log lines, the same row. A node that fails is counted, and no other is affected. The nodes are
taken in the order of their names, so nothing that is done or shown depends on how they were listed.

`Reconciles` says what a command does for a list of nodes, in terms of what comes of each by itself
(`alone`). It holds of the command for all nodes and of the one for a single node, and
`reconcile_all_isolated` puts the two side by side.
-/

set_option autoImplicit false

namespace NodeGate
namespace Surroundings

/-! ## The order of the nodes -/

section Order

variable {nodes nodes' : List Node}

theorem inOrder_perm (nodes : List Node) : (inOrder nodes).Perm nodes := List.mergeSort_perm _ _

/-- Names that are all different are in strict order. -/
theorem pairwise_inOrder (h : (nodes.map Node.name).Nodup) :
    (inOrder nodes).Pairwise fun a b => a.name < b.name := by
  have hsorted : (inOrder nodes).Pairwise fun a b => a.name ≤ b.name := by
    have hpairwise : (inOrder nodes).Pairwise fun a b => decide (a.name ≤ b.name) = true := by
      refine List.pairwise_mergeSort (fun a b c hab hbc => ?_) (fun a b => ?_) nodes
      · exact decide_eq_true (String.le_trans (of_decide_eq_true hab) (of_decide_eq_true hbc))
      · simpa using String.le_total a.name b.name
    exact hpairwise.imp fun hab => of_decide_eq_true hab
  have hnodup : ((inOrder nodes).map Node.name).Nodup := ((inOrder_perm nodes).map _).nodup_iff.2 h
  refine hsorted.imp₂ (fun a b hle hne => ?_) (List.pairwise_map.1 hnodup)
  exact String.not_le.1 fun hge => hne (String.le_antisymm hle hge)

theorem inOrder_eq_of_perm (h : (nodes.map Node.name).Nodup) (hperm : nodes'.Perm nodes) :
    inOrder nodes' = inOrder nodes := by
  have h' : (nodes'.map Node.name).Nodup := (hperm.map _).nodup_iff.2 h
  refine List.Perm.eq_of_pairwise (fun a b _ _ hab hba => ?_) (pairwise_inOrder h')
    (pairwise_inOrder h) ((inOrder_perm nodes').trans (hperm.trans (inOrder_perm nodes).symm))
  exact absurd (String.lt_trans hab hba) (String.lt_irrefl _)

end Order

/-! ## What a command does for its nodes -/

/-- The nodes reconciled over the server of the program. -/
def reconcileNodes (s : Surroundings) (controller : Controller) (nodes : List Node) : Run Nat :=
  reconcileInOrder (fun _ => s.cluster) (fun _ => s.clock) controller (inOrder nodes)

/-- The node in the hands of the controller, with nothing before it. -/
def alone (s : Surroundings) (controller : Controller) (n : Node) : Run Result :=
  controller.handle s.cluster s.clock n

/-- The table with its rows, and how many nodes failed if any did. -/
def summary (dryRun : Bool) (rows : List Report.Row) (failures : Nat) : List Printed :=
  .table (if dryRun then "Dry Run" else "Reconciled Nodes")
      ["Node", "In Scope", "Added", "Removed", "Taintless"] (rows.map Report.Row.cells) ::
    if failures = 0 then []
    else [.markup s!"\n[red]✗ {failures} node(s) failed to reconcile[/red]"]

/-- The nodes that fail by themselves. -/
def failures (s : Surroundings) (controller : Controller) (nodes : List Node) : Nat :=
  nodes.countP fun n => !(s.alone controller n).result.isOk

/-- The run is that of a command which asks for the nodes with this call and takes them in this order,
where `outcome` is what comes of each of them alone. -/
structure Reconciles (s : Surroundings) (c : Common) (controller : Controller)
    (outcome : Node → Except GateError Result) (ask : Call) (nodes : List Node) (run : Run Nat) :
    Prop where
  trace : run.trace = (s.connect c).trace ++ .call ask ::
    (nodes.flatMap fun n => told (s.alone controller n) n) ++
    (summary controller.dryRun (nodes.map fun n => ⟨n.name, outcome n⟩)
      (s.failures controller nodes)).map .print
  calls : run.calls = ask :: nodes.flatMap fun n => (s.alone controller n).calls
  printed : run.printed = summary controller.dryRun (nodes.map fun n => ⟨n.name, outcome n⟩)
    (s.failures controller nodes)
  result : run.result = .ok (if s.failures controller nodes = 0 then 0 else 1)

section

variable {s : Surroundings} {controller : Controller} {outcome : Node → Except GateError Result}

theorem failed_eq {n : Node} (h : (s.alone controller n).EndsWith (outcome n)) :
    Report.Row.failed ⟨n.name, outcome n⟩ = !(s.alone controller n).result.isOk := by
  unfold Run.EndsWith at h
  rw [h]
  cases hn : outcome n with
  | ok r => simp [Report.Row.failed, Except.mapError, Except.isOk, Except.toBool]
  | error e => simp [Report.Row.failed, Except.mapError, Except.isOk, Except.toBool]

theorem reconcileNodes_eq (h : ∀ n, (s.alone controller n).EndsWith (outcome n)) (nodes : List Node) :
    s.reconcileNodes controller nodes =
      .after ((inOrder nodes).flatMap fun n => told (s.alone controller n) n)
        ⟨(summary controller.dryRun ((inOrder nodes).map fun n => ⟨n.name, outcome n⟩)
            (s.failures controller (inOrder nodes))).map .print,
          .ok (if s.failures controller (inOrder nodes) = 0 then 0 else 1)⟩ := by
  -- no call ends the loop, so there are as many rows as nodes
  have hrows : (inOrder nodes).zipIdx.mapM
        (fun p => reconcileNode controller s.cluster s.clock p.1) =
      ⟨(inOrder nodes).flatMap fun n => told (s.alone controller n) n,
        .ok ((inOrder nodes).map fun n => ⟨n.name, outcome n⟩)⟩ := by
    have hrow := fun n => reconcileNode_of_endsWith (h n)
    rw [Run.mapM_zipIdx, Run.mapM_of_ok fun n _ => congrArg Run.result (hrow n)]
    simp only [hrow]
    rfl
  have hfailures : ((inOrder nodes).map fun n => (⟨n.name, outcome n⟩ : Report.Row)).countP
      Report.Row.failed = s.failures controller (inOrder nodes) := by
    rw [List.countP_map]
    exact List.countP_congr fun n _ => by simp [failed_eq (h n)]
  unfold reconcileNodes reconcileInOrder
  rw [hrows, Run.bind_eq_after rfl]
  congr 1
  simp only [hfailures, summary]
  split
  · rfl
  · rfl

/-- A command that connects, asks for the nodes and reconciles them. -/
theorem reconciles_of_eq {c : Common} {ask : Call} {nodes : List Node} {run : Run Nat}
    (h : ∀ n, (s.alone controller n).EndsWith (outcome n))
    (hrun : run = .after ((s.connect c).trace ++ [.call ask]) (s.reconcileNodes controller nodes)) :
    s.Reconciles c controller outcome ask (inOrder nodes) run := by
  rw [reconcileNodes_eq h] at hrun
  have hsilent : Silent ((s.connect c).trace ++ [.call ask] ++
      (inOrder nodes).flatMap fun n => told (s.alone controller n) n) :=
    ((s.silent_connect c).append (.cons rfl .nil)).append (.flatMap fun n => silent_told n)
  rw [← Run.after_append] at hrun
  subst hrun
  refine ⟨?trace, ?calls, ?printed, rfl⟩
  case trace => simp [Run.after]
  case printed => exact (hsilent.printed_after _).trans (Run.printed_map_print _ _)
  case calls =>
    have hconnect := s.calls_connect c
    have htold := fun n => calls_told (s.alone controller n) n
    unfold Run.calls at hconnect htold ⊢
    simp only [Run.after, List.filterMap_append, List.filterMap_flatMap, hconnect, htold]
    simp

end

/-! ## The commands -/

section

variable {s : Surroundings} {c : Common} {controller : Controller}

/-- Once the nodes are there, they are reconciled in order. -/
theorem reconcileOver_of_gathered {cluster : Nat → Cluster} {clock : Nat → Moment}
    {name : Option String} {all : Bool} {nodes : List Node}
    (hasked : ((name.getD "").isEmpty && !all) = false)
    (hgather : (s.gather name all c).result = .ok (controller, nodes)) :
    s.reconcileOver cluster clock name all c =
      s.gather name all c >>= fun p => reconcileInOrder cluster clock p.1 (inOrder p.2) := by
  unfold reconcileOver
  rw [hasked]
  cases hrun : s.gather name all c with
  | mk trace result =>
    rw [hrun] at hgather
    cases hgather
    rfl

theorem reconcile_of_gathered {node : Option String} {all : Bool} {steps : List Step}
    {nodes : List Node} (hasked : ((node.getD "").isEmpty && !all) = false)
    (hgather : s.gather node all c = ⟨steps, .ok (controller, nodes)⟩) :
    s.reconcile node all c = .after steps (s.reconcileNodes controller nodes) := by
  unfold reconcile
  rw [reconcileOver_of_gathered hasked (congrArg Run.result hgather), hgather]
  rfl

theorem reconcile_all_eq {nodes : List Node} (name : Option String)
    (hconnect : (s.connect c).result = .ok controller) (hlisted : s.api.listNodes = .ok nodes) :
    (Command.reconcile name true c).execute s =
      .after ((s.connect c).trace ++ [.call .listNodes]) (s.reconcileNodes controller nodes) := by
  refine reconcile_of_gathered (Bool.and_false _) ?_
  unfold gather
  rw [Run.bind_eq_after hconnect, hlisted]
  rfl

theorem reconcile_single_eq {n : Node} (hconnect : (s.connect c).result = .ok controller)
    (hname : n.name ≠ "") (hread : s.api.getNode n.name = .ok n) :
    (Command.reconcile (some n.name) false c).execute s =
      .after ((s.connect c).trace ++ [.call (.getNode n.name)]) (s.reconcileNodes controller [n]) := by
  refine reconcile_of_gathered (by simp [hname]) ?_
  unfold gather
  rw [Run.bind_eq_after hconnect]
  simp only [Option.getD_some, hread]
  rfl

end

end Surroundings

/-- **Nodes are reconciled as if each were alone, and in the order of their names.** Over a server whose
requests succeed or fail, each as it likes but always the same, the nodes are handled in the order of
their names, each once and as it would be by itself: there is one row for each in the table and all
requests are those of the calls alone. The number of failures is that of the nodes that fail alone, and
the exit code says whether there are any. The command for a single node does for it what was done among
the others, and the whole run is the same however the nodes are listed. -/
theorem reconcile_all_isolated (s : Surroundings) (name : Option String) (c : Common)
    (controller : Controller) (nodes : List Node) (hconnect : (s.connect c).result = .ok controller)
    (hlisted : s.api.listNodes = .ok nodes) (hnames : (nodes.map Node.name).Nodup)
    (hserver : Scripted s.api fun _ => s.api) :
    ∃ (sorted : List Node) (outcome : Node → Except GateError Result),
      sorted.Perm nodes ∧ (sorted.Pairwise fun a b => a.name < b.name) ∧
      (∀ n, (s.alone controller n).EndsWith (outcome n)) ∧
      s.Reconciles c controller outcome .listNodes sorted ((Command.reconcile name true c).execute s) ∧
      (∀ n, n.name ≠ "" → s.api.getNode n.name = .ok n →
        s.Reconciles c controller outcome (.getNode n.name) [n]
          ((Command.reconcile (some n.name) false c).execute s)) ∧
      ∀ lists nodes', ({ s.api with lists } : Api).listNodes = .ok nodes' → nodes'.Perm nodes →
        (Command.reconcile name true c).execute { s with api := { s.api with lists } } =
          (Command.reconcile name true c).execute s := by
  have hreported : ∀ n, (s.alone controller n).Reported :=
    Controller.reported_handle hserver controller s.clock s.clock
  choose outcome houtcome using hreported
  refine ⟨Surroundings.inOrder nodes, outcome, Surroundings.inOrder_perm nodes,
    Surroundings.pairwise_inOrder hnames, houtcome, ?all, ?single, ?perm⟩
  case all =>
    exact Surroundings.reconciles_of_eq houtcome (Surroundings.reconcile_all_eq name hconnect hlisted)
  case single =>
    intro n hname hread
    have hself : Surroundings.inOrder [n] = [n] := List.mergeSort_singleton _
    rw [← hself]
    exact Surroundings.reconciles_of_eq houtcome (Surroundings.reconcile_single_eq hconnect hname hread)
  case perm =>
    intro lists nodes' hlisted' hperm
    have hrelisted := Surroundings.reconcile_all_eq (s := { s with api := { s.api with lists } }) name
      hconnect hlisted'
    rw [hrelisted, Surroundings.reconcile_all_eq name hconnect hlisted]
    unfold Surroundings.reconcileNodes
    rw [Surroundings.inOrder_eq_of_perm hnames hperm]
    -- neither the connection nor the cluster has to do with the listings
    rfl

namespace Mixed

open Outage

/-- One node cannot be written, and no event arrives. -/
def api : Api :=
  { calm with
    lists := [.ok (["worker-3", "worker-1", "worker-2"].map Shelf.object)]
    read := fun name => .ok (Shelf.object name)
    patch := fun name _ => if name = "worker-2" then failed forbidden else .ok ()
    event := fun _ => failed reset }

def nodes : List Node := ["worker-3", "worker-1", "worker-2"].map Shelf.node

theorem scripted : Scripted api fun _ => api where
  pods := fun _ _ => .inl ⟨[], rfl, by simp⟩
  patch := by
    intro name patch
    by_cases h : name = "worker-2"
    · exact .inr ⟨forbidden, if_pos h⟩
    · exact .inl (if_neg h)
  event := fun _ => .inr ⟨reset, rfl⟩

end Mixed

/-- The node that cannot be written makes the exit code for all nodes, and that of its own command. -/
theorem reconcile_all_isolated_mixed :
    ((Shelf.withApi Mixed.api).connect Shelf.options).result = .ok Shelf.controller ∧
    Mixed.api.listNodes = .ok Mixed.nodes ∧ (Mixed.nodes.map Node.name).Nodup ∧
    (Scripted Mixed.api fun _ => Mixed.api) ∧
    ((Command.reconcile none true Shelf.options).execute (Shelf.withApi Mixed.api)).result = .ok 1 ∧
    ((Command.reconcile (some "worker-1") false Shelf.options).execute
      (Shelf.withApi Mixed.api)).result = .ok 0 ∧
    ((Command.reconcile (some "worker-2") false Shelf.options).execute
      (Shelf.withApi Mixed.api)).result = .ok 1 ∧
    (Command.reconcile none true Shelf.options).execute (Shelf.withApi
        { Mixed.api with lists := [.ok (["worker-1", "worker-2", "worker-3"].map Shelf.object)] }) =
      (Command.reconcile none true Shelf.options).execute (Shelf.withApi Mixed.api) := by
  have hconnect := Shelf.connect_withApi Mixed.api
  have hlisted : Mixed.api.listNodes = .ok Mixed.nodes := rfl
  have hnames : (Mixed.nodes.map Node.name).Nodup := by decide
  obtain ⟨sorted, _, hperm, _, _, hall, hsingle, hsame⟩ := reconcile_all_isolated
    (Shelf.withApi Mixed.api) none Shelf.options _ _ hconnect hlisted hnames Mixed.scripted
  have hfailures : (Shelf.withApi Mixed.api).failures Shelf.controller sorted = 1 :=
    (hperm.countP_eq _).trans (by decide)
  refine ⟨hconnect, hlisted, hnames, Mixed.scripted, ?_, ?_, ?_, ?_⟩
  · rw [hall.result, hfailures]
    rfl
  · exact (hsingle (Shelf.node "worker-1") (by decide) rfl).result
  · exact (hsingle (Shelf.node "worker-2") (by decide) rfl).result
  · exact hsame _ _ rfl (by decide)

end NodeGate
