import NodeGate.Proofs.Isolation

/-!
# Dry runs

A dry run is to say what a run would do. The two part only where a node is to be written, and by then
the result is fixed: if nothing that is written fails, a call ends as its pass does, dry or not
(`result_handle_of_takesWrites`). So the rows, the count of failures and the exit code are those of the
results, and so are the patches that the dry run leaves out.
-/

set_option autoImplicit false

namespace NodeGate

/-! ## What goes to the server -/

namespace Request

/-- Does it write something, a node or an event? -/
def writes : Request → Bool
  | .patchNode .. | .createEvent .. => true
  | _ => false

/-- The name of the node that is patched, and the patch. -/
def patch? : Request → Option (String × Patch)
  | .patchNode name patch => some (name, patch)
  | _ => none

end Request

namespace Run

variable {α : Type}

/-- What goes to the API server, with this time in the events. -/
def requests (stamp : Moment) (r : Run α) : List Request := r.calls.map (Call.request stamp)

theorem patches_requests (stamp : Moment) (r : Run α) :
    (r.requests stamp).filterMap Request.patch? = r.updates.map fun n => (n.name, n.toPatch) := by
  unfold requests updates
  rw [List.filterMap_map, List.map_filterMap]
  congr 1
  funext call
  cases call with
  | _ => rfl

/-- What is written goes to the server in updates and events. -/
theorem writes_eq_false {r : Run α} (hupdates : r.updates = []) (hevents : r.events = [])
    (stamp : Moment) : ∀ request ∈ r.requests stamp, request.writes = false := by
  unfold updates at hupdates
  unfold events at hevents
  rw [List.filterMap_eq_nil_iff] at hupdates hevents
  unfold requests
  rw [List.forall_mem_map]
  intro call hcall
  cases call with
  | update n => cases hupdates _ hcall
  | emit e => cases hevents _ hcall
  | _ => rfl

end Run

/-! ## Calls on a cluster that takes every write -/

/-- What is written to the cluster or reported there does not fail. Listings may. -/
structure Cluster.TakesWrites (cluster : Cluster) : Prop where
  update : ∀ n, cluster.update n = .ok ()
  emit : ∀ e, cluster.emit e = .ok ()

theorem Api.takesWrites_clusterOver {api : Api} (listing : Nat → Api) (stamp : Moment)
    (hpatch : ∀ name patch, api.patch name patch = .ok ())
    (hevent : ∀ object, api.event object = .ok ()) : (api.clusterOver listing stamp).TakesWrites where
  update := fun n => Controller.update_clusterOver_of_ok (hpatch n.name n.toPatch)
  emit := by
    intro e
    show (api.event (.ofEvent e stamp)).mapError _ = _
    rw [hevent]
    rfl

namespace Controller

variable {cluster : Cluster} {c : Controller} {now : Moment} {n : Node}

theorem result_carryOut_of_takesWrites (h : cluster.TakesWrites) (c : Controller) (node : String)
    (r : Result) : (c.carryOut cluster node r).result = .ok () := by
  cases hchanged : r.changed with
  | false =>
    unfold carryOut
    rw [hchanged]
    rfl
  | true =>
    cases hdry : c.dryRun with
    | true => exact result_carryOut_of_dryRun node hdry
    | false =>
      rw [result_carryOut_of_ok node hchanged hdry (h.update r.node), result_report, h.emit]

/-- **A call ends as its pass does,** whether it writes or not. -/
theorem result_handle_of_takesWrites (h : cluster.TakesWrites) (c : Controller) (now : Moment)
    (n : Node) :
    (c.handle cluster now n).result =
      (reconcile cluster.list c.policy now n).result.mapError (unresolved n.name) := by
  cases hpass : (reconcile cluster.list c.policy now n).result with
  | error f => exact (handle_of_error hpass).2
  | ok r =>
    rw [result_handle hpass, result_carryOut_of_takesWrites h]
    rfl

/-- What a call writes is read off its result. -/
theorem updates_handle_of_takesWrites (h : cluster.TakesWrites) :
    (c.handle cluster now n).updates =
      ((c.handle cluster now n).result.toOption.toList.filter fun r => r.changed && !c.dryRun).map
        Result.node := by
  rw [result_handle_of_takesWrites h]
  cases hpass : (reconcile cluster.list c.policy now n).result with
  | error f =>
    rw [updates_handle_of_error hpass]
    rfl
  | ok r =>
    rw [updates_handle hpass]
    cases hchanged : r.changed with
    | false => simp [Except.mapError, Except.toOption, hchanged]
    | true =>
      cases hdry : c.dryRun with
      | false => simp [Except.mapError, Except.toOption, hchanged]
      | true => simp [Except.mapError, Except.toOption]

theorem events_handle_of_dryRun (h : c.dryRun = true) : (c.handle cluster now n).events = [] := by
  have hasks := (asks_reconcile cluster.list c.policy now n).events_eq_nil
  unfold Run.events at hasks ⊢
  cases hpass : (reconcile cluster.list c.policy now n).result with
  | error f => rw [(handle_of_error hpass).1, hasks]
  | ok r =>
    have hwritten : c.written cluster r = [] := if_neg (by simp [h])
    rw [calls_handle hpass, hwritten, List.append_nil, hasks]

end Controller

/-! ## What comes of the nodes -/

namespace Report

/-- The rows of all nodes, or what ends the command before there is a table. -/
def rowsOf (ends : List (Node × Except Failure Result)) : Except Failure (List Row) :=
  ends.mapM fun p => rowOf p.1 p.2

/-- The results that a command gets to, in order. -/
def resultsOf : List (Node × Except Failure Result) → List Result
  | [] => []
  | (_, .ok r) :: rest => r :: resultsOf rest
  | (_, .error (.gate _)) :: rest => resultsOf rest
  | (_, .error _) :: _ => []

section

variable {n : Node} {result : Except Failure Result}

/-- A node that gets a row adds its result, if it has one, and the command goes on. -/
theorem resultsOf_cons_of_ok {row : Row} (h : rowOf n result = .ok row)
    (rest : List (Node × Except Failure Result)) :
    resultsOf ((n, result) :: rest) = result.toOption.toList ++ resultsOf rest := by
  rcases result with f | r
  · cases f with
    | gate e => rfl
    | invalid e => cases h
    | fault f => cases h
    | unreadable u => cases h
  · rfl

theorem resultsOf_cons_of_error {f : Failure} (h : rowOf n result = .error f)
    (rest : List (Node × Except Failure Result)) :
    resultsOf ((n, result) :: rest) = [] ∧ result.toOption.toList = [] := by
  rcases result with g | r
  · cases g with
    | gate e => cases h
    | invalid e => exact ⟨rfl, rfl⟩
    | fault f => exact ⟨rfl, rfl⟩
    | unreadable u => exact ⟨rfl, rfl⟩
  · cases h

end

/-- One if a node failed. -/
def exitCode (rows : List Row) : Nat := if rows.countP Row.failed = 0 then 0 else 1

/-- What the command shows: the table, and the number of nodes that failed if any did. -/
def shown (dryRun : Bool) : Except Failure (List Row) → List Printed
  | .ok rows => Surroundings.summary dryRun rows (rows.countP Row.failed)
  | .error _ => []

end Report

namespace Surroundings

open Report Controller

section Loop

variable (c : Controller) (cluster : Nat → Cluster) (clock : Nat → Moment)

/-- The numbered nodes with what comes of them. -/
def endsOf (ps : List (Node × Nat)) : List (Node × Except Failure Result) :=
  ps.map fun p => (p.1, (c.handle (cluster p.2) (clock p.2) p.1).result)

/-- Handles the numbered nodes and makes their rows. -/
def reconcileEach (ps : List (Node × Nat)) : Run (List Row) :=
  ps.mapM fun p => reconcileNode c (cluster p.2) (clock p.2) p.1

theorem result_reconcileEach (ps : List (Node × Nat)) :
    (reconcileEach c cluster clock ps).result = rowsOf (endsOf c cluster clock ps) := by
  unfold reconcileEach rowsOf endsOf
  rw [Run.result_mapM, List.mapM_map]
  simp only [reconcileNode_eq]
  rfl

theorem updates_reconcileEach (h : ∀ i, (cluster i).TakesWrites) (ps : List (Node × Nat)) :
    (reconcileEach c cluster clock ps).updates =
      ((resultsOf (endsOf c cluster clock ps)).filter fun r => r.changed && !c.dryRun).map
        Result.node := by
  unfold reconcileEach
  induction ps with
  | nil => rfl
  | cons p ps ih =>
    obtain ⟨n, i⟩ := p
    have hupdates : (reconcileNode c (cluster i) (clock i) n).updates =
        (c.handle (cluster i) (clock i) n).updates := by
      rw [reconcileNode_eq]
      exact congrArg (List.filterMap _) (calls_told (c.handle (cluster i) (clock i) n) n)
    have hrow : (reconcileNode c (cluster i) (clock i) n).result =
        rowOf n (c.handle (cluster i) (clock i) n).result := by
      rw [reconcileNode_eq]
    rw [updates_handle_of_takesWrites (h i)] at hupdates
    unfold endsOf at ih ⊢
    rw [List.mapM_cons, List.map_cons]
    cases hends : rowOf n (c.handle (cluster i) (clock i) n).result with
    | ok row =>
      rw [hends] at hrow
      rw [Run.updates_bind_of_ok hrow, Run.updates_bind_of_quiet fun _ => rfl, ih, hupdates,
        resultsOf_cons_of_ok hends, List.filter_append, List.map_append]
    | error f =>
      -- what is no error of the gate ends the loop, and its call has written nothing
      rw [hends] at hrow
      obtain ⟨hresults, hnone⟩ := resultsOf_cons_of_error hends (ps.map fun p =>
        (p.1, (c.handle (cluster p.2) (clock p.2) p.1).result))
      rw [hnone] at hupdates
      rw [Run.updates_bind_of_error hrow, hupdates, hresults]

theorem events_reconcileEach (h : c.dryRun = true) (ps : List (Node × Nat)) :
    (reconcileEach c cluster clock ps).events = [] := by
  refine Run.events_eq_nil_iff.2 (Run.forall_mem_mapM (fun p => ?_) ps)
  refine Run.events_eq_nil_iff.1 ?_
  rw [reconcileNode_eq]
  exact (congrArg (List.filterMap _) (calls_told _ p.1)).trans (events_handle_of_dryRun h)

theorem silent_reconcileEach (ps : List (Node × Nat)) :
    Silent (reconcileEach c cluster clock ps).trace := by
  refine Run.forall_mem_mapM (fun p => ?_) ps
  rw [reconcileNode_eq]
  exact silent_told p.1

/-- The table comes when all rows are there. -/
theorem reconcileInOrder_eq (nodes : List Node) :
    reconcileInOrder cluster clock c nodes =
      reconcileEach c cluster clock nodes.zipIdx >>= fun rows =>
        ⟨(summary c.dryRun rows (rows.countP Row.failed)).map .print, .ok (exitCode rows)⟩ := by
  unfold reconcileInOrder reconcileEach summary exitCode
  congr 1
  funext rows
  dsimp only
  split
  · rfl
  · rfl

end Loop

/-! ## The command -/

section Gathering

variable {s : Surroundings} {c : Common}

/-- Whether a run is to be dry only goes into the controller. -/
theorem connect_dryRun (dryRun : Bool) :
    s.connect { c with dryRun } =
      s.connect c >>= fun controller => pure { controller with dryRun } := by
  unfold connect
  simp only [bind_assoc, pure_bind]

/-- The same nodes are gathered for a dry run. -/
theorem gather_dryRun (name : Option String) (all dryRun : Bool) :
    s.gather name all { c with dryRun } =
      s.gather name all c >>= fun p => pure ({ p.1 with dryRun }, p.2) := by
  unfold gather
  rw [connect_dryRun]
  cases all with
  | false => simp only [bind_assoc, pure_bind, Bool.false_eq_true, if_false]
  | true => simp only [bind_assoc, pure_bind, if_true]

/-- Settings are looked for, and nodes are read. -/
theorem gather_steps {P : Step → Prop} (hlook : ∀ l, P (.look l)) (hlog : ∀ record, P (.log record))
    (hlist : P (.call .listNodes)) (hget : ∀ name, P (.call (.getNode name))) (name : Option String)
    (all : Bool) : ∀ step ∈ (s.gather name all c).trace, P step := by
  have hask : ∀ {ask : Call} (answer : Except Failure (List Node)), P (.call ask) →
      ∀ step ∈ (Run.ask ask answer).trace, P step := by
    intro ask answer hP step hstep
    rw [List.mem_singleton.1 hstep]
    exact hP
  refine Run.forall_mem_bind (connect_steps hlook hlog s c) fun controller => ?_
  cases all with
  | false => exact Run.forall_mem_bind (hask _ (hget _)) fun _ => List.forall_mem_nil _
  | true => exact Run.forall_mem_bind (hask _ hlist) fun _ => List.forall_mem_nil _

theorem silent_gather (name : Option String) (all : Bool) : Silent (s.gather name all c).trace :=
  gather_steps (P := fun step => step.silent = true) (fun _ => rfl) (fun _ => rfl) rfl (fun _ => rfl)
    name all

theorem updates_gather (name : Option String) (all : Bool) : (s.gather name all c).updates = [] :=
  Run.updates_eq_nil_iff.2 (gather_steps (by simp) (by simp) (by simp) (by simp) name all)

theorem events_gather (name : Option String) (all : Bool) : (s.gather name all c).events = [] :=
  Run.events_eq_nil_iff.2 (gather_steps (by simp) (by simp) (by simp) (by simp) name all)

variable {cluster : Nat → Cluster} {clock : Nat → Moment} {name : Option String} {all : Bool}

/-- If there is nothing to reconcile, dry runs are like all others. -/
theorem reconcileOver_of_not_gathered {f : Failure} (hgather : (s.gather name all c).result = .error f)
    (dryRun : Bool) :
    s.reconcileOver cluster clock name all { c with dryRun } =
      s.reconcileOver cluster clock name all c := by
  unfold reconcileOver
  rw [gather_dryRun]
  cases hrun : s.gather name all c with
  | mk trace result =>
    rw [hrun] at hgather
    cases hgather
    rfl

end Gathering

/-! ## Both runs of a command -/

section

variable {s : Surroundings} {cluster : Nat → Cluster} {clock : Nat → Moment} {name : Option String}
  {all : Bool} {c : Common} {controller : Controller} {nodes : List Node}

/-- What comes of the nodes in a dry run. -/
def foreseen (cluster : Nat → Cluster) (clock : Nat → Moment) (controller : Controller)
    (nodes : List Node) : List (Node × Except Failure Result) :=
  endsOf { controller with dryRun := true } cluster clock (inOrder nodes).zipIdx

theorem endsOf_eq_foreseen (h : ∀ i, (cluster i).TakesWrites) (clock : Nat → Moment)
    (controller : Controller) (nodes : List Node) (dryRun : Bool) :
    endsOf { controller with dryRun } cluster clock (inOrder nodes).zipIdx =
      foreseen cluster clock controller nodes := by
  unfold foreseen endsOf
  simp only [Controller.result_handle_of_takesWrites (h _)]

theorem result_gather_dryRun (hgather : (s.gather name all c).result = .ok (controller, nodes))
    (dryRun : Bool) :
    (s.gather name all { c with dryRun }).result = .ok ({ controller with dryRun }, nodes) := by
  rw [gather_dryRun, Run.bind_of_ok hgather]
  rfl

variable (cluster clock)
variable (hasked : ((name.getD "").isEmpty && !all) = false)
  (hgather : (s.gather name all c).result = .ok (controller, nodes))
include hasked hgather

theorem printed_reconcileOver :
    (s.reconcileOver cluster clock name all c).printed =
      shown controller.dryRun (rowsOf (endsOf controller cluster clock (inOrder nodes).zipIdx)) := by
  have hrows := result_reconcileEach controller cluster clock (inOrder nodes).zipIdx
  have hsilent := silent_reconcileEach controller cluster clock (inOrder nodes).zipIdx
  rw [reconcileOver_of_gathered hasked hgather, Run.bind_eq_after hgather,
    (silent_gather name all).printed_after, reconcileInOrder_eq, ← hrows]
  cases hends : (reconcileEach controller cluster clock (inOrder nodes).zipIdx).result with
  | ok rows =>
    rw [Run.bind_eq_after hends, hsilent.printed_after, Run.printed_map_print]
    rfl
  | error f =>
    -- there is no table, and what was done so far shows nothing
    rw [Run.bind_of_error hends]
    have hnone := hsilent.printed_after (Run.fail f : Run Nat)
    unfold Run.after Run.fail at hnone
    rwa [List.append_nil] at hnone

theorem result_reconcileOver :
    (s.reconcileOver cluster clock name all c).result =
      (rowsOf (endsOf controller cluster clock (inOrder nodes).zipIdx)).map exitCode := by
  rw [reconcileOver_of_gathered hasked hgather, Run.bind_of_ok hgather]
  show (reconcileInOrder cluster clock controller (inOrder nodes)).result = _
  rw [reconcileInOrder_eq, Run.result_bind, result_reconcileEach]
  rfl

theorem updates_reconcileOver (h : ∀ i, (cluster i).TakesWrites) :
    (s.reconcileOver cluster clock name all c).updates =
      ((resultsOf (endsOf controller cluster clock (inOrder nodes).zipIdx)).filter fun r =>
        r.changed && !controller.dryRun).map Result.node := by
  rw [reconcileOver_of_gathered hasked hgather, Run.updates_bind_of_ok hgather, updates_gather,
    List.nil_append, reconcileInOrder_eq, Run.updates_bind_of_quiet fun rows => Run.calls_map_print _ _,
    updates_reconcileEach _ _ _ h]

theorem events_reconcileOver (hdry : controller.dryRun = true) :
    (s.reconcileOver cluster clock name all c).events = [] := by
  rw [reconcileOver_of_gathered hasked hgather, Run.bind_of_ok hgather, Run.events_eq_nil_iff]
  refine List.forall_mem_append.2 ⟨Run.events_eq_nil_iff.1 (events_gather name all), ?_⟩
  rw [reconcileInOrder_eq]
  refine Run.forall_mem_bind (Run.events_eq_nil_iff.1 ?_) fun rows => ?_
  · exact events_reconcileEach _ _ _ hdry _
  · simp

end

end Surroundings

/-! ## What a dry run foretells -/

/-- What comes of the nodes tells both runs of the command, the dry one and the other. They show the
same table, up to its title, and the same number of failures, and have the same exit code. Nothing is
written in the dry run; what is written in the other are the results with changes, in order. -/
structure Foretells (ends : List (Node × Except Failure Result)) (run : Bool → Run Nat) : Prop where
  printed : ∀ dryRun, (run dryRun).printed = Report.shown dryRun (Report.rowsOf ends)
  result : ∀ dryRun, (run dryRun).result = (Report.rowsOf ends).map Report.exitCode
  silent : ∀ stamp, ∀ request ∈ (run true).requests stamp, request.writes = false
  patches : ∀ stamp, ((run false).requests stamp).filterMap Request.patch? =
    ((Report.resultsOf ends).filter Result.changed).map fun r => (r.node.name, r.node.toPatch)

/-- **A dry run is faithful and silent.** Let every write and every report succeed, while listings of
pods may fail, each as it likes. Then a call ends alike with and without writing. A command that
reconciles the gathered nodes, over whatever cluster there is for each of them, shows the same rows and
failures and has the same exit code whether it is dry or not. The dry run writes nothing, and the other
patches exactly the results with changes that come of the nodes in the dry one, in their order. If no
nodes could be gathered the runs are the same. The command of the program is the case of one cluster
for all nodes. -/
theorem dry_run_foretells (s : Surroundings) (cluster : Nat → Cluster) (clock : Nat → Moment)
    (name : Option String) (all : Bool) (c : Common) (htakes : ∀ i, (cluster i).TakesWrites) :
    (∀ (policy : Policy) (i : Nat) (now : Moment) (n : Node),
      (Controller.handle ⟨policy, true⟩ (cluster i) now n).result =
        (Controller.handle ⟨policy, false⟩ (cluster i) now n).result) ∧
    (∀ controller nodes, ((name.getD "").isEmpty && !all) = false →
      (s.gather name all c).result = .ok (controller, nodes) →
      Foretells (Surroundings.foreseen cluster clock controller nodes) fun dryRun =>
        s.reconcileOver cluster clock name all { c with dryRun }) ∧
    ∀ f, (s.gather name all c).result = .error f → ∀ dryRun,
      s.reconcileOver cluster clock name all { c with dryRun } =
        s.reconcileOver cluster clock name all c := by
  refine ⟨?handled, ?gathered, fun f hgather => Surroundings.reconcileOver_of_not_gathered hgather⟩
  case handled =>
    intro policy i now n
    rw [Controller.result_handle_of_takesWrites (htakes i),
      Controller.result_handle_of_takesWrites (htakes i)]
  case gathered =>
    intro controller nodes hasked hgather
    -- both runs have the nodes and the policy, and differ in nothing but the switch
    have hgather' := Surroundings.result_gather_dryRun hgather
    have hforeseen := Surroundings.endsOf_eq_foreseen htakes clock controller nodes
    refine ⟨fun dryRun => ?_, fun dryRun => ?_, ?_, fun stamp => ?_⟩
    · rw [← hforeseen dryRun]
      exact Surroundings.printed_reconcileOver cluster clock hasked (hgather' dryRun)
    · rw [← hforeseen dryRun]
      exact Surroundings.result_reconcileOver cluster clock hasked (hgather' dryRun)
    · have hupdates := Surroundings.updates_reconcileOver cluster clock hasked (hgather' true) htakes
      refine Run.writes_eq_false (hupdates.trans ?_)
        (Surroundings.events_reconcileOver cluster clock hasked (hgather' true) rfl)
      simp
    · rw [Run.patches_requests,
        Surroundings.updates_reconcileOver cluster clock hasked (hgather' false) htakes,
        hforeseen, List.map_map]
      simp [Function.comp_def]

namespace Refused

open Outage

def api : Api :=
  { calm with lists := [.ok (["worker-3", "worker-1", "worker-2"].map Shelf.object)] }

def nodes : List Node := ["worker-3", "worker-1", "worker-2"].map Shelf.node

/-- For the second node pods cannot be listed. -/
def cluster (i : Nat) : Cluster := api.clusterOver (fun _ => listing i) Drifted.now

/-- What is done for all nodes, dry or not. -/
def run (dryRun : Bool) : Run Nat :=
  (Shelf.withApi api).reconcileOver cluster (fun _ => Drifted.now) none true
    { Shelf.options with dryRun }

theorem inOrder_nodes :
    Surroundings.inOrder nodes = ["worker-1", "worker-2", "worker-3"].map Shelf.node := by
  have hperm : nodes.Perm (["worker-1", "worker-2", "worker-3"].map Shelf.node) := by decide
  rw [Surroundings.inOrder_eq_of_perm (by decide) hperm]
  exact List.mergeSort_of_pairwise (by decide)

end Refused

/-- The node whose pods cannot be listed makes the exit code in both runs. The other two are patched, in
the order of their names, and that only in the run that is not dry. -/
theorem dry_run_foretells_refused :
    (∀ i, (Refused.cluster i).TakesWrites) ∧
    ((Shelf.withApi Refused.api).gather none true Shelf.options).result =
      .ok (Shelf.controller, Refused.nodes) ∧
    (∀ dryRun, (Refused.run dryRun).result = .ok 1) ∧
    (∀ stamp, ∀ request ∈ (Refused.run true).requests stamp, request.writes = false) ∧
    ∀ stamp, (((Refused.run false).requests stamp).filterMap Request.patch?).map Prod.fst =
      ["worker-1", "worker-3"] := by
  have htakes : ∀ i, (Refused.cluster i).TakesWrites := fun i =>
    Api.takesWrites_clusterOver _ _ (fun _ _ => rfl) fun _ => rfl
  have hgather : ((Shelf.withApi Refused.api).gather none true Shelf.options).result =
      .ok (Shelf.controller, Refused.nodes) := by
    unfold Surroundings.gather
    rw [Run.bind_of_ok (Shelf.connect_withApi Refused.api)]
    rfl
  obtain ⟨-, hforetells, -⟩ := dry_run_foretells (Shelf.withApi Refused.api) Refused.cluster
    (fun _ => Drifted.now) none true Shelf.options htakes
  have hruns := hforetells _ _ rfl hgather
  unfold Surroundings.foreseen at hruns
  rw [Refused.inOrder_nodes] at hruns
  refine ⟨htakes, hgather, fun dryRun => ?_, hruns.silent, fun stamp => ?_⟩
  · exact (hruns.result dryRun).trans (by decide)
  · exact (congrArg (List.map Prod.fst) (hruns.patches stamp)).trans (by decide)

end NodeGate
