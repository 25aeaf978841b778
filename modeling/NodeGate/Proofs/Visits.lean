import NodeGate.Command.Execute
import NodeGate.Proofs.Containment
import NodeGate.Proofs.PolicyFiles

/-!
# Nodes in the hands of a command

A command hands one node after the other to its controller. If a call raises, the command says so in
the log and goes on, so what a node leaves behind is known from its own call alone: `told` are the
steps, for the commands that show a row (`reconcileNode_eq`) and for those that show none
(`handleNode_of_reported`).

A controller neither prints nor rests, and connecting does not either. What is on the console and how
long a command rests is therefore its own doing.
-/

set_option autoImplicit false

namespace NodeGate

/-! ## Runs that do not speak for themselves -/

/-- The step is one that the console does not show, and takes no time by itself. -/
def Step.silent : Step → Bool
  | .print _ | .sleep _ => false
  | .log _ | .call _ | .look _ => true

def Silent (steps : List Step) : Prop := ∀ s ∈ steps, s.silent = true

namespace Silent

variable {α : Type} {steps rest : List Step}

theorem nil : Silent [] := List.forall_mem_nil _

theorem cons {s : Step} (hs : s.silent = true) (h : Silent steps) : Silent (s :: steps) :=
  List.forall_mem_cons.2 ⟨hs, h⟩

theorem append (h : Silent steps) (h' : Silent rest) : Silent (steps ++ rest) :=
  List.forall_mem_append.2 ⟨h, h'⟩

theorem flatMap {as : List α} {f : α → List Step} (h : ∀ a, Silent (f a)) :
    Silent (as.flatMap f) := by
  intro s hs
  obtain ⟨a, _, ha⟩ := List.mem_flatMap.1 hs
  exact h a s ha

theorem printed_after (h : Silent steps) (r : Run α) : (r.after steps).printed = r.printed := by
  unfold Run.printed Run.after
  rw [List.filterMap_append, List.filterMap_eq_nil_iff.2 ?_, List.nil_append]
  intro s hs
  cases s with
  | print p => cases h _ hs
  | _ => rfl

theorem pauses_after (h : Silent steps) (r : Run α) : (r.after steps).pauses = r.pauses := by
  unfold Run.pauses Run.after
  rw [List.filterMap_append, List.filterMap_eq_nil_iff.2 ?_, List.nil_append]
  intro s hs
  cases s with
  | sleep seconds => cases h _ hs
  | _ => rfl

end Silent

theorem Run.Asks.silent {α : Type} {r : Run α} (h : r.Asks) : Silent r.trace := by
  intro s hs
  rcases h s hs with ⟨record, rfl⟩ | ⟨ns, rfl⟩
  · rfl
  · rfl

namespace Controller

variable (c : Controller) (cluster : Cluster) (now : Moment) (n : Node)

theorem silent_write : Silent (write cluster n).trace := by
  intro s hs
  rw [List.mem_singleton.1 hs]
  rfl

theorem silent_report (r : Result) : Silent (report cluster r).trace := by
  unfold report Run.rescue Silent
  split
  · simp [Run.ask, Run.log, Run.step, Step.silent]
  · simp [Run.ask, Step.silent]

theorem silent_carryOut (node : String) (r : Result) :
    Silent (c.carryOut cluster node r).trace := by
  have hlog : ∀ level part message, Silent (Run.log level part message).trace := by
    intro level part message s hs
    rw [List.mem_singleton.1 hs]
    rfl
  unfold carryOut
  split
  · exact hlog _ _ _
  · refine Run.forall_mem_bind (hlog _ _ _) fun _ => ?_
    split
    · exact hlog _ _ _
    · exact Run.forall_mem_bind (silent_write cluster _) fun _ => silent_report cluster r

theorem silent_handle : Silent (c.handle cluster now n).trace := by
  have hpass : Silent ((reconcile cluster.list c.policy now n).mapFailure
      (unresolved n.name)).trace :=
    (asks_reconcile cluster.list c.policy now n).silent
  refine Run.forall_mem_bind hpass fun r => ?_
  refine Run.forall_mem_bind (c.silent_carryOut cluster n.name r) fun _ s hs => ?_
  cases hs

end Controller

/-! ## Connecting -/

namespace Surroundings

variable {P : Step → Prop} (hlook : ∀ l, P (.look l)) (hlog : ∀ record, P (.log record))
include hlook hlog

theorem load_steps (settings : Settings) (kubeconfig : Option String) :
    ∀ step ∈ (settings.load kubeconfig).trace, P step := by
  have hlooked : ∀ l answer, ∀ step ∈ (Settings.look l answer).trace, P step := by
    intro l answer step hstep
    rw [List.mem_singleton.1 hstep]
    exact hlook l
  have hlogged : ∀ message, ∀ step ∈ (Run.log .debug "kube" message).trace, P step := by
    intro message step hstep
    rw [List.mem_singleton.1 hstep]
    exact hlog _
  unfold Settings.load
  split
  · exact hlooked _ _
  · show ∀ step ∈ settings.search.trace, P step
    unfold Settings.search
    split
    · refine Run.forall_mem_bind (hlooked .inCluster (.ok ())) fun _ => ?_
      exact Run.forall_mem_bind (hlooked _ _) fun _ => hlogged _
    · exact Run.forall_mem_bind (hlooked _ _) fun _ => hlogged _

/-- Settings are looked for and that is noted; the server is not asked for anything. -/
theorem connect_steps (s : Surroundings) (c : Common) : ∀ step ∈ (s.connect c).trace, P step := by
  have hload : ∀ step ∈ (Run.ofExcept (PolicyFile.load s.files c.config)).trace, P step := by
    intro step hstep
    cases hstep
  refine Run.forall_mem_bind hload fun policy => ?_
  refine Run.forall_mem_bind (load_steps hlook hlog s.settings c.kubeconfig) fun _ step hstep => ?_
  cases hstep

omit hlook hlog

theorem silent_connect (s : Surroundings) (c : Common) : Silent (s.connect c).trace :=
  connect_steps (fun _ => rfl) (fun _ => rfl) s c

theorem calls_connect (s : Surroundings) (c : Common) : (s.connect c).calls = [] :=
  List.filterMap_eq_nil_iff.2 (connect_steps (fun _ => rfl) (fun _ => rfl) s c)

end Surroundings

/-! ## Calls that end as they should -/

namespace Run

variable {α : Type}

/-- The run ends with this, a result or an error of the gate. -/
def EndsWith (r : Run α) (outcome : Except GateError α) : Prop := r.result = outcome.mapError .gate

/-- The run ends with a result or an error of the gate, and in no other way. -/
def Reported (r : Run α) : Prop := ∃ outcome, r.EndsWith outcome

theorem EndsWith.outcome_eq {r : Run α} {outcome : Except GateError α} (h : r.EndsWith outcome) :
    r.outcome = ⟨r.trace, .ok outcome⟩ := by
  unfold EndsWith at h
  unfold Run.outcome
  rw [h]
  cases outcome with
  | ok a => rfl
  | error e => rfl

end Run

/-- Over a server whose requests succeed or fail every call ends with a result or an error. -/
theorem Controller.reported_handle {api : Api} {listing : Nat → Api} (h : Scripted api listing)
    (c : Controller) (stamp now : Moment) (n : Node) :
    (c.handle (api.clusterOver listing stamp) now n).Reported := by
  cases hpass : (reconcile (api.clusterOver listing stamp).list c.policy now n).result with
  | error g =>
    obtain ⟨_, w, _, f, _, _, _, hresult, _⟩ := Controller.handle_of_unread h hpass
    exact ⟨.error _, hresult⟩
  | ok r =>
    rcases Controller.handle_of_read h hpass with ⟨hresult, _⟩ | ⟨f, _, hresult⟩
    · exact ⟨.ok r, hresult⟩
    · exact ⟨.error _, hresult⟩

/-! ## What a node leaves behind -/

/-- The row of a node whose call ends like this. A failure that is not the gate's has none: it ends the
command. -/
def Report.rowOf (n : Node) : Except Failure Result → Except Failure Report.Row
  | .ok r => .ok ⟨n.name, .ok r⟩
  | .error (.gate e) => .ok ⟨n.name, .error e⟩
  | .error f => .error f

/-- The steps of a call, and the log line of the command if it raises. -/
def told (run : Run Result) (n : Node) : List Step :=
  run.trace ++
    match run.result with
    | .error (.gate e) =>
      [.log ⟨.error, loggerOf "cli", s!"Failed to reconcile node {n.name}: {e.message}"⟩]
    | _ => []

section

variable {c : Controller} {cluster : Cluster} {now : Moment} {n : Node}

theorem handleNode_of_reported (h : (c.handle cluster now n).Reported) :
    Watch.handleNode c cluster now n = ⟨told (c.handle cluster now n) n, .ok ()⟩ := by
  obtain ⟨outcome, h⟩ := h
  unfold Watch.handleNode told
  rw [h.outcome_eq, h]
  cases outcome with
  | ok r => rfl
  | error e => rfl

/-- A command that makes a row has the row of the call, however that ends. -/
theorem reconcileNode_eq (c : Controller) (cluster : Cluster) (now : Moment) (n : Node) :
    Surroundings.reconcileNode c cluster now n =
      ⟨told (c.handle cluster now n) n, Report.rowOf n (c.handle cluster now n).result⟩ := by
  unfold Surroundings.reconcileNode told
  generalize c.handle cluster now n = run
  obtain ⟨trace, f | r⟩ := run
  · cases f with
    | gate e => rfl
    | invalid e => simp [Run.outcome, Report.rowOf, bind, Run.andThen]
    | fault f => simp [Run.outcome, Report.rowOf, bind, Run.andThen]
    | unreadable u => simp [Run.outcome, Report.rowOf, bind, Run.andThen]
  · rfl

theorem reconcileNode_of_endsWith {outcome : Except GateError Result}
    (h : (c.handle cluster now n).EndsWith outcome) :
    Surroundings.reconcileNode c cluster now n =
      ⟨told (c.handle cluster now n) n, .ok ⟨n.name, outcome⟩⟩ := by
  rw [reconcileNode_eq, h]
  cases outcome with
  | ok r => rfl
  | error e => rfl

theorem silent_told (n : Node) : Silent (told (c.handle cluster now n) n) := by
  refine (c.silent_handle cluster now n).append ?_
  split
  · intro s hs
    rw [List.mem_singleton.1 hs]
    rfl
  · intro s hs
    cases hs

/-- Calls are what a call makes, and the log line is none. -/
theorem calls_told (run : Run Result) (n : Node) :
    (⟨told run n, .ok ()⟩ : Run Unit).calls = run.calls := by
  unfold told Run.calls
  rw [List.filterMap_append]
  split
  · exact List.append_nil _
  · exact List.append_nil _

end

/-! ## A program with a policy -/

namespace Shelf

/-- The program that has the gating policy and this server. -/
def withApi (api : Api) : Surroundings := { surroundings gating with api }

def options : Common := ⟨"p", none, false⟩

def controller : Controller := ⟨policy, false⟩

def object (name : String) : NodeObject := ⟨.text name, .null, .null, none⟩

def node (name : String) : Node := ⟨name, Dict.empty, [], Dict.empty⟩

theorem ofObject_object (name : String) : Node.ofObject (object name) = .ok (node name) := rfl

theorem connect_withApi (api : Api) : ((withApi api).connect options).result = .ok controller := by
  have hload : (Run.ofExcept (PolicyFile.load (files gating) "p")).result = .ok policy :=
    load_gating_eq
  show (Run.ofExcept (PolicyFile.load (files gating) "p") >>= _).result = _
  rw [Run.bind_of_ok hload]
  rfl

end Shelf

end NodeGate
