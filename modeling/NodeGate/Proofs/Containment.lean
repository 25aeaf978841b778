import NodeGate.Api
import NodeGate.Proofs.Checks
import NodeGate.Proofs.Sessions

/-!
# Failing requests

A server may answer a request or fail it, anew each time. Whatever it does, a controller that handles a
node gives a result or raises one of two errors: the pods of a workload could not be listed, and then
nothing is written or reported, or the node could not be written, and then nothing is reported. A report
that fails makes no difference. `Controller.Contained` says that of a run, `handle_contained` shows it.

A failed request is wrapped up to three times before the controller is done with it: as an error of the
server, of the workload and of the node. Its own words are in the text of all of these.
-/

set_option autoImplicit false

namespace NodeGate

open Readiness

/-! ## Texts of errors -/

/-- The part is somewhere in the text. -/
def Mentions (text part : String) : Prop := part.toList <:+: text.toList

theorem Mentions.trans {s t u : String} (h : Mentions s t) (h' : Mentions t u) : Mentions s u :=
  List.IsInfix.trans h' h

theorem mentions_append_left (s t : String) : Mentions (s ++ t) s := by
  unfold Mentions
  rw [String.toList_append]
  exact (List.prefix_append _ _).isInfix

theorem mentions_append_right (s t : String) : Mentions (s ++ t) t := by
  unfold Mentions
  rw [String.toList_append]
  exact (List.suffix_append _ _).isInfix

/-- What the server or the system said when a request failed. -/
def CallFault.text : CallFault → String
  | .refused r => r.text
  | .unreachable t => t.text

namespace GateError

theorem mentions_message (message : String) (details : Option String) :
    Mentions (joinWords (message, details)) message := by
  unfold joinWords
  dsimp only
  split
  · split
    · exact List.infix_refl _
    · exact (mentions_append_left _ _).trans (mentions_append_left _ _)
  · exact List.infix_refl _

/-- Empty details are left out, and nothing is lost by that. -/
theorem mentions_details (message details : String) :
    Mentions (joinWords (message, some details)) details := by
  unfold joinWords
  dsimp only
  split
  · rename_i h
    rw [String.isEmpty_iff.1 h]
    exact List.nil_infix
  · exact mentions_append_right _ _

theorem mentions_call (what : String) (withBody : Bool) (f : CallFault) :
    Mentions (joinWords (callWords what withBody f)) f.text := by
  cases f with
  | refused r => exact (mentions_message _ _).trans (mentions_append_right _ _)
  | unreachable t => exact mentions_details what t.text

/-- The listing of a workload failed, told for a node. -/
def unlisted (node : String) (w : Workload) (f : CallFault) : GateError :=
  .taintsUnknown node (.readinessUnknown w.ns w.text (.podsNotListed w.ns f))

theorem mentions_unlisted (node : String) (w : Workload) (f : CallFault) :
    Mentions (unlisted node w f).text f.text :=
  (mentions_details _ _).trans ((mentions_details _ _).trans (mentions_call _ _ f))

theorem mentions_nodeNotWritten (node : String) (f : CallFault) :
    Mentions (nodeNotWritten node f).text f.text := mentions_call _ _ f

end GateError

/-! ## The calls of a pass -/

namespace Readiness

variable {lister : Lister} {turn : Nat} {node : String} {w : Workload}

theorem calls_isReady (lister : Lister) (turn : Nat) (node : String) (w : Workload) :
    (isReady lister turn node w).calls = [.listPods w.ns] := by
  unfold isReady
  cases hfound : (findPod lister turn node w).result with
  | ok found =>
    rw [Run.calls_bind_of_ok hfound]
    cases found with
    | none => rfl
    | some pod => rfl
  | error f =>
    rw [Run.calls_bind_of_error hfound]
    rfl

/-- The listings that the workloads ask for, in order. -/
def listings (ws : List Workload) : List Call := ws.map fun w => .listPods w.ns

theorem calls_unready_of_answered {ws : List Workload} (h : Answered lister turn ws) :
    (unready lister node turn ws).calls = listings ws := by
  induction ws generalizing turn with
  | nil => rfl
  | cons w ws ih =>
    obtain ⟨⟨pods, hpods⟩, hws⟩ := answered_cons.1 h
    unfold unready
    rw [Run.calls_bind_of_ok (isReady_eq_ok_iff.2 ⟨pods, hpods, rfl⟩), calls_isReady,
      Run.calls_bind_of_ok (unready_eq_ok_iff.2 ⟨hws, rfl⟩), ih hws]
    exact congrArg (_ :: ·) (List.append_nil _)

/-- The listing that fails is the last one. -/
theorem calls_unready_of_lost {before after : List Workload} {f : Failure}
    (h : Answered lister turn before) (hlost : lister (turn + before.length) w.ns = .error f) :
    (unready lister node turn (before ++ w :: after)).calls = listings (before ++ [w]) := by
  induction before generalizing turn with
  | nil =>
    have hlost' : lister turn w.ns = .error f := hlost
    rw [List.nil_append]
    unfold unready
    rw [Run.calls_bind_of_error (isReady_eq_error_iff.2 ⟨f, hlost', rfl⟩), calls_isReady]
    rfl
  | cons v before ih =>
    obtain ⟨⟨pods, hpods⟩, hbefore⟩ := answered_cons.1 h
    have hlost' : lister (turn + 1 + before.length) w.ns = .error f := by
      rwa [Nat.add_assoc, Nat.add_comm 1]
    have hothers : (unready lister node (turn + 1) (before ++ w :: after)).result =
        .error (unknown w f) :=
      unready_eq_error_iff.2 ⟨w, f, ⟨before, after, rfl, hbefore, hlost'⟩, rfl⟩
    rw [List.cons_append]
    unfold unready
    rw [Run.calls_bind_of_ok (isReady_eq_ok_iff.2 ⟨pods, hpods, rfl⟩), calls_isReady,
      Run.calls_bind_of_error hothers, ih hbefore hlost']
    rfl

end Readiness

theorem calls_reconcile (lister : Lister) (p : Policy) (now : Moment) (n : Node) :
    (reconcile lister p now n).calls = (unready lister n.name 0 (p.asked n.labels)).calls := by
  have hcalc : ∀ ws sweep, (calculateTaints lister n ws sweep).calls =
      (unready lister n.name 0 ws).calls :=
    fun ws sweep => Run.calls_bind_of_quiet fun _ => rfl
  unfold Policy.asked
  simp only [reconcile]
  split
  · rw [Run.calls_bind_of_ok (Run.result_log _ _ _), Run.calls_bind_of_quiet fun _ => rfl, hcalc]
    exact List.nil_append _
  · rw [Run.calls_bind_of_quiet fun _ => rfl, hcalc]

/-! ## Servers whose requests may fail -/

/-- The request failed. -/
def failed {α : Type} (f : CallFault) : Except Failure α := .error (.fault (.call f))

/-- The request succeeds or fails. -/
def Done (answer : Except Failure Unit) : Prop := answer = .ok () ∨ ∃ f, answer = failed f

/-- The pods that come can be converted, if they come. -/
def Listed (answer : Except Failure (List PodObject)) : Prop :=
  (∃ os, answer = .ok os ∧ ∀ o ∈ os, ∃ pod, Pod.ofObject o = .ok pod) ∨ ∃ f, answer = failed f

namespace Api

/-- The cluster of a server whose answers to listings differ from turn to turn; a pass writes and
reports at most once, so there is only one answer to each of these. -/
def clusterOver (api : Api) (listing : Nat → Api) (now : Moment) : Cluster :=
  { api.cluster now with list := fun turn ns => (listing turn).listPods ns }

theorem clusterOver_const (api : Api) (now : Moment) :
    api.clusterOver (fun _ => api) now = api.cluster now := rfl

variable {api : Api} {ns : String} {f : CallFault}

theorem exists_listPods {os : List PodObject} (h : api.pods ns = .ok os)
    (hos : ∀ o ∈ os, ∃ pod, Pod.ofObject o = .ok pod) : ∃ pods, api.listPods ns = .ok pods := by
  have hall : ∃ pods, os.mapM (fun o => converted (Pod.ofObject o)) = .ok pods := by
    refine exists_mapM_eq_ok fun o ho => ?_
    obtain ⟨pod, hpod⟩ := hos o ho
    rw [hpod]
    exact ⟨pod, rfl⟩
  unfold listPods
  rw [h]
  exact hall

theorem listPods_of_failed (h : api.pods ns = failed f) :
    api.listPods ns = .error (.gate (.podsNotListed ns f)) := by
  unfold listPods
  rw [h]
  rfl

end Api

/-- Every request that a pass makes succeeds or fails, in any way. -/
structure Scripted (api : Api) (listing : Nat → Api) : Prop where
  pods : ∀ turn ns, Listed ((listing turn).pods ns)
  patch : ∀ name patch, Done (api.patch name patch)
  event : ∀ object, Done (api.event object)

namespace Controller

/-- The run ends with an error of the kind. -/
def Raises (kind : ErrorKind) (run : Run Result) : Prop :=
  ∃ e, run.result = .error (.gate e) ∧ e.kind = kind

section

variable (c : Controller) (api : Api) (listing : Nat → Api) (stamp now : Moment) (n : Node)

/-- The listing that the run makes for the workload number `i` fails. -/
def Unlisted (run : Run Result) (i : Nat) (w : Workload) (f : CallFault) : Prop :=
  c.policy.workloads[i]? = some w ∧ run.calls[i]? = some (.listPods w.ns) ∧
    (listing i).pods w.ns = failed f

/-- The pass has a result that is to be written, and that fails. -/
def Unwritten (r : Result) (f : CallFault) : Prop :=
  (reconcile (api.clusterOver listing stamp).list c.policy now n).result = .ok r ∧
    r.changed = true ∧ c.dryRun = false ∧ api.patch r.node.name r.node.toPatch = failed f

/-- The run of a call over the node, given how the requests go. -/
structure Contained (run : Run Result) : Prop where
  ends : (∃ r, run.result = .ok r) ∨ Raises .resolution run ∨ Raises .persistence run
  unread : Raises .resolution run ↔
    c.policy.inScope n.labels = true ∧ ∃ i w f, c.Unlisted listing run i w f
  unread_calls : Raises .resolution run → OnlyListings run.calls
  unwritten : Raises .persistence run ↔
    (¬ ∃ i w f, c.Unlisted listing run i w f) ∧ ∃ r f, c.Unwritten api listing stamp now n r f
  unwritten_calls : Raises .persistence run → ∀ event, Call.emit event ∉ run.calls
  cause : ∀ e, run.result = .error (.gate e) → ∃ f, Mentions e.text f.text ∧
    ((∃ i w, c.Unlisted listing run i w f) ∨ ∃ r, c.Unwritten api listing stamp now n r f)
  unreported : ∀ event : EventObject → Except Failure Unit, (∀ object, Done (event object)) →
    (c.handle ({ api with event }.clusterOver listing stamp) now n).result = run.result

end

variable {c : Controller} {api : Api} {listing : Nat → Api} {stamp now : Moment} {n : Node}
  {r : Result}

/-- The requests of a pass that fails: the listing that fails is the last one. -/
theorem handle_of_unread (h : Scripted api listing) {g : Failure}
    (hpass : (reconcile (api.clusterOver listing stamp).list c.policy now n).result = .error g) :
    ∃ before w after f, c.policy.inScope n.labels = true ∧
      c.policy.workloads = before ++ w :: after ∧ (listing before.length).pods w.ns = failed f ∧
      (c.handle (api.clusterOver listing stamp) now n).result =
        .error (.gate (.unlisted n.name w f)) ∧
      (c.handle (api.clusterOver listing stamp) now n).calls = listings (before ++ [w]) := by
  obtain ⟨w, f, ⟨before, after, hasked, hans, hlost⟩, rfl⟩ := reconcile_eq_error_iff.1 hpass
  obtain ⟨hcalls, hresult⟩ := handle_of_error hpass
  have hin : c.policy.inScope n.labels = true := by
    by_contra hout
    rw [Policy.asked, if_neg hout] at hasked
    cases before <;> cases hasked
  have hfailed : ∃ call, (listing before.length).pods w.ns = failed call ∧
      f = .gate (.podsNotListed w.ns call) := by
    have hturn : (listing before.length).listPods w.ns = .error f := by
      rwa [Nat.zero_add] at hlost
    rcases h.pods before.length w.ns with ⟨os, hos, hconvert⟩ | ⟨call, hcall⟩
    · obtain ⟨pods, hpods⟩ := Api.exists_listPods hos hconvert
      rw [hpods] at hturn
      cases hturn
    · rw [Api.listPods_of_failed hcall] at hturn
      cases hturn
      exact ⟨call, hcall, rfl⟩
  obtain ⟨call, hcall, rfl⟩ := hfailed
  rw [Policy.asked_of_inScope hin] at hasked
  refine ⟨before, w, after, call, hin, hasked, hcall, hresult, ?_⟩
  rw [hcalls, calls_reconcile, Policy.asked_of_inScope hin, hasked]
  exact calls_unready_of_lost hans hlost

theorem update_clusterOver_of_ok (h : api.patch n.name n.toPatch = .ok ()) :
    (api.clusterOver listing stamp).update n = .ok () := by
  show (api.patch n.name n.toPatch).mapError _ = _
  rw [h]
  rfl

theorem update_clusterOver_of_failed {f : CallFault} (h : api.patch n.name n.toPatch = failed f) :
    (api.clusterOver listing stamp).update n = .error (.gate (.nodeNotWritten n.name f)) := by
  show (api.patch n.name n.toPatch).mapError _ = _
  rw [h]
  rfl

/-- A report that fails is noted. -/
theorem result_report_clusterOver (h : ∀ object, Done (api.event object)) (r : Result) :
    (report (api.clusterOver listing stamp) r).result = .ok () := by
  have hemit : (api.clusterOver listing stamp).emit r.event =
      (api.event (.ofEvent r.event stamp)).mapError
        (Api.explain (.eventNotRecorded r.event.subject)) := rfl
  rw [result_report, hemit]
  rcases h (.ofEvent r.event stamp) with hevent | ⟨f, hevent⟩
  · rw [hevent]
    rfl
  · rw [hevent]
    rfl

/-- A pass that has a result gives it, unless it is to be written and cannot. -/
theorem handle_of_read (h : Scripted api listing)
    (hpass : (reconcile (api.clusterOver listing stamp).list c.policy now n).result = .ok r) :
    (c.handle (api.clusterOver listing stamp) now n).result = .ok r ∧
        (∀ f, ¬ c.Unwritten api listing stamp now n r f) ∨
      ∃ f, c.Unwritten api listing stamp now n r f ∧
        (c.handle (api.clusterOver listing stamp) now n).result =
          .error (.gate (.nodeNotWritten r.node.name f)) := by
  cases hchanged : r.changed with
  | false =>
    refine .inl ⟨(handle_of_unchanged hpass hchanged).1, ?_⟩
    rintro f ⟨_, h, _⟩
    rw [hchanged] at h
    cases h
  | true =>
    cases hdry : c.dryRun with
    | true =>
      refine .inl ⟨?_, ?_⟩
      · rw [result_handle hpass, result_carryOut_of_dryRun n.name hdry]
        rfl
      · rintro f ⟨_, _, h, _⟩
        rw [hdry] at h
        cases h
    | false =>
      rcases h.patch r.node.name r.node.toPatch with hpatch | ⟨f, hpatch⟩
      · refine .inl ⟨?_, ?_⟩
        · rw [result_handle hpass, result_carryOut_of_ok n.name hchanged hdry
            (update_clusterOver_of_ok hpatch), result_report_clusterOver h.event]
          rfl
        · rintro f ⟨_, _, _, hfailed⟩
          rw [hpatch] at hfailed
          cases hfailed
      · refine .inr ⟨f, ⟨hpass, hchanged, hdry, hpatch⟩, ?_⟩
        rw [result_handle hpass, result_carryOut_of_error n.name hchanged hdry
          (update_clusterOver_of_failed hpatch)]
        rfl

/-- No listing fails in a pass that has a result. -/
theorem not_unlisted_of_read
    (hpass : (reconcile (api.clusterOver listing stamp).list c.policy now n).result = .ok r)
    (i : Nat) (w : Workload) (f : CallFault) :
    ¬ c.Unlisted listing (c.handle (api.clusterOver listing stamp) now n) i w f := by
  rintro ⟨hw, hcall, hfailed⟩
  cases hin : c.policy.inScope n.labels with
  | true =>
    obtain ⟨hans, _⟩ := reconcile_eq_ok_iff.1 hpass
    rw [Policy.asked_of_inScope hin] at hans
    obtain ⟨pods, hpods⟩ := hans i w hw
    have hlist : (listing i).listPods w.ns = .ok pods := by
      rwa [Nat.zero_add] at hpods
    rw [Api.listPods_of_failed hfailed] at hlist
    cases hlist
  | false =>
    have hasked : c.policy.asked n.labels = [] := if_neg (by simp [hin])
    rw [calls_handle hpass, calls_reconcile, hasked] at hcall
    have hmem : Call.listPods w.ns ∈ c.written (api.clusterOver listing stamp) r :=
      List.mem_of_getElem? hcall
    unfold written at hmem
    split at hmem
    · split at hmem
      · simp at hmem
      · simp at hmem
    · cases hmem

theorem contained_of_unread (h : Scripted api listing) {g : Failure}
    (hpass : (reconcile (api.clusterOver listing stamp).list c.policy now n).result = .error g) :
    c.Contained api listing stamp now n (c.handle (api.clusterOver listing stamp) now n) := by
  obtain ⟨before, w, after, f, hin, hws, hlost, hresult, hcalls⟩ := handle_of_unread h hpass
  have hunreported : ∀ event : EventObject → Except Failure Unit,
      (c.handle ({ api with event }.clusterOver listing stamp) now n).result =
        (c.handle (api.clusterOver listing stamp) now n).result := by
    intro event
    have hpass' : (reconcile ({ api with event }.clusterOver listing stamp).list c.policy now
      n).result = .error g := hpass
    exact (handle_of_error hpass').2.trans (handle_of_error hpass).2.symm
  generalize c.handle (api.clusterOver listing stamp) now n = run at *
  have hraises : Raises .resolution run := ⟨_, hresult, rfl⟩
  have hunlisted : c.Unlisted listing run before.length w f := by
    refine ⟨?_, ?_, hlost⟩
    · rw [hws]
      simp
    · rw [hcalls]
      simp [listings]
  have hnot : ¬ Raises .persistence run := by
    rintro ⟨e, he, hkind⟩
    rw [hresult] at he
    cases he
    cases hkind
  have honly : OnlyListings run.calls := by
    intro call hcall
    rw [hcalls] at hcall
    obtain ⟨v, _, rfl⟩ := List.mem_map.1 hcall
    exact ⟨v.ns, rfl⟩
  exact {
    ends := .inr (.inl hraises)
    unread := ⟨fun _ => ⟨hin, _, w, f, hunlisted⟩, fun _ => hraises⟩
    unread_calls := fun _ => honly
    unwritten := ⟨fun h => absurd h hnot, fun h => absurd ⟨_, w, f, hunlisted⟩ h.1⟩
    unwritten_calls := fun h => absurd h hnot
    cause := by
      intro e he
      rw [hresult] at he
      cases he
      exact ⟨f, GateError.mentions_unlisted n.name w f, .inl ⟨_, w, hunlisted⟩⟩
    unreported := fun event _ => hunreported event }

/-- The node that could not be written is the last thing that the server was asked about. -/
theorem emit_notMem_of_unwritten {f : CallFault} (h : c.Unwritten api listing stamp now n r f)
    (event : Event) : Call.emit event ∉ (c.handle (api.clusterOver listing stamp) now n).calls := by
  obtain ⟨hpass, hchanged, hdry, hpatch⟩ := h
  have hwritten : c.written (api.clusterOver listing stamp) r = [.update r.node] := by
    unfold written
    rw [if_pos ⟨hchanged, hdry⟩, update_clusterOver_of_failed hpatch]
  intro hmem
  rw [calls_handle hpass, hwritten] at hmem
  rcases List.mem_append.1 hmem with hmem | hmem
  · obtain ⟨ns, hns⟩ := (asks_reconcile _ _ _ _).exists_of_mem_calls hmem
    cases hns
  · cases List.mem_singleton.1 hmem

theorem contained_of_read (h : Scripted api listing)
    (hpass : (reconcile (api.clusterOver listing stamp).list c.policy now n).result = .ok r) :
    c.Contained api listing stamp now n (c.handle (api.clusterOver listing stamp) now n) := by
  have hunique : ∀ r' f, c.Unwritten api listing stamp now n r' f → r' = r :=
    fun r' f h => Except.ok.inj (h.1.symm.trans hpass)
  have hnone := not_unlisted_of_read hpass
  have hends := handle_of_read h hpass
  have hemit : ∀ f, c.Unwritten api listing stamp now n r f →
      ∀ event, Call.emit event ∉ (c.handle (api.clusterOver listing stamp) now n).calls :=
    fun _ => emit_notMem_of_unwritten
  have hunreported : ∀ event : EventObject → Except Failure Unit, (∀ object, Done (event object)) →
      (c.handle ({ api with event }.clusterOver listing stamp) now n).result = .ok r ∧
          (∀ f, ¬ c.Unwritten api listing stamp now n r f) ∨
        ∃ f, c.Unwritten api listing stamp now n r f ∧
          (c.handle ({ api with event }.clusterOver listing stamp) now n).result =
            .error (.gate (.nodeNotWritten r.node.name f)) := by
    intro event hevent
    have h' : Scripted { api with event } listing := ⟨h.pods, h.patch, hevent⟩
    exact handle_of_read h' hpass
  generalize c.handle (api.clusterOver listing stamp) now n = run at *
  have hnot : ¬ Raises .resolution run := by
    rintro ⟨e, he, hkind⟩
    rcases hends with ⟨hresult, _⟩ | ⟨f, _, hresult⟩
    · rw [hresult] at he
      cases he
    · rw [hresult] at he
      cases he
      cases hkind
  have hunread : ¬ ∃ i w f, c.Unlisted listing run i w f := by
    rintro ⟨i, w, f, hlost⟩
    exact hnone i w f hlost
  have hraises : Raises .persistence run ↔ ∃ f, c.Unwritten api listing stamp now n r f := by
    rcases hends with ⟨hresult, hwritten⟩ | ⟨f, hunwritten, hresult⟩
    · constructor
      · rintro ⟨e, he, _⟩
        rw [hresult] at he
        cases he
      · rintro ⟨f, h⟩
        exact absurd h (hwritten f)
    · exact ⟨fun _ => ⟨f, hunwritten⟩, fun _ => ⟨_, hresult, rfl⟩⟩
  refine {
    ends := ?ends
    unread := ⟨fun h => absurd h hnot, fun h => absurd h.2 hunread⟩
    unread_calls := fun h => absurd h hnot
    unwritten := ?unwritten
    unwritten_calls := ?calls
    cause := ?cause
    unreported := ?unreported }
  case ends =>
    rcases hends with ⟨hresult, _⟩ | ⟨f, _, hresult⟩
    · exact .inl ⟨r, hresult⟩
    · exact .inr (.inr ⟨_, hresult, rfl⟩)
  case unwritten =>
    rw [hraises]
    constructor
    · rintro ⟨f, h⟩
      exact ⟨hunread, r, f, h⟩
    · rintro ⟨_, r', f, h⟩
      obtain rfl := hunique r' f h
      exact ⟨f, h⟩
  case calls =>
    intro h
    obtain ⟨f, h⟩ := hraises.1 h
    exact hemit f h
  case cause =>
    intro e he
    rcases hends with ⟨hresult, _⟩ | ⟨f, hunwritten, hresult⟩
    · rw [hresult] at he
      cases he
    · rw [hresult] at he
      cases he
      exact ⟨f, GateError.mentions_nodeNotWritten _ f, .inr ⟨r, hunwritten⟩⟩
  case unreported =>
    intro event hevent
    rcases hends with ⟨hresult, hwritten⟩ | ⟨f, hunwritten, hresult⟩
    · rcases hunreported event hevent with ⟨hresult', _⟩ | ⟨g, h, _⟩
      · rw [hresult, hresult']
      · exact absurd h (hwritten g)
    · rcases hunreported event hevent with ⟨_, h⟩ | ⟨g, h, hresult'⟩
      · exact absurd hunwritten (h f)
      · cases h.2.2.2.symm.trans hunwritten.2.2.2
        rw [hresult, hresult']

end Controller

/-- **Every failing request is contained.** Over a server whose requests succeed or fail in any way, a
call gives a result or raises one of two errors: that pods could not be listed, if a listing failed that
it made, or that the node could not be written, if it was to be written and that failed. -/
theorem handle_contained (c : Controller) (api : Api) (listing : Nat → Api) (stamp now : Moment)
    (n : Node) (h : Scripted api listing) :
    c.Contained api listing stamp now n (c.handle (api.clusterOver listing stamp) now n) := by
  cases hpass : (reconcile (api.clusterOver listing stamp).list c.policy now n).result with
  | ok r => exact Controller.contained_of_read h hpass
  | error g => exact Controller.contained_of_unread h hpass

namespace Outage

open Drifted

def forbidden : CallFault := .refused ⟨some 403, some "Forbidden", none⟩

def reset : CallFault := .unreachable (.system (some 104) "Connection reset by peer")

/-- Nothing runs, and nothing goes wrong. -/
def calm : Api :=
  ⟨fun _ => .ok [], fun _ => .error (.fault .interrupted), [], [], fun _ _ => .ok (), fun _ => .ok ()⟩

/-- The second listing is refused. -/
def listing : Nat → Api
  | 1 => { calm with pods := fun _ => failed forbidden }
  | _ => calm

/-- Nothing can be written or reported. -/
def cut : Api := { calm with patch := fun _ _ => failed reset, event := fun _ => failed reset }

def controller : Controller := ⟨policy, false⟩

theorem eq_forbidden {i : Nat} {ns : String} {f : CallFault}
    (h : (listing i).pods ns = failed f) : f = forbidden := by
  rcases i with _ | _ | i
  · cases h
  · cases h
    rfl
  · cases h

theorem scripted_listing : Scripted calm listing where
  pods := by
    intro turn ns
    rcases turn with _ | _ | turn
    · exact .inl ⟨[], rfl, by simp⟩
    · exact .inr ⟨forbidden, rfl⟩
    · exact .inl ⟨[], rfl, by simp⟩
  patch := fun _ _ => .inl rfl
  event := fun _ => .inl rfl

theorem scripted_cut : Scripted cut fun _ => cut where
  pods := fun _ _ => .inl ⟨[], rfl, by simp⟩
  patch := fun _ _ => .inr ⟨reset, rfl⟩
  event := fun _ => .inr ⟨reset, rfl⟩

end Outage

open Drifted Outage in
theorem handle_contained_outage :
    (∃ e, (controller.handle (calm.clusterOver listing now) now node).result = .error (.gate e) ∧
      e.kind = .resolution ∧ Mentions e.text "403 Forbidden") ∧
    ∃ e, (controller.handle (cut.cluster now) now node).result = .error (.gate e) ∧
      e.kind = .persistence ∧ Mentions e.text "[Errno 104] Connection reset by peer" := by
  have hlisting := handle_contained controller calm listing now now node scripted_listing
  have hcut := handle_contained controller cut (fun _ => cut) now now node scripted_cut
  rw [Api.clusterOver_const] at hcut
  constructor
  · obtain ⟨e, he, hkind⟩ := hlisting.unread.2 ⟨rfl, 1, driver, forbidden, rfl, rfl, rfl⟩
    refine ⟨e, he, hkind, ?_⟩
    obtain ⟨f, hmentions, ⟨i, w, _, _, hfailed⟩ | ⟨r, _, _, _, hfailed⟩⟩ := hlisting.cause e he
    · rwa [eq_forbidden hfailed] at hmentions
    · cases hfailed
  · have hlisted : ¬ ∃ i w f, controller.Unlisted (fun _ => cut)
        (controller.handle (cut.cluster now) now node) i w f := by
      rintro ⟨i, w, f, _, _, hfailed⟩
      cases hfailed
    obtain ⟨e, he, hkind⟩ := hcut.unwritten.2 ⟨hlisted, _, reset, rfl, by decide, rfl, rfl⟩
    refine ⟨e, he, hkind, ?_⟩
    obtain ⟨f, hmentions, ⟨i, w, _, _, hfailed⟩ | ⟨r, _, _, _, hfailed⟩⟩ := hcut.cause e he
    · cases hfailed
    · cases hfailed
      exact hmentions

end NodeGate
