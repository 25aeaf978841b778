import NodeGate.Proofs.Containment

/-!
# Readiness read off pod objects

Whether a workload is ready on a node is decided by pods that come as objects, with parts that may be
absent and marks that may be anything. Between the two stand the conversion of the objects, the choice
of one pod and the look at its containers. Here the answer is told by the objects alone: `Runs` says
that an object is a pod of the workload on the node, `FirstToRun` that it is the first of the listing
and `AllReady` that nothing holds it up.

Conversion keeps the order and, object by object, whether it runs (`matches_iff`), so the choice among the
pods is the choice among the objects (`select_eq_some_iff`).
-/

set_option autoImplicit false

namespace NodeGate

/-! ## What objects say -/

namespace PodObject

/-- One of the owner references has the name. -/
def HasOwner (o : PodObject) (name : String) : Prop :=
  ∃ owners, o.owners = some owners ∧ ∃ v ∈ owners, Check.text v = .ok name

/-- The object has a spec whose node has the name. -/
def IsOn (o : PodObject) (node : String) : Prop :=
  ∃ spec, o.spec = some spec ∧ Check.text spec.node = .ok node

/-- No container status has a blank mark. Without a status, or without containers in it, there is
none. -/
def AllReady (o : PodObject) : Prop :=
  ∀ marks, o.status = some ⟨some marks⟩ → ∀ v ∈ marks, v.isBlank = false

/-- The object is a pod of the workload on the node. -/
def Runs (o : PodObject) (w : Workload) (node : String) : Prop := o.HasOwner w.name ∧ o.IsOn node

/-- Of the listed objects it is the first that is a pod of the workload on the node. -/
def FirstToRun (os : List PodObject) (w : Workload) (node : String) (o : PodObject) : Prop :=
  ∃ before after, os = before ++ o :: after ∧ (∀ b ∈ before, ¬ b.Runs w node) ∧ o.Runs w node

/-- What is read from a list of values is what some of them are read as. -/
theorem mem_iff_of_forall₂ {vs : List Value} {names : List String} {name : String}
    (h : List.Forall₂ (fun v s => Check.text v = .ok s) vs names) :
    name ∈ names ↔ ∃ v ∈ vs, Check.text v = .ok name := by
  induction h with
  | nil => simp
  | @cons v s vs names hread _ ih =>
    have hname : name = s ↔ Check.text v = .ok name := by
      rw [hread, Except.ok.injEq]
      exact eq_comm
    rw [List.mem_cons, ih, hname]
    simp

variable {o : PodObject} {pod : Pod} {w : Workload} {node : String}

theorem isOwnedBy_iff (h : Pod.ofObject o = .ok pod) {name : String} :
    pod.isOwnedBy name = true ↔ o.HasOwner name := by
  have howners := (Pod.ofObject_eq_ok_iff.1 h).2.2.2.1
  have hmem : name ∈ pod.owners ↔ ∃ v ∈ o.owners.getD [], Check.text v = .ok name :=
    mem_iff_of_forall₂ howners
  unfold Pod.isOwnedBy HasOwner
  rw [List.contains_iff_mem, hmem]
  cases o.owners with
  | none => simp
  | some owners => simp

theorem node_eq_some_iff (h : Pod.ofObject o = .ok pod) : pod.node = some node ↔ o.IsOn node := by
  have hnode := (Pod.ofObject_eq_ok_iff.1 h).2.2.1
  have hread : pod.node = some node ↔ Check.text o.node = .ok node := by
    rw [← Check.optionalText_eq_some_iff, hnode, Except.ok.injEq]
  rw [hread]
  unfold IsOn PodObject.node
  cases o.spec with
  | none => simp [Check.text, Checked.fail]
  | some spec => simp

/-- A pod that was not given a node is on none. -/
theorem not_isOn_of_unbound (h : o.spec = none ∨ o.spec = some ⟨.null⟩) (node : String) :
    ¬ o.IsOn node := by
  rintro ⟨spec, hspec, hnode⟩
  rcases h with h | h
  · rw [h] at hspec
    cases hspec
  · rw [h] at hspec
    cases hspec
    cases hnode

theorem ready_iff (h : Pod.ofObject o = .ok pod) : pod.ready = true ↔ o.AllReady := by
  have hmarks := (Pod.ofObject_eq_ok_iff.1 h).2.2.2.2
  have hready : pod.ready = true ↔ ∀ v ∈ o.marks, v.isBlank = false := by
    unfold Pod.ready
    rw [← hmarks]
    simp
  rw [hready]
  unfold AllReady marks
  rcases o.status with _ | ⟨_ | marks⟩
  · simp
  · simp
  · simp

theorem matches_iff (h : Pod.ofObject o = .ok pod) :
    (pod.isOwnedBy w.name && pod.node == some node) = true ↔ o.Runs w node := by
  rw [Bool.and_eq_true, beq_iff_eq, isOwnedBy_iff h, node_eq_some_iff h]
  rfl

/-! ## The first of a listing -/

variable {os : List PodObject} {o' : PodObject}

theorem FirstToRun.mem (h : FirstToRun os w node o) : o ∈ os := by
  obtain ⟨before, after, rfl, _⟩ := h
  simp

theorem not_firstToRun_nil : ¬ FirstToRun [] w node o := by
  rintro ⟨before, after, hos, _⟩
  cases before <;> cases hos

theorem firstToRun_cons :
    FirstToRun (o :: os) w node o' ↔
      o.Runs w node ∧ o' = o ∨ ¬ o.Runs w node ∧ FirstToRun os w node o' := by
  constructor
  · rintro ⟨before, after, hos, hbefore, hruns⟩
    cases before with
    | nil =>
      obtain ⟨rfl, _⟩ := List.cons.inj hos
      exact .inl ⟨hruns, rfl⟩
    | cons b before =>
      obtain ⟨rfl, rfl⟩ := List.cons.inj hos
      obtain ⟨hb, hbefore⟩ := List.forall_mem_cons.1 hbefore
      exact .inr ⟨hb, before, after, rfl, hbefore, hruns⟩
  · rintro (⟨hruns, rfl⟩ | ⟨hnot, before, after, rfl, hbefore, hruns⟩)
    · exact ⟨[], os, rfl, List.forall_mem_nil _, hruns⟩
    · exact ⟨o :: before, after, rfl, List.forall_mem_cons.2 ⟨hnot, hbefore⟩, hruns⟩

end PodObject

namespace Readiness

open PodObject

/-- The pods are those of the objects, one by one. -/
def Converts (os : List PodObject) (pods : List Pod) : Prop :=
  List.Forall₂ (fun o pod => Pod.ofObject o = .ok pod) os pods

section

variable {os : List PodObject} {pods : List Pod} {w : Workload} {node : String}

theorem Converts.exists_of_mem (h : Converts os pods) {o : PodObject} (ho : o ∈ os) :
    ∃ pod, Pod.ofObject o = .ok pod := by
  obtain ⟨pod, _, hconvert⟩ := exists_of_forall₂ h ho
  exact ⟨pod, hconvert⟩

theorem select_cons_of_runs {o : PodObject} {pod : Pod} (h : Pod.ofObject o = .ok pod)
    (hruns : o.Runs w node) : select node w (pod :: pods) = some pod := by
  unfold select
  rw [List.find?_cons, (matches_iff h).2 hruns]

theorem select_cons_of_not_runs {o : PodObject} {pod : Pod} (h : Pod.ofObject o = .ok pod)
    (hnot : ¬ o.Runs w node) : select node w (pod :: pods) = select node w pods := by
  unfold select
  rw [List.find?_cons, Bool.eq_false_iff.2 (mt (matches_iff h).1 hnot)]

/-- **The pod that is selected is that of the first object to run.** -/
theorem select_eq_some_iff (h : Converts os pods) {pod : Pod} :
    select node w pods = some pod ↔ ∃ o, FirstToRun os w node o ∧ Pod.ofObject o = .ok pod := by
  -- along the conversion: the first object runs exactly if its pod is taken
  induction h with
  | nil => simp [select, not_firstToRun_nil]
  | @cons o p os pods hconvert _ ih =>
    simp only [firstToRun_cons]
    by_cases hruns : o.Runs w node
    · rw [select_cons_of_runs hconvert hruns]
      simp [hruns, hconvert]
    · rw [select_cons_of_not_runs hconvert hruns, ih]
      simp [hruns]

theorem select_eq_none_iff (h : Converts os pods) :
    select node w pods = none ↔ ∀ o ∈ os, ¬ o.Runs w node := by
  induction h with
  | nil => simp [select]
  | @cons o p os pods hconvert _ ih =>
    rw [List.forall_mem_cons, ← ih]
    by_cases hruns : o.Runs w node
    · rw [select_cons_of_runs hconvert hruns]
      simp [hruns]
    · rw [select_cons_of_not_runs hconvert hruns]
      simp [hruns]

theorem shows_eq_true_iff (h : Converts os pods) :
    shows node w pods = true ↔ ∃ o, FirstToRun os w node o ∧ o.AllReady := by
  unfold shows
  rw [Option.any_eq_true]
  constructor
  · rintro ⟨pod, hselect, hready⟩
    obtain ⟨o, hfirst, hconvert⟩ := (select_eq_some_iff h).1 hselect
    exact ⟨o, hfirst, (ready_iff hconvert).1 hready⟩
  · rintro ⟨o, hfirst, hready⟩
    obtain ⟨pod, hconvert⟩ := h.exists_of_mem hfirst.mem
    exact ⟨pod, (select_eq_some_iff h).2 ⟨o, hfirst, hconvert⟩, (ready_iff hconvert).2 hready⟩

end

end Readiness

/-! ## The answers of a server -/

/-- The pods of a listing are those of its objects. -/
theorem Api.converts_listPods {api : Api} {ns : String} {os : List PodObject} {pods : List Pod}
    (h : api.pods ns = .ok os) (hpods : api.listPods ns = .ok pods) : Readiness.Converts os pods := by
  unfold listPods at hpods
  rw [h] at hpods
  refine (mapM_eq_ok_iff.1 hpods).imp fun o pod hconverted => ?_
  cases hobject : Pod.ofObject o with
  | ok p =>
    rw [hobject] at hconverted
    cases hconverted
    rfl
  | error e =>
    rw [hobject] at hconverted
    cases hconverted

open PodObject Readiness

/-- **Readiness, read off the objects.** Let the pods of a namespace come as objects that can be
converted. Then a workload is ready on a node if and only if the first of them that is its pod there has
no container with a blank mark; the pod that is found is that object's, and none is found exactly if no
object is one. An object that was not given a node is no pod of any workload on any node. -/
theorem readiness_of_objects (api : Api) (now : Moment) (turn : Nat) (w : Workload) (node : String)
    (os : List PodObject) (hlisted : api.pods w.ns = .ok os)
    (hconvert : ∀ o ∈ os, ∃ pod, Pod.ofObject o = .ok pod) :
    ∃ ready found, (isReady (api.cluster now).list turn node w).result = .ok ready ∧
      (findPod (api.cluster now).list turn node w).result = .ok found ∧
      (ready = true ↔ ∃ o, FirstToRun os w node o ∧ o.AllReady) ∧
      (∀ pod, found = some pod ↔ ∃ o, FirstToRun os w node o ∧ Pod.ofObject o = .ok pod) ∧
      (found = none ↔ ∀ o ∈ os, ¬ o.Runs w node) ∧
      ∀ o pod, o.spec = none ∨ o.spec = some ⟨.null⟩ → Pod.ofObject o = .ok pod →
        ∀ v m, select m v [pod] = none := by
  obtain ⟨pods, hpods⟩ := Api.exists_listPods hlisted hconvert
  have hconverts := Api.converts_listPods hlisted hpods
  refine ⟨shows node w pods, select node w pods, isReady_eq_ok_iff.2 ⟨pods, hpods, rfl⟩,
    findPod_eq_ok_iff.2 ⟨pods, hpods, rfl⟩, shows_eq_true_iff hconverts,
    fun _ => select_eq_some_iff hconverts, select_eq_none_iff hconverts, ?_⟩
  intro o pod hspec hobject v m
  -- one object is a listing, too
  have hconverts : Converts [o] [pod] := .cons hobject .nil
  rw [select_eq_none_iff hconverts, List.forall_mem_singleton]
  exact fun hruns => not_isOn_of_unbound hspec m hruns.2

namespace Crowded

open Drifted

/-- Pods of the namespace, by their names, owners, nodes and marks. -/
def object (name : String) (owners : Option (List Value)) (node : Option PodSpec)
    (marks : Option PodStatus) : PodObject :=
  ⟨.text name, .text "kube-system", owners, node, marks⟩

def waiting : PodObject := object "fluentd-1" (some [.text "fluentd"]) none none

def stray : PodObject := object "fluentd" none (some ⟨.text "worker-1"⟩) none

/-- Its marks are no truth values, and nothing blank either. -/
def running : PodObject :=
  object "fluentd-2" (some [.text "logging", .text "fluentd"]) (some ⟨.text "worker-1"⟩)
    (some ⟨some [.int 1, .text "yes"]⟩)

def late : PodObject :=
  object "fluentd-3" (some [.text "fluentd"]) (some ⟨.text "worker-1"⟩) (some ⟨some [.bool false]⟩)

def objects : List PodObject := [waiting, stray, running, late]

def api : Api := { Outage.calm with pods := fun _ => .ok objects }

theorem converts : ∀ o ∈ objects, ∃ pod, Pod.ofObject o = .ok pod := by
  simp only [objects, List.forall_mem_cons]
  exact ⟨⟨_, rfl⟩, ⟨_, rfl⟩, ⟨_, rfl⟩, ⟨_, rfl⟩, List.forall_mem_nil _⟩

theorem firstToRun : FirstToRun objects fluentd "worker-1" running := by
  refine ⟨[waiting, stray], [late], rfl, ?_, ⟨⟨_, rfl, .text "fluentd", by simp, rfl⟩, _, rfl, rfl⟩⟩
  simp only [List.forall_mem_cons]
  refine ⟨fun h => not_isOn_of_unbound (.inl rfl) _ h.2, fun h => ?_, List.forall_mem_nil _⟩
  obtain ⟨_, howners, _⟩ := h.1
  cases howners

end Crowded

open Drifted Crowded in
/-- The first pod was not given a node, the second has no owner; the third counts, and the last, which
is not ready, does not. -/
theorem readiness_of_objects_crowded :
    api.pods fluentd.ns = .ok objects ∧ (∀ o ∈ objects, ∃ pod, Pod.ofObject o = .ok pod) ∧
    (isReady (api.cluster now).list 0 "worker-1" fluentd).result = .ok true ∧
    (findPod (api.cluster now).list 0 "worker-1" fluentd).result =
      .ok (some ⟨"fluentd-2", "kube-system", some "worker-1", ["logging", "fluentd"], [true, true]⟩) ∧
    select "worker-1" fluentd [⟨"fluentd-1", "kube-system", none, ["fluentd"], []⟩] = none := by
  obtain ⟨ready, found, hready, hfound, hreadyiff, hfoundiff, _, hunbound⟩ :=
    readiness_of_objects api now 0 fluentd "worker-1" objects rfl converts
  have hmarks : running.AllReady := by
    intro marks hstatus
    cases hstatus
    simp [Value.isBlank]
  refine ⟨rfl, converts, ?_, ?_, hunbound waiting _ (.inl rfl) rfl _ _⟩
  · rw [hready, hreadyiff.2 ⟨running, firstToRun, hmarks⟩]
  · have hobject : Pod.ofObject running =
        .ok ⟨"fluentd-2", "kube-system", some "worker-1", ["logging", "fluentd"], [true, true]⟩ := rfl
    rw [hfound, (hfoundiff _).2 ⟨running, firstToRun, hobject⟩]

end NodeGate
