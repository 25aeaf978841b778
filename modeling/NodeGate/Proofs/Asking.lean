import NodeGate.Proofs.Runs
import NodeGate.Readiness

/-!
# What a pass finds out by asking

`Readiness.unready` is a loop of questions that stops at the first one that stays open. Here its
outcome is told apart from the asking: `Answered` says that every question of the loop is answered,
`waiting` which workloads the answers leave waiting. The loop gives `waiting`, and it gives it exactly
when all questions are answered (`unready_eq_ok_iff`).

Each workload is judged by the listing of its own turn. Nothing is assumed of two listings of one
namespace.
-/

set_option autoImplicit false

namespace NodeGate
namespace Readiness

/-! ## Answers -/

/-- Is the workload's pod on the node among the pods, and ready? -/
def shows (node : String) (w : Workload) (pods : List Pod) : Bool := (select node w pods).any Pod.ready

/-- Does the listing of the turn show the workload ready on the node? -/
def showsAt (lister : Lister) (node : String) (turn : Nat) (w : Workload) : Bool :=
  match lister turn w.ns with
  | .ok pods => shows node w pods
  | .error _ => false

/-- All listings that the workloads ask for succeed; the first one asks in the turn `turn`. -/
def Answered (lister : Lister) (turn : Nat) (ws : List Workload) : Prop :=
  ∀ i w, ws[i]? = some w → ∃ pods, lister (turn + i) w.ns = .ok pods

/-- The workloads that the listings of their turns do not show ready, in order. -/
def waiting (lister : Lister) (node : String) (turn : Nat) (ws : List Workload) : List Workload :=
  ((ws.zipIdx turn).filter fun p => !showsAt lister node p.2 p.1).map Prod.fst

theorem answered_nil (lister : Lister) (turn : Nat) : Answered lister turn [] := by
  intro i w h
  cases h

/-- What holds of the workloads in their turns holds of the first one in the turn `turn` and of the
others from the next turn on. -/
theorem forall_turns_cons {P : Nat → Workload → Prop} {turn : Nat} {w : Workload}
    {ws : List Workload} :
    (∀ i v, (w :: ws)[i]? = some v → P (turn + i) v) ↔
      P turn w ∧ ∀ i v, ws[i]? = some v → P (turn + 1 + i) v := by
  constructor
  · intro h
    refine ⟨h 0 w rfl, fun i v hv => ?_⟩
    rw [Nat.add_right_comm, Nat.add_assoc]
    exact h (i + 1) v hv
  · rintro ⟨hw, hws⟩ i v hv
    cases i with
    | zero =>
      cases hv
      exact hw
    | succ i =>
      rw [Nat.add_comm i 1, ← Nat.add_assoc]
      exact hws i v hv

theorem answered_cons {lister : Lister} {turn : Nat} {w : Workload} {ws : List Workload} :
    Answered lister turn (w :: ws) ↔
      (∃ pods, lister turn w.ns = .ok pods) ∧ Answered lister (turn + 1) ws :=
  forall_turns_cons (P := fun turn w => ∃ pods, lister turn w.ns = .ok pods)

theorem waiting_cons (lister : Lister) (node : String) (turn : Nat) (w : Workload)
    (ws : List Workload) :
    waiting lister node turn (w :: ws) =
      if showsAt lister node turn w then waiting lister node (turn + 1) ws
      else w :: waiting lister node (turn + 1) ws := by
  unfold waiting
  rw [List.zipIdx_cons, List.filter_cons]
  cases showsAt lister node turn w <;> rfl

/-- Who waits is found among those asked about, in their order. -/
theorem waiting_sublist (lister : Lister) (node : String) (turn : Nat) (ws : List Workload) :
    (waiting lister node turn ws).Sublist ws := by
  have h : (waiting lister node turn ws).Sublist ((ws.zipIdx turn).map Prod.fst) :=
    List.Sublist.map Prod.fst List.filter_sublist
  rwa [List.zipIdx_map_fst] at h

/-! ## Listers that agree -/

/-- Both listers show the same pods to each of the workloads in its turn. -/
def Alike (lister lister' : Lister) (turn : Nat) (ws : List Workload) : Prop :=
  ∀ i w, ws[i]? = some w →
    ∃ pods, lister (turn + i) w.ns = .ok pods ∧ lister' (turn + i) w.ns = .ok pods

section Alike

variable {lister lister' : Lister} {turn : Nat} {ws : List Workload}

theorem Answered.alike_self (h : Answered lister turn ws) : Alike lister lister turn ws := by
  intro i w hw
  obtain ⟨pods, hpods⟩ := h i w hw
  exact ⟨pods, hpods, hpods⟩

theorem Alike.answered_left (h : Alike lister lister' turn ws) : Answered lister turn ws := by
  intro i w hw
  obtain ⟨pods, hpods, _⟩ := h i w hw
  exact ⟨pods, hpods⟩

theorem Alike.answered_right (h : Alike lister lister' turn ws) : Answered lister' turn ws := by
  intro i w hw
  obtain ⟨pods, _, hpods⟩ := h i w hw
  exact ⟨pods, hpods⟩

theorem Alike.waiting_eq (h : Alike lister lister' turn ws) (node : String) :
    waiting lister' node turn ws = waiting lister node turn ws := by
  induction ws generalizing turn with
  | nil => rfl
  | cons w ws ih =>
    obtain ⟨⟨pods, hpods, hpods'⟩, hws⟩ := forall_turns_cons
      (P := fun turn w => ∃ pods, lister turn w.ns = .ok pods ∧ lister' turn w.ns = .ok pods).1 h
    have hshows : showsAt lister' node turn w = showsAt lister node turn w := by
      rw [showsAt, showsAt, hpods, hpods']
    rw [waiting_cons, waiting_cons, hshows, ih hws]

end Alike

/-! ## The loop -/

theorem findPod_eq_ok_iff {lister : Lister} {turn : Nat} {node : String} {w : Workload}
    {found : Option Pod} :
    (findPod lister turn node w).result = .ok found ↔
      ∃ pods, lister turn w.ns = .ok pods ∧ found = select node w pods := by
  unfold findPod
  rw [Run.result_ask]
  cases lister turn w.ns with
  | ok pods =>
    constructor
    · intro h
      cases h
      exact ⟨pods, rfl, rfl⟩
    · intro h
      rcases h with ⟨_, h, rfl⟩
      cases h
      rfl
  | error f =>
    constructor
    · intro h
      cases h
    · intro h
      rcases h with ⟨_, h, _⟩
      cases h

theorem isReady_eq_ok_iff {lister : Lister} {turn : Nat} {node : String} {w : Workload}
    {ready : Bool} :
    (isReady lister turn node w).result = .ok ready ↔
      ∃ pods, lister turn w.ns = .ok pods ∧ ready = shows node w pods := by
  unfold isReady
  rw [Run.result_bind_eq_ok_iff]
  constructor
  · intro h
    rcases h with ⟨found, hfound, h⟩
    obtain ⟨pods, hpods, rfl⟩ := findPod_eq_ok_iff.1 hfound
    refine ⟨pods, hpods, ?_⟩
    unfold shows
    cases hselect : select node w pods with
    | none =>
      rw [hselect] at h
      cases h
      rfl
    | some pod =>
      rw [hselect] at h
      cases h
      rfl
  · intro h
    rcases h with ⟨pods, hpods, rfl⟩
    refine ⟨_, findPod_eq_ok_iff.2 ⟨pods, hpods, rfl⟩, ?_⟩
    unfold shows
    cases select node w pods with
    | none => rfl
    | some pod => rfl

/-- **The loop gives those who wait, and exactly if every question is answered.** -/
theorem unready_eq_ok_iff {lister : Lister} {node : String} {turn : Nat} {ws found : List Workload} :
    (unready lister node turn ws).result = .ok found ↔
      Answered lister turn ws ∧ found = waiting lister node turn ws := by
  induction ws generalizing turn found with
  | nil =>
    simp only [unready, Run.result_pure, Except.ok.injEq, answered_nil, true_and]
    exact eq_comm
  | cons w ws ih =>
    simp only [unready, Run.result_bind_eq_ok_iff, Run.result_pure, Except.ok.injEq]
    rw [answered_cons, waiting_cons]
    constructor
    · intro h
      rcases h with ⟨ready, hready, others, hothers, rfl⟩
      obtain ⟨pods, hpods, rfl⟩ := isReady_eq_ok_iff.1 hready
      obtain ⟨hws, rfl⟩ := ih.1 hothers
      refine ⟨⟨⟨pods, hpods⟩, hws⟩, ?_⟩
      rw [showsAt, hpods]
    · intro h
      rcases h with ⟨⟨⟨pods, hpods⟩, hws⟩, rfl⟩
      refine ⟨_, isReady_eq_ok_iff.2 ⟨pods, hpods, rfl⟩, _, ih.2 ⟨hws, rfl⟩, ?_⟩
      rw [showsAt, hpods]

/-! ## Questions that stay open -/

/-- Of the listings that the workloads ask for, the one for `w` is the first that fails, with `f`. -/
def FirstLost (lister : Lister) (turn : Nat) (ws : List Workload) (w : Workload) (f : Failure) :
    Prop :=
  ∃ before after, ws = before ++ w :: after ∧ Answered lister turn before ∧
    lister (turn + before.length) w.ns = .error f

theorem not_firstLost_nil {lister : Lister} {turn : Nat} {w : Workload} {f : Failure} :
    ¬ FirstLost lister turn [] w f := by
  rintro ⟨before, after, hws, _⟩
  cases before <;> cases hws

theorem firstLost_cons {lister : Lister} {turn : Nat} {v w : Workload} {ws : List Workload}
    {f : Failure} :
    FirstLost lister turn (v :: ws) w f ↔
      v = w ∧ lister turn v.ns = .error f ∨
        (∃ pods, lister turn v.ns = .ok pods) ∧ FirstLost lister (turn + 1) ws w f := by
  constructor
  · rintro ⟨before, after, hws, hans, hlost⟩
    cases before with
    | nil =>
      obtain ⟨rfl, _⟩ := List.cons.inj hws
      exact .inl ⟨rfl, hlost⟩
    | cons u before =>
      obtain ⟨rfl, rfl⟩ := List.cons.inj hws
      obtain ⟨hv, hans⟩ := answered_cons.1 hans
      rw [List.length_cons, Nat.add_comm before.length 1, ← Nat.add_assoc] at hlost
      exact .inr ⟨hv, before, after, rfl, hans, hlost⟩
  · intro h
    rcases h with ⟨rfl, hlost⟩ | ⟨hv, before, after, rfl, hans, hlost⟩
    · exact ⟨[], ws, rfl, answered_nil lister turn, hlost⟩
    · refine ⟨v :: before, after, rfl, answered_cons.2 ⟨hv, hans⟩, ?_⟩
      rwa [List.length_cons, Nat.add_comm before.length 1, ← Nat.add_assoc]

theorem isReady_eq_error_iff {lister : Lister} {turn : Nat} {node : String} {w : Workload}
    {g : Failure} :
    (isReady lister turn node w).result = .error g ↔
      ∃ f, lister turn w.ns = .error f ∧ g = unknown w f := by
  unfold isReady findPod
  rw [Run.result_bind_eq_error_iff, Run.result_ask]
  cases lister turn w.ns with
  | ok pods =>
    -- a listing that is there is not lost on the way to the answer
    constructor
    · intro h
      rcases h with h | ⟨found, _, h⟩
      · cases h
      · cases found <;> cases h
    · rintro ⟨f, h, _⟩
      cases h
  | error f =>
    constructor
    · intro h
      rcases h with h | ⟨found, h, _⟩
      · cases h
        exact ⟨f, rfl, rfl⟩
      · cases h
    · rintro ⟨f', h, rfl⟩
      cases h
      exact .inl rfl

/-- **The loop fails at the first listing that does,** and with the failure that answers for it. -/
theorem unready_eq_error_iff {lister : Lister} {node : String} {turn : Nat} {ws : List Workload}
    {g : Failure} :
    (unready lister node turn ws).result = .error g ↔
      ∃ w f, FirstLost lister turn ws w f ∧ g = unknown w f := by
  induction ws generalizing turn with
  | nil =>
    constructor
    · intro h
      cases h
    · rintro ⟨w, f, h, _⟩
      exact absurd h not_firstLost_nil
  | cons v ws ih =>
    simp only [unready, Run.result_bind_eq_error_iff, Run.result_pure, isReady_eq_error_iff, ih,
      firstLost_cons]
    constructor
    · rintro (⟨f, hlost, rfl⟩ | ⟨ready, hready, (⟨w, f, hlost, rfl⟩ | ⟨others, _, h⟩)⟩)
      · exact ⟨v, f, .inl ⟨rfl, hlost⟩, rfl⟩
      · obtain ⟨pods, hpods, _⟩ := isReady_eq_ok_iff.1 hready
        exact ⟨w, f, .inr ⟨⟨pods, hpods⟩, hlost⟩, rfl⟩
      · cases h
    · rintro ⟨w, f, (⟨rfl, hlost⟩ | ⟨⟨pods, hpods⟩, hlost⟩), rfl⟩
      · exact .inl ⟨f, hlost, rfl⟩
      · exact .inr ⟨_, isReady_eq_ok_iff.2 ⟨pods, hpods, rfl⟩, .inl ⟨w, f, hlost, rfl⟩⟩

/-! ## The asking -/

theorem asks_isReady (lister : Lister) (turn : Nat) (node : String) (w : Workload) :
    (isReady lister turn node w).Asks := by
  unfold isReady findPod
  refine (Run.asks_ask _ _).bind fun found => ?_
  cases found with
  | none => exact (Run.asks_log _ _ _).bind fun _ => Run.asks_pure _
  | some pod => exact (Run.asks_log _ _ _).bind fun _ => Run.asks_pure _

theorem asks_unready (lister : Lister) (node : String) (turn : Nat) (ws : List Workload) :
    (unready lister node turn ws).Asks := by
  induction ws generalizing turn with
  | nil => exact Run.asks_pure _
  | cons w ws ih =>
    unfold unready
    exact (asks_isReady lister turn node w).bind fun _ =>
      (ih (turn + 1)).bind fun _ => Run.asks_pure _

end Readiness
end NodeGate
