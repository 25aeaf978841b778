import NodeGate.Run

/-!
# What composed runs do

A run is put together by `>>=`. This file says what that means for the steps and for the result, so
that the files about passes never open `Run.andThen`. There are two cases, `bind_of_ok` and
`bind_of_error`: a run that ended well goes on with its result, a run that failed is over. A loop whose
runs all end well does their steps one after the other (`forM_of_ok`, `mapM_of_ok`).

A pass over a node only asks and takes notes until its outcome is fixed. `Run.Asks` says that of a
run; such a run writes nothing and reports nothing.
-/

set_option autoImplicit false

namespace NodeGate
namespace Run

variable {α β : Type}

/-! ## Going on after a run -/

theorem bind_of_ok {r : Run α} {a : α} (h : r.result = .ok a) (next : α → Run β) :
    r >>= next = ⟨r.trace ++ (next a).trace, (next a).result⟩ := by
  show andThen r next = _
  unfold andThen
  rw [h]

theorem bind_of_error {r : Run α} {f : Failure} (h : r.result = .error f) (next : α → Run β) :
    r >>= next = ⟨r.trace, .error f⟩ := by
  show andThen r next = _
  unfold andThen
  rw [h]

theorem calls_bind_of_ok {r : Run α} {a : α} (h : r.result = .ok a) (next : α → Run β) :
    (r >>= next).calls = r.calls ++ (next a).calls := by
  rw [bind_of_ok h]
  exact List.filterMap_append

theorem calls_bind_of_error {r : Run α} {f : Failure} (h : r.result = .error f)
    (next : α → Run β) : (r >>= next).calls = r.calls := by
  rw [bind_of_error h]
  rfl

/-- What goes on without calls adds none, whether it comes to that or not. -/
theorem calls_bind_of_quiet {r : Run α} {next : α → Run β} (h : ∀ a, (next a).calls = []) :
    (r >>= next).calls = r.calls := by
  cases hr : r.result with
  | ok a => rw [calls_bind_of_ok hr, h a, List.append_nil]
  | error f => rw [calls_bind_of_error hr]

theorem updates_bind_of_ok {r : Run α} {a : α} (h : r.result = .ok a) (next : α → Run β) :
    (r >>= next).updates = r.updates ++ (next a).updates := by
  unfold updates
  rw [calls_bind_of_ok h, List.filterMap_append]

theorem updates_bind_of_error {r : Run α} {f : Failure} (h : r.result = .error f)
    (next : α → Run β) : (r >>= next).updates = r.updates := by
  unfold updates
  rw [calls_bind_of_error h]

theorem updates_bind_of_quiet {r : Run α} {next : α → Run β} (h : ∀ a, (next a).calls = []) :
    (r >>= next).updates = r.updates := by
  unfold updates
  rw [calls_bind_of_quiet h]

theorem result_bind (r : Run α) (next : α → Run β) :
    (r >>= next).result = r.result.bind fun a => (next a).result := by
  cases h : r.result with
  | ok a => rw [bind_of_ok h]; rfl
  | error f => rw [bind_of_error h]; rfl

theorem result_bind_eq_ok_iff {r : Run α} {next : α → Run β} {b : β} :
    (r >>= next).result = .ok b ↔ ∃ a, r.result = .ok a ∧ (next a).result = .ok b := by
  rw [result_bind]
  cases r.result with
  | ok a => simp [Except.bind]
  | error f => simp [Except.bind]

theorem result_bind_eq_error_iff {r : Run α} {next : α → Run β} {f : Failure} :
    (r >>= next).result = .error f ↔
      r.result = .error f ∨ ∃ a, r.result = .ok a ∧ (next a).result = .error f := by
  rw [result_bind]
  cases r.result with
  | ok a => simp [Except.bind]
  | error g => simp [Except.bind]

theorem result_mapFailure_eq_ok_iff {r : Run α} {reword : Failure → Failure} {a : α} :
    (r.mapFailure reword).result = .ok a ↔ r.result = .ok a := by
  unfold mapFailure
  cases r.result with
  | ok b => rfl
  | error f =>
    constructor
    · intro h
      cases h
    · intro h
      cases h

@[simp]
theorem result_pure (a : α) : (pure a : Run α).result = .ok a := rfl

@[simp]
theorem result_log (level : Level) (part message : String) :
    (log level part message).result = .ok () := rfl

@[simp]
theorem result_ask (c : Call) (answer : Except Failure α) : (ask c answer).result = answer := rfl

/-- The run with these steps taken before it. -/
def after (steps : List Step) (r : Run α) : Run α := ⟨steps ++ r.trace, r.result⟩

theorem after_append (steps rest : List Step) (r : Run α) :
    after (steps ++ rest) r = after steps (after rest r) := by
  unfold after
  rw [List.append_assoc]

theorem bind_eq_after {r : Run α} {a : α} (h : r.result = .ok a) (next : α → Run β) :
    r >>= next = after r.trace (next a) := bind_of_ok h next

theorem after_bind (steps : List Step) (r : Run α) (next : α → Run β) :
    after steps r >>= next = after steps (r >>= next) := by
  cases h : r.result with
  | ok a =>
    have hafter : (after steps r).result = .ok a := h
    rw [bind_eq_after h, bind_eq_after hafter]
    exact after_append steps r.trace (next a)
  | error f =>
    have hafter : (after steps r).result = .error f := h
    rw [bind_of_error h, bind_of_error hafter]
    rfl

theorem outcome_after (steps : List Step) (r : Run α) :
    (after steps r).outcome = after steps r.outcome := by
  obtain ⟨trace, f | a⟩ := r
  · cases f with
    | _ => rfl
  · rfl

/-- What holds of all steps of a run and of what may come after it holds of all steps of both. -/
theorem forall_mem_bind {P : Step → Prop} {r : Run α} {next : α → Run β}
    (hr : ∀ s ∈ r.trace, P s) (hnext : ∀ a, ∀ s ∈ (next a).trace, P s) :
    ∀ s ∈ (r >>= next).trace, P s := by
  intro s hs
  cases h : r.result with
  | ok a =>
    rw [bind_of_ok h] at hs
    rcases List.mem_append.1 hs with hs | hs
    · exact hr s hs
    · exact hnext a s hs
  | error f =>
    rw [bind_of_error h] at hs
    exact hr s hs

/-! ## Runs that only print -/

theorem printed_map_print (printed : List Printed) (result : Except Failure α) :
    (⟨printed.map .print, result⟩ : Run α).printed = printed := by
  induction printed with
  | nil => rfl
  | cons p printed ih => exact congrArg (p :: ·) ih

theorem calls_map_print (printed : List Printed) (result : Except Failure α) :
    (⟨printed.map .print, result⟩ : Run α).calls = [] := by
  unfold calls
  rw [List.filterMap_map, List.filterMap_eq_nil_iff]
  exact fun _ _ => rfl

/-! ## Going through a list -/

instance : LawfulMonad Run := LawfulMonad.mk' Run
  (by
    intro α r
    show andThen r ok = r
    obtain ⟨trace, _ | a⟩ := r
    · rfl
    · simp [andThen, ok])
  (fun _ _ => rfl)
  (by
    intro α β γ r f g
    show andThen (andThen r f) g = andThen r fun a => andThen (f a) g
    obtain ⟨trace, _ | a⟩ := r
    · rfl
    · cases h : (f a).result with
      | ok b => simp [andThen, h]
      | error e => simp [andThen, h])

variable {f : α → Run β} {as : List α}

theorem forM_of_ok {f : α → Run Unit} (h : ∀ a ∈ as, (f a).result = .ok ()) :
    as.forM f = ⟨as.flatMap fun a => (f a).trace, .ok ()⟩ := by
  induction as with
  | nil => rfl
  | cons a as ih =>
    show f a >>= (fun _ => as.forM f) = _
    rw [bind_of_ok (h a List.mem_cons_self), ih fun b hb => h b (List.mem_cons_of_mem a hb)]
    rfl

theorem mapM_of_ok {g : α → β} (h : ∀ a ∈ as, (f a).result = .ok (g a)) :
    as.mapM f = ⟨as.flatMap fun a => (f a).trace, .ok (as.map g)⟩ := by
  induction as with
  | nil => rfl
  | cons a as ih =>
    rw [List.mapM_cons, bind_of_ok (h a List.mem_cons_self),
      ih fun b hb => h b (List.mem_cons_of_mem a hb)]
    show (⟨_ ++ (_ ++ []), _⟩ : Run (List β)) = _
    rw [List.append_nil]
    rfl

/-- The results of a loop are those of its runs, up to the first failure. -/
theorem result_mapM (f : α → Run β) (as : List α) :
    (as.mapM f).result = as.mapM fun a => (f a).result := by
  induction as with
  | nil => rfl
  | cons a as ih =>
    rw [List.mapM_cons, List.mapM_cons, result_bind, ← ih]
    cases (f a).result with
    | ok b =>
      show (as.mapM f >>= _).result = _
      rw [result_bind]
      rfl
    | error e => rfl

theorem forall_mem_mapM {P : Step → Prop} (h : ∀ a, ∀ s ∈ (f a).trace, P s) (as : List α) :
    ∀ s ∈ (as.mapM f).trace, P s := by
  induction as with
  | nil => exact List.forall_mem_nil _
  | cons a as ih =>
    rw [List.mapM_cons]
    exact forall_mem_bind (h a) fun _ => forall_mem_bind ih fun _ => List.forall_mem_nil _

/-- Numbers that nobody looks at make no difference. -/
theorem mapM_zipIdx (f : α → Run β) (as : List α) (k : Nat) :
    (as.zipIdx k).mapM (fun p => f p.1) = as.mapM f := by
  induction as generalizing k with
  | nil => rfl
  | cons a as ih => rw [List.zipIdx_cons, List.mapM_cons, List.mapM_cons, ih]

/-! ## Runs that only ask -/

/-- Every step lists pods or takes a note. -/
def Asks (r : Run α) : Prop :=
  ∀ s ∈ r.trace, (∃ record, s = .log record) ∨ ∃ ns, s = .call (.listPods ns)

theorem asks_pure (a : α) : (pure a : Run α).Asks := by
  intro s hs
  cases hs

theorem asks_log (level : Level) (part message : String) : (log level part message).Asks := by
  intro s hs
  rw [List.mem_singleton.1 hs]
  exact .inl ⟨_, rfl⟩

theorem asks_ask (ns : String) (answer : Except Failure α) : (ask (.listPods ns) answer).Asks := by
  intro s hs
  rw [List.mem_singleton.1 hs]
  exact .inr ⟨ns, rfl⟩

theorem Asks.bind {r : Run α} {next : α → Run β} (hr : r.Asks) (hnext : ∀ a, (next a).Asks) :
    (r >>= next).Asks := forall_mem_bind hr hnext

theorem Asks.exists_of_mem_calls {r : Run α} (h : r.Asks) {c : Call} (hc : c ∈ r.calls) :
    ∃ ns, c = .listPods ns := by
  obtain ⟨s, hs, hsc⟩ := List.mem_filterMap.1 hc
  rcases h s hs with ⟨record, rfl⟩ | ⟨ns, rfl⟩
  · cases hsc
  · cases hsc
    exact ⟨ns, rfl⟩

/-- There are no updates if no step is one. -/
theorem updates_eq_nil_iff {r : Run α} :
    r.updates = [] ↔ ∀ s ∈ r.trace, ∀ n, s ≠ .call (.update n) := by
  unfold updates calls
  rw [List.filterMap_filterMap, List.filterMap_eq_nil_iff]
  refine forall₂_congr fun s _ => ?_
  cases s with
  | call c => cases c <;> simp
  | _ => simp

/-- There are no events if no step is one. -/
theorem events_eq_nil_iff {r : Run α} :
    r.events = [] ↔ ∀ s ∈ r.trace, ∀ e, s ≠ .call (.emit e) := by
  unfold events calls
  rw [List.filterMap_filterMap, List.filterMap_eq_nil_iff]
  refine forall₂_congr fun s _ => ?_
  cases s with
  | call c => cases c <;> simp
  | _ => simp

theorem Asks.updates_eq_nil {r : Run α} (h : r.Asks) : r.updates = [] := by
  unfold updates
  rw [List.filterMap_eq_nil_iff]
  intro c hc
  obtain ⟨ns, rfl⟩ := h.exists_of_mem_calls hc
  rfl

theorem Asks.events_eq_nil {r : Run α} (h : r.Asks) : r.events = [] := by
  unfold events
  rw [List.filterMap_eq_nil_iff]
  intro c hc
  obtain ⟨ns, rfl⟩ := h.exists_of_mem_calls hc
  rfl

end Run
end NodeGate
