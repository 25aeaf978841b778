import NodeGate.Workload

/-!
# Policies

A policy says which workloads gate which nodes: the workloads, a selector that a node must match, a
selector it must not match, and two switches. No workload is listed twice; that is a field of
`Policy`.
-/

set_option autoImplicit false

namespace NodeGate

/-! ## Selectors -/

/-- Entries that labels have to have. A selector comes from a file and may hold raw text, labels do
not. -/
abbrev Selector := Dict RawText

/-- Is the entry among the labels? One with halves of surrogate pairs never is. -/
def hasEntry (labels : Dict String) (e : RawText × RawText) : Bool :=
  match e.1.string?, e.2.string? with
  | some key, some value => labels.get? key == some value
  | _, _ => false

/-- Are all entries of the selector among the labels? -/
def selects (selector : Selector) (labels : Dict String) : Bool :=
  selector.entries.all (hasEntry labels)

/-- An absent or empty selector may be written in any blank form. -/
def checkSelector (v : Value) : Checked Selector :=
  if v.isBlank then .ok Dict.empty else Check.dict Check.rawText v

/-! ## Repetitions -/

/-- The first item that is among `seen` or equal to an earlier one. -/
def firstRepeat {α : Type} [DecidableEq α] (seen : List α) : List α → Option α
  | [] => none
  | a :: rest => if a ∈ seen then some a else firstRepeat (a :: seen) rest

theorem firstRepeat_eq_none_iff {α : Type} [DecidableEq α] (seen items : List α) :
    firstRepeat seen items = none ↔ items.Nodup ∧ ∀ a ∈ items, a ∉ seen := by
  induction items generalizing seen with
  | nil => simp [firstRepeat]
  | cons a rest ih =>
    simp only [firstRepeat, List.nodup_cons, List.mem_cons, forall_eq_or_imp]
    split
    · rename_i h
      simp [h]
    · rename_i h
      rw [ih]
      constructor
      · rintro ⟨hr, hs⟩
        exact ⟨⟨fun ha => hs a ha (List.mem_cons_self ..), hr⟩, h,
          fun b hb hbs => hs b hb (List.mem_cons_of_mem _ hbs)⟩
      · rintro ⟨⟨ha, hr⟩, _, hs⟩
        refine ⟨hr, fun b hb hbs => ?_⟩
        rcases List.mem_cons.1 hbs with rfl | hbs
        · exact ha hb
        · exact hs b hb hbs

/-- Valid workloads, none twice. The repetition is looked for only among valid ones, and the first
is named. -/
def checkWorkloads (v : Value) : Checked { ws : List Workload // ws.Nodup } := do
  let ws ← Check.tuple Workload.check v
  match h : firstRepeat [] ws with
  | none => .ok ⟨ws, ((firstRepeat_eq_none_iff [] ws).1 h).1⟩
  | some w => Checked.fail (.rule s!"workload '{w.text}' is listed more than once")

/-! ## Policies -/

/-- `selector` and `rejecter` decide the scope, `sweepOutOfScope` says whether nodes that left it
are cleaned, `markFirstReady` whether a node is stamped when it is first free of gates. -/
structure Policy where
  workloads : List Workload
  selector : Selector
  rejecter : Selector
  sweepOutOfScope : Bool
  markFirstReady : Bool
  distinct : workloads.Nodup
deriving DecidableEq

namespace Policy

/-- Is a node with these labels gated? An empty selector selects every node, an empty rejecter
rejects none. -/
def inScope (p : Policy) (labels : Dict String) : Bool :=
  selects p.selector labels && !(!p.rejecter.isEmpty && selects p.rejecter labels)

def check : Value → Checked Policy
  | .map es =>
    let workloads := Check.aliased "daemonsets" "workloads" ⟨[], List.nodup_nil⟩ checkWorkloads es
    let selector := Check.aliased "nodeSelector" "include" Dict.empty checkSelector es
    let rejecter := Check.aliased "nodeRejecter" "exclude" Dict.empty checkSelector es
    let sweep := Check.aliased "sweepOutOfScope" "sweep_out_of_scope" false Check.truth es
    let mark := Check.aliased "markFirstReady" "mark_first_ready" true Check.truth es
    (Checked.both workloads (Checked.both selector (Checked.both rejecter
      (Checked.both sweep mark)))).map fun (workloads, selector, rejecter, sweep, mark) =>
        ⟨workloads.1, selector, rejecter, sweep, mark, workloads.2⟩
  | _ => Checked.fail (.notRecord "Policy")

end Policy

end NodeGate
