import NodeGate.Proofs.Keys
import NodeGate.Reconcile

/-!
# What settling comes to

`settle` hands a list of unclaimed keys through the workloads and then filters taints by what is
left. Put together that is a closed form with no state in it: the taints that are kept, in node order,
and then a gate for every waiting workload whose key the node lacks (`settle_eq`).

The closed form needs the workloads to be distinct. Two of one key would each be asked for, the first
would claim the key and the second would get a gate of its own.
-/

set_option autoImplicit false

namespace NodeGate

/-! ## Owned keys of a node -/

theorem nodup_eraseDups {α : Type} [DecidableEq α] (as : List α) : as.eraseDups.Nodup := by
  -- `eraseDups` recurses on what a filter leaves, so the induction is on the length
  induction hn : as.length using Nat.strongRecOn generalizing as with
  | ind n ih =>
    cases as with
    | nil => exact List.nodup_nil
    | cons a as =>
      rw [List.eraseDups_cons, List.nodup_cons, List.mem_eraseDups]
      have hshort : (as.filter fun b => !b == a).length < n := by
        have := List.length_filter_le (fun b => !b == a) as
        simp only [List.length_cons] at hn
        omega
      exact ⟨by simp, ih _ hshort _ rfl⟩

namespace Node

theorem nodup_ownedKeys (n : Node) : n.ownedKeys.Nodup := nodup_eraseDups _

theorem mem_ownedKeys {n : Node} {key : String} :
    key ∈ n.ownedKeys ↔ key ∈ n.taints.map Taint.key ∧ isOwned key = true := by
  unfold ownedKeys ownedTaints
  rw [List.mem_eraseDups]
  constructor
  · intro h
    obtain ⟨t, ht, rfl⟩ := List.mem_map.1 h
    obtain ⟨ht, howned⟩ := List.mem_filter.1 ht
    exact ⟨List.mem_map_of_mem ht, howned⟩
  · intro h
    rcases h with ⟨h, howned⟩
    obtain ⟨t, ht, rfl⟩ := List.mem_map.1 h
    exact List.mem_map_of_mem (List.mem_filter.2 ⟨ht, howned⟩)

theorem taintKey_mem_ownedKeys {n : Node} {w : Workload} :
    w.taintKey ∈ n.ownedKeys ↔ w.taintKey ∈ n.taints.map Taint.key := by
  rw [mem_ownedKeys]
  exact and_iff_left w.isOwned_taintKey

end Node

/-! ## Claims -/

/-- With distinct keys on both sides no claim gets in the way of another. -/
theorem claim_eq {stale : List String} {ws : List Workload} (hstale : stale.Nodup)
    (hws : (ws.map Workload.taintKey).Nodup) :
    claim stale ws =
      (stale.filter fun key => key ∉ ws.map Workload.taintKey,
        ws.filter fun w => w.taintKey ∉ stale) := by
  induction ws generalizing stale with
  | nil => simp [claim]
  | cons w ws ih =>
    obtain ⟨hw, hws⟩ := List.nodup_cons.1 hws
    unfold claim
    split
    · -- the key is claimed: it leaves the stale ones, where no later workload can want it
      rename_i hmem
      rw [ih (hstale.erase _) hws, hstale.erase_eq_filter]
      refine Prod.ext ?_ ?_
      · rw [List.filter_filter]
        refine List.filter_congr fun key _ => ?_
        by_cases hkey : key = w.taintKey
        · simp [hkey]
        · simp [hkey]
      · rw [List.filter_cons_of_neg (by simpa using hmem)]
        refine List.filter_congr fun v hv => ?_
        have hne : v.taintKey ≠ w.taintKey := by
          intro h
          exact hw (h ▸ List.mem_map_of_mem hv)
        simp [hne]
    · rename_i hmem
      rw [ih hstale hws, List.filter_cons_of_pos (by simpa using hmem)]
      refine Prod.ext ?_ rfl
      refine List.filter_congr fun key hkey => ?_
      have hne : key ≠ w.taintKey := by
        rintro rfl
        exact hmem hkey
      simp [hne]

/-! ## The closed form -/

namespace Node

/-- The taints that stay where they are: all that are not owned, those that a waiting workload
claims, and the other owned ones if nothing is swept. -/
def kept (n : Node) (waiting : List Workload) (sweep : Bool) : List Taint :=
  n.taints.filter fun t => !t.owned || t.key ∈ waiting.map Workload.taintKey || !sweep

/-- The waiting workloads whose key no taint carries. -/
def ungated (n : Node) (waiting : List Workload) : List Workload :=
  waiting.filter fun w => w.taintKey ∉ n.taints.map Taint.key

/-- The owned keys that no waiting workload claims, in node order. -/
def unclaimed (n : Node) (waiting : List Workload) : List String :=
  n.ownedKeys.filter fun key => key ∉ waiting.map Workload.taintKey

/-- The node with the taints that a pass leaves on it. -/
def gated (n : Node) (waiting : List Workload) (sweep : Bool) : Node :=
  { n with taints := n.kept waiting sweep ++ (n.ungated waiting).map Workload.gate }

theorem mem_unclaimed {n : Node} {waiting : List Workload} {key : String} :
    key ∈ n.unclaimed waiting ↔
      key ∈ n.ownedKeys ∧ key ∉ waiting.map Workload.taintKey := by
  unfold unclaimed
  rw [List.mem_filter, decide_eq_true_iff]

theorem mem_ungated {n : Node} {waiting : List Workload} {w : Workload} :
    w ∈ n.ungated waiting ↔ w ∈ waiting ∧ w.taintKey ∉ n.taints.map Taint.key := by
  unfold ungated
  rw [List.mem_filter, decide_eq_true_iff]

theorem mem_kept {n : Node} {waiting : List Workload} {sweep : Bool} {t : Taint} :
    t ∈ n.kept waiting sweep ↔ t ∈ n.taints ∧
      (t.owned = true → t.key ∈ waiting.map Workload.taintKey ∨ sweep = false) := by
  unfold kept
  rw [List.mem_filter]
  cases t.owned <;> simp

end Node

theorem claim_ownedKeys (n : Node) {waiting : List Workload} (h : waiting.Nodup) :
    claim n.ownedKeys waiting = (n.unclaimed waiting, n.ungated waiting) := by
  rw [claim_eq n.nodup_ownedKeys (Workload.nodup_taintKeys h)]
  refine Prod.ext rfl ?_
  refine List.filter_congr fun w _ => ?_
  simp only [Node.taintKey_mem_ownedKeys]

/-- **What settling comes to.** A taint goes if its key is removed, and the keys that are removed are
owned, claimed by nobody, and swept; so no fresh gate is among what goes. -/
theorem settle_eq (n : Node) {waiting : List Workload} (sweep : Bool) (h : waiting.Nodup) :
    settle n waiting sweep =
      (n.gated waiting sweep,
        { added := (n.ungated waiting).map Workload.taintKey
          removed := if sweep then n.unclaimed waiting else [] }) := by
  unfold settle
  rw [claim_ownedKeys n h]
  refine Prod.ext ?_ rfl
  simp only [Node.gated, Node.mk.injEq, true_and, and_true, List.filter_append]
  congr 1
  · -- of the taints of the node the removal leaves those that are kept
    refine List.filter_congr fun t ht => ?_
    have hgone : t.key ∈ n.unclaimed waiting ↔
        t.owned = true ∧ t.key ∉ waiting.map Workload.taintKey := by
      rw [Node.mem_unclaimed, Node.mem_ownedKeys]
      exact and_congr_left' (and_iff_right (List.mem_map_of_mem ht))
    cases sweep with
    | false => simp
    | true =>
      rw [Bool.eq_iff_iff]
      simp [hgone, imp_iff_not_or]
  · -- of the fresh gates it leaves all
    rw [List.filter_eq_self]
    intro t ht
    obtain ⟨w, hw, rfl⟩ := List.mem_map.1 ht
    have hclaimed : w.taintKey ∈ waiting.map Workload.taintKey :=
      List.mem_map_of_mem (Node.mem_ungated.1 hw).1
    cases sweep with
    | false => rfl
    | true => simp [Node.mem_unclaimed, hclaimed]

/-! ## What is on a settled node -/

namespace Node

variable {n : Node} {waiting : List Workload} {sweep : Bool}

/-- The taints that are not the gate's, in node order. -/
def foreignTaints (n : Node) : List Taint := n.taints.filter fun t => !t.owned

theorem mem_gated {t : Taint} :
    t ∈ (n.gated waiting sweep).taints ↔
      t ∈ n.kept waiting sweep ∨ ∃ w ∈ n.ungated waiting, w.gate = t := by
  unfold gated
  rw [List.mem_append, List.mem_map]

/-- Who waits has a taint under its key. -/
theorem taintKey_mem_gated {w : Workload} (hw : w ∈ waiting) :
    w.taintKey ∈ (n.gated waiting sweep).taints.map Taint.key := by
  by_cases hkey : w.taintKey ∈ n.taints.map Taint.key
  · obtain ⟨t, ht, htkey⟩ := List.mem_map.1 hkey
    refine List.mem_map.2 ⟨t, mem_gated.2 (.inl (mem_kept.2 ⟨ht, fun _ => .inl ?_⟩)), htkey⟩
    rw [htkey]
    exact List.mem_map_of_mem hw
  · exact List.mem_map.2 ⟨w.gate, mem_gated.2 (.inr ⟨w, mem_ungated.2 ⟨hw, hkey⟩, rfl⟩), rfl⟩

/-- After a sweep nothing owned is left but what is waited for. -/
theorem key_mem_of_owned {t : Taint} (ht : t ∈ (n.gated waiting true).taints)
    (howned : t.owned = true) : t.key ∈ waiting.map Workload.taintKey := by
  rcases mem_gated.1 ht with ht | ⟨w, hw, rfl⟩
  · exact ((mem_kept.1 ht).2 howned).resolve_right (by simp)
  · exact List.mem_map_of_mem (mem_ungated.1 hw).1

theorem mem_ownedKeys_gated {key : String} :
    key ∈ (n.gated waiting true).ownedKeys ↔ key ∈ waiting.map Workload.taintKey := by
  rw [mem_ownedKeys]
  constructor
  · intro h
    rcases h with ⟨hkey, howned⟩
    obtain ⟨t, ht, rfl⟩ := List.mem_map.1 hkey
    exact key_mem_of_owned ht howned
  · intro hkey
    obtain ⟨w, hw, rfl⟩ := List.mem_map.1 hkey
    exact ⟨taintKey_mem_gated hw, w.isOwned_taintKey⟩

/-- Settling leaves foreign taints as they were, in their order. -/
theorem foreignTaints_gated : (n.gated waiting sweep).foreignTaints = n.foreignTaints := by
  have hfresh : (((n.ungated waiting).map Workload.gate).filter fun t => !t.owned) = [] := by
    rw [List.filter_eq_nil_iff]
    intro t ht
    obtain ⟨w, _, rfl⟩ := List.mem_map.1 ht
    simp
  unfold foreignTaints gated kept
  rw [List.filter_append, hfresh, List.append_nil, List.filter_filter]
  refine List.filter_congr fun t _ => ?_
  cases t.owned <;> simp

/-! ## Settled nodes -/

/-- Nothing is left to settle: who waits has a taint, and if there is a sweep, nobody else has. -/
structure Settled (n : Node) (waiting : List Workload) (sweep : Bool) : Prop where
  gates : ∀ w ∈ waiting, w.taintKey ∈ n.taints.map Taint.key
  swept : sweep = true → ∀ t ∈ n.taints, t.owned = true → t.key ∈ waiting.map Workload.taintKey

theorem settled_gated : (n.gated waiting sweep).Settled waiting sweep where
  gates := fun _ hw => taintKey_mem_gated hw
  swept := by
    rintro rfl t ht howned
    exact key_mem_of_owned ht howned

namespace Settled

variable (h : n.Settled waiting sweep)
include h

theorem ungated_eq_nil : n.ungated waiting = [] := by
  unfold ungated
  rw [List.filter_eq_nil_iff]
  intro w hw
  simp [h.gates w hw]

theorem kept_eq : n.kept waiting sweep = n.taints := by
  unfold kept
  rw [List.filter_eq_self]
  intro t ht
  cases hsweep : sweep with
  | false => simp
  | true =>
    cases howned : t.owned with
    | false => simp
    | true => simp [h.swept hsweep t ht howned]

theorem unclaimed_eq_nil (hsweep : sweep = true) : n.unclaimed waiting = [] := by
  rw [List.eq_nil_iff_forall_not_mem]
  intro key hkey
  obtain ⟨howned, hnot⟩ := mem_unclaimed.1 hkey
  obtain ⟨hmem, howned⟩ := mem_ownedKeys.1 howned
  obtain ⟨t, ht, rfl⟩ := List.mem_map.1 hmem
  exact hnot (h.swept hsweep t ht howned)

/-- Settling a settled node changes nothing. -/
theorem gated_eq : n.gated waiting sweep = n := by
  rw [gated, h.kept_eq, h.ungated_eq_nil, List.map_nil, List.append_nil]

end Settled
end Node
end NodeGate
