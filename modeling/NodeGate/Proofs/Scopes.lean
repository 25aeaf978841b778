import NodeGate.Policy
import NodeGate.Proofs.Dicts

/-!
# Scope

Which nodes a policy gates is decided by their labels. A selector is satisfied by labels that have all of
its entries, so it is read as a set and not as a list, and a key with another value is as good as absent
(`selects_iff`). The scope of a policy then is what its selector admits less what its rejecter admits, but
a rejecter without entries, which would admit everything, takes nothing away (`inScope_iff`).

So scope moves one way as a policy gets more entries, with one turn. A longer selector narrows it, a longer
rejecter widens it, and the first entry of a rejecter narrows it. All three are cases of one comparison of
policies (`inScope_of_narrower`), and so is the fact that the order of the entries does not matter.
-/

set_option autoImplicit false

namespace NodeGate

/-! ## Labels as a set of entries -/

/-- The entries of labels as a selector would name them. -/
def Dict.raw (labels : Dict String) : Dict RawText where
  entries := labels.entries.map fun e => (RawText.ofString e.1, RawText.ofString e.2)
  nodup := by
    have hkeys := labels.nodup.map (f := RawText.ofString) fun _ _ => RawText.ofString_inj.1
    rwa [List.map_map] at hkeys ⊢

section Entries

variable {labels labels' : Dict String}

theorem Dict.mem_raw_iff {e : RawText × RawText} :
    e ∈ labels.raw.entries ↔
      ∃ key value, (key, value) ∈ labels.entries ∧ e = (.ofString key, .ofString value) := by
  unfold Dict.raw
  rw [List.mem_map]
  constructor
  · rintro ⟨⟨key, value⟩, hmem, rfl⟩
    exact ⟨key, value, hmem, rfl⟩
  · rintro ⟨key, value, hmem, rfl⟩
    exact ⟨(key, value), hmem, rfl⟩

theorem Dict.Within.raw (h : labels.Within labels') : labels.raw.Within labels'.raw := by
  intro e he
  obtain ⟨key, value, hmem, rfl⟩ := Dict.mem_raw_iff.1 he
  exact Dict.mem_raw_iff.2 ⟨key, value, h _ hmem, rfl⟩

theorem hasEntry_iff {e : RawText × RawText} : hasEntry labels e = true ↔ e ∈ labels.raw.entries := by
  rw [Dict.mem_raw_iff]
  constructor
  · intro h
    unfold hasEntry at h
    split at h
    · rename_i key value hkey hvalue
      exact ⟨key, value, Dict.get?_eq_some_iff.1 (beq_iff_eq.1 h),
        Prod.ext (RawText.string?_eq_some_iff.1 hkey) (RawText.string?_eq_some_iff.1 hvalue)⟩
    · cases h
  · rintro ⟨key, value, hmem, rfl⟩
    unfold hasEntry
    rw [RawText.string?_ofString, RawText.string?_ofString]
    exact beq_iff_eq.2 (Dict.get?_eq_some_iff.2 hmem)

/-- A selector is satisfied by labels among which it lies. -/
theorem selects_iff {selector : Selector} :
    selects selector labels = true ↔ selector.Within labels.raw := by
  unfold selects
  rw [List.all_eq_true]
  exact forall₂_congr fun _ _ => hasEntry_iff

/-! ## Scope as a set of labels -/

namespace Policy

variable {p q : Policy} {key value : RawText}

theorem inScope_iff :
    p.inScope labels = true ↔
      p.selector.Within labels.raw ∧ (p.rejecter.isEmpty = false → ¬ p.rejecter.Within labels.raw) := by
  unfold inScope
  rw [Bool.and_eq_true, Bool.not_eq_true', Bool.and_eq_false_imp, Bool.not_eq_true', selects_iff,
    ← Bool.not_eq_true (selects p.rejecter labels), selects_iff]

/-! ## Policies with more entries -/

/-- `q` has every node in scope that `p` has, by what they ask for: it selects by no more than `p`, and if
it rejects at all, then so does `p`, and by no more than `q`. -/
structure Narrower (p q : Policy) : Prop where
  selector : q.selector.Within p.selector
  /-- No rejecter is wider than one without entries, which rejects nobody, although it asks for nothing. -/
  rejecter : q.rejecter.isEmpty = false → p.rejecter.isEmpty = false ∧ p.rejecter.Within q.rejecter

/-- **What a policy has in scope, every wider one has.** -/
theorem inScope_of_narrower (h : p.Narrower q) (hin : p.inScope labels = true) :
    q.inScope labels = true := by
  obtain ⟨hselector, hrejecter⟩ := inScope_iff.1 hin
  refine inScope_iff.2 ⟨h.selector.trans hselector, fun hne hall => ?_⟩
  obtain ⟨hne', hwithin⟩ := h.rejecter hne
  exact hrejecter hne' (hwithin.trans hall)

theorem narrower_of_same (hselector : q.selector.Same p.selector)
    (hrejecter : q.rejecter.Same p.rejecter) : p.Narrower q where
  selector := hselector.within
  rejecter hne := ⟨hrejecter.isEmpty_eq ▸ hne, Dict.Same.within hrejecter.symm⟩

/-- The policy with one more entry in its selector. -/
def selectAlso (p : Policy) (key value : RawText) : Policy :=
  { p with selector := p.selector.insert key value }

/-- The policy with one more entry in its rejecter. -/
def rejectAlso (p : Policy) (key value : RawText) : Policy :=
  { p with rejecter := p.rejecter.insert key value }

theorem narrower_selectAlso (h : p.selector.contains key = false) :
    (p.selectAlso key value).Narrower p where
  selector := Dict.within_insert value h
  rejecter hne := ⟨hne, .refl _⟩

theorem narrower_rejectAlso (h : p.rejecter.contains key = false) (hne : p.rejecter.isEmpty = false) :
    p.Narrower (p.rejectAlso key value) where
  selector := .refl _
  rejecter _ := ⟨hne, Dict.within_insert value h⟩

/-- The first entry of a rejecter is the one that makes it reject. -/
theorem rejectAlso_narrower (hempty : p.rejecter.isEmpty = true) :
    (p.rejectAlso key value).Narrower p where
  selector := .refl _
  rejecter hne := absurd hempty (Bool.eq_false_iff.1 hne)

/-! ## Nodes with more labels -/

theorem inScope_congr_labels (h : labels'.Same labels) : p.inScope labels' = p.inScope labels := by
  have hraw : ∀ s : Selector, s.Within labels'.raw ↔ s.Within labels.raw := fun s =>
    ⟨fun hs => hs.trans h.within.raw, fun hs => hs.trans (Dict.Same.within h.symm).raw⟩
  rw [Bool.eq_iff_iff, inScope_iff, inScope_iff, hraw, hraw]

/-- More labels never make a node fail the selector, so the rejecter alone can throw it out. -/
theorem inScope_eq_false_iff_of_within (h : labels.Within labels') (hin : p.inScope labels = true) :
    p.inScope labels' = false ↔ p.rejecter.isEmpty = false ∧ p.rejecter.Within labels'.raw := by
  have hselector : p.selector.Within labels'.raw := (inScope_iff.1 hin).1.trans h.raw
  rw [← Bool.not_eq_true, inScope_iff, and_iff_right hselector, Classical.not_imp, not_not]

end Policy

end Entries

/-- **Scope is a matter of entries.** A node is in scope if its labels have every entry of the selector
and, unless the rejecter is empty, lack some entry of that. The order of entries is immaterial on all three
sides. A new key in the selector brings no node into scope. A new key in the rejecter takes no node out of
scope if the rejecter has entries, and brings none in if it has not. A node in scope that gets more labels
leaves it just if the rejecter is not empty and the labels have all of its entries by then. -/
theorem scope_of_entries (p : Policy) (labels : Dict String) :
    (p.inScope labels = true ↔
      (∀ e ∈ p.selector.entries, e ∈ labels.raw.entries) ∧
      (p.rejecter.isEmpty = false → ∃ e ∈ p.rejecter.entries, e ∉ labels.raw.entries)) ∧
    (∀ (q : Policy) (labels' : Dict String), q.selector.Same p.selector →
      q.rejecter.Same p.rejecter → labels'.Same labels → q.inScope labels' = p.inScope labels) ∧
    (∀ key value, p.selector.contains key = false →
      (p.selectAlso key value).inScope labels = true → p.inScope labels = true) ∧
    (∀ key value, p.rejecter.contains key = false → p.rejecter.isEmpty = false →
      p.inScope labels = true → (p.rejectAlso key value).inScope labels = true) ∧
    (∀ key value, p.rejecter.isEmpty = true →
      (p.rejectAlso key value).inScope labels = true → p.inScope labels = true) ∧
    ∀ labels' : Dict String, labels.Within labels' → p.inScope labels = true →
      (p.inScope labels' = false ↔
        p.rejecter.isEmpty = false ∧ ∀ e ∈ p.rejecter.entries, e ∈ labels'.raw.entries) := by
  refine ⟨?entries, ?order, ?selected, ?rejected, ?unrejected, ?labelled⟩
  case entries =>
    rw [Policy.inScope_iff, Dict.not_within_iff]
    rfl
  case order =>
    intro q labels' hselector hrejecter hlabels
    rw [Policy.inScope_congr_labels hlabels, Bool.eq_iff_iff]
    exact ⟨Policy.inScope_of_narrower (Policy.narrower_of_same hselector.symm hrejecter.symm),
      Policy.inScope_of_narrower (Policy.narrower_of_same hselector hrejecter)⟩
  case selected =>
    intro key value hnew
    exact Policy.inScope_of_narrower (Policy.narrower_selectAlso hnew)
  case rejected =>
    intro key value hnew hne
    exact Policy.inScope_of_narrower (Policy.narrower_rejectAlso hnew hne)
  case unrejected =>
    intro key value hempty
    exact Policy.inScope_of_narrower (Policy.rejectAlso_narrower hempty)
  case labelled =>
    intro labels' hwithin hin
    exact Policy.inScope_eq_false_iff_of_within hwithin hin

namespace Upkeep

def entry (key value : String) : RawText × RawText := (.ofString key, .ofString value)

/-- The workers of one zone are gated, but for spare ones that are worked on. -/
def policy : Policy where
  workloads := []
  selector := Dict.ofList [entry "role" "worker", entry "zone" "b"]
  rejecter := Dict.ofList [entry "pool" "spare", entry "upkeep" "now"]
  sweepOutOfScope := false
  markFirstReady := true
  distinct := List.nodup_nil

/-- The policy with its entries in another order. -/
def reordered : Policy :=
  { policy with
    selector := Dict.ofList [entry "zone" "b", entry "role" "worker"]
    rejecter := Dict.ofList [entry "upkeep" "now", entry "pool" "spare"] }

/-- The policy that rejects nobody. -/
def lenient : Policy := { policy with rejecter := Dict.empty }

def spare : Dict String := Dict.ofList [("pool", "spare"), ("role", "worker"), ("zone", "b")]

def shuffled : Dict String := Dict.ofList [("zone", "b"), ("pool", "spare"), ("role", "worker")]

end Upkeep

open Upkeep in
/-- A spare worker is in scope, in whatever order its labels and the entries of the policy come. Upkeep
that is planned for later is as good as none, and upkeep that begins takes it out. It is in scope as well
if one more entry is needed to reject it, and if nobody is rejected. -/
theorem scope_of_entries_upkeep :
    policy.inScope spare = true ∧ reordered.inScope shuffled = true ∧
    (policy.selectAlso (.ofString "pool") (.ofString "spare")).inScope spare = true ∧
    policy.inScope (spare.insert "upkeep" "later") = true ∧
    policy.inScope (spare.insert "upkeep" "now") = false ∧
    (policy.rejectAlso (.ofString "arch") (.ofString "arm")).inScope spare = true ∧
    (lenient.rejectAlso (.ofString "upkeep") (.ofString "now")).inScope spare = true ∧
    lenient.inScope spare = true := by
  obtain ⟨-, horder, hselected, hrejected, -, hlabelled⟩ := scope_of_entries policy spare
  obtain ⟨-, -, -, -, hunrejected, -⟩ := scope_of_entries lenient spare
  have hmore : (policy.selectAlso (.ofString "pool") (.ofString "spare")).inScope spare = true := by
    decide
  have hin : policy.inScope spare = true := hselected _ _ (by decide) hmore
  have hfirst : (lenient.rejectAlso (.ofString "upkeep") (.ofString "now")).inScope spare = true := by
    decide
  refine ⟨hin, ?_, hmore, ?_, ?_, ?_, hfirst, ?_⟩
  · exact (horder reordered shuffled (by decide) (by decide) (by decide)).trans hin
  · rw [← Bool.not_eq_false, hlabelled _ (by decide) hin]
    decide
  · exact (hlabelled _ (by decide) hin).2 (by decide)
  · exact hrejected _ _ (by decide) (by decide) hin
  · exact hunrejected _ _ (by decide) hfirst

end NodeGate
