import Mathlib.Data.List.Nodup
import NodeGate.Workload

/-!
# Taint keys

The key of a workload's gate is owned, and it determines the workload. Both need nothing but the form
of the key and one fact about namespaces: no accepted namespace has a dot. That fact comes out of the
pattern without running it, since a pattern only stands for texts of characters that occur in it
(`Matches.reads`).

Main fact: `taintKey_inj`. A pass finds gates by their keys alone; that it may do so rests on this.
-/

set_option autoImplicit false

namespace NodeGate

/-! ## Which characters a pattern reads -/

namespace Pattern

/-- Can the character stand anywhere in a text of the pattern? -/
def reads : Pattern → Char → Bool
  | .never, _ => false
  | .empty, _ => false
  | .one among, c => among c
  | .cat p q, c => p.reads c || q.reads c
  | .either p q, c => p.reads c || q.reads c
  | .many p, c => p.reads c

theorem Matches.reads {p : Pattern} {s : List Char} (h : Matches p s) :
    ∀ c ∈ s, p.reads c = true := by
  induction h with
  | empty | none => intro c hc; cases hc
  | one h =>
    intro c hc
    rw [List.mem_singleton.1 hc]
    exact h
  | cat _ _ ihp ihq =>
    intro c hc
    simp only [Pattern.reads, Bool.or_eq_true]
    exact (List.mem_append.1 hc).imp (ihp c) (ihq c)
  | left _ ih =>
    intro c hc
    simp only [Pattern.reads, Bool.or_eq_true]
    exact .inl (ih c hc)
  | right _ ih =>
    intro c hc
    simp only [Pattern.reads, Bool.or_eq_true]
    exact .inr (ih c hc)
  | more _ _ ihp ihs =>
    intro c hc
    exact (List.mem_append.1 hc).elim (ihp c) (ihs c)

/-- A line of the pattern has no other characters either, but for the newline at its end. -/
theorem reads_of_acceptsLine {p : Pattern} {s : List Char} (h : p.acceptsLine s = true) :
    ∀ c ∈ s, p.reads c = true ∨ c = '\n' := by
  intro c hc
  simp only [acceptsLine, Bool.or_eq_true, Bool.and_eq_true, beq_iff_eq] at h
  rcases h with h | ⟨hlast, h⟩
  · exact .inl (((accepts_iff p s).1 h).reads c hc)
  · have hs : s = s.dropLast ++ ['\n'] := (List.dropLast_append_getLast? '\n' hlast).symm
    rw [hs] at hc
    rcases List.mem_append.1 hc with hc | hc
    · exact .inl (((accepts_iff p s.dropLast).1 h).reads c hc)
    · exact .inr (List.mem_singleton.1 hc)

end Pattern

/-! ## Namespaces -/

theorem dot_not_mem_of_isNamespace {ns : String} (h : isNamespace ns = true) :
    '.' ∉ ns.toList := by
  intro hdot
  simp only [isNamespace, Bool.and_eq_true] at h
  rcases Pattern.reads_of_acceptsLine h.2 '.' hdot with hreads | hnewline
  · exact absurd hreads (by decide)
  · exact absurd hnewline (by decide)

/-! ## Owned keys -/

theorem toList_ownedKey (ns name : String) :
    (ownedKey ns name).toList =
      (reserved ++ "/").toList ++ (ns.toList ++ '.' :: name.toList) := by
  simp [ownedKey]

theorem isOwned_ownedKey (ns name : String) : isOwned (ownedKey ns name) = true := by
  have hprefix : (reserved ++ "/").toList <+: (ownedKey ns name).toList :=
    ⟨_, (toList_ownedKey ns name).symm⟩
  unfold isOwned
  rw [List.isPrefixOf_iff_prefix.2 hprefix, Bool.or_true]

/-- Two texts with one separator each in front of what may hold more of them. -/
theorem eq_and_eq_of_append_cons {x x' z z' : List Char} {a : Char} (hx : a ∉ x) (hx' : a ∉ x')
    (h : x ++ a :: z = x' ++ a :: z') : x = x' ∧ z = z' := by
  induction x generalizing x' with
  | nil =>
    -- the separator is first on the left, so the other part, which has none, is empty too
    cases x' with
    | nil => exact ⟨rfl, (List.cons.inj h).2⟩
    | cons b x' =>
      obtain ⟨rfl, _⟩ := List.cons.inj h
      exact absurd List.mem_cons_self hx'
  | cons b x ih =>
    cases x' with
    | nil =>
      obtain ⟨rfl, _⟩ := List.cons.inj h
      exact absurd List.mem_cons_self hx
    | cons b' x' =>
      obtain ⟨rfl, htail⟩ := List.cons.inj h
      obtain ⟨rfl, rfl⟩ := ih (fun hmem => hx (List.mem_cons_of_mem _ hmem))
        (fun hmem => hx' (List.mem_cons_of_mem _ hmem)) htail
      exact ⟨rfl, rfl⟩

/-- Without dots in the namespaces the first dot parts a key, whatever dots the names have. -/
theorem ownedKey_inj {ns ns' name name' : String} (h : '.' ∉ ns.toList) (h' : '.' ∉ ns'.toList) :
    ownedKey ns name = ownedKey ns' name' ↔ ns = ns' ∧ name = name' := by
  constructor
  · intro hkey
    rw [← String.toList_inj, toList_ownedKey, toList_ownedKey,
      List.append_cancel_left_eq] at hkey
    obtain ⟨hns, hname⟩ := eq_and_eq_of_append_cons h h' hkey
    exact ⟨String.toList_inj.1 hns, String.toList_inj.1 hname⟩
  · intro h
    rcases h with ⟨rfl, rfl⟩
    rfl

namespace Workload

@[simp]
theorem isOwned_taintKey (w : Workload) : isOwned w.taintKey = true := isOwned_ownedKey w.ns w.name

@[simp]
theorem gate_key (w : Workload) : w.gate.key = w.taintKey := rfl

@[simp]
theorem gate_owned (w : Workload) : w.gate.owned = true := w.isOwned_taintKey

/-- **Two workloads with one key are one workload.** -/
theorem taintKey_inj {v w : Workload} : v.taintKey = w.taintKey ↔ v = w := by
  constructor
  · intro h
    have hparts := (ownedKey_inj (dot_not_mem_of_isNamespace v.ns_ok)
      (dot_not_mem_of_isNamespace w.ns_ok)).1 h
    obtain ⟨vname, vns, _, _, _⟩ := v
    obtain ⟨wname, wns, _, _, _⟩ := w
    obtain ⟨hns, hname⟩ := hparts
    subst hns hname
    rfl
  · rintro rfl
    rfl

theorem nodup_taintKeys {ws : List Workload} (h : ws.Nodup) : (ws.map taintKey).Nodup :=
  List.Nodup.map (fun _ _ hkey => taintKey_inj.1 hkey) h

end Workload
end NodeGate
