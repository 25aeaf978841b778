import NodeGate.Proofs.Repeats
import NodeGate.Proofs.Timelines

/-!
# The stamp over time

A pass stamps a node only where it sees no stamp, but what it sees may be old: another pass may have
stamped the object since, and then a second stamp is written over the first, with a later time.

Nothing else goes wrong. No patch takes a stamp off, and a pass that does not stamp sends back the
stamp it has seen, so it can only spread what was there. Hence the first stamp stays exactly if no
pass stamps late (`Timeline.steady_run_iff`), and a late pass handles a state that had no stamp yet
(`Timeline.Late.exists_unstamped`).
-/

set_option autoImplicit false

namespace NodeGate

/-- The stamp on the object, if it has one that can be read. -/
def NodeObject.stamp? (o : NodeObject) : Option String := o.annotationAt? firstReadyKey

/-! ## The stamp of a pass -/

theorem stamp_of_passed {lister : Lister} {p : Policy} {now : Moment} {n : Node} {r : Result}
    (hpass : (reconcile lister p now n).result = .ok r) :
    (r.firstReadyMarked = true ∧ n.annotations.get? firstReadyKey = none ∧
      r.node.annotations.get? firstReadyKey = some now.stamp) ∨
    (r.firstReadyMarked = false ∧
      r.node.annotations.get? firstReadyKey = n.annotations.get? firstReadyKey) := by
  obtain ⟨_, rfl⟩ := reconcile_eq_ok_iff.1 hpass
  rw [verdict_eq (p.nodup_waiting lister n)]
  -- gating leaves the annotations, so what is seen of the gated node was there
  rcases p.stamp_cases now (n.gated (p.waiting lister n) (p.sweeps n.labels)) with
    hstamp | ⟨hnew, hstamp⟩
  · right
    rw [hstamp]
    exact ⟨rfl, rfl⟩
  · left
    rw [hstamp]
    refine ⟨rfl, ?_, ?_⟩
    · exact Option.isNone_iff_eq_none.1 (Option.isSome_eq_false_iff.1 hnew)
    · exact (Dict.get?_insert _ _ _ _).trans (if_pos rfl)

theorem NodeObject.stamp?_apply {o : NodeObject} {s : String} (m : Node) (h : o.stamp? = some s) :
    (m.toPatch.apply o).stamp? = (m.annotations.get? firstReadyKey).or (some s) :=
  (annotationAt?_apply m h).trans (if_pos (by decide))

/-! ## States and their stamps -/

namespace NodeObject

/-- The later object has the stamp of the earlier, if that has one. -/
def KeepsStamp (earlier later : NodeObject) : Prop :=
  ∀ s, earlier.stamp? = some s → later.stamp? = some s

/-- The later object has some stamp if the earlier has one. -/
def StaysStamped (earlier later : NodeObject) : Prop :=
  earlier.stamp?.isSome = true → later.stamp?.isSome = true

variable {a b c : NodeObject}

theorem KeepsStamp.refl (a : NodeObject) : a.KeepsStamp a := fun _ hs => hs

theorem KeepsStamp.trans (h : a.KeepsStamp b) (h' : b.KeepsStamp c) : a.KeepsStamp c :=
  fun s hs => h' s (h s hs)

theorem StaysStamped.refl (a : NodeObject) : a.StaysStamped a := fun hs => hs

theorem StaysStamped.trans (h : a.StaysStamped b) (h' : b.StaysStamped c) : a.StaysStamped c :=
  fun hs => h' (h hs)

theorem KeepsStamp.staysStamped (h : a.KeepsStamp b) : a.StaysStamped b := by
  intro ha
  obtain ⟨s, hs⟩ := Option.isSome_iff_exists.1 ha
  exact Option.isSome_iff_exists.2 ⟨s, h s hs⟩

end NodeObject

namespace Timeline

/-- Other writers leave a stamp that is there. -/
def Spares (t : Timeline) : Happening → Prop
  | .written o => t.current.KeepsStamp o
  | .handled _ _ => True

/-- A pass that stamps when the object has been stamped at another time. -/
def Late (t : Timeline) : Happening → Prop
  | .written _ => False
  | .handled version p =>
    ∃ n r s, t.Shows version n ∧ (reconcile p.lister p.policy p.now n).result = .ok r ∧
      r.firstReadyMarked = true ∧ t.current.stamp? = some s ∧ s ≠ p.now.stamp

/-- Once a state has a stamp, all later ones have the same. -/
def Steady (t : Timeline) : Prop := t.states.Pairwise NodeObject.KeepsStamp

/-- Once a state has a stamp, all later ones have some. -/
def Stamped (t : Timeline) : Prop := t.states.Pairwise NodeObject.StaysStamped

variable {t : Timeline} {version : Nat} {p : Pass}

/-- A pass cannot be late if the state it handles has a stamp. -/
theorem Late.exists_unstamped (h : t.Late (.handled version p)) :
    ∃ o, t.states[version]? = some o ∧ o.stamp? = none := by
  obtain ⟨n, r, s, ⟨o, hstate, hread⟩, hpass, hmarked, _, _⟩ := h
  refine ⟨o, hstate, (NodeObject.annotationAt?_of_ofObject hread _).trans ?_⟩
  rcases stamp_of_passed hpass with ⟨_, hnone, _⟩ | ⟨hnot, _⟩
  · exact hnone
  · rw [hmarked] at hnot
    cases hnot

/-- Whether a pass is late is seen from its result and the current state. -/
theorem late_iff_of_passed {n : Node} {r : Result} (hshows : t.Shows version n)
    (hpass : (reconcile p.lister p.policy p.now n).result = .ok r) :
    t.Late (.handled version p) ↔
      r.firstReadyMarked = true ∧ ∃ s, t.current.stamp? = some s ∧ s ≠ p.now.stamp := by
  constructor
  · intro h
    obtain ⟨n', r', s, ⟨o', hstate', hread'⟩, hpass', hmarked, hs, hne⟩ := h
    obtain ⟨o, hstate, hread⟩ := hshows
    rw [hstate] at hstate'
    cases hstate'
    rw [hread] at hread'
    cases hread'
    rw [hpass] at hpass'
    cases hpass'
    exact ⟨hmarked, s, hs, hne⟩
  · intro h
    rcases h with ⟨hmarked, s, hs, hne⟩
    exact ⟨n, r, s, hshows, hpass, hmarked, hs, hne⟩

/-! ## Steps -/

/-- A pass over any state leaves the current stamp, or is late and writes its time, or puts back the
stamp that the state had. -/
theorem stamp?_advance_cases {s : String} (hs : t.current.stamp? = some s) (version : Nat) (p : Pass) :
    (t.advance (.handled version p)).current.stamp? = some s ∨
    (t.Late (.handled version p) ∧
      (t.advance (.handled version p)).current.stamp? = some p.now.stamp) ∨
    ∃ seen s', t.states[version]? = some seen ∧ seen.stamp? = some s' ∧
      (t.advance (.handled version p)).current.stamp? = some s' := by
  rcases t.writes_cases version p with hnone | ⟨n, r, hshows, hpass, _, hwrites⟩
  · rw [advance_of_writes_eq_nil hnone]
    exact .inl hs
  · have hnext : (t.advance (.handled version p)).current.stamp? =
        (r.node.annotations.get? firstReadyKey).or (some s) := by
      rw [advance_of_writes hwrites]
      exact NodeObject.stamp?_apply r.node hs
    rw [hnext]
    rcases stamp_of_passed hpass with ⟨hmarked, _, hstamp⟩ | ⟨_, hstamp⟩
    · rw [hstamp]
      -- two stamps of one time cannot be told apart
      by_cases hsame : s = p.now.stamp
      · exact .inl (congrArg some hsame.symm)
      · exact .inr (.inl ⟨⟨n, r, s, hshows, hpass, hmarked, hs, hsame⟩, rfl⟩)
    · obtain ⟨seen, hstate, hread⟩ := hshows
      have hseen : seen.stamp? = n.annotations.get? firstReadyKey :=
        NodeObject.annotationAt?_of_ofObject hread _
      rw [hstamp, ← hseen]
      cases hs' : seen.stamp? with
      | none => exact .inl rfl
      | some s' => exact .inr (.inr ⟨seen, s', hstate, hs', rfl⟩)

theorem staysStamped_advance {h : Happening} (hspares : t.Spares h) :
    t.current.StaysStamped (t.advance h).current := by
  cases h with
  | written o => exact NodeObject.KeepsStamp.staysStamped hspares
  | handled version p =>
    intro hsome
    obtain ⟨s, hs⟩ := Option.isSome_iff_exists.1 hsome
    rw [Option.isSome_iff_exists]
    rcases stamp?_advance_cases hs version p with hnext | ⟨_, hnext⟩ | ⟨_, s', _, _, hnext⟩
    · exact ⟨s, hnext⟩
    · exact ⟨p.now.stamp, hnext⟩
    · exact ⟨s', hnext⟩

theorem keepsStamp_advance (ht : t.Steady) {h : Happening} (hspares : t.Spares h)
    (hlate : ¬ t.Late h) : t.current.KeepsStamp (t.advance h).current := by
  cases h with
  | written o => exact hspares
  | handled version p =>
    intro s hs
    rcases stamp?_advance_cases hs version p with hnext | ⟨hislate, _⟩ | ⟨o, s', hstate, ho, hnext⟩
    · exact hnext
    · exact absurd hislate hlate
    · -- no state has had another stamp than the current one
      have hkept : t.current.stamp? = some s' :=
        rel_current NodeObject.KeepsStamp.refl ht (List.mem_of_getElem? hstate) s' ho
      rw [hnext, ← hkept, hs]

/-- A late pass writes another stamp. -/
theorem not_steady_advance {h : Happening} (hlate : t.Late h) : ¬ (t.advance h).Steady := by
  cases h with
  | written o => cases hlate
  | handled version p =>
    obtain ⟨n, r, s, hshows, hpass, hmarked, hs, hne⟩ := hlate
    have hchanged : r.changed = true := by
      rw [Result.changed, hmarked, Bool.or_true]
    have hwrites : t.writes version p = [r.node] :=
      (writes_of_passed hshows hpass).trans (if_pos hchanged)
    intro hsteady
    rw [advance_of_writes hwrites] at hsteady
    -- were the states steady, the one that is written would have the stamp of the one before
    have hkept : (r.node.toPatch.apply t.current).stamp? = some s :=
      rel_current NodeObject.KeepsStamp.refl hsteady (List.mem_append_left _ t.current_mem_states) s hs
    rw [NodeObject.stamp?_apply r.node hs] at hkept
    rcases stamp_of_passed hpass with ⟨_, _, hstamp⟩ | ⟨hnot, _⟩
    · rw [hstamp] at hkept
      exact hne (Option.some.inj hkept).symm
    · rw [hmarked] at hnot
      cases hnot

/-! ## Runs -/

theorem stamped_since (o : NodeObject) : (since o).Stamped := List.pairwise_singleton _ o

theorem steady_since (o : NodeObject) : (since o).Steady := List.pairwise_singleton _ o

theorem stamped_run (ht : t.Stamped) {hs : List Happening} (hspared : t.Along Spares hs) :
    (t.run hs).Stamped := by
  -- on what is still to happen, from whatever timeline has come of the rest
  induction hs generalizing t with
  | nil => exact ht
  | cons h hs ih =>
    obtain ⟨hspares, hspared⟩ := hspared
    refine ih ?_ hspared
    exact pairwise_advance NodeObject.StaysStamped.refl ht NodeObject.StaysStamped.trans
      (staysStamped_advance hspares)

theorem steady_run_iff (ht : t.Steady) {hs : List Happening} (hspared : t.Along Spares hs) :
    (t.run hs).Steady ↔ t.Along (fun t h => ¬ t.Late h) hs := by
  -- up to the first late pass the states are steady, and from there on they are not
  induction hs generalizing t with
  | nil => exact iff_of_true ht trivial
  | cons h hs ih =>
    obtain ⟨hspares, hspared⟩ := hspared
    by_cases hlate : t.Late h
    · refine iff_of_false ?_ fun halong => halong.1 hlate
      intro hsteady
      exact not_steady_advance hlate
        (hsteady.sublist (states_prefix_run (t.advance h) hs).sublist)
    · have hadv : (t.advance h).Steady :=
        pairwise_advance NodeObject.KeepsStamp.refl ht NodeObject.KeepsStamp.trans
          (keepsStamp_advance ht hspares hlate)
      exact (ih hadv hspared).trans (and_iff_right hlate).symm

end Timeline

/-- **When the first stamp stays.** The controller handles any states of an object in any order, at
any times, and others write in between but leave a stamp that is there. Then no state after a stamped
one is without a stamp, and all of them have the stamp of the first exactly if no pass stamps late. A
pass that does so handles a state without a stamp. Whatever others write, a pass over a stamped object
leaves its stamp, or is late and writes its time, or puts back the stamp of the state it handles. -/
theorem first_stamp_stays_iff (o : NodeObject) (hs : List Happening)
    (hspared : (Timeline.since o).Along Timeline.Spares hs) :
    ((Timeline.since o).run hs).Stamped ∧
    (((Timeline.since o).run hs).Steady ↔
      (Timeline.since o).Along (fun t h => ¬ t.Late h) hs) ∧
    (∀ t version p, Timeline.Late t (.handled version p) →
      ∃ seen, t.states[version]? = some seen ∧ seen.stamp? = none) ∧
    ∀ (t : Timeline) (s : String) (version : Nat) (p : Pass), t.current.stamp? = some s →
      (t.advance (.handled version p)).current.stamp? = some s ∨
      (t.Late (.handled version p) ∧
        (t.advance (.handled version p)).current.stamp? = some p.now.stamp) ∨
      ∃ seen s', t.states[version]? = some seen ∧ seen.stamp? = some s' ∧
        (t.advance (.handled version p)).current.stamp? = some s' :=
  ⟨Timeline.stamped_run (Timeline.stamped_since o) hspared,
    Timeline.steady_run_iff (Timeline.steady_since o) hspared,
    fun _ _ _ => Timeline.Late.exists_unstamped,
    fun _ _ version p hs => Timeline.stamp?_advance_cases hs version p⟩

namespace Buffered

open Drifted Overtaken

/-- Somebody else labels the object and leaves the rest. -/
def labelled (o : NodeObject) : NodeObject :=
  { o with labels := .map [(.text "zone", .text "b")] }

def stamped : NodeObject :=
  { bare with
    annotations := .map [(.text firstReadyKey, .text now.stamp)]
    spec := some ⟨none⟩ }

/-- Two workloads wait, so the node is gated and not stamped. -/
def gating : Pass := ⟨policy, pods, Repeated.later⟩

def stampingLater : Pass := { stamping with now := Repeated.later }

/-- The bare state is handled again when it is two states old. -/
def happenings : List Happening :=
  [.handled 0 stamping, .written (labelled stamped), .handled 0 gating]

theorem spared : (Timeline.since bare).Along Timeline.Spares happenings := by
  refine ⟨trivial, ?_, trivial, trivial⟩
  intro s hs
  exact (show (labelled stamped).stamp? = stamped.stamp? by decide).trans hs

theorem notLate : (Timeline.since bare).Along (fun t h => ¬ t.Late h) happenings := by
  refine ⟨?_, fun h => h, ?_, trivial⟩
  · -- nothing is stamped yet
    rintro ⟨_, _, s, _, _, _, hs, _⟩
    cases hs
  · -- the node is gated, so the pass does not mark it
    intro h
    have hmarked := ((Timeline.late_iff_of_passed ⟨bare, rfl, rfl⟩ rfl).1 h).1
    revert hmarked
    decide

end Buffered

/-- The bare object is stamped and labelled, and then the bare state is delivered once more. By now two
workloads wait, so the pass over it gates the node. It has seen no stamp and sends none, so the stamp
stays. -/
theorem first_stamp_stays_iff_buffered :
    (Timeline.since Overtaken.bare).Along Timeline.Spares Buffered.happenings ∧
    (Timeline.since Overtaken.bare).Along (fun t h => ¬ t.Late h) Buffered.happenings ∧
    ((Timeline.since Overtaken.bare).run Buffered.happenings).Steady ∧
    ((Timeline.since Overtaken.bare).run Buffered.happenings).states.map NodeObject.stamp? =
      [none, some Drifted.now.stamp, some Drifted.now.stamp, some Drifted.now.stamp] := by
  obtain ⟨_, hsteady, _⟩ := first_stamp_stays_iff Overtaken.bare Buffered.happenings Buffered.spared
  exact ⟨Buffered.spared, Buffered.notLate, hsteady.2 Buffered.notLate, by decide⟩

/-- Two states without a stamp are delivered in order, the second when the pass over the first has long
written its stamp. The pass over the second stamps again, a second later. -/
theorem stamp_written_again :
    (Timeline.since Overtaken.bare).Along Timeline.Spares
      [.written (Buffered.labelled Overtaken.bare), .handled 0 Overtaken.stamping,
        .handled 1 Buffered.stampingLater] ∧
    ((Timeline.since Overtaken.bare).run
      [.written (Buffered.labelled Overtaken.bare), .handled 0 Overtaken.stamping,
        .handled 1 Buffered.stampingLater]).states.map NodeObject.stamp? =
      [none, none, some Drifted.now.stamp, some Repeated.later.stamp] ∧
    Drifted.now.stamp ≠ Repeated.later.stamp := by
  refine ⟨⟨?_, trivial, trivial, trivial⟩, by decide, by decide⟩
  intro s hs
  cases hs

end NodeGate
