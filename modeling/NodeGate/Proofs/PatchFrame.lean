import NodeGate.Proofs.Gates
import NodeGate.Proofs.Patching

/-!
# What a patch leaves alone

A patch is made from one node and may be applied to any object: the one that the node was read from, what
became of that since, or another one altogether. What comes back is put together from both sides. The
taints are all the patch's. Of the annotations the owned ones are the patch's where it has them, and the
others are the object's, for the patch has none of those. The rest is the object's (`patch_frame`).

A node whose object lost nothing in between therefore comes back as itself, but for the order of the
annotations, which is the object's.
-/

set_option autoImplicit false

namespace NodeGate

/-- Nodes that differ by no more than the order of labels and annotations. -/
structure Node.Same (n m : Node) : Prop where
  name : n.name = m.name
  labels : n.labels.Same m.labels
  taints : n.taints = m.taints
  annotations : n.annotations.Same m.annotations

section Merge

variable (d e : Dict String) {key : String}

theorem get?_merge_owned_of_foreign (h : isOwned key = false) :
    (d.merge (e.filterKeys isOwned)).get? key = d.get? key := by
  rw [Dict.get?_merge, Dict.get?_filterKeys, if_neg (by simp [h])]
  rfl

theorem get?_merge_owned_of_owned (h : isOwned key = true) :
    (d.merge (e.filterKeys isOwned)).get? key = (e.get? key).or (d.get? key) := by
  rw [Dict.get?_merge, Dict.get?_filterKeys, if_pos h]

end Merge

/-- Whoever agrees with the dictionary outside of the owned keys and lacks none of its owned ones is what
comes of writing his owned entries over it. -/
theorem same_merge_owned {d e : Dict String}
    (hforeign : ∀ key, isOwned key = false → e.get? key = d.get? key)
    (howned : ∀ key, isOwned key = true → d.contains key = true → e.contains key = true) :
    (d.merge (e.filterKeys isOwned)).Same e := by
  rw [Dict.same_iff]
  intro key
  cases hkey : isOwned key with
  | false => rw [get?_merge_owned_of_foreign d e hkey, hforeign key hkey]
  | true =>
    rw [get?_merge_owned_of_owned d e hkey]
    cases he : e.get? key with
    | some value => rfl
    | none =>
      -- what is not written is not there on the other side either
      cases hd : d.get? key with
      | none => rfl
      | some value =>
        have hcontains := howned key hkey (by simp [Dict.contains, hd])
        simp [Dict.contains, he] at hcontains

/-- **A patch writes its taints and its owned annotations, and nothing else.** Let an object be read as
`n`, and let `m` be any node without empty taint values. Then the object that the patch of `m` makes of it
can be read too, with the name and the labels of `n`, the taints of `m` in order, the annotations of `n`
where they are not owned, and where they are owned those of `m` before those of `n`. If `m` shows what
`n` shows but for the taints and the values of owned annotations, and has all of those, then `m` is what
is read. -/
theorem patch_frame {o : NodeObject} {n : Node} (ho : Node.ofObject o = .ok n) (m : Node)
    (hm : ∀ t ∈ m.taints, t.value ≠ some "") :
    ∃ s, Node.ofObject (m.toPatch.apply o) = .ok s ∧
      s.name = n.name ∧ s.labels = n.labels ∧ s.taints = m.taints ∧
      (∀ key, isOwned key = false → s.annotations.get? key = n.annotations.get? key) ∧
      (∀ key, isOwned key = true →
        s.annotations.get? key = (m.annotations.get? key).or (n.annotations.get? key)) ∧
      (m.name = n.name → m.labels.Same n.labels →
        (∀ key, isOwned key = false → m.annotations.get? key = n.annotations.get? key) →
        (∀ key, isOwned key = true → n.annotations.contains key = true →
          m.annotations.contains key = true) →
        s.Same m) := by
  refine ⟨_, ofObject_apply ho hm, rfl, rfl, rfl, ?foreign, ?owned, ?same⟩
  case foreign =>
    intro key hkey
    exact get?_merge_owned_of_foreign n.annotations m.annotations hkey
  case owned =>
    intro key hkey
    exact get?_merge_owned_of_owned n.annotations m.annotations hkey
  case same =>
    intro hname hlabels hforeign howned
    exact ⟨hname.symm, hlabels.symm, rfl, same_merge_owned hforeign howned⟩

namespace MovedOn

open Drifted

/-- The object has seen others since the node was read: a label, a taint and an annotation are new, and a
version of the gate that is not known here has left a note. -/
def object : NodeObject where
  name := .text "worker-1"
  labels := .map [(.text "zone", .text "b")]
  annotations := .map [(.text "team", .text "storage"), (.text "readiness-gate.io/note", .text "x")]
  spec := some ⟨some [⟨.text "maintenance", .null, .text "NoExecute"⟩]⟩

def current : Node :=
  ⟨"worker-1", Dict.ofList [("zone", "b")], [⟨"maintenance", none, .noExecute, by decide⟩],
    Dict.ofList [("team", "storage"), ("readiness-gate.io/note", "x")]⟩

/-- The node as it was read before, gated and with a stamp. -/
def node : Node :=
  ⟨"worker-1", Dict.empty, [gpu, driver.gate],
    Dict.ofList [("team", "infra"), (firstReadyKey, now.stamp)]⟩

/-- The node that knows what is there now. -/
def aware : Node :=
  { node with
    labels := current.labels
    annotations := Dict.ofList [(firstReadyKey, now.stamp), ("readiness-gate.io/note", "y"),
      ("team", "storage")] }

end MovedOn

/-- The new taint is gone, the new label and the new team stay, and the stamp stands beside the note. The
node that knows of the note has its own come back. -/
theorem patch_frame_moved_on :
    Node.ofObject MovedOn.object = .ok MovedOn.current ∧
    (∃ s, Node.ofObject (MovedOn.node.toPatch.apply MovedOn.object) = .ok s ∧
      s.labels = Dict.ofList [("zone", "b")] ∧ s.taints = [Drifted.gpu, Drifted.driver.gate] ∧
      s.annotations.get? "team" = some "storage" ∧
      s.annotations.get? firstReadyKey = some Drifted.now.stamp ∧
      s.annotations.get? "readiness-gate.io/note" = some "x") ∧
    ∃ s, Node.ofObject (MovedOn.aware.toPatch.apply MovedOn.object) = .ok s ∧
      s.Same MovedOn.aware := by
  have hread : Node.ofObject MovedOn.object = .ok MovedOn.current := rfl
  obtain ⟨s, hs, _, hlabels, htaints, hforeign, howned, _⟩ :=
    patch_frame hread MovedOn.node (by decide)
  obtain ⟨s', hs', _, _, _, _, _, hsame⟩ := patch_frame hread MovedOn.aware (by decide)
  refine ⟨hread, ⟨s, hs, hlabels, htaints, ?_, ?_, ?_⟩, s', hs', hsame rfl (.refl _) ?_ ?_⟩
  · exact (hforeign "team" (by decide)).trans (by decide)
  · exact (howned firstReadyKey (by decide)).trans (by decide)
  · exact (howned "readiness-gate.io/note" (by decide)).trans (by decide)
  · intro key hforeign
    have hstamp : key ≠ firstReadyKey := by
      rintro rfl
      cases hforeign
    have hnote : key ≠ "readiness-gate.io/note" := by
      rintro rfl
      cases hforeign
    simp [MovedOn.aware, MovedOn.current, Dict.ofList, Dict.insertMany, Dict.get?_insert, hstamp, hnote]
  · intro key _ hcontains
    by_cases hteam : key = "team"
    · subst hteam
      rfl
    · by_cases hnote : key = "readiness-gate.io/note"
      · subst hnote
        rfl
      · simp [MovedOn.current, Dict.contains, Dict.ofList, Dict.insertMany, Dict.get?_insert, hteam,
          hnote] at hcontains

end NodeGate
