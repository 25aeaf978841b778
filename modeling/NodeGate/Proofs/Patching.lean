import NodeGate.Patch
import NodeGate.Proofs.Checks
import NodeGate.Proofs.Dicts

/-!
# What a patch comes back as

A patch is made from a node, the server applies it to an object, and the object is read again. Three
things could get lost on the way: a taint value that is empty is not sent, a node without taints has its
field removed, and the annotations of the object may be absent or written in several ways. What is
read in the end is the object's node with the taints of the patch and its owned annotations written
over those that were there (`ofObject_apply`).
-/

set_option autoImplicit false

namespace NodeGate

open Patch

/-! ## Taints -/

theorem eq_nil_of_fromUTF8? {bs : List UInt8} (h : String.fromUTF8? ⟨bs.toArray⟩ = some "") :
    bs = [] := by
  unfold String.fromUTF8? at h
  split at h
  · exact congrArg (fun s => s.toByteArray.data.toList) (Option.some.inj h)
  · cases h

/-- Only blank data is read as the empty text. -/
theorem Check.isBlank_of_text {v : Value} (h : text v = .ok "") : v.isBlank = true := by
  cases v with
  | text s =>
    cases h
    rfl
  | bytes bs =>
    simp only [text] at h
    split at h
    · rename_i s hs
      cases h
      exact List.isEmpty_iff.2 (eq_nil_of_fromUTF8? hs)
    · cases h
  | _ => cases h

/-- What is read of an optional text is never empty, for a blank one is read as none. -/
theorem Check.optionalText_orElse_ne {v : Value} {value : Option String}
    (h : optionalText (v.orElse .null) = .ok value) : value ≠ some "" := by
  rintro rfl
  unfold Value.orElse at h
  split at h
  · cases h
  · rename_i hblank
    unfold optionalText at h
    split at h
    · cases h
    · obtain ⟨s, hs, hsome⟩ := map_eq_ok_iff.1 h
      cases hsome
      exact hblank (isBlank_of_text hs)

theorem Taint.value_ne_of_ofObject {o : TaintObject} {t : Taint} (h : ofObject o = .ok t) :
    t.value ≠ some "" :=
  Check.optionalText_orElse_ne (ofObject_eq_ok_iff.1 h).2.1

theorem value_ne_of_mapM {os : List TaintObject} {ts : List Taint}
    (h : os.mapM Taint.ofObject = .ok ts) : ∀ t ∈ ts, t.value ≠ some "" := by
  rw [mapM_eq_ok_iff] at h
  induction h with
  | nil =>
    intro t ht
    cases ht
  | cons hread _ ih =>
    intro t ht
    rcases List.mem_cons.1 ht with rfl | ht
    · exact Taint.value_ne_of_ofObject hread
    · exact ih t ht

theorem Effect.check_text (e : Effect) : check (.text e.text) = .ok e := by
  cases e <;> rfl

/-- A taint comes back as it was sent, for it has no value that is left out. -/
theorem Taint.ofObject_form {t : Taint} (h : t.value ≠ some "") :
    ofObject (taintObject t.form) = .ok t := by
  rw [ofObject_eq_ok_iff]
  refine ⟨rfl, ?_, Effect.check_text t.effect⟩
  unfold taintObject form
  cases hvalue : t.value with
  | none => rfl
  | some s =>
    have hs : ¬ s.isEmpty = true := by
      rw [String.isEmpty_iff]
      rintro rfl
      exact h hvalue
    have hsent : (some s).filter (fun v => !v.isEmpty) = some s := by
      rw [Option.filter_some, if_pos (by simpa using hs)]
    have hread : (Value.text s).orElse .null = .text s := if_neg hs
    simp only [hsent, hread]
    rfl

theorem mapM_ofObject_forms {ts : List Taint} (h : ∀ t ∈ ts, t.value ≠ some "") :
    ((ts.map Taint.form).map taintObject).mapM Taint.ofObject = .ok ts := by
  rw [mapM_eq_ok_iff, List.map_map, List.forall₂_map_left_iff, List.forall₂_same]
  exact fun t ht => Taint.ofObject_form (h t ht)

/-- A patch without taints removes the field, and that is read as no taints. -/
theorem taintObjects_apply (m : Node) (o : NodeObject) :
    (m.toPatch.apply o).taintObjects = (m.taints.map Taint.form).map taintObject := by
  unfold Patch.apply NodeObject.taintObjects Node.toPatch
  cases m.taints with
  | nil => rfl
  | cons t ts => rfl

/-! ## Annotations -/

section Merge

variable {es : List (Value × Value)} {ds : List (String × String)}

theorem isText_eq_true_iff {key s : String} {v : Value} (h : Check.text v = .ok s) :
    isText key v = true ↔ s = key := by
  unfold isText
  rw [h]
  exact beq_iff_eq

theorem any_isText_iff {key : String} (h : Check.Reads Check.text es ds) :
    (es.any fun e => isText key e.1) = true ↔ key ∈ ds.map Prod.fst := by
  induction h with
  | nil => simp
  | cons hd _ ih =>
    rw [List.any_cons, Bool.or_eq_true, ih, isText_eq_true_iff hd.1, List.map_cons, List.mem_cons]
    exact or_congr_left eq_comm

/-- Writing into the raw entries is writing into what is read of them. -/
theorem reads_writeEntry (key value : String) (h : Check.Reads Check.text es ds) :
    ∃ ds', Check.Reads Check.text (writeEntry key value es) ds' ∧
      Dict.ofList ds' = (Dict.ofList ds).insert key value := by
  unfold writeEntry
  split
  · -- the key may be there in several spellings, and all of them get the value
    rename_i hany
    have hkey := (any_isText_iff h).1 hany
    refine ⟨setEvery key value ds, ?_, Dict.ofList_setEvery value hkey⟩
    unfold setEvery Check.Reads
    rw [List.forall₂_map_left_iff, List.forall₂_map_right_iff]
    refine h.imp fun e d hd => ?_
    by_cases hk : d.1 = key
    · rw [if_pos ((isText_eq_true_iff hd.1).2 hk), if_pos hk]
      exact ⟨hk ▸ hd.1, rfl⟩
    · rw [if_neg (mt (isText_eq_true_iff hd.1).1 hk), if_neg hk]
      exact hd
  · refine ⟨ds ++ [(key, value)], List.rel_append h (.cons ⟨rfl, rfl⟩ .nil), ?_⟩
    exact Dict.insertMany_append Dict.empty ds [(key, value)]

theorem reads_writeEntries (new : List (String × String)) (h : Check.Reads Check.text es ds) :
    ∃ ds', Check.Reads Check.text (new.foldl (fun es e => writeEntry e.1 e.2 es) es) ds' ∧
      Dict.ofList ds' = (Dict.ofList ds).insertMany new := by
  induction new generalizing es ds with
  | nil => exact ⟨ds, h, rfl⟩
  | cons e new ih =>
    obtain ⟨ds', h', hds'⟩ := reads_writeEntry e.1 e.2 h
    obtain ⟨ds'', h'', hds''⟩ := ih h'
    refine ⟨ds'', h'', ?_⟩
    rw [hds'', hds']
    rfl

end Merge

/-- Annotations are absent, or a mapping. -/
theorem exists_reads_entriesOf {v : Value} {d : Dict String}
    (h : Check.dict Check.text (v.orElse (.map [])) = .ok d) :
    ∃ ds, Check.Reads Check.text (entriesOf v) ds ∧ Dict.ofList ds = d := by
  unfold Value.orElse at h
  split at h
  · rename_i hblank
    have hnone : entriesOf v = [] := by
      cases v with
      | map es => exact List.isEmpty_iff.1 hblank
      | _ => rfl
    rw [hnone]
    exact Check.dict_map_eq_ok_iff.1 h
  · cases v with
    | map es => exact Check.dict_map_eq_ok_iff.1 h
    | _ => cases h

theorem dict_mergeInto {v : Value} {d : Dict String} (e : Dict String)
    (h : Check.dict Check.text (v.orElse (.map [])) = .ok d) :
    Check.dict Check.text ((mergeInto v e).orElse (.map [])) = .ok (d.merge e) := by
  obtain ⟨ds, hds, rfl⟩ := exists_reads_entriesOf h
  obtain ⟨ds', hds', hmerged⟩ := reads_writeEntries e.entries hds
  unfold mergeInto Value.orElse
  split
  · rename_i hblank
    rw [List.isEmpty_iff.1 hblank] at hds'
    exact Check.dict_map_eq_ok_iff.2 ⟨ds', hds', hmerged⟩
  · exact Check.dict_map_eq_ok_iff.2 ⟨ds', hds', hmerged⟩

/-- The annotations of a patched object are those it had, with the owned ones of the node written over
them. -/
theorem annotations_apply {o : NodeObject} {d : Dict String} (m : Node)
    (h : Check.dict Check.text (o.annotations.orElse (.map [])) = .ok d) :
    Check.dict Check.text ((m.toPatch.apply o).annotations.orElse (.map [])) =
      .ok (d.merge (m.annotations.filterKeys isOwned)) := by
  show Check.dict Check.text
    ((if m.toPatch.annotations.isEmpty then o.annotations
      else mergeInto o.annotations m.toPatch.annotations).orElse (.map [])) = _
  split
  · -- nothing is sent, and nothing is merged
    rename_i hnone
    have hmerge : d.merge m.toPatch.annotations = d := by
      rw [Dict.merge, List.isEmpty_iff.1 hnone]
      rfl
    exact h.trans (congrArg Except.ok hmerge.symm)
  · exact dict_mergeInto _ h

/-! ## Nodes -/

/-- **What a patched object is read as.** -/
theorem ofObject_apply {o : NodeObject} {n m : Node} (h : Node.ofObject o = .ok n)
    (hm : ∀ t ∈ m.taints, t.value ≠ some "") :
    Node.ofObject (m.toPatch.apply o) =
      .ok { n with
        taints := m.taints
        annotations := n.annotations.merge (m.annotations.filterKeys isOwned) } := by
  obtain ⟨_, hname, hlabels, hannotations⟩ := Node.ofObject_eq_ok_iff.1 h
  refine Node.ofObject_eq_ok_iff.2 ⟨?_, hname, hlabels, annotations_apply m hannotations⟩
  rw [taintObjects_apply]
  exact mapM_ofObject_forms hm

end NodeGate
