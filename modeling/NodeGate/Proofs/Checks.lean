import Mathlib.Data.List.Forall2
import NodeGate.Object

/-!
# What checks accept

A check that collects issues accepts exactly if all its parts do. Here that is said once for each way
of putting checks together, and then for the API objects: what an accepted node or pod must look like,
field by field (`Node.ofObject_eq_ok_iff`, `Taint.ofObject_eq_ok_iff`, `Pod.ofObject_eq_ok_iff`).
-/

set_option autoImplicit false

namespace NodeGate

variable {α β : Type}

/-! ## Parts of checks -/

theorem map_eq_ok_iff {ε : Type} {f : α → β} {c : Except ε α} {b : β} :
    c.map f = .ok b ↔ ∃ a, c = .ok a ∧ f a = b := by
  cases c with
  | ok a => simp [Except.map]
  | error e => simp [Except.map]

theorem bind_eq_ok_iff {ε : Type} {c : Except ε α} {f : α → Except ε β} {b : β} :
    (c >>= f) = .ok b ↔ ∃ a, c = .ok a ∧ f a = .ok b := by
  cases c with
  | ok a => simp [bind, Except.bind]
  | error e => simp [bind, Except.bind]

theorem mapM_eq_ok_iff {ε : Type} {f : α → Except ε β} {as : List α} {bs : List β} :
    as.mapM f = .ok bs ↔ List.Forall₂ (fun a b => f a = .ok b) as bs := by
  induction as generalizing bs with
  | nil => simp [pure, Except.pure, eq_comm]
  | cons a as ih =>
    rw [List.mapM_cons]
    simp only [bind_eq_ok_iff, ih, List.forall₂_cons_left_iff, pure, Except.pure, Except.ok.injEq]
    constructor
    · intro h
      rcases h with ⟨b, hb, bs, hbs, rfl⟩
      exact ⟨b, bs, hb, hbs, rfl⟩
    · intro h
      rcases h with ⟨b, bs, hb, hbs, rfl⟩
      exact ⟨b, hb, bs, hbs, rfl⟩

theorem exists_forall₂ {R : α → β → Prop} {as : List α} (h : ∀ a ∈ as, ∃ b, R a b) :
    ∃ bs, List.Forall₂ R as bs := by
  induction as with
  | nil => exact ⟨[], .nil⟩
  | cons a as ih =>
    obtain ⟨b, hb⟩ := h a List.mem_cons_self
    obtain ⟨bs, hbs⟩ := ih fun a ha => h a (List.mem_cons_of_mem _ ha)
    exact ⟨b :: bs, .cons hb hbs⟩

theorem exists_mapM_eq_ok {ε : Type} {f : α → Except ε β} {as : List α}
    (h : ∀ a ∈ as, ∃ b, f a = .ok b) : ∃ bs, as.mapM f = .ok bs := by
  simp only [mapM_eq_ok_iff]
  exact exists_forall₂ h

/-- Whatever is in the first of two related lists has something in the second that it is related to. -/
theorem exists_of_forall₂ {R : α → β → Prop} {as : List α} {bs : List β} (h : List.Forall₂ R as bs)
    {a : α} (ha : a ∈ as) : ∃ b ∈ bs, R a b := by
  induction h with
  | nil => cases ha
  | cons hR _ ih =>
    rcases List.mem_cons.1 ha with rfl | ha
    · exact ⟨_, List.mem_cons_self, hR⟩
    · obtain ⟨b, hb, hR⟩ := ih ha
      exact ⟨b, List.mem_cons_of_mem _ hb, hR⟩

/-- The issue of a part, told of the whole. -/
def Issue.under (s : Segment) (i : Issue) : Issue := { i with place := s :: i.place }

namespace Checked

theorem both_eq_ok_iff {a : Checked α} {b : Checked β} {x : α × β} :
    both a b = .ok x ↔ a = .ok x.1 ∧ b = .ok x.2 := by
  obtain ⟨x, y⟩ := x
  cases a with
  | ok a =>
    cases b with
    | ok b => simp [both]
    | error f => simp [both]
  | error e =>
    cases b with
    | ok b => simp [both]
    | error f => simp [both]

theorem within_eq_ok_iff {s : Segment} {c : Checked α} {a : α} :
    within s c = .ok a ↔ c = .ok a := by
  cases c with
  | ok a => rfl
  | error e => simp [within]

theorem named_eq_ok_iff {model : String} {c : Checked α} {a : α} :
    c.named model = .ok a ↔ c = .ok a := by
  cases c with
  | ok a => simp [named]
  | error e => simp [named]

/-! ## What a check reports -/

/-- All that is wrong, in order. Nothing is wrong with a value. -/
def issues : Checked α → List Issue
  | .ok _ => []
  | .error e => e

@[simp]
theorem issues_ok (a : α) : issues (.ok a : Checked α) = [] := rfl

@[simp]
theorem issues_fail (p : Problem) : issues (fail p : Checked α) = [⟨[], p⟩] := rfl

theorem issues_both (a : Checked α) (b : Checked β) :
    (both a b).issues = a.issues ++ b.issues := by
  cases a with
  | ok a =>
    cases b with
    | ok b => rfl
    | error f => rfl
  | error e =>
    cases b with
    | ok b => exact (List.append_nil e).symm
    | error f => rfl

theorem issues_within (s : Segment) (c : Checked α) :
    (within s c).issues = c.issues.map (Issue.under s) := by
  cases c with
  | ok a => rfl
  | error e => rfl

theorem issues_map (f : α → β) (c : Checked α) : issues (c.map f) = c.issues := by
  cases c with
  | ok a => rfl
  | error e => rfl

theorem issues_bind_of_ok {c : Checked α} {f : α → Checked β} {a : α} (h : c = .ok a) :
    issues (c >>= f) = (f a).issues := by
  rw [h]
  rfl

theorem issues_bind_of_error {c : Checked α} {f : α → Checked β} {e : List Issue}
    (h : c = .error e) : issues (c >>= f) = e := by
  rw [h]
  rfl

/-- What is found cannot be reported exactly if there are no words for an issue. -/
theorem exists_unsayable_iff {model : String} {c : Checked α} :
    (∃ e, c.named model = .error e ∧ e.isSayable = false) ↔
      ∃ i ∈ c.issues, i.problem = .unsayable := by
  cases c with
  | ok a => simp [named]
  | error es => simp [named, issues, Invalid.isSayable]

end Checked

namespace Check

open Checked

/-! ## Mappings -/

/-- The entries of a mapping are read as those of the list, one by one. -/
def Reads (check : Value → Checked α) (es : List (Value × Value)) (ds : List (α × α)) : Prop :=
  List.Forall₂ (fun e d => check e.1 = .ok d.1 ∧ check e.2 = .ok d.2) es ds

theorem entries_eq_ok_iff {check : Value → Checked α} {es : List (Value × Value)}
    {ds : List (α × α)} : entries check es = .ok ds ↔ Reads check es ds := by
  unfold Reads
  induction es generalizing ds with
  | nil => simp [entries, eq_comm]
  | cons e es ih =>
    obtain ⟨k, v⟩ := e
    simp only [entries, map_eq_ok_iff, both_eq_ok_iff, within_eq_ok_iff, ih]
    cases ds with
    | nil => simp
    | cons d ds =>
      rw [List.forall₂_cons]
      constructor
      · intro h
        rcases h with ⟨⟨d', ds'⟩, ⟨hd, hds⟩, heq⟩
        cases heq
        exact ⟨hd, hds⟩
      · intro h
        rcases h with ⟨hd, hds⟩
        exact ⟨(d, ds), ⟨hd, hds⟩, rfl⟩

theorem dict_map_eq_ok_iff [DecidableEq α] {check : Value → Checked α} {es : List (Value × Value)}
    {d : Dict α} :
    dict check (.map es) = .ok d ↔ ∃ ds, Reads check es ds ∧ Dict.ofList ds = d := by
  unfold dict
  simp only [map_eq_ok_iff, entries_eq_ok_iff]

/-! ## Lists and optional texts -/

theorem items_eq_ok_iff {check : Value → Checked α} {n : Nat} {vs : List Value} {as : List α} :
    items check n vs = .ok as ↔ List.Forall₂ (fun v a => check v = .ok a) vs as := by
  induction vs generalizing n as with
  | nil => simp [items, eq_comm]
  | cons v vs ih =>
    simp only [items, map_eq_ok_iff, both_eq_ok_iff, within_eq_ok_iff, ih]
    cases as with
    | nil => simp
    | cons a as =>
      rw [List.forall₂_cons]
      constructor
      · intro h
        rcases h with ⟨⟨a', as'⟩, ⟨ha, has⟩, heq⟩
        cases heq
        exact ⟨ha, has⟩
      · intro h
        rcases h with ⟨ha, has⟩
        exact ⟨(a, as), ⟨ha, has⟩, rfl⟩

theorem list_list_eq_ok_iff {check : Value → Checked α} {vs : List Value} {as : List α} :
    list check (.list vs) = .ok as ↔ List.Forall₂ (fun v a => check v = .ok a) vs as :=
  items_eq_ok_iff

/-- The data is a sequence of the items. -/
inductive Sequence : Value → List Value → Prop
  | list (vs : List Value) : Sequence (.list vs) vs
  | set (vs : List Value) : Sequence (.set vs) vs

theorem Sequence.tuple_eq {check : Value → Checked α} {v : Value} {vs : List Value}
    (h : Sequence v vs) : tuple check v = items check 0 vs := by
  cases h with
  | list => rfl
  | set => rfl

theorem tuple_eq_ok_iff {check : Value → Checked α} {v : Value} {as : List α} :
    tuple check v = .ok as ↔
      ∃ vs, Sequence v vs ∧ List.Forall₂ (fun v a => check v = .ok a) vs as := by
  constructor
  · intro h
    cases v with
    | list vs => exact ⟨vs, .list vs, items_eq_ok_iff.1 h⟩
    | set vs => exact ⟨vs, .set vs, items_eq_ok_iff.1 h⟩
    | _ => cases h
  · rintro ⟨vs, hvs, h⟩
    rw [hvs.tuple_eq]
    exact items_eq_ok_iff.2 h

/-- What is reported of a list is what is reported of its items, each under its index. -/
theorem issues_items {check : Value → Checked α} {n : Nat} {vs : List Value} :
    (items check n vs).issues =
      (vs.zipIdx n).flatMap fun item => (check item.1).issues.map (Issue.under (.index item.2)) := by
  induction vs generalizing n with
  | nil => rfl
  | cons v vs ih =>
    rw [items, issues_map, issues_both, issues_within, ih, List.zipIdx_cons, List.flatMap_cons]

/-- Truth values are read as they are. -/
theorem forall₂_truth_iff {bs bs' : List Bool} :
    List.Forall₂ (fun v b => truth v = .ok b) (bs.map .bool) bs' ↔ bs = bs' := by
  have htruth (b b' : Bool) : truth (.bool b) = .ok b' ↔ b = b' := by simp [truth]
  rw [List.forall₂_map_left_iff]
  simp only [htruth, List.forall₂_eq_eq_eq]

theorem optionalText_eq_some_iff {v : Value} {s : String} :
    optionalText v = .ok (some s) ↔ text v = .ok s := by
  cases v with
  | null => simp [optionalText, text, Checked.fail]
  | _ => simp [optionalText, map_eq_ok_iff]

/-! ## Entries with two names -/

/-- The entry under its written name, or else under its own, with the name. -/
def given? (written own : String) (es : List (Value × Value)) : Option (String × Value) :=
  match Value.entry? written es with
  | some v => some (written, v)
  | none => (Value.entry? own es).map fun v => (own, v)

/-- What comes of an entry: what its value says, or the default if there is none. -/
def Comes (default : α) (Says : Value → α → Prop) : Option (String × Value) → α → Prop
  | none, a => a = default
  | some (_, v), a => Says v a

theorem Comes.of_given {default a : α} {Says : Value → α → Prop} {given : Option (String × Value)}
    {e : String × Value} (h : Comes default Says given a) (he : given = some e) : Says e.2 a := by
  rw [he] at h
  exact h

theorem exists_comes (default : α) {Says : Value → α → Prop} {given : Option (String × Value)}
    (h : ∀ e, given = some e → ∃ a, Says e.2 a) : ∃ a, Comes default Says given a := by
  cases given with
  | none => exact ⟨default, rfl⟩
  | some e => exact h e rfl

/-- What comes may be told by its image if that tells it apart. -/
theorem comes_image_iff {f : α → β} (hf : Function.Injective f) {default a : α}
    {Says : Value → β → Prop} {given : Option (String × Value)} :
    Comes default (fun v a => Says v (f a)) given a ↔ Comes (f default) Says given (f a) := by
  cases given with
  | none => exact hf.eq_iff.symm
  | some e => exact Iff.rfl

section Aliased

variable {written own key : String} {default a : α} {check : Value → Checked α}
  {es : List (Value × Value)} {v : Value}

theorem eq_or_eq_of_given? (h : given? written own es = some (key, v)) :
    key = written ∨ key = own := by
  unfold given? at h
  split at h
  · cases h
    exact .inl rfl
  · obtain ⟨v, _, heq⟩ := Option.map_eq_some_iff.1 h
    cases heq
    exact .inr rfl

theorem aliased_of_given? (h : given? written own es = some (key, v)) :
    aliased written own default check es = within (.name key) (check v) := by
  unfold given? at h
  unfold aliased optional
  cases hwritten : Value.entry? written es with
  | some v' =>
    rw [hwritten] at h
    cases h
    rfl
  | none =>
    rw [hwritten] at h
    obtain ⟨v', hown, heq⟩ := Option.map_eq_some_iff.1 h
    cases heq
    simp only [hown]

theorem aliased_of_not_given? (h : given? written own es = none) :
    aliased written own default check es = .ok default := by
  unfold given? at h
  unfold aliased optional
  cases hwritten : Value.entry? written es with
  | some v' =>
    rw [hwritten] at h
    cases h
  | none =>
    rw [hwritten] at h
    rw [Option.map_eq_none_iff.1 h]

theorem issues_aliased :
    (aliased written own default check es).issues =
      (given? written own es).elim [] fun e => (check e.2).issues.map (Issue.under (.name e.1)) := by
  cases h : given? written own es with
  | none =>
    rw [aliased_of_not_given? h]
    rfl
  | some e =>
    rw [aliased_of_given? h, issues_within]
    rfl

theorem aliased_eq_ok_iff :
    aliased written own default check es = .ok a ↔
      Comes default (fun v a => check v = .ok a) (given? written own es) a := by
  cases h : given? written own es with
  | none =>
    rw [aliased_of_not_given? h, Except.ok.injEq]
    exact eq_comm
  | some e =>
    rw [aliased_of_given? h]
    exact within_eq_ok_iff

end Aliased

end Check

/-! ## Records -/

theorem entry?_cons (name key : String) (v : Value) (es : List (Value × Value)) :
    Value.entry? name ((.text key, v) :: es) =
      if key = name then some v else Value.entry? name es := by
  unfold Value.entry?
  rw [List.findSome?_cons]
  by_cases h : key = name
  · simp only [if_pos h]
  · simp only [if_neg h]

theorem Check.required_eq_ok_iff {name : String} {check : Value → Checked α}
    {es : List (Value × Value)} {a : α} :
    required name check es = .ok a ↔ ∃ v, Value.entry? name es = some v ∧ check v = .ok a := by
  unfold required
  cases Value.entry? name es with
  | some v => simp [Checked.within_eq_ok_iff]
  | none => simp [Checked.within_eq_ok_iff, Checked.fail]

theorem Taint.checkKey_eq_ok_iff {v : Value} {key : { key : String // key ≠ "" }} :
    checkKey v = .ok key ↔ Check.text v = .ok key.1 := by
  unfold checkKey
  rw [bind_eq_ok_iff]
  constructor
  · intro h
    rcases h with ⟨s, hs, h⟩
    split at h
    · cases h
    · cases h
      exact hs
  · intro h
    exact ⟨key.1, h, dif_neg key.2⟩

theorem Taint.ofObject_eq_ok_iff {o : TaintObject} {t : Taint} :
    ofObject o = .ok t ↔ Check.text o.key = .ok t.key ∧
      Check.optionalText (o.value.orElse .null) = .ok t.value ∧
      Effect.check o.effect = .ok t.effect := by
  unfold ofObject dataOf check
  simp only [Checked.named_eq_ok_iff, map_eq_ok_iff, Checked.both_eq_ok_iff, Check.required,
    Check.optional, entry?_cons, String.reduceEq, if_true, if_false, Checked.within_eq_ok_iff,
    checkKey_eq_ok_iff]
  constructor
  · intro h
    rcases h with ⟨⟨key, value, effect⟩, h, rfl⟩
    exact h
  · intro h
    exact ⟨(⟨t.key, t.key_ne⟩, t.value, t.effect), h, rfl⟩

theorem Node.check_data_eq_ok_iff {o : NodeObject} {n : Node} :
    check o.data = .ok n ↔ Check.text o.name = .ok n.name ∧
      Check.dict Check.text (o.labels.orElse (.map [])) = .ok n.labels ∧ n.taints = [] ∧
      Check.dict Check.text (o.annotations.orElse (.map [])) = .ok n.annotations := by
  unfold NodeObject.data check
  simp only [map_eq_ok_iff, Checked.both_eq_ok_iff, Check.required,
    Check.optional, entry?_cons, String.reduceEq, if_true, if_false, Checked.within_eq_ok_iff]
  constructor
  · intro h
    rcases h with ⟨⟨name, labels, taints, annotations⟩, ⟨hname, hlabels, htaints, hannotations⟩, rfl⟩
    cases htaints
    exact ⟨hname, hlabels, rfl, hannotations⟩
  · intro h
    rcases h with ⟨hname, hlabels, htaints, hannotations⟩
    exact ⟨(n.name, n.labels, n.taints, n.annotations),
      ⟨hname, hlabels, congrArg Except.ok htaints.symm, hannotations⟩, rfl⟩

/-- **What an accepted node object looks like.** -/
theorem Node.ofObject_eq_ok_iff {o : NodeObject} {n : Node} :
    ofObject o = .ok n ↔ o.taintObjects.mapM Taint.ofObject = .ok n.taints ∧
      Check.text o.name = .ok n.name ∧
      Check.dict Check.text (o.labels.orElse (.map [])) = .ok n.labels ∧
      Check.dict Check.text (o.annotations.orElse (.map [])) = .ok n.annotations := by
  unfold ofObject
  simp only [bind_eq_ok_iff, Checked.named_eq_ok_iff]
  constructor
  · intro h
    rcases h with ⟨taints, htaints, m, hm, h⟩
    cases h
    obtain ⟨hname, hlabels, _, hannotations⟩ := check_data_eq_ok_iff.1 hm
    exact ⟨htaints, hname, hlabels, hannotations⟩
  · intro h
    rcases h with ⟨htaints, hname, hlabels, hannotations⟩
    refine ⟨n.taints, htaints, { n with taints := [] }, ?_, rfl⟩
    exact check_data_eq_ok_iff.2 ⟨hname, hlabels, rfl, hannotations⟩

/-- **What an accepted pod object looks like.** Every mark of a container is read, as it is blank or not. -/
theorem Pod.ofObject_eq_ok_iff {o : PodObject} {pod : Pod} :
    ofObject o = .ok pod ↔ Check.text o.name = .ok pod.name ∧ Check.text o.ns = .ok pod.ns ∧
      Check.optionalText o.node = .ok pod.node ∧
      List.Forall₂ (fun v owner => Check.text v = .ok owner) (o.owners.getD []) pod.owners ∧
      (o.marks.map fun v => !v.isBlank) = pod.containers := by
  have hmarks : o.marks.map (fun v => Value.bool (!v.isBlank)) =
      (o.marks.map fun v => !v.isBlank).map .bool := by
    rw [List.map_map]
    rfl
  unfold ofObject dataOf check
  rw [hmarks]
  simp only [Checked.named_eq_ok_iff, map_eq_ok_iff, Checked.both_eq_ok_iff, Check.required,
    Check.optional, entry?_cons, String.reduceEq, if_true, if_false, Checked.within_eq_ok_iff,
    Check.list_list_eq_ok_iff, Check.forall₂_truth_iff]
  constructor
  · intro h
    rcases h with ⟨⟨name, ns, node, owners, containers⟩, h, rfl⟩
    exact h
  · intro h
    exact ⟨(pod.name, pod.ns, pod.node, pod.owners, pod.containers), h, rfl⟩

end NodeGate
