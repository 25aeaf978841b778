import NodeGate.Proofs.Admission
import NodeGate.Proofs.Dicts

/-!
# Which data is a policy

A policy is checked field by field, each under either of its two names, and every field has its own way of
being absent, of being written and of being wrong. Here it is told what the data says, without checks:
`Value.SaysWorkloads`, `Value.SaysSelector` and `Value.SaysTruth` relate a value to what it stands for,
and `Policy.SaidBy` puts them together. The data is accepted as exactly the policy that it says, and it is
accepted exactly if it has the form of one, `Policy.Formed` (`Policy.policy_of_data`).

The theorem also tells what is reported of the workloads. That one is listed twice is found out only if
all of them are good, and then it is the one thing that is reported of the list.
-/

set_option autoImplicit false

namespace NodeGate

/-! ## What data says -/

namespace Value

/-- The data is the text, which may hold halves of surrogate pairs. -/
inductive SaysRaw : Value → RawText → Prop
  | string {v : Value} {s : String} (h : v.SaysText s) : SaysRaw v (.ofString s)
  | broken (t : RawText) : SaysRaw (.broken t) t

/-- The words for a truth value, in small letters. -/
def truthWords : Bool → List String
  | false => ["0", "off", "f", "false", "n", "no"]
  | true => ["1", "on", "t", "true", "y", "yes"]

/-- The data is the truth value, or the number for it, or one of its words in letters of any size. -/
inductive SaysTruth : Value → Bool → Prop
  | number {v : Value} {b : Bool} (h : v.integer? = some (if b then 1 else 0)) : SaysTruth v b
  | word {v : Value} {s : String} {b : Bool} (h : v.SaysText s)
      (hs : s.map Char.toLower ∈ truthWords b) : SaysTruth v b

/-- The entries, one by one. -/
def SaysEntries (es : List (Value × Value)) (ds : List (RawText × RawText)) : Prop :=
  List.Forall₂ (fun e d => e.1.SaysRaw d.1 ∧ e.2.SaysRaw d.2) es ds

/-- The data is blank, or a mapping with the entries of the selector. -/
inductive SaysSelector : Value → Selector → Prop
  | blank {v : Value} (h : v.isBlank = true) : SaysSelector v Dict.empty
  | entries {es : List (Value × Value)} {ds : List (RawText × RawText)} {selector : Selector}
      (h : SaysEntries es ds) (hds : selector.Gathers ds) : SaysSelector (.map es) selector

/-- The data is blank, or a mapping of texts to texts. -/
def IsSelector (v : Value) : Prop :=
  v.isBlank = true ∨ ∃ es, v = .map es ∧ ∀ e ∈ es, (∃ key, e.1.SaysRaw key) ∧ ∃ value, e.2.SaysRaw value

/-- The data is a sequence of workloads with these names. -/
def SaysWorkloads (v : Value) (names : List (String × String)) : Prop :=
  ∃ vs, Check.Sequence v vs ∧ List.Forall₂ SaysWorkload vs names

end Value

/-! ## What checks make of it -/

namespace Check

theorem rawText_eq_ok_iff {v : Value} {t : RawText} : rawText v = .ok t ↔ v.SaysRaw t := by
  have htext : ∀ s, v.SaysText s → rawText v = .ok (.ofString s) := by
    intro s h
    cases h with
    | text s => rfl
    | bytes h =>
      unfold rawText
      simp only [h]
  constructor
  · intro h
    cases v with
    | text s =>
      cases h
      exact .string (.text s)
    | broken t' =>
      cases h
      exact .broken t
    | bytes bs =>
      cases hs : String.fromUTF8? ⟨bs.toArray⟩ with
      | some s =>
        rw [htext s (.bytes hs)] at h
        cases h
        exact .string (.bytes hs)
      | none =>
        unfold rawText at h
        simp only [hs] at h
        cases h
    | _ => cases h
  · intro h
    cases h with
    | string h => exact htext _ h
    | broken t => rfl

theorem truthOf_eq_some_iff {word : String} {b : Bool} :
    truthOf word = some b ↔ word ∈ Value.truthWords b := by
  have hdisjoint : ∀ w ∈ Value.truthWords true, w ∉ Value.truthWords false := by decide
  unfold truthOf
  constructor
  · intro h
    split at h
    · rename_i hfalse
      cases h
      exact List.contains_iff_mem.1 hfalse
    · split at h
      · rename_i htrue
        cases h
        exact List.contains_iff_mem.1 htrue
      · cases h
  · intro h
    cases b with
    | false => exact if_pos (List.contains_iff_mem.2 h)
    | true =>
      have hfalse : word ∉ Value.truthWords false := hdisjoint word h
      exact (if_neg (mt List.contains_iff_mem.1 hfalse)).trans (if_pos (List.contains_iff_mem.2 h))

theorem truthWord_eq_ok_iff {s : String} {b : Bool} :
    truthWord s = .ok b ↔ s.map Char.toLower ∈ Value.truthWords b := by
  rw [← truthOf_eq_some_iff]
  unfold truthWord
  cases truthOf (s.map Char.toLower) with
  | some b' => simp
  | none => simp [Checked.fail]

theorem truthNumber_cases (i : Int) (fits : Bool) :
    (i = 0 ∧ truthNumber i fits = .ok false) ∨ (i = 1 ∧ truthNumber i fits = .ok true) ∨
      (i ≠ 0 ∧ i ≠ 1 ∧ ∃ p, truthNumber i fits = Checked.fail p) := by
  unfold truthNumber
  by_cases hzero : i = 0
  · exact .inl ⟨hzero, if_pos hzero⟩
  by_cases hone : i = 1
  · exact .inr (.inl ⟨hone, by rw [if_neg hzero, if_pos hone]⟩)
  refine .inr (.inr ⟨hzero, hone, ?_⟩)
  rw [if_neg hzero, if_neg hone]
  cases fits with
  | true => exact ⟨.notTruthWord, rfl⟩
  | false => exact ⟨.notTruthValue, rfl⟩

theorem truthNumber_eq_ok_iff {i : Int} {fits b : Bool} :
    truthNumber i fits = .ok b ↔ i = if b then 1 else 0 := by
  rcases truthNumber_cases i fits with ⟨rfl, h⟩ | ⟨rfl, h⟩ | ⟨hzero, hone, p, h⟩
  · cases b with
    | false => simp [h]
    | true => simp [h]
  · cases b with
    | false => simp [h]
    | true => simp [h]
  · cases b with
    | false => simp [h, hzero, Checked.fail]
    | true => simp [h, hone, Checked.fail]

theorem truth_float (x : Float) : truth (.float x) =
    (wholeNumber? x).elim (Checked.fail .notTruthValue) fun i =>
      truthNumber i (decide (-wordLimit < i ∧ i < wordLimit)) := by
  cases hx : wholeNumber? x with
  | some i => simp only [truth, hx, Option.elim_some]
  | none => simp only [truth, hx, Option.elim_none]

theorem truth_bytes (bs : List UInt8) : truth (.bytes bs) =
    (String.fromUTF8? ⟨bs.toArray⟩).elim (Checked.fail .notTruthWord) truthWord := by
  cases hs : String.fromUTF8? ⟨bs.toArray⟩ with
  | some s => simp only [truth, hs, Option.elim_some]
  | none => simp only [truth, hs, Option.elim_none]

/-- **Which data is a truth value.** -/
theorem truth_eq_ok_iff {v : Value} {b : Bool} : truth v = .ok b ↔ v.SaysTruth b := by
  constructor
  · intro h
    cases v with
    | bool b' =>
      cases h
      exact .number rfl
    | int i => exact .number (congrArg some (truthNumber_eq_ok_iff.1 h))
    | float x =>
      rw [truth_float] at h
      cases hx : wholeNumber? x with
      | some i =>
        rw [hx] at h
        exact .number (hx.trans (congrArg some (truthNumber_eq_ok_iff.1 h)))
      | none =>
        rw [hx] at h
        cases h
    | text s => exact .word (.text s) (truthWord_eq_ok_iff.1 h)
    | bytes bs =>
      rw [truth_bytes] at h
      cases hs : String.fromUTF8? ⟨bs.toArray⟩ with
      | some s =>
        rw [hs] at h
        exact .word (.bytes hs) (truthWord_eq_ok_iff.1 h)
      | none =>
        rw [hs] at h
        cases h
    | _ => cases h
  · intro h
    cases h with
    | number h =>
      cases v with
      | bool b' =>
        have hb : (if b' then 1 else 0 : Int) = if b then 1 else 0 := Option.some.inj h
        cases b with
        | false => cases b' with
          | false => rfl
          | true => cases hb
        | true => cases b' with
          | false => cases hb
          | true => rfl
      | int i => exact truthNumber_eq_ok_iff.2 (Option.some.inj h)
      | float x =>
        have hx : wholeNumber? x = some (if b then 1 else 0) := h
        rw [truth_float, hx]
        exact truthNumber_eq_ok_iff.2 rfl
      | _ => cases h
    | word h hs =>
      cases h with
      | text s => exact truthWord_eq_ok_iff.2 hs
      | bytes hbytes =>
        rw [truth_bytes, hbytes]
        exact truthWord_eq_ok_iff.2 hs

end Check

/-! ## Selectors -/

theorem checkSelector_eq_ok_iff {v : Value} {selector : Selector} :
    checkSelector v = .ok selector ↔ v.SaysSelector selector := by
  have hentries : ∀ (es : List (Value × Value)),
      Check.dict Check.rawText (.map es) = .ok selector ↔
        ∃ ds, Value.SaysEntries es ds ∧ selector.Gathers ds := by
    intro es
    simp only [Check.dict_map_eq_ok_iff, Check.Reads, Check.rawText_eq_ok_iff, Dict.ofList_eq_iff,
      Value.SaysEntries]
  unfold checkSelector
  split
  · rename_i hblank
    constructor
    · intro h
      cases h
      exact .blank hblank
    · intro h
      cases h with
      | blank => rfl
      | entries h hds =>
        -- a blank mapping has no entries, so that nothing is gathered from it
        cases List.isEmpty_iff.1 hblank
        cases h
        rw [← Dict.ofList_eq_iff.2 hds]
        rfl
  · rename_i hblank
    constructor
    · intro h
      cases v with
      | map es =>
        obtain ⟨ds, hds, hgathers⟩ := (hentries es).1 h
        exact .entries hds hgathers
      | _ => cases h
    · intro h
      cases h with
      | blank h => exact absurd h hblank
      | entries h hds => exact (hentries _).2 ⟨_, h, hds⟩

theorem exists_saysSelector_iff {v : Value} : (∃ selector, v.SaysSelector selector) ↔ v.IsSelector := by
  constructor
  · rintro ⟨selector, h⟩
    cases h with
    | blank h => exact .inl h
    | entries h _ =>
      refine .inr ⟨_, rfl, ?_⟩
      intro e he
      obtain ⟨d, _, hkey, hvalue⟩ := exists_of_forall₂ h he
      exact ⟨⟨d.1, hkey⟩, d.2, hvalue⟩
  · rintro (h | ⟨es, rfl, h⟩)
    · exact ⟨Dict.empty, .blank h⟩
    · obtain ⟨ds, hds⟩ : ∃ ds, Value.SaysEntries es ds := by
        apply exists_forall₂
        intro e he
        obtain ⟨⟨key, hkey⟩, value, hvalue⟩ := h e he
        exact ⟨(key, value), hkey, hvalue⟩
      exact ⟨Dict.ofList ds, .entries hds (Dict.gathers_ofList ds)⟩

/-! ## Lists of workloads -/

theorem Value.SaysWorkload.exists_names {v : Value} {pair : String × String}
    (h : v.SaysWorkload pair) : ∃ w : Workload, w.names = pair := by
  cases h with
  | names _ _ _ _ hgood hgood' hfits => exact Workload.exists_names hgood hgood' hfits

theorem exists_map_names {vs : List Value} {pairs : List (String × String)}
    (h : List.Forall₂ Value.SaysWorkload vs pairs) :
    ∃ ws : List Workload, ws.map Workload.names = pairs := by
  induction h with
  | nil => exact ⟨[], rfl⟩
  | cons h _ ih =>
    obtain ⟨w, rfl⟩ := h.exists_names
    obtain ⟨ws, rfl⟩ := ih
    exact ⟨w :: ws, rfl⟩

/-- **Which data is a sequence of workloads.** -/
theorem tuple_workloads_eq_ok_iff {v : Value} {names : List (String × String)} :
    (∃ ws, Check.tuple Workload.check v = .ok ws ∧ ws.map Workload.names = names) ↔
      v.SaysWorkloads names := by
  simp only [Check.tuple_eq_ok_iff, Workload.check_eq_ok_iff]
  constructor
  · rintro ⟨ws, ⟨vs, hvs, h⟩, rfl⟩
    exact ⟨vs, hvs, List.forall₂_map_right_iff.2 h⟩
  · rintro ⟨vs, hvs, h⟩
    obtain ⟨ws, rfl⟩ := exists_map_names h
    exact ⟨ws, ⟨vs, hvs, List.forall₂_map_right_iff.1 h⟩, rfl⟩

/-! ## Repetitions -/

/-- The first repetition comes after items that are all different, and none of them was seen. -/
theorem firstRepeat_eq_some_iff {α : Type} [DecidableEq α] {seen items : List α} {a : α} :
    firstRepeat seen items = some a ↔
      ∃ before after, items = before ++ a :: after ∧ before.Nodup ∧ (∀ b ∈ before, b ∉ seen) ∧
        (a ∈ seen ∨ a ∈ before) := by
  induction items generalizing seen with
  | nil => simp [firstRepeat]
  | cons c rest ih =>
    have hmoved : ∀ before : List α, (a ∈ c :: seen ∨ a ∈ before) ↔ (a ∈ seen ∨ a ∈ c :: before) := by
      intro before
      simp only [List.mem_cons, or_assoc, or_left_comm]
    rw [firstRepeat]
    by_cases hc : c ∈ seen
    · rw [if_pos hc]
      constructor
      · intro h
        cases h
        exact ⟨[], rest, rfl, .nil, by simp, .inl hc⟩
      · rintro ⟨before, after, heq, _, hseen, _⟩
        cases before with
        | nil =>
          cases heq
          rfl
        | cons b before =>
          cases heq
          exact absurd hc (hseen c List.mem_cons_self)
    · rw [if_neg hc, ih]
      constructor
      · rintro ⟨before, after, rfl, hnodup, hseen, ha⟩
        have hfresh : c ∉ before := fun hmem => hseen c hmem List.mem_cons_self
        refine ⟨c :: before, after, rfl, hnodup.cons hfresh, ?_, (hmoved before).1 ha⟩
        intro b hb
        rcases List.mem_cons.1 hb with rfl | hb
        · exact hc
        · exact fun hmem => hseen b hb (List.mem_cons_of_mem c hmem)
      · rintro ⟨before, after, heq, hnodup, hseen, ha⟩
        cases before with
        | nil =>
          cases heq
          exact absurd ha (by simp [hc])
        | cons b before =>
          cases heq
          obtain ⟨hfresh, hnodup⟩ := List.nodup_cons.1 hnodup
          refine ⟨before, after, rfl, hnodup, ?_, (hmoved before).2 ha⟩
          intro b hb hmem
          rcases List.mem_cons.1 hmem with rfl | hmem
          · exact hfresh hb
          · exact hseen b (List.mem_cons_of_mem c hb) hmem

/-- **Which data is a list of workloads, none twice.** -/
theorem checkWorkloads_eq_ok_iff {v : Value} {ws : { ws : List Workload // ws.Nodup }} :
    checkWorkloads v = .ok ws ↔ v.SaysWorkloads (ws.1.map Workload.names) := by
  unfold checkWorkloads
  rw [bind_eq_ok_iff, ← tuple_workloads_eq_ok_iff]
  constructor
  · rintro ⟨ws', hws', h⟩
    split at h
    · cases h
      exact ⟨ws', hws', rfl⟩
    · cases h
  · rintro ⟨ws', hws', hmap⟩
    have heq : ws' = ws.1 := List.map_injective_iff.2 Workload.names_injective hmap
    subst heq
    refine ⟨ws.1, hws', ?_⟩
    split
    · rfl
    · rename_i w hw
      have hnone := (firstRepeat_eq_none_iff [] ws.1).2 ⟨ws.2, by simp⟩
      cases hnone.symm.trans hw

/-- Of good workloads of which one is listed twice only that is reported, and of the first such. -/
theorem issues_checkWorkloads_of_repeated {v : Value} {pairs : List (String × String)}
    (h : v.SaysWorkloads pairs) (hrepeated : ¬ pairs.Nodup) :
    ∃ before pair after, pairs = before ++ pair :: after ∧ before.Nodup ∧ pair ∈ before ∧
      (checkWorkloads v).issues =
        [⟨[], .rule s!"workload '{pair.1}/{pair.2}' is listed more than once"⟩] := by
  obtain ⟨ws, hws, rfl⟩ := tuple_workloads_eq_ok_iff.2 h
  cases hfirst : firstRepeat [] ws with
  | none =>
    have hnodup : ws.Nodup := ((firstRepeat_eq_none_iff [] ws).1 hfirst).1
    exact absurd (hnodup.map Workload.names_injective) hrepeated
  | some w =>
    obtain ⟨before, after, rfl, hnodup, _, hw⟩ := firstRepeat_eq_some_iff.1 hfirst
    have hw : w ∈ before := hw.resolve_left List.not_mem_nil
    refine ⟨before.map Workload.names, w.names, after.map Workload.names, by simp,
      hnodup.map Workload.names_injective, List.mem_map_of_mem hw, ?_⟩
    rw [checkWorkloads, Checked.issues_bind_of_ok hws]
    split
    · rename_i hnone
      cases hnone.symm.trans hfirst
    · rename_i w' hw'
      cases hw'.symm.trans hfirst
      rfl

/-- If one of the items is no workload, it is only of the items that something is reported. -/
theorem issues_checkWorkloads_of_fault {v : Value} {vs : List Value} (hvs : Check.Sequence v vs)
    (h : ∃ item ∈ vs, ∀ pair, ¬ item.SaysWorkload pair) :
    (checkWorkloads v).issues = vs.zipIdx.flatMap fun item =>
      (Workload.check item.1).issues.map (Issue.under (.index item.2)) := by
  rw [← Check.issues_items, ← hvs.tuple_eq]
  cases htuple : Check.tuple Workload.check v with
  | ok ws =>
    rw [hvs.tuple_eq, Check.items_eq_ok_iff] at htuple
    obtain ⟨item, hitem, hfault⟩ := h
    obtain ⟨w, _, hw⟩ := exists_of_forall₂ htuple hitem
    exact absurd (Workload.check_eq_ok_iff.1 hw) (hfault w.names)
  | error e => exact Checked.issues_bind_of_error htuple

/-! ## Issues of one field -/

/-- Is the issue at one of the names, or somewhere under it? -/
def Issue.isUnder (names : List String) (i : Issue) : Bool :=
  names.any fun name => i.place.head? == some (.name name)

theorem Issue.isUnder_iff {names : List String} {name : String} {rest : List Segment} {i : Issue}
    (h : i.place = .name name :: rest) : i.isUnder names = true ↔ name ∈ names := by
  unfold isUnder
  rw [List.any_eq_true, h, List.head?_cons]
  constructor
  · intro hany
    obtain ⟨name', hmem, heq⟩ := hany
    rw [beq_iff_eq, Option.some.injEq, Segment.name.injEq] at heq
    rw [heq]
    exact hmem
  · intro hmem
    exact ⟨name, hmem, beq_self_eq_true _⟩

namespace Check

section

variable {α : Type} {written own : String} {default : α} {check : Value → Checked α}
  {es : List (Value × Value)} {names : List String}

/-- All that is reported of a field is at its names. -/
theorem filter_issues_aliased_self :
    (aliased written own default check es).issues.filter (Issue.isUnder [written, own]) =
      (aliased written own default check es).issues := by
  rw [List.filter_eq_self, issues_aliased]
  intro i hi
  cases hgiven : given? written own es with
  | none =>
    rw [hgiven] at hi
    cases hi
  | some e =>
    rw [hgiven] at hi
    obtain ⟨i, _, rfl⟩ := List.mem_map.1 hi
    rw [Issue.isUnder_iff rfl]
    rcases eq_or_eq_of_given? hgiven with hkey | hkey
    · simp [hkey]
    · simp [hkey]

/-- Nothing of it is at other names. -/
theorem filter_issues_aliased_other (hwritten : written ∉ names) (hown : own ∉ names) :
    (aliased written own default check es).issues.filter (Issue.isUnder names) = [] := by
  rw [List.filter_eq_nil_iff, issues_aliased]
  intro i hi hunder
  cases hgiven : given? written own es with
  | none =>
    rw [hgiven] at hi
    cases hi
  | some e =>
    rw [hgiven] at hi
    obtain ⟨i, _, rfl⟩ := List.mem_map.1 hi
    rw [Issue.isUnder_iff rfl] at hunder
    rcases eq_or_eq_of_given? hgiven with hkey | hkey
    · exact hwritten (hkey ▸ hunder)
    · exact hown (hkey ▸ hunder)

end

end Check

/-! ## Policies -/

namespace Policy

open Check

/-- The data is the policy: each field is what its entry says, or its default if there is none. -/
structure SaidBy (es : List (Value × Value)) (p : Policy) : Prop where
  workloads : Comes [] Value.SaysWorkloads (given? "daemonsets" "workloads" es)
    (p.workloads.map Workload.names)
  selector : Comes Dict.empty Value.SaysSelector (given? "nodeSelector" "include" es) p.selector
  rejecter : Comes Dict.empty Value.SaysSelector (given? "nodeRejecter" "exclude" es) p.rejecter
  sweepOutOfScope : Comes false Value.SaysTruth (given? "sweepOutOfScope" "sweep_out_of_scope" es)
    p.sweepOutOfScope
  markFirstReady : Comes true Value.SaysTruth (given? "markFirstReady" "mark_first_ready" es)
    p.markFirstReady

/-- The data has the form of a policy: each entry that is there has the form of its field. -/
structure Formed (es : List (Value × Value)) : Prop where
  workloads : ∀ e, given? "daemonsets" "workloads" es = some e →
    ∃ pairs, e.2.SaysWorkloads pairs ∧ pairs.Nodup
  selector : ∀ e, given? "nodeSelector" "include" es = some e → e.2.IsSelector
  rejecter : ∀ e, given? "nodeRejecter" "exclude" es = some e → e.2.IsSelector
  sweepOutOfScope : ∀ e, given? "sweepOutOfScope" "sweep_out_of_scope" es = some e →
    ∃ b, e.2.SaysTruth b
  markFirstReady : ∀ e, given? "markFirstReady" "mark_first_ready" es = some e →
    ∃ b, e.2.SaysTruth b

/-- Is the issue one of the workloads? -/
def isOfWorkloads : Issue → Bool := Issue.isUnder ["daemonsets", "workloads"]

variable {es : List (Value × Value)}

/-- Workloads without repetition, told by their names. -/
def distinctNames (ws : { ws : List Workload // ws.Nodup }) : List (String × String) :=
  ws.1.map Workload.names

def noWorkloads : { ws : List Workload // ws.Nodup } := ⟨[], List.nodup_nil⟩

theorem distinctNames_injective : Function.Injective distinctNames := by
  intro ws ws' h
  exact Subtype.ext (List.map_injective_iff.2 Workload.names_injective h)

theorem check_map_eq_ok_iff {p : Policy} : check (.map es) = .ok p ↔ p.SaidBy es := by
  have hws : ∀ ws, Comes noWorkloads (fun v a => checkWorkloads v = .ok a)
      (given? "daemonsets" "workloads" es) ws ↔
      Comes [] Value.SaysWorkloads (given? "daemonsets" "workloads" es) (distinctNames ws) := by
    intro ws
    simp only [checkWorkloads_eq_ok_iff]
    exact comes_image_iff distinctNames_injective
  unfold check
  rw [← noWorkloads]
  simp only [map_eq_ok_iff, Checked.both_eq_ok_iff, aliased_eq_ok_iff, hws, checkSelector_eq_ok_iff,
    truth_eq_ok_iff]
  constructor
  · rintro ⟨⟨ws, selector, rejecter, sweep, mark⟩, ⟨h₁, h₂, h₃, h₄, h₅⟩, rfl⟩
    exact ⟨h₁, h₂, h₃, h₄, h₅⟩
  · intro h
    exact ⟨(⟨p.workloads, p.distinct⟩, p.selector, p.rejecter, p.sweepOutOfScope, p.markFirstReady),
      ⟨h.workloads, h.selector, h.rejecter, h.sweepOutOfScope, h.markFirstReady⟩, rfl⟩

theorem exists_saidBy_iff : (∃ p : Policy, p.SaidBy es) ↔ Formed es := by
  constructor
  · rintro ⟨p, h⟩
    exact
      { workloads := fun e he => ⟨_, h.workloads.of_given he, p.distinct.map Workload.names_injective⟩
        selector := fun e he => exists_saysSelector_iff.1 ⟨_, h.selector.of_given he⟩
        rejecter := fun e he => exists_saysSelector_iff.1 ⟨_, h.rejecter.of_given he⟩
        sweepOutOfScope := fun e he => ⟨_, h.sweepOutOfScope.of_given he⟩
        markFirstReady := fun e he => ⟨_, h.markFirstReady.of_given he⟩ }
  · intro h
    have hws : ∀ e, given? "daemonsets" "workloads" es = some e →
        ∃ ws, e.2.SaysWorkloads (distinctNames ws) := by
      intro e he
      obtain ⟨pairs, hpairs, hnodup⟩ := h.workloads e he
      obtain ⟨ws, _, rfl⟩ := tuple_workloads_eq_ok_iff.2 hpairs
      exact ⟨⟨ws, hnodup.of_map _⟩, hpairs⟩
    obtain ⟨ws, hws⟩ : ∃ ws, Comes noWorkloads (fun v a => v.SaysWorkloads (distinctNames a))
        (given? "daemonsets" "workloads" es) ws := exists_comes noWorkloads hws
    obtain ⟨selector, hselector⟩ := exists_comes Dict.empty
      fun e he => exists_saysSelector_iff.2 (h.selector e he)
    obtain ⟨rejecter, hrejecter⟩ := exists_comes Dict.empty
      fun e he => exists_saysSelector_iff.2 (h.rejecter e he)
    obtain ⟨sweep, hsweep⟩ := exists_comes false h.sweepOutOfScope
    obtain ⟨mark, hmark⟩ := exists_comes true h.markFirstReady
    exact ⟨⟨ws.1, selector, rejecter, sweep, mark, ws.2⟩,
      (comes_image_iff distinctNames_injective).1 hws, hselector, hrejecter, hsweep, hmark⟩

/-- What is reported of the workloads is what is reported of the entry, under its name. -/
theorem filter_issues_check_map :
    (check (.map es)).issues.filter isOfWorkloads =
      (given? "daemonsets" "workloads" es).elim [] fun e =>
        (checkWorkloads e.2).issues.map (Issue.under (.name e.1)) := by
  unfold check isOfWorkloads
  simp only [Checked.issues_map, Checked.issues_both, List.filter_append]
  rw [filter_issues_aliased_self, filter_issues_aliased_other (by decide) (by decide),
    filter_issues_aliased_other (by decide) (by decide),
    filter_issues_aliased_other (by decide) (by decide),
    filter_issues_aliased_other (by decide) (by decide), issues_aliased]
  simp only [List.append_nil]

/-- **Which data is a policy.** A mapping is accepted as exactly the policy that it says: the workloads
are those of its list, in order, the selectors have the entries given, and what is absent is the default.
It is accepted exactly if each of the five entries that is there has its form, whatever else is there. If
the workloads are good but one is listed twice, the first that equals an earlier one is reported and no
other issue of the workloads. If one is no workload, the issues of the workloads are those of the items,
and that one is listed twice is not looked for. -/
theorem policy_of_data (es : List (Value × Value)) :
    (∀ p, check (.map es) = .ok p ↔ p.SaidBy es) ∧
    ((∃ p, check (.map es) = .ok p) ↔ Formed es) ∧
    ∀ key v, given? "daemonsets" "workloads" es = some (key, v) →
      (∀ pairs, v.SaysWorkloads pairs → ¬ pairs.Nodup →
        ∃ before pair after, pairs = before ++ pair :: after ∧ before.Nodup ∧ pair ∈ before ∧
          (check (.map es)).issues.filter isOfWorkloads =
            [⟨[.name key], .rule s!"workload '{pair.1}/{pair.2}' is listed more than once"⟩]) ∧
      ∀ vs, Sequence v vs → (∃ item ∈ vs, ∀ pair, ¬ item.SaysWorkload pair) →
        (check (.map es)).issues.filter isOfWorkloads =
          (vs.zipIdx.flatMap fun item =>
            (Workload.check item.1).issues.map (Issue.under (.index item.2))).map
              (Issue.under (.name key)) ∧
        ∀ i ∈ (check (.map es)).issues, i.place ≠ [.name key] := by
  refine ⟨fun p => check_map_eq_ok_iff, ?_, ?_⟩
  · simp only [check_map_eq_ok_iff]
    exact exists_saidBy_iff
  · intro key v hgiven
    have hissues : (check (.map es)).issues.filter isOfWorkloads =
        (checkWorkloads v).issues.map (Issue.under (.name key)) := by
      rw [filter_issues_check_map, hgiven]
      rfl
    rw [hissues]
    constructor
    · intro pairs hpairs hrepeated
      obtain ⟨before, pair, after, heq, hnodup, hmem, hreported⟩ :=
        issues_checkWorkloads_of_repeated hpairs hrepeated
      refine ⟨before, pair, after, heq, hnodup, hmem, ?_⟩
      rw [hreported]
      rfl
    · intro vs hvs hfault
      have hreported := issues_checkWorkloads_of_fault hvs hfault
      refine ⟨congrArg _ hreported, ?_⟩
      intro i hi hplace
      -- an issue at the entry is one of the workloads, and of these each has an index
      have hof : isOfWorkloads i = true := by
        refine (Issue.isUnder_iff hplace).2 ?_
        rcases eq_or_eq_of_given? hgiven with hkey | hkey
        · simp [hkey]
        · simp [hkey]
      have hmem : i ∈ (check (.map es)).issues.filter isOfWorkloads := List.mem_filter.2 ⟨hi, hof⟩
      rw [hissues, hreported, List.mem_map] at hmem
      obtain ⟨j, hj, rfl⟩ := hmem
      obtain ⟨item, _, hj⟩ := List.mem_flatMap.1 hj
      obtain ⟨j, _, rfl⟩ := List.mem_map.1 hj
      cases hplace

namespace Listed

def item (ns name : String) : Value := .map [(.text "name", .text name), (.text "namespace", .text ns)]

theorem saysWorkload_item_iff {ns name : String} {pair : String × String} :
    (item ns name).SaysWorkload pair ↔ pair = (ns, name) ∧ isName name = true ∧
      isNamespace ns = true ∧ ns.length + name.length + 1 ≤ 63 := by
  constructor
  · intro h
    cases h with
    | names hname hv hns hv' hgood hgood' hfits =>
      cases hname
      cases hns
      cases hv
      cases hv'
      rw [RawText.badName_ofString_iff, Bool.not_eq_false] at hgood
      rw [RawText.badNamespace_ofString_iff, Bool.not_eq_false] at hgood'
      exact ⟨rfl, hgood, hgood', hfits⟩
  · rintro ⟨rfl, hgood, hgood', hfits⟩
    rw [← Bool.not_eq_false, ← RawText.badName_ofString_iff] at hgood
    rw [← Bool.not_eq_false, ← RawText.badNamespace_ofString_iff] at hgood'
    exact .names rfl (.text name) rfl (.text ns) hgood hgood' hfits

/-- One workload stands at both ends. -/
def items : List Value :=
  [item "kube-system" "fluentd", item "logging" "vector", item "kube-system" "fluentd"]

def pairs : List (String × String) :=
  [("kube-system", "fluentd"), ("logging", "vector"), ("kube-system", "fluentd")]

/-- Both names of the workloads are there, and a flag is wrong. -/
def repeated : List (Value × Value) :=
  [(.text "workloads", .null), (.text "daemonsets", .list items), (.text "nodeSelector", .int 0),
    (.text "markFirstReady", .text "maybe")]

/-- Behind the same workloads stands one with a bad namespace. -/
def faulty : List (Value × Value) :=
  [(.text "workloads", .list (items ++ [item "kube-" "fluentd"]))]

/-- Blank where a selector is expected, and a flag by its own name. -/
def good : List (Value × Value) :=
  [(.text "comment", .null), (.text "nodeRejecter", .bool false),
    (.text "workloads", .list [item "kube-system" "fluentd"]), (.text "mark_first_ready", .text "Off")]

end Listed

open Listed in
/-- In the first data the repetition is all that is reported of the workloads, in the second it is not
reported, and the third is a policy. -/
theorem policy_of_data_listed :
    given? "daemonsets" "workloads" repeated = some ("daemonsets", .list items) ∧
    (Value.list items).SaysWorkloads pairs ∧ ¬ pairs.Nodup ∧
    (check (.map repeated)).issues.filter isOfWorkloads =
      [⟨[.name "daemonsets"], .rule "workload 'kube-system/fluentd' is listed more than once"⟩] ∧
    (∀ pair, ¬ (item "kube-" "fluentd").SaysWorkload pair) ∧
    (∀ i ∈ (check (.map faulty)).issues, i.place ≠ [.name "workloads"]) ∧
    ∃ p, check (.map good) = .ok p ∧ p.markFirstReady = false := by
  have hfluentd : (item "kube-system" "fluentd").SaysWorkload ("kube-system", "fluentd") :=
    saysWorkload_item_iff.2 (by decide)
  have hvector : (item "logging" "vector").SaysWorkload ("logging", "vector") :=
    saysWorkload_item_iff.2 (by decide)
  have hpairs : (Value.list items).SaysWorkloads pairs :=
    ⟨items, .list items, .cons hfluentd (.cons hvector (.cons hfluentd .nil))⟩
  have hrepeated : ¬ pairs.Nodup := by decide
  have hbad : ∀ pair, ¬ (item "kube-" "fluentd").SaysWorkload pair := by
    intro pair h
    exact absurd (saysWorkload_item_iff.1 h).2.2.1 (by decide)
  have hoff : (Value.text "Off").SaysTruth false := .word (.text "Off") (by decide +kernel)
  obtain ⟨before, pair, after, heq, -, hmem, hissues⟩ :=
    ((policy_of_data repeated).2.2 _ _ rfl).1 pairs hpairs hrepeated
  have htwice : 2 ≤ pairs.count pair := by
    rw [heq, List.count_append, List.count_cons_self]
    have hbefore := List.count_pos_iff.2 hmem
    omega
  have hpair : pair = ("kube-system", "fluentd") := by
    have hpair : pair ∈ pairs := List.count_pos_iff.1 (by omega)
    simp only [pairs, List.mem_cons, List.not_mem_nil, or_false] at hpair
    rcases hpair with rfl | rfl | rfl
    · rfl
    · exact absurd htwice (by decide)
    · rfl
  rw [hpair] at hissues
  have hfaulty := (((policy_of_data faulty).2.2 _ _ rfl).2 _ (.list _) ⟨_, by simp, hbad⟩).2
  have hgood : Formed good := by
    constructor
    case workloads =>
      intro e he
      cases he
      exact ⟨_, ⟨_, .list _, .cons hfluentd .nil⟩, by decide⟩
    case selector =>
      intro e he
      cases he
    case rejecter =>
      intro e he
      cases he
      exact .inl rfl
    case sweepOutOfScope =>
      intro e he
      cases he
    case markFirstReady =>
      intro e he
      cases he
      exact ⟨false, hoff⟩
  obtain ⟨p, hp⟩ := (policy_of_data good).2.1.2 hgood
  have hmark : p.markFirstReady = false := by
    have hsays := (((policy_of_data good).1 p).1 hp).markFirstReady.of_given rfl
    exact (Except.ok.inj ((truth_eq_ok_iff.2 hoff).symm.trans (truth_eq_ok_iff.2 hsays))).symm
  exact ⟨rfl, hpairs, hrepeated, hissues, hbad, hfaulty, p, hp, hmark⟩

end Policy

end NodeGate
