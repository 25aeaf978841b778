import NodeGate.Command.Execute
import NodeGate.Proofs.Checks
import NodeGate.Proofs.DocumentFaults
import NodeGate.Proofs.Gates
import NodeGate.Proofs.Summaries

/-!
# What can be wrong with a policy file

A policy file that cannot be used should be an error of the gate, which the command that checks it then
shows. `PolicyFile.Stumbles` lists the ways in which a file ends the loader before that error is made:
the path leads to a folder or is too long, the bytes are no text, the document is too deep or has
scalars without values, or a name in it could not even be quoted. In all other cases, and in no others,
the file is a policy or the error of the gate says what is wrong with it, and the command shows that if the
console takes the lines about the selectors (`load_settles_iff`).
-/

set_option autoImplicit false

namespace NodeGate

/-! ## Problems that a check finds -/

namespace Checked

variable {α β : Type} {p : Problem}

/-- The problem is among the issues. -/
def Finds (p : Problem) : Checked α → Prop
  | .ok _ => False
  | .error e => ∃ i ∈ e, i.problem = p

@[simp]
theorem not_finds_ok (a : α) : ¬ Finds p (.ok a : Checked α) := id

@[simp]
theorem finds_fail_iff {q : Problem} : Finds p (fail q : Checked α) ↔ q = p := by
  simp [Finds, fail]

theorem finds_iff {c : Checked α} : Finds p c ↔ ∃ i ∈ c.issues, i.problem = p := by
  cases c with
  | ok a => simp [Finds]
  | error e => rfl

theorem finds_both_iff {a : Checked α} {b : Checked β} :
    Finds p (both a b) ↔ Finds p a ∨ Finds p b := by
  simp only [finds_iff, issues_both, List.mem_append, or_and_right, exists_or]

theorem finds_within_iff {s : Segment} {c : Checked α} : Finds p (within s c) ↔ Finds p c := by
  simp [finds_iff, issues_within, Issue.under]

theorem finds_map_iff {f : α → β} {c : Checked α} : Finds p (c.map f) ↔ Finds p c := by
  cases c with
  | ok a => rfl
  | error e => rfl

theorem finds_bind_iff {f : α → Checked β} {c : Checked α} :
    Finds p (c >>= f) ↔ Finds p c ∨ ∃ a, c = .ok a ∧ Finds p (f a) := by
  cases c with
  | ok a => simp [bind, Except.bind, Finds]
  | error e => simp [bind, Except.bind, Finds]

/-- A second check that never finds the problem adds nothing. -/
theorem finds_bind_of_not {f : α → Checked β} {c : Checked α} (hf : ∀ a, ¬ Finds p (f a)) :
    Finds p (c >>= f) ↔ Finds p c := by
  rw [finds_bind_iff]
  constructor
  · intro h
    rcases h with h | ⟨a, _, h⟩
    · exact h
    · exact absurd h (hf a)
  · exact .inl

theorem isSayable_eq_false_iff {model : String} {c : Checked α} {e : Invalid}
    (h : c.named model = .error e) : e.isSayable = false ↔ Finds .unsayable c := by
  rw [finds_iff, ← @exists_unsayable_iff _ model c, h]
  simp

end Checked

open Checked

namespace Check

variable {α : Type} {p : Problem} {check : Value → Checked α}

theorem finds_required_iff {name : String} {es : List (Value × Value)} (hp : p ≠ .missing) :
    Finds p (required name check es) ↔
      ∃ v, Value.entry? name es = some v ∧ Finds p (check v) := by
  unfold required
  cases Value.entry? name es with
  | some v => simp [finds_within_iff]
  | none => simp [finds_within_iff, hp.symm]

theorem finds_aliased_iff {written own : String} {default : α} {es : List (Value × Value)} :
    Finds p (aliased written own default check es) ↔
      ∃ v, (Value.entry? written es).or (Value.entry? own es) = some v ∧ Finds p (check v) := by
  unfold aliased optional
  cases Value.entry? written es with
  | some v => simp [finds_within_iff]
  | none =>
    cases Value.entry? own es with
    | some v => simp [finds_within_iff]
    | none => simp

theorem finds_items_iff {n : Nat} {vs : List Value} :
    Finds p (items check n vs) ↔ ∃ v ∈ vs, Finds p (check v) := by
  induction vs generalizing n with
  | nil => simp [items, Finds]
  | cons v vs ih =>
    simp only [items, finds_map_iff, finds_both_iff, finds_within_iff, ih, List.mem_cons,
      exists_eq_or_imp]

theorem finds_entries_iff {es : List (Value × Value)} :
    Finds p (entries check es) ↔ ∃ e ∈ es, Finds p (check e.1) ∨ Finds p (check e.2) := by
  induction es with
  | nil => simp [entries, Finds]
  | cons e es ih =>
    simp only [entries, finds_map_iff, finds_both_iff, finds_within_iff, ih, List.mem_cons,
      exists_eq_or_imp]

theorem finds_unsayable_text_iff {v : Value} :
    Finds .unsayable (text v) ↔ ∃ t, v = .broken t := by
  unfold text
  split
  · simp
  · simp
  · split
    · simp
    · simp
  · rename_i hbroken _
    simpa using hbroken

theorem not_finds_unsayable_rawText (v : Value) : ¬ Finds .unsayable (rawText v) := by
  unfold rawText
  repeat' split
  all_goals simp

theorem not_finds_unsayable_truth (v : Value) : ¬ Finds .unsayable (truth v) := by
  unfold truth truthNumber truthWord
  repeat' split
  all_goals simp

end Check

/-! ## Names that cannot be quoted -/

theorem finds_unsayable_checkName_iff {v : Value} :
    Finds .unsayable (checkName v) ↔ ∃ t, v = .broken t := by
  unfold checkName
  rw [finds_bind_of_not, Check.finds_unsayable_text_iff]
  intro s
  repeat' split
  all_goals simp

theorem finds_unsayable_checkNamespace_iff {v : Value} :
    Finds .unsayable (checkNamespace v) ↔ ∃ t, v = .broken t := by
  unfold checkNamespace
  rw [finds_bind_of_not, Check.finds_unsayable_text_iff]
  intro s
  repeat' split
  all_goals simp

/-- A workload whose name or namespace holds halves of surrogate pairs. -/
inductive BrokenWorkload : Value → Prop
  | name {es : List (Value × Value)} {t : RawText}
      (h : Value.entry? "name" es = some (.broken t)) : BrokenWorkload (.map es)
  | ns {es : List (Value × Value)} {t : RawText}
      (h : Value.entry? "namespace" es = some (.broken t)) : BrokenWorkload (.map es)

theorem finds_unsayable_workload_iff {v : Value} :
    Finds .unsayable (Workload.check v) ↔ BrokenWorkload v := by
  have hfits : ∀ p : { s // isName s = true } × { s // isNamespace s = true },
      ¬ Finds .unsayable (Workload.ofNames p.1 p.2) := by
    intro p
    unfold Workload.ofNames
    split
    · exact id
    · simp
  cases v with
  | map es =>
    unfold Workload.check
    rw [finds_bind_of_not hfits, finds_both_iff, Check.finds_required_iff (by simp),
      Check.finds_required_iff (by simp)]
    simp only [finds_unsayable_checkName_iff, finds_unsayable_checkNamespace_iff]
    constructor
    · intro h
      rcases h with ⟨v, hv, t, rfl⟩ | ⟨v, hv, t, rfl⟩
      · exact .name hv
      · exact .ns hv
    · intro h
      cases h with
      | name h => exact .inl ⟨_, h, _, rfl⟩
      | ns h => exact .inr ⟨_, h, _, rfl⟩
  | _ =>
    constructor
    · intro h
      cases finds_fail_iff.1 h
    · intro h
      cases h

/-- What the data lists as workloads; the written name goes first. -/
def listed? (es : List (Value × Value)) : Option Value :=
  (Value.entry? "daemonsets" es).or (Value.entry? "workloads" es)

/-- One of the workloads that the data lists has a name that cannot be quoted. -/
def ListsBroken (es : List (Value × Value)) : Prop :=
  ∃ vs, (listed? es = some (.list vs) ∨ listed? es = some (.set vs)) ∧ ∃ v ∈ vs, BrokenWorkload v

theorem finds_unsayable_workloads_iff {v : Value} :
    Finds .unsayable (checkWorkloads v) ↔
      ∃ vs, (v = .list vs ∨ v = .set vs) ∧ ∃ w ∈ vs, BrokenWorkload w := by
  unfold checkWorkloads
  rw [finds_bind_of_not]
  · cases v with
    | list vs => simp [Check.tuple, Check.finds_items_iff, finds_unsayable_workload_iff]
    | set vs => simp [Check.tuple, Check.finds_items_iff, finds_unsayable_workload_iff]
    | _ => simp [Check.tuple]
  · intro ws
    split
    · simp
    · simp

theorem not_finds_unsayable_selector (v : Value) : ¬ Finds .unsayable (checkSelector v) := by
  unfold checkSelector
  split
  · exact id
  · cases v with
    | map es =>
      unfold Check.dict
      rw [finds_map_iff, Check.finds_entries_iff]
      rintro ⟨e, _, h | h⟩
      · exact Check.not_finds_unsayable_rawText _ h
      · exact Check.not_finds_unsayable_rawText _ h
    | _ => simp [Check.dict]

theorem finds_unsayable_policy_iff {es : List (Value × Value)} :
    Finds .unsayable (Policy.check (.map es)) ↔ ListsBroken es := by
  unfold Policy.check
  simp only [finds_map_iff, finds_both_iff, Check.finds_aliased_iff, not_finds_unsayable_selector,
    Check.not_finds_unsayable_truth, finds_unsayable_workloads_iff, and_false, exists_false,
    or_false]
  constructor
  · intro h
    rcases h with ⟨v, hv, vs, rfl | rfl, hvs⟩
    · exact ⟨vs, .inl hv, hvs⟩
    · exact ⟨vs, .inr hv, hvs⟩
  · intro h
    rcases h with ⟨vs, hv | hv, hvs⟩
    · exact ⟨_, hv, vs, .inl rfl, hvs⟩
    · exact ⟨_, hv, vs, .inr rfl, hvs⟩

/-! ## Policy files -/

namespace PolicyFile

open Yaml

/-- Reading a document came to something that the loader does not explain. -/
inductive Unexplained : Except Yaml.Fault Value → Unreadable → Prop
  | notUnicode : Unexplained (.error .notUnicode) .notUnicode
  | tooDeep : Unexplained (.error .tooDeep) .tooDeep
  | scalar (why : ScalarFault) : Unexplained (.error (.scalar why)) (.scalar why)
  | unsayable {es : List (Value × Value)} (h : ListsBroken es) :
      Unexplained (.ok (.map es)) .unsayable

/-- So did going to a file and reading it. -/
inductive Unusable : Except PathTrouble Content → Unreadable → Prop
  | pathTooLong : Unusable (.error .tooLong) .pathTooLong
  | directory (es : Folder) : Unusable (.ok (.folder es)) .directory
  | document {bytes : ByteArray} {u : Unreadable}
      (h : Unexplained (Document.load depth (.ofBytes bytes)) u) : Unusable (.ok (.file bytes)) u

/-- The loader stumbles over what is at the path. Nothing is at a broken path. -/
def Stumbles (files : Files) (path : Path) (u : Unreadable) : Prop :=
  path.isBroken = false ∧ Unusable (files.get path) u

variable {α β : Type} {files : Files} {path : Path} {bytes : ByteArray} {u : Unreadable}

theorem ofData_eq_unreadable_iff {v : Value} :
    ofData path v = .error (.unreadable u) ↔
      u = .unsayable ∧ ∃ es, v = .map es ∧ ListsBroken es := by
  cases v with
  | map es =>
    have hes : (∃ es', Value.map es = .map es' ∧ ListsBroken es') ↔
        Finds .unsayable (Policy.check (.map es)) := by
      rw [finds_unsayable_policy_iff]
      simp
    rw [hes]
    cases hcheck : named "Policy" (Policy.check (.map es)) with
    | ok p =>
      rw [named_eq_ok_iff.1 hcheck]
      simp [ofData, hcheck]
    | error e =>
      rw [← isSayable_eq_false_iff hcheck]
      cases hsay : e.isSayable with
      | true => simp [ofData, hcheck, hsay]
      | false => simp [ofData, hcheck, hsay, eq_comm]
  | _ => simp [ofData]

/-- Reading a file and then its data. -/
theorem file_eq_unreadable_iff :
    (read path bytes >>= ofData path) = .error (.unreadable u) ↔
      Unexplained (Document.load depth (.ofBytes bytes)) u := by
  unfold read
  generalize Document.load depth (.ofBytes bytes) = doc
  cases doc with
  | ok v =>
    show ofData path v = _ ↔ _
    rw [ofData_eq_unreadable_iff]
    constructor
    · rintro ⟨rfl, es, rfl, hes⟩
      exact .unsayable hes
    · intro h
      cases h with
      | unsayable hes => exact ⟨rfl, _, rfl, hes⟩
  | error f =>
    constructor
    · intro h
      cases f with
      | malformed => cases h
      | unfinished => cases h
      | notUnicode => cases h; exact .notUnicode
      | tooDeep => cases h; exact .tooDeep
      | scalar why => cases h; exact .scalar why
    · intro h
      cases h with
      | notUnicode => rfl
      | tooDeep => rfl
      | scalar why => rfl

/-- **When the loader stumbles.** -/
theorem load_eq_unreadable_iff {config : String} :
    load files config = .error (.unreadable u) ↔ Stumbles files (.ofString config) u := by
  unfold load Stumbles
  generalize Path.ofString config = path
  dsimp only
  cases path.isBroken with
  | true => simp [throw, throwThe, MonadExceptOf.throw, bind, Except.bind]
  | false =>
    rw [if_neg (by simp)]
    simp only [true_and]
    generalize files.get path = found
    cases found with
    | error trouble =>
      constructor
      · intro h
        cases trouble with
        | tooLong => cases h; exact .pathTooLong
        | _ => cases h
      · intro h
        cases h with
        | pathTooLong => rfl
    | ok c =>
      cases c with
      | file bytes =>
        refine Iff.trans file_eq_unreadable_iff ⟨.document, ?_⟩
        intro h
        cases h with
        | document h => exact h
      | folder es =>
        constructor
        · intro h
          cases h
          exact .directory es
        · intro h
          cases h with
          | directory => rfl

/-! ### What else can come of it -/

/-- A value, an error of the gate about the configuration, or a file that cannot be read. -/
inductive Replies : Except Failure α → Prop
  | value (a : α) : Replies (.ok a)
  | refused {e : GateError} (h : e.kind = .configuration) : Replies (.error (.gate e))
  | unreadable (u : Unreadable) : Replies (.error (.unreadable u))

theorem Replies.bind {r : Except Failure α} {next : α → Except Failure β} (h : Replies r)
    (hnext : ∀ a, Replies (next a)) : Replies (r >>= next) := by
  cases h with
  | value a => exact hnext a
  | refused h => exact .refused h
  | unreadable u => exact .unreadable u

theorem replies_read : Replies (read path bytes) := by
  unfold read
  split
  · exact .value _
  · exact .refused rfl
  · exact .refused rfl
  · exact .unreadable _
  · exact .unreadable _
  · exact .unreadable _

theorem replies_ofData (v : Value) : Replies (ofData path v) := by
  unfold ofData
  split
  · exact .refused rfl
  · split
    · exact .value _
    · split
      · exact .refused rfl
      · exact .unreadable _
  · exact .refused rfl

theorem replies_load (config : String) : Replies (load files config) := by
  unfold load
  dsimp only
  split
  · exact .refused rfl
  · split
    · exact .unreadable _
    · exact .refused rfl
    · exact .unreadable _
    · exact replies_read.bind replies_ofData

end PolicyFile

/-! ## The command -/

namespace Surroundings

variable {s : Surroundings} {config : String}

theorem validate_of_takes {p : Policy} (h : PolicyFile.load s.files config = .ok p)
    (htakes : s.console.Takes p) : s.validate config = ⟨p.summary.map .print, .ok 0⟩ := by
  unfold validate
  rw [h]
  show (Report.policy s.console p >>= fun _ => return 0) = _
  rw [Report.policy_of_takes htakes]
  exact congrArg (Run.mk · (.ok 0)) (List.append_nil _)

theorem validate_of_refuses {p : Policy} {shown : List Printed} {text : String}
    (h : PolicyFile.load s.files config = .ok p) (hrefuses : s.console.Refuses p shown text) :
    s.validate config = ⟨shown.map .print, .error (.fault (.foreign text))⟩ := by
  unfold validate
  rw [h]
  show (Report.policy s.console p >>= fun _ => return 0) = _
  rw [Report.policy_of_refuses hrefuses]
  rfl

theorem validate_of_gate {e : GateError} (h : PolicyFile.load s.files config = .error (.gate e)) :
    s.validate config = ⟨e.explanation.map .print, .ok 1⟩ := by
  unfold validate
  rw [h]
  show (Report.error e >>= fun _ => return 1) = _
  rw [Report.error_eq]
  exact congrArg (Run.mk · (.ok 1)) (List.append_nil _)

theorem validate_of_unreadable {u : Unreadable}
    (h : PolicyFile.load s.files config = .error (.unreadable u)) :
    s.validate config = ⟨[], .error (.unreadable u)⟩ := by
  unfold validate
  rw [h]
  rfl

/-- The policy is loaded and all of its summary shown with exit code 0, or an error about the
configuration is raised and shown with exit code 1. -/
inductive Settles (s : Surroundings) (config : String) : Prop
  | policy {p : Policy} (hload : PolicyFile.load s.files config = .ok p)
      (hrun : (Command.validate config).execute s = ⟨p.summary.map .print, .ok 0⟩)
  | refused {e : GateError} (hkind : e.kind = .configuration)
      (hload : PolicyFile.load s.files config = .error (.gate e))
      (hrun : (Command.validate config).execute s = ⟨e.explanation.map .print, .ok 1⟩)

end Surroundings

namespace PolicyFile

/-- The loader gives a policy or raises an error about the configuration. -/
inductive Explained : Except Failure Policy → Prop
  | policy (p : Policy) : Explained (.ok p)
  | refused {e : GateError} (h : e.kind = .configuration) : Explained (.error (.gate e))

variable {files : Files} {config : String}

theorem explained_load_iff :
    Explained (load files config) ↔ ∀ u, ¬ Stumbles files (.ofString config) u := by
  constructor
  · intro h u hu
    rw [load_eq_unreadable_iff.2 hu] at h
    cases h
  · intro h
    have hreplies : Replies (load files config) := replies_load config
    generalize hload : load files config = result at hreplies
    cases hreplies with
    | value p => exact .policy p
    | refused hkind => exact .refused hkind
    | unreadable u => exact absurd (load_eq_unreadable_iff.1 hload) (h u)

/-- What was written as text is found to be text. -/
theorem not_stumbles_toUTF8 {path : Path} {text : String}
    (hget : files.get path = .ok (.file text.toUTF8)) : ¬ Stumbles files path .notUnicode := by
  rintro ⟨_, h⟩
  rw [hget] at h
  cases h with
  | document h =>
    generalize hdoc : Yaml.Document.load depth (.ofBytes text.toUTF8) = doc at h
    cases h with
    | notUnicode => exact Yaml.Document.load_toUTF8 _ _ hdoc

end PolicyFile

open PolicyFile in
/-- The command shows what the loader says if the console takes it. -/
theorem Surroundings.settles_iff {s : Surroundings} {config : String} :
    s.Settles config ↔ Explained (PolicyFile.load s.files config) ∧
      ∀ p, PolicyFile.load s.files config = .ok p → s.console.Takes p := by
  constructor
  · intro h
    cases h with
    | @policy p hload hrun =>
      rw [hload]
      refine ⟨.policy p, ?_⟩
      intro q hq
      cases hq
      rcases s.console.takes_or_refuses p with htakes | ⟨shown, text, hrefuses⟩
      · exact htakes
      · -- a run that ends with an exit code is not one that the console ended
        have hends := congrArg Run.result (hrun.symm.trans (validate_of_refuses hload hrefuses))
        cases hends
    | refused hkind hload =>
      rw [hload]
      exact ⟨.refused hkind, fun p hp => by cases hp⟩
  · rintro ⟨hexplained, htakes⟩
    generalize hload : PolicyFile.load s.files config = result at hexplained htakes
    cases hexplained with
    | policy p => exact .policy hload (validate_of_takes hload (htakes p rfl))
    | refused hkind => exact .refused hkind hload (validate_of_gate hload)

namespace Shelf

/-- One file in the working directory. -/
def files (bytes : ByteArray) : Files :=
  (Files.start ["home"] "<cwd>").put ["home", "p"] (.file bytes)

def surroundings (bytes : ByteArray) : Surroundings where
  files := files bytes
  preset := none
  settings := ⟨.ok (), .ok ()⟩
  api := ⟨fun _ => .ok [], fun _ => .error (.fault .interrupted), [], [], fun _ _ => .ok (),
    fun _ => .ok ()⟩
  now := ⟨⟨2024, 1, 2⟩, 3, 4, 5, 0, none⟩

def gating : ByteArray := "daemonsets: [\x7bname: fluentd, namespace: kube-system\x7d]\n".toUTF8

/-- A comment with a letter in Latin-1. -/
def latin : ByteArray := ⟨#[0x23, 0xff, 0x0a]⟩

theorem path_eq : Path.ofString "p" = ⟨"", ["p"]⟩ := by
  -- texts are split by a recursion that does not reduce, so it is unfolded step by step
  have hsteps : "p".splitOn "/" = ["p"] := by
    unfold String.splitOn
    rw [if_neg (by decide), String.splitOnAux, if_neg (by decide), if_neg (by decide),
      String.splitOnAux, if_pos (by decide)]
    rfl
  unfold Path.ofString
  rw [hsteps]
  rfl

/-- The policy that the gating file holds. -/
def policy : Policy where
  workloads := [Drifted.fluentd]
  selector := Dict.empty
  rejecter := Dict.empty
  sweepOutOfScope := false
  markFirstReady := true
  distinct := by decide

theorem load_eq (bytes : ByteArray) : PolicyFile.load (files bytes) "p" =
    (PolicyFile.read ⟨"", ["p"]⟩ bytes >>= PolicyFile.ofData ⟨"", ["p"]⟩) := by
  unfold PolicyFile.load
  rw [path_eq]
  rfl

theorem load_gating_eq : PolicyFile.load (files gating) "p" = .ok policy := by
  rw [load_eq]
  decide +kernel

theorem stumbles_latin :
    PolicyFile.Stumbles (files latin) (.ofString "p") .notUnicode := by
  rw [path_eq]
  refine ⟨by decide, .document ?_⟩
  have hdoc : Yaml.Document.load PolicyFile.depth (.ofBytes latin) = .error .notUnicode := rfl
  rw [hdoc]
  exact .notUnicode

/-- The selector has a mark in it that closes nothing. -/
def marked : ByteArray := "nodeSelector: \x7ba: '[/b]'\x7d\n".toUTF8

/-- The policy that the file with the mark holds. -/
def markedPolicy : Policy where
  workloads := []
  selector := ⟨[(.ofString "a", .ofString "[/b]")], by decide⟩
  rejecter := Dict.empty
  sweepOutOfScope := false
  markFirstReady := true
  distinct := List.nodup_nil

theorem load_marked_eq : PolicyFile.load (files marked) "p" = .ok markedPolicy := by
  rw [load_eq]
  decide +kernel

/-- A console that takes text only if nothing but the heading is marked in it, and if it can be
encoded. -/
def console : Console := fun t =>
  match t.string? with
  | none => .error "surrogates not allowed"
  | some s =>
    if s.toList.count '[' = 2 then .ok ()
    else .error "closing tag '[/b]' at position 31 doesn't match any open tag"

theorem console_takesUnmarked : console.TakesUnmarked := by
  intro heading hheading text htext
  have hcount : heading.toList.count '[' = 2 := by
    revert heading
    decide
  unfold console
  rw [RawText.string?_ofString]
  dsimp only
  rw [String.toList_append, List.count_append, hcount, List.count_eq_zero_of_not_mem htext]
  rfl

theorem console_refuses_marked :
    console.Refuses markedPolicy (markedPolicy.summary.take 1)
      "closing tag '[/b]' at position 31 doesn't match any open tag" := by
  refine .selector ?_
  have hline : markedPolicy.selectorLine =
      .ofString ("\n[bold]Node selector:[/bold] " ++ ("a" ++ "=" ++ "[/b]")) := by
    simp only [RawText.ofString_append]
    rfl
  unfold console
  rw [hline, RawText.string?_ofString]
  decide

end Shelf

end NodeGate
