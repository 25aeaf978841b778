import NodeGate.Proofs.Checks
import NodeGate.Proofs.LegalKeys

/-!
# Which workloads are admitted

A workload is checked as data: its name and its namespace have to be texts of a certain form, and only if
both are, the length of the two together is looked at. Here the forms are told character by character,
for any texts, halves of surrogate pairs included, and with them what the check finds and what it
accepts (`workload_grammar`). The newline that a line may have at its end does not count for the form
(`RawText.core`), but it does for the length and stays where it is. What is found is reported unless it
is that a text holds half of a surrogate pair: a report would quote it, and there is none.

`Workload.check_eq_ok_iff` is the same for any data: it is a workload if and only if it is a mapping that
gives a good name and a good namespace which fit together.
-/

set_option autoImplicit false

namespace NodeGate

/-! ## Texts as data -/

/-- The text as data. -/
def Value.ofRaw (t : RawText) : Value := t.string?.elim (.broken t) .text

/-- The data is the text, or its bytes. -/
inductive Value.SaysText : Value → String → Prop
  | text (s : String) : SaysText (.text s) s
  | bytes {bs : List UInt8} {s : String} (h : String.fromUTF8? ⟨bs.toArray⟩ = some s) :
      SaysText (.bytes bs) s

theorem Value.ofRaw_ofString (s : String) : ofRaw (.ofString s) = .text s := by
  unfold ofRaw
  rw [RawText.string?_ofString]
  rfl

theorem Check.text_eq_ok_iff {v : Value} {s : String} : text v = .ok s ↔ v.SaysText s := by
  constructor
  · intro h
    cases v with
    | text t =>
      cases h
      exact .text s
    | bytes bs =>
      unfold text at h
      cases hs : String.fromUTF8? ⟨bs.toArray⟩ with
      | some s' =>
        simp only [hs] at h
        cases h
        exact .bytes hs
      | none =>
        simp only [hs] at h
        cases h
    | _ => cases h
  · intro h
    cases h with
    | text s => rfl
    | bytes h =>
      unfold text
      simp only [h]

/-! ## Forms of texts -/

/-- What the class of characters says of a code point. Halves of surrogate pairs are in no class. -/
def CodePoint.among (p : Char → Bool) : CodePoint → Bool
  | char c => p c
  | half _ => false

/-- Nothing is there, or one of the ends is no edge, or something is not for the inside. -/
inductive Malformed {α : Type} (edge inside : α → Bool) : List α → Prop
  | empty : Malformed edge inside []
  | first {a : α} {s : List α} (h : edge a = false) : Malformed edge inside (a :: s)
  | last {a : α} {s : List α} (h : edge a = false) : Malformed edge inside (s ++ [a])
  | inside {a : α} {s : List α} (ha : a ∈ s) (h : inside a = false) : Malformed edge inside s

theorem malformed_map_iff {edge inside : Char → Bool} {s : List Char} :
    Malformed (CodePoint.among edge) (CodePoint.among inside) (s.map .char) ↔
      ¬ Bounded edge inside s := by
  constructor
  · rintro h ⟨hfirst, hlast, hall⟩
    generalize hps : s.map CodePoint.char = ps at h
    cases h with
    | empty =>
      rw [List.map_eq_nil_iff.1 hps] at hfirst
      cases hfirst
    | first h =>
      obtain ⟨c, s, rfl, rfl, _⟩ := List.map_eq_cons_iff.1 hps
      exact absurd hfirst (by simpa [CodePoint.among] using h)
    | last h =>
      obtain ⟨s, t, rfl, _, ht⟩ := List.map_eq_append_iff.1 hps
      obtain ⟨c, rfl, rfl⟩ := List.map_eq_singleton_iff.1 ht
      rw [List.getLast?_concat] at hlast
      exact absurd hlast (by simpa [CodePoint.among] using h)
    | inside ha h =>
      rw [← hps] at ha
      obtain ⟨c, hc, rfl⟩ := List.mem_map.1 ha
      exact absurd (hall c hc) (by simpa [CodePoint.among] using h)
  · intro hnot
    cases s with
    | nil => exact .empty
    | cons c s =>
      by_contra hgood
      refine hnot ⟨?_, ?_, ?_⟩
      · by_contra hfirst
        exact hgood (.first (Bool.eq_false_iff.2 hfirst))
      · by_contra hlast
        obtain ⟨s', d, hs⟩ := List.eq_nil_or_concat (c :: s) |>.resolve_left (List.cons_ne_nil c s)
        rw [hs, List.concat_eq_append, List.getLast?_concat] at hlast
        refine hgood ?_
        rw [hs, List.concat_eq_append, List.map_append]
        exact .last (Bool.eq_false_iff.2 hlast)
      · intro d hd
        by_contra hinside
        exact hgood (.inside (List.mem_map_of_mem hd) (Bool.eq_false_iff.2 hinside))

namespace RawText

/-- The text without one newline at its end. -/
def core (t : RawText) : List CodePoint :=
  if t.points.getLast? = some (.char '\n') then t.points.dropLast else t.points

/-- There is half of a surrogate pair in the text. -/
def HasHalf (t : RawText) : Prop := ∃ n, .half n ∈ t.points

/-- No name of a workload: without the newline at its end it is empty, begins or ends with something else
than a letter or a digit, or has something in it that is no letter, digit, `-`, `_` or `.`. Letters are
those of ASCII. -/
def BadName (t : RawText) : Prop :=
  Malformed (CodePoint.among Char.isAlphanum)
    (CodePoint.among fun c => c.isAlphanum || c == '-' || c == '_' || c == '.') t.core

/-- No namespace: it is too long, or without the newline at its end it is empty, begins or ends with
something else than a small letter or a digit, or has something in it that is neither of these nor `-`. -/
def BadNamespace (t : RawText) : Prop :=
  63 < t.points.length ∨
    Malformed (CodePoint.among fun c => c.isLower || c.isDigit)
      (CodePoint.among fun c => c.isLower || c.isDigit || c == '-') t.core

theorem length_points_ofString (s : String) : (ofString s).points.length = s.length := by
  show (s.toList.map CodePoint.char).length = s.length
  rw [List.length_map, String.length_toList]

theorem core_ofString (s : String) : (ofString s).core = (Pattern.chomp s.toList).map .char := by
  show (if (s.toList.map CodePoint.char).getLast? = some (.char '\n') then _ else _) = _
  have hlast : (s.toList.map CodePoint.char).getLast? = some (.char '\n') ↔
      s.toList.getLast? = some '\n' := by
    rw [List.getLast?_map, Option.map_eq_some_iff]
    simp
  unfold Pattern.chomp
  by_cases h : s.toList.getLast? = some '\n'
  · rw [if_pos (hlast.2 h), if_pos h]
    exact (List.map_dropLast ..).symm
  · rw [if_neg (mt hlast.1 h), if_neg h]
    rfl

theorem half_notMem_ofString (s : String) (n : Nat) : .half n ∉ (ofString s).points := by
  intro hn
  obtain ⟨c, _, hc⟩ := List.mem_map.1 hn
  cases hc

theorem not_hasHalf_ofString (s : String) : ¬ (ofString s).HasHalf :=
  fun ⟨n, hn⟩ => half_notMem_ofString s n hn

theorem exists_chars {ps : List CodePoint} (h : ∀ n, .half n ∉ ps) :
    ∃ cs : List Char, ps = cs.map .char := by
  induction ps with
  | nil => exact ⟨[], rfl⟩
  | cons p ps ih =>
    obtain ⟨cs, rfl⟩ := ih fun n hn => h n (List.mem_cons_of_mem p hn)
    cases p with
    | char c => exact ⟨c :: cs, rfl⟩
    | half n => exact absurd List.mem_cons_self (h n)

/-- A text is a string, or there is half of a surrogate pair in it. -/
theorem string_or_half (t : RawText) : (∃ s, t = ofString s) ∨ t.string? = none ∧ t.HasHalf := by
  by_cases hhalf : t.HasHalf
  · obtain ⟨n, hn⟩ := hhalf
    refine .inr ⟨?_, n, hn⟩
    cases hs : t.string? with
    | none => rfl
    | some s =>
      rw [string?_eq_some_iff.1 hs] at hn
      exact absurd hn (half_notMem_ofString s n)
  · obtain ⟨cs, hcs⟩ := exists_chars fun n hn => hhalf ⟨n, hn⟩
    refine .inl ⟨String.ofList cs, ?_⟩
    obtain ⟨ps⟩ := t
    cases hcs
    unfold ofString ofChars
    rw [String.toList_ofList]

/-- The newline at the end is no half of a surrogate pair. -/
theorem half_mem_core {t : RawText} {n : Nat} (h : .half n ∈ t.points) : .half n ∈ t.core := by
  unfold core
  split
  · rename_i hlast
    rw [← List.dropLast_append_getLast? _ hlast] at h
    rcases List.mem_append.1 h with h | h
    · exact h
    · cases List.mem_singleton.1 h
  · exact h

theorem ne_empty_of_not_badName {t : RawText} (h : ¬ t.BadName) : t ≠ .empty := by
  rintro rfl
  exact h .empty

theorem ne_empty_of_not_badNamespace {t : RawText} (h : ¬ t.BadNamespace) : t ≠ .empty := by
  rintro rfl
  exact h (.inr .empty)

theorem badName_of_half {t : RawText} {n : Nat} (h : .half n ∈ t.points) : t.BadName :=
  .inside (half_mem_core h) rfl

theorem badNamespace_of_half {t : RawText} {n : Nat} (h : .half n ∈ t.points) : t.BadNamespace :=
  .inr (.inside (half_mem_core h) rfl)

theorem badName_ofString_iff {s : String} : (ofString s).BadName ↔ isName s = false := by
  unfold BadName
  rw [core_ofString, malformed_map_iff, ← isName_iff, Bool.not_eq_true]

theorem badNamespace_ofString_iff {s : String} :
    (ofString s).BadNamespace ↔ isNamespace s = false := by
  unfold BadNamespace
  rw [core_ofString, malformed_map_iff, length_points_ofString, ← Bool.not_eq_true, isNamespace_iff, not_and_or,
    Nat.not_le]
  rfl

end RawText

/-! ## What is found in a name -/

/-- The check gives a text as it is unless it is bad. In a bad one it finds one problem, which is that
of the empty text for the empty text and for no other, and which there are no words for exactly if the
text holds half of a surrogate pair. -/
def Judges {ok : String → Bool} (check : Value → Checked { s : String // ok s = true })
    (Bad : RawText → Prop) (whenEmpty : Problem) : Prop :=
  ∀ t, (¬ Bad t ∧ ∃ s, t = .ofString s.1 ∧ check (.ofRaw t) = .ok s) ∨
    Bad t ∧ ∃ p, check (.ofRaw t) = Checked.fail p ∧ (whenEmpty = p ↔ t = .empty) ∧
      (p = .unsayable ↔ t.HasHalf)

section Judges

variable {ok : String → Bool} {check : Value → Checked { s : String // ok s = true }}
  {Bad : RawText → Prop} {whenEmpty : Problem} {otherwise : String → Problem}

/-- Both kinds of names are checked like this: first for text, then for the empty one, then for the
form. -/
def ChecksForm (check : Value → Checked { s : String // ok s = true }) (whenEmpty : Problem)
    (otherwise : String → Problem) : Prop :=
  ∀ v, check v = (do
    let s ← Check.text v
    if s = "" then Checked.fail whenEmpty
    else if h : ok s = true then .ok ⟨s, h⟩ else Checked.fail (otherwise s))

theorem ChecksForm.eq_ok_iff (hcheck : ChecksForm check whenEmpty otherwise) (hempty : ok "" = false)
    {v : Value} {s : { s : String // ok s = true }} : check v = .ok s ↔ v.SaysText s.1 := by
  rw [hcheck, bind_eq_ok_iff, ← Check.text_eq_ok_iff]
  constructor
  · rintro ⟨t, ht, h⟩
    split at h
    · cases h
    · split at h
      · cases h
        exact ht
      · cases h
  · intro h
    have hne : s.1 ≠ "" := by
      intro hs
      have hok := s.2
      rw [hs, hempty] at hok
      cases hok
    refine ⟨s.1, h, ?_⟩
    rw [if_neg hne, dif_pos s.2]

theorem ChecksForm.judges (hcheck : ChecksForm check whenEmpty otherwise) (hempty : ok "" = false)
    (hunsayable : whenEmpty ≠ .unsayable) (hotherwise : ∀ s, otherwise s ≠ whenEmpty)
    (hsayable : ∀ s, otherwise s ≠ .unsayable)
    (hstring : ∀ s, Bad (.ofString s) ↔ ok s = false) (hhalf : ∀ t n, .half n ∈ t.points → Bad t) :
    Judges check Bad whenEmpty := by
  intro t
  rcases t.string_or_half with ⟨s, rfl⟩ | ⟨hnone, n, hn⟩
  · have htext : check (.text s) = if s = "" then Checked.fail whenEmpty
        else if h : ok s = true then .ok ⟨s, h⟩ else Checked.fail (otherwise s) := hcheck (.text s)
    have hnil : RawText.ofString s = .empty ↔ s = "" := RawText.ofString_inj (t := "")
    rw [Value.ofRaw_ofString, hstring, htext, hnil]
    by_cases hs : s = ""
    · subst hs
      exact .inr ⟨hempty, whenEmpty, if_pos rfl, iff_of_true rfl rfl,
        iff_of_false hunsayable (RawText.not_hasHalf_ofString _)⟩
    · rw [if_neg hs]
      by_cases h : ok s = true
      · rw [dif_pos h]
        exact .inl ⟨by simp [h], ⟨s, h⟩, rfl, rfl⟩
      · rw [dif_neg h]
        exact .inr ⟨Bool.eq_false_iff.2 h, otherwise s, rfl, iff_of_false (hotherwise s).symm hs,
          iff_of_false (hsayable s) (RawText.not_hasHalf_ofString s)⟩
  · right
    have hraw : Value.ofRaw t = .broken t := by
      unfold Value.ofRaw
      rw [hnone]
      rfl
    refine ⟨hhalf t n hn, .unsayable, ?_, ?_, iff_of_true rfl ⟨n, hn⟩⟩
    · rw [hraw, hcheck]
      rfl
    · refine iff_of_false hunsayable ?_
      rintro rfl
      cases hn

end Judges

theorem checksForm_checkName : ChecksForm checkName (.rule "workload name cannot be empty") fun s =>
    .rule (s!"workload name '{s}' must consist of alphanumerics, '-', '_' or '.', " ++
      "and start and end with an alphanumeric") := fun _ => rfl

theorem checksForm_checkNamespace :
    ChecksForm checkNamespace (.rule "workload namespace cannot be empty") fun s =>
      .rule (s!"namespace '{s}' must be a DNS label: lowercase alphanumerics and " ++
        "hyphens, at most 63 characters") := fun _ => rfl

theorem judges_checkName :
    Judges checkName RawText.BadName (.rule "workload name cannot be empty") := by
  refine checksForm_checkName.judges (by decide) (by simp) ?_ (by simp)
    (fun s => RawText.badName_ofString_iff) fun t n => RawText.badName_of_half
  intro s h
  -- the two texts part behind their common first words
  have hwords := congrArg (fun words => words.toList[14]?) (Problem.rule.inj h)
  simp only [String.toList_append] at hwords
  cases hwords

theorem judges_checkNamespace :
    Judges checkNamespace RawText.BadNamespace (.rule "workload namespace cannot be empty") := by
  refine checksForm_checkNamespace.judges (by decide) (by simp) ?_ (by simp)
    (fun s => RawText.badNamespace_ofString_iff) fun t n => RawText.badNamespace_of_half
  intro s h
  have hwords := congrArg (fun words => words.toList.head?) (Problem.rule.inj h)
  simp only [String.toList_append] at hwords
  cases hwords

/-! ## What is found in a workload -/

/-- The outcome is that of checking a workload of this name and this namespace. -/
structure RawText.Judged (name ns : RawText) (c : Checked Workload) : Prop where
  name_iff : (∃ i ∈ c.issues, i.place = [.name "name"]) ↔ name.BadName
  ns_iff : (∃ i ∈ c.issues, i.place = [.name "namespace"]) ↔ ns.BadNamespace
  /-- The length is looked at only if both are good. -/
  length_iff : (∃ i ∈ c.issues, i.place = []) ↔
    ¬ name.BadName ∧ ¬ ns.BadNamespace ∧ 63 < ns.points.length + name.points.length + 1
  /-- Nothing else is found. -/
  places : ∀ i ∈ c.issues,
    i.place = [.name "name"] ∨ i.place = [.name "namespace"] ∨ i.place = []
  accepts_iff : (∃ w, c = .ok w) ↔ c.issues = []
  /-- Both texts stay as they are. -/
  ok_iff : ∀ w, c = .ok w ↔ c.issues = [] ∧ name = .ofString w.name ∧ ns = .ofString w.ns
  empty_name_iff :
    ⟨[.name "name"], .rule "workload name cannot be empty"⟩ ∈ c.issues ↔ name = .empty
  empty_ns_iff :
    ⟨[.name "namespace"], .rule "workload namespace cannot be empty"⟩ ∈ c.issues ↔ ns = .empty
  /-- Of a text with half of a surrogate pair nothing at all can be reported, and of all others all is. -/
  unsayable_iff : (∃ e, c.named "Workload" = .error e ∧ e.isSayable = false) ↔ name.HasHalf ∨ ns.HasHalf

namespace Workload

open Checked

theorem ofNames_cases (name : { s : String // isName s = true })
    (ns : { s : String // isNamespace s = true }) :
    (ns.1.length + name.1.length + 1 ≤ 63 ∧
        ∃ w, ofNames name ns = .ok w ∧ w.name = name.1 ∧ w.ns = ns.1) ∨
      63 < ns.1.length + name.1.length + 1 ∧ ∃ words, ofNames name ns = fail (.rule words) := by
  rw [Nat.add_right_comm]
  unfold ofNames
  by_cases h : ns.1.length + 1 + name.1.length ≤ longest
  · rw [dif_pos h]
    exact .inl ⟨h, _, rfl, rfl, rfl⟩
  · rw [dif_neg h]
    exact .inr ⟨Nat.not_le.1 h, _, rfl⟩

theorem eq_of_names {v w : Workload} (hname : v.name = w.name) (hns : v.ns = w.ns) : v = w := by
  obtain ⟨name, ns, _, _, _⟩ := v
  cases hname
  cases hns
  rfl

theorem check_map_eq {es : List (Value × Value)} {v v' : Value}
    (hname : Value.entry? "name" es = some v) (hns : Value.entry? "namespace" es = some v') :
    check (.map es) = (both (within (.name "name") (checkName v))
      (within (.name "namespace") (checkNamespace v')) >>= fun p => ofNames p.1 p.2) := by
  have hname' : Check.required "name" checkName es = within (.name "name") (checkName v) := by
    unfold Check.required
    rw [hname]
  have hns' : Check.required "namespace" checkNamespace es =
      within (.name "namespace") (checkNamespace v') := by
    unfold Check.required
    rw [hns]
  rw [← hname', ← hns']
  rfl

/-- **Which workloads are admitted.** In a mapping that gives a text as the name and one as the namespace
something is found in the name exactly if the name is bad, in the namespace exactly if that is bad, and in
the length exactly if neither is and the two with the dot between them are more than 63 characters. The
mapping is accepted, with both texts as they are, exactly if nothing is found. That a text is empty is said
of the empty text and of no other. What is found is reported, unless one of the texts holds half of a
surrogate pair; then nothing is. -/
theorem workload_grammar (name ns : RawText) (es : List (Value × Value))
    (hname : Value.entry? "name" es = some (.ofRaw name))
    (hns : Value.entry? "namespace" es = some (.ofRaw ns)) : name.Judged ns (check (.map es)) := by
  rw [check_map_eq hname hns]
  rcases judges_checkName name with ⟨hgood, s, rfl, hs⟩ | ⟨hbad, p, hp, hempty, hhalf⟩
  · have hne := RawText.ne_empty_of_not_badName hgood
    rcases judges_checkNamespace ns with ⟨hgood', s', rfl, hs'⟩ | ⟨hbad', p', hp', hempty', hhalf'⟩
    · have hne' := RawText.ne_empty_of_not_badNamespace hgood'
      rw [hs, hs']
      show RawText.Judged _ _ (ofNames s s')
      rcases ofNames_cases s s' with ⟨hfits, w, hw, hname, hns⟩ | ⟨hlong, words, hwords⟩
      · rw [hw]
        have hshort := Nat.not_lt.2 hfits
        constructor
        case ok_iff =>
          intro v
          simp only [Except.ok.injEq, issues_ok, true_and, RawText.ofString_inj]
          constructor
          · rintro rfl
            exact ⟨hname.symm, hns.symm⟩
          · rintro ⟨hname', hns'⟩
            exact eq_of_names (hname.trans hname') (hns.trans hns')
        all_goals simp [exists_unsayable_iff, RawText.not_hasHalf_ofString, RawText.length_points_ofString, hgood,
          hgood', hne, hne', hshort]
      · rw [hwords]
        show RawText.Judged _ _ (.error [⟨[], .rule words⟩])
        constructor
        all_goals simp [exists_unsayable_iff, issues, RawText.not_hasHalf_ofString,
          RawText.length_points_ofString, hgood, hgood', hne, hne', hlong]
    · rw [hs, hp']
      show RawText.Judged _ _ (.error [⟨[.name "namespace"], p'⟩])
      constructor
      all_goals simp [exists_unsayable_iff, issues, RawText.not_hasHalf_ofString, hgood, hbad', hne, hempty',
        hhalf']
  · rcases judges_checkNamespace ns with ⟨hgood', s', rfl, hs'⟩ | ⟨hbad', p', hp', hempty', hhalf'⟩
    · have hne' := RawText.ne_empty_of_not_badNamespace hgood'
      rw [hp, hs']
      show RawText.Judged _ _ (.error [⟨[.name "name"], p⟩])
      constructor
      all_goals simp [exists_unsayable_iff, issues, RawText.not_hasHalf_ofString, hgood', hbad, hne', hempty,
        hhalf]
    · rw [hp, hp']
      show RawText.Judged _ _ (.error [⟨[.name "name"], p⟩, ⟨[.name "namespace"], p'⟩])
      constructor
      all_goals simp [exists_unsayable_iff, issues, hbad, hbad', hempty, hempty', hhalf, hhalf']

namespace Misspelt

/-- The name has a newline at its end, and the namespace a hyphen. -/
def entries : List (Value × Value) :=
  [(.text "image", .null), (.text "name", .text "fluentd\n"), (.text "namespace", .text "kube-")]

/-- A letter and half of a surrogate pair. -/
def halved : RawText := ⟨[.char 'a', .half 0xD800]⟩

def halvedEntries : List (Value × Value) :=
  [(.text "namespace", .text ""), (.text "name", .broken halved)]

end Misspelt

open Misspelt in
/-- The newline is no fault of the name, and the hyphen is one of the namespace. All of that is reported.
Of the other two texts the one has half of a surrogate pair in it, and the other is empty; both are found,
and there is no report. -/
theorem workload_grammar_misspelt :
    Value.entry? "name" entries = some (.ofRaw (.ofString "fluentd\n")) ∧
    Value.entry? "namespace" entries = some (.ofRaw (.ofString "kube-")) ∧
    (¬ ∃ i ∈ (check (.map entries)).issues, i.place = [.name "name"]) ∧
    (∃ i ∈ (check (.map entries)).issues, i.place = [.name "namespace"]) ∧
    (¬ ∃ i ∈ (check (.map entries)).issues, i.place = []) ∧
    (¬ ∃ e, named "Workload" (check (.map entries)) = .error e ∧ e.isSayable = false) ∧
    (∃ i ∈ (check (.map halvedEntries)).issues, i.place = [.name "name"]) ∧
    ⟨[.name "namespace"], .rule "workload namespace cannot be empty"⟩ ∈
      (check (.map halvedEntries)).issues ∧
    ∃ e, named "Workload" (check (.map halvedEntries)) = .error e ∧ e.isSayable = false := by
  have hname : Value.entry? "name" entries = some (.ofRaw (.ofString "fluentd\n")) := by
    rw [Value.ofRaw_ofString]
    rfl
  have hns : Value.entry? "namespace" entries = some (.ofRaw (.ofString "kube-")) := by
    rw [Value.ofRaw_ofString]
    rfl
  have hgood : ¬ (RawText.ofString "fluentd\n").BadName := by
    rw [RawText.badName_ofString_iff]
    decide
  have hbad : (RawText.ofString "kube-").BadNamespace :=
    RawText.badNamespace_ofString_iff.2 (by decide)
  have hjudged := workload_grammar _ _ entries hname hns
  have hhalved := workload_grammar halved .empty halvedEntries rfl rfl
  have hhalf : .half 0xD800 ∈ halved.points := by simp [halved]
  exact ⟨hname, hns, mt hjudged.name_iff.1 hgood, hjudged.ns_iff.2 hbad,
    mt hjudged.length_iff.1 fun h => h.2.1 hbad,
    mt hjudged.unsayable_iff.1 (not_or.2 ⟨RawText.not_hasHalf_ofString _, RawText.not_hasHalf_ofString _⟩),
    hhalved.name_iff.2 (RawText.badName_of_half hhalf), hhalved.empty_ns_iff.2 rfl,
    hhalved.unsayable_iff.2 (.inl ⟨_, hhalf⟩)⟩

end Workload

/-! ## Any data -/

/-- The data is a mapping that gives a good namespace and a good name, and the two fit together. -/
inductive Value.SaysWorkload : Value → String × String → Prop
  | names {es : List (Value × Value)} {v v' : Value} {ns name : String}
      (hname : entry? "name" es = some v) (hv : v.SaysText name)
      (hns : entry? "namespace" es = some v') (hv' : v'.SaysText ns)
      (hgood : ¬ (RawText.ofString name).BadName) (hgood' : ¬ (RawText.ofString ns).BadNamespace)
      (hfits : ns.length + name.length + 1 ≤ 63) : SaysWorkload (.map es) (ns, name)

namespace Workload

open Checked

/-- The namespace and the name. -/
def names (w : Workload) : String × String := (w.ns, w.name)

theorem names_injective : Function.Injective names := by
  intro v w h
  exact eq_of_names (Prod.ext_iff.1 h).2 (Prod.ext_iff.1 h).1

theorem exists_names {ns name : String} (hgood : ¬ (RawText.ofString name).BadName)
    (hgood' : ¬ (RawText.ofString ns).BadNamespace) (hfits : ns.length + name.length + 1 ≤ 63) :
    ∃ w : Workload, w.names = (ns, name) := by
  rw [RawText.badName_ofString_iff, Bool.not_eq_false] at hgood
  rw [RawText.badNamespace_ofString_iff, Bool.not_eq_false] at hgood'
  rw [Nat.add_right_comm] at hfits
  exact ⟨⟨name, ns, hgood, hgood', hfits⟩, rfl⟩

theorem ofNames_eq_ok_iff {name : { s : String // isName s = true }}
    {ns : { s : String // isNamespace s = true }} {w : Workload} :
    ofNames name ns = .ok w ↔ name.1 = w.name ∧ ns.1 = w.ns := by
  unfold ofNames
  constructor
  · intro h
    split at h
    · cases h
      exact ⟨rfl, rfl⟩
    · cases h
  · rintro ⟨hname, hns⟩
    have hfits : ns.1.length + 1 + name.1.length ≤ longest := by
      rw [hname, hns]
      exact w.fits
    rw [dif_pos hfits]
    exact congrArg Except.ok (eq_of_names hname hns)

/-- **Which data is a workload.** -/
theorem check_eq_ok_iff {v : Value} {w : Workload} : check v = .ok w ↔ v.SaysWorkload w.names := by
  have hgood : ¬ (RawText.ofString w.name).BadName := by
    rw [RawText.badName_ofString_iff, w.name_ok]
    exact Bool.noConfusion
  have hgood' : ¬ (RawText.ofString w.ns).BadNamespace := by
    rw [RawText.badNamespace_ofString_iff, w.ns_ok]
    exact Bool.noConfusion
  have hfits : w.ns.length + w.name.length + 1 ≤ 63 := by
    rw [Nat.add_right_comm]
    exact w.fits
  constructor
  · intro h
    cases v with
    | map es =>
      obtain ⟨⟨name, ns⟩, hboth, hnames⟩ := bind_eq_ok_iff.1 h
      obtain ⟨hname, hns⟩ := both_eq_ok_iff.1 hboth
      obtain ⟨v, hv, hname⟩ := Check.required_eq_ok_iff.1 hname
      obtain ⟨v', hv', hns⟩ := Check.required_eq_ok_iff.1 hns
      obtain ⟨hn, hn'⟩ := ofNames_eq_ok_iff.1 hnames
      have hsays : v.SaysText name.1 := (checksForm_checkName.eq_ok_iff (by decide)).1 hname
      have hsays' : v'.SaysText ns.1 := (checksForm_checkNamespace.eq_ok_iff (by decide)).1 hns
      rw [hn] at hsays
      rw [hn'] at hsays'
      exact .names hv hsays hv' hsays' hgood hgood' hfits
    | _ => cases h
  · intro h
    generalize hnames : w.names = names at h
    cases h with
    | names hv hsays hv' hsays' _ _ _ =>
      cases hnames
      have hname : checkName _ = .ok ⟨w.name, w.name_ok⟩ :=
        (checksForm_checkName.eq_ok_iff (by decide)).2 hsays
      have hns : checkNamespace _ = .ok ⟨w.ns, w.ns_ok⟩ :=
        (checksForm_checkNamespace.eq_ok_iff (by decide)).2 hsays'
      rw [check_map_eq hv hv', hname, hns]
      exact ofNames_eq_ok_iff.2 ⟨rfl, rfl⟩

end Workload

end NodeGate
