import NodeGate.Command.Report
import NodeGate.Proofs.Runs

/-!
# What is shown of a policy, and of an error

The summary of a policy is a table, two lines about its selectors, two about its switches, and a last one
that calls it valid (`Policy.summary`). The lines about the selectors hold text from the policy file as it
stands, so it is for the console to take them; if it refuses one, the summary ends there
(`Report.policy_of_refuses`). A console that renders marks takes them at least if nothing in the selectors
can be a mark and all of it can be encoded (`Console.TakesUnmarked.takes`).

What is shown of an error is escaped, and so always shown (`Report.error_eq`).
-/

set_option autoImplicit false

namespace NodeGate

/-! ## Raw texts -/

namespace RawText

theorem ofString_append (s t : String) : ofString (s ++ t) = ofString s ++ ofString t := by
  show (⟨(s ++ t).toList.map .char⟩ : RawText) = ⟨s.toList.map .char ++ t.toList.map .char⟩
  rw [String.toList_append, List.map_append]

theorem append_assoc (t u v : RawText) : t ++ u ++ v = t ++ (u ++ v) :=
  congrArg mk (List.append_assoc ..)

/-- The text is a string without a bracket that a mark could begin with. -/
def Unmarked (t : RawText) : Prop := ∃ s : String, t = ofString s ∧ '[' ∉ s.toList

theorem Unmarked.append {t u : RawText} (ht : t.Unmarked) (hu : u.Unmarked) :
    (t ++ u).Unmarked := by
  obtain ⟨s, rfl, hs⟩ := ht
  obtain ⟨s', rfl, hs'⟩ := hu
  refine ⟨s ++ s', (ofString_append s s').symm, ?_⟩
  rw [String.toList_append, List.mem_append]
  exact not_or.2 ⟨hs, hs'⟩

/-- The entries of a selector in one line, or what is said of an empty one. -/
def listing (empty : String) : List (RawText × RawText) → RawText
  | [] => ofString empty
  | [(key, value)] => key ++ ofString "=" ++ value
  | (key, value) :: e :: rest =>
    key ++ ofString "=" ++ value ++ ofString ", " ++ listing empty (e :: rest)

theorem listing_cons_eq (empty : String) (e : RawText × RawText) (es : List (RawText × RawText)) :
    listing empty (e :: es) =
      intercalate (ofString ", ") ((e :: es).map fun (k, v) => k ++ ofString "=" ++ v) := by
  induction es generalizing e with
  | nil => exact congrArg mk (List.append_nil _).symm
  | cons e' es ih =>
    unfold listing
    rw [ih, append_assoc _ (ofString ", ")]
    rfl

theorem unmarked_listing {empty : String} {es : List (RawText × RawText)} (hempty : '[' ∉ empty.toList)
    (h : ∀ e ∈ es, e.1.Unmarked ∧ e.2.Unmarked) : (listing empty es).Unmarked := by
  have hequals : (ofString "=").Unmarked := ⟨"=", rfl, by decide⟩
  have hcomma : (ofString ", ").Unmarked := ⟨", ", rfl, by decide⟩
  induction es with
  | nil => exact ⟨empty, rfl, hempty⟩
  | cons e es ih =>
    obtain ⟨hkey, hvalue⟩ := h e List.mem_cons_self
    have hentry := (hkey.append hequals).append hvalue
    cases es with
    | nil => exact hentry
    | cons e' es =>
      exact (hentry.append hcomma).append (ih fun e he => h e (List.mem_cons_of_mem _ he))

end RawText

/-! ## Summaries of policies -/

namespace Policy

/-- The line about the selector, which is put on the console unescaped. -/
def selectorLine (p : Policy) : RawText :=
  .ofString "\n[bold]Node selector:[/bold] " ++ .listing "(all nodes)" p.selector.entries

/-- So is the line about the rejecter. -/
def rejecterLine (p : Policy) : RawText :=
  .ofString "[bold]Node rejecter:[/bold] " ++ .listing "(none)" p.rejecter.entries

/-- All that is to be shown of a policy. -/
def summary (p : Policy) : List Printed :=
  [.table "Gating Workloads" ["Namespace", "Name", "Taint Key"]
      (p.workloads.map fun w => [w.ns, w.name, w.taintKey]),
    .markup p.selectorLine.shown,
    .markup p.rejecterLine.shown,
    .markup ("[bold]Sweep out-of-scope nodes:[/bold] " ++ if p.sweepOutOfScope then "True" else "False"),
    .markup ("[bold]Mark first ready:[/bold] " ++ if p.markFirstReady then "True" else "False"),
    .markup "\n[green]✓ Policy is valid[/green]"]

/-- Nothing in the selectors can be a mark, and all of it can be encoded. -/
def Unmarked (p : Policy) : Prop :=
  ∀ e ∈ p.selector.entries ++ p.rejecter.entries, e.1.Unmarked ∧ e.2.Unmarked

end Policy

namespace Console

/-- The console takes the summary of the policy. -/
def Takes (console : Console) (p : Policy) : Prop :=
  console p.selectorLine = .ok () ∧ console p.rejecterLine = .ok ()

/-- The console refuses a line of the summary with an error, and this much is shown before. -/
inductive Refuses (console : Console) (p : Policy) : List Printed → String → Prop
  | selector {text : String} (h : console p.selectorLine = .error text) :
      Refuses console p (p.summary.take 1) text
  | rejecter {text : String} (hselector : console p.selectorLine = .ok ())
      (h : console p.rejecterLine = .error text) : Refuses console p (p.summary.take 2) text

/-- The console takes a heading in bold and text behind it in which nothing can be a mark. -/
def TakesUnmarked (console : Console) : Prop :=
  ∀ heading ∈ ["\n[bold]Node selector:[/bold] ", "[bold]Node rejecter:[/bold] "],
    ∀ text : String, '[' ∉ text.toList → console (.ofString (heading ++ text)) = .ok ()

variable {console : Console} {p : Policy}

theorem takes_or_refuses (console : Console) (p : Policy) :
    console.Takes p ∨ ∃ shown text, console.Refuses p shown text := by
  cases hselector : console p.selectorLine with
  | error text => exact .inr ⟨_, text, .selector hselector⟩
  | ok _ =>
    cases hrejecter : console p.rejecterLine with
    | error text => exact .inr ⟨_, text, .rejecter hselector hrejecter⟩
    | ok _ => exact .inl ⟨hselector, hrejecter⟩

theorem TakesUnmarked.takes (h : console.TakesUnmarked) (hp : p.Unmarked) : console.Takes p := by
  have hline : ∀ heading ∈ ["\n[bold]Node selector:[/bold] ", "[bold]Node rejecter:[/bold] "],
      ∀ t : RawText, t.Unmarked → console (.ofString heading ++ t) = .ok () := by
    rintro heading hheading t ⟨s, rfl, hs⟩
    rw [← RawText.ofString_append]
    exact h heading hheading s hs
  constructor
  · refine hline _ List.mem_cons_self _ (RawText.unmarked_listing (by decide) fun e he => ?_)
    exact hp e (List.mem_append_left _ he)
  · refine hline _ (List.mem_cons_of_mem _ List.mem_cons_self) _
      (RawText.unmarked_listing (by decide) fun e he => ?_)
    exact hp e (List.mem_append_right _ he)

end Console

/-! ## Errors -/

/-- What is shown of an error: its message, and its details if there are any. -/
def GateError.explanation (e : GateError) : List Printed :=
  .markup ("[red]Error:[/red] " ++ Markup.escape e.message) ::
    match e.details with
    | none | some "" => []
    | some details => [.markup ("\n" ++ Markup.escape details)]

/-! ## Showing them -/

namespace Report

variable {console : Console} {p : Policy}

theorem selector_eq (s : Selector) (empty : String) :
    selector s empty = .listing empty s.entries := by
  unfold selector Dict.isEmpty
  cases s.entries with
  | nil => rfl
  | cons e es => exact (RawText.listing_cons_eq empty e es).symm

theorem unescaped_of_ok {t : RawText} (h : console t = .ok ()) :
    unescaped console t = ⟨[.print (.markup t.shown)], .ok ()⟩ := by
  unfold unescaped
  rw [h]
  rfl

theorem unescaped_of_error {t : RawText} {text : String} (h : console t = .error text) :
    unescaped console t = ⟨[], .error (.fault (.foreign text))⟩ := by
  unfold unescaped
  rw [h]
  rfl

/-- The summary with its two lines that the console may refuse. -/
theorem policy_eq (console : Console) (p : Policy) :
    policy console p = (do
      Run.step (.print (workloads p))
      unescaped console p.selectorLine
      unescaped console p.rejecterLine
      ⟨(p.summary.drop 3).map .print, .ok ()⟩) := by
  unfold policy
  simp only [selector_eq]
  rfl

theorem policy_of_takes (h : console.Takes p) :
    policy console p = ⟨p.summary.map .print, .ok ()⟩ := by
  rw [policy_eq, unescaped_of_ok h.1, unescaped_of_ok h.2]
  rfl

/-- **What is shown ends before the line that is refused.** -/
theorem policy_of_refuses {shown : List Printed} {text : String}
    (h : console.Refuses p shown text) :
    policy console p = ⟨shown.map .print, .error (.fault (.foreign text))⟩ := by
  rw [policy_eq]
  cases h with
  | selector h =>
    rw [unescaped_of_error h]
    rfl
  | rejecter hselector h =>
    rw [unescaped_of_ok hselector, unescaped_of_error h]
    rfl

theorem error_eq (e : GateError) : error e = ⟨e.explanation.map .print, .ok ()⟩ := by
  unfold error GateError.explanation
  cases e.details with
  | none => rfl
  | some details =>
    by_cases h : details = ""
    · subst h
      rfl
    · have hempty : details.isEmpty = false := by
        rw [Bool.eq_false_iff]
        exact mt String.isEmpty_iff.1 h
      simp only [hempty]
      rfl

end Report

end NodeGate
