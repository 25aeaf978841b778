import NodeGate.PolicyFile
import NodeGate.Proofs.Gates

/-!
# Legal keys and what they say

The API server takes a taint only if its key is legal: behind the prefix there has to be a qualified
name. The forms that are asked of names and namespaces are made for that, and they are recognised by
patterns. Here the patterns are put into words (`matches_bounded_iff`), and so is what it means that a
pattern is asked of a line: the text may have one newline at its end (`acceptsLine_iff_chomp`). That is
the only way in which an accepted workload can fail to have a legal key (`hasLegalKey_iff`).

A key also says whose it is. `keyParts?` reads the namespace and the name off it, at the first dot.
-/

set_option autoImplicit false

namespace NodeGate

/-! ## The patterns in words -/

namespace Pattern

theorem matches_one_iff {among : Char → Bool} {s : List Char} :
    Matches (.one among) s ↔ ∃ c, s = [c] ∧ among c = true := by
  constructor
  · intro h
    cases h with
    | one h => exact ⟨_, rfl, h⟩
  · rintro ⟨c, rfl, h⟩
    exact .one h

theorem matches_many_one_iff {among : Char → Bool} {s : List Char} :
    Matches (.many (.one among)) s ↔ ∀ c ∈ s, among c = true := by
  constructor
  · intro h c hc
    exact h.reads c hc
  · intro h
    induction s with
    | nil => exact .none
    | cons c s ih =>
      have hrest : Matches (.many (.one among)) s := ih fun d hd => h d (List.mem_cons_of_mem c hd)
      exact .more (.one (h c List.mem_cons_self)) hrest

/-- The text without one newline at its end. -/
def chomp (s : List Char) : List Char := if s.getLast? = Option.some '\n' then s.dropLast else s

theorem chomp_of_getLast?_ne {s : List Char} (h : s.getLast? ≠ Option.some '\n') : chomp s = s :=
  if_neg h

/-- A pattern without newlines is asked of the text without the newline at its end. -/
theorem acceptsLine_iff_chomp {p : Pattern} (hp : p.reads '\n' = false) {s : List Char} :
    p.acceptsLine s = true ↔ Matches p (chomp s) := by
  unfold acceptsLine chomp
  by_cases h : s.getLast? = Option.some '\n'
  · have hnot : p.accepts s = false := by
      rw [Bool.eq_false_iff]
      intro hs
      have hreads := ((accepts_iff p s).1 hs).reads '\n' (List.mem_of_getLast? h)
      rw [hp] at hreads
      cases hreads
    simp [h, hnot, accepts_iff]
  · simp [h, accepts_iff]

end Pattern

/-- There is an edge at both ends, and everywhere a character for the inside. -/
def Bounded (edge inside : Char → Bool) (s : List Char) : Prop :=
  s.head?.any edge = true ∧ s.getLast?.any edge = true ∧ ∀ c ∈ s, inside c = true

namespace Bounded

variable {edge inside : Char → Bool} {s : List Char} {c : Char}

theorem length_pos (h : Bounded edge inside s) : 1 ≤ s.length := by
  cases s with
  | nil => exact absurd h.1 (by simp)
  | cons c s => simp

theorem edge_of_head? (h : Bounded edge inside s) (hc : s.head? = some c) : edge c = true := by
  have hfirst := h.1
  rwa [hc] at hfirst

theorem edge_of_getLast? (h : Bounded edge inside s) (hc : s.getLast? = some c) :
    edge c = true := by
  have hlast := h.2.1
  rwa [hc] at hlast

end Bounded

theorem getLast?_cons_concat {α : Type} (a : α) (s : List α) (b : α) :
    (a :: (s ++ [b])).getLast? = some b := by
  rw [← List.cons_append, List.getLast?_concat]

theorem matches_bounded_iff {edge inside : Char → Bool} (h : ∀ c, edge c = true → inside c = true)
    {s : List Char} : Pattern.Matches (bounded edge inside) s ↔ Bounded edge inside s := by
  simp only [bounded, Pattern.maybe, Pattern.matches_cat_iff, Pattern.matches_either_iff,
    Pattern.matches_empty_iff, Pattern.matches_one_iff, Pattern.matches_many_one_iff]
  constructor
  · rintro ⟨_, _, rfl, ⟨a, rfl, ha⟩, (⟨t, _, rfl, ht, ⟨b, rfl, hb⟩⟩ | rfl)⟩
    · refine ⟨ha, ?_, ?_⟩
      · show Option.any edge (a :: (t ++ [b])).getLast? = true
        rw [getLast?_cons_concat]
        exact hb
      intro c hc
      simp only [List.cons_append, List.nil_append, List.mem_cons, List.mem_append,
        List.not_mem_nil, or_false] at hc
      rcases hc with rfl | hc | rfl
      · exact h c ha
      · exact ht c hc
      · exact h c hb
    · exact ⟨ha, ha, by simpa using h a ha⟩
  · rintro ⟨hfirst, hlast, hall⟩
    cases s with
    | nil => simp at hfirst
    | cons a s =>
      refine ⟨[a], s, rfl, ⟨a, rfl, hfirst⟩, ?_⟩
      rcases List.eq_nil_or_concat s with rfl | ⟨t, b, rfl⟩
      · exact .inr rfl
      · refine .inl ⟨t, [b], List.concat_eq_append, ?_, b, rfl, ?_⟩
        · intro c hc
          exact hall c (by simp [hc])
        · rwa [List.concat_eq_append, getLast?_cons_concat] at hlast

/-! ## Names and namespaces -/

open Pattern (chomp)

theorem isName_iff {s : String} :
    isName s = true ↔ Bounded Char.isAlphanum
      (fun c => c.isAlphanum || c == '-' || c == '_' || c == '.') (chomp s.toList) := by
  unfold isName namePattern
  rw [Pattern.acceptsLine_iff_chomp (by decide), matches_bounded_iff]
  intro c hc
  simp [hc]

theorem isNamespace_iff {s : String} :
    isNamespace s = true ↔ s.length ≤ longest ∧
      Bounded (fun c => c.isLower || c.isDigit) (fun c => c.isLower || c.isDigit || c == '-')
        (chomp s.toList) := by
  unfold isNamespace namespacePattern
  rw [Bool.and_eq_true, decide_eq_true_iff, Pattern.acceptsLine_iff_chomp (by decide),
    matches_bounded_iff]
  intro c hc
  simp only [hc, Bool.true_or]

theorem length_chomp_le (s : List Char) : (chomp s).length ≤ s.length := by
  unfold Pattern.chomp
  split
  · rw [List.length_dropLast]
    exact Nat.sub_le _ _
  · exact Nat.le_refl _

/-! ## Legal keys -/

/-- What the API server wants behind the prefix of a key. -/
structure QualifiedName (s : List Char) : Prop where
  length_pos : 1 ≤ s.length
  length_le : s.length ≤ 63
  chars : ∀ c ∈ s, c.isAlphanum = true ∨ c = '-' ∨ c = '_' ∨ c = '.'
  first : ∀ c, s.head? = some c → c.isAlphanum = true
  last : ∀ c, s.getLast? = some c → c.isAlphanum = true

/-- What the API server wants a namespace to be. -/
structure DnsLabel (s : List Char) : Prop where
  length_pos : 1 ≤ s.length
  length_le : s.length ≤ 63
  chars : ∀ c ∈ s, c.isLower = true ∨ c.isDigit = true ∨ c = '-'
  first : ∀ c, s.head? = some c → c.isLower = true ∨ c.isDigit = true
  last : ∀ c, s.getLast? = some c → c.isLower = true ∨ c.isDigit = true

namespace Workload

structure HasLegalKey (w : Workload) : Prop where
  key : ∃ part, w.taintKey.toList = (reserved ++ "/").toList ++ part ∧ QualifiedName part
  ns : DnsLabel w.ns.toList

/-- Neither the namespace nor the name ends in a newline. -/
def OneLine (w : Workload) : Prop :=
  w.ns.toList.getLast? ≠ some '\n' ∧ w.name.toList.getLast? ≠ some '\n'

instance (w : Workload) : Decidable w.OneLine := inferInstanceAs (Decidable (_ ∧ _))

theorem isAlphanum_of_label {c : Char} (h : c.isLower = true ∨ c.isDigit = true) :
    c.isAlphanum = true := by
  show ((c.isUpper || c.isLower) || c.isDigit) = true
  rcases h with h | h
  · rw [h, Bool.or_true, Bool.true_or]
  · rw [h, Bool.or_true]

/-- Without the newlines at their ends the names of a workload are always legal. -/
theorem dnsLabel_chomp (w : Workload) : DnsLabel (chomp w.ns.toList) := by
  obtain ⟨hlength, hns⟩ := isNamespace_iff.1 w.ns_ok
  have hshort : (chomp w.ns.toList).length ≤ w.ns.length := by
    rw [← String.length_toList]
    exact length_chomp_le w.ns.toList
  refine ⟨hns.length_pos, Nat.le_trans hshort hlength, ?_, ?_, ?_⟩
  · intro c hc
    have hinside := hns.2.2 c hc
    simp only [Bool.or_eq_true, beq_iff_eq, or_assoc] at hinside
    exact hinside
  · intro c hc
    simpa using hns.edge_of_head? hc
  · intro c hc
    simpa using hns.edge_of_getLast? hc

theorem qualifiedName_chomp (w : Workload) :
    QualifiedName (chomp w.ns.toList ++ '.' :: chomp w.name.toList) := by
  have hns := w.dnsLabel_chomp
  have hname := isName_iff.1 w.name_ok
  have hshort := length_chomp_le w.ns.toList
  have hshort' := length_chomp_le w.name.toList
  have hfits : w.ns.toList.length + 1 + w.name.toList.length ≤ 63 := by
    rw [String.length_toList, String.length_toList]
    exact w.fits
  refine ⟨?_, ?_, ?_, ?_, ?_⟩
  · simp only [List.length_append, List.length_cons]
    omega
  · simp only [List.length_append, List.length_cons]
    omega
  · intro c hc
    rcases List.mem_append.1 hc with hc | hc
    · rcases hns.chars c hc with h | h | rfl
      · exact .inl (isAlphanum_of_label (.inl h))
      · exact .inl (isAlphanum_of_label (.inr h))
      · exact .inr (.inl rfl)
    · rcases List.mem_cons.1 hc with rfl | hc
      · exact .inr (.inr (.inr rfl))
      · have hinside := hname.2.2 c hc
        simp only [Bool.or_eq_true, beq_iff_eq, or_assoc] at hinside
        exact hinside
  · intro c hc
    obtain ⟨b, s, hs⟩ := List.exists_cons_of_length_pos hns.length_pos
    rw [hs] at hc
    exact isAlphanum_of_label (hns.first c (by rw [hs]; exact hc))
  · intro c hc
    refine hname.edge_of_getLast? ?_
    obtain ⟨b, s, hs⟩ := List.exists_cons_of_length_pos hname.length_pos
    rw [hs] at hc ⊢
    simpa using hc

/-- A newline at an end is all that can keep a workload from a legal key. -/
theorem hasLegalKey_iff (w : Workload) : w.HasLegalKey ↔ w.OneLine := by
  constructor
  · rintro ⟨⟨part, hkey, hpart⟩, hns⟩
    rw [taintKey, toList_ownedKey, List.append_cancel_left_eq] at hkey
    subst hkey
    constructor
    · intro hend
      exact absurd (hns.last _ hend) (by decide)
    · intro hend
      refine absurd (hpart.last '\n' ?_) (by decide)
      rw [List.getLast?_append, List.getLast?_cons, hend]
      rfl
  · rintro ⟨hns, hname⟩
    have hkey := w.qualifiedName_chomp
    have hlabel := w.dnsLabel_chomp
    rw [Pattern.chomp_of_getLast?_ne hns, Pattern.chomp_of_getLast?_ne hname] at hkey
    rw [Pattern.chomp_of_getLast?_ne hns] at hlabel
    exact ⟨⟨_, toList_ownedKey w.ns w.name, hkey⟩, hlabel⟩

end Workload

/-! ## Keys of accepted workloads -/

/-- The policy was accepted, as data or as a file. -/
inductive Policy.Accepted (p : Policy) : Prop
  | ofData (v : Value) (h : check v = .ok p)
  | ofFile (files : Files) (path : String) (h : PolicyFile.load files path = .ok p)

/-- The workload was accepted, by itself or in a policy. -/
inductive Workload.Accepted (w : Workload) : Prop
  | ofData (v : Value) (h : check v = .ok w)
  | ofPolicy (p : Policy) (h : p.Accepted) (hw : w ∈ p.workloads)

/-- **When an accepted workload has a legal key.** Its key is legal, and its namespace is a label, if
and only if neither of its names ends in a newline. Without such newlines they always are. -/
theorem accepted_key_legal_iff (w : Workload) :
    w.Accepted →
      QualifiedName (chomp w.ns.toList ++ '.' :: chomp w.name.toList) ∧
      DnsLabel (chomp w.ns.toList) ∧ (w.HasLegalKey ↔ w.OneLine) := by
  intro _
  exact ⟨w.qualifiedName_chomp, w.dnsLabel_chomp, w.hasLegalKey_iff⟩

namespace Newline

def data (name ns : String) : Value :=
  .map [(.text "name", .text name), (.text "namespace", .text ns)]

/-- A name with a newline at its end, as a block of text in a file gives it. -/
def broken : Workload :=
  { Drifted.fluentd with name := "fluentd\n", name_ok := by decide, fits := by decide }

end Newline

/-- Of the two workloads the one has a legal key and the other, which is accepted too, has none. -/
theorem accepted_key_legal_iff_fluentd :
    Drifted.fluentd.Accepted ∧ Drifted.fluentd.HasLegalKey ∧
      Newline.broken.Accepted ∧ ¬ Newline.broken.HasLegalKey := by
  have hfluentd : Drifted.fluentd.Accepted := .ofData (Newline.data "fluentd" "kube-system") rfl
  have hbroken : Newline.broken.Accepted := .ofData (Newline.data "fluentd\n" "kube-system") rfl
  refine ⟨hfluentd, ?_, hbroken, ?_⟩
  · exact (accepted_key_legal_iff _ hfluentd).2.2.2 (by decide)
  · intro hlegal
    exact absurd ((accepted_key_legal_iff _ hbroken).2.2.1 hlegal) (by decide)

/-- A name that ends in a newline is accepted, and the key with the newline in it is not legal. -/
theorem newline_accepted :
    Workload.check (Newline.data "fluentd\n" "kube-system") = .ok Newline.broken ∧
      ¬ Newline.broken.HasLegalKey := by
  refine ⟨rfl, ?_⟩
  rw [Workload.hasLegalKey_iff]
  decide

/-! ## The parts of a key -/

/-- The text behind the prefix, up to its first dot and from there on. -/
def keyParts? (key : String) : Option (String × String) :=
  let start := (reserved ++ "/").toList
  if start.isPrefixOf key.toList then
    let rest := key.toList.drop start.length
    match rest.dropWhile (· != '.') with
    | _ :: name => some (String.ofList (rest.takeWhile (· != '.')), String.ofList name)
    | [] => none
  else none

theorem keyParts?_ownedKey {ns : String} (h : '.' ∉ ns.toList) (name : String) :
    keyParts? (ownedKey ns name) = some (ns, name) := by
  have hns : ∀ c ∈ ns.toList, (c != '.') = true := by
    intro c hc
    rw [bne_iff_ne]
    rintro rfl
    exact h hc
  have hprefix : (reserved ++ "/").toList.isPrefixOf (ownedKey ns name).toList = true := by
    rw [toList_ownedKey, List.isPrefixOf_iff_prefix]
    exact List.prefix_append _ _
  have htake : (ns.toList ++ '.' :: name.toList).takeWhile (· != '.') = ns.toList := by
    rw [List.takeWhile_append_of_pos hns]
    simp
  have hdrop : (ns.toList ++ '.' :: name.toList).dropWhile (· != '.') = '.' :: name.toList := by
    rw [List.dropWhile_append_of_pos hns]
    simp
  unfold keyParts?
  rw [if_pos hprefix, toList_ownedKey, List.drop_left]
  simp only [htake, hdrop, String.ofList_toList]

theorem keyParts?_reserved : keyParts? reserved = none := by decide

/-- **The keys of accepted workloads never collide.** The key of each is owned, is not the bare prefix,
and its parts are the namespace and the name, whatever dots the name has. So two of them have one key
if and only if they are one workload, and in an accepted policy no key comes twice. -/
theorem accepted_keys_decode :
    (∀ w : Workload, w.Accepted →
      isOwned w.taintKey = true ∧ w.taintKey ≠ reserved ∧
        keyParts? w.taintKey = some (w.ns, w.name)) ∧
    (∀ v w : Workload, v.Accepted → w.Accepted → (v.taintKey = w.taintKey ↔ v = w)) ∧
    ∀ p : Policy, p.Accepted → (p.workloads.map Workload.taintKey).Nodup := by
  refine ⟨?_, ?_, ?_⟩
  · intro w _
    have hparts : keyParts? w.taintKey = some (w.ns, w.name) :=
      keyParts?_ownedKey (dot_not_mem_of_isNamespace w.ns_ok) w.name
    refine ⟨w.isOwned_taintKey, ?_, hparts⟩
    intro hbare
    rw [hbare, keyParts?_reserved] at hparts
    cases hparts
  · intro v w _ _
    exact Workload.taintKey_inj
  · intro p _
    exact Workload.nodup_taintKeys p.distinct

namespace Dotted

def policy : Policy :=
  ⟨[Drifted.fluentd, Drifted.driver], Dict.empty, Dict.empty, false, true, by decide⟩

def data : Value :=
  .map [(.text "daemonsets", .list [Newline.data "fluentd" "kube-system",
    Newline.data "csi.driver" "kube-system"])]

end Dotted

/-- The dot in the name of the driver stays with the name. -/
theorem accepted_keys_decode_dotted :
    Dotted.policy.Accepted ∧ Drifted.driver.Accepted ∧ Drifted.fluentd.Accepted ∧
      keyParts? "readiness-gate.io/kube-system.csi.driver" = some ("kube-system", "csi.driver") ∧
      Drifted.driver.taintKey ≠ Drifted.fluentd.taintKey ∧
      (Dotted.policy.workloads.map Workload.taintKey).Nodup := by
  have hpolicy : Dotted.policy.Accepted := .ofData Dotted.data rfl
  have hdriver : Drifted.driver.Accepted := .ofPolicy Dotted.policy hpolicy (by decide)
  have hfluentd : Drifted.fluentd.Accepted := .ofPolicy Dotted.policy hpolicy (by decide)
  obtain ⟨hparts, hkeys, hdistinct⟩ := accepted_keys_decode
  refine ⟨hpolicy, hdriver, hfluentd, (hparts Drifted.driver hdriver).2.2, ?_,
    hdistinct Dotted.policy hpolicy⟩
  rw [Ne, hkeys Drifted.driver Drifted.fluentd hdriver hfluentd]
  decide

end NodeGate
