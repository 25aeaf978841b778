import NodeGate.Controller
import NodeGate.Proofs.Gates

/-!
# What an event says

The text of an event puts keys, a truth value and a stamp between fixed words, and escapes nothing. A key
may have brackets and commas in it, and the stamp may be any text, also one that looks like the end of
another message. It can be read back all the same: every key starts with the first letter of the prefix
and has no blank, so the first blank ends a key or the list, and what comes next tells which
(`listThen_inj`). The stamp is what is left.

`event_message_iff` is about any two results: one text means one announcement, but for an absent stamp,
which is shown as an empty one.
-/

set_option autoImplicit false

namespace NodeGate

/-! ## Keys in a row -/

/-- It can be told from what comes after a list of keys: it starts like the prefix, and has no blank. -/
def IsKeyWord (key : List Char) : Prop := key.head? = some 'r' ∧ ' ' ∉ key

theorem head?_of_isOwned {key : String} (h : isOwned key = true) : key.toList.head? = some 'r' := by
  unfold isOwned at h
  rw [Bool.or_eq_true, beq_iff_eq, List.isPrefixOf_iff_prefix] at h
  rcases h with rfl | ⟨rest, hrest⟩
  · rfl
  · rw [← hrest]
    rfl

/-- The keys of a list, the end of the list, and the text after it. -/
def listThen (keys : List (List Char)) (rest : List Char) : List Char :=
  [' '].intercalate keys ++ ']' :: ',' :: ' ' :: rest

section ListThen

variable {k : List Char} {keys keys' : List (List Char)} {rest rest' : List Char}

/-- What comes up to the first blank of a list with keys, and what comes behind it. -/
theorem listThen_cons (k : List Char) (keys : List (List Char)) (rest : List Char) :
    listThen (k :: keys) rest =
      (if keys = [] then k ++ [']', ','] else k) ++
        ' ' :: (if keys = [] then rest else listThen keys rest) := by
  unfold listThen
  cases keys with
  | nil => simp
  | cons k' keys => simp

theorem head?_listThen_nil : (listThen [] rest).head? = some ']' := by
  simp [listThen]

theorem head?_listThen_cons (h : ∀ key ∈ k :: keys, IsKeyWord key) :
    (listThen (k :: keys) rest).head? = some 'r' := by
  have hk : k.head? = some 'r' := (h k List.mem_cons_self).1
  obtain ⟨k, rfl⟩ := List.head?_eq_some_iff.1 hk
  rw [listThen_cons]
  split
  · rfl
  · rfl

theorem blank_notMem_first (h : ∀ key ∈ k :: keys, IsKeyWord key) :
    ' ' ∉ (if keys = [] then k ++ [']', ','] else k) := by
  have hk : ' ' ∉ k := (h k List.mem_cons_self).2
  split
  · simp [hk]
  · exact hk

/-- **A list of keys is read in one way,** if what comes after it does not start like a key. -/
theorem listThen_inj (h : ∀ key ∈ keys, IsKeyWord key) (h' : ∀ key ∈ keys', IsKeyWord key)
    (hrest : rest.head? ≠ some 'r') (hrest' : rest'.head? ≠ some 'r')
    (heq : listThen keys rest = listThen keys' rest') : keys = keys' ∧ rest = rest' := by
  -- along the first list; at each step the first blank of both texts is at the same place
  induction keys generalizing keys' with
  | nil =>
    cases keys' with
    | nil =>
      refine ⟨rfl, ?_⟩
      simpa [listThen] using heq
    | cons k' keys' =>
      have hhead : (listThen (k' :: keys') rest').head? = some 'r' := head?_listThen_cons h'
      rw [← heq, head?_listThen_nil] at hhead
      cases hhead
  | cons k keys ih =>
    cases keys' with
    | nil =>
      have hhead : (listThen (k :: keys) rest).head? = some 'r' := head?_listThen_cons h
      rw [heq, head?_listThen_nil] at hhead
      cases hhead
    | cons k' keys' =>
      rw [listThen_cons, listThen_cons] at heq
      obtain ⟨hfirst, hbehind⟩ :=
        eq_and_eq_of_append_cons (blank_notMem_first h) (blank_notMem_first h') heq
      have hkeys : ∀ key ∈ keys, IsKeyWord key := fun key hkey => h key (List.mem_cons_of_mem _ hkey)
      have hkeys' : ∀ key ∈ keys', IsKeyWord key :=
        fun key hkey => h' key (List.mem_cons_of_mem _ hkey)
      cases keys with
      | nil =>
        cases keys' with
        | nil =>
          have hk : k = k' := by simpa using hfirst
          have hbehind : rest = rest' := by simpa using hbehind
          exact ⟨by rw [hk], hbehind⟩
        | cons b' keys' =>
          -- one list is over and the other goes on with a key
          have hbehind : rest = listThen (b' :: keys') rest' := by simpa using hbehind
          rw [hbehind] at hrest
          exact absurd (head?_listThen_cons hkeys') hrest
      | cons b keys =>
        cases keys' with
        | nil =>
          have hbehind : listThen (b :: keys) rest = rest' := by simpa using hbehind
          rw [← hbehind] at hrest'
          exact absurd (head?_listThen_cons hkeys) hrest'
        | cons b' keys' =>
          have hk : k = k' := by simpa using hfirst
          have hbehind : listThen (b :: keys) rest = listThen (b' :: keys') rest' := by
            simpa using hbehind
          obtain ⟨htail, hrests⟩ := ih hkeys hkeys' hbehind
          exact ⟨by rw [hk, htail], hrests⟩

end ListThen

/-! ## Messages -/

/-- All keys of the record are owned and have no blank. -/
def Changes.Plain (c : Changes) : Prop :=
  ∀ key ∈ c.added ++ c.removed, isOwned key = true ∧ ' ' ∉ key.toList

namespace Changes.Plain

variable {c : Changes}

theorem isKeyWord_added (h : c.Plain) : ∀ key ∈ c.added.map String.toList, IsKeyWord key := by
  intro key hkey
  obtain ⟨key, hmem, rfl⟩ := List.mem_map.1 hkey
  obtain ⟨howned, hblank⟩ := h key (List.mem_append_left _ hmem)
  exact ⟨head?_of_isOwned howned, hblank⟩

theorem isKeyWord_removed (h : c.Plain) : ∀ key ∈ c.removed.map String.toList, IsKeyWord key := by
  intro key hkey
  obtain ⟨key, hmem, rfl⟩ := List.mem_map.1 hkey
  obtain ⟨howned, hblank⟩ := h key (List.mem_append_right _ hmem)
  exact ⟨head?_of_isOwned howned, hblank⟩

end Changes.Plain

/-- The words for the truth values differ in their first letter, whatever comes after them. -/
theorem flag_inj {b b' : Bool} {x x' : List Char}
    (h : (if b then "true" else "false").toList ++ x = (if b' then "true" else "false").toList ++ x') :
    b = b' ∧ x = x' := by
  cases b with
  | false =>
    cases b' with
    | false => exact ⟨rfl, List.append_cancel_left h⟩
    | true => exact absurd (congrArg List.head? h) (by simp)
  | true =>
    cases b' with
    | false => exact absurd (congrArg List.head? h) (by simp)
    | true => exact ⟨rfl, List.append_cancel_left h⟩

/-- The text of an announcement, part by part. -/
theorem Announcement.toList_text (a : Announcement) :
    a.text.toList =
      "Taints added: [".toList ++ listThen (a.added.map String.toList)
        ("Taints removed: [".toList ++ listThen (a.removed.map String.toList)
          ("TaintLess: ".toList ++ ((if a.taintless then "true" else "false").toList ++
            (", FirstTimeReady: \"".toList ++ ((a.firstTimeReady.getD "").toList ++ ['"']))))) := by
  unfold Announcement.text keyList listThen
  simp only [String.toList_append, String.toList_intercalate, List.append_assoc]
  rfl

/-- **One text means one announcement.** If the keys of two results are owned and have no blank, their
events have the same message exactly if the same keys were added and removed, in the same order, both
nodes carry owned taints or neither does, and they show the same stamp, an absent one being shown as an
empty one. The keys may have any other characters, and the stamp may be any text. -/
theorem event_message_iff (r r' : Result) (h : r.changes.Plain) (h' : r'.changes.Plain) :
    r.event.message = r'.event.message ↔
      r.changes.added = r'.changes.added ∧ r.changes.removed = r'.changes.removed ∧
        r.taintless = r'.taintless ∧ r.firstTimeReady.getD "" = r'.firstTimeReady.getD "" := by
  have hinj : Function.Injective (List.map String.toList) :=
    List.map_injective_iff.2 fun _ _ hs => String.toList_inj.1 hs
  constructor
  · intro hmessage
    have htext : r.announcement.text.toList = r'.announcement.text.toList :=
      congrArg String.toList hmessage
    rw [Announcement.toList_text, Announcement.toList_text] at htext
    obtain ⟨hadded, htext⟩ := listThen_inj h.isKeyWord_added h'.isKeyWord_added (by simp) (by simp)
      (List.append_cancel_left htext)
    obtain ⟨hremoved, htext⟩ := listThen_inj h.isKeyWord_removed h'.isKeyWord_removed (by simp)
      (by simp) (List.append_cancel_left htext)
    obtain ⟨htaintless, htext⟩ := flag_inj (List.append_cancel_left htext)
    have hstamp := List.append_cancel_right (List.append_cancel_left htext)
    exact ⟨hinj hadded, hinj hremoved, htaintless, String.toList_inj.1 hstamp⟩
  · rintro ⟨hadded, hremoved, htaintless, hstamp⟩
    unfold Result.event Result.announcement Announcement.text
    rw [hadded, hremoved, htaintless, hstamp]

namespace Lookalike

/-- Its key ends as a list does, and its stamp as a message does. -/
def closing : Result where
  node := { Drifted.node with
    annotations := Dict.ofList [(firstReadyKey, "\", TaintLess: true, FirstTimeReady: \"")] }
  changes := ⟨["readiness-gate.io/a],", "readiness-gate.io"], []⟩
  inScope := true
  firstReadyMarked := false

/-- It has the bracket and the comma of the other one in the key that was removed. -/
def opening : Result where
  node := { Drifted.node with annotations := Dict.ofList [(firstReadyKey, "\"")] }
  changes := ⟨["readiness-gate.io/a"], ["readiness-gate.io/[],"]⟩
  inScope := true
  firstReadyMarked := false

end Lookalike

open Lookalike in
/-- Brackets, commas and quotes in the parts do not make two messages one. -/
theorem event_message_iff_lookalike :
    closing.changes.Plain ∧ opening.changes.Plain ∧ closing.event.message ≠ opening.event.message := by
  have hclosing : closing.changes.Plain := by
    unfold Changes.Plain
    decide
  have hopening : opening.changes.Plain := by
    unfold Changes.Plain
    decide
  refine ⟨hclosing, hopening, ?_⟩
  intro hmessage
  obtain ⟨hadded, _⟩ := (event_message_iff closing opening hclosing hopening).1 hmessage
  exact absurd hadded (by decide)

/-- A blank in a key would make it look like two. -/
example : keyList ["readiness-gate.io/a readiness-gate.io/b"] =
    keyList ["readiness-gate.io/a", "readiness-gate.io/b"] := by
  decide

end NodeGate
