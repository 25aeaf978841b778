import Mathlib.Data.List.Induction
import Mathlib.Data.List.Nodup
import NodeGate.Dict

/-!
# Reading and writing dictionaries

What is in a dictionary after a write. A write changes what is read at its own key and nothing else
(`get?_insert`), it changes nothing if the entry is there already (`insertMany_of_subset`), and a key
that is written again and again might as well have had its last value from the start
(`ofList_setEvery`). What comes of writing a whole list is told by `ofList_eq_iff`. Where the order of
entries is of no account, dictionaries are compared by `Same` and `Within`.
-/

set_option autoImplicit false

namespace NodeGate

variable {α : Type} [DecidableEq α]

/-! ## One entry -/

theorem lookup_cons_eq_ite (k : α) (e : α × α) (es : List (α × α)) :
    (e :: es).lookup k = if k = e.1 then some e.2 else es.lookup k := by
  obtain ⟨key, value⟩ := e
  rw [List.lookup_cons]
  by_cases h : k = key
  · rw [if_pos h, beq_iff_eq.2 h]
  · rw [if_neg h, beq_eq_false_iff_ne.2 h]

theorem lookup_putEntry (key value k : α) (es : List (α × α)) :
    (putEntry key value es).lookup k = if k = key then some value else es.lookup k := by
  induction es with
  | nil => exact lookup_cons_eq_ite k (key, value) []
  | cons e es ih =>
    obtain ⟨k', v'⟩ := e
    by_cases hk : k' = key
    · subst hk
      rw [putEntry, if_pos rfl, lookup_cons_eq_ite, lookup_cons_eq_ite]
      by_cases h : k = k'
      · rw [if_pos h, if_pos h]
      · rw [if_neg h, if_neg h, if_neg h]
    · rw [putEntry, if_neg hk, lookup_cons_eq_ite, lookup_cons_eq_ite, ih]
      by_cases h : k = k'
      · subst h
        rw [if_pos rfl, if_pos rfl, if_neg hk]
      · rw [if_neg h, if_neg h]

/-- A key that is not there goes last. -/
theorem putEntry_of_notMem {key : α} (value : α) {es : List (α × α)} (h : key ∉ es.map Prod.fst) :
    putEntry key value es = es ++ [(key, value)] := by
  induction es with
  | nil => rfl
  | cons e es ih =>
    obtain ⟨k, v⟩ := e
    obtain ⟨hk, hes⟩ := not_or.1 (mt List.mem_cons.2 h)
    rw [putEntry, if_neg (fun heq => hk heq.symm), ih hes, List.cons_append]

/-- The entries with `value` at every place of `key`. -/
def setEvery (key value : α) (es : List (α × α)) : List (α × α) :=
  es.map fun e => if e.1 = key then (key, value) else e

theorem setEvery_cons (key value : α) (e : α × α) (es : List (α × α)) :
    setEvery key value (e :: es) =
      (if e.1 = key then (key, value) else e) :: setEvery key value es := rfl

theorem setEvery_of_notMem {key : α} (value : α) {es : List (α × α)} (h : key ∉ es.map Prod.fst) :
    setEvery key value es = es := by
  unfold setEvery
  refine (List.map_congr_left fun e he => ?_).trans (List.map_id es)
  refine if_neg fun hkey => h ?_
  rw [← hkey]
  exact List.mem_map_of_mem he

/-- Where no key comes twice, a write sets every place of its key, because there is but one. -/
theorem putEntry_eq_setEvery {key : α} (value : α) {es : List (α × α)}
    (h : (es.map Prod.fst).Nodup) (hkey : key ∈ es.map Prod.fst) :
    putEntry key value es = setEvery key value es := by
  induction es with
  | nil => cases hkey
  | cons e es ih =>
    obtain ⟨k, v⟩ := e
    obtain ⟨hk, hes⟩ := List.nodup_cons.1 h
    rw [setEvery_cons]
    by_cases heq : k = key
    · subst heq
      rw [putEntry, if_pos rfl, if_pos rfl, setEvery_of_notMem value hk]
    · rw [putEntry, if_neg heq, if_neg heq]
      have hmem : key ∈ es.map Prod.fst :=
        (List.mem_cons.1 hkey).resolve_left fun h => heq h.symm
      rw [ih hes hmem]

theorem putEntry_of_mem {key value : α} {es : List (α × α)} (h : (es.map Prod.fst).Nodup)
    (hmem : (key, value) ∈ es) : putEntry key value es = es := by
  rw [putEntry_eq_setEvery value h (List.mem_map_of_mem hmem)]
  unfold setEvery
  refine (List.map_congr_left fun e he => ?_).trans (List.map_id es)
  split
  · rename_i hkey
    exact (List.inj_on_of_nodup_map h he hmem hkey).symm
  · rfl

/-- Setting every place of a key commutes with writing. -/
theorem putEntry_setEvery (key value k v : α) (es : List (α × α)) :
    putEntry k (if k = key then value else v) (setEvery key value es) =
      setEvery key value (putEntry k v es) := by
  induction es with
  | nil => by_cases h : k = key <;> simp [setEvery, putEntry, h]
  | cons e es ih =>
    obtain ⟨k', v'⟩ := e
    by_cases hk : k' = k
    · subst hk
      by_cases h : k' = key <;> simp [setEvery, putEntry, h]
    · rw [putEntry, if_neg hk, setEvery_cons, setEvery_cons, ← ih]
      by_cases h : k' = key
      · subst h
        rw [if_pos rfl, putEntry, if_neg hk]
      · rw [if_neg h, putEntry, if_neg hk]

theorem foldl_putEntry_setEvery (key value : α) (es ds : List (α × α)) :
    (setEvery key value es).foldl (fun ds e => putEntry e.1 e.2 ds) (setEvery key value ds) =
      setEvery key value (es.foldl (fun ds e => putEntry e.1 e.2 ds) ds) := by
  induction es generalizing ds with
  | nil => rfl
  | cons e es ih =>
    rw [setEvery_cons, List.foldl_cons, List.foldl_cons, ← ih, ← putEntry_setEvery]
    by_cases h : e.1 = key
    · rw [if_pos h, if_pos h, h]
    · rw [if_neg h, if_neg h]

/-! ## Dictionaries -/

namespace Dict

omit [DecidableEq α] in
theorem eq_of_entries {d e : Dict α} (h : d.entries = e.entries) : d = e := by
  obtain ⟨ds, hd⟩ := d
  cases h
  rfl

@[simp]
theorem get?_empty (key : α) : (empty : Dict α).get? key = none := rfl

/-- A write changes what is read at its own key and nothing else. -/
theorem get?_insert (d : Dict α) (key value k : α) :
    (d.insert key value).get? k = if k = key then some value else d.get? k :=
  lookup_putEntry key value k d.entries

theorem notMem_keys_of_contains {d : Dict α} {key : α} (h : d.contains key = false) :
    key ∉ d.entries.map Prod.fst := by
  intro hkey
  obtain ⟨e, he, rfl⟩ := List.mem_map.1 hkey
  have hnone : d.entries.lookup e.1 = none :=
    Option.isNone_iff_eq_none.1 (Option.isSome_eq_false_iff.1 h)
  have hne := List.lookup_eq_none_iff.1 hnone e he
  simp at hne

theorem contains_insert_self (d : Dict α) (key value : α) :
    (d.insert key value).contains key = true := by
  rw [contains, get?_insert, if_pos rfl]
  rfl

theorem entries_insertMany (d : Dict α) (es : List (α × α)) :
    (d.insertMany es).entries = es.foldl (fun ds e => putEntry e.1 e.2 ds) d.entries := by
  induction es generalizing d with
  | nil => rfl
  | cons e es ih => exact ih (d.insert e.1 e.2)

/-- Entries that are there already change nothing. -/
theorem insertMany_of_subset {d : Dict α} {es : List (α × α)} (h : ∀ e ∈ es, e ∈ d.entries) :
    d.insertMany es = d := by
  induction es with
  | nil => rfl
  | cons e es ih =>
    have hput : d.insert e.1 e.2 = d :=
      eq_of_entries (putEntry_of_mem d.nodup (h e List.mem_cons_self))
    show (d.insert e.1 e.2).insertMany es = d
    rw [hput]
    exact ih fun e he => h e (List.mem_cons_of_mem _ he)

/-- Of entries that are written together none covers another, so each is read as it was written. -/
theorem get?_insertMany (d : Dict α) {es : List (α × α)} (h : (es.map Prod.fst).Nodup) (k : α) :
    (d.insertMany es).get? k = (es.lookup k).or (d.get? k) := by
  induction es generalizing d with
  | nil => rfl
  | cons e es ih =>
    obtain ⟨hkey, hes⟩ := List.nodup_cons.1 h
    show ((d.insert e.1 e.2).insertMany es).get? k = _
    rw [ih _ hes, get?_insert, lookup_cons_eq_ite]
    by_cases hk : k = e.1
    · have hnone : es.lookup k = none := by
        refine List.lookup_eq_none_iff.2 fun e' he' => ?_
        have hne : k ≠ e'.1 := fun heq => hkey (hk ▸ heq ▸ List.mem_map_of_mem he')
        exact bne_iff_ne.2 hne
      rw [hnone, if_pos hk, if_pos hk]
      rfl
    · rw [if_neg hk, if_neg hk]

/-- What is written over a dictionary is read first. -/
theorem get?_merge (d e : Dict α) (k : α) : (d.merge e).get? k = (e.get? k).or (d.get? k) :=
  get?_insertMany d e.nodup k

theorem get?_filterKeys (d : Dict α) (p : α → Bool) (k : α) :
    (d.filterKeys p).get? k = if p k = true then d.get? k else none := by
  show (d.entries.filter fun e => p e.1).lookup k = if p k = true then d.entries.lookup k else none
  induction d.entries with
  | nil => exact (ite_self none).symm
  | cons e es ih =>
    rw [lookup_cons_eq_ite, List.filter_cons]
    by_cases hp : p e.1 = true
    · rw [if_pos hp, lookup_cons_eq_ite, ih]
      by_cases hk : k = e.1
      · rw [if_pos hk, if_pos hk, hk, if_pos hp]
      · rw [if_neg hk, if_neg hk]
    · rw [if_neg hp, ih]
      by_cases hk : k = e.1
      · rw [hk, if_neg hp, if_neg hp]
      · rw [if_neg hk]

theorem insertMany_append (d : Dict α) (es fs : List (α × α)) :
    d.insertMany (es ++ fs) = (d.insertMany es).insertMany fs :=
  List.foldl_append

/-- The keys written are there, and those that were. -/
theorem mem_keys_insertMany (d : Dict α) (es : List (α × α)) (key : α) :
    key ∈ (d.insertMany es).entries.map Prod.fst ↔
      key ∈ d.entries.map Prod.fst ∨ key ∈ es.map Prod.fst := by
  induction es generalizing d with
  | nil => simp [insertMany]
  | cons e es ih =>
    show key ∈ ((d.insert e.1 e.2).insertMany es).entries.map Prod.fst ↔ _
    rw [ih, insert, keys_putEntry, List.map_cons, List.mem_cons]
    split
    · rename_i hmem
      constructor
      · intro h
        rcases h with h | h
        · exact .inl h
        · exact .inr (.inr h)
      · intro h
        rcases h with h | rfl | h
        · exact .inl h
        · exact .inl hmem
        · exact .inr h
    · rw [List.mem_append, List.mem_singleton, or_assoc]

theorem merge_filterKeys (d : Dict α) (p : α → Bool) : d.merge (d.filterKeys p) = d :=
  insertMany_of_subset fun _ he => (List.mem_filter.1 he).1

/-- Of what is already there and one new entry only that makes a difference. -/
theorem merge_filterKeys_insert {d : Dict α} {key : α} (value : α) {p : α → Bool}
    (h : d.contains key = false) (hp : p key = true) :
    d.merge ((d.insert key value).filterKeys p) = d.insert key value := by
  have hentries : ((d.insert key value).filterKeys p).entries =
      (d.filterKeys p).entries ++ [(key, value)] := by
    show (putEntry key value d.entries).filter _ = d.entries.filter _ ++ _
    rw [putEntry_of_notMem value (notMem_keys_of_contains h), List.filter_append]
    congr 1
    exact List.filter_cons_of_pos hp
  rw [merge, hentries, insertMany_append]
  show (d.merge (d.filterKeys p)).insert key value = _
  rw [merge_filterKeys]

/-- The last value of a key that is written again and again might as well have been its only one. -/
theorem ofList_setEvery {key : α} (value : α) {es : List (α × α)} (h : key ∈ es.map Prod.fst) :
    ofList (setEvery key value es) = (ofList es).insert key value := by
  have hmem : key ∈ (ofList es).entries.map Prod.fst := (mem_keys_insertMany empty es key).2 (.inr h)
  apply eq_of_entries
  show _ = putEntry key value (ofList es).entries
  rw [putEntry_eq_setEvery value (ofList es).nodup hmem]
  unfold ofList
  rw [entries_insertMany, entries_insertMany]
  exact foldl_putEntry_setEvery key value es []

/-! ## Dictionaries with the same entries -/

theorem get?_eq_some_iff {d : Dict α} {key value : α} :
    d.get? key = some value ↔ (key, value) ∈ d.entries := by
  obtain ⟨es, hes⟩ := d
  show es.lookup key = some value ↔ (key, value) ∈ es
  induction es with
  | nil => simp
  | cons e es ih =>
    obtain ⟨hkey, hes⟩ := List.nodup_cons.1 hes
    rw [lookup_cons_eq_ite, List.mem_cons]
    by_cases h : key = e.1
    · -- the key is at the head, and nowhere behind it
      have hnot : (key, value) ∉ es := fun hmem => hkey (h ▸ List.mem_map_of_mem hmem)
      rw [if_pos h, or_iff_left hnot, Option.some.injEq, Prod.ext_iff]
      exact ⟨fun hvalue => ⟨h, hvalue.symm⟩, fun heq => heq.2.symm⟩
    · rw [if_neg h, ih hes, or_iff_right]
      exact fun heq => h (congrArg Prod.fst heq)

/-- The same entries in any order. -/
def Same (d e : Dict α) : Prop := d.entries.Perm e.entries

instance (d e : Dict α) : Decidable (d.Same e) := inferInstanceAs (Decidable (d.entries.Perm e.entries))

/-- Two dictionaries have the same entries if the same is read from them everywhere. -/
theorem same_iff {d e : Dict α} : d.Same e ↔ ∀ key, d.get? key = e.get? key := by
  have hmem : d.Same e ↔ ∀ entry, entry ∈ d.entries ↔ entry ∈ e.entries :=
    List.perm_ext_iff_of_nodup (List.Nodup.of_map _ d.nodup) (List.Nodup.of_map _ e.nodup)
  rw [hmem]
  constructor
  · intro h key
    refine Option.ext fun value => ?_
    rw [get?_eq_some_iff, get?_eq_some_iff]
    exact h (key, value)
  · rintro h ⟨key, value⟩
    rw [← get?_eq_some_iff, ← get?_eq_some_iff, h key]

omit [DecidableEq α] in
theorem Same.isEmpty_eq {d e : Dict α} (h : d.Same e) : d.isEmpty = e.isEmpty := List.Perm.isEmpty_eq h

/-! ## Dictionaries within others -/

/-- Every entry of the first is one of the second, in whatever order and among whatever others. -/
def Within (d e : Dict α) : Prop := ∀ entry ∈ d.entries, entry ∈ e.entries

instance (d e : Dict α) : Decidable (d.Within e) :=
  inferInstanceAs (Decidable (∀ entry ∈ d.entries, entry ∈ e.entries))

omit [DecidableEq α] in
theorem Within.refl (d : Dict α) : d.Within d := fun _ hentry => hentry

omit [DecidableEq α] in
theorem Within.trans {d e f : Dict α} (hde : d.Within e) (hef : e.Within f) : d.Within f :=
  fun entry hentry => hef entry (hde entry hentry)

omit [DecidableEq α] in
theorem Same.within {d e : Dict α} (h : d.Same e) : d.Within e := fun _ hentry => h.mem_iff.1 hentry

omit [DecidableEq α] in
theorem not_within_iff {d e : Dict α} :
    ¬ d.Within e ↔ ∃ entry ∈ d.entries, entry ∉ e.entries := by
  unfold Within
  push Not
  rfl

/-- A key that is not there covers nothing. -/
theorem within_insert {d : Dict α} {key : α} (value : α) (h : d.contains key = false) :
    d.Within (d.insert key value) := by
  intro entry hentry
  show entry ∈ putEntry key value d.entries
  rw [putEntry_of_notMem value (notMem_keys_of_contains h)]
  exact List.mem_append_left _ hentry

/-! ## Dictionaries from entries -/

omit [DecidableEq α] in
/-- Entries with the same keys in the same order are the same if no two differ at one key. -/
theorem entries_ext {ds es : List (α × α)} (hkeys : ds.map Prod.fst = es.map Prod.fst)
    (h : ∀ d ∈ ds, ∀ e ∈ es, d.1 = e.1 → d.2 = e.2) : ds = es := by
  induction ds generalizing es with
  | nil => exact (List.map_eq_nil_iff.1 hkeys.symm).symm
  | cons d ds ih =>
    cases es with
    | nil => cases hkeys
    | cons e es =>
      obtain ⟨hkey, hkeys⟩ := List.cons.inj hkeys
      have hvalue : d.2 = e.2 := h d List.mem_cons_self e List.mem_cons_self hkey
      have htail : ds = es := ih hkeys fun d' hd' e' he' =>
        h d' (List.mem_cons_of_mem d hd') e' (List.mem_cons_of_mem e he')
      rw [htail, Prod.ext hkey hvalue]

/-- The keys are those of the entries, in the order in which they first come, and each has its last
value. -/
def Gathers (d : Dict α) (es : List (α × α)) : Prop :=
  d.entries.map Prod.fst = (es.map Prod.fst).eraseDups ∧ ∀ key, d.get? key = es.reverse.lookup key

theorem gathers_ofList (es : List (α × α)) : (ofList es).Gathers es := by
  induction es using List.reverseRecOn with
  | nil => exact ⟨rfl, fun _ => rfl⟩
  | append_singleton es e ih =>
    have hinsert : ofList (es ++ [e]) = (ofList es).insert e.1 e.2 := insertMany_append empty es [e]
    obtain ⟨hkeys, hvalues⟩ := ih
    rw [hinsert]
    constructor
    · show (putEntry e.1 e.2 (ofList es).entries).map Prod.fst = _
      rw [keys_putEntry, hkeys, List.map_append, List.eraseDups_append]
      by_cases hmem : e.1 ∈ es.map Prod.fst
      · rw [if_pos (List.mem_eraseDups.2 hmem)]
        simp [List.removeAll, hmem]
      · rw [if_neg (mt List.mem_eraseDups.1 hmem)]
        simp [List.removeAll, hmem, List.eraseDups_cons]
    · intro key
      rw [get?_insert, hvalues, List.reverse_append, List.reverse_singleton, List.singleton_append,
        lookup_cons_eq_ite]

/-- What is gathered from entries is told by its keys and what is read there. -/
theorem ofList_eq_iff {es : List (α × α)} {d : Dict α} : ofList es = d ↔ d.Gathers es := by
  constructor
  · rintro rfl
    exact gathers_ofList es
  · rintro ⟨hkeys, hvalues⟩
    obtain ⟨hkeys', hvalues'⟩ := gathers_ofList es
    apply eq_of_entries
    apply entries_ext (hkeys'.trans hkeys.symm)
    intro e he e' he' hkey
    have hread : (ofList es).get? e.1 = some e.2 := get?_eq_some_iff.2 he
    have hread' : d.get? e'.1 = some e'.2 := get?_eq_some_iff.2 he'
    rw [hvalues', hkey, ← hvalues, hread'] at hread
    exact (Option.some.inj hread).symm

end Dict

end NodeGate
