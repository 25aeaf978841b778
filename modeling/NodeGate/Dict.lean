/-!
# Dictionaries

Labels and annotations are dictionaries from strings to strings; selectors are ones from raw texts
to raw texts. A `Dict` keeps its entries in the order in which their keys first came, because a
policy shows its selectors in file order. Writing to a key that is there keeps its place. No key
comes twice: that is a field of the type, so every reader of `entries` may use it.
-/

set_option autoImplicit false

namespace NodeGate

variable {α : Type}

/-! ## Writing one entry -/

/-- Sets `key` to `value`: in its place if it is there, at the end otherwise. -/
def putEntry [DecidableEq α] (key value : α) : List (α × α) → List (α × α)
  | [] => [(key, value)]
  | (k, v) :: rest => if k = key then (key, value) :: rest else (k, v) :: putEntry key value rest

/-- A write never moves a key: a known one keeps its place, a new one goes last. -/
theorem keys_putEntry [DecidableEq α] (key value : α) (es : List (α × α)) :
    (putEntry key value es).map Prod.fst =
      if key ∈ es.map Prod.fst then es.map Prod.fst else es.map Prod.fst ++ [key] := by
  induction es with
  | nil => simp [putEntry]
  | cons e rest ih =>
    obtain ⟨k, v⟩ := e
    by_cases h : k = key
    · simp [putEntry, h]
    · have h' : ¬ key = k := fun e => h e.symm
      simp only [putEntry, h, if_false, List.map_cons, ih, List.mem_cons, h', false_or]
      split <;> simp

theorem nodup_keys_putEntry [DecidableEq α] (key value : α) (es : List (α × α))
    (h : (es.map Prod.fst).Nodup) : ((putEntry key value es).map Prod.fst).Nodup := by
  rw [keys_putEntry]
  split
  · exact h
  · rename_i hk
    rw [List.nodup_append]
    refine ⟨h, by simp, ?_⟩
    intro a ha b hb hab
    simp only [List.mem_singleton] at hb
    exact hk (hb ▸ hab ▸ ha)

/-! ## Dictionaries -/

/-- Entries in the order in which their keys first came, each key once. -/
structure Dict (α : Type) where
  entries : List (α × α)
  nodup : (entries.map Prod.fst).Nodup
deriving DecidableEq

namespace Dict

def empty : Dict α := ⟨[], List.nodup_nil⟩

instance : Inhabited (Dict α) := ⟨empty⟩

/-- The value at `key`, if there is one. -/
def get? [DecidableEq α] (d : Dict α) (key : α) : Option α := d.entries.lookup key

def contains [DecidableEq α] (d : Dict α) (key : α) : Bool := (d.get? key).isSome

def isEmpty (d : Dict α) : Bool := d.entries.isEmpty

def insert [DecidableEq α] (d : Dict α) (key value : α) : Dict α :=
  ⟨putEntry key value d.entries, nodup_keys_putEntry key value d.entries d.nodup⟩

/-- Writes the entries one after the other, so of a repeated key the last value counts. -/
def insertMany [DecidableEq α] (d : Dict α) (es : List (α × α)) : Dict α :=
  es.foldl (fun d e => d.insert e.1 e.2) d

def ofList [DecidableEq α] (es : List (α × α)) : Dict α := empty.insertMany es

/-- The entries of `e` written over those of `d`. -/
def merge [DecidableEq α] (d e : Dict α) : Dict α := d.insertMany e.entries

/-- The entries whose key passes the test, in order. -/
def filterKeys (d : Dict α) (p : α → Bool) : Dict α :=
  ⟨d.entries.filter fun e => p e.1,
    List.Nodup.sublist ((List.filter_sublist (l := d.entries)).map Prod.fst) d.nodup⟩

end Dict

end NodeGate
