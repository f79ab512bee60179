/-!
# Dictionaries in insertion order

A `Dict` is a list of pairs with distinct keys.  A key keeps the position of
its first insertion; inserting it again replaces its value.
-/

namespace EnvConcord

/-- A finite map that remembers the order in which its keys first came. -/
structure Dict (α : Type u) (β : Type v) [DecidableEq α] where
  /-- The pairs, in the order of the keys' first insertion. -/
  toList : List (α × β) := []
  /-- No key occurs twice. -/
  nodup : (toList.map Prod.fst).Nodup := by simp

namespace Dict

variable {α : Type u} {β : Type v} [DecidableEq α]

/-- The dictionary without keys. -/
def empty : Dict α β := ⟨[], by simp⟩

instance : Inhabited (Dict α β) := ⟨empty⟩

instance : EmptyCollection (Dict α β) := ⟨empty⟩

instance [Repr α] [Repr β] : Repr (Dict α β) := ⟨fun d n => reprPrec d.toList n⟩

@[ext] theorem ext (d e : Dict α β) (eq : d.toList = e.toList) : d = e := by
  cases d
  cases e
  simp_all

instance [DecidableEq β] : DecidableEq (Dict α β) := fun d e =>
  decidable_of_iff (d.toList = e.toList) ⟨ext d e, fun eq => eq ▸ rfl⟩

/-- The keys in insertion order. -/
def keys (d : Dict α β) : List α := d.toList.map Prod.fst

/-- The values in insertion order of their keys. -/
def values (d : Dict α β) : List β := d.toList.map Prod.snd

/-- The value under a key. -/
def get? (d : Dict α β) (key : α) : Option β := d.toList.lookup key

/-- Whether the key has a value. -/
def contains (d : Dict α β) (key : α) : Bool := d.keys.contains key

/-- Replace the value of a listed key in place, or put a new pair at the end. -/
def insertPair (key : α) (value : β) : List (α × β) → List (α × β)
  | [] => [(key, value)]
  | pair :: rest =>
      if pair.1 = key then (key, value) :: rest else pair :: insertPair key value rest

/-- The keys after an insertion: a known key changes nothing, a new one comes last. -/
theorem map_fst_insertPair (key : α) (value : β) (pairs : List (α × β)) :
    (insertPair key value pairs).map Prod.fst =
      if key ∈ pairs.map Prod.fst then pairs.map Prod.fst else pairs.map Prod.fst ++ [key] := by
  induction pairs with
  | nil => simp [insertPair]
  | cons pair rest ih =>
      by_cases here : pair.1 = key
      · simp [insertPair, here]
      · by_cases later : key ∈ rest.map Prod.fst
        · simp_all [insertPair]
        · have absent : key ∉ (pair :: rest).map Prod.fst := by
            intro mem
            rcases List.mem_cons.1 mem with eq | mem
            · exact here eq.symm
            · exact later mem
          rw [if_neg absent]
          simp [insertPair, here, ih, later]

/-- Set the value of a key. -/
def insert (d : Dict α β) (key : α) (value : β) : Dict α β where
  toList := insertPair key value d.toList
  nodup := by
    rw [map_fst_insertPair]
    split
    · exact d.nodup
    next absent =>
      rw [List.nodup_append]
      refine ⟨d.nodup, by simp, ?_⟩
      intro a mem b memB eq
      simp_all

/-- Remove a key. -/
def erase (d : Dict α β) (key : α) : Dict α β where
  toList := d.toList.filter fun pair => decide (pair.1 ≠ key)
  nodup := (List.Sublist.map _ List.filter_sublist).nodup d.nodup

/-- Insert pairs from left to right. -/
def insertAll (d : Dict α β) (pairs : List (α × β)) : Dict α β :=
  pairs.foldl (fun d pair => d.insert pair.1 pair.2) d

/-- The dictionary built by inserting pairs from left to right. -/
def ofList (pairs : List (α × β)) : Dict α β := empty.insertAll pairs

@[simp] theorem keys_empty : (empty : Dict α β).keys = [] := rfl

/-- The keys after an insertion. -/
theorem keys_insert (d : Dict α β) (key : α) (value : β) :
    (d.insert key value).keys = if key ∈ d.keys then d.keys else d.keys ++ [key] :=
  map_fst_insertPair key value d.toList

/-- An insertion changes the value of its own key only. -/
theorem get?_insert (d : Dict α β) (key other : α) (value : β) :
    (d.insert key value).get? other = if other = key then some value else d.get? other := by
  suffices ∀ pairs : List (α × β),
      (insertPair key value pairs).lookup other =
        if other = key then some value else pairs.lookup other from this d.toList
  intro pairs
  by_cases eq : other = key
  · subst eq
    induction pairs with
    | nil => simp [insertPair]
    | cons pair rest ih =>
        rcases pair with ⟨first, content⟩
        by_cases here : first = other
        · simp [insertPair, here]
        · have apart : (other == first) = false := by simpa using Ne.symm here
          simp only [insertPair, here, if_false, List.lookup_cons, apart]
          simpa using ih
  · have apart : (other == key) = false := by simp [eq]
    induction pairs with
    | nil => simp [insertPair, List.lookup_cons, eq, apart]
    | cons pair rest ih =>
        rcases pair with ⟨first, content⟩
        by_cases here : first = key
        · simp [insertPair, List.lookup_cons, here, eq, apart]
        · simp only [insertPair, here, if_false, List.lookup_cons]
          split <;> simp_all

end Dict

end EnvConcord
