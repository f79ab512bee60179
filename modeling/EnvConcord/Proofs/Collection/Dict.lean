import EnvConcord.Collection.Dict
import EnvConcord.Proofs.Collection.Distinct
import Mathlib.Data.List.Basic

/-!
# Views of dictionaries

A dictionary is seen through its list of pairs.  Inserting pairs one after the other
commutes with mapping the values and with keeping some keys, and it is plain
concatenation exactly where no key comes twice.
-/

namespace EnvConcord.Dict

variable {α : Type*} {β : Type*} {γ : Type*} [DecidableEq α]

/-! ## Keys -/

/-- The test for a key decides membership in the list of keys. -/
theorem contains_iff_mem_keys (d : Dict α β) (key : α) : d.contains key = true ↔ key ∈ d.keys := by
  simp [contains]

/-- Pairs in another order have their keys in another order. -/
theorem keys_perm {d e : Dict α β} (perm : d.toList.Perm e.toList) : d.keys.Perm e.keys :=
  perm.map Prod.fst

/-- The test for a key does not see the order of the pairs. -/
theorem contains_eq_of_perm {d e : Dict α β} (perm : d.toList.Perm e.toList) :
    d.contains = e.contains := by
  funext key
  rw [Bool.eq_iff_iff, contains_iff_mem_keys, contains_iff_mem_keys]
  exact (keys_perm perm).mem_iff

@[simp]
theorem toList_empty : (empty : Dict α β).toList = [] := rfl

@[simp]
theorem insertAll_nil (d : Dict α β) : d.insertAll [] = d := rfl

@[simp]
theorem insertAll_cons (d : Dict α β) (pair : α × β) (pairs : List (α × β)) :
    d.insertAll (pair :: pairs) = (d.insert pair.1 pair.2).insertAll pairs := rfl

theorem insertAll_append (d : Dict α β) (first second : List (α × β)) :
    d.insertAll (first ++ second) = (d.insertAll first).insertAll second := by
  simp [insertAll, List.foldl_append]

theorem mem_keys_insert (d : Dict α β) (key other : α) (value : β) :
    other ∈ (d.insert key value).keys ↔ other = key ∨ other ∈ d.keys := by
  rw [keys_insert]
  split
  next known =>
      constructor
      · exact Or.inr
      · rintro (rfl | mem)
        · exact known
        · exact mem
  next unknown => simp [or_comm]

/-- The keys of several insertions are the old ones and the inserted ones. -/
theorem mem_keys_insertAll (d : Dict α β) (pairs : List (α × β)) (key : α) :
    key ∈ (d.insertAll pairs).keys ↔ key ∈ d.keys ∨ key ∈ pairs.map Prod.fst := by
  induction pairs generalizing d with
  | nil => simp
  | cons pair rest ih =>
      rw [insertAll_cons, ih, mem_keys_insert, List.map_cons, List.mem_cons]
      tauto

theorem mem_keys_ofList (pairs : List (α × β)) (key : α) :
    key ∈ (ofList pairs).keys ↔ key ∈ pairs.map Prod.fst := by
  rw [ofList, mem_keys_insertAll]
  simp

/-- Keys that are inserted come behind the old ones, in the order in which they first do. -/
theorem keys_insertAll (d : Dict α β) (pairs : List (α × β)) :
    (d.insertAll pairs).keys = (d.keys ++ pairs.map Prod.fst).eraseDups := by
  induction pairs using List.reverseRecOn with
  | nil =>
      have kept : d.keys.eraseDups = d.keys := (Collection.eraseDups_eq_self_iff d.keys).2 d.nodup
      simpa using kept.symm
  | append_singleton pairs pair ih =>
      rw [insertAll_append, insertAll_cons, insertAll_nil, keys_insert, ih, List.map_append,
        List.map_singleton, ← List.append_assoc, Collection.eraseDups_append_singleton]
      simp only [List.mem_eraseDups]

/-- Keys come in the order in which they are first inserted. -/
theorem keys_ofList (pairs : List (α × β)) :
    (ofList pairs).keys = (pairs.map Prod.fst).eraseDups :=
  keys_insertAll empty pairs

theorem mem_insertPair {key : α} {value : β} {pair : α × β} {pairs : List (α × β)}
    (mem : pair ∈ insertPair key value pairs) : pair = (key, value) ∨ pair ∈ pairs := by
  induction pairs with
  | nil => exact Or.inl (by simpa [insertPair] using mem)
  | cons first rest ih =>
      rw [insertPair] at mem
      split at mem
      · rcases List.mem_cons.1 mem with here | later
        · exact Or.inl here
        · exact Or.inr (List.mem_cons_of_mem first later)
      · rcases List.mem_cons.1 mem with rfl | later
        · exact Or.inr List.mem_cons_self
        · exact (ih later).imp_right (List.mem_cons_of_mem first)

/-- A dictionary holds no other pairs than those inserted. -/
theorem mem_of_mem_toList_insertAll {d : Dict α β} {pairs : List (α × β)} {pair : α × β}
    (mem : pair ∈ (d.insertAll pairs).toList) : pair ∈ d.toList ∨ pair ∈ pairs := by
  induction pairs generalizing d with
  | nil => exact Or.inl mem
  | cons first rest ih =>
      rcases ih mem with known | later
      · rcases mem_insertPair known with rfl | old
        · exact Or.inr List.mem_cons_self
        · exact Or.inl old
      · exact Or.inr (List.mem_cons_of_mem first later)

theorem mem_of_mem_toList_ofList {pairs : List (α × β)} {pair : α × β}
    (mem : pair ∈ (ofList pairs).toList) : pair ∈ pairs := by
  simpa using mem_of_mem_toList_insertAll mem

/-- A key has a value exactly if it is listed with it. -/
theorem get?_eq_some_iff (d : Dict α β) (key : α) (value : β) :
    d.get? key = some value ↔ (key, value) ∈ d.toList := by
  suffices ∀ pairs : List (α × β), (pairs.map Prod.fst).Nodup →
      (pairs.lookup key = some value ↔ (key, value) ∈ pairs) from this d.toList d.nodup
  intro pairs distinct
  induction pairs with
  | nil => simp
  | cons pair rest ih =>
      rcases pair with ⟨first, content⟩
      rw [List.map_cons, List.nodup_cons] at distinct
      by_cases here : key = first
      · subst here
        have absent : (key, value) ∉ rest := fun mem =>
          distinct.1 (List.mem_map.2 ⟨(key, value), mem, rfl⟩)
        simp [absent, eq_comm]
      · have apart : (key == first) = false := by simpa using here
        simp [List.lookup_cons, apart, here, ih distinct.2]

theorem get?_eq_none_iff (d : Dict α β) (key : α) : d.get? key = none ↔ key ∉ d.keys := by
  rw [get?, List.lookup_eq_none_iff, keys, List.mem_map]
  constructor
  · rintro apart ⟨pair, mem, rfl⟩
    simpa using apart pair mem
  · intro absent pair mem
    rw [bne_iff_ne]
    rintro rfl
    exact absent ⟨pair, mem, rfl⟩

/-- Of the values that are inserted under a key the last one counts. -/
theorem get?_insertAll (d : Dict α β) (pairs : List (α × β)) (key : α) :
    (d.insertAll pairs).get? key = (pairs.reverse.lookup key).or (d.get? key) := by
  induction pairs generalizing d with
  | nil => simp
  | cons pair rest ih =>
      rw [insertAll_cons, ih, get?_insert, List.reverse_cons, List.lookup_append, Option.or_assoc]
      congr 1
      rw [List.lookup_cons, List.lookup_nil]
      by_cases here : key = pair.1
      · simp [here]
      · have apart : (key == pair.1) = false := by simpa using here
        simp [here, apart]

/-- Inserting one value under several keys. -/
theorem get?_insertAll_const (d : Dict α β) (keys : List α) (value : β) (key : α) :
    (d.insertAll (keys.map fun own => (own, value))).get? key =
      if key ∈ keys then some value else d.get? key := by
  induction keys generalizing d with
  | nil => simp
  | cons first rest ih =>
      rw [List.map_cons, insertAll_cons, ih, get?_insert]
      by_cases later : key ∈ rest
      · simp [later]
      · simp [later]

theorem get?_ofList (pairs : List (α × β)) (key : α) :
    (ofList pairs).get? key = pairs.reverse.lookup key := by
  rw [ofList, get?_insertAll]
  exact Option.or_none

/-- A key has the value of its last pair. -/
theorem get?_ofList_eq_some_iff (pairs : List (α × β)) (key : α) (value : β) :
    (ofList pairs).get? key = some value ↔
      ∃ before after, pairs = before ++ (key, value) :: after ∧ ∀ pair ∈ after, pair.1 ≠ key := by
  rw [get?_ofList, List.lookup_eq_some_iff]
  constructor
  · rintro ⟨after, before, split, apart⟩
    refine ⟨before.reverse, after.reverse, ?_, fun pair mem => ?_⟩
    · rw [← List.reverse_reverse pairs, split]
      simp
    · exact Ne.symm (bne_iff_ne.1 (apart pair (List.mem_reverse.1 mem)))
  · rintro ⟨before, after, rfl, apart⟩
    refine ⟨after.reverse, before.reverse, by simp, fun pair mem => ?_⟩
    exact bne_iff_ne.2 (Ne.symm (apart pair (List.mem_reverse.1 mem)))

/-- A dictionary is its keys with their values. -/
theorem toList_eq_filterMap_keys (d : Dict α β) :
    d.toList = d.keys.filterMap fun key => (d.get? key).map (Prod.mk key) := by
  have own : ∀ pair ∈ d.toList, (d.get? pair.1).map (Prod.mk pair.1) = some pair := by
    intro pair mem
    rw [(get?_eq_some_iff d pair.1 pair.2).2 mem]
    rfl
  calc
    d.toList = d.toList.filterMap some := List.filterMap_some.symm
    _ = d.toList.filterMap fun pair => (d.get? pair.1).map (Prod.mk pair.1) :=
      (List.filterMap_congr own).symm
    _ = d.keys.filterMap fun key => (d.get? key).map (Prod.mk key) := by
      rw [keys, List.filterMap_map]
      rfl

/-- Dictionaries with the same keys in the same order and the same values are equal. -/
theorem ext_get? {d e : Dict α β} (keys_eq : d.keys = e.keys)
    (get?_eq : ∀ key, d.get? key = e.get? key) : d = e := by
  ext1
  rw [toList_eq_filterMap_keys d, toList_eq_filterMap_keys e, keys_eq]
  simp only [get?_eq]

/-! ## Mapping and keeping -/

theorem map_insertPair (f : β → γ) (key : α) (value : β) (pairs : List (α × β)) :
    (insertPair key value pairs).map (Prod.map id f) =
      insertPair key (f value) (pairs.map (Prod.map id f)) := by
  induction pairs with
  | nil => rfl
  | cons pair rest ih =>
      by_cases here : pair.1 = key
      · simp [insertPair, here]
      · simp [insertPair, here, ih]

theorem filter_insertPair (keep : α → Bool) (key : α) (value : β) (pairs : List (α × β)) :
    (insertPair key value pairs).filter (fun pair => keep pair.1) =
      if keep key then insertPair key value (pairs.filter fun pair => keep pair.1)
      else pairs.filter fun pair => keep pair.1 := by
  induction pairs with
  | nil => cases kept : keep key <;> simp [insertPair, kept]
  | cons pair rest ih =>
      rcases pair with ⟨first, content⟩
      by_cases here : first = key
      · subst here
        cases kept : keep first <;> simp [insertPair, kept]
      · cases kept : keep key <;> cases held : keep first <;>
          simp [insertPair, here, kept, held, ih]

/-- Mapping the values of a dictionary maps the values of the inserted pairs. -/
theorem map_toList_ofList (f : β → γ) (pairs : List (α × β)) :
    (ofList pairs).toList.map (Prod.map id f) = (ofList (pairs.map (Prod.map id f))).toList := by
  suffices ∀ (d : Dict α β) (e : Dict α γ), d.toList.map (Prod.map id f) = e.toList →
      (d.insertAll pairs).toList.map (Prod.map id f) =
        (e.insertAll (pairs.map (Prod.map id f))).toList from this empty empty rfl
  induction pairs with
  | nil => exact fun d e eq => eq
  | cons pair rest ih =>
      intro d e eq
      rw [List.map_cons, insertAll_cons, insertAll_cons]
      apply ih
      rw [insert, insert, map_insertPair, eq]
      rfl

/-- Keeping some keys of a dictionary is keeping the inserted pairs with those keys. -/
theorem filter_toList_ofList (keep : α → Bool) (pairs : List (α × β)) :
    (ofList pairs).toList.filter (fun pair => keep pair.1) =
      (ofList (pairs.filter fun pair => keep pair.1)).toList := by
  suffices ∀ d e : Dict α β, d.toList.filter (fun pair => keep pair.1) = e.toList →
      (d.insertAll pairs).toList.filter (fun pair => keep pair.1) =
        (e.insertAll (pairs.filter fun pair => keep pair.1)).toList from this empty empty rfl
  induction pairs with
  | nil => exact fun d e eq => eq
  | cons pair rest ih =>
      intro d e eq
      rw [insertAll_cons]
      cases kept : keep pair.1 with
      | true =>
          rw [List.filter_cons_of_pos (by simpa using kept), insertAll_cons]
          apply ih
          rw [insert, insert, filter_insertPair, if_pos kept, eq]
      | false =>
          rw [List.filter_cons_of_neg (by simp [kept])]
          apply ih
          rw [insert, filter_insertPair, if_neg (by simp [kept]), eq]

/-! ## Insertions without repeats -/

theorem toList_insert_of_not_mem {d : Dict α β} {key : α} (absent : key ∉ d.keys) (value : β) :
    (d.insert key value).toList = d.toList ++ [(key, value)] := by
  suffices ∀ pairs : List (α × β), key ∉ pairs.map Prod.fst →
      insertPair key value pairs = pairs ++ [(key, value)] from this d.toList absent
  intro pairs absent
  induction pairs with
  | nil => rfl
  | cons pair rest ih =>
      rw [List.map_cons, List.mem_cons, not_or] at absent
      rw [insertPair, if_neg (Ne.symm absent.1), ih absent.2]
      rfl

theorem length_insert (d : Dict α β) (key : α) (value : β) :
    (d.insert key value).toList.length =
      if key ∈ d.keys then d.toList.length else d.toList.length + 1 := by
  have lengths : (d.insert key value).keys.length =
      (if key ∈ d.keys then d.keys else d.keys ++ [key]).length :=
    congrArg List.length (keys_insert d key value)
  by_cases known : key ∈ d.keys
  · rw [if_pos known] at lengths ⊢
    simpa [keys] using lengths
  · rw [if_neg known] at lengths ⊢
    simpa [keys] using lengths

theorem length_insertAll_le (d : Dict α β) (pairs : List (α × β)) :
    (d.insertAll pairs).toList.length ≤ d.toList.length + pairs.length := by
  induction pairs generalizing d with
  | nil => simp
  | cons pair rest ih =>
      have later := ih (d.insert pair.1 pair.2)
      rw [length_insert] at later
      rw [insertAll_cons, List.length_cons]
      split at later <;> omega

/-- Where no insertion meets a known key, the pairs are put at the end as they come. -/
theorem toList_insertAll_of_length {d : Dict α β} {pairs : List (α × β)}
    (full : (d.insertAll pairs).toList.length = d.toList.length + pairs.length) :
    (d.insertAll pairs).toList = d.toList ++ pairs := by
  induction pairs generalizing d with
  | nil => simp
  | cons pair rest ih =>
      have bound := length_insertAll_le (d.insert pair.1 pair.2) rest
      have size := length_insert d pair.1 pair.2
      rw [insertAll_cons, List.length_cons] at full
      by_cases known : pair.1 ∈ d.keys
      · rw [if_pos known] at size
        omega
      · rw [if_neg known] at size
        rw [insertAll_cons, ih (by omega), toList_insert_of_not_mem known]
        simp

theorem length_ofList_le (pairs : List (α × β)) : (ofList pairs).toList.length ≤ pairs.length := by
  simpa [ofList] using length_insertAll_le (empty : Dict α β) pairs

theorem toList_ofList_of_length {pairs : List (α × β)}
    (full : (ofList pairs).toList.length = pairs.length) : (ofList pairs).toList = pairs :=
  toList_insertAll_of_length (d := empty) (by simpa [ofList] using full)

/-- Pairs with distinct keys that are new to a dictionary are put at its end. -/
theorem toList_insertAll_of_nodup {d : Dict α β} {pairs : List (α × β)}
    (distinct : (d.keys ++ pairs.map Prod.fst).Nodup) :
    (d.insertAll pairs).toList = d.toList ++ pairs := by
  induction pairs generalizing d with
  | nil => simp
  | cons pair rest ih =>
      rw [List.map_cons, ← List.singleton_append, ← List.append_assoc] at distinct
      have absent : pair.1 ∉ d.keys := by
        intro mem
        have clash := (List.nodup_append.1 (List.nodup_append.1 distinct).1).2.2
        exact clash pair.1 mem pair.1 (by simp) rfl
      have keys_eq : (d.insert pair.1 pair.2).keys = d.keys ++ [pair.1] := by
        rw [keys_insert, if_neg absent]
      rw [insertAll_cons, ih (by rwa [keys_eq]), toList_insert_of_not_mem absent]
      simp

/-- Pairs with distinct keys are the dictionary built from them. -/
theorem toList_ofList_of_nodup {pairs : List (α × β)} (distinct : (pairs.map Prod.fst).Nodup) :
    (ofList pairs).toList = pairs := by
  simpa [ofList] using
    toList_insertAll_of_nodup (d := (empty : Dict α β)) (by simpa using distinct)

/-- A dictionary of the keys that have a value has these values. -/
theorem get?_ofList_filterMap {keys : List α} (distinct : keys.Nodup) (value? : α → Option β)
    (key : α) :
    (ofList (keys.filterMap fun key => (value? key).map (Prod.mk key))).get? key =
      if key ∈ keys then value? key else none := by
  have keys_eq : (keys.filterMap fun key => (value? key).map (Prod.mk key)).map Prod.fst =
      keys.filter fun key => (value? key).isSome := by
    rw [List.map_filterMap, ← List.filterMap_eq_filter]
    apply List.filterMap_congr
    intro other _
    cases found : value? other <;> simp [found, Option.guard]
  ext value
  rw [get?_eq_some_iff, toList_ofList_of_nodup (keys_eq ▸ distinct.filter _), List.mem_filterMap]
  constructor
  · rintro ⟨other, mem, pair_eq⟩
    obtain ⟨found, found_eq, here⟩ := Option.map_eq_some_iff.1 pair_eq
    obtain ⟨rfl, rfl⟩ := Prod.mk.inj here
    rw [if_pos mem, found_eq]
  · intro found
    split at found
    next mem => exact ⟨key, mem, by rw [found]; rfl⟩
    next => contradiction

/-- The order of the pairs does not matter for the value under a key. -/
theorem lookup_reverse_toList (d : Dict α β) (key : α) :
    d.toList.reverse.lookup key = d.get? key := by
  rw [← get?_ofList, get?, toList_ofList_of_nodup d.nodup, get?]

/-- Pairs may be put into a dictionary of their own before they are inserted. -/
theorem insertAll_toList_ofList (d : Dict α β) (pairs : List (α × β)) :
    d.insertAll (ofList pairs).toList = d.insertAll pairs := by
  apply ext_get?
  · rw [keys_insertAll, keys_insertAll, ← keys, keys_ofList,
      Collection.eraseDups_append_eraseDups_right]
  · intro key
    rw [get?_insertAll, get?_insertAll, lookup_reverse_toList, get?_ofList]

end EnvConcord.Dict
