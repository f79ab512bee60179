import EnvConcord.Proofs.Access.Keys

/-!
# Merging keys

A merge makes one key of all keys of a name.  What it makes of a name is put together from
what it makes of that name in the parts, so keys may be merged in groups and the groups
afterwards.
-/

namespace EnvConcord

namespace CodeKey

/-! ## The keys of one name -/

/-- Where each name has a key of its own, a name picks out its key. -/
theorem filter_name_map {names : List String} (distinct : names.Nodup) {keyOf : String → CodeKey}
    (own : ∀ name, (keyOf name).name = name) (name : String) :
    (names.map keyOf).filter (fun key => key.name = name) =
      if name ∈ names then [keyOf name] else [] := by
  rw [List.filter_map]
  simp only [Function.comp_def, own]
  split
  next mem =>
    rw [List.filter_eq, List.count_eq_one_of_mem distinct mem]
    rfl
  next absent =>
    rw [List.filter_eq, List.count_eq_zero_of_not_mem absent]
    rfl

/-- Where each name has a key of its own, merging the keys of a name gives that key. -/
theorem mergedKey_map {names : List String} (distinct : names.Nodup) {keyOf : String → CodeKey}
    (own : ∀ name, (keyOf name).name = name) {name : String}
    (bare : name ∉ names → keyOf name = { name }) :
    mergedKey (names.map keyOf) name = keyOf name := by
  rw [mergedKey, filter_name_map distinct own]
  split
  next mem =>
    have key_name := own name
    generalize keyOf name = key at key_name ⊢
    subst key_name
    simp
  next absent => exact (bare absent).symm

theorem mergedKey_of_absent {keys : List CodeKey} {name : String}
    (absent : name ∉ keys.map CodeKey.name) : mergedKey keys name = { name } := by
  rw [mergedKey, Dict.filter_keyOf_eq_nil CodeKey.name absent]
  rfl

/-- The keys of a name in two lists make the key of the one list with that of the other. -/
theorem mergedKey_append (keys others : List CodeKey) (name : String) :
    mergedKey (keys ++ others) name = (mergedKey keys name).absorb (mergedKey others name) := by
  simp only [mergedKey, absorb, List.filter_append, List.flatMap_append, List.any_append]

/-! ## Merging -/

/-- A merge has the names in the order in which they first come. -/
theorem map_name_merge_eq_eraseDups (lists : List (List CodeKey)) :
    (merge lists).map CodeKey.name = (lists.flatten.map CodeKey.name).eraseDups := by
  rw [map_name_merge, merged, Dict.keys_group]

theorem merge_eq_map_eraseDups (lists : List (List CodeKey)) :
    merge lists =
      (lists.flatten.map CodeKey.name).eraseDups.map (mergedKey lists.flatten) := by
  rw [merge_eq_map, ← map_name_merge, map_name_merge_eq_eraseDups]

/-- What a merge has of a name is what it was given of that name. -/
theorem mergedKey_merge (lists : List (List CodeKey)) (name : String) :
    mergedKey (merge lists) name = mergedKey lists.flatten name := by
  rw [merge_eq_map_eraseDups]
  apply mergedKey_map (Collection.nodup_eraseDups _) (mergedKey_name _)
  intro absent
  rw [List.mem_eraseDups] at absent
  exact mergedKey_of_absent absent

/-- Keys may be merged in two groups before the groups are merged. -/
theorem merge_merge (lists others : List (List CodeKey)) :
    merge [merge lists, merge others] = merge (lists ++ others) := by
  have flatten_eq : [merge lists, merge others].flatten = merge lists ++ merge others := by simp
  have names_eq : ((merge lists ++ merge others).map CodeKey.name).eraseDups =
      ((lists.flatten ++ others.flatten).map CodeKey.name).eraseDups := by
    rw [List.map_append, List.map_append, map_name_merge_eq_eraseDups,
      map_name_merge_eq_eraseDups, Collection.eraseDups_append_eraseDups,
      Collection.eraseDups_append_eraseDups_right]
  rw [merge_eq_map_eraseDups, merge_eq_map_eraseDups (lists ++ others), flatten_eq,
    List.flatten_append, names_eq]
  apply List.map_congr_left
  intro name _
  rw [mergedKey_append, mergedKey_append, mergedKey_merge, mergedKey_merge]

/-! ## What a merge keeps -/

/-- Whether keys are what a scan of some text finds. -/
def IsScan (keys : List CodeKey) : Prop :=
  ∃ dialect file text, keys = Access.scan dialect file text

/-- Keys are gathered from lists of keys: there is one of each name, in the order in which the
names first come, with all usages of its name, list after list, and with the flag of any of
them.  Gathered from scans, a key is optional exactly if one of its usages is. -/
structure GathersFrom (lists : List (List CodeKey)) (gathered : List CodeKey) : Prop where
  distinct : (gathered.map CodeKey.name).Nodup
  names : gathered.map CodeKey.name = (lists.flatten.map CodeKey.name).eraseDups
  usages : ∀ key ∈ gathered, key.usages =
    (lists.flatten.filter fun other => other.name = key.name).flatMap CodeKey.usages
  optional : ∀ key ∈ gathered, key.isOptional = true ↔
    ∃ other ∈ lists.flatten, other.name = key.name ∧ other.isOptional = true
  scanned : (∀ keys ∈ lists, IsScan keys) → ∀ key ∈ gathered,
    key.isOptional = true ↔ ∃ usage ∈ key.usages, usage.isOptional = true

section Gathering

variable {lists : List (List CodeKey)} {key : CodeKey} (mem : key ∈ merge lists)

include mem in
theorem usages_of_mem_merge :
    key.usages =
      (lists.flatten.filter fun other => other.name = key.name).flatMap CodeKey.usages :=
  congrArg CodeKey.usages ((mem_merge_iff lists key).1 mem).2

include mem in
theorem isOptional_iff_of_mem_merge :
    key.isOptional = true ↔
      ∃ other ∈ lists.flatten, other.name = key.name ∧ other.isOptional = true := by
  rw [((mem_merge_iff lists key).1 mem).2]
  simp only [mergedKey, List.any_eq_true, List.mem_filter, decide_eq_true_eq, and_assoc]

include mem in
/-- A key that is merged from scans is optional exactly if one of its usages is. -/
theorem isOptional_iff_of_scanned (scanned : ∀ keys ∈ lists, IsScan keys) :
    key.isOptional = true ↔ ∃ usage ∈ key.usages, usage.isOptional = true := by
  have own_flag : ∀ other ∈ lists.flatten,
      (other.isOptional = true ↔ ∃ usage ∈ other.usages, usage.isOptional = true) := by
    intro other other_mem
    obtain ⟨keys, keys_mem, other_mem⟩ := List.mem_flatten.1 other_mem
    obtain ⟨dialect, file, text, rfl⟩ := scanned keys keys_mem
    exact Access.isOptional_iff_of_mem_collect other_mem
  rw [isOptional_iff_of_mem_merge mem, usages_of_mem_merge mem]
  simp only [List.mem_flatMap, List.mem_filter, decide_eq_true_eq]
  constructor
  · rintro ⟨other, other_mem, named, optional⟩
    obtain ⟨usage, usage_mem, fallback⟩ := (own_flag other other_mem).1 optional
    exact ⟨usage, ⟨other, ⟨other_mem, named⟩, usage_mem⟩, fallback⟩
  · rintro ⟨usage, ⟨other, ⟨other_mem, named⟩, usage_mem⟩, fallback⟩
    exact ⟨other, other_mem, named, (own_flag other other_mem).2 ⟨usage, usage_mem, fallback⟩⟩

end Gathering

/-- Merging keeps every usage and every flag under its name, and it makes no difference
whether keys are merged at once or in two groups first. -/
theorem merge_gathersFrom (lists others : List (List CodeKey)) :
    GathersFrom lists (merge lists) ∧
      merge [merge lists, merge others] = merge (lists ++ others) := by
  refine ⟨?_, merge_merge lists others⟩
  constructor
  · exact nodup_map_name_merge lists
  · exact map_name_merge_eq_eraseDups lists
  · exact fun key mem => usages_of_mem_merge mem
  · exact fun key mem => isOptional_iff_of_mem_merge mem
  · exact fun scanned key mem => isOptional_iff_of_scanned mem scanned

end CodeKey

end EnvConcord
