import EnvConcord.Access.Registry
import EnvConcord.Proofs.Access.Forms
import EnvConcord.Proofs.Access.Occurrences

/-!
# Keys of scans and of merged scans

Scans and merges make one key of each name.  A name that does not mark a computed access
is a static key in every dialect, and the usages of a merged key are those of the keys that
were merged.
-/

namespace EnvConcord

namespace Access

/-! ## Names -/

/-- What a key is read from begins with a static key, wherever the form puts it. -/
theorem isName_of_read? {place : KeyPlace} {cs key rest : List Char}
    (read : KeyPlace.read? place cs = some (key, rest)) : IsName key := by
  cases place with
  | bare => exact ((read?_bare_eq_some_iff cs key rest).1 read).2.1
  | subscript =>
      rcases (read?_subscript_eq_some_iff cs key rest).1 read with ⟨-, -, -, name⟩
      exact name
  | argument =>
      rcases (takeQuotedKey?_eq_some_iff _ key rest).1 read with ⟨-, -, -, name⟩
      exact name

theorem isName_of_match? {form : StaticForm} {cs : List Char} {found : StaticMatch}
    (recognised : StaticForm.match? form cs = some found) : IsName found.key := by
  simp only [StaticForm.match?, bind, Option.bind_eq_some_iff] at recognised
  rcases recognised with ⟨body, -, ⟨key, rest⟩, read, result⟩
  obtain rfl := Option.some.inj result
  exact isName_of_read? read

/-- A name that marks a computed access. -/
def IsMarked (name : String) : Prop := computedMark.toList <+: name.toList

instance (name : String) : Decidable (IsMarked name) :=
  inferInstanceAs (Decidable (_ <+: _))

theorem isMarked_computedName (file : String) (line column : Int) :
    IsMarked (computedName file line column) := by
  simp only [IsMarked, computedName, String.toList_append, List.append_assoc]
  exact List.prefix_append _ _

/-- An occurrence is recorded under a static key or under a computed name. -/
theorem name_of_mem_occurrencesAt {dialect : Dialect} {file : String} {line column : Nat}
    {rest : List Char} {found : Occurrence}
    (mem : found ∈ occurrencesAt dialect file line column rest) :
    IsName found.name.toList ∨ IsMarked found.name := by
  rcases (mem_occurrencesAt_iff _ _ _ _ _ _).1 mem with
    ⟨form, -, expression, -, rfl⟩ | ⟨form, -, content, recognised, rfl⟩
  · exact Or.inr (isMarked_computedName file line column)
  · left
    simp only [staticOccurrence, String.toList_ofList]
    exact isName_of_match? recognised

theorem isComputed_iff (key : CodeKey) : key.isComputed = true ↔ IsMarked key.name :=
  List.isPrefixOf_iff_prefix

theorem isComputed_eq_false_iff (key : CodeKey) :
    key.isComputed = false ↔ ¬IsMarked key.name := by
  rw [← isComputed_iff, Bool.not_eq_true]

/-! ## Keys of a scan -/

/-- A key of a scan is named by an occurrence, and its usages are occurrences. -/
theorem mem_collect {found : List Occurrence} {key : CodeKey} (mem : key ∈ collect found) :
    (∃ item ∈ found, item.name = key.name) ∧
      ∀ usage ∈ key.usages, ∃ item ∈ found, item.name = key.name ∧ item.usage = usage := by
  rcases (mem_collect_iff found key).1 mem with ⟨name_mem, key_eq⟩
  constructor
  · exact List.mem_map.1 name_mem
  · intro usage usage_mem
    rw [key_eq] at usage_mem
    rcases List.mem_map.1 usage_mem with ⟨item, item_mem, usage_eq⟩
    rcases List.mem_filter.1 item_mem with ⟨item_mem, name_eq⟩
    exact ⟨item, item_mem, by simpa using name_eq, usage_eq⟩

theorem usages_ne_nil_of_mem_collect {found : List Occurrence} {key : CodeKey}
    (mem : key ∈ collect found) : key.usages ≠ [] := by
  rcases (mem_collect_iff found key).1 mem with ⟨name_mem, key_eq⟩
  rcases List.mem_map.1 name_mem with ⟨item, item_mem, name_eq⟩
  rw [key_eq]
  apply List.ne_nil_of_mem (a := item.usage)
  exact List.mem_map_of_mem (List.mem_filter.2 ⟨item_mem, by simpa using name_eq⟩)

/-- A key of a scan is optional exactly if one of its usages is. -/
theorem isOptional_iff_of_mem_collect {found : List Occurrence} {key : CodeKey}
    (mem : key ∈ collect found) :
    key.isOptional = true ↔ ∃ usage ∈ key.usages, usage.isOptional = true := by
  rw [((mem_collect_iff found key).1 mem).2]
  simp [namedKey, and_assoc]

theorem isName_of_mem_scan {dialect : Dialect} {file text : String} {key : CodeKey}
    (mem : key ∈ scan dialect file text) (static : key.isComputed = false) :
    IsName key.name.toList := by
  rcases mem_collect mem with ⟨⟨item, item_mem, name_eq⟩, -⟩
  rcases (mem_occurrences_iff dialect file text item).1 item_mem with ⟨k, cs, i, -, -, here⟩
  rw [← name_eq]
  rcases name_of_mem_occurrencesAt here with name | marked
  · exact name
  · rw [name_eq, ← isComputed_iff, static] at marked
    contradiction

theorem file_of_mem_scan {dialect : Dialect} {file text : String} {key : CodeKey}
    (mem : key ∈ scan dialect file text) {usage : Usage} (usage_mem : usage ∈ key.usages) :
    usage.file = file := by
  rcases (mem_collect mem).2 usage usage_mem with ⟨item, item_mem, -, rfl⟩
  rcases (mem_occurrences_iff dialect file text item).1 item_mem with ⟨k, cs, i, -, -, here⟩
  exact (place_of_mem_occurrencesAt here).1

end Access

/-! ## Merged keys -/

namespace CodeKey

/-- The dictionary that merges keys under their names. -/
def merged (keys : List CodeKey) : Dict String CodeKey :=
  Dict.group CodeKey.name (fun name => { name }) CodeKey.absorb keys

theorem merge_eq (lists : List (List CodeKey)) : merge lists = (merged lists.flatten).values := rfl

theorem foldl_absorb (key : CodeKey) (others : List CodeKey) :
    others.foldl absorb key =
      { name := key.name
        usages := key.usages ++ others.flatMap CodeKey.usages
        isOptional := key.isOptional || others.any CodeKey.isOptional } := by
  induction others generalizing key with
  | nil => simp
  | cons other rest ih =>
      rw [List.foldl_cons, ih]
      simp [absorb, Bool.or_assoc]

/-- The keys of one name, made into one key. -/
def mergedKey (keys : List CodeKey) (name : String) : CodeKey where
  name := name
  usages := (keys.filter fun other => other.name = name).flatMap CodeKey.usages
  isOptional := (keys.filter fun other => other.name = name).any CodeKey.isOptional

@[simp]
theorem mergedKey_name (keys : List CodeKey) (name : String) :
    (mergedKey keys name).name = name := rfl

theorem merge_eq_map (lists : List (List CodeKey)) :
    merge lists = (merged lists.flatten).keys.map (mergedKey lists.flatten) := by
  rw [merge_eq, merged, Dict.values_group]
  apply List.map_congr_left
  intro name _
  rw [foldl_absorb]
  rfl

theorem map_name_merge (lists : List (List CodeKey)) :
    (merge lists).map CodeKey.name = (merged lists.flatten).keys := by
  rw [merge_eq_map, List.map_map]
  exact List.map_id _

theorem mem_map_name_merge_iff (lists : List (List CodeKey)) (name : String) :
    name ∈ (merge lists).map CodeKey.name ↔ name ∈ lists.flatten.map CodeKey.name := by
  rw [map_name_merge]
  exact Dict.mem_keys_group _ _ _ _ _

/-- Merged keys have distinct names. -/
theorem nodup_map_name_merge (lists : List (List CodeKey)) :
    ((merge lists).map CodeKey.name).Nodup := by
  rw [map_name_merge]
  exact (merged lists.flatten).nodup

/-- Merging makes one key of the keys of each name. -/
theorem mem_merge_iff (lists : List (List CodeKey)) (key : CodeKey) :
    key ∈ merge lists ↔
      key.name ∈ lists.flatten.map CodeKey.name ∧ key = mergedKey lists.flatten key.name := by
  rw [merge_eq_map, List.mem_map]
  constructor
  · rintro ⟨name, mem, rfl⟩
    exact ⟨(Dict.mem_keys_group _ _ _ _ _).1 mem, rfl⟩
  · rintro ⟨mem, key_eq⟩
    exact ⟨key.name, (Dict.mem_keys_group _ _ _ _ _).2 mem, key_eq.symm⟩

/-- A merged key has the name of a key that was merged, and its usages are usages of such
keys. -/
theorem mem_merge {lists : List (List CodeKey)} {key : CodeKey} (mem : key ∈ merge lists) :
    (∃ list ∈ lists, ∃ other ∈ list, other.name = key.name) ∧
      ∀ usage ∈ key.usages, ∃ list ∈ lists, ∃ other ∈ list,
        other.name = key.name ∧ usage ∈ other.usages := by
  rcases (mem_merge_iff lists key).1 mem with ⟨name_mem, key_eq⟩
  constructor
  · rcases List.mem_map.1 name_mem with ⟨other, other_mem, name_eq⟩
    rcases List.mem_flatten.1 other_mem with ⟨list, list_mem, other_mem⟩
    exact ⟨list, list_mem, other, other_mem, name_eq⟩
  · intro usage usage_mem
    rw [key_eq] at usage_mem
    rcases List.mem_flatMap.1 usage_mem with ⟨other, other_mem, usage_mem⟩
    rcases List.mem_filter.1 other_mem with ⟨other_mem, name_eq⟩
    rcases List.mem_flatten.1 other_mem with ⟨list, list_mem, other_mem⟩
    exact ⟨list, list_mem, other, other_mem, by simpa using name_eq, usage_mem⟩

/-- The flag of a merged key does not see the order of the keys. -/
theorem isOptional_mergedKey_of_perm {keys others : List CodeKey} (perm : keys.Perm others)
    (name : String) : (mergedKey keys name).isOptional = (mergedKey others name).isOptional :=
  (perm.filter _).any_eq

theorem isComputed_congr {key other : CodeKey} (name_eq : key.name = other.name) :
    key.isComputed = other.isComputed := by
  rw [isComputed, isComputed, name_eq]

end CodeKey

namespace Access

/-! ## Keys of sources -/

/-- The keys of some sources, each with its path and its text. -/
def sourceKeys (registry : Registry) (sources : List (String × String)) : List CodeKey :=
  CodeKey.merge (sources.map fun source => registry.scan source.1 source.2)

/-- The usages in some sources, each with the name that it is recorded under. -/
def readings (registry : Registry) (sources : List (String × String)) : List (String × Usage) :=
  sources.flatMap fun source => recorded (registry.scan source.1 source.2)

section Sources

variable {registry : Registry} {sources : List (String × String)}

theorem mem_readings_iff (item : String × Usage) :
    item ∈ readings registry sources ↔
      ∃ source ∈ sources, ∃ key ∈ registry.scan source.1 source.2,
        key.name = item.1 ∧ item.2 ∈ key.usages := by
  rcases item with ⟨name, usage⟩
  simp only [readings, recorded, List.mem_flatMap, List.mem_map, Prod.mk.injEq]
  constructor
  · rintro ⟨source, source_mem, key, key_mem, other, usage_mem, rfl, rfl⟩
    exact ⟨source, source_mem, key, key_mem, rfl, usage_mem⟩
  · rintro ⟨source, source_mem, key, key_mem, rfl, usage_mem⟩
    exact ⟨source, source_mem, key, key_mem, usage, usage_mem, rfl, rfl⟩

/-- Every name that is read has a key. -/
theorem exists_key_of_mem_readings {item : String × Usage}
    (mem : item ∈ readings registry sources) :
    ∃ key ∈ sourceKeys registry sources, key.name = item.1 := by
  rcases (mem_readings_iff item).1 mem with ⟨source, source_mem, key, key_mem, name_eq, -⟩
  rw [← List.mem_map, sourceKeys, CodeKey.mem_map_name_merge_iff, ← name_eq]
  apply List.mem_map_of_mem
  exact List.mem_flatten_of_mem (List.mem_map_of_mem source_mem) key_mem

/-- An optional key has a usage with a fallback. -/
theorem exists_fallback_of_isOptional {key : CodeKey} (mem : key ∈ sourceKeys registry sources)
    (optional : key.isOptional = true) :
    ∃ item ∈ readings registry sources, item.1 = key.name ∧ item.2.isOptional = true := by
  rw [((CodeKey.mem_merge_iff _ key).1 mem).2] at optional
  rcases List.any_eq_true.1 optional with ⟨other, other_mem, other_optional⟩
  rcases List.mem_filter.1 other_mem with ⟨other_mem, name_eq⟩
  rcases List.mem_flatten.1 other_mem with ⟨keys, keys_mem, other_mem⟩
  rcases List.mem_map.1 keys_mem with ⟨source, source_mem, rfl⟩
  rcases (isOptional_iff_of_mem_collect other_mem).1 other_optional with
    ⟨usage, usage_mem, usage_optional⟩
  refine ⟨(key.name, usage), (mem_readings_iff _).2 ?_, rfl, usage_optional⟩
  exact ⟨source, source_mem, other, other_mem, by simpa using name_eq, usage_mem⟩

end Sources

end Access

end EnvConcord
