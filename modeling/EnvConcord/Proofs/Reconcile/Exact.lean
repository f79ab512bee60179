import EnvConcord.Proofs.Collection.Dict
import EnvConcord.Proofs.Text.Sorted
import EnvConcord.Reconcile
import Mathlib.Data.List.Nodup

/-!
# What a comparison finds

The lists of a comparison are settled by the names that stand in them: each is described
by a condition on the keys of the code, the entries and the settings, and each is in
ascending order.  Neither the order of the keys nor that of the entries is seen.
-/

namespace EnvConcord.Reconcile

/-! ## Names in the lists -/

section Names

variable (keys : List CodeKey) (entries : EntryMap) (settings : Settings) (name : String)

theorem isMissing_iff (key : CodeKey) :
    isMissing entries settings key = true ↔
      (key.isComputed = false ∧
        ¬(key.name ∈ settings.allowOptional ∧ key.isOptional = true)) ∧
        key.name ∉ entries.keys := by
  simp only [isMissing, Bool.and_eq_true, Bool.not_eq_true', ← Bool.not_eq_true,
    List.contains_iff_mem, Dict.contains_iff_mem_keys]
  exact and_right_comm

theorem mem_staticNames_iff :
    name ∈ staticNames keys ↔ ∃ key ∈ keys, key.name = name ∧ key.isComputed = false := by
  rw [staticNames, List.mem_map]
  constructor
  · rintro ⟨key, mem, name_eq⟩
    rcases List.mem_filter.1 mem with ⟨known, static⟩
    exact ⟨key, known, name_eq, by simpa using static⟩
  · rintro ⟨key, known, name_eq, static⟩
    exact ⟨key, List.mem_filter.2 ⟨known, by simp [static]⟩, name_eq⟩

theorem mem_missing_iff :
    name ∈ (reconcile keys entries settings).missing ↔
      (∃ key ∈ keys, key.name = name ∧ key.isComputed = false ∧
        ¬(name ∈ settings.allowOptional ∧ key.isOptional = true)) ∧ name ∉ entries.keys := by
  rw [reconcile, Text.mem_sort, List.mem_map]
  constructor
  · rintro ⟨key, mem, rfl⟩
    rcases List.mem_filter.1 mem with ⟨known, missing⟩
    rcases (isMissing_iff entries settings key).1 missing with ⟨⟨static, owed⟩, absent⟩
    exact ⟨⟨key, known, rfl, static, owed⟩, absent⟩
  · rintro ⟨⟨key, known, rfl, static, owed⟩, absent⟩
    have missing := (isMissing_iff entries settings key).2 ⟨⟨static, owed⟩, absent⟩
    exact ⟨key, List.mem_filter.2 ⟨known, missing⟩, rfl⟩

theorem mem_unused_iff :
    name ∈ (reconcile keys entries settings).unused ↔
      name ∈ entries.keys ∧ (¬∃ key ∈ keys, key.name = name ∧ key.isComputed = false) ∧
        name ∉ settings.ignoreKeys := by
  rw [reconcile, Text.mem_sort, List.mem_filter, ← mem_staticNames_iff]
  simp [isUnused]

theorem mem_empty_iff :
    name ∈ (reconcile keys entries settings).empty ↔
      (∃ entry, entries.get? name = some entry ∧ entry.isEmpty = true) ∧
        name ∉ settings.ignoreKeys := by
  rw [reconcile, Text.mem_sort, List.mem_map]
  constructor
  · rintro ⟨⟨key, entry⟩, mem, rfl⟩
    rcases List.mem_filter.1 mem with ⟨listed, unset⟩
    obtain ⟨empty, heeded⟩ := by simpa [isUnset] using unset
    exact ⟨⟨entry, (Dict.get?_eq_some_iff entries key entry).2 listed, empty⟩, heeded⟩
  · rintro ⟨⟨entry, found, empty⟩, heeded⟩
    have listed := (Dict.get?_eq_some_iff entries name entry).1 found
    exact ⟨(name, entry), List.mem_filter.2 ⟨listed, by simp [isUnset, empty, heeded]⟩, rfl⟩

end Names

/-! ## Order of the lists -/

section Order

variable {keys : List CodeKey} (entries : EntryMap) (settings : Settings)

theorem pairwise_lt_missing (distinct : (keys.map CodeKey.name).Nodup) :
    (reconcile keys entries settings).missing.Pairwise (· < ·) :=
  Text.pairwise_lt_sort ((List.filter_sublist.map CodeKey.name).nodup distinct)

theorem pairwise_lt_unused (keys : List CodeKey) :
    (reconcile keys entries settings).unused.Pairwise (· < ·) :=
  Text.pairwise_lt_sort (List.filter_sublist.nodup entries.nodup)

theorem pairwise_lt_empty (keys : List CodeKey) :
    (reconcile keys entries settings).empty.Pairwise (· < ·) :=
  Text.pairwise_lt_sort ((List.filter_sublist.map Prod.fst).nodup entries.nodup)

theorem filterMap_uncertainText? (keys : List CodeKey) :
    keys.filterMap uncertainText? =
      (keys.filter CodeKey.isComputed).filterMap fun key =>
        key.usages.head?.map Usage.rawText := by
  rw [List.filterMap_filter]
  rfl

theorem totalIssues_eq (keys : List CodeKey) :
    (reconcile keys entries settings).summary.totalIssues =
      (reconcile keys entries settings).missing.length +
        (reconcile keys entries settings).unused.length +
        (reconcile keys entries settings).empty.length := by
  simp only [reconcile, Text.length_sort]

end Order

/-! ## What a comparison does not see -/

section Unseen

variable {keys others : List CodeKey} {entries entries' : EntryMap}

theorem isUnused_eq_of_perm (perm : keys.Perm others) (settings : Settings) :
    isUnused keys settings = isUnused others settings := by
  have static_perm : (staticNames keys).Perm (staticNames others) :=
    (perm.filter _).map CodeKey.name
  funext name
  rw [isUnused, isUnused, static_perm.contains_eq]

/-- A comparison sees neither the order of the keys nor that of the entries. -/
theorem reconcile_eq_of_perm (perm : keys.Perm others)
    (entries_perm : entries.toList.Perm entries'.toList) (settings : Settings) :
    reconcile keys entries settings = reconcile others entries' settings := by
  have missing_eq : isMissing entries settings = isMissing entries' settings := by
    funext key
    rw [isMissing, isMissing, Dict.contains_eq_of_perm entries_perm]
  have missing_perm := (perm.filter (isMissing entries' settings)).map CodeKey.name
  have unused_perm := (Dict.keys_perm entries_perm).filter (isUnused others settings)
  have empty_perm := (entries_perm.filter (isUnset settings)).map Prod.fst
  simp only [reconcile, missing_eq, isUnused_eq_of_perm perm, Text.sortDistinct,
    Text.sort_eq_of_perm missing_perm, Text.sort_eq_of_perm unused_perm,
    Text.sort_eq_of_perm empty_perm, Text.sort_eq_of_perm (perm.filterMap uncertainText?),
    Text.sort_eq_of_perm (perm.map CodeKey.name), missing_perm.length_eq,
    unused_perm.length_eq, empty_perm.length_eq, (Dict.keys_perm entries_perm).length_eq]

/-- The keys that are not computed. -/
def staticKeys (keys : List CodeKey) : List CodeKey := keys.filter fun key => !key.isComputed

theorem filter_isMissing_staticKeys (entries : EntryMap) (settings : Settings) :
    (staticKeys keys).filter (isMissing entries settings) =
      keys.filter (isMissing entries settings) := by
  rw [staticKeys, List.filter_filter]
  apply List.filter_congr
  intro key _
  cases static : key.isComputed <;> simp [isMissing, static]

/-- Computed keys are of no account but for the uncertain texts. -/
theorem totalIssues_eq_of_staticKeys (entries : EntryMap) (settings : Settings)
    (same : staticKeys keys = staticKeys others) :
    (reconcile keys entries settings).summary.totalIssues =
      (reconcile others entries settings).summary.totalIssues := by
  have missing_eq : keys.filter (isMissing entries settings) =
      others.filter (isMissing entries settings) := by
    rw [← filter_isMissing_staticKeys, same, filter_isMissing_staticKeys]
  have names_eq : staticNames keys = staticNames others := congrArg (List.map CodeKey.name) same
  have unused_eq : isUnused keys settings = isUnused others settings := by
    funext name
    rw [isUnused, isUnused, names_eq]
  simp only [reconcile, missing_eq, unused_eq]

end Unseen

/-! ## Comparisons as a whole -/

/-- What the findings of a comparison are to be, list by list. -/
structure IsComparison (keys : List CodeKey) (entries : EntryMap) (settings : Settings)
    (found : Findings) : Prop where
  missing_ascending : found.missing.Pairwise (· < ·)
  unused_ascending : found.unused.Pairwise (· < ·)
  empty_ascending : found.empty.Pairwise (· < ·)
  /-- Missing are the static keys that are not set, unless they are allowed to be and a
  usage supplies a fallback. -/
  mem_missing : ∀ name, name ∈ found.missing ↔
    (∃ key ∈ keys, key.name = name ∧ key.isComputed = false ∧
      ¬(name ∈ settings.allowOptional ∧ key.isOptional = true)) ∧ name ∉ entries.keys
  /-- Unused are the keys that are set, but not read and not to be ignored. -/
  mem_unused : ∀ name, name ∈ found.unused ↔
    name ∈ entries.keys ∧ (¬∃ key ∈ keys, key.name = name ∧ key.isComputed = false) ∧
      name ∉ settings.ignoreKeys
  /-- Empty are the keys that are set to nothing and not to be ignored. -/
  mem_empty : ∀ name, name ∈ found.empty ↔
    (∃ entry, entries.get? name = some entry ∧ entry.isEmpty = true) ∧
      name ∉ settings.ignoreKeys
  uncertain_ascending : found.uncertain.Pairwise (· ≤ ·)
  /-- Uncertain are the source texts of the first usages of the computed keys. -/
  uncertain_perm : found.uncertain.Perm
    ((keys.filter CodeKey.isComputed).filterMap fun key => key.usages.head?.map Usage.rawText)
  duplicates_eq : found.duplicates = []
  totalIssues_eq : found.summary.totalIssues =
    found.missing.length + found.unused.length + found.empty.length

theorem isComparison_reconcile {keys : List CodeKey} (entries : EntryMap) (settings : Settings)
    (distinct : (keys.map CodeKey.name).Nodup) :
    IsComparison keys entries settings (reconcile keys entries settings) where
  missing_ascending := pairwise_lt_missing entries settings distinct
  unused_ascending := pairwise_lt_unused entries settings keys
  empty_ascending := pairwise_lt_empty entries settings keys
  mem_missing := mem_missing_iff keys entries settings
  mem_unused := mem_unused_iff keys entries settings
  mem_empty := mem_empty_iff keys entries settings
  uncertain_ascending := Text.pairwise_le_sort _
  uncertain_perm := by
    rw [← filterMap_uncertainText?]
    exact Text.sort_perm _
  duplicates_eq := rfl
  totalIssues_eq := totalIssues_eq entries settings keys

namespace IsComparison

variable {keys : List CodeKey} {entries : EntryMap} {settings : Settings} {found : Findings}

/-- What is missing is not set, so it is neither unused nor empty. -/
theorem disjoint_missing (exact : IsComparison keys entries settings found) :
    found.missing.Disjoint found.unused ∧ found.missing.Disjoint found.empty := by
  constructor
  · intro name missing unused
    exact ((exact.mem_missing name).1 missing).2 ((exact.mem_unused name).1 unused).1
  · intro name missing empty
    rcases (exact.mem_empty name).1 empty with ⟨⟨entry, set, -⟩, -⟩
    have known : name ∈ entries.keys :=
      List.mem_map_of_mem ((Dict.get?_eq_some_iff entries name entry).1 set)
    exact ((exact.mem_missing name).1 missing).2 known

end IsComparison

/-- A comparison is sound and complete.  Its lists hold exactly the names that they are
to hold, in ascending order, and what is missing is neither unused nor empty; the computed
keys have no part in the number of issues; and neither the order of the keys nor that of
the entries makes a difference. -/
theorem reconcile_exact {keys : List CodeKey} (entries : EntryMap) (settings : Settings)
    (distinct : (keys.map CodeKey.name).Nodup) :
    let found := reconcile keys entries settings
    IsComparison keys entries settings found ∧
      found.missing.Disjoint found.unused ∧ found.missing.Disjoint found.empty ∧
      (∀ others, staticKeys others = staticKeys keys →
        (reconcile others entries settings).summary.totalIssues = found.summary.totalIssues) ∧
      ∀ (others : List CodeKey) (entries' : EntryMap), others.Perm keys →
        entries'.toList.Perm entries.toList → reconcile others entries' settings = found := by
  intro found
  have exact := isComparison_reconcile entries settings distinct
  rcases exact.disjoint_missing with ⟨unused_apart, empty_apart⟩
  refine ⟨exact, unused_apart, empty_apart, ?_, ?_⟩
  · intro others same
    exact totalIssues_eq_of_staticKeys entries settings same
  · intro others entries' perm entries_perm
    exact reconcile_eq_of_perm perm entries_perm settings

/-- A required key, an optional one and a computed access. -/
def serverKeys : List CodeKey :=
  [ { name := "DB_URL"
      usages := [⟨"src/db.js", 1, 9, .direct, "process.env.DB_URL", false⟩] },
    { name := "PORT"
      usages := [⟨"src/app.js", 1, 8, .direct, "process.env.PORT", true⟩]
      isOptional := true },
    { name := "DYNAMIC_KEY_2_6_0a1b2c3d"
      usages := [⟨"src/app.js", 2, 6, .computed, "process.env[name]", false⟩] } ]

/-- Entries that set the optional key to nothing and a key that is not read. -/
def serverEntries : EntryMap :=
  .ofList [("PORT", .ofValue "PORT" "" 1), ("OLD", .ofValue "OLD" "1" 2)]

/-- Of these keys and entries one is missing, one unused and one empty, in any order. -/
theorem reconcile_exact_serverKeys :
    (serverKeys.map CodeKey.name).Nodup ∧
      "DB_URL" ∈ (reconcile serverKeys serverEntries {}).missing ∧
      "OLD" ∈ (reconcile serverKeys serverEntries {}).unused ∧
      "PORT" ∈ (reconcile serverKeys serverEntries {}).empty ∧
      serverKeys.reverse.Perm serverKeys ∧
      reconcile serverKeys.reverse serverEntries {} = reconcile serverKeys serverEntries {} := by
  have distinct : (serverKeys.map CodeKey.name).Nodup := by decide
  have reversed : serverKeys.reverse.Perm serverKeys := serverKeys.reverse_perm
  obtain ⟨exact, -, -, -, unordered⟩ := reconcile_exact serverEntries {} distinct
  refine ⟨distinct, ?_, ?_, ?_, reversed, unordered _ _ reversed (List.Perm.refl _)⟩
  · rw [exact.mem_missing]
    decide
  · rw [exact.mem_unused]
    decide
  · rw [exact.mem_empty]
    exact ⟨⟨_, rfl, rfl⟩, by decide⟩

end EnvConcord.Reconcile
