import EnvConcord.Proofs.Access.Keys
import EnvConcord.Proofs.EnvFile.Reading
import EnvConcord.Proofs.Reconcile.Exact

/-!
# Comparisons of source texts with env texts

A comparison of texts does not see the order of its sources, and it is monotone: more
sources make no key unused, more env texts make none missing, and wider settings find
nothing new.
-/

namespace EnvConcord.Reconcile

open CodeKey

/-! ## Comparisons of merged keys -/

section Merged

variable (lists others : List (List CodeKey)) (entries : EntryMap) (settings : Settings)

theorem mem_missing_merge_iff (name : String) :
    name ∈ (reconcile (merge lists) entries settings).missing ↔
      (name ∈ lists.flatten.map CodeKey.name ∧ ¬Access.IsMarked name ∧
        ¬(name ∈ settings.allowOptional ∧ (mergedKey lists.flatten name).isOptional = true)) ∧
        name ∉ entries.keys := by
  rw [mem_missing_iff]
  constructor
  · rintro ⟨⟨key, mem, rfl, static, owed⟩, absent⟩
    rcases (mem_merge_iff lists key).1 mem with ⟨name_mem, key_eq⟩
    rw [Access.isComputed_eq_false_iff] at static
    rw [← key_eq]
    exact ⟨⟨name_mem, static, owed⟩, absent⟩
  · rintro ⟨⟨name_mem, static, owed⟩, absent⟩
    have mem : mergedKey lists.flatten name ∈ merge lists :=
      (mem_merge_iff lists _).2 ⟨name_mem, rfl⟩
    exact ⟨⟨_, mem, rfl, (Access.isComputed_eq_false_iff _).2 static, owed⟩, absent⟩

theorem mem_unused_merge_iff (name : String) :
    name ∈ (reconcile (merge lists) entries settings).unused ↔
      name ∈ entries.keys ∧
        ¬(name ∈ lists.flatten.map CodeKey.name ∧ ¬Access.IsMarked name) ∧
        name ∉ settings.ignoreKeys := by
  have read_iff : (∃ key ∈ merge lists, key.name = name ∧ key.isComputed = false) ↔
      name ∈ lists.flatten.map CodeKey.name ∧ ¬Access.IsMarked name := by
    rw [← mem_map_name_merge_iff, List.mem_map]
    constructor
    · rintro ⟨key, mem, rfl, static⟩
      exact ⟨⟨key, mem, rfl⟩, (Access.isComputed_eq_false_iff key).1 static⟩
    · rintro ⟨⟨key, mem, rfl⟩, static⟩
      exact ⟨key, mem, rfl, (Access.isComputed_eq_false_iff key).2 static⟩
  rw [mem_unused_iff, read_iff]

variable {lists others}

theorem missing_merge_eq_of_perm (perm : lists.Perm others) :
    (reconcile (merge lists) entries settings).missing =
      (reconcile (merge others) entries settings).missing := by
  apply Text.eq_of_mem_iff_of_pairwise_lt
  · exact pairwise_lt_missing entries settings (nodup_map_name_merge lists)
  · exact pairwise_lt_missing entries settings (nodup_map_name_merge others)
  · intro name
    rw [mem_missing_merge_iff, mem_missing_merge_iff, (perm.flatten.map _).mem_iff,
      isOptional_mergedKey_of_perm perm.flatten]

theorem unused_merge_eq_of_perm (perm : lists.Perm others) :
    (reconcile (merge lists) entries settings).unused =
      (reconcile (merge others) entries settings).unused := by
  apply Text.eq_of_mem_iff_of_pairwise_lt
  · exact pairwise_lt_unused entries settings (merge lists)
  · exact pairwise_lt_unused entries settings (merge others)
  · intro name
    rw [mem_unused_merge_iff, mem_unused_merge_iff, (perm.flatten.map _).mem_iff]

/-- The entries that are empty are the same for any keys of the code. -/
theorem empty_eq (keys keys' : List CodeKey) :
    (reconcile keys entries settings).empty = (reconcile keys' entries settings).empty := rfl

theorem summary_merge_eq_of_perm (perm : lists.Perm others) :
    (reconcile (merge lists) entries settings).summary =
      (reconcile (merge others) entries settings).summary := by
  have names_perm : ((merge lists).map CodeKey.name).Perm ((merge others).map CodeKey.name) := by
    rw [List.perm_ext_iff_of_nodup (nodup_map_name_merge lists) (nodup_map_name_merge others)]
    intro name
    rw [mem_map_name_merge_iff, mem_map_name_merge_iff, (perm.flatten.map _).mem_iff]
  have code_eq : (reconcile (merge lists) entries settings).summary.keysInCode =
      (reconcile (merge others) entries settings).summary.keysInCode := by
    simp only [reconcile, Text.sortDistinct, Text.sort_eq_of_perm names_perm]
  have total_eq : (reconcile (merge lists) entries settings).summary.totalIssues =
      (reconcile (merge others) entries settings).summary.totalIssues := by
    rw [totalIssues_eq, totalIssues_eq, missing_merge_eq_of_perm entries settings perm,
      unused_merge_eq_of_perm entries settings perm,
      empty_eq entries settings (merge lists) (merge others)]
  calc
    (reconcile (merge lists) entries settings).summary
      = ⟨(reconcile (merge lists) entries settings).summary.keysInCode, entries.keys.length,
          (reconcile (merge lists) entries settings).summary.totalIssues⟩ := rfl
    _ = ⟨(reconcile (merge others) entries settings).summary.keysInCode, entries.keys.length,
          (reconcile (merge others) entries settings).summary.totalIssues⟩ := by
      rw [code_eq, total_eq]
    _ = (reconcile (merge others) entries settings).summary := rfl

end Merged

/-! ## Growth -/

section Growth

variable {keys : List CodeKey} {entries wider : EntryMap} {settings looser : Settings}

/-- More lists of keys make no key unused. -/
theorem unused_merge_append_subset (lists more : List (List CodeKey)) (entries : EntryMap)
    (settings : Settings) :
    (reconcile (merge (lists ++ more)) entries settings).unused ⊆
      (reconcile (merge lists) entries settings).unused := by
  intro name mem
  rcases (mem_unused_merge_iff _ _ _ _).1 mem with ⟨set, unread, heeded⟩
  refine (mem_unused_merge_iff _ _ _ _).2 ⟨set, ?_, heeded⟩
  rintro ⟨read, static⟩
  apply unread
  rw [List.flatten_append, List.map_append]
  exact ⟨List.mem_append_left _ read, static⟩

/-- More entries make no key missing. -/
theorem missing_subset_of_keys_subset (more : entries.keys ⊆ wider.keys) :
    (reconcile keys wider settings).missing ⊆ (reconcile keys entries settings).missing := by
  intro name mem
  rcases (mem_missing_iff _ _ _ _).1 mem with ⟨owed, absent⟩
  exact (mem_missing_iff _ _ _ _).2 ⟨owed, fun set => absent (more set)⟩

theorem missing_subset_of_allowed_subset
    (allowed : settings.allowOptional ⊆ looser.allowOptional) :
    (reconcile keys entries looser).missing ⊆ (reconcile keys entries settings).missing := by
  intro name mem
  rcases (mem_missing_iff _ _ _ _).1 mem with ⟨⟨key, known, name_eq, static, owed⟩, absent⟩
  refine (mem_missing_iff _ _ _ _).2 ⟨⟨key, known, name_eq, static, ?_⟩, absent⟩
  rintro ⟨excused, optional⟩
  exact owed ⟨allowed excused, optional⟩

theorem unused_subset_of_ignored_subset (ignored : settings.ignoreKeys ⊆ looser.ignoreKeys) :
    (reconcile keys entries looser).unused ⊆ (reconcile keys entries settings).unused := by
  intro name mem
  rcases (mem_unused_iff _ _ _ _).1 mem with ⟨set, unread, heeded⟩
  exact (mem_unused_iff _ _ _ _).2 ⟨set, unread, fun ignore => heeded (ignored ignore)⟩

theorem empty_subset_of_ignored_subset (ignored : settings.ignoreKeys ⊆ looser.ignoreKeys) :
    (reconcile keys entries looser).empty ⊆ (reconcile keys entries settings).empty := by
  intro name mem
  rcases (mem_empty_iff _ _ _ _).1 mem with ⟨unset, heeded⟩
  exact (mem_empty_iff _ _ _ _).2 ⟨unset, fun ignore => heeded (ignored ignore)⟩

end Growth

/-! ## Comparisons of texts -/

/-- The entries of some env files, each with its path and its text. -/
def fileEntries (files : List (String × String)) : EntryMap :=
  EnvFile.merge (files.map fun file => EnvFile.parse file.2 file.1)

theorem keys_fileEntries_subset (files more : List (String × String)) :
    (fileEntries files).keys ⊆ (fileEntries (files ++ more)).keys := by
  intro key mem
  rw [fileEntries, EnvFile.mem_keys_merge_iff] at mem ⊢
  rcases mem with ⟨file, file_mem, set⟩
  rw [List.map_append]
  exact ⟨file, List.mem_append_left _ file_mem, set⟩

/-- The comparison of the keys of some sources with the entries of some env files. -/
def checkTexts (registry : Access.Registry) (sources files : List (String × String))
    (settings : Settings) : Findings :=
  reconcile (Access.sourceKeys registry sources) (fileEntries files) settings

/-- The comparison of texts does not depend on the order of the sources, and it is
monotone.  A further source makes no key unused, a further env text makes none missing,
and settings that ignore or allow more keys find nothing new. -/
theorem checkTexts_monotone (registry : Access.Registry)
    (sources files : List (String × String)) (settings : Settings) :
    (∀ others : List (String × String), others.Perm sources →
      (checkTexts registry others files settings).missing =
          (checkTexts registry sources files settings).missing ∧
        (checkTexts registry others files settings).unused =
          (checkTexts registry sources files settings).unused ∧
        (checkTexts registry others files settings).empty =
          (checkTexts registry sources files settings).empty ∧
        (checkTexts registry others files settings).summary =
          (checkTexts registry sources files settings).summary) ∧
      (∀ more, (checkTexts registry (sources ++ more) files settings).unused ⊆
        (checkTexts registry sources files settings).unused) ∧
      (∀ more, (checkTexts registry sources (files ++ more) settings).missing ⊆
        (checkTexts registry sources files settings).missing) ∧
      ∀ looser : Settings, settings.ignoreKeys ⊆ looser.ignoreKeys →
        settings.allowOptional ⊆ looser.allowOptional →
        (checkTexts registry sources files looser).missing ⊆
            (checkTexts registry sources files settings).missing ∧
          (checkTexts registry sources files looser).unused ⊆
            (checkTexts registry sources files settings).unused ∧
          (checkTexts registry sources files looser).empty ⊆
            (checkTexts registry sources files settings).empty := by
  refine ⟨?_, ?_, ?_, ?_⟩
  · intro others perm
    have lists_perm := perm.map fun source => registry.scan source.1 source.2
    exact ⟨missing_merge_eq_of_perm _ settings lists_perm,
      unused_merge_eq_of_perm _ settings lists_perm, rfl,
      summary_merge_eq_of_perm _ settings lists_perm⟩
  · intro more
    rw [checkTexts, Access.sourceKeys, List.map_append]
    exact unused_merge_append_subset _ _ _ settings
  · intro more
    exact missing_subset_of_keys_subset (keys_fileEntries_subset files more)
  · intro looser ignored allowed
    exact ⟨missing_subset_of_allowed_subset allowed, unused_subset_of_ignored_subset ignored,
      empty_subset_of_ignored_subset ignored⟩

/-- Two sources, of which the first reads its key with a fallback. -/
def serviceSources : List (String × String) :=
  [("app.js", "listen(process.env.PORT || 80);"), ("job.py", "key = os.environ[\"TOKEN\"]")]

/-- The optional key is missing, whichever source comes first, until it is allowed to be. -/
theorem checkTexts_monotone_serviceSources :
    serviceSources.reverse.Perm serviceSources ∧
      "PORT" ∈ (checkTexts .standard serviceSources.reverse [(".env", "TOKEN=1")] {}).missing ∧
      (({} : Settings).ignoreKeys ⊆ ["NODE_ENV"] ∧ ({} : Settings).allowOptional ⊆ ["PORT"]) ∧
      (checkTexts .standard serviceSources [(".env", "TOKEN=1")]
          { allowOptional := ["PORT"] }).missing ⊆
        (checkTexts .standard serviceSources [(".env", "TOKEN=1")] {}).missing := by
  obtain ⟨unordered, -, -, looser⟩ :=
    checkTexts_monotone .standard serviceSources [(".env", "TOKEN=1")] {}
  have reversed : serviceSources.reverse.Perm serviceSources := serviceSources.reverse_perm
  have ignored : ({} : Settings).ignoreKeys ⊆ ["NODE_ENV"] := List.Subset.refl _
  have allowed : ({} : Settings).allowOptional ⊆ ["PORT"] := List.nil_subset _
  refine ⟨reversed, ?_, ⟨ignored, allowed⟩, (looser _ ignored allowed).1⟩
  rw [(unordered _ reversed).1, checkTexts, mem_missing_iff]
  decide +kernel

end EnvConcord.Reconcile
