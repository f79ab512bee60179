import EnvConcord.Access.Files
import EnvConcord.Proofs.Access.Keys

/-!
# Static reads

A text reads a name statically where a form with that literal key stands in one of its lines.  For
a name that does not mark a computed access these places decide everything that is kept of it: a
scan has a key of the name exactly if a text reads it, and the key is optional exactly if a
fallback is supplied at one of the places.
-/

namespace EnvConcord.Access

/-- Whether a text reads a name statically somewhere, with or without a fallback. -/
def Reads (dialect : Dialect) (cs : List Char) (name : String) (fallback : Bool) : Prop :=
  ∃ line ∈ Text.lines cs, ∃ i, i < line.length ∧ ∃ form ∈ dialect.statics, ∃ found : StaticMatch,
    StaticForm.match? form (line.drop i) = some found ∧
      String.ofList found.key = name ∧ found.isOptional = fallback

/-! ## One text -/

section Text

variable {dialect : Dialect} (file : String) {text name : String} {fallback : Bool}

/-- At a place, an unmarked name is recorded for static forms only. -/
theorem exists_mem_occurrencesAt_iff (unmarked : ¬IsMarked name) (line column : Nat)
    (rest : List Char) :
    (∃ item ∈ occurrencesAt dialect file line column rest,
        item.name = name ∧ item.usage.isOptional = fallback) ↔
      ∃ form ∈ dialect.statics, ∃ found, StaticForm.match? form rest = some found ∧
        String.ofList found.key = name ∧ found.isOptional = fallback := by
  constructor
  · rintro ⟨item, mem, name_eq, fallback_eq⟩
    rcases (mem_occurrencesAt_iff _ _ _ _ _ _).1 mem with
      ⟨_, -, _, -, rfl⟩ | ⟨form, form_mem, found, matched, rfl⟩
    · exact absurd (name_eq ▸ isMarked_computedName file line column) unmarked
    · exact ⟨form, form_mem, found, matched, name_eq, fallback_eq⟩
  · rintro ⟨form, form_mem, found, matched, name_eq, fallback_eq⟩
    refine ⟨staticOccurrence form.kind file line column found, ?_, name_eq, fallback_eq⟩
    exact (mem_occurrencesAt_iff _ _ _ _ _ _).2 (Or.inr ⟨form, form_mem, found, matched, rfl⟩)

theorem exists_mem_occurrences_iff (unmarked : ¬IsMarked name) :
    (∃ item ∈ occurrences dialect file text,
        item.name = name ∧ item.usage.isOptional = fallback) ↔
      Reads dialect text.toList name fallback := by
  constructor
  · rintro ⟨item, mem, agrees⟩
    obtain ⟨k, line, i, at_k, below, here⟩ := (mem_occurrences_iff _ _ _ _).1 mem
    refine ⟨line, List.mem_of_getElem? at_k, i, below, ?_⟩
    exact (exists_mem_occurrencesAt_iff file unmarked _ _ _).1 ⟨item, here, agrees⟩
  · rintro ⟨line, line_mem, i, below, matched⟩
    obtain ⟨k, at_k⟩ := List.getElem?_of_mem line_mem
    obtain ⟨item, here, agrees⟩ :=
      (exists_mem_occurrencesAt_iff file unmarked (k + 1) (i + 1) (line.drop i)).2 matched
    exact ⟨item, (mem_occurrences_iff _ _ _ _).2 ⟨k, line, i, at_k, below, here⟩, agrees⟩

/-- A scan has a key of an unmarked name exactly if the text reads the name. -/
theorem mem_map_name_scan_iff (unmarked : ¬IsMarked name) :
    name ∈ (scan dialect file text).map CodeKey.name ↔
      ∃ fallback, Reads dialect text.toList name fallback := by
  simp only [← exists_mem_occurrences_iff file unmarked, List.mem_map]
  constructor
  · rintro ⟨key, mem, rfl⟩
    obtain ⟨item, item_mem, name_eq⟩ := (mem_collect mem).1
    exact ⟨_, item, item_mem, name_eq, rfl⟩
  · rintro ⟨-, item, item_mem, name_eq, -⟩
    refine ⟨namedKey (occurrences dialect file text) name, ?_, rfl⟩
    exact (mem_collect_iff _ _).2 ⟨List.mem_map.2 ⟨item, item_mem, name_eq⟩, rfl⟩

/-- A scan has an optional key of an unmarked name exactly if the text reads the name with a
fallback. -/
theorem exists_optional_iff_reads (unmarked : ¬IsMarked name) :
    (∃ key ∈ scan dialect file text, key.name = name ∧ key.isOptional = true) ↔
      Reads dialect text.toList name true := by
  rw [← exists_mem_occurrences_iff file unmarked]
  have optional_iff : (namedKey (occurrences dialect file text) name).isOptional = true ↔
      ∃ item ∈ occurrences dialect file text, item.name = name ∧ item.usage.isOptional = true := by
    simp [namedKey]
  rw [← optional_iff]
  constructor
  · rintro ⟨key, mem, rfl, optional⟩
    rwa [← ((mem_collect_iff _ _).1 mem).2]
  · intro optional
    obtain ⟨item, item_mem, name_eq, -⟩ := optional_iff.1 optional
    refine ⟨namedKey (occurrences dialect file text) name, ?_, rfl, optional⟩
    exact (mem_collect_iff _ _).2 ⟨List.mem_map.2 ⟨item, item_mem, name_eq⟩, rfl⟩

end Text

/-! ## Several texts -/

section Sources

variable {registry : Registry} {sources : List (String × String)} {name : String}

theorem exists_key_iff_reads (unmarked : ¬IsMarked name) :
    (∃ key ∈ sourceKeys registry sources, key.name = name) ↔
      ∃ source ∈ sources, ∃ fallback,
        Reads (registry.forPath source.1) source.2.toList name fallback := by
  rw [← List.mem_map, sourceKeys, CodeKey.mem_map_name_merge_iff, List.map_flatten,
    List.mem_flatten]
  simp only [List.mem_map, exists_exists_and_eq_and]
  refine exists_congr fun source => and_congr_right fun _ => ?_
  rw [← mem_map_name_scan_iff source.1 unmarked, List.mem_map]
  rfl

/-- A key of an unmarked name is optional exactly if one of the texts reads it with a
fallback. -/
theorem isOptional_iff_exists_reads {key : CodeKey} (mem : key ∈ sourceKeys registry sources)
    (unmarked : ¬IsMarked key.name) :
    key.isOptional = true ↔
      ∃ source ∈ sources, Reads (registry.forPath source.1) source.2.toList key.name true := by
  rw [((CodeKey.mem_merge_iff _ key).1 mem).2]
  simp only [CodeKey.mergedKey, List.any_eq_true, List.mem_filter, List.mem_flatten, List.mem_map,
    decide_eq_true_eq]
  constructor
  · rintro ⟨other, ⟨⟨-, ⟨source, source_mem, rfl⟩, other_mem⟩, name_eq⟩, optional⟩
    refine ⟨source, source_mem, (exists_optional_iff_reads source.1 unmarked).1 ?_⟩
    exact ⟨other, other_mem, name_eq, optional⟩
  · rintro ⟨source, source_mem, reads⟩
    obtain ⟨other, other_mem, name_eq, optional⟩ :=
      (exists_optional_iff_reads source.1 unmarked).2 reads
    exact ⟨other, ⟨⟨_, ⟨source, source_mem, rfl⟩, other_mem⟩, name_eq⟩, optional⟩

end Sources

/-! ## Files -/

/-- The texts of some files, each with its path; files without text are left out. -/
def sourcesAmong (t : Tree) (paths : List Path) : List (String × String) :=
  paths.filterMap fun p => (t.readText p).toOption.map fun cs => (p.render, String.ofList cs)

theorem mem_sourcesAmong_iff {t : Tree} {paths : List Path} {source : String × String} :
    source ∈ sourcesAmong t paths ↔
      ∃ p ∈ paths, ∃ cs, t.readText p = .ok cs ∧ (p.render, String.ofList cs) = source := by
  simp only [sourcesAmong, List.mem_filterMap, Option.map_eq_some_iff]
  refine exists_congr fun p => and_congr_right fun _ => exists_congr fun cs => ?_
  cases t.readText p <;> simp [Except.toOption]

theorem toOption_scanFile (t : Tree) (registry : Registry) (p : Path) :
    (scanFile t registry p).value.toOption =
      (t.readText p).toOption.map fun cs => registry.scan p.render (String.ofList cs) := by
  unfold scanFile
  cases t.readText p <;> rfl

/-- Scanning files finds the keys of those that have a text. -/
theorem keys_scanFiles (t : Tree) (registry : Registry) (paths : List Path) :
    (scanFiles t registry (paths.map SpelledPath.ofPath)).value.keys =
      sourceKeys registry (sourcesAmong t paths) := by
  rw [scanFiles, Logged.value_bind, Logged.value_mapM, sourceKeys, sourcesAmong]
  change CodeKey.merge _ = _
  congr 1
  rw [List.map_map, List.filterMap_map, List.map_filterMap]
  apply List.filterMap_congr
  intro p _
  rw [Option.map_map]
  exact toOption_scanFile t registry p

end EnvConcord.Access
