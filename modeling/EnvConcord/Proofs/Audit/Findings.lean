import EnvConcord.Audit
import EnvConcord.Proofs.Access.StaticReads
import EnvConcord.Proofs.EnvFile.Values
import EnvConcord.Proofs.Glob.Resolution
import EnvConcord.Proofs.Reconcile.Exact

/-!
# What an audit finds

The findings of an audit are settled by the directory alone: by the names that its source files
read statically, with or without a fallback, and by the values that its env files set.
-/

namespace EnvConcord

namespace Audit

open Access (IsMarked Reads)

section Directory

variable (t : Tree) (directory : Path) (s : Settings)

/-! ## What a directory holds -/

/-- A source file: a pattern leads to it, and no rule ignores it. -/
structure IsSource (p : Path) : Prop where
  matched : ∃ pattern ∈ s.paths, ∃ option ∈ Glob.Brace.expandText pattern,
    p ∈ Glob.find t (Glob.patternIn directory option)
  isFile : t.isFile p = true
  heeded : Glob.Ignore.ignored (Glob.Ignore.rulesOf s.ignorePatterns)
    (Glob.seenFrom t directory p) = false

/-- Whether a source file with a text reads a name statically, with or without a fallback. -/
def IsRead (name : String) (fallback : Bool) : Prop :=
  ∃ p, IsSource t directory s p ∧ ∃ cs, t.readText p = .ok cs ∧
    Reads (Access.Registry.standard.forPath p.render) cs name fallback

/-- A name that the source files read and that no env file sets.  A name that may be unset has to
be read with a fallback somewhere. -/
structure IsLacking (name : String) : Prop where
  unmarked : ¬IsMarked name
  read : ∃ fallback, IsRead t directory s name fallback
  unset : ∀ p ∈ envPaths directory s, EnvFile.valueIn t p name = none
  owed : ¬(name ∈ s.allowOptional ∧ IsRead t directory s name true)

/-- A name that the env files set to no use: no source file reads it, or the last env file that
sets it leaves it empty. -/
structure IsIdle (name : String) : Prop where
  set : ∃ value, EnvFile.lastValue t (envPaths directory s) name = some value
  idle : (IsMarked name ∨ ¬∃ fallback, IsRead t directory s name fallback) ∨
    EnvFile.lastValue t (envPaths directory s) name = some ""
  heeded : name ∉ s.ignoreKeys

/-! ## What is scanned -/

/-- The keys that a scan finds in a directory. -/
def scannedKeys : List CodeKey := (scan t directory s).value.keys

theorem scannedKeys_eq :
    scannedKeys t directory s = Access.sourceKeys .standard
      (Access.sourcesAmong t (sourceFiles t directory s.ignorePatterns s.paths)) :=
  Access.keys_scanFiles _ _ _

variable {t directory s}

theorem mem_sourceFiles_iff {p : Path} :
    p ∈ sourceFiles t directory s.ignorePatterns s.paths ↔ IsSource t directory s p := by
  rw [sourceFiles, Glob.mem_resolve_iff]
  exact ⟨fun ⟨matched, isFile, heeded⟩ => ⟨matched, isFile, heeded⟩,
    fun ⟨matched, isFile, heeded⟩ => ⟨matched, isFile, heeded⟩⟩

theorem isRead_iff {name : String} {fallback : Bool} :
    IsRead t directory s name fallback ↔
      ∃ source ∈ Access.sourcesAmong t (sourceFiles t directory s.ignorePatterns s.paths),
        Reads (Access.Registry.standard.forPath source.1) source.2.toList name fallback := by
  constructor
  · rintro ⟨p, is_source, cs, read, reads⟩
    refine ⟨(p.render, String.ofList cs), Access.mem_sourcesAmong_iff.2 ?_, ?_⟩
    · exact ⟨p, mem_sourceFiles_iff.2 is_source, cs, read, rfl⟩
    · rwa [String.toList_ofList]
  · rintro ⟨source, mem, reads⟩
    obtain ⟨p, p_mem, cs, read, rfl⟩ := Access.mem_sourcesAmong_iff.1 mem
    rw [String.toList_ofList] at reads
    exact ⟨p, mem_sourceFiles_iff.1 p_mem, cs, read, reads⟩

/-- A static key of a scan has an unmarked name that the source files read. -/
theorem exists_static_iff {name : String} :
    (∃ key ∈ scannedKeys t directory s, key.name = name ∧ key.isComputed = false) ↔
      ¬IsMarked name ∧ ∃ fallback, IsRead t directory s name fallback := by
  constructor
  · rintro ⟨key, mem, rfl, static⟩
    have unmarked := (Access.isComputed_eq_false_iff key).1 static
    rw [scannedKeys_eq] at mem
    obtain ⟨source, source_mem, fallback, reads⟩ :=
      (Access.exists_key_iff_reads unmarked).1 ⟨key, mem, rfl⟩
    exact ⟨unmarked, fallback, isRead_iff.2 ⟨source, source_mem, reads⟩⟩
  · rintro ⟨unmarked, fallback, read⟩
    obtain ⟨source, source_mem, reads⟩ := isRead_iff.1 read
    obtain ⟨key, mem, rfl⟩ :=
      (Access.exists_key_iff_reads unmarked).2 ⟨source, source_mem, fallback, reads⟩
    rw [← scannedKeys_eq] at mem
    exact ⟨key, mem, rfl, (Access.isComputed_eq_false_iff key).2 unmarked⟩

theorem isOptional_iff_isRead {key : CodeKey} (mem : key ∈ scannedKeys t directory s)
    (unmarked : ¬IsMarked key.name) :
    key.isOptional = true ↔ IsRead t directory s key.name true := by
  rw [scannedKeys_eq] at mem
  rw [Access.isOptional_iff_exists_reads mem unmarked, isRead_iff]

/-! ## What is found -/

theorem findings_run :
    (run t directory s).value.findings =
      reconcile (scannedKeys t directory s) (EnvFile.mergedEntries t (envPaths directory s)) s :=
  rfl

theorem mem_missing_run_iff {name : String} :
    name ∈ (run t directory s).value.findings.missing ↔ IsLacking t directory s name := by
  rw [findings_run, Reconcile.mem_missing_iff, EnvFile.mem_keys_mergedEntries_iff]
  constructor
  · rintro ⟨⟨key, mem, rfl, static, owed⟩, unset⟩
    obtain ⟨unmarked, read⟩ := exists_static_iff.1 ⟨key, mem, rfl, static⟩
    refine ⟨unmarked, read, ?_, ?_⟩
    · rw [EnvFile.forall_valueIn_eq_none_iff]
      simpa [Option.eq_none_iff_forall_ne_some] using unset
    · rwa [← isOptional_iff_isRead mem unmarked]
  · rintro ⟨unmarked, read, unset, owed⟩
    obtain ⟨key, mem, rfl, static⟩ := exists_static_iff.2 ⟨unmarked, read⟩
    refine ⟨⟨key, mem, rfl, static, ?_⟩, ?_⟩
    · rwa [isOptional_iff_isRead mem unmarked]
    · rw [EnvFile.forall_valueIn_eq_none_iff] at unset
      simp [unset]

/-- What an audit finds unused or empty is idle. -/
theorem mem_unused_or_empty_run_iff {name : String} :
    (name ∈ (run t directory s).value.findings.unused ∨
        name ∈ (run t directory s).value.findings.empty) ↔ IsIdle t directory s name := by
  rw [findings_run, Reconcile.mem_unused_iff, Reconcile.mem_empty_iff,
    EnvFile.mem_keys_mergedEntries_iff, EnvFile.exists_empty_mergedEntries_iff, exists_static_iff,
    not_and_or, not_not]
  constructor
  · rintro (⟨set, unread, heeded⟩ | ⟨empty, heeded⟩)
    · exact ⟨set, Or.inl unread, heeded⟩
    · exact ⟨⟨_, empty⟩, Or.inr empty, heeded⟩
  · rintro ⟨set, unread | empty, heeded⟩
    · exact Or.inl ⟨set, unread, heeded⟩
    · exact Or.inr ⟨empty, heeded⟩

end Directory

end Audit

end EnvConcord
