import EnvConcord.Proofs.Access.Computed
import EnvConcord.Proofs.Reconcile.Exact

/-!
# Computed keys and the names that look like theirs

A comparison tells computed keys from static ones by their names.  That goes wrong only
where a source reads a variable whose name carries the mark of computed accesses: every
other name that is read is set, missing or excused, and it is never unused.
-/

namespace EnvConcord.Reconcile

open Access

section Readings

variable {registry : Registry} {sources : List (String × String)} {item : String × Usage}
  (mem : item ∈ readings registry sources) (unmarked : ¬IsMarked item.1)

include mem unmarked in
/-- A name that is read and carries no mark is the name of a static key. -/
theorem exists_static_key :
    ∃ key ∈ sourceKeys registry sources, key.name = item.1 ∧ key.isComputed = false := by
  rcases exists_key_of_mem_readings mem with ⟨key, key_mem, name_eq⟩
  refine ⟨key, key_mem, name_eq, ?_⟩
  rw [isComputed_eq_false_iff, name_eq]
  exact unmarked

include mem unmarked in
theorem not_mem_unused (entries : EntryMap) (settings : Settings) :
    item.1 ∉ (reconcile (sourceKeys registry sources) entries settings).unused := by
  intro unused
  rcases (mem_unused_iff _ _ _ _).1 unused with ⟨-, unread, -⟩
  exact unread (exists_static_key mem unmarked)

include mem unmarked in
/-- A name that is read and carries no mark is set, missing or excused. -/
theorem set_or_missing_or_excused (entries : EntryMap) (settings : Settings) :
    item.1 ∈ entries.keys ∨
      item.1 ∈ (reconcile (sourceKeys registry sources) entries settings).missing ∨
      (item.1 ∈ settings.allowOptional ∧
        ∃ other ∈ readings registry sources,
          other.1 = item.1 ∧ other.2.isOptional = true) := by
  rcases exists_static_key mem unmarked with ⟨key, key_mem, name_eq, static⟩
  by_cases set : item.1 ∈ entries.keys
  · exact Or.inl set
  · by_cases excused : item.1 ∈ settings.allowOptional ∧ key.isOptional = true
    · rcases excused with ⟨allowed, optional⟩
      have fallback := exists_fallback_of_isOptional key_mem optional
      rw [name_eq] at fallback
      exact Or.inr (Or.inr ⟨allowed, fallback⟩)
    · refine Or.inr (Or.inl ((mem_missing_iff _ _ _ _).2 ⟨?_, set⟩))
      exact ⟨key, key_mem, name_eq, static, excused⟩

end Readings

/-- Names without the mark are never taken for those of computed accesses.  A key of a scan
is taken for a computed one exactly if it is one computed usage, or if a static access reads
a name that carries the mark; and every name without it that some source reads is set,
missing or excused by a fallback, and it is never unused. -/
theorem unmarked_separated :
    (∀ dialect : Dialect, dialect = .javascript ∨ dialect = .python →
      ∀ (file text : String), ∀ key ∈ scan dialect file text,
        (key.isComputed = true ↔
          (∃ usage, key.usages = [usage] ∧ usage.kind = .computed) ∨
            (IsMarked key.name ∧ ∃ usage ∈ key.usages, usage.kind ≠ .computed))) ∧
    ∀ (registry : Registry) (sources : List (String × String)) (entries : EntryMap)
      (settings : Settings), ∀ item ∈ readings registry sources, ¬IsMarked item.1 →
        (item.1 ∈ entries.keys ∨
          item.1 ∈ (reconcile (sourceKeys registry sources) entries settings).missing ∨
          (item.1 ∈ settings.allowOptional ∧
            ∃ other ∈ readings registry sources,
              other.1 = item.1 ∧ other.2.isOptional = true)) ∧
        item.1 ∉ (reconcile (sourceKeys registry sources) entries settings).unused := by
  constructor
  · rintro dialect (rfl | rfl) file text key mem
    · exact isComputed_iff_of_mem_scan separatesComputed_javascript mem
    · exact isComputed_iff_of_mem_scan separatesComputed_python mem
  · intro registry sources entries settings item mem unmarked
    exact ⟨set_or_missing_or_excused mem unmarked entries settings,
      not_mem_unused mem unmarked entries settings⟩

/-- A source with a computed access and a static one that has a fallback. -/
def tokenSource : String := "os.environ[name] or os.getenv('TOKEN', '')"

/-- The key of its computed access. -/
def tokenKey : CodeKey where
  name := computedName "job.py" 1 1
  usages := [⟨"job.py", 1, 1, .computed, "os.environ[name]", false⟩]

/-- The reading of its static access. -/
def tokenReading : String × Usage :=
  ("TOKEN", ⟨"job.py", 1, 21, .call, "os.getenv('TOKEN'", true⟩)

theorem unmarked_separated_tokenSource :
    tokenKey ∈ scan .python "job.py" tokenSource ∧ tokenKey.isComputed = true ∧
      tokenReading ∈ readings .standard [("job.py", tokenSource)] ∧ ¬IsMarked tokenReading.1 ∧
      tokenReading.1 ∉ (reconcile (sourceKeys .standard [("job.py", tokenSource)])
        (.ofList [("TOKEN", .ofValue "TOKEN" "1" 1)]) {}).unused := by
  have key_mem : tokenKey ∈ scan .python "job.py" tokenSource := by decide +kernel
  have read : tokenReading ∈ readings .standard [("job.py", tokenSource)] := by decide +kernel
  have unmarked : ¬IsMarked tokenReading.1 := by decide
  rcases unmarked_separated with ⟨of_scan, of_sources⟩
  have computed_iff := of_scan .python (Or.inr rfl) "job.py" tokenSource tokenKey key_mem
  exact ⟨key_mem, computed_iff.2 (Or.inl ⟨_, rfl, rfl⟩), read, unmarked,
    (of_sources .standard _ _ _ tokenReading read unmarked).2⟩

/-- A source that reads a variable whose name carries the mark of computed accesses. -/
def markedSource : String := "process.env.DYNAMIC_KEY_FOO"

/-- The usage of its only access. -/
def markedUsage : Usage := ⟨"app.js", 1, 1, .direct, markedSource, false⟩

/-- The variable is taken for a computed one, so it is not missing where it is not set, and
it is unused where it is. -/
theorem not_separated_markedSource :
    (∃ key ∈ scan .javascript "app.js" markedSource,
      ¬(key.isComputed = true ↔ ∃ usage, key.usages = [usage] ∧ usage.kind = .computed)) ∧
    ("DYNAMIC_KEY_FOO", markedUsage) ∈ readings .standard [("app.js", markedSource)] ∧
    "DYNAMIC_KEY_FOO" ∉
      (reconcile (sourceKeys .standard [("app.js", markedSource)]) .empty {}).missing ∧
    "DYNAMIC_KEY_FOO" ∈
      (reconcile (sourceKeys .standard [("app.js", markedSource)])
        (.ofList [("DYNAMIC_KEY_FOO", .ofValue "DYNAMIC_KEY_FOO" "1" 1)]) {}).unused := by
  constructor
  · have mem : ⟨"DYNAMIC_KEY_FOO", [markedUsage], false⟩ ∈
        scan .javascript "app.js" markedSource := by decide +kernel
    refine ⟨_, mem, fun separated => ?_⟩
    rcases separated.1 (by decide) with ⟨usage, usages_eq, computed⟩
    obtain rfl := (List.cons.inj usages_eq).1
    contradiction
  · decide +kernel

end EnvConcord.Reconcile
