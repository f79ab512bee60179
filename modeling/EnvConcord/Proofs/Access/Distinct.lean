import EnvConcord.Proofs.Access.Joined
import Mathlib.Data.Finset.Card

/-!
# Distinct names for computed accesses

The name of a computed access holds its line and its column, and at one place begins at most one
computed access.  So the computed accesses of a text are recorded under as many names as there are
accesses.
-/

namespace EnvConcord.Access

/-- The computed usages that keys hold are kept apart: no key holds two of them, and they are
recorded under as many names as there are usages. -/
structure KeepsComputedApart (keys : List CodeKey) : Prop where
  single : ∀ key ∈ keys, key.usages.countP (fun usage => usage.kind = .computed) ≤ 1
  length_eq :
    (computedUsages keys).length = ((computedRecords keys).map Prod.fst).toFinset.card

section Scan

variable {dialect : Dialect} (separates : SeparatesComputed dialect) (file text : String)

include separates in
/-- No two computed accesses of a scan are recorded under one name. -/
theorem nodup_names_computedRecords_scan :
    ((computedRecords (scan dialect file text)).map Prod.fst).Nodup := by
  have names_perm := ((recorded_collect_perm (occurrences dialect file text)).filter
    fun item => item.2.kind = .computed).map Prod.fst
  rw [List.nodup_iff_count_le_one]
  intro name
  rw [computedRecords, scan, names_perm.count_eq, List.filter_map, List.map_map, List.count,
    List.countP_map, List.countP_filter]
  refine le_of_eq_of_le (List.countP_congr ?_)
    (countP_isComputed_occurrences_le_one separates name)
  intro found _
  simp [Occurrence.isComputed, and_comm]

include separates in
theorem keepsComputedApart_scan : KeepsComputedApart (scan dialect file text) where
  single _ mem := countP_computed_usages_le_one separates mem
  length_eq := by
    rw [List.toFinset_card_of_nodup (nodup_names_computedRecords_scan separates file text),
      List.length_map, ← map_snd_computedRecords, List.length_map]

end Scan

/-- The name of a computed access settles its line and its column, so a scan keeps the computed
accesses of a text apart in every dialect whose forms open at different places, as those of the
built-in dialects do. -/
theorem computedName_keepsApart :
    (∀ (file file' : String) (line line' column column' : Nat),
      computedName file line column = computedName file' line' column' →
        line = line' ∧ column = column') ∧
    (∀ dialect ∈ [Dialect.javascript, Dialect.python], SeparatesComputed dialect) ∧
    ∀ dialect, SeparatesComputed dialect → ∀ file text,
      KeepsComputedApart (scan dialect file text) := by
  refine ⟨?_, ?_, ?_⟩
  · intro file file' line line' column column' name_eq
    exact place_eq_of_computedName_eq name_eq
  · intro dialect builtIn
    exact (separatesForms_of_builtIn builtIn).toSeparatesComputed
  · intro dialect separates file text
    exact keepsComputedApart_scan separates file text

/-- A line with two computed accesses. -/
def pairLine : String := "pair = os.environ[first], os.getenv(second)"

theorem computedName_keepsApart_pairLine :
    SeparatesComputed .python ∧ KeepsComputedApart (scan .python "app.py" pairLine) ∧
      (computedUsages (scan .python "app.py" pairLine)).length = 2 := by
  have usages := computedUsages_scan_perm separatesComputed_python "app.py" pairLine
  exact ⟨separatesComputed_python,
    computedName_keepsApart.2.2 .python separatesComputed_python "app.py" pairLine,
    usages.length_eq.trans (by decide)⟩

end EnvConcord.Access
