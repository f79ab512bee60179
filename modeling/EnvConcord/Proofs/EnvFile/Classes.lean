import EnvConcord.EnvFile.Diff
import EnvConcord.Proofs.Collection.Dict
import EnvConcord.Proofs.Text.Sorted

/-!
# Classes of keys

A comparison puts every key of two entry maps into one of four classes.  Which one it is
depends on the two values of the key alone, so the classes share no key, and comparing the maps
the other way round exchanges them.
-/

namespace EnvConcord

/-- A difference seen from the other file. -/
def Difference.swapped (d : Difference) : Difference := ⟨d.key, d.second, d.first⟩

namespace EntryDiff

/-- The value of a key in an entry map. -/
def valueOf? (entries : EntryMap) (key : String) : Option String :=
  (entries.get? key).map Entry.value

theorem valueOf?_eq_none_iff (entries : EntryMap) (key : String) :
    valueOf? entries key = none ↔ key ∉ entries.keys := by
  rw [valueOf?, Option.map_eq_none_iff, Dict.get?_eq_none_iff]

theorem mem_keys_iff_exists_valueOf? (entries : EntryMap) (key : String) :
    key ∈ entries.keys ↔ ∃ value, valueOf? entries key = some value := by
  rw [← not_iff_not, ← valueOf?_eq_none_iff, Option.eq_none_iff_forall_ne_some, not_exists]

/-! ## Two values of a key -/

section Values

variable (first second : EntryMap) (key : String)

theorem mem_allKeys_iff : key ∈ allKeys first second ↔ key ∈ first.keys ∨ key ∈ second.keys := by
  rw [allKeys, Text.mem_sortDistinct, List.mem_append]

theorem allKeys_comm : allKeys second first = allKeys first second := by
  apply Text.eq_of_mem_iff_of_pairwise_lt (Text.pairwise_lt_sortDistinct _)
    (Text.pairwise_lt_sortDistinct _)
  intro key
  rw [Text.mem_sortDistinct, Text.mem_sortDistinct, List.mem_append, List.mem_append, or_comm]

theorem difference?_eq_some_iff (d : Difference) :
    difference? first second key = some d ↔
      d.key = key ∧ valueOf? first key = some d.first ∧ valueOf? second key = some d.second ∧
        d.first ≠ d.second := by
  obtain ⟨own, value, other⟩ := d
  rw [difference?, valueOf?, valueOf?]
  cases first.get? key with
  | none => simp
  | some a =>
      cases second.get? key with
      | none => simp
      | some b =>
          by_cases same : a.value = b.value
          · simp only [same, if_true, reduceCtorEq, Option.map_some, Option.some.injEq, false_iff]
            rintro ⟨-, rfl, rfl, apart⟩
            exact apart rfl
          · simp only [same, if_false, Option.map_some, Option.some.injEq, Difference.mk.injEq]
            constructor
            · rintro ⟨rfl, rfl, rfl⟩
              exact ⟨rfl, rfl, rfl, same⟩
            · rintro ⟨rfl, rfl, rfl, -⟩
              exact ⟨rfl, rfl, rfl⟩

theorem agree_iff :
    agree first second key = true ↔
      ∃ value, valueOf? first key = some value ∧ valueOf? second key = some value := by
  rw [agree, valueOf?, valueOf?]
  cases first.get? key with
  | none => simp
  | some a =>
      cases second.get? key with
      | none => simp
      | some b =>
          simp only [beq_iff_eq, Option.map_some, Option.some.injEq]
          exact ⟨fun same => ⟨_, rfl, same.symm⟩, fun ⟨_, here, there⟩ => here.trans there.symm⟩

end Values

/-! ## Comparing the other way round -/

/-- A comparison seen from the other file. -/
def swapped (d : EntryDiff) : EntryDiff where
  onlyFirst := d.onlySecond
  onlySecond := d.onlyFirst
  different := d.different.map Difference.swapped
  common := d.common

theorem difference?_swap (first second : EntryMap) (key : String) :
    difference? second first key = (difference? first second key).map Difference.swapped := by
  rw [difference?, difference?]
  cases first.get? key with
  | none => cases second.get? key <;> rfl
  | some a =>
      cases second.get? key with
      | none => rfl
      | some b =>
          by_cases same : a.value = b.value
          · simp [same]
          · simp [same, Ne.symm same, Difference.swapped]

theorem agree_comm (first second : EntryMap) : agree second first = agree first second := by
  funext key
  rw [Bool.eq_iff_iff, agree_iff, agree_iff]
  simp only [and_comm]

theorem between_swap (first second : EntryMap) :
    between second first = (between first second).swapped := by
  have different_eq : (between second first).different =
      (between first second).different.map Difference.swapped := by
    rw [between, between, List.map_filterMap, allKeys_comm]
    exact List.filterMap_congr fun key _ => difference?_swap first second key
  have common_eq : (between second first).common = (between first second).common := by
    rw [between, between, allKeys_comm, agree_comm]
  have onlyFirst_eq : (between second first).onlyFirst = (between first second).onlySecond := by
    rw [between, between, allKeys_comm]
  have onlySecond_eq : (between second first).onlySecond = (between first second).onlyFirst := by
    rw [between, between, allKeys_comm]
  rw [swapped, ← onlyFirst_eq, ← onlySecond_eq, ← different_eq, ← common_eq]

/-! ## The class of a key -/

section Classes

variable (first second : EntryMap) (key : String)

theorem mem_onlyFirst_iff :
    key ∈ (between first second).onlyFirst ↔ key ∈ first.keys ∧ key ∉ second.keys := by
  rw [between, List.mem_filter, mem_allKeys_iff, Bool.not_eq_true', ← Bool.not_eq_true,
    Dict.contains_iff_mem_keys]
  tauto

theorem mem_onlySecond_iff :
    key ∈ (between first second).onlySecond ↔ key ∈ second.keys ∧ key ∉ first.keys := by
  have other_side : (between first second).onlySecond = (between second first).onlyFirst := by
    rw [between_swap, swapped]
  rw [other_side, mem_onlyFirst_iff]

theorem mem_different_iff (d : Difference) :
    d ∈ (between first second).different ↔
      valueOf? first d.key = some d.first ∧ valueOf? second d.key = some d.second ∧
        d.first ≠ d.second := by
  rw [between, List.mem_filterMap]
  constructor
  · rintro ⟨key, -, differs⟩
    obtain ⟨rfl, values⟩ := (difference?_eq_some_iff first second key d).1 differs
    exact values
  · intro values
    have set : d.key ∈ first.keys := (mem_keys_iff_exists_valueOf? first d.key).2 ⟨_, values.1⟩
    exact ⟨d.key, (mem_allKeys_iff first second d.key).2 (Or.inl set),
      (difference?_eq_some_iff first second d.key d).2 ⟨rfl, values⟩⟩

theorem mem_common_iff :
    key ∈ (between first second).common ↔
      ∃ value, valueOf? first key = some value ∧ valueOf? second key = some value := by
  rw [between, List.mem_filter, agree_iff, mem_allKeys_iff, mem_keys_iff_exists_valueOf?]
  constructor
  · exact And.right
  · rintro ⟨value, here, there⟩
    exact ⟨Or.inl ⟨value, here⟩, value, here, there⟩

/-- The keys with differing values are those of the sorted keys that have a difference. -/
theorem map_key_different :
    (between first second).different.map Difference.key =
      (allKeys first second).filter fun key => (difference? first second key).isSome := by
  rw [between, List.map_filterMap, ← List.filterMap_eq_filter]
  apply List.filterMap_congr
  intro key _
  cases differs : difference? first second key with
  | none => simp [Option.guard, differs]
  | some d =>
      obtain ⟨rfl, -⟩ := (difference?_eq_some_iff first second key d).1 differs
      simp [Option.guard, differs]

theorem mem_map_key_different_iff :
    key ∈ (between first second).different.map Difference.key ↔
      ∃ value other, valueOf? first key = some value ∧ valueOf? second key = some other ∧
        value ≠ other := by
  rw [List.mem_map]
  constructor
  · rintro ⟨d, mem, rfl⟩
    exact ⟨d.first, d.second, (mem_different_iff first second d).1 mem⟩
  · rintro ⟨value, other, values⟩
    exact ⟨⟨key, value, other⟩, (mem_different_iff first second _).2 values, rfl⟩

end Classes

/-! ## The classes together -/

/-- The keys of a comparison, class by class. -/
def classes (d : EntryDiff) : List (List String) :=
  [d.onlyFirst, d.onlySecond, d.different.map Difference.key, d.common]

/-- A comparison splits the keys of two maps: each class is strictly ascending, no key is in two
classes, and the class of a key tells which of the maps set it and whether to the same value. -/
structure Splits (first second : EntryMap) (d : EntryDiff) : Prop where
  ascending : ∀ keys ∈ d.classes, keys.Pairwise (· < ·)
  disjoint : d.classes.Pairwise List.Disjoint
  exhaustive : ∀ key, key ∈ d.classes.flatten ↔ key ∈ first.keys ∨ key ∈ second.keys
  onlyFirst : ∀ key, key ∈ d.onlyFirst ↔ key ∈ first.keys ∧ key ∉ second.keys
  onlySecond : ∀ key, key ∈ d.onlySecond ↔ key ∈ second.keys ∧ key ∉ first.keys
  different : ∀ key value other, ⟨key, value, other⟩ ∈ d.different ↔
    valueOf? first key = some value ∧ valueOf? second key = some other ∧ value ≠ other
  common : ∀ key, key ∈ d.common ↔
    ∃ value, valueOf? first key = some value ∧ valueOf? second key = some value

section Between

variable (first second : EntryMap)

theorem pairwise_lt_of_mem_classes {keys : List String}
    (mem : keys ∈ (between first second).classes) : keys.Pairwise (· < ·) := by
  have ascending : (allKeys first second).Pairwise (· < ·) := Text.pairwise_lt_sortDistinct _
  rw [classes, map_key_different] at mem
  simp only [List.mem_cons, List.not_mem_nil, or_false] at mem
  rcases mem with rfl | rfl | rfl | rfl
  · exact ascending.filter _
  · exact ascending.filter _
  · exact ascending.filter _
  · exact ascending.filter _

theorem disjoint_classes : (between first second).classes.Pairwise List.Disjoint := by
  simp only [classes, List.pairwise_cons, List.forall_mem_cons, List.not_mem_nil, false_imp_iff,
    implies_true, and_true, List.Pairwise.nil, List.Disjoint, mem_onlyFirst_iff,
    mem_onlySecond_iff, mem_map_key_different_iff, mem_common_iff, mem_keys_iff_exists_valueOf?]
  refine ⟨⟨?_, ?_, ?_⟩, ⟨?_, ?_⟩, ?_⟩
  · exact fun key onlyFirst onlySecond => onlyFirst.2 onlySecond.1
  · exact fun key onlyFirst ⟨_, other, _, there, _⟩ => onlyFirst.2 ⟨other, there⟩
  · exact fun key onlyFirst ⟨value, _, there⟩ => onlyFirst.2 ⟨value, there⟩
  · exact fun key onlySecond ⟨value, _, here, _⟩ => onlySecond.2 ⟨value, here⟩
  · exact fun key onlySecond ⟨value, here, _⟩ => onlySecond.2 ⟨value, here⟩
  · rintro key ⟨value, other, here, there, apart⟩ ⟨same, here', there'⟩
    rw [here, Option.some.injEq] at here'
    rw [there, Option.some.injEq] at there'
    exact apart (here'.trans there'.symm)

theorem mem_flatten_classes_iff (key : String) :
    key ∈ (between first second).classes.flatten ↔ key ∈ first.keys ∨ key ∈ second.keys := by
  simp only [classes, List.flatten_cons, List.flatten_nil, List.append_nil, List.mem_append,
    mem_onlyFirst_iff, mem_onlySecond_iff, mem_map_key_different_iff, mem_common_iff,
    mem_keys_iff_exists_valueOf?]
  cases valueOf? first key with
  | none => simp
  | some value =>
      cases valueOf? second key with
      | none => simp
      | some other =>
          by_cases same : value = other
          · simp [same]
          · simp [same]

theorem splits_between : Splits first second (between first second) where
  ascending _ mem := pairwise_lt_of_mem_classes first second mem
  disjoint := disjoint_classes first second
  exhaustive := mem_flatten_classes_iff first second
  onlyFirst := mem_onlyFirst_iff first second
  onlySecond := mem_onlySecond_iff first second
  different key value other := mem_different_iff first second ⟨key, value, other⟩
  common := mem_common_iff first second

/-- A key has the same value in both maps, or none in either, exactly if no class of
differences has it. -/
theorem valueOf?_eq_iff (key : String) :
    valueOf? first key = valueOf? second key ↔
      key ∉ (between first second).onlyFirst ∧ key ∉ (between first second).onlySecond ∧
        key ∉ (between first second).different.map Difference.key := by
  simp only [mem_onlyFirst_iff, mem_onlySecond_iff, mem_map_key_different_iff,
    mem_keys_iff_exists_valueOf?]
  cases valueOf? first key with
  | none => cases valueOf? second key <;> simp
  | some value =>
      cases valueOf? second key with
      | none => simp
      | some other =>
          by_cases same : value = other
          · simp [same]
          · simp [same]

theorem size_between_eq_zero_iff :
    (between first second).size = 0 ↔ ∀ key, valueOf? first key = valueOf? second key := by
  have different_iff : (between first second).different = [] ↔
      (between first second).different.map Difference.key = [] := List.map_eq_nil_iff.symm
  simp only [size, Nat.add_eq_zero_iff, List.length_eq_zero_iff, different_iff,
    List.eq_nil_iff_forall_not_mem, valueOf?_eq_iff, forall_and, and_assoc]

end Between

/-- A comparison splits the keys of both maps by their values; comparing the other way round
exchanges the two sides of every class and of every difference; and nothing differs exactly
where both maps have the same keys with the same values. -/
theorem between_splits (first second : EntryMap) :
    Splits first second (between first second) ∧
      between second first = (between first second).swapped ∧
      ((between first second).size = 0 ↔ ∀ key, valueOf? first key = valueOf? second key) :=
  ⟨splits_between first second, between_swap first second, size_between_eq_zero_iff first second⟩

end EntryDiff

end EnvConcord
