import EnvConcord.Proofs.Access.Keys

/-!
# Computed accesses and the keys that hold them

The name of a computed access holds its place, and no text opens two computed forms of a
dialect.  So no key of a scan holds two computed usages, and a key whose name is marked is
one computed usage, unless a static access reads a name that is marked as well.
-/

namespace EnvConcord.Access

/-! ## Names of computed accesses -/

theorem toList_computedName (file : String) (line column : Nat) :
    (computedName file line column).toList =
      computedMark.toList ++ (Nat.toDigits 10 line ++ '_' :: (Nat.toDigits 10 column ++
        '_' :: (Digest.Sha1.ofText file).toList.take 8)) := by
  have digits_eq : ∀ n : Nat, (toString (n : Int)).toList = Nat.toDigits 10 n :=
    fun n => Nat.toList_repr
  simp only [computedName, String.toList_append, digits_eq, String.toList_ofList]
  simp

theorem toDigits_inj {m n : Nat} (digits_eq : Nat.toDigits 10 m = Nat.toDigits 10 n) : m = n := by
  have read_eq := congrArg (Nat.ofDigitChars 10 · 0) digits_eq
  simpa only [Nat.ofDigitChars_ten_toDigits] using read_eq

/-- The name of a computed access holds its line and its column. -/
theorem place_eq_of_computedName_eq {file file' : String} {line line' column column' : Nat}
    (name_eq : computedName file line column = computedName file' line' column') :
    line = line' ∧ column = column' := by
  have text_eq := congrArg String.toList name_eq
  rw [toList_computedName, toList_computedName] at text_eq
  rcases append_cons_inj_of_not_mem Nat.underscore_not_in_toDigits
    Nat.underscore_not_in_toDigits (List.append_cancel_left text_eq) with ⟨line_eq, rest_eq⟩
  rcases append_cons_inj_of_not_mem Nat.underscore_not_in_toDigits
    Nat.underscore_not_in_toDigits rest_eq with ⟨column_eq, -⟩
  exact ⟨toDigits_inj line_eq, toDigits_inj column_eq⟩

/-! ## Computed accesses at a place -/

/-- No text opens two computed forms. -/
def FormsApart (forms : List ComputedForm) : Prop :=
  forms.Pairwise fun form other =>
    ∀ first ∈ form.openings, ∀ second ∈ other.openings, Apart first second

instance (forms : List ComputedForm) : Decidable (FormsApart forms) :=
  inferInstanceAs (Decidable (List.Pairwise _ _))

/-- The forms of a dialect keep computed accesses apart, from static ones by their kind and
from each other by their openings. -/
structure SeparatesComputed (dialect : Dialect) : Prop where
  static_kinds : ∀ form ∈ dialect.statics, form.kind ≠ .computed
  computed_apart : FormsApart dialect.computed

theorem separatesComputed_javascript : SeparatesComputed .javascript := ⟨by decide, by decide⟩

theorem separatesComputed_python : SeparatesComputed .python := ⟨by decide, by decide⟩

/-- Where one form is recognised, no form that is apart from it is. -/
theorem match?_eq_none_of_apart {form other : ComputedForm} {cs expression : List Char}
    (apart : ∀ first ∈ form.openings, ∀ second ∈ other.openings, Apart first second)
    (recognised : ComputedForm.match? form cs = some expression) :
    ComputedForm.match? other cs = none := by
  obtain ⟨⟨body, opened⟩, -⟩ := (computed_match?_eq_some_iff form _ _).1 recognised
  exact computed_match?_of_unopened (afterOpening?_of_opened apart opened)

/-- Of several recognisers that exclude each other at most one finds something. -/
theorem length_flatMap_toList_le_one {ι α : Type*} {recognise : ι → Option α} {items : List ι}
    (apart : items.Pairwise fun item other => ∀ found, recognise item = some found →
      recognise other = none) :
    (items.flatMap fun item => (recognise item).toList).length ≤ 1 := by
  induction items with
  | nil => simp
  | cons item others ih =>
      rcases List.pairwise_cons.1 apart with ⟨item_apart, others_apart⟩
      rw [List.flatMap_cons]
      cases recognised : recognise item with
      | none => exact ih others_apart
      | some found =>
          have others_none : (others.flatMap fun other => (recognise other).toList) = [] := by
            rw [List.flatMap_eq_nil_iff]
            intro other mem
            rw [item_apart other mem found recognised, Option.toList_none]
          rw [others_none]
          simp

theorem length_flatMap_match?_le_one {forms : List ComputedForm} (apart : FormsApart forms)
    (cs : List Char) :
    (forms.flatMap fun form => (ComputedForm.match? form cs).toList).length ≤ 1 :=
  length_flatMap_toList_le_one (apart.imp fun form_apart _ recognised =>
    match?_eq_none_of_apart form_apart recognised)

/-- Whether an occurrence is a computed access. -/
def Occurrence.isComputed (found : Occurrence) : Bool := found.usage.kind = .computed

section Place

variable {dialect : Dialect} (separates : SeparatesComputed dialect) {file : String}
  {line column : Nat} {rest : List Char}

include separates in
/-- At a place begins at most one computed access. -/
theorem countP_isComputed_occurrencesAt_le_one :
    (occurrencesAt dialect file line column rest).countP Occurrence.isComputed ≤ 1 := by
  have no_static : (dialect.statics.flatMap fun form =>
      (StaticForm.match? form rest).toList.map
        (staticOccurrence form.kind file line column)).countP Occurrence.isComputed = 0 := by
    rw [List.countP_eq_zero]
    intro found mem
    simp only [List.mem_flatMap, List.mem_map] at mem
    rcases mem with ⟨form, form_mem, content, -, rfl⟩
    simp [Occurrence.isComputed, staticOccurrence, separates.static_kinds form form_mem]
  rw [occurrencesAt, List.countP_append, no_static, Nat.add_zero]
  refine List.countP_le_length.trans ?_
  rw [← List.map_flatMap, List.length_map]
  exact length_flatMap_match?_le_one separates.computed_apart rest

include separates in
/-- A computed access is recorded under the name of its place. -/
theorem name_eq_of_isComputed {found : Occurrence}
    (mem : found ∈ occurrencesAt dialect file line column rest)
    (computed : found.isComputed = true) : found.name = computedName file line column := by
  rcases (mem_occurrencesAt_iff _ _ _ _ _ _).1 mem with
    ⟨form, -, expression, -, rfl⟩ | ⟨form, form_mem, content, -, rfl⟩
  · rfl
  · exact absurd (of_decide_eq_true computed) (separates.static_kinds form form_mem)

end Place

/-! ## Computed usages of a key -/

section Scan

variable {dialect : Dialect} (separates : SeparatesComputed dialect) {file text : String}

include separates in
/-- At most one computed access is recorded under a name. -/
theorem countP_isComputed_occurrences_le_one (name : String) :
    (occurrences dialect file text).countP
      (fun found => found.isComputed && found.name = name) ≤ 1 := by
  by_cases named : ∃ item ∈ occurrences dialect file text,
      item.isComputed = true ∧ item.name = name
  · rcases named with ⟨item, item_mem, item_computed, rfl⟩
    rcases (mem_occurrences_iff dialect file text item).1 item_mem with
      ⟨k, cs, i, at_k, below, here⟩
    -- A common name is a common place, and one place has room for one computed access.
    have at_place : ∀ found ∈ occurrences dialect file text, found.name = item.name →
        found.isComputed = true → found.usage.line = k + 1 ∧ found.usage.column = i + 1 := by
      intro found found_mem name_eq computed
      rcases (mem_occurrences_iff dialect file text found).1 found_mem with
        ⟨k', cs', i', -, -, there⟩
      rw [name_eq_of_isComputed separates here item_computed,
        name_eq_of_isComputed separates there computed] at name_eq
      rcases place_eq_of_computedName_eq name_eq with ⟨line_eq, column_eq⟩
      rcases place_of_mem_occurrencesAt there with ⟨-, found_line, found_column⟩
      exact ⟨found_line.trans line_eq, found_column.trans column_eq⟩
    calc
      (occurrences dialect file text).countP
          (fun found => found.isComputed && found.name = item.name)
        ≤ (occurrences dialect file text).countP (fun found => found.isComputed &&
            decide (found.usage.line = k + 1 ∧ found.usage.column = i + 1)) := by
          apply List.countP_mono_left
          intro found mem same
          obtain ⟨computed, name_eq⟩ := by simpa using same
          simp [computed, at_place found mem name_eq computed]
      _ = (occurrencesAt dialect file (k + 1) (i + 1) (cs.drop i)).countP
            Occurrence.isComputed := by
          rw [← filter_occurrences dialect file text at_k below, List.countP_filter]
      _ ≤ 1 := countP_isComputed_occurrencesAt_le_one separates
  · have none_found : (occurrences dialect file text).countP
        (fun found => found.isComputed && found.name = name) = 0 := by
      rw [List.countP_eq_zero]
      intro found mem same
      exact named ⟨found, mem, by simpa using same⟩
    omega

variable {key : CodeKey} (mem : key ∈ scan dialect file text)

include separates mem in
/-- A key with a computed usage has the name of a computed access. -/
theorem isMarked_of_mem_usages {usage : Usage} (usage_mem : usage ∈ key.usages)
    (computed : usage.kind = .computed) : IsMarked key.name := by
  rcases (mem_collect mem).2 usage usage_mem with ⟨item, item_mem, name_eq, rfl⟩
  rcases (mem_occurrences_iff dialect file text item).1 item_mem with ⟨k, cs, i, -, -, here⟩
  rw [← name_eq, name_eq_of_isComputed separates here (decide_eq_true computed)]
  exact isMarked_computedName file _ _

include separates mem in
/-- No key of a scan holds two computed usages. -/
theorem countP_computed_usages_le_one :
    key.usages.countP (fun usage => usage.kind = .computed) ≤ 1 := by
  rw [((mem_collect_iff _ key).1 mem).2, namedKey, List.countP_map, List.countP_filter]
  exact countP_isComputed_occurrences_le_one separates key.name

include separates mem in
/-- A key of a scan is marked exactly if it is one computed usage, or if a static access
reads a name that is marked as well. -/
theorem isComputed_iff_of_mem_scan :
    key.isComputed = true ↔
      (∃ usage, key.usages = [usage] ∧ usage.kind = .computed) ∨
        (IsMarked key.name ∧ ∃ usage ∈ key.usages, usage.kind ≠ .computed) := by
  rw [isComputed_iff]
  constructor
  · intro marked
    by_cases static : ∃ usage ∈ key.usages, usage.kind ≠ .computed
    · exact Or.inr ⟨marked, static⟩
    · have computed : ∀ usage ∈ key.usages, usage.kind = .computed := by simpa using static
      have all_computed : key.usages.countP (fun usage => usage.kind = .computed) =
          key.usages.length := by
        rw [List.countP_eq_length]
        exact fun usage usage_mem => decide_eq_true (computed usage usage_mem)
      have some_usage := List.length_pos_of_ne_nil (usages_ne_nil_of_mem_collect mem)
      have few := countP_computed_usages_le_one separates mem
      have one_usage : key.usages.length = 1 := by omega
      rcases List.length_eq_one_iff.1 one_usage with ⟨usage, usages_eq⟩
      exact Or.inl ⟨usage, usages_eq, computed usage (by simp [usages_eq])⟩
  · rintro (⟨usage, usages_eq, computed⟩ | ⟨marked, -⟩)
    · exact isMarked_of_mem_usages separates mem (by simp [usages_eq]) computed
    · exact marked

end Scan

end EnvConcord.Access
