import EnvConcord.Access.Example
import EnvConcord.Proofs.Access.Keys
import EnvConcord.Proofs.EnvFile.Reading
import EnvConcord.Proofs.Text.Sorted
import EnvConcord.Reconcile
import Mathlib.Data.List.Nodup

/-!
# Example files satisfy the check

An example file made from the keys of a source tree is read without complaint, sets
exactly the keys that it lists, and leaves the comparison nothing to find but the
optional keys that it was asked to leave out.
-/

namespace EnvConcord.Access

/-! ## Keys as env files have them -/

theorem isBlank_of_isNamePart {c : Char} (part : IsNamePart c) : Text.isBlank c = false := by
  have code : 48 ≤ c.toNat ∧ c.toNat ≤ 95 := by
    rcases part with (⟨low, high⟩ | rfl) | ⟨low, high⟩
    · have low_code : 65 ≤ c.toNat := low
      have high_code : c.toNat ≤ 90 := high
      omega
    · decide
    · have low_code : 48 ≤ c.toNat := low
      have high_code : c.toNat ≤ 57 := high
      omega
  exact Text.isBlank_eq_false_of_code code.1 (by omega)

/-- A static key is a key of an env file, in which it is read as it stands. -/
theorem IsName.isKey {key : List Char} (name : IsName key) : EnvFile.IsKey key where
  ne_nil := by
    rintro rfl
    rcases name.begins with ⟨first, begins, -⟩
    contradiction
  trimmed := by
    rw [Text.trim_eq_self_iff]
    constructor
    · intro c first
      exact isBlank_of_isNamePart (name.continues c (List.mem_of_mem_head? first))
    · intro c last
      exact isBlank_of_isNamePart (name.continues c (List.mem_of_getLast? last))
  equals_not_mem := name.not_mem (by decide)

theorem IsName.not_exportPrefix_prefix {key : List Char} (name : IsName key) :
    ¬EnvFile.exportPrefix <+: key := by
  intro starts
  have mem : 'e' ∈ key := starts.subset (by simp [EnvFile.exportPrefix_eq])
  exact name.not_mem (by decide) mem

theorem readLine_name {key : List Char} (name : IsName key) :
    EnvFile.readLine (key ++ ['=']) = .assignment key [] := by
  have plain : key.head? ≠ some '#' := by
    intro comment
    exact name.not_mem (by decide) (List.mem_of_mem_head? comment)
  rw [EnvFile.readLine_key_equals name.isKey, if_neg plain,
    (EnvFile.dropExport_eq_self_iff name.isKey).2 name.not_exportPrefix_prefix]
  rfl

/-! ## Lines of an example file -/

/-- What the lines of an example file need of a listed key. -/
structure IsListable (key : CodeKey) : Prop where
  isName : IsName key.name.toList
  files_single : ∀ usage ∈ key.usages, '\n' ∉ usage.file.toList

/-- The lines that every example file begins with. -/
def exampleHead : List String :=
  ["# Environment variables referenced in code",
    "# Generated by envguard; copy to .env and fill in the values", ""]

/-- The keys that an example file lists, in its order. -/
def listed (keys : List CodeKey) (includeOptional : Bool) : List CodeKey :=
  (keys.mergeSort fun a b => decide (a.name ≤ b.name)).filter (inExample includeOptional)

theorem exampleText_eq (keys : List CodeKey) (includeOptional : Bool) :
    exampleText keys includeOptional =
      String.intercalate "\n"
        (exampleHead ++ (listed keys includeOptional).flatMap exampleLines) := rfl

/-- The comment on a key, if it has one. -/
def usageComment (key : CodeKey) : List String :=
  match key.usages with
  | first :: _ =>
      ["# Used in " ++ first.file ++ ":" ++ toString first.line ++
        if key.isOptional then " (optional)" else ""]
  | [] => []

theorem exampleLines_eq (key : CodeKey) :
    exampleLines key = usageComment key ++ [key.name ++ "=", ""] := rfl

theorem break_not_mem_toString (n : Nat) : '\n' ∉ (toString n).toList := by
  intro mem
  have digits : '\n' ∈ Nat.toDigits 10 n := by rwa [← Nat.toList_repr]
  have digit := Nat.isDigit_of_mem_toDigits (by decide) (by decide) digits
  contradiction

/-- The comment on a key sets nothing. -/
theorem sets_usageComment {key : CodeKey} (listable : IsListable key) :
    EnvFile.Sets (usageComment key) [] := by
  unfold usageComment
  split
  next first rest usages_eq =>
    have file_single := listable.files_single first (by simp [usages_eq])
    apply EnvFile.Sets.comment
    · simp only [String.toList_append, List.mem_append, not_or]
      refine ⟨⟨⟨⟨by decide, file_single⟩, by decide⟩, break_not_mem_toString _⟩, ?_⟩
      cases key.isOptional <;> decide
    · simp only [String.toList_append, List.append_assoc]
      rfl
  next => exact EnvFile.Sets.nil

/-- The lines of one key set that key to nothing. -/
theorem sets_exampleLines {key : CodeKey} (listable : IsListable key) :
    EnvFile.Sets (exampleLines key) [(key.name, "")] := by
  have key_line : EnvFile.Sets [key.name ++ "="] [(key.name, "")] := by
    apply EnvFile.Sets.assignment
    · rw [String.toList_append, List.mem_append, not_or]
      exact ⟨listable.isName.not_mem (by decide), by decide⟩
    · rw [String.toList_append]
      exact readLine_name listable.isName
  rw [exampleLines_eq]
  exact (sets_usageComment listable).append (key_line.append EnvFile.Sets.blank)

theorem sets_exampleHead : EnvFile.Sets exampleHead [] :=
  (EnvFile.Sets.comment (by decide) rfl).append
    ((EnvFile.Sets.comment (by decide) rfl).append EnvFile.Sets.blank)

/-! ## Example files -/

section ExampleFile

variable {keys : List CodeKey} {includeOptional : Bool}

theorem nodup_map_name_listed (includeOptional : Bool)
    (distinct : (keys.map CodeKey.name).Nodup) :
    ((listed keys includeOptional).map CodeKey.name).Nodup := by
  have sorted := ((List.mergeSort_perm keys fun a b => decide (a.name ≤ b.name)).map
    CodeKey.name).nodup_iff.2 distinct
  exact (List.filter_sublist.map CodeKey.name).nodup sorted

theorem mem_listed_iff (key : CodeKey) :
    key ∈ listed keys includeOptional ↔
      key ∈ keys ∧ key.isComputed = false ∧ (key.isOptional = true → includeOptional = true) := by
  rw [listed, List.mem_filter, List.mem_mergeSort, inExample]
  cases key.isComputed <;> cases key.isOptional <;> cases includeOptional <;> simp

/-- An example file is read without complaint, and its entries are the listed keys. -/
theorem parse_exampleText (path : String)
    (listable : ∀ key ∈ listed keys includeOptional, IsListable key)
    (distinct : (keys.map CodeKey.name).Nodup) :
    (EnvFile.parse (exampleText keys includeOptional) path).diagnostics = [] ∧
      (EnvFile.parse (exampleText keys includeOptional) path).values =
        (listed keys includeOptional).map fun key => (key.name, "") := by
  have sets : EnvFile.Sets (exampleHead ++ (listed keys includeOptional).flatMap exampleLines)
      ([] ++ (listed keys includeOptional).flatMap fun key => [(key.name, "")]) :=
    sets_exampleHead.append (.flatMap fun key mem => sets_exampleLines (listable key mem))
  rw [List.nil_append, ← List.map_eq_flatMap] at sets
  rw [exampleText_eq]
  apply sets.parse_intercalate (by simp [exampleHead])
  rw [List.map_map]
  exact nodup_map_name_listed includeOptional distinct

end ExampleFile

/-! ## Merged scans -/

/-- A static key of some sources can be listed if no path holds a line break. -/
theorem isListable_of_mem_sourceKeys {registry : Registry} {sources : List (String × String)}
    (single : ∀ source ∈ sources, '\n' ∉ source.1.toList) {key : CodeKey}
    (mem : key ∈ sourceKeys registry sources) (static : key.isComputed = false) :
    IsListable key := by
  rcases CodeKey.mem_merge mem with ⟨⟨list, list_mem, other, other_mem, name_eq⟩, usages⟩
  constructor
  · rcases List.mem_map.1 list_mem with ⟨source, -, rfl⟩
    rw [← name_eq]
    rw [← CodeKey.isComputed_congr name_eq] at static
    exact isName_of_mem_scan other_mem static
  · intro usage usage_mem
    rcases usages usage usage_mem with ⟨list, list_mem, other, other_mem, -, usage_mem⟩
    rcases List.mem_map.1 list_mem with ⟨source, source_mem, rfl⟩
    rw [file_of_mem_scan other_mem usage_mem]
    exact single source source_mem

/-! ## The comparison with an example file -/

/-- The optional static keys that settings do not allow to be missing. -/
def owedOptional (keys : List CodeKey) (settings : Settings) : List CodeKey :=
  keys.filter fun key =>
    !key.isComputed && key.isOptional && !settings.allowOptional.contains key.name

section Comparison

variable {keys : List CodeKey} {includeOptional : Bool} {entries : EntryMap}

/-- A key of distinct names is listed if its name is. -/
theorem mem_listed_of_name_mem (distinct : (keys.map CodeKey.name).Nodup) {key : CodeKey}
    (mem : key ∈ keys)
    (name_mem : key.name ∈ (listed keys includeOptional).map CodeKey.name) :
    key ∈ listed keys includeOptional := by
  rcases List.mem_map.1 name_mem with ⟨other, other_mem, name_eq⟩
  have other_known := ((mem_listed_iff other).1 other_mem).1
  rwa [List.inj_on_of_nodup_map distinct other_known mem name_eq] at other_mem

theorem unused_eq_nil (settings : Settings)
    (keys_eq : entries.keys = (listed keys includeOptional).map CodeKey.name) :
    (reconcile keys entries settings).unused = [] := by
  have none_unused : entries.keys.filter (Reconcile.isUnused keys settings) = [] := by
    rw [List.filter_eq_nil_iff]
    intro name mem
    rw [keys_eq] at mem
    rcases List.mem_map.1 mem with ⟨key, key_mem, rfl⟩
    rcases (mem_listed_iff key).1 key_mem with ⟨known, static, -⟩
    have read : key.name ∈ Reconcile.staticNames keys :=
      List.mem_map_of_mem (List.mem_filter.2 ⟨known, by simp [static]⟩)
    simp [Reconcile.isUnused, read]
  simp [reconcile, none_unused]

/-- The entries of an example file are the keys that it was to list. -/
theorem contains_name_iff (distinct : (keys.map CodeKey.name).Nodup)
    (keys_eq : entries.keys = (listed keys includeOptional).map CodeKey.name) {key : CodeKey}
    (mem : key ∈ keys) :
    entries.contains key.name = true ↔
      key.isComputed = false ∧ (key.isOptional = true → includeOptional = true) := by
  rw [Dict.contains_iff_mem_keys, keys_eq]
  constructor
  · intro name_mem
    exact ((mem_listed_iff key).1 (mem_listed_of_name_mem distinct mem name_mem)).2
  · intro exported
    exact List.mem_map_of_mem ((mem_listed_iff key).2 ⟨mem, exported⟩)

theorem filter_isMissing_of_all_listed (settings : Settings)
    (distinct : (keys.map CodeKey.name).Nodup)
    (keys_eq : entries.keys = (listed keys true).map CodeKey.name) :
    keys.filter (Reconcile.isMissing entries settings) = [] := by
  rw [List.filter_eq_nil_iff]
  intro key mem
  cases static : key.isComputed with
  | true => simp [Reconcile.isMissing, static]
  | false =>
      have contained := (contains_name_iff distinct keys_eq mem).2 ⟨static, fun _ => rfl⟩
      simp [Reconcile.isMissing, contained]

theorem filter_isMissing_of_required_listed (settings : Settings)
    (distinct : (keys.map CodeKey.name).Nodup)
    (keys_eq : entries.keys = (listed keys false).map CodeKey.name) :
    keys.filter (Reconcile.isMissing entries settings) = owedOptional keys settings := by
  apply List.filter_congr
  intro key mem
  have contained := contains_name_iff distinct keys_eq mem
  cases static : key.isComputed with
  | true => simp [Reconcile.isMissing, static]
  | false =>
      cases optional : key.isOptional with
      | true =>
          have absent : entries.contains key.name = false := by
            rw [← Bool.not_eq_true, contained]
            simp [optional]
          simp [Reconcile.isMissing, static, optional, absent]
      | false =>
          have present : entries.contains key.name = true := by
            rw [contained]
            simp [static, optional]
          simp [Reconcile.isMissing, present]

/-- Missing are the optional static keys that were left out and are not allowed to be. -/
theorem missing_eq (settings : Settings) (distinct : (keys.map CodeKey.name).Nodup)
    (keys_eq : entries.keys = (listed keys includeOptional).map CodeKey.name) :
    (reconcile keys entries settings).missing =
      if includeOptional then []
      else Text.sort ((owedOptional keys settings).map CodeKey.name) := by
  cases includeOptional with
  | true => simp [reconcile, filter_isMissing_of_all_listed settings distinct keys_eq]
  | false => simp [reconcile, filter_isMissing_of_required_listed settings distinct keys_eq]

end Comparison

/-- The example file of some sources satisfies the check that it is made for.  It is read
without complaint; its keys are, strictly ascending, the static keys of the sources, the
optional ones only if they were asked for; each is empty.  Compared with it, no key is
unused, and missing are only the optional keys left out of it that the settings do not
allow to be missing. -/
theorem reconcile_exampleText (registry : Registry) (sources : List (String × String))
    (settings : Settings) (includeOptional : Bool) (path : String)
    (single : ∀ source ∈ sources, '\n' ∉ source.1.toList) :
    let keys := sourceKeys registry sources
    let file := EnvFile.parse (exampleText keys includeOptional) path
    file.diagnostics = [] ∧
      file.entries.keys.Pairwise (· < ·) ∧
      (∀ name, name ∈ file.entries.keys ↔
        ∃ key ∈ keys, key.name = name ∧ key.isComputed = false ∧
          (key.isOptional = true → includeOptional = true)) ∧
      (∀ pair ∈ file.entries.toList, pair.2.value = "" ∧ pair.2.isEmpty = true) ∧
      (reconcile keys file.entries settings).unused = [] ∧
      (reconcile keys file.entries settings).missing =
        if includeOptional then []
        else Text.sort ((owedOptional keys settings).map CodeKey.name) := by
  intro keys file
  have distinct : (keys.map CodeKey.name).Nodup := CodeKey.nodup_map_name_merge _
  have listable : ∀ key ∈ listed keys includeOptional, IsListable key := by
    intro key mem
    rcases (mem_listed_iff key).1 mem with ⟨known, static, -⟩
    exact isListable_of_mem_sourceKeys single known static
  rcases parse_exampleText path listable distinct with ⟨diagnostics, values⟩
  have keys_eq : file.entries.keys = (listed keys includeOptional).map CodeKey.name := by
    rw [EnvFile.keys_eq_map_values, values]
    simp [Function.comp_def]
  refine ⟨diagnostics, ?_, ?_, ?_, unused_eq_nil settings keys_eq,
    missing_eq settings distinct keys_eq⟩
  · rw [keys_eq]
    exact (Text.pairwise_lt_map_mergeSort CodeKey.name distinct).sublist
      (List.filter_sublist.map CodeKey.name)
  · intro name
    rw [keys_eq, List.mem_map]
    constructor
    · rintro ⟨key, mem, name_eq⟩
      rcases (mem_listed_iff key).1 mem with ⟨known, exported⟩
      exact ⟨key, known, name_eq, exported⟩
    · rintro ⟨key, known, name_eq, exported⟩
      exact ⟨key, (mem_listed_iff key).2 ⟨known, exported⟩, name_eq⟩
  · intro pair mem
    have value_mem : (pair.1, pair.2.value) ∈ file.values := List.mem_map_of_mem mem
    rw [values] at value_mem
    rcases List.mem_map.1 value_mem with ⟨key, -, pair_eq⟩
    have empty : pair.2.value = "" := (Prod.mk.inj pair_eq).2.symm
    rcases EnvFile.exists_of_mem_entries_parse mem with ⟨-, -, place, -, entry_eq⟩
    refine ⟨empty, ?_⟩
    rw [entry_eq, empty]
    rfl

/-- Two sources with a required key, an optional one and a computed access. -/
def serverSources : List (String × String) :=
  [("src/db.js", "connect(process.env.DB_URL);"),
    ("src/app.js", "listen(process.env['PORT'] || 80);\nload(process.env[name]);")]

/-- Without optional keys, the example file of the two sources sets the required key alone,
and the optional key is all that is missing. -/
theorem reconcile_exampleText_serverSources :
    let keys := sourceKeys .standard serverSources
    let file := EnvFile.parse (exampleText keys false) ".env.example"
    (∀ source ∈ serverSources, '\n' ∉ source.1.toList) ∧
      "DB_URL" ∈ file.entries.keys ∧ "PORT" ∉ file.entries.keys ∧
      (reconcile keys file.entries {}).unused = [] ∧
      (reconcile keys file.entries {}).missing = ["PORT"] := by
  intro keys file
  have single : ∀ source ∈ serverSources, '\n' ∉ source.1.toList := by decide
  obtain ⟨-, -, names, -, unused, missing⟩ :=
    reconcile_exampleText .standard serverSources {} false ".env.example" single
  have owed : (owedOptional keys {}).map CodeKey.name = ["PORT"] := by decide +kernel
  refine ⟨single, (names "DB_URL").2 (by decide +kernel), ?_, unused, ?_⟩
  · rw [names "PORT"]
    decide +kernel
  · rw [missing, owed]
    exact List.mergeSort_singleton "PORT"

end EnvConcord.Access
