import EnvConcord.EnvFile.Load
import EnvConcord.Proofs.EnvFile.Reading
import EnvConcord.Proofs.Tree.Writing

/-!
# Values of env files

An env file sets a key to the value of the last line that sets it.  Of several env files the last
one that sets a key counts; a file without text sets nothing.
-/

namespace EnvConcord.EnvFile

/-! ## One file -/

/-- The value that an env file of a tree sets a key to, if it sets it. -/
def valueIn (t : Tree) (p : Path) (key : String) : Option String :=
  (t.readText p).toOption.bind fun cs => (settings cs).reverse.lookup key

/-- A file that sets a key has a text. -/
theorem exists_readText_of_valueIn {t : Tree} {p : Path} {key value : String}
    (set : valueIn t p key = some value) : ∃ cs, t.readText p = .ok cs := by
  cases read : t.readText p with
  | ok cs => exact ⟨cs, rfl⟩
  | error fault => simp [valueIn, read, Except.toOption] at set

theorem map_value_get? (file : EnvFile) (key : String) :
    (file.entries.get? key).map Entry.value = file.values.lookup key := by
  rw [values, Dict.get?]
  induction file.entries.toList with
  | nil => rfl
  | cons pair rest ih =>
      rw [List.map_cons, List.lookup_cons, List.lookup_cons]
      split <;> simp_all

theorem isEmpty_of_get?_parse {text path key : String} {entry : Entry}
    (found : (parse text path).entries.get? key = some entry) :
    entry.isEmpty = (entry.value == "") := by
  have mem := (Dict.get?_eq_some_iff _ _ _).1 found
  obtain ⟨-, -, number, -, entry_eq⟩ := exists_of_mem_entries_parse mem
  exact (congrArg Entry.isEmpty entry_eq).trans rfl

section Loading

variable (t : Tree) (p : Path) (key : String)

theorem entries_load_of_error {fault : Tree.TextFault} (unread : t.readText p = .error fault) :
    (load t (.ofPath p)).value.entries = .empty := by
  simp only [load, SpelledPath.ofPath, unread]
  split <;> rfl

theorem value_load_of_ok {cs : List Char} (read : t.readText p = .ok cs) :
    (load t (.ofPath p)).value = parse (String.ofList cs) p.render := by
  simp only [load, SpelledPath.ofPath, Tree.exists?_of_readText read, read]
  rfl

/-- What is read of an env file is what it sets. -/
theorem map_value_get?_load :
    ((load t (.ofPath p)).value.entries.get? key).map Entry.value = valueIn t p key := by
  cases read : t.readText p with
  | error fault =>
      rw [entries_load_of_error t p read, valueIn, read]
      rfl
  | ok cs =>
      rw [value_load_of_ok t p read, map_value_get?, values_parse, String.toList_ofList,
        valueIn, read]
      exact Dict.get?_ofList _ _

/-- An entry that is read is empty exactly if its value is. -/
theorem isEmpty_of_get?_load {entry : Entry}
    (found : (load t (.ofPath p)).value.entries.get? key = some entry) :
    entry.isEmpty = (entry.value == "") := by
  cases read : t.readText p with
  | error fault =>
      rw [entries_load_of_error t p read] at found
      contradiction
  | ok cs =>
      rw [value_load_of_ok t p read] at found
      exact isEmpty_of_get?_parse found

theorem mem_keys_load_iff :
    key ∈ (load t (.ofPath p)).value.entries.keys ↔ ∃ value, valueIn t p key = some value := by
  rw [← map_value_get?_load, ← Option.isSome_iff_exists, Option.isSome_map,
    Option.isSome_iff_ne_none, ne_eq, Dict.get?_eq_none_iff, not_not]

end Loading

/-! ## Several files -/

/-- Of several files the last one that sets a key counts. -/
theorem get?_merge (files : List EnvFile) (key : String) :
    (merge files).get? key = (files.filterMap fun file => file.entries.get? key).getLast? := by
  suffices ∀ known : EntryMap,
      (files.foldl (fun merged file => merged.insertAll file.entries.toList) known).get? key =
        (files.filterMap fun file => file.entries.get? key).getLast?.or (known.get? key) by
    rw [merge, this]
    exact Option.or_none
  induction files with
  | nil => intro known; rfl
  | cons file rest ih =>
      intro known
      rw [List.foldl_cons, ih, Dict.get?_insertAll, Dict.lookup_reverse_toList, ← Option.or_assoc]
      congr 1
      rw [List.filterMap_cons]
      cases file.entries.get? key with
      | none => exact Option.or_none
      | some entry =>
          rw [List.getLast?_cons]
          cases (rest.filterMap fun file => file.entries.get? key).getLast? <;> rfl

theorem value_loadAll (t : Tree) (files : List SpelledPath) :
    (loadAll t files).value = files.map fun file => (load t file).value :=
  Logged.value_mapM _ _

/-- The value that the last of some env files that set a key sets it to. -/
def lastValue (t : Tree) (paths : List Path) (key : String) : Option String :=
  (paths.filterMap fun p => valueIn t p key).getLast?

/-- The entries of env files together. -/
def mergedEntries (t : Tree) (paths : List Path) : EntryMap :=
  merge (loadAll t (paths.map SpelledPath.ofPath)).value

section Merging

variable (t : Tree) (paths : List Path) (key : String)

theorem get?_mergedEntries :
    (mergedEntries t paths).get? key =
      (paths.filterMap fun p => (load t (.ofPath p)).value.entries.get? key).getLast? := by
  rw [mergedEntries, get?_merge, value_loadAll, List.map_map, List.filterMap_map]
  rfl

/-- Env files together set a key to the last value that one of them sets it to. -/
theorem map_value_get?_mergedEntries :
    ((mergedEntries t paths).get? key).map Entry.value = lastValue t paths key := by
  rw [get?_mergedEntries, ← List.getLast?_map, List.map_filterMap, lastValue]
  congr 1
  exact List.filterMap_congr fun p _ => map_value_get?_load t p key

theorem mem_keys_mergedEntries_iff :
    key ∈ (mergedEntries t paths).keys ↔ ∃ value, lastValue t paths key = some value := by
  rw [← map_value_get?_mergedEntries, ← Option.isSome_iff_exists, Option.isSome_map,
    Option.isSome_iff_ne_none, ne_eq, Dict.get?_eq_none_iff, not_not]

theorem exists_empty_mergedEntries_iff :
    (∃ entry, (mergedEntries t paths).get? key = some entry ∧ entry.isEmpty = true) ↔
      lastValue t paths key = some "" := by
  rw [← map_value_get?_mergedEntries, Option.map_eq_some_iff]
  refine exists_congr fun entry => and_congr_right fun found => ?_
  rw [get?_mergedEntries] at found
  obtain ⟨p, -, found⟩ := List.mem_filterMap.1 (List.mem_of_getLast? found)
  rw [isEmpty_of_get?_load t p key found, beq_iff_eq]

/-- A key is set by none of the env files exactly if it has no last value. -/
theorem forall_valueIn_eq_none_iff :
    (∀ p ∈ paths, valueIn t p key = none) ↔ lastValue t paths key = none := by
  rw [lastValue, List.getLast?_eq_none_iff, List.filterMap_eq_nil_iff]

end Merging

end EnvConcord.EnvFile
