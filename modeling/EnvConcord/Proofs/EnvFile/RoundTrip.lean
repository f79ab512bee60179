import EnvConcord.EnvFile.Printer
import EnvConcord.Proofs.EnvFile.Reading

/-!
# Reading what was written

Writing an env file and reading it again keeps every value.  A key is kept unless it
looks like a comment, or still has the word for exporting in front; such keys come from
lines that carry the word twice, or carry it in front of a comment sign.
-/

namespace EnvConcord.EnvFile

/-! ## Values -/

theorem isQuoted_between_quotes (value : List Char) : isQuoted ('"' :: value ++ ['"']) = true := by
  cases value <;> simp [isQuoted, isQuote]

/-- A value between quotes is found again. -/
theorem unquote_between_quotes (value : List Char) : unquote ('"' :: value ++ ['"']) = value := by
  have trimmed : Text.trim ('"' :: value ++ ['"']) = '"' :: value ++ ['"'] := by
    rw [Text.trim_eq_self_iff]
    constructor
    · rintro c first
      rw [List.cons_append, List.head?_cons, Option.some.injEq] at first
      exact first ▸ rfl
    · intro c last
      rw [List.getLast?_concat, Option.some.injEq] at last
      exact last ▸ rfl
  rw [unquote, trimmed, isQuoted_between_quotes]
  simp

/-- Every value is found again in its written form. -/
theorem unquote_writeValue (value : List Char) : unquote (writeValue value) = value := by
  rw [writeValue]
  split
  next => exact unquote_between_quotes value
  next bare =>
      simp only [needsQuotes, Bool.or_eq_true, bne_iff_ne, ne_eq, not_or, not_not,
        Bool.not_eq_true] at bare
      rw [unquote, ← bare.1, bare.2]
      rfl

theorem break_not_mem_writeValue {value : List Char} (single : '\n' ∉ value) :
    '\n' ∉ writeValue value := by
  rw [writeValue]
  split
  · simpa using single
  · exact single

/-! ## Keys -/

/-- The key that a written key is read as; none if its line is a comment. -/
def rereadKey? (key : List Char) : Option (List Char) :=
  if key.head? = some '#' then none else some (dropExport key)

theorem rereadKey?_eq_some_self_iff {key : List Char} (isKey : IsKey key) :
    rereadKey? key = some key ↔ ¬ "#".toList <+: key ∧ ¬ "export ".toList <+: key := by
  have comment : key.head? = some '#' ↔ "#".toList <+: key := by
    cases key with
    | nil => simp
    | cons c rest => simp [List.cons_prefix_cons, eq_comm]
  rw [rereadKey?]
  split
  next here =>
      rw [comment] at here
      simp only [reduceCtorEq, here, not_true_eq_false, false_and]
  next absent =>
      rw [comment] at absent
      simp only [Option.some.injEq, absent, not_false_eq_true, true_and]
      exact dropExport_eq_self_iff isKey

/-- A pair of key and value as it is read after it was written. -/
def rereadPair? (pair : String × String) : Option (String × String) :=
  (rereadKey? pair.1.toList).map fun key => (String.ofList key, pair.2)

theorem rereadPair?_eq_some_self_iff (pair : String × String) :
    rereadPair? pair = some pair ↔ rereadKey? pair.1.toList = some pair.1.toList := by
  rcases pair with ⟨key, value⟩
  rw [rereadPair?]
  cases reread : rereadKey? key.toList with
  | none => simp
  | some found =>
      simp only [Option.map_some, Option.some.injEq, Prod.mk.injEq, and_true]
      rw [← String.toList_inj, String.toList_ofList]

/-! ## Entries -/

/-- What holds of an entry that was read from a file. -/
structure IsReadable (entry : Entry) : Prop where
  isKey : IsKey entry.key.toList
  key_single : '\n' ∉ entry.key.toList
  value_single : '\n' ∉ entry.value.toList

theorem isReadable_of_mem_entries_parse {text path : String} {pair : String × Entry}
    (mem : pair ∈ (parse text path).entries.toList) : IsReadable pair.2 := by
  rcases exists_of_mem_entries_parse mem with ⟨line, line_mem, -, found, -⟩
  rw [setting?_eq_some_iff, ← key_of_mem_entries_parse mem] at found
  have single := Text.break_not_mem_of_mem_lines line_mem
  exact
    { isKey := isKey_of_readLine found
      key_single := fun inside => single (mem_of_readLine found (Or.inl inside))
      value_single := fun inside => single (mem_of_readLine found (Or.inr inside)) }

theorem break_not_mem_writeEntry {entry : Entry} (readable : IsReadable entry) :
    '\n' ∉ writeEntry entry := by
  rw [writeEntry, List.mem_append, List.mem_cons, not_or, not_or]
  exact ⟨readable.key_single, by decide, break_not_mem_writeValue readable.value_single⟩

/-- The line of an entry sets its value under the key as it is read again. -/
theorem readLine_writeEntry {entry : Entry} (readable : IsReadable entry) :
    readLine (writeEntry entry) =
      match rereadKey? entry.key.toList with
      | none => .nothing
      | some key => .assignment key entry.value.toList := by
  rw [writeEntry, readLine_key_equals readable.isKey, unquote_writeValue, rereadKey?]
  split <;> rfl

theorem setting?_writeEntry {entry : Entry} (readable : IsReadable entry) :
    setting? (writeEntry entry) = rereadPair? (entry.key, entry.value) := by
  rw [setting?, readLine_writeEntry readable, rereadPair?]
  cases rereadKey? entry.key.toList <;> simp

/-- The lines of written entries, and the empty line behind the last break. -/
theorem lines_write {entries : List Entry} (readable : ∀ entry ∈ entries, IsReadable entry) :
    Text.lines (write entries).toList = entries.map writeEntry ++ [[]] := by
  rw [write, String.toList_ofList]
  exact Text.lines_flatMap_break writeEntry entries fun entry mem =>
    break_not_mem_writeEntry (readable entry mem)

theorem settings_write {entries : List Entry} (readable : ∀ entry ∈ entries, IsReadable entry) :
    settings (write entries).toList =
      entries.filterMap fun entry => rereadPair? (entry.key, entry.value) := by
  rw [settings, lines_write readable, List.filterMap_append, List.filterMap_map]
  simp only [List.filterMap_cons, setting?_nil, List.filterMap_nil, List.append_nil]
  apply List.filterMap_congr
  intro entry mem
  exact setting?_writeEntry (readable entry mem)

/-! ## Files -/

theorem isReadable_of_mem_values {text path : String} {entry : Entry}
    (mem : entry ∈ (parse text path).entries.values) : IsReadable entry := by
  rcases List.mem_map.1 mem with ⟨pair, pair_mem, rfl⟩
  exact isReadable_of_mem_entries_parse pair_mem

/-- The keys of a file satisfy what holds of keys. -/
theorem isKey_of_mem_values {text path : String} {pair : String × String}
    (mem : pair ∈ (parse text path).values) : IsKey pair.1.toList := by
  rcases List.mem_map.1 mem with ⟨entry, entry_mem, rfl⟩
  rw [← key_of_mem_entries_parse entry_mem]
  exact (isReadable_of_mem_entries_parse entry_mem).isKey

/-- What the written form of a file sets: its values under the keys as they are read again. -/
theorem settings_write_parse (text path : String) :
    settings (write (parse text path).entries.values).toList =
      (parse text path).values.filterMap rereadPair? := by
  rw [settings_write fun entry mem => isReadable_of_mem_values mem, Dict.values, values,
    List.filterMap_map, List.filterMap_map]
  apply List.filterMap_congr
  intro pair mem
  simp [key_of_mem_entries_parse mem]

/-- Pairs that are all found again, and as a dictionary, are each found unchanged.  A pair
that got lost, or two that fell together, would make the dictionary too short. -/
theorem rereadPair?_eq_self_of_toList_eq {pairs : List (String × String)}
    (eq : (Dict.ofList (pairs.filterMap rereadPair?)).toList = pairs) :
    ∀ pair ∈ pairs, rereadPair? pair = some pair := by
  have upper := List.length_filterMap_le rereadPair? pairs
  have lower := Dict.length_ofList_le (pairs.filterMap rereadPair?)
  rw [eq] at lower
  have all : (Dict.ofList (pairs.filterMap rereadPair?)).toList =
      pairs.filterMap rereadPair? := by
    apply Dict.toList_ofList_of_length
    rw [eq]
    omega
  apply (List.filterMap_eq_map_iff_forall_eq_some (g := id)).1
  rw [← all, eq, List.map_id]

/-- Where every key is read as it is, the written lines set distinct keys and all are
readable. -/
theorem diagnostics_parse_write_parse {text path : String} (again : String)
    (same : ∀ pair ∈ (parse text path).values, rereadPair? pair = some pair) :
    (parse (write (parse text path).entries.values) again).diagnostics = [] := by
  have settings_eq : settings (write (parse text path).entries.values).toList =
      (parse text path).values := by
    rw [settings_write_parse]
    simpa using (List.filterMap_eq_map_iff_forall_eq_some (g := id)).2 same
  rw [parse, diagnostics_addLines_of_nodup]
  · intro line mem
    rw [lines_write fun entry mem => isReadable_of_mem_values mem, List.mem_append] at mem
    rcases mem with written | last
    · rcases List.mem_map.1 written with ⟨entry, entry_mem, rfl⟩
      rw [readLine_writeEntry (isReadable_of_mem_values entry_mem)]
      cases rereadKey? entry.key.toList <;> simp
    · rw [List.mem_singleton.1 last]
      decide
  · rw [← settings, settings_eq, ← keys_eq_map_values]
    exact (parse text path).entries.nodup

/-- Reading, writing and reading again gives the same keys with the same values and no
diagnostic, exactly if no key looks like a comment or still carries the word for exporting. -/
theorem parse_write_parse_iff (text path again : String) :
    let file := parse text path
    let second := parse (write file.entries.values) again
    (second.values = file.values ∧ second.diagnostics = []) ↔
      ∀ key ∈ file.entries.keys,
        ¬ "#".toList <+: key.toList ∧ ¬ "export ".toList <+: key.toList := by
  intro file second
  have second_values :
      second.values = (Dict.ofList (file.values.filterMap rereadPair?)).toList := by
    rw [values_parse, settings_write_parse]
  have plain_iff : (∀ key ∈ file.entries.keys,
      ¬ "#".toList <+: key.toList ∧ ¬ "export ".toList <+: key.toList) ↔
        ∀ pair ∈ file.values, rereadPair? pair = some pair := by
    rw [keys_eq_map_values, List.forall_mem_map]
    apply forall₂_congr
    intro pair mem
    rw [rereadPair?_eq_some_self_iff, rereadKey?_eq_some_self_iff (isKey_of_mem_values mem)]
  rw [plain_iff]
  constructor
  · rintro ⟨values_eq, -⟩
    exact rereadPair?_eq_self_of_toList_eq (second_values.symm.trans values_eq)
  · intro same
    refine ⟨?_, diagnostics_parse_write_parse again same⟩
    rw [second_values, (List.filterMap_eq_map_iff_forall_eq_some (g := id)).2 same, List.map_id]
    apply Dict.toList_ofList_of_nodup
    rw [← keys_eq_map_values]
    exact file.entries.nodup

end EnvConcord.EnvFile
