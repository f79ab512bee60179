import EnvConcord.Proofs.EnvFile.RoundTrip

/-!
# Reading written entries

Entries are written one to a line, whatever their keys are.  Reading the lines gives every key the
value of its last entry, in the order of the first ones, and complains of each entry under a key
that was written before.
-/

namespace EnvConcord.EnvFile

/-- Entries whose line is read under their own key. -/
structure IsLasting (entry : Entry) : Prop extends IsReadable entry where
  no_comment : ¬ "#".toList <+: entry.key.toList
  no_export : ¬ "export ".toList <+: entry.key.toList

/-- What is read of an entry on a line. -/
structure IsReadAs (entry : Entry) (line : Nat) (found : Entry) : Prop where
  key_eq : found.key = entry.key
  value_eq : found.value = entry.value
  line_eq : found.line = line
  isEmpty_iff : found.isEmpty = true ↔ entry.value = ""

theorem isReadAs_iff {entry : Entry} {line : Nat} {found : Entry} :
    IsReadAs entry line found ↔ found = .ofValue entry.key entry.value line := by
  constructor
  · intro same
    obtain ⟨key, value, isEmpty, place⟩ := found
    obtain ⟨rfl, rfl, rfl, isEmpty_iff⟩ := same
    have tested : isEmpty = (entry.value == "") := by
      rw [Bool.eq_iff_iff, isEmpty_iff, beq_iff_eq]
    rw [tested]
    rfl
  · rintro rfl
    exact ⟨rfl, rfl, rfl, by simp [Entry.ofValue]⟩

/-- One diagnostic for each entry under a key that an earlier entry has, at the line of the later
one. -/
def repeats (entries : List Entry) : List Diagnostic :=
  (entries.zipIdx.filter fun (entry, place) =>
    (entries.take place).any fun earlier => earlier.key == entry.key).map
      fun (entry, place) => ⟨place + 1, .duplicateKey entry.key⟩

theorem repeats_concat (entries : List Entry) (entry : Entry) :
    repeats (entries ++ [entry]) =
      repeats entries ++
        if entry.key ∈ entries.map Entry.key then [⟨entries.length + 1, .duplicateKey entry.key⟩]
        else [] := by
  have earlier : ∀ item ∈ entries.zipIdx,
      (((entries ++ [entry]).take item.2).any fun earlier => earlier.key == item.1.key) =
        ((entries.take item.2).any fun earlier => earlier.key == item.1.key) := by
    intro item mem
    have place := (List.mem_zipIdx mem).2.1
    rw [List.take_append_of_le_length (by omega)]
  rw [repeats, List.zipIdx_append, List.filter_append, List.map_append, repeats,
    List.filter_congr earlier]
  congr 1
  by_cases known : entry.key ∈ entries.map Entry.key
  · simp_all
  · simp_all

/-- Entries under their keys, on the lines from `number` on. -/
def onLines (number : Nat) (entries : List Entry) : List (String × Entry) :=
  (entries.zipIdx number).map fun (entry, line) =>
    (entry.key, .ofValue entry.key entry.value line)

theorem map_fst_onLines (number : Nat) (entries : List Entry) :
    (onLines number entries).map Prod.fst = entries.map Entry.key := by
  calc
    (onLines number entries).map Prod.fst =
        ((entries.zipIdx number).map Prod.fst).map Entry.key := by
      rw [onLines, List.map_map, List.map_map]
      rfl
    _ = entries.map Entry.key := by rw [List.zipIdx_map_fst]

theorem forall_onLines_iff (number : Nat) (entries : List Entry) (key : String) :
    (∀ pair ∈ onLines number entries, pair.1 ≠ key) ↔ ∀ entry ∈ entries, entry.key ≠ key := by
  have keys_iff : (∀ other ∈ (onLines number entries).map Prod.fst, other ≠ key) ↔
      ∀ other ∈ entries.map Entry.key, other ≠ key := by rw [map_fst_onLines]
  rwa [List.forall_mem_map, List.forall_mem_map] at keys_iff

/-- The last pair under a key comes from the last entry under it. -/
theorem exists_last_iff (entries : List Entry) (key : String) (found : Entry) :
    (∃ before after, onLines 1 entries = before ++ (key, found) :: after ∧
        ∀ pair ∈ after, pair.1 ≠ key) ↔
      ∃ before entry after, entries = before ++ entry :: after ∧ entry.key = key ∧
        (∀ later ∈ after, later.key ≠ key) ∧ IsReadAs entry (before.length + 1) found := by
  constructor
  · rintro ⟨_, _, split, apart⟩
    obtain ⟨_, _, numbered, rfl, rest_eq⟩ := List.map_eq_append_iff.1 split
    obtain ⟨_, _, rfl, item_eq, rfl⟩ := List.map_eq_cons_iff.1 rest_eq
    obtain ⟨before, _, rfl, rfl, others_eq⟩ := List.zipIdx_eq_append_iff.1 numbered
    obtain ⟨entry, after, rfl, rfl, rfl⟩ := List.zipIdx_eq_cons_iff.1 others_eq.symm
    obtain ⟨rfl, rfl⟩ := Prod.mk.inj item_eq
    refine ⟨before, entry, after, rfl, rfl, (forall_onLines_iff _ after entry.key).1 apart, ?_⟩
    rw [isReadAs_iff, Nat.add_comm]
  · rintro ⟨before, entry, after, rfl, rfl, apart, same⟩
    obtain rfl := isReadAs_iff.1 same
    refine ⟨onLines 1 before, onLines (1 + before.length + 1) after, ?_,
      (forall_onLines_iff _ after entry.key).2 apart⟩
    rw [onLines, List.zipIdx_append, List.zipIdx_cons, List.map_append, List.map_cons,
      Nat.add_comm before.length]
    rfl

/-! ## Lines -/

section Lasting

variable {entries : List Entry} (lasting : ∀ entry ∈ entries, IsLasting entry)

theorem IsLasting.readLine_writeEntry {entry : Entry} (lasting : IsLasting entry) :
    readLine (writeEntry entry) = .assignment entry.key.toList entry.value.toList := by
  have same := (rereadKey?_eq_some_self_iff lasting.isKey).2 ⟨lasting.no_comment, lasting.no_export⟩
  rw [EnvFile.readLine_writeEntry lasting.toIsReadable, same]

include lasting

/-- Each written entry is inserted under its key, with its place as its line. -/
theorem entriesFrom_written (number : Nat) :
    entriesFrom number (entries.map writeEntry) = onLines number entries := by
  induction entries generalizing number with
  | nil => rfl
  | cons entry rest ih =>
      rw [List.forall_mem_cons] at lasting
      have sets : setting? (writeEntry entry) = some (entry.key, entry.value) :=
        (setting?_eq_some_iff _ _ _).2 lasting.1.readLine_writeEntry
      rw [List.map_cons, entriesFrom, sets]
      simp only
      rw [ih lasting.2, onLines, onLines, List.zipIdx_cons, List.map_cons]

/-- The empty line behind the last break says nothing. -/
theorem parse_write_eq (path : String) :
    parse (write entries) path = addLines { path } 1 (entries.map writeEntry) := by
  rw [parse, lines_write fun entry mem => (lasting entry mem).toIsReadable, addLines_append]
  rfl

theorem entries_parse_write (path : String) :
    (parse (write entries) path).entries = .ofList (onLines 1 entries) := by
  rw [parse_write_eq lasting, entries_addLines, entriesFrom_written lasting]
  rfl

theorem keys_parse_write (path : String) :
    (parse (write entries) path).entries.keys = (entries.map Entry.key).eraseDups := by
  rw [entries_parse_write lasting, Dict.keys_ofList, map_fst_onLines]

/-- Complaints come from the entries under known keys alone. -/
theorem diagnostics_parse_write (path : String) :
    (parse (write entries) path).diagnostics = repeats entries := by
  induction entries using List.reverseRecOn with
  | nil => rfl
  | append_singleton entries entry ih =>
      rw [List.forall_mem_append, List.forall_mem_singleton] at lasting
      have file_eq := parse_write_eq lasting.1 path
      have known_iff : (parse (write entries) path).entries.contains entry.key = true ↔
          entry.key ∈ entries.map Entry.key := by
        rw [Dict.contains_iff_mem_keys, keys_parse_write lasting.1, List.mem_eraseDups]
      have whole : ∀ other ∈ entries ++ [entry], IsLasting other := by
        rw [List.forall_mem_append, List.forall_mem_singleton]
        exact lasting
      rw [parse_write_eq whole, List.map_append, List.map_singleton, addLines_append, ← file_eq,
        List.length_map, addLines, addLines, lasting.2.readLine_writeEntry, repeats_concat,
        ← ih lasting.1]
      simp only [addReading, String.ofList_toList, known_iff]
      rw [Nat.add_comm 1]

end Lasting

/-! ## Files -/

/-- What is read of entries that were written line by line: every key in the order of the first
entries, with the value and the line of the last one, and a complaint for each entry under a key
that was written before. -/
structure ReadsBack (entries : List Entry) (file : EnvFile) : Prop where
  keys_eq : file.entries.keys = (entries.map Entry.key).eraseDups
  get?_iff : ∀ key found, file.entries.get? key = some found ↔
    ∃ before entry after, entries = before ++ entry :: after ∧ entry.key = key ∧
      (∀ later ∈ after, later.key ≠ key) ∧ IsReadAs entry (before.length + 1) found
  diagnostics_eq : file.diagnostics = repeats entries

/-- Entries whose lines are read under their own keys are found again. -/
theorem parse_write {entries : List Entry} (lasting : ∀ entry ∈ entries, IsLasting entry)
    (path : String) : ReadsBack entries (parse (write entries) path) where
  keys_eq := keys_parse_write lasting path
  get?_iff := by
    intro key found
    rw [entries_parse_write lasting, Dict.get?_ofList_eq_some_iff, exists_last_iff]
  diagnostics_eq := diagnostics_parse_write lasting path

/-- Two values of one key, of which the second is between quotes of its own, and a value with a
blank in front. -/
def repeatedKey : List Entry :=
  [.ofValue "A" "1" 1, .ofValue "B" " x" 2, .ofValue "A" "'q'" 3]

/-- The last value counts, with its quotes, and it is complained of. -/
theorem parse_write_repeatedKey :
    (∀ entry ∈ repeatedKey, IsLasting entry) ∧
      ReadsBack repeatedKey (parse (write repeatedKey) ".env") ∧
      (parse (write repeatedKey) ".env").entries.keys = ["A", "B"] ∧
      (parse (write repeatedKey) ".env").entries.get? "A" = some (.ofValue "A" "'q'" 3) ∧
      (parse (write repeatedKey) ".env").diagnostics = [⟨3, .duplicateKey "A"⟩] := by
  have lasting : ∀ entry ∈ repeatedKey, IsLasting entry := by
    simp only [repeatedKey, List.forall_mem_cons, List.not_mem_nil, false_imp_iff, forall_const,
      and_true]
    refine ⟨?_, ?_, ?_⟩
    all_goals
      exact
        { isKey := ⟨by decide, by decide, by decide⟩
          key_single := by decide
          value_single := by decide
          no_comment := by decide
          no_export := by decide }
  have back := parse_write lasting ".env"
  refine ⟨lasting, back, back.keys_eq.trans (by decide), ?_, back.diagnostics_eq.trans (by decide)⟩
  rw [back.get?_iff]
  refine ⟨[.ofValue "A" "1" 1, .ofValue "B" " x" 2], .ofValue "A" "'q'" 3, [], rfl, rfl, ?_, ?_⟩
  · simp
  · rw [isReadAs_iff]
    rfl

end EnvConcord.EnvFile
