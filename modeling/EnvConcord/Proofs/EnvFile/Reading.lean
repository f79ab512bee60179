import EnvConcord.EnvFile.Parser
import EnvConcord.Proofs.Collection.Dict
import EnvConcord.Proofs.Text.Lines
import EnvConcord.Proofs.Text.Trim

/-!
# What env files assign

The entries of an env file are built by inserting, line by line, what each line assigns.
This file supplies that list of assignments, says which texts can be keys, and says how a
line that begins with such a key is read.
-/

namespace EnvConcord.EnvFile

/-! ## Keys -/

/-- What holds of every key of an env file. -/
structure IsKey (key : List Char) : Prop where
  ne_nil : key ≠ []
  trimmed : Text.trim key = key
  equals_not_mem : '=' ∉ key

theorem isKey_dropExport {key : List Char} (isKey : IsKey key) : IsKey (dropExport key) := by
  unfold dropExport
  split
  next =>
      simp only
      split
      next => exact isKey
      next nonempty =>
          refine ⟨by simpa using nonempty, Text.trim_trim _, fun mem => ?_⟩
          exact isKey.equals_not_mem (List.mem_of_mem_drop (Text.mem_of_mem_trim mem))
  next => exact isKey

theorem mem_of_mem_dropExport {c : Char} {key : List Char} (mem : c ∈ dropExport key) :
    c ∈ key := by
  unfold dropExport at mem
  split at mem
  next =>
      simp only at mem
      split at mem
      next => exact mem
      next => exact List.mem_of_mem_drop (Text.mem_of_mem_trim mem)
  next => exact mem

theorem exportPrefix_eq : exportPrefix = ['e', 'x', 'p', 'o', 'r', 't', ' '] := by decide

/-- A key keeps the word for exporting at its front only if the word is dropped again on
reading the key once more. -/
theorem dropExport_eq_self_iff {key : List Char} (isKey : IsKey key) :
    dropExport key = key ↔ ¬ exportPrefix <+: key := by
  constructor
  · rintro eq ⟨rest, rfl⟩
    have nonblank : Text.trim rest ≠ [] := by
      intro blank
      have last := ((Text.trim_eq_self_iff _).1 isKey.trimmed).2
      rw [Text.trim_eq_nil_iff] at blank
      cases shape : rest.getLast? with
      | none =>
          have ends : (exportPrefix ++ rest).getLast? = some ' ' := by
            rw [List.getLast?_append, shape, exportPrefix_eq]
            rfl
          have claim := last ' ' ends
          contradiction
      | some c =>
          have claim := last c (by simp [shape])
          rw [blank c (List.mem_of_getLast? shape)] at claim
          contradiction
    have opened : exportPrefix.isPrefixOf (exportPrefix ++ rest) = true := by simp
    have shorter : (dropExport (exportPrefix ++ rest)).length ≤ rest.length := by
      simp only [dropExport, opened, if_true, List.drop_left, List.isEmpty_iff, nonblank, if_false]
      exact (Text.isInfix_trim rest).length_le
    rw [eq, List.length_append] at shorter
    have positive : 0 < exportPrefix.length := by simp [exportPrefix_eq]
    omega
  · intro absent
    have closed : exportPrefix.isPrefixOf key = false := by
      simpa [Bool.eq_false_iff, List.isPrefixOf_iff_prefix] using absent
    simp [dropExport, closed]

/-! ## Lines -/

/-- Blank lines and comments are told by what a line begins with. -/
theorem isSkipped_eq (line : List Char) :
    isSkipped line = ((Text.trim line).head?.all (· == '#')) := by
  unfold isSkipped
  cases Text.trim line <;> rfl

theorem mem_of_mem_unquote {c : Char} {cs : List Char} (mem : c ∈ unquote cs) : c ∈ cs := by
  simp only [unquote] at mem
  split at mem
  next =>
      exact Text.mem_of_mem_trim (List.mem_of_mem_tail (List.dropLast_subset _ mem))
  next => exact Text.mem_of_mem_trim mem

/-- What a line that assigns looks like: a key is left in front of its first `=`. -/
theorem readLine_eq_assignment_iff (line key value : List Char) :
    readLine line = .assignment key value ↔
      isSkipped line = false ∧ '=' ∈ line ∧ key ≠ [] ∧
        key = dropExport (Text.trim (line.takeWhile (· != '='))) ∧
        value = unquote ((line.dropWhile (· != '=')).drop 1) := by
  unfold readLine
  split
  next skipped => simp [skipped]
  next read =>
      split
      next missing =>
          have absent : '=' ∉ line := by simpa using missing
          simp [absent]
      next found =>
          have present : '=' ∈ line := by simpa using found
          simp only
          split
          next empty =>
              rw [List.isEmpty_iff] at empty
              simp only [reduceCtorEq, empty, false_iff]
              rintro ⟨-, -, nonempty, eq, -⟩
              exact nonempty eq
          next nonempty =>
              rw [List.isEmpty_iff] at nonempty
              rw [LineReading.assignment.injEq]
              constructor
              · rintro ⟨rfl, rfl⟩
                exact ⟨by simpa using read, present, nonempty, rfl, rfl⟩
              · rintro ⟨-, -, -, rfl, rfl⟩
                exact ⟨rfl, rfl⟩

theorem isKey_of_readLine {line key value : List Char}
    (reading : readLine line = .assignment key value) : IsKey key := by
  rcases (readLine_eq_assignment_iff line key value).1 reading with ⟨-, -, nonempty, rfl, -⟩
  apply isKey_dropExport
  refine ⟨?_, Text.trim_trim _, fun mem => ?_⟩
  · intro empty
    rw [empty] at nonempty
    exact nonempty rfl
  · simpa using List.mem_takeWhile_imp (Text.mem_of_mem_trim mem)

/-- What a line assigns is taken from the line. -/
theorem mem_of_readLine {line key value : List Char}
    (reading : readLine line = .assignment key value) {c : Char} (mem : c ∈ key ∨ c ∈ value) :
    c ∈ line := by
  rcases (readLine_eq_assignment_iff line key value).1 reading with ⟨-, -, -, rfl, rfl⟩
  rcases mem with mem | mem
  · exact List.takeWhile_subset _ (Text.mem_of_mem_trim (mem_of_mem_dropExport mem))
  · exact List.dropWhile_subset _ (List.mem_of_mem_drop (mem_of_mem_unquote mem))

/-- A line with an `=` is a comment exactly if what stands in front of the `=` begins as one. -/
theorem isSkipped_append_equals (before after : List Char) :
    isSkipped (before ++ '=' :: after) = ((Text.trim before).head? == some '#') := by
  rw [isSkipped_eq, Text.head?_trim_append_cons before (by decide) after]
  cases (Text.trim before).head? <;> rfl

/-- How a line without an `=` is read. -/
theorem readLine_of_not_mem {line : List Char} (absent : '=' ∉ line) :
    readLine line = if isSkipped line then .nothing else .missingEquals := by
  simp [readLine, absent]

/-- How a line is read that is cut at its first `=`: both sides count only as they are trimmed. -/
theorem readLine_append_equals {before : List Char} (absent : '=' ∉ before) (after : List Char) :
    readLine (before ++ '=' :: after) =
      if (Text.trim before).head? = some '#' then .nothing
      else if Text.trim before = [] then .emptyKey
      else .assignment (dropExport (Text.trim before)) (unquote after) := by
  have inside : '=' ∉ Text.trim before := fun mem => absent (Text.mem_of_mem_trim mem)
  have present : (before ++ '=' :: after).contains '=' = true := by simp
  rw [readLine, isSkipped_append_equals, present, Text.takeWhile_ne_append_cons absent,
    Text.dropWhile_ne_append_cons absent]
  by_cases empty : Text.trim before = []
  · simp only [empty]
    rfl
  · have key := isKey_dropExport ⟨empty, Text.trim_trim before, inside⟩
    simp [empty, key.ne_nil]

/-- How a line is read that begins with a key. -/
theorem readLine_key_equals {key : List Char} (isKey : IsKey key) (value : List Char) :
    readLine (key ++ '=' :: value) =
      if key.head? = some '#' then .nothing else .assignment (dropExport key) (unquote value) := by
  rw [readLine_append_equals isKey.equals_not_mem, isKey.trimmed, if_neg isKey.ne_nil]

theorem readLine_comment {line : List Char} (comment : line.head? = some '#') :
    readLine line = .nothing := by
  cases line with
  | nil => contradiction
  | cons c rest =>
      obtain rfl : c = '#' := by simpa using comment
      have skipped : isSkipped ('#' :: rest) = true := by
        rw [isSkipped_eq, Text.head?_trim, Text.trimLeft, List.dropWhile_cons_of_neg (by decide)]
        rfl
      rw [readLine, skipped]
      rfl

/-! ## Assignments of a text -/

/-- What a line sets, as a pair of key and value. -/
def setting? (line : List Char) : Option (String × String) :=
  match readLine line with
  | .assignment key value => some (String.ofList key, String.ofList value)
  | _ => none

/-- What a text sets, line by line and with repeats. -/
def settings (cs : List Char) : List (String × String) := (Text.lines cs).filterMap setting?

theorem setting?_eq_some_iff (line : List Char) (key value : String) :
    setting? line = some (key, value) ↔ readLine line = .assignment key.toList value.toList := by
  unfold setting?
  split
  next read readValue reading =>
      rw [reading, Option.some.injEq, Prod.mk.injEq, LineReading.assignment.injEq,
        ← String.toList_inj, ← String.toList_inj, String.toList_ofList, String.toList_ofList]
  next other => simpa using fun eq => other _ _ eq

@[simp]
theorem setting?_nil : setting? [] = none := rfl

/-- A line break between two texts separates what they set. -/
theorem settings_append_break (before after : List Char) :
    settings (before ++ '\n' :: after) = settings before ++ settings after := by
  rw [settings, Text.lines_append_break, List.filterMap_append]
  rfl

/-- The entry that each of some lines sets, counted from `number` on. -/
def entriesFrom (number : Nat) : List (List Char) → List (String × Entry)
  | [] => []
  | line :: rest =>
      match setting? line with
      | some (key, value) => (key, .ofValue key value number) :: entriesFrom (number + 1) rest
      | none => entriesFrom (number + 1) rest

/-- One line inserts what it sets. -/
theorem entries_addReading (file : EnvFile) (number : Nat) (line : List Char) :
    (addReading file number (readLine line)).entries =
      file.entries.insertAll (entriesFrom number [line]) := by
  simp only [entriesFrom, setting?]
  cases readLine line <;> rfl

/-- The entries of a file are its lines' settings, inserted one after the other. -/
theorem entries_addLines (file : EnvFile) (number : Nat) (lines : List (List Char)) :
    (addLines file number lines).entries = file.entries.insertAll (entriesFrom number lines) := by
  induction lines generalizing file number with
  | nil => rfl
  | cons line rest ih =>
      rw [addLines, ih, entries_addReading, ← Dict.insertAll_append]
      congr 1
      simp only [entriesFrom]
      split <;> rfl

theorem addLines_append (file : EnvFile) (number : Nat) (first second : List (List Char)) :
    addLines file number (first ++ second) =
      addLines (addLines file number first) (number + first.length) second := by
  induction first generalizing file number with
  | nil => rfl
  | cons line rest ih =>
      rw [List.cons_append, addLines, ih, addLines, List.length_cons]
      congr 1
      omega

theorem map_value_entriesFrom (number : Nat) (lines : List (List Char)) :
    (entriesFrom number lines).map (Prod.map id Entry.value) = lines.filterMap setting? := by
  induction lines generalizing number with
  | nil => rfl
  | cons line rest ih =>
      rw [entriesFrom, List.filterMap_cons]
      split
      next key value found => simp [found, ih, Entry.ofValue]
      next nothing => simp [nothing, ih]

/-- Each listed entry is made of what a line sets. -/
theorem exists_of_mem_entriesFrom {number : Nat} {lines : List (List Char)}
    {pair : String × Entry} (mem : pair ∈ entriesFrom number lines) :
    ∃ line ∈ lines, ∃ place, setting? line = some (pair.1, pair.2.value) ∧
      pair.2 = .ofValue pair.1 pair.2.value place := by
  induction lines generalizing number with
  | nil => simp [entriesFrom] at mem
  | cons line rest ih =>
      rw [entriesFrom] at mem
      split at mem
      next key value found =>
          rcases List.mem_cons.1 mem with rfl | later
          · exact ⟨line, List.mem_cons_self, number, found, rfl⟩
          · rcases ih later with ⟨other, other_mem, facts⟩
            exact ⟨other, List.mem_cons_of_mem line other_mem, facts⟩
      next =>
          rcases ih mem with ⟨other, other_mem, facts⟩
          exact ⟨other, List.mem_cons_of_mem line other_mem, facts⟩

/-- An entry of a file stands under its own key and is made of what a line sets. -/
theorem exists_of_mem_entries_parse {text path : String} {pair : String × Entry}
    (mem : pair ∈ (parse text path).entries.toList) :
    ∃ line ∈ Text.lines text.toList, ∃ place, setting? line = some (pair.1, pair.2.value) ∧
      pair.2 = .ofValue pair.1 pair.2.value place := by
  rw [parse, entries_addLines] at mem
  exact exists_of_mem_entriesFrom (Dict.mem_of_mem_toList_ofList mem)

theorem key_of_mem_entries_parse {text path : String} {pair : String × Entry}
    (mem : pair ∈ (parse text path).entries.toList) : pair.2.key = pair.1 := by
  rcases exists_of_mem_entries_parse mem with ⟨-, -, place, -, entry_eq⟩
  rw [entry_eq]
  rfl

theorem keys_eq_map_values (file : EnvFile) : file.entries.keys = file.values.map Prod.fst := by
  simp [values, Dict.keys, Function.comp_def]

/-- The pairs of a file are a dictionary of what its text sets. -/
theorem values_parse (text path : String) :
    (parse text path).values = (Dict.ofList (settings text.toList)).toList := by
  have mapped := Dict.map_toList_ofList Entry.value (entriesFrom 1 (Text.lines text.toList))
  rw [map_value_entriesFrom] at mapped
  rw [settings, ← mapped]
  simp only [values, parse, entries_addLines]
  rfl

/-- A key that is set for the first time calls for no diagnostic and comes last. -/
theorem addReading_assignment_of_fresh (file : EnvFile) (number : Nat) {key : List Char}
    (value : List Char) (fresh : String.ofList key ∉ file.entries.keys) :
    (addReading file number (.assignment key value)).diagnostics = file.diagnostics ∧
      (addReading file number (.assignment key value)).entries.keys =
        file.entries.keys ++ [String.ofList key] := by
  have unknown : file.entries.contains (String.ofList key) = false := by
    rw [Bool.eq_false_iff, ne_eq, Dict.contains_iff_mem_keys]
    exact fresh
  constructor
  · simp [addReading, unknown]
  · simp only [addReading, Dict.keys_insert, fresh, if_false]

/-- Lines of which each sets a key of its own, or nothing, call for no diagnostic. -/
theorem diagnostics_addLines_of_nodup {file : EnvFile} {number : Nat} {lines : List (List Char)}
    (readable : ∀ line ∈ lines, readLine line ≠ .missingEquals ∧ readLine line ≠ .emptyKey)
    (distinct : (file.entries.keys ++ (lines.filterMap setting?).map Prod.fst).Nodup) :
    (addLines file number lines).diagnostics = file.diagnostics := by
  induction lines generalizing file number with
  | nil => rfl
  | cons line rest ih =>
      have this_line := readable line (by simp)
      have later : ∀ other ∈ rest, readLine other ≠ .missingEquals ∧ readLine other ≠ .emptyKey :=
        fun other mem => readable other (by simp [mem])
      rw [addLines]
      cases reading : readLine line with
      | missingEquals => exact absurd reading this_line.1
      | emptyKey => exact absurd reading this_line.2
      | nothing =>
          have silent : setting? line = none := by simp [setting?, reading]
          rw [List.filterMap_cons_none silent] at distinct
          exact ih later distinct
      | assignment key value =>
          have found : setting? line = some (String.ofList key, String.ofList value) := by
            simp [setting?, reading]
          rw [List.filterMap_cons_some found, List.map_cons, ← List.singleton_append,
            ← List.append_assoc] at distinct
          have fresh : String.ofList key ∉ file.entries.keys := by
            intro mem
            have clash := (List.nodup_append.1 (List.nodup_append.1 distinct).1).2.2
            exact clash _ mem _ (by simp) rfl
          rcases addReading_assignment_of_fresh file number value fresh with ⟨unchanged, keys_eq⟩
          rw [ih later, unchanged]
          rwa [keys_eq]

/-! ## Lines that are written to be read -/

/-- Lines that are read without complaint and set the given pairs. -/
structure Sets (lines : List String) (pairs : List (String × String)) : Prop where
  single : ∀ line ∈ lines, '\n' ∉ line.toList
  readable : ∀ line ∈ lines,
    readLine line.toList ≠ .missingEquals ∧ readLine line.toList ≠ .emptyKey
  settings : (lines.map String.toList).filterMap setting? = pairs

theorem Sets.nil : Sets [] [] := ⟨nofun, nofun, rfl⟩

theorem Sets.append {first second : List String} {pairs others : List (String × String)}
    (one : Sets first pairs) (two : Sets second others) :
    Sets (first ++ second) (pairs ++ others) where
  single := List.forall_mem_append.2 ⟨one.single, two.single⟩
  readable := List.forall_mem_append.2 ⟨one.readable, two.readable⟩
  settings := by rw [List.map_append, List.filterMap_append, one.settings, two.settings]

theorem Sets.flatMap {α : Type*} {items : List α} {lines : α → List String}
    {pairs : α → List (String × String)} (each : ∀ item ∈ items, Sets (lines item) (pairs item)) :
    Sets (items.flatMap lines) (items.flatMap pairs) := by
  induction items with
  | nil => exact Sets.nil
  | cons item rest ih =>
      rw [List.flatMap_cons, List.flatMap_cons]
      exact (each item List.mem_cons_self).append
        (ih fun other mem => each other (List.mem_cons_of_mem item mem))

theorem Sets.blank : Sets [""] [] where
  single := by decide
  readable := by decide
  settings := rfl

theorem Sets.comment {line : String} (single : '\n' ∉ line.toList)
    (begins : line.toList.head? = some '#') : Sets [line] [] where
  single := by simpa using single
  readable := by simp [readLine_comment begins]
  settings := by simp [setting?, readLine_comment begins]

/-- A line that is read as an assignment sets its pair. -/
theorem Sets.assignment {line key value : String} (single : '\n' ∉ line.toList)
    (reading : readLine line.toList = .assignment key.toList value.toList) :
    Sets [line] [(key, value)] where
  single := by simpa using single
  readable := by simp [reading]
  settings := by simp [(setting?_eq_some_iff line.toList key value).2 reading]

/-- Joined lines that set keys of their own are read without complaint, and what they set is what
is read. -/
theorem Sets.parse_intercalate {lines : List String} {pairs : List (String × String)}
    (sets : Sets lines pairs) (nonempty : lines ≠ []) (distinct : (pairs.map Prod.fst).Nodup)
    (path : String) :
    (parse (String.intercalate "\n" lines) path).diagnostics = [] ∧
      (parse (String.intercalate "\n" lines) path).values = pairs := by
  have lines_eq := Text.lines_toList_intercalate sets.single nonempty
  constructor
  · rw [parse, lines_eq]
    apply diagnostics_addLines_of_nodup
    · rw [List.forall_mem_map]
      exact sets.readable
    · rw [sets.settings]
      exact distinct
  · rw [values_parse, EnvFile.settings, lines_eq, sets.settings]
    exact Dict.toList_ofList_of_nodup distinct

/-! ## Merged files -/

/-- Merging sets the keys that one of the files sets. -/
theorem mem_keys_merge_iff (files : List EnvFile) (key : String) :
    key ∈ (merge files).keys ↔ ∃ file ∈ files, key ∈ file.entries.keys := by
  suffices ∀ known : EntryMap,
      key ∈ (files.foldl (fun merged file => merged.insertAll file.entries.toList) known).keys ↔
        key ∈ known.keys ∨ ∃ file ∈ files, key ∈ file.entries.keys by
    simpa [merge] using this .empty
  induction files with
  | nil => simp
  | cons file rest ih =>
      intro known
      rw [List.foldl_cons, ih, Dict.mem_keys_insertAll, ← Dict.keys, List.exists_mem_cons_iff,
        or_assoc]

end EnvConcord.EnvFile
