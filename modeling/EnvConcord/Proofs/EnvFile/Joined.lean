import EnvConcord.Proofs.EnvFile.Reading

/-!
# Joined texts and merged files

Several env files say together what one file says that holds their texts, one behind the other
with line breaks between them.  Only the places of the entries tell the difference.
-/

namespace EnvConcord.EnvFile

/-! ## Joined texts -/

/-- Joined texts set what each of them sets, one after the other. -/
theorem settings_intercalate (texts : List (List Char)) :
    settings (['\n'].intercalate texts) = texts.flatMap settings := by
  induction texts with
  | nil => rfl
  | cons text rest ih =>
      cases rest with
      | nil => simp
      | cons next others =>
          have joined : ['\n'].intercalate (text :: next :: others) =
              text ++ '\n' :: ['\n'].intercalate (next :: others) := by
            simp [List.intercalate_cons_cons]
          rw [joined, settings_append_break, ih]
          rfl

/-! ## Entries without their places -/

/-- An entry as it would be without a line of its own. -/
def placeless (entry : Entry) : Entry := { entry with line := 0 }

/-- The entries of a file under their keys, without their places. -/
def placelessEntries (entries : EntryMap) : List (String × Entry) :=
  entries.toList.map (Prod.map id placeless)

/-- The entry of a pair that is set, without a place. -/
def placelessPair (pair : String × String) : String × Entry :=
  (pair.1, .ofValue pair.1 pair.2 0)

theorem map_placeless_entriesFrom (number : Nat) (lines : List (List Char)) :
    (entriesFrom number lines).map (Prod.map id placeless) =
      (lines.filterMap setting?).map placelessPair := by
  rw [← map_value_entriesFrom number lines, List.map_map]
  apply List.map_congr_left
  intro pair mem
  obtain ⟨-, -, place, -, entry_eq⟩ := exists_of_mem_entriesFrom mem
  rw [Function.comp_apply, Prod.map, entry_eq]
  rfl

/-- Pairs that are inserted give the entries that they set, wherever they stand. -/
theorem placelessEntries_ofList (pairs : List (String × Entry)) :
    placelessEntries (.ofList pairs) =
      (Dict.ofList (pairs.map (Prod.map id placeless))).toList :=
  Dict.map_toList_ofList placeless pairs

theorem placelessEntries_parse (text path : String) :
    placelessEntries (parse text path).entries =
      (Dict.ofList ((settings text.toList).map placelessPair)).toList := by
  rw [settings, ← map_placeless_entriesFrom 1, ← placelessEntries_ofList, parse, entries_addLines]
  rfl

/-! ## Merged files -/

/-- Files are merged by inserting what the lines of the one set, and then those of the next. -/
theorem merge_map_parse (sources : List (String × String)) :
    merge (sources.map fun source => parse source.2 source.1) =
      .ofList (sources.flatMap fun source => entriesFrom 1 (Text.lines source.2.toList)) := by
  suffices ∀ known : EntryMap,
      (sources.map fun source => parse source.2 source.1).foldl
          (fun merged file => merged.insertAll file.entries.toList) known =
        known.insertAll
          (sources.flatMap fun source => entriesFrom 1 (Text.lines source.2.toList)) from
    this .empty
  induction sources with
  | nil => exact fun known => rfl
  | cons source rest ih =>
      intro known
      have entries_eq : (parse source.2 source.1).entries =
          .ofList (entriesFrom 1 (Text.lines source.2.toList)) := entries_addLines _ _ _
      rw [List.map_cons, List.foldl_cons, ih, entries_eq, Dict.insertAll_toList_ofList,
        List.flatMap_cons, Dict.insertAll_append]

/-- Merging env files is reading their joined texts: the keys come in the same order, with the
same values. -/
theorem merge_parse (sources : List (String × String)) (path : String) :
    placelessEntries (merge (sources.map fun source => parse source.2 source.1)) =
      placelessEntries
        (parse (String.intercalate "\n" (sources.map Prod.snd)) path).entries := by
  have joined : settings (String.intercalate "\n" (sources.map Prod.snd)).toList =
      sources.flatMap fun source => settings source.2.toList := by
    rw [String.toList_intercalate]
    refine (settings_intercalate _).trans ?_
    rw [List.map_map, List.flatMap_map]
    rfl
  rw [placelessEntries_parse, joined, merge_map_parse, placelessEntries_ofList, List.map_flatMap,
    List.map_flatMap]
  simp only [map_placeless_entriesFrom, settings]

end EnvConcord.EnvFile
