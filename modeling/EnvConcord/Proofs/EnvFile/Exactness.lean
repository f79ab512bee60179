import EnvConcord.Proofs.EnvFile.Cleaning
import EnvConcord.Proofs.Text.Sorted

/-!
# When cleaning is exact

Which keys are reported as removed is decided by the lines of a file, and what is taken out
by its bindings.  Cleaning leaves exactly the other entries if lines and bindings agree,
and for all keys only if every line that sets a key lies in a binding of that key.
-/

namespace EnvConcord.EnvFile

/-- Cleaning the first file at its place leaves exactly the entries whose keys are not
reported as removed: the same keys in the same order, with the same values. -/
def CleansExactly (t : Tree) (before : List SpelledPath) (file : SpelledPath)
    (after : List SpelledPath) (old : List Char) (unused : List String) : Prop :=
  ∃ (result : Cleaning) (new : List Char),
    (clean t (before ++ file :: after) unused false).value.1[before.length]? = some result ∧
      (clean t (before ++ file :: after) unused false).value.2.readText file.path = .ok new ∧
      (parse (String.ofList new) file.spelling).values =
        (parse (String.ofList old) file.spelling).values.filter fun pair =>
          !result.removed.contains pair.1

/-- The lines of the kept bindings set the entries that the lines of all bindings set for
keys that are not removed. -/
def KeepsEntries (removed : List String) (cs : List Char) : Prop :=
  Dict.ofList (((bindings cs).filter (isKept removed)).flatMap fun part => settings part.text) =
    Dict.ofList ((settings cs).filter fun pair => !removed.contains pair.1)

/-- Every line that sets a key lies in a binding of that key. -/
def IsAligned (cs : List Char) : Prop :=
  ∀ part ∈ bindings cs, ∀ pair ∈ settings part.text, part.key = some pair.1

instance (cs : List Char) : Decidable (IsAligned cs) :=
  inferInstanceAs
    (Decidable (∀ part ∈ bindings cs, ∀ pair ∈ settings part.text, part.key = some pair.1))

theorem values_withoutKeys_iff (removed : List String) {cs : List Char} (cr : '\r' ∉ cs)
    (path : String) :
    (parse (String.ofList (withoutKeys removed cs)) path).values =
        ((parse (String.ofList cs) path).values.filter fun pair => !removed.contains pair.1) ↔
      KeepsEntries removed cs := by
  have wanted := Dict.filter_toList_ofList (fun key => !removed.contains key) (settings cs)
  rw [values_parse, values_parse, String.toList_ofList, String.toList_ofList, wanted,
    settings_withoutKeys removed cr, KeepsEntries, Dict.ext_iff]

/-- Where all lines of a binding set its key, the lines to be left are all of them or none. -/
theorem filter_settings_text {part : Binding} (removed : List String)
    (lines_key : ∀ pair ∈ settings part.text, part.key = some pair.1) :
    ((settings part.text).filter fun pair => !removed.contains pair.1) =
      if isKept removed part then settings part.text else [] := by
  cases kept : isKept removed part with
  | true =>
      rw [if_pos rfl, List.filter_eq_self]
      intro pair mem
      have stays := (isKept_iff removed part).1 kept pair.1 (lines_key pair mem)
      simp [stays]
  | false =>
      rw [if_neg (by simp), List.filter_eq_nil_iff]
      intro pair mem
      have goes : pair.1 ∈ removed := by
        by_contra stays
        have still : isKept removed part = true := by
          rw [isKept_iff]
          intro key part_key
          obtain rfl : pair.1 = key := Option.some.inj ((lines_key pair mem).symm.trans part_key)
          exact stays
        rw [kept] at still
        contradiction
      simp [goes]

/-- Where lines and bindings agree, the kept bindings set what is to be left. -/
theorem IsAligned.keepsEntries {cs : List Char} (aligned : IsAligned cs) (cr : '\r' ∉ cs)
    (removed : List String) : KeepsEntries removed cs := by
  rw [KeepsEntries, settings_eq_flatMap cr, List.filter_flatMap]
  congr 1
  rw [IsAligned] at aligned
  generalize bindings cs = parts at aligned ⊢
  induction parts with
  | nil => rfl
  | cons part rest ih =>
      have later := ih fun other mem => aligned other (List.mem_cons_of_mem part mem)
      have lines_eq := filter_settings_text removed (aligned part List.mem_cons_self)
      rw [List.flatMap_cons, lines_eq, ← later, List.filter_cons]
      split
      · rw [List.flatMap_cons]
      · rfl

/-- A line in a binding of another key, or of none, stays when its key is removed. -/
theorem isAligned_of_keepsEntries {cs : List Char} (cr : '\r' ∉ cs)
    (keeps : ∀ key, KeepsEntries (setKeys [key] cs) cs) : IsAligned cs := by
  intro part mem pair pair_mem
  by_contra other
  have set : pair ∈ settings cs := by
    rw [settings_eq_flatMap cr]
    exact List.mem_flatMap.2 ⟨part, mem, pair_mem⟩
  have removed_eq : setKeys [pair.1] cs = [pair.1] := by
    have contained : ((settings cs).map Prod.fst).contains pair.1 = true :=
      List.contains_iff_mem.2 (List.mem_map_of_mem set)
    rw [setKeys, List.filter_cons_of_pos contained]
    rfl
  have kept : isKept [pair.1] part = true := by
    rw [isKept_iff]
    rintro key part_key in_removed
    obtain rfl := List.mem_singleton.1 in_removed
    exact other part_key
  have keys_eq := congrArg Dict.keys (keeps pair.1)
  rw [removed_eq] at keys_eq
  have left : pair.1 ∈ (Dict.ofList (((bindings cs).filter (isKept [pair.1])).flatMap
      fun part => settings part.text)).keys := by
    rw [Dict.mem_keys_ofList]
    refine List.mem_map_of_mem (List.mem_flatMap.2 ⟨part, ?_, pair_mem⟩)
    exact List.mem_filter.2 ⟨mem, kept⟩
  rw [keys_eq, Dict.mem_keys_ofList] at left
  rcases List.mem_map.1 left with ⟨again, again_mem, key_eq⟩
  have apart := (List.mem_filter.1 again_mem).2
  simp [key_eq] at apart

section Exactness

variable {t : Tree} {file : SpelledPath} {old : List Char} {before : List SpelledPath}

theorem cr_not_mem_of_readText (readable : t.readText file.path = .ok old) : '\r' ∉ old := by
  rcases (Tree.readText_eq_ok_iff t file.path old).1 readable with ⟨place, -, holds⟩
  exact holds.cr_not_mem

/-- Cleaning is exact for some keys if and only if the kept bindings set what is left to be
set. -/
theorem cleansExactly_iff_keepsEntries (readable : t.readText file.path = .ok old)
    (first : ∀ other ∈ before, t.locate other.path ≠ t.locate file.path)
    (after : List SpelledPath) (unused : List String) :
    CleansExactly t before file after old unused ↔
      KeepsEntries (setKeys (Text.sortDistinct unused) old) old := by
  have cr := cr_not_mem_of_readText readable
  rcases clean_run readable first after unused with ⟨result_eq, text_eq⟩
  rw [← values_withoutKeys_iff _ cr file.spelling, CleansExactly]
  constructor
  · rintro ⟨result, new, result_eq', text_eq', values_eq⟩
    obtain rfl := Option.some.inj (result_eq.symm.trans result_eq')
    obtain rfl := Except.ok.inj (text_eq.symm.trans text_eq')
    exact values_eq
  · intro values_eq
    exact ⟨_, _, result_eq, text_eq, values_eq⟩

end Exactness

/-- Cleaning is exact for given keys if and only if the lines of the kept bindings set the
entries that are to be left.  It is exact for all keys if and only if every line that sets a
key lies in a binding of that key. -/
theorem cleansExactly_iff {t : Tree} {file : SpelledPath} {old : List Char}
    (readable : t.readText file.path = .ok old) {before : List SpelledPath}
    (first : ∀ other ∈ before, t.locate other.path ≠ t.locate file.path)
    (after : List SpelledPath) :
    (∀ unused, CleansExactly t before file after old unused ↔
        KeepsEntries (setKeys (Text.sortDistinct unused) old) old) ∧
      ((∀ unused, CleansExactly t before file after old unused) ↔ IsAligned old) := by
  have for_keys := cleansExactly_iff_keepsEntries readable first after
  have cr := cr_not_mem_of_readText readable
  refine ⟨for_keys, ?_, ?_⟩
  · intro exact_for_all
    apply isAligned_of_keepsEntries cr
    intro key
    have keeps := (for_keys [key]).1 (exact_for_all [key])
    rwa [Text.sortDistinct_singleton] at keeps
  · intro aligned unused
    exact (for_keys unused).2 (aligned.keepsEntries cr _)

/-- A tree with one file. -/
def singleFile (text : String) : Tree where
  nodes := .ofList [([".env"], .file (Text.Utf8.encode text))]

theorem readText_singleFile {text : String} (cr : '\r' ∉ text.toList) :
    (singleFile text).readText (Path.parse ".env") = .ok text.toList := by
  rw [Tree.readText_eq_ok_iff]
  refine ⟨[".env"], rfl, Text.Utf8.encode text, text.toList, rfl, Text.Utf8.decode_encode text,
    Text.unifyBreaks_of_not_mem cr⟩

/-- Cleaning a file whose lines are its bindings is exact for all keys. -/
theorem cleansExactly_plain_lines :
    let text := "USED=1\n# comment\nUNUSED=2\nOTHER=3\n"
    let file := SpelledPath.ofText ".env"
    (singleFile text).readText file.path = .ok text.toList ∧
      (∀ other ∈ ([] : List SpelledPath),
        (singleFile text).locate other.path ≠ (singleFile text).locate file.path) ∧
      ∀ unused, CleansExactly (singleFile text) [] file [] text.toList unused := by
  intro text file
  have readable : (singleFile text).readText file.path = .ok text.toList :=
    readText_singleFile (by decide)
  have first : ∀ other ∈ ([] : List SpelledPath),
      (singleFile text).locate other.path ≠ (singleFile text).locate file.path :=
    List.forall_mem_nil _
  have aligned : IsAligned text.toList := by decide +kernel
  exact ⟨readable, first, (cleansExactly_iff readable first []).2.2 aligned⟩

/-- Where the value of an unused key is quoted over two lines, the second line is lost with
it; where a word stands in front of an unused key, its line stays. -/
theorem not_cleansExactly_quoted_lines :
    let file := SpelledPath.ofText ".env"
    let quoted := "UNUSED=\"x\nA=2\"\nB=3"
    let worded := "A B=1"
    ((singleFile quoted).readText file.path = .ok quoted.toList ∧
      ¬CleansExactly (singleFile quoted) [] file [] quoted.toList ["UNUSED"]) ∧
    ((singleFile worded).readText file.path = .ok worded.toList ∧
      ¬CleansExactly (singleFile worded) [] file [] worded.toList ["A B"]) := by
  intro file quoted worded
  have quoted_readable : (singleFile quoted).readText file.path = .ok quoted.toList :=
    readText_singleFile (by decide)
  have worded_readable : (singleFile worded).readText file.path = .ok worded.toList :=
    readText_singleFile (by decide)
  refine ⟨⟨quoted_readable, ?_⟩, worded_readable, ?_⟩
  · rw [cleansExactly_iff_keepsEntries quoted_readable (List.forall_mem_nil _) [],
      Text.sortDistinct_singleton]
    unfold KeepsEntries
    decide +kernel
  · rw [cleansExactly_iff_keepsEntries worded_readable (List.forall_mem_nil _) [],
      Text.sortDistinct_singleton]
    unfold KeepsEntries
    decide +kernel

end EnvConcord.EnvFile
