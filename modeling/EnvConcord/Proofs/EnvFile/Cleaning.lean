import EnvConcord.EnvFile.Clean
import EnvConcord.Proofs.EnvFile.Removal
import EnvConcord.Proofs.EnvFile.Values

/-!
# Cleaning env files

Cleaning a file changes nothing but its text, from which it takes out the bindings of the
keys that it reports.  Cleaning it again finds nothing more to take out.
-/

namespace EnvConcord.EnvFile

open EnvConcord.Tree

/-! ## One file -/

/-- The keys that a text sets among some keys. -/
def setKeys (keys : List String) (cs : List Char) : List String :=
  keys.filter fun key => ((settings cs).map Prod.fst).contains key

theorem mem_keys_parse_iff (cs : List Char) (path key : String) :
    key ∈ (parse (String.ofList cs) path).entries.keys ↔ key ∈ (settings cs).map Prod.fst := by
  rw [keys_eq_map_values, values_parse, String.toList_ofList]
  exact Dict.mem_keys_ofList _ _

theorem filter_contains_parse (keys : List String) (cs : List Char) (path : String) :
    keys.filter (parse (String.ofList cs) path).entries.contains = setKeys keys cs := by
  apply List.filter_congr
  intro key _
  rw [Bool.eq_iff_iff, Dict.contains_iff_mem_keys, mem_keys_parse_iff, List.contains_iff_mem]

/-- An existing file loses what it sets among the keys. -/
theorem value_cleanFile_of_exists {t : Tree} {file : SpelledPath} (keys : List String)
    (stands : t.exists? file.path = true) :
    let removed := keys.filter (load t (.ofPath file.path)).value.entries.contains
    (cleanFile keys false t file).value =
      ({ path := file.spelling, removed },
        (removed.foldlM (fun t key => removeFrom t file key) t).value) := by
  simp only [cleanFile, stands]
  rfl

/-- A file that sets none of the keys is left alone. -/
theorem snd_cleanFile_of_nil {t : Tree} {file : SpelledPath} {keys : List String}
    (silent : keys.filter (load t (.ofPath file.path)).value.entries.contains = []) :
    (cleanFile keys false t file).value.2 = t := by
  cases stands : t.exists? file.path with
  | false =>
      simp only [cleanFile, stands]
      rfl
  | true =>
      rw [value_cleanFile_of_exists keys stands, silent]
      rfl

section OneFile

variable {t : Tree} {file : SpelledPath} {place : List String} {cs : List Char}

theorem value_removeFrom (located : t.locate file.path = .ok place) (holds : t.HoldsText place cs)
    (key : String) :
    (removeFrom t file key).value =
      t.put place (Text.Utf8.encode (String.ofList (removeKey key cs).2)) := by
  have read := (readText_eq_ok_iff t file.path cs).2 ⟨place, located, holds⟩
  have written := holds.writeText_eq located (String.ofList (removeKey key cs).2)
  simp only [removeFrom, read]
  cases found : (removeKey key cs).1 <;> simp [written] <;> rfl

/-- Removing keys from a file leaves its text without their bindings, and all else as it
was. -/
theorem removeFrom_run (located : t.locate file.path = .ok place) (holds : t.HoldsText place cs)
    (removed : List String) :
    (removed.foldlM (fun t key => removeFrom t file key) t).value.HoldsText place
        (withoutKeys removed cs) ∧
      ChangedAt file.path t (removed.foldlM (fun t key => removeFrom t file key) t).value := by
  rw [Logged.value_foldlM]
  induction removed generalizing t cs with
  | nil =>
      rw [withoutKeys_nil]
      exact ⟨holds, .refl file.path t⟩
  | cons key removed ih =>
      rw [List.foldl_cons, value_removeFrom located holds key,
        ← withoutKeys_removeKey holds.cr_not_mem]
      have left_cr : '\r' ∉ (String.ofList (removeKey key cs).2).toList := by
        rw [String.toList_ofList, snd_removeKey]
        exact fun mem => holds.cr_not_mem (mem_of_mem_joinKept mem)
      have step_holds := holds.holdsText_put left_cr
      rw [String.toList_ofList] at step_holds
      have step_changed := holds.changedAt_put located
        (Text.Utf8.encode (String.ofList (removeKey key cs).2))
      have step_located := (step_changed.shape.locate_eq file.path).trans located
      rcases ih step_located step_holds with ⟨run_holds, run_changed⟩
      exact ⟨run_holds, step_changed.trans run_changed⟩

/-- Cleaning a file with a text reports the keys that the text sets and takes out their
bindings. -/
theorem cleanFile_run (located : t.locate file.path = .ok place) (holds : t.HoldsText place cs)
    (keys : List String) :
    ∃ u, (cleanFile keys false t file).value =
        ({ path := file.spelling, removed := setKeys keys cs }, u) ∧
      u.HoldsText place (withoutKeys (setKeys keys cs) cs) ∧ ChangedAt file.path t u := by
  have read := (readText_eq_ok_iff t file.path cs).2 ⟨place, located, holds⟩
  refine ⟨((setKeys keys cs).foldlM (fun t key => removeFrom t file key) t).value, ?_,
    removeFrom_run located holds _⟩
  rw [value_cleanFile_of_exists keys (exists?_of_readText read),
    value_load_of_ok t file.path read, filter_contains_parse]

end OneFile

/-- Cleaning a file changes at most its text. -/
theorem changedAt_cleanFile (keys : List String) (t : Tree) (file : SpelledPath) :
    ChangedAt file.path t (cleanFile keys false t file).value.2 := by
  cases read : t.readText file.path with
  | ok cs =>
      rcases (readText_eq_ok_iff t file.path cs).1 read with ⟨place, located, holds⟩
      rcases cleanFile_run located holds keys with ⟨u, run, -, changed⟩
      rwa [run]
  | error fault =>
      have silent : keys.filter (load t (.ofPath file.path)).value.entries.contains = [] := by
        rw [entries_load_of_error t file.path read]
        simp [Dict.contains]
      rw [snd_cleanFile_of_nil silent]
      exact .refl file.path t

/-- A place where cleaning a file changes something is that of the file, which sets one of the
keys. -/
theorem at?_cleanFile_cases (keys : List String) (t : Tree) (file : SpelledPath)
    (place : List String) :
    (cleanFile keys false t file).value.2.at? place = t.at? place ∨
      t.locate file.path = .ok place ∧
        ∃ key ∈ keys, ∃ value, valueIn t file.path key = some value := by
  by_cases located : t.locate file.path = .ok place
  · cases removed : keys.filter (load t (.ofPath file.path)).value.entries.contains with
    | nil => exact Or.inl (congrArg (fun u => u.at? place) (snd_cleanFile_of_nil removed))
    | cons key rest =>
        have mem : key ∈ keys.filter (load t (.ofPath file.path)).value.entries.contains := by
          rw [removed]
          exact List.mem_cons_self
        obtain ⟨asked, set⟩ := List.mem_filter.1 mem
        rw [Dict.contains_iff_mem_keys, mem_keys_load_iff] at set
        exact Or.inr ⟨located, key, asked, set⟩
  · exact Or.inl ((changedAt_cleanFile keys t file).frame place located)

/-! ## Several files -/

theorem value_cleanFrom_cons (keys : List String) (t : Tree) (file : SpelledPath)
    (rest : List SpelledPath) :
    (cleanFrom keys false (file :: rest) t).value =
      ((cleanFile keys false t file).value.1 ::
          (cleanFrom keys false rest (cleanFile keys false t file).value.2).value.1,
        (cleanFrom keys false rest (cleanFile keys false t file).value.2).value.2) := rfl

/-- What files set depends on what stands at their places only. -/
theorem valueIn_congr {t u : Tree} {p : Path} {place : List String} (shape : SameShape t u)
    (located : t.locate p = .ok place) (same : u.at? place = t.at? place) (key : String) :
    valueIn u p key = valueIn t p key := by
  rw [valueIn, valueIn, shape.readText_eq located same]

/-- Places where cleaning files changes something are those of files that set one of the keys. -/
theorem cleanFrom_frame (keys : List String) (t : Tree) (files : List SpelledPath) :
    SameShape t (cleanFrom keys false files t).value.2 ∧
      ∀ place, (cleanFrom keys false files t).value.2.at? place = t.at? place ∨
        ∃ file ∈ files, t.locate file.path = .ok place ∧
          ∃ key ∈ keys, ∃ value, valueIn t file.path key = some value := by
  induction files generalizing t with
  | nil => exact ⟨.refl t, fun _ => Or.inl rfl⟩
  | cons file rest ih =>
      have changed := changedAt_cleanFile keys t file
      obtain ⟨later_shape, later_frame⟩ := ih (cleanFile keys false t file).value.2
      rw [value_cleanFrom_cons]
      refine ⟨changed.shape.trans later_shape, fun place => ?_⟩
      rcases at?_cleanFile_cases keys t file place with same | ⟨located, sets⟩
      · -- the later files are read as they were before this one was cleaned
        rcases later_frame place with later_same | ⟨other, mem, located, key, asked, value, set⟩
        · exact Or.inl (later_same.trans same)
        · rw [changed.shape.locate_eq] at located
          rw [valueIn_congr changed.shape located same] at set
          exact Or.inr ⟨other, List.mem_cons_of_mem file mem, located, key, asked, value, set⟩
      · exact Or.inr ⟨file, List.mem_cons_self, located, sets⟩

/-- Cleaning other files leaves the text at a place alone. -/
theorem cleanFrom_elsewhere (keys : List String) {t : Tree} {files : List SpelledPath}
    {place : List String} {cs : List Char}
    (elsewhere : ∀ file ∈ files, t.locate file.path ≠ .ok place) (holds : t.HoldsText place cs) :
    (cleanFrom keys false files t).value.1.length = files.length ∧
      (cleanFrom keys false files t).value.2.HoldsText place cs ∧
      SameShape t (cleanFrom keys false files t).value.2 := by
  induction files generalizing t with
  | nil => exact ⟨rfl, holds, .refl t⟩
  | cons file rest ih =>
      have changed := changedAt_cleanFile keys t file
      have later_elsewhere : ∀ other ∈ rest,
          (cleanFile keys false t file).value.2.locate other.path ≠ .ok place := by
        intro other mem
        rw [changed.shape.locate_eq]
        exact elsewhere other (List.mem_cons_of_mem file mem)
      obtain ⟨length_eq, later_holds, later_shape⟩ := ih later_elsewhere
        (changed.holdsText (elsewhere file List.mem_cons_self) holds)
      rw [value_cleanFrom_cons]
      exact ⟨by simp [length_eq], later_holds, changed.shape.trans later_shape⟩

/-- A text from which cleaning takes nothing out keeps standing, whatever is cleaned. -/
theorem cleanFrom_settled (keys : List String) {t : Tree} (files : List SpelledPath)
    {place : List String} {cs : List Char} (settled : withoutKeys (setKeys keys cs) cs = cs)
    (holds : t.HoldsText place cs) :
    (cleanFrom keys false files t).value.2.HoldsText place cs ∧
      SameShape t (cleanFrom keys false files t).value.2 := by
  induction files generalizing t with
  | nil => exact ⟨holds, .refl t⟩
  | cons file rest ih =>
      have changed := changedAt_cleanFile keys t file
      have step_holds : (cleanFile keys false t file).value.2.HoldsText place cs := by
        by_cases located : t.locate file.path = .ok place
        · rcases cleanFile_run located holds keys with ⟨u, run, left_holds, -⟩
          rw [run]
          rwa [settled] at left_holds
        · exact changed.holdsText located holds
      rcases ih step_holds with ⟨later_holds, later_shape⟩
      rw [value_cleanFrom_cons]
      exact ⟨later_holds, changed.shape.trans later_shape⟩

theorem cleanFrom_append (keys : List String) (t : Tree) (first second : List SpelledPath) :
    (cleanFrom keys false (first ++ second) t).value =
      ((cleanFrom keys false first t).value.1 ++
          (cleanFrom keys false second (cleanFrom keys false first t).value.2).value.1,
        (cleanFrom keys false second (cleanFrom keys false first t).value.2).value.2) := by
  induction first generalizing t with
  | nil => rfl
  | cons file rest ih =>
      rw [List.cons_append, value_cleanFrom_cons, ih, value_cleanFrom_cons]
      rfl

/-- A cleaned text is left alone by cleaning it again. -/
theorem withoutKeys_setKeys_withoutKeys (keys : List String) {cs : List Char} (cr : '\r' ∉ cs) :
    withoutKeys (setKeys keys (withoutKeys (setKeys keys cs) cs))
        (withoutKeys (setKeys keys cs) cs) =
      withoutKeys (setKeys keys cs) cs := by
  have fewer : ∀ key ∈ setKeys keys (withoutKeys (setKeys keys cs) cs), key ∈ setKeys keys cs := by
    intro key mem
    rcases List.mem_filter.1 mem with ⟨asked, set_after⟩
    rw [List.contains_iff_mem] at set_after
    rcases List.mem_map.1 set_after with ⟨pair, pair_mem, rfl⟩
    refine List.mem_filter.2 ⟨asked, ?_⟩
    rw [List.contains_iff_mem]
    exact List.mem_map_of_mem (mem_settings_of_mem_settings_withoutKeys cr pair_mem)
  rw [withoutKeys_withoutKeys cr fewer]

/-- After cleaning files, the first of them at its place is reported with the keys that
its text set, and its text has lost their bindings. -/
theorem clean_run {t : Tree} {file : SpelledPath} {old : List Char}
    (readable : t.readText file.path = .ok old) {before : List SpelledPath}
    (first : ∀ other ∈ before, t.locate other.path ≠ t.locate file.path)
    (after : List SpelledPath) (unused : List String) :
    let removed := setKeys (Text.sortDistinct unused) old
    let outcome := (clean t (before ++ file :: after) unused false).value
    outcome.1[before.length]? = some { path := file.spelling, removed } ∧
      outcome.2.readText file.path = .ok (withoutKeys removed old) := by
  intro removed outcome
  rcases (readText_eq_ok_iff t file.path old).1 readable with ⟨place, located, holds⟩
  have elsewhere : ∀ other ∈ before, t.locate other.path ≠ .ok place := by
    intro other mem
    rw [← located]
    exact first other mem
  obtain ⟨length_eq, before_holds, before_shape⟩ :=
    cleanFrom_elsewhere (Text.sortDistinct unused) elsewhere holds
  have before_located := (before_shape.locate_eq file.path).trans located
  obtain ⟨u, run, run_holds, run_changed⟩ :=
    cleanFile_run before_located before_holds (Text.sortDistinct unused)
  obtain ⟨after_holds, after_shape⟩ := cleanFrom_settled (Text.sortDistinct unused) after
    (withoutKeys_setKeys_withoutKeys _ holds.cr_not_mem) run_holds
  have outcome_eq : outcome =
      ((cleanFrom (Text.sortDistinct unused) false before t).value.1 ++
          { path := file.spelling, removed } ::
            (cleanFrom (Text.sortDistinct unused) false after u).value.1,
        (cleanFrom (Text.sortDistinct unused) false after u).value.2) := by
    simp only [outcome, clean, cleanFrom_append, value_cleanFrom_cons, run]
    rfl
  rw [outcome_eq]
  constructor
  · rw [← length_eq, List.getElem?_append_right le_rfl, Nat.sub_self]
    rfl
  · rw [readText_eq_ok_iff]
    refine ⟨place, ?_, after_holds⟩
    rw [after_shape.locate_eq, run_changed.shape.locate_eq, before_located]

end EnvConcord.EnvFile
