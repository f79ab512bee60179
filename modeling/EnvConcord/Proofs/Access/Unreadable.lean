import EnvConcord.Access.Files
import EnvConcord.Proofs.Collection.Traversal

/-!
# Files without text

A scan of given files returns unless one of the paths holds a null character.  It keeps
three accounts: the keys and the spellings of the files that have a text, and an entry for
each of the others.  A file without text stands in the last account only, so it may be put
anywhere among the files.
-/

namespace EnvConcord.Access

/-- Whether a file has a text. -/
def isReadable (t : Tree) (file : SpelledPath) : Bool := (t.readText file.path).toBool

/-- The keys are those of a file's text, in the dialect of its own suffix. -/
def KeysOf (t : Tree) (r : Registry) (file : SpelledPath) (keys : List CodeKey) : Prop :=
  ∃ cs, t.readText file.path = .ok cs ∧
    keys = scan (r.forPath file.path.render) file.path.render (String.ofList cs)

/-- The entry is about a file without text and says why it has none. -/
def IsAbout (t : Tree) (file : SpelledPath) (entry : Unscanned) : Prop :=
  ∃ fault, t.readText file.path = .error fault ∧ entry.file = file.path.render ∧
    entry.message = "Failed to read file: " ++ fault.message

/-- The outcome of a scan passes over the files without text: the keys are merged from the
scans of the others in order, the files are these others, and for each file without text
there is one entry, in order. -/
structure PassesOver (t : Tree) (r : Registry) (given : List SpelledPath)
    (outcome : ScanOutcome) : Prop where
  keys : ∃ scans, List.Forall₂ (KeysOf t r) (given.filter (isReadable t)) scans ∧
    outcome.keys = CodeKey.merge scans
  files : outcome.files = (given.filter (isReadable t)).map SpelledPath.spelling
  unscanned : List.Forall₂ (IsAbout t) (given.filter fun file => !isReadable t file)
    outcome.unscanned

/-- Files without text are put in among others. -/
inductive PutsIn (t : Tree) : List SpelledPath → List SpelledPath → Prop
  | nil : PutsIn t [] []
  | keep (file : SpelledPath) {given more : List SpelledPath} (rest : PutsIn t given more) :
      PutsIn t (file :: given) (file :: more)
  | unreadable {file : SpelledPath} (no_text : isReadable t file = false)
      {given more : List SpelledPath} (rest : PutsIn t given more) :
      PutsIn t given (file :: more)

variable (t : Tree) (r : Registry)

/-! ## One file -/

/-- What a scan finds in a file, with the file's spelling. -/
def found (file : SpelledPath) : String × Except Unscanned (List CodeKey) :=
  (file.spelling, (scanFile t r file.path).value)

theorem value_scanGivenFile (file : SpelledPath) :
    (scanGivenFile t r file).outcome.value =
      if file.path.holdsNull then .error .nullCharacter else .ok (found t r file) := by
  unfold scanGivenFile
  cases file.path.holdsNull <;> rfl

theorem found_of_readable {file : SpelledPath} (readable : isReadable t file = true) :
    ∃ keys, (found t r file).2 = .ok keys ∧ KeysOf t r file keys := by
  unfold isReadable at readable
  unfold found scanFile
  cases text : t.readText file.path with
  | ok cs => exact ⟨_, rfl, cs, text, rfl⟩
  | error fault => simp [text, Except.toBool] at readable

theorem found_of_unreadable {file : SpelledPath} (no_text : isReadable t file = false) :
    ∃ entry, (found t r file).2 = .error entry ∧ IsAbout t file entry := by
  unfold isReadable at no_text
  unfold found scanFile
  cases text : t.readText file.path with
  | ok cs => simp [text, Except.toBool] at no_text
  | error fault => exact ⟨_, rfl, fault, text, rfl, rfl⟩

theorem toBool_found (file : SpelledPath) : (found t r file).2.toBool = isReadable t file := by
  cases readable : isReadable t file with
  | true =>
      obtain ⟨keys, scanned, -⟩ := found_of_readable t r readable
      rw [scanned]
      rfl
  | false =>
      obtain ⟨entry, failed, -⟩ := found_of_unreadable t r readable
      rw [failed]
      rfl

/-! ## All files -/

/-- Each file goes into the accounts that it belongs to, in order. -/
theorem passesOver_ofResults (given : List SpelledPath) :
    PassesOver t r given (.ofResults (given.map (found t r))) := by
  refine ⟨⟨_, ?_, rfl⟩, ?_, ?_⟩
  · rw [List.filterMap_map]
    apply Collection.forall₂_filter_filterMap
    · intro file readable
      obtain ⟨keys, scanned, own⟩ := found_of_readable t r readable
      exact ⟨keys, by simp [scanned, Except.toOption], own⟩
    · intro file no_text
      obtain ⟨entry, failed, -⟩ := found_of_unreadable t r no_text
      simp [failed, Except.toOption]
  · simp only [ScanOutcome.ofResults, List.filter_map, List.map_map, Function.comp_def,
      toBool_found]
    rfl
  · simp only [ScanOutcome.ofResults, List.filterMap_map]
    apply Collection.forall₂_filter_filterMap
    · intro file kept
      obtain ⟨entry, failed, own⟩ := found_of_unreadable t r (by simpa using kept)
      exact ⟨entry, by simp [failed], own⟩
    · intro file left_out
      obtain ⟨keys, scanned, -⟩ := found_of_readable t r (by simpa using left_out)
      simp [scanned]

/-- A scan of given files returns unless a path holds a null character. -/
theorem value_scanGiven (given : List SpelledPath) :
    (scanGiven t r given).outcome.value =
      if given.any fun file => file.path.holdsNull then .error .nullCharacter
      else .ok (.ofResults (given.map (found t r))) := by
  have traversal : (given.mapM (scanGivenFile t r)).outcome.value =
      if given.any fun file => file.path.holdsNull then .error .nullCharacter
      else .ok (given.map (found t r)) := by
    rw [Attempt.value_mapM]
    induction given with
    | nil => rfl
    | cons file rest ih =>
        rw [List.mapM_cons, value_scanGivenFile, ih, List.any_cons]
        cases file.path.holdsNull with
        | true => rfl
        | false => cases rest.any fun file => file.path.holdsNull <;> rfl
  rw [scanGiven, Attempt.value_bind, traversal]
  split <;> rfl

variable {t r}

theorem value_scanGiven_eq_ok_iff {given : List SpelledPath} {outcome : ScanOutcome} :
    (scanGiven t r given).outcome.value = .ok outcome ↔
      (∀ file ∈ given, file.path.holdsNull = false) ∧
        .ofResults (given.map (found t r)) = outcome := by
  have no_null_iff : (∀ file ∈ given, file.path.holdsNull = false) ↔
      (given.any fun file => file.path.holdsNull) = false := by simp
  rw [value_scanGiven, no_null_iff]
  cases given.any fun file => file.path.holdsNull <;> simp

/-! ## Files put in -/

/-- Files without text that are put in leave the files with a text as they are. -/
theorem PutsIn.filter_eq {given more : List SpelledPath} (put : PutsIn t given more) :
    more.filter (isReadable t) = given.filter (isReadable t) := by
  induction put with
  | nil => rfl
  | keep file _ ih => rw [List.filter_cons, List.filter_cons, ih]
  | unreadable no_text _ ih => rw [List.filter_cons_of_neg (by simp [no_text]), ih]

theorem PutsIn.subset {given more : List SpelledPath} (put : PutsIn t given more) :
    given ⊆ more := by
  induction put with
  | nil => exact List.Subset.refl _
  | keep file _ ih => exact List.cons_subset_cons _ ih
  | unreadable _ _ ih => exact List.subset_cons_of_subset _ ih

theorem KeysOf.unique {file : SpelledPath} {keys others : List CodeKey}
    (first : KeysOf t r file keys) (second : KeysOf t r file others) : keys = others := by
  obtain ⟨cs, text, rfl⟩ := first
  obtain ⟨ds, same_text, rfl⟩ := second
  rw [text, Except.ok.injEq] at same_text
  rw [same_text]

/-- Outcomes for the same files with a text differ in their entries for others only. -/
theorem PassesOver.eq_of_filter_eq {given more : List SpelledPath} {first second : ScanOutcome}
    (passes : PassesOver t r given first) (more_passes : PassesOver t r more second)
    (same : more.filter (isReadable t) = given.filter (isReadable t)) :
    second = { first with unscanned := second.unscanned } := by
  obtain ⟨scans, scanned, keys_eq⟩ := passes.keys
  obtain ⟨others, others_scanned, others_eq⟩ := more_passes.keys
  rw [same] at others_scanned
  have scans_eq : scans = others :=
    List.right_unique_forall₂' (fun _ _ _ first second => first.unique second) scanned
      others_scanned
  have files_eq : second.files = first.files := by rw [more_passes.files, same, passes.files]
  cases second
  simp_all

/-! ## Scans of given files -/

/-- A scan of given files returns exactly if no path holds a null character.  It passes over
the files without text, and where such files are put in, only its entries for them are new. -/
theorem scanGiven_passesOver (t : Tree) (r : Registry) (given : List SpelledPath) :
    ((∃ outcome, (scanGiven t r given).outcome.value = .ok outcome) ↔
        ∀ file ∈ given, file.path.holdsNull = false) ∧
      (∀ outcome, (scanGiven t r given).outcome.value = .ok outcome →
        PassesOver t r given outcome) ∧
      ∀ more outcome, PutsIn t given more → (scanGiven t r more).outcome.value = .ok outcome →
        ∃ unscanned, (scanGiven t r given).outcome.value = .ok { outcome with unscanned } := by
  refine ⟨?_, ?_, ?_⟩
  · simp only [value_scanGiven_eq_ok_iff, exists_and_left, exists_eq', and_true]
  · intro outcome returned
    rw [← (value_scanGiven_eq_ok_iff.1 returned).2]
    exact passesOver_ofResults t r given
  · intro more outcome put returned
    obtain ⟨no_null, rfl⟩ := value_scanGiven_eq_ok_iff.1 returned
    refine ⟨(ScanOutcome.ofResults (given.map (found t r))).unscanned, ?_⟩
    rw [value_scanGiven_eq_ok_iff]
    refine ⟨fun file mem => no_null file (put.subset mem), ?_⟩
    exact (passesOver_ofResults t r more).eq_of_filter_eq (passesOver_ofResults t r given)
      put.filter_eq.symm

/-- Sources next to a directory and a file that is not text. -/
def mixedSources : Tree where
  nodes := .ofList [(["good.js"], .file (Text.Utf8.encode "process.env.GOOD")),
    (["bad.js"], .file [0x61, 0xff]), (["lib.js"], .directory)]

theorem scanGiven_passesOver_mixedSources :
    ∃ outcome unscanned,
      let more := ["bad.js", "good.js", "lib.js", "gone.js"].map SpelledPath.ofText
      (scanGiven mixedSources .standard more).outcome.value = .ok outcome ∧
        PassesOver mixedSources .standard more outcome ∧
        PutsIn mixedSources [.ofText "good.js"] more ∧
        (scanGiven mixedSources .standard [.ofText "good.js"]).outcome.value =
          .ok { outcome with unscanned } := by
  have put : PutsIn mixedSources [.ofText "good.js"]
      (["bad.js", "good.js", "lib.js", "gone.js"].map SpelledPath.ofText) := by
    apply PutsIn.unreadable (by decide +kernel)
    apply PutsIn.keep
    apply PutsIn.unreadable (by decide +kernel)
    exact PutsIn.unreadable (by decide +kernel) .nil
  obtain ⟨returns_iff, passes, -⟩ := scanGiven_passesOver mixedSources .standard
    (["bad.js", "good.js", "lib.js", "gone.js"].map SpelledPath.ofText)
  obtain ⟨outcome, returned⟩ := returns_iff.2 (by decide +kernel)
  obtain ⟨-, -, unmoved⟩ := scanGiven_passesOver mixedSources .standard [.ofText "good.js"]
  obtain ⟨unscanned, without⟩ := unmoved _ outcome put returned
  exact ⟨outcome, unscanned, returned, passes outcome returned, put, without⟩

/-- A null character in a path stops the scan of all files. -/
theorem scanGiven_stopped_by_nullCharacter :
    ¬∃ outcome, (scanGiven mixedSources .standard
      [.ofText "good.js", .ofText "a\x00.js"]).outcome.value = .ok outcome := by
  rintro ⟨outcome, returned⟩
  have no_null := (value_scanGiven_eq_ok_iff.1 returned).1 (.ofText "a\x00.js") (by simp)
  exact absurd no_null (by decide +kernel)

end EnvConcord.Access
