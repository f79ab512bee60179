import EnvConcord.Proofs.EnvFile.Cleaning
import EnvConcord.Proofs.Text.Sorted

/-!
# Dry runs

A dry run tells what cleaning would remove and leaves the tree as it is.  Cleaning one file
changes nothing that other paths lead to, so every file is read as the dry run reads it,
unless a path before it leads to the same file.
-/

namespace EnvConcord

namespace Tree

/-! ## Paths to other files -/

/-- Whether two paths lead to one file. -/
def SameFile (t : Tree) (p q : Path) : Prop := t.isFile p = true ∧ t.locate p = t.locate q

instance (t : Tree) (p q : Path) : Decidable (t.SameFile p q) :=
  inferInstanceAs (Decidable (_ ∧ _))

section Shape

variable {t u : Tree} (same : SameShape t u)

include same in
/-- Where no file stands, trees of one shape hold the same. -/
theorem SameShape.at?_eq_of_no_file {place : List String}
    (no_file : ∀ content, t.at? place ≠ some (.file content)) : u.at? place = t.at? place := by
  have kind := same.kind_eq place
  cases there : t.at? place with
  | none => rwa [there, Option.map_none, Option.map_eq_none_iff] at kind
  | some node =>
      cases node with
      | file content => exact absurd there (no_file content)
      | directory =>
          rw [there, Option.map_some, Option.map_eq_some_iff] at kind
          obtain ⟨other, other_there, kind⟩ := kind
          cases other with
          | file content => contradiction
          | directory => exact other_there

include same in
theorem SameShape.map_node?_eq (p : Path) :
    (u.node? p).map isFileNode = (t.node? p).map isFileNode := by
  rw [node?, node?, same.locate_eq]
  cases t.locate p with
  | error fault => rfl
  | ok place => exact same.kind_eq place

include same in
theorem SameShape.exists?_eq (p : Path) : u.exists? p = t.exists? p := by
  have kind := congrArg Option.isSome (same.map_node?_eq p)
  rwa [Option.isSome_map, Option.isSome_map] at kind

theorem isFile_eq (t : Tree) (p : Path) : t.isFile p = ((t.node? p).map isFileNode).getD false := by
  rw [isFile]
  cases t.node? p with
  | none => rfl
  | some node => cases node <;> rfl

include same in
theorem SameShape.sameFile_iff (p q : Path) : u.SameFile p q ↔ t.SameFile p q := by
  rw [SameFile, SameFile, isFile_eq, isFile_eq, same.map_node?_eq, same.locate_eq, same.locate_eq]

end Shape

/-- Changes at one path leave the texts of other files alone. -/
theorem ChangedAt.readText_eq {p q : Path} {t u : Tree} (changed : ChangedAt p t u)
    (apart : ¬t.SameFile p q) : u.readText q = t.readText q := by
  cases located : t.locate q with
  | error fault =>
      have still := changed.shape.locate_eq q
      rw [located] at still
      simp only [readText, read, located, still]
      rfl
  | ok place =>
      apply changed.shape.readText_eq located
      by_cases own : t.locate p = .ok place
      · apply changed.shape.at?_eq_of_no_file
        intro content there
        have stands : t.isFile p = true := by simp [isFile, node?, own, there]
        exact apart ⟨stands, own.trans located.symm⟩
      · exact changed.frame place own

end Tree

namespace EnvFile

open EnvConcord.Tree

/-! ## One file -/

/-- What cleaning a file reports, as the file stands. -/
def foreseen (t : Tree) (keys : List String) (file : SpelledPath) : Cleaning where
  path := file.spelling
  removed := keys.filter (load t (.ofPath file.path)).value.entries.contains
  skipped := !t.exists? file.path

/-- Cleaning a file reports what is foreseen, whether the file is written or not. -/
theorem fst_cleanFile (keys : List String) (dryRun : Bool) (t : Tree) (file : SpelledPath) :
    (cleanFile keys dryRun t file).value.1 = foreseen t keys file := by
  cases stands : t.exists? file.path with
  | true =>
      simp only [cleanFile, foreseen, stands]
      cases dryRun <;> rfl
  | false =>
      have nothing : keys.filter (load t (.ofPath file.path)).value.entries.contains = [] := by
        simp only [load, SpelledPath.ofPath, stands]
        rw [List.filter_eq_nil_iff]
        exact fun key _ => Bool.false_ne_true
      simp only [cleanFile, foreseen, stands, nothing]
      rfl

theorem snd_cleanFile_dryRun (keys : List String) (t : Tree) (file : SpelledPath) :
    (cleanFile keys true t file).value.2 = t := by
  rw [cleanFile]
  cases t.exists? file.path <;> rfl

/-- What is foreseen of a file does not change when another file does. -/
theorem foreseen_eq_of_changedAt {t u : Tree} {p : Path} (changed : ChangedAt p t u)
    {file : SpelledPath} (apart : ¬t.SameFile p file.path) (keys : List String) :
    foreseen u keys file = foreseen t keys file := by
  have loaded_eq : (load u (.ofPath file.path)).value = (load t (.ofPath file.path)).value := by
    simp only [load, SpelledPath.ofPath, changed.shape.exists?_eq, changed.readText_eq apart]
    rfl
  rw [foreseen, foreseen, loaded_eq, changed.shape.exists?_eq]

/-! ## Several files -/

theorem value_cleanFrom_dryRun (keys : List String) (t : Tree) (files : List SpelledPath) :
    (cleanFrom keys true files t).value = (files.map (foreseen t keys), t) := by
  induction files with
  | nil => rfl
  | cons file rest ih =>
      have step : (cleanFrom keys true (file :: rest) t).value =
          ((cleanFile keys true t file).value.1 ::
              (cleanFrom keys true rest (cleanFile keys true t file).value.2).value.1,
            (cleanFrom keys true rest (cleanFile keys true t file).value.2).value.2) := rfl
      rw [step, snd_cleanFile_dryRun, fst_cleanFile, ih]
      rfl

/-- Cleaning different files reports what is foreseen of each of them before any is cleaned. -/
theorem fst_cleanFrom (keys : List String) {t : Tree} {files : List SpelledPath}
    (apart : files.Pairwise fun file other => ¬t.SameFile file.path other.path) :
    (cleanFrom keys false files t).value.1 = files.map (foreseen t keys) := by
  induction files generalizing t with
  | nil => rfl
  | cons file rest ih =>
      obtain ⟨file_apart, rest_apart⟩ := List.pairwise_cons.1 apart
      have changed := changedAt_cleanFile keys t file
      have still_apart : rest.Pairwise fun other later =>
          ¬(cleanFile keys false t file).value.2.SameFile other.path later.path := by
        simpa only [changed.shape.sameFile_iff] using rest_apart
      have later_eq : rest.map (foreseen (cleanFile keys false t file).value.2 keys) =
          rest.map (foreseen t keys) := by
        apply List.map_congr_left
        intro other mem
        exact foreseen_eq_of_changedAt changed (file_apart other mem) keys
      rw [value_cleanFrom_cons, fst_cleanFile, ih still_apart, later_eq]
      rfl

/-! ## What a dry run tells -/

/-- A result tells of a file what cleaning it comes to: whether the file is missing, and which
of the keys are read in it, in ascending order. -/
structure TellsOf (t : Tree) (unused : List String) (file : SpelledPath) (result : Cleaning) :
    Prop where
  path : result.path = file.spelling
  skipped : result.skipped = true ↔ t.exists? file.path = false
  ascending : result.removed.Pairwise (· < ·)
  removed : ∀ key, key ∈ result.removed ↔
    key ∈ unused ∧ key ∈ (load t (.ofPath file.path)).value.entries.keys

/-- A dry run predicts a cleaning: the results are the same, one for each file as it stands
before any is cleaned.  The dry run leaves the tree as it is, and cleaning changes no place but
those of files with removed keys. -/
structure PredictsCleaning (t : Tree) (files : List SpelledPath) (unused : List String) :
    Prop where
  same_results : (clean t files unused true).value.1 = (clean t files unused false).value.1
  results : List.Forall₂ (TellsOf t unused) files (clean t files unused true).value.1
  untouched : (clean t files unused true).value.2 = t
  shape : SameShape t (clean t files unused false).value.2
  frame : ∀ place, (clean t files unused false).value.2.at? place ≠ t.at? place →
    ∃ (i : Nat) (file : SpelledPath) (result : Cleaning), files[i]? = some file ∧
      (clean t files unused false).value.1[i]? = some result ∧
      t.locate file.path = .ok place ∧ result.removed ≠ []

theorem tellsOf_foreseen (t : Tree) (unused : List String) (file : SpelledPath) :
    TellsOf t unused file (foreseen t (Text.sortDistinct unused) file) where
  path := rfl
  skipped := by simp [foreseen]
  ascending := (Text.pairwise_lt_sortDistinct unused).filter _
  removed key := by
    rw [foreseen, List.mem_filter, Text.mem_sortDistinct, Dict.contains_iff_mem_keys]

/-- A file that sets one of the keys is foreseen to lose some. -/
theorem removed_foreseen_ne_nil {t : Tree} {keys : List String} {file : SpelledPath}
    {key value : String} (asked : key ∈ keys) (set : valueIn t file.path key = some value) :
    (foreseen t keys file).removed ≠ [] := by
  apply List.ne_nil_of_mem (a := key)
  rw [foreseen, List.mem_filter, Dict.contains_iff_mem_keys, mem_keys_load_iff]
  exact ⟨asked, value, set⟩

/-- If no two of the paths lead to one file, a dry run predicts what cleaning the files of any
keys reports and which of them it may change. -/
theorem clean_predicted {t : Tree} {files : List SpelledPath}
    (apart : files.Pairwise fun file other => ¬t.SameFile file.path other.path)
    (unused : List String) : PredictsCleaning t files unused := by
  have dry_eq := value_cleanFrom_dryRun (Text.sortDistinct unused) t files
  have real_eq := fst_cleanFrom (Text.sortDistinct unused) apart
  obtain ⟨shape, frame⟩ := cleanFrom_frame (Text.sortDistinct unused) t files
  constructor
  · rw [clean, dry_eq, clean, real_eq]
  · rw [clean, dry_eq, List.forall₂_map_right_iff, List.forall₂_same]
    exact fun file _ => tellsOf_foreseen t unused file
  · rw [clean, dry_eq]
  · exact shape
  · intro place changed
    rcases frame place with same | ⟨file, mem, located, key, asked, value, set⟩
    · exact absurd same changed
    · obtain ⟨i, at_i⟩ := List.getElem?_of_mem mem
      refine ⟨i, file, foreseen t (Text.sortDistinct unused) file, at_i, ?_, located,
        removed_foreseen_ne_nil asked set⟩
      rw [clean, real_eq, List.getElem?_map, at_i]
      rfl

/-- A tree with a readable env file and one whose octets are no text. -/
def twoFiles : Tree where
  nodes := .ofList
    [([".env"], .file (Text.Utf8.encode "B=1\nA=2\n")), (["broken.env"], .file [255])]

/-- A dry run over a readable file, a missing one and one without a text. -/
theorem clean_predicted_twoFiles :
    let files := [".env", ".env.local", "broken.env"].map SpelledPath.ofText
    (files.Pairwise fun file other => ¬twoFiles.SameFile file.path other.path) ∧
      PredictsCleaning twoFiles files ["B", "C", "A", "B"] := by
  intro files
  have apart : files.Pairwise fun file other => ¬twoFiles.SameFile file.path other.path := by
    decide +kernel
  exact ⟨apart, clean_predicted apart ["B", "C", "A", "B"]⟩

end EnvFile

end EnvConcord
