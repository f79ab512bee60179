import EnvConcord.Proofs.Collection.Dict
import EnvConcord.Proofs.Text.Utf8
import EnvConcord.Tree.Basic

/-!
# Writing over files

Writing over a file changes no path's place and nothing at any other place, and the text
that was written is read back.
-/

namespace EnvConcord

theorem Text.unifyBreaks_of_not_mem {cs : List Char} (absent : '\r' ∉ cs) :
    Text.unifyBreaks cs = cs := by
  fun_induction Text.unifyBreaks cs with
  | case1 => rfl
  | case2 rest ih => simp at absent
  | case3 rest _ ih => simp at absent
  | case4 c rest _ other ih => rw [ih (List.not_mem_of_not_mem_cons absent)]

namespace Tree

/-! ## Shapes -/

/-- Whether a file stands there rather than a directory. -/
def isFileNode : TreeNode → Bool
  | .file _ => true
  | .directory => false

/-- Two trees with files and directories at the same places. -/
structure SameShape (t u : Tree) : Prop where
  root_eq : u.root = t.root
  kind_eq : ∀ place, (u.at? place).map isFileNode = (t.at? place).map isFileNode

theorem SameShape.refl (t : Tree) : SameShape t t := ⟨rfl, fun _ => rfl⟩

theorem SameShape.trans {t u v : Tree} (first : SameShape t u) (second : SameShape u v) :
    SameShape t v :=
  ⟨second.root_eq.trans first.root_eq,
    fun place => (second.kind_eq place).trans (first.kind_eq place)⟩

/-- Following names does not depend on the contents of files. -/
theorem SameShape.walk_eq {t u : Tree} (same : SameShape t u) (path : String)
    (place names : List String) : u.walk path place names = t.walk path place names := by
  induction names generalizing place with
  | nil => rfl
  | cons name rest ih =>
      have kind := same.kind_eq place
      rw [walk, walk]
      cases there : t.at? place with
      | none =>
          rw [there, Option.map_none, Option.map_eq_none_iff] at kind
          rw [kind]
      | some node =>
          rw [there, Option.map_some, Option.map_eq_some_iff] at kind
          rcases kind with ⟨other, other_there, kind⟩
          rw [other_there]
          cases node with
          | file content =>
              cases other with
              | file content' => rfl
              | directory => contradiction
          | directory =>
              cases other with
              | file content' => contradiction
              | directory => simp only [ih]

theorem SameShape.locate_eq {t u : Tree} (same : SameShape t u) (p : Path) :
    u.locate p = t.locate p := by
  rw [locate, locate, same.root_eq, same.walk_eq]

/-- The text of a file depends on what stands at its place only. -/
theorem SameShape.readText_eq {t u : Tree} (same : SameShape t u) {p : Path} {place : List String}
    (located : t.locate p = .ok place) (kept : u.at? place = t.at? place) :
    u.readText p = t.readText p := by
  simp only [readText, read, same.locate_eq, located, bind, Except.bind, kept]

/-! ## Contents -/

/-- A file with a text stands at a place. -/
def HoldsText (t : Tree) (place : List String) (cs : List Char) : Prop :=
  ∃ octets chars, t.at? place = some (.file octets) ∧ Text.Utf8.decode octets = .ok chars ∧
    Text.unifyBreaks chars = cs

theorem readText_eq_ok_iff (t : Tree) (p : Path) (cs : List Char) :
    t.readText p = .ok cs ↔ ∃ place, t.locate p = .ok place ∧ t.HoldsText place cs := by
  simp only [readText, read, bind, Except.bind, pure, Except.pure, HoldsText]
  cases t.locate p with
  | error fault => simp
  | ok place =>
      cases there : t.at? place with
      | none => simp [there]
      | some node =>
          cases node with
          | directory => simp [there]
          | file octets =>
              cases decoded : Text.Utf8.decode octets with
              | error fault => simp [there, decoded]
              | ok chars => simp [there, decoded]

/-- A file that has a text exists. -/
theorem exists?_of_readText {t : Tree} {p : Path} {cs : List Char} (read : t.readText p = .ok cs) :
    t.exists? p = true := by
  obtain ⟨place, located, octets, -, there, -⟩ := (readText_eq_ok_iff t p cs).1 read
  simp [exists?, node?, located, there]

/-- The text of a file has line feeds for all its line breaks. -/
theorem HoldsText.cr_not_mem {t : Tree} {place : List String} {cs : List Char}
    (holds : t.HoldsText place cs) : '\r' ∉ cs := by
  rcases holds with ⟨-, chars, -, -, rfl⟩
  exact Text.cr_not_mem_unifyBreaks chars

/-! ## Writing -/

/-- A tree with other octets in the file at a place. -/
def put (t : Tree) (place : List String) (octets : List Nat) : Tree :=
  { t with nodes := t.nodes.insert place (.file octets) }

theorem at?_put (t : Tree) {place : List String} (below : place ≠ []) (octets : List Nat)
    (other : List String) :
    (t.put place octets).at? other =
      if other = place then some (.file octets) else t.at? other := by
  cases other with
  | nil => rw [if_neg (Ne.symm below)]; rfl
  | cons name rest => exact Dict.get?_insert t.nodes place (name :: rest) (.file octets)

theorem HoldsText.ne_nil {t : Tree} {place : List String} {cs : List Char}
    (holds : t.HoldsText place cs) : place ≠ [] := by
  rcases holds with ⟨octets, -, there, -⟩
  rintro rfl
  rw [show t.at? [] = some .directory from rfl] at there
  simp at there

theorem HoldsText.sameShape_put {t : Tree} {place : List String} {cs : List Char}
    (holds : t.HoldsText place cs) (octets : List Nat) : SameShape t (t.put place octets) := by
  refine ⟨rfl, fun other => ?_⟩
  rw [at?_put t holds.ne_nil]
  split
  next here =>
    rcases holds with ⟨old, -, there, -⟩
    rw [here, there]
    rfl
  next => rfl

/-- The text that was written is read back. -/
theorem HoldsText.holdsText_put {t : Tree} {place : List String} {cs : List Char}
    (holds : t.HoldsText place cs) {s : String} (absent : '\r' ∉ s.toList) :
    (t.put place (Text.Utf8.encode s)).HoldsText place s.toList := by
  refine ⟨Text.Utf8.encode s, s.toList, ?_, Text.Utf8.decode_encode s,
    Text.unifyBreaks_of_not_mem absent⟩
  rw [at?_put t holds.ne_nil, if_pos rfl]

/-- Writing over a file succeeds. -/
theorem HoldsText.writeText_eq {t : Tree} {place : List String} {cs : List Char}
    (holds : t.HoldsText place cs) {p : Path} (located : t.locate p = .ok place) (s : String) :
    t.writeText p s = .ok (t.put place (Text.Utf8.encode s)) := by
  rcases holds with ⟨old, -, there, -⟩
  simp only [writeText, write, bind, Except.bind, located, there]
  rfl

/-- Writing puts the text where the path leads to, if no directory is there. -/
theorem writeText_eq_ok_iff {t u : Tree} {p : Path} {text : String} :
    t.writeText p text = .ok u ↔
      ∃ place, t.locate p = .ok place ∧ t.at? place ≠ some .directory ∧
        u = t.put place (Text.Utf8.encode text) := by
  simp only [writeText, write, bind, Except.bind, pure, Except.pure]
  cases t.locate p with
  | error fault => simp
  | ok place =>
      cases there : t.at? place with
      | none => simp [there, put, eq_comm]
      | some node => cases node <;> simp [there, put, eq_comm]

/-- Where a file with a text stood, a file stands in a tree of the same shape. -/
theorem SameShape.exists_file {t u : Tree} (same : SameShape t u) {p : Path} {place : List String}
    (located : t.locate p = .ok place) {cs : List Char} (read : t.readText p = .ok cs) :
    ∃ octets, u.at? place = some (.file octets) := by
  obtain ⟨own, own_located, octets, -, there, -⟩ := (readText_eq_ok_iff t p cs).1 read
  obtain rfl := Except.ok.inj (own_located.symm.trans located)
  have kind := same.kind_eq own
  rw [there, Option.map_some, Option.map_eq_some_iff] at kind
  obtain ⟨node, node_there, is_file⟩ := kind
  cases node with
  | directory => contradiction
  | file content => exact ⟨content, node_there⟩

/-! ## Reading what was written -/

/-- Names are followed from one directory to the next. -/
theorem walk_cons_eq_ok_iff {t : Tree} {path name : String} {place rest reached : List String} :
    t.walk path place (name :: rest) = .ok reached ↔
      t.at? place = some .directory ∧
        if name = ".." then place ≠ [] ∧ t.walk path place.dropLast rest = .ok reached
        else t.walk path (place ++ [name]) rest = .ok reached := by
  rw [walk]
  cases there : t.at? place with
  | none => simp
  | some node =>
      cases node with
      | file content => simp
      | directory =>
          by_cases back : name = ".."
          · cases place <;> simp [back]
          · simp [back]

/-- Names lead to the same place in a tree that keeps the directories. -/
theorem walk_of_kept {t u : Tree}
    (kept : ∀ place, t.at? place = some .directory → u.at? place = some .directory)
    {path : String} (shown : String) {place names reached : List String}
    (walked : t.walk path place names = .ok reached) : u.walk shown place names = .ok reached := by
  induction names generalizing place with
  | nil => exact congrArg Except.ok (Except.ok.inj walked)
  | cons name rest ih =>
      rw [walk_cons_eq_ok_iff] at walked ⊢
      obtain ⟨here, later⟩ := walked
      refine ⟨kept place here, ?_⟩
      split_ifs at later ⊢
      · exact ⟨later.1, ih later.2⟩
      · exact ih later

/-- What was written is read where it was written to, be it in a new file or over an old one. -/
theorem readText_of_writeText {t u : Tree} {p : Path} {text : String}
    (written : t.writeText p text = .ok u) (absent : '\r' ∉ text.toList) :
    u.readText p = .ok text.toList := by
  obtain ⟨place, located, no_directory, rfl⟩ := writeText_eq_ok_iff.1 written
  have below : place ≠ [] := by
    rintro rfl
    exact no_directory rfl
  have kept : ∀ other, t.at? other = some .directory →
      (t.put place (Text.Utf8.encode text)).at? other = some .directory := by
    intro other directory
    rw [at?_put t below, if_neg, directory]
    rintro rfl
    exact no_directory directory
  have still_located : (t.put place (Text.Utf8.encode text)).locate p = .ok place := by
    rw [locate] at located ⊢
    split at located
    next own => exact (if_pos own).trans (walk_of_kept kept p.render located)
    next => contradiction
  refine (readText_eq_ok_iff _ p _).2 ⟨place, still_located, Text.Utf8.encode text, text.toList, ?_,
    Text.Utf8.decode_encode text, Text.unifyBreaks_of_not_mem absent⟩
  rw [at?_put t below, if_pos rfl]

/-! ## Directories on the way -/

/-- The names on a way lead to directories. -/
theorem exists_walk_of_append {t : Tree} {path : String} {place names more reached : List String}
    (walked : t.walk path place (names ++ more) = .ok reached) (goes_on : more ≠ []) :
    ∃ between, t.walk path place names = .ok between ∧ t.at? between = some .directory := by
  induction names generalizing place with
  | nil =>
      obtain ⟨name, rest, rfl⟩ := List.exists_cons_of_ne_nil goes_on
      exact ⟨place, rfl, (walk_cons_eq_ok_iff.1 walked).1⟩
  | cons name rest ih =>
      rw [List.cons_append, walk_cons_eq_ok_iff] at walked
      obtain ⟨here, later⟩ := walked
      simp only [walk_cons_eq_ok_iff, here, true_and]
      split_ifs at later ⊢
      · obtain ⟨between, led, directory⟩ := ih later.2
        exact ⟨between, ⟨later.1, led⟩, directory⟩
      · exact ih later

/-- No directory is made on a way that is there. -/
theorem makeWay_of_located {t : Tree} {whole : Path} {done names more reached : List String}
    (located : t.locate { whole with parts := done ++ names ++ more } = .ok reached)
    (goes_on : more ≠ []) : t.makeWay whole done names = .ok t := by
  induction names generalizing done with
  | nil => rfl
  | cons name rest ih =>
      have led : t.locate { whole with parts := done ++ [name] ++ rest ++ more } = .ok reached := by
        simpa using located
      obtain ⟨between, here, directory⟩ : ∃ between,
          t.locate { whole with parts := done ++ [name] } = .ok between ∧
            t.at? between = some .directory := by
        rw [locate] at led
        split at led
        next own =>
          rw [List.append_assoc] at led
          obtain ⟨between, walked, directory⟩ := exists_walk_of_append led (by simp [goes_on])
          exact ⟨between, (if_pos own).trans (walk_of_kept (fun _ => id) _ walked), directory⟩
        next => contradiction
      rw [makeWay, here]
      simp only [directory]
      exact ih led

/-- The directory of a file that can be reached is there. -/
theorem makeDirectory_parent {t : Tree} {p : Path} {reached : List String}
    (located : t.locate p = .ok reached) (named : p.parts ≠ []) :
    t.makeDirectory p.parent = .ok t := by
  have led : t.locate { p.parent with parts :=
      [] ++ p.parent.parts ++ [p.parts.getLast named] } = .ok reached := by
    simpa [Path.parent, List.dropLast_append_getLast named] using located
  exact makeWay_of_located led (List.cons_ne_nil _ _)

/-! ## Changes at one path -/

/-- A tree after changes to nothing but the content of the file that a path leads to. -/
structure ChangedAt (p : Path) (t u : Tree) : Prop where
  shape : SameShape t u
  frame : ∀ place, t.locate p ≠ .ok place → u.at? place = t.at? place

theorem ChangedAt.refl (p : Path) (t : Tree) : ChangedAt p t t := ⟨.refl t, fun _ _ => rfl⟩

theorem ChangedAt.trans {p : Path} {t u v : Tree} (first : ChangedAt p t u)
    (second : ChangedAt p u v) : ChangedAt p t v := by
  refine ⟨first.shape.trans second.shape, fun place elsewhere => ?_⟩
  rw [← first.frame place elsewhere]
  apply second.frame
  rwa [first.shape.locate_eq]

theorem HoldsText.changedAt_put {t : Tree} {place : List String} {cs : List Char}
    (holds : t.HoldsText place cs) {p : Path} (located : t.locate p = .ok place)
    (octets : List Nat) : ChangedAt p t (t.put place octets) := by
  refine ⟨holds.sameShape_put octets, fun other elsewhere => ?_⟩
  rw [at?_put t holds.ne_nil, if_neg]
  rintro rfl
  exact elsewhere located

/-- Changes at one path leave the texts at other places alone. -/
theorem ChangedAt.holdsText {p : Path} {t u : Tree} (changed : ChangedAt p t u)
    {place : List String} (elsewhere : t.locate p ≠ .ok place) {cs : List Char}
    (holds : t.HoldsText place cs) : u.HoldsText place cs := by
  rcases holds with ⟨octets, chars, there, decoded, unified⟩
  exact ⟨octets, chars, by rw [changed.frame place elsewhere, there], decoded, unified⟩

end Tree

end EnvConcord
