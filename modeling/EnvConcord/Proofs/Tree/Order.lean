import EnvConcord.Proofs.Tree.Writing
import Mathlib.Data.List.Lex
import Mathlib.Data.String.Basic

/-!
# The order of paths

Paths compare part by part, the root mark in front of the names.  The parts tell paths apart as
long as no name looks like a root mark.  In a file system none does, for its names hold no slash,
and what is done to a tree with proper paths keeps it that way.
-/

namespace EnvConcord

namespace Path

/-- The first part that differs puts one path before another, and so do further parts behind the
last one. -/
def Precedes (p q : Path) : Prop := p.sortKey < q.sortKey

instance : Std.Irrefl Precedes := ⟨fun p => lt_irrefl p.sortKey⟩

instance : Std.Asymm Precedes := ⟨fun _ _ before after => lt_asymm before after⟩

/-- No name of a path holds a slash, and its root mark does if it has one. -/
structure IsProper (p : Path) : Prop where
  root : p.root = "" ∨ '/' ∈ p.root.toList
  parts : ∀ part ∈ p.parts, '/' ∉ part.toList

/-- A root mark is no name, so the parts of a path tell where they begin. -/
theorem sortKey_inj {p q : Path} (proper : p.IsProper) (proper' : q.IsProper)
    (key_eq : p.sortKey = q.sortKey) : p = q := by
  rcases p with ⟨root, parts⟩
  rcases q with ⟨root', parts'⟩
  rcases proper with ⟨mark, names⟩
  rcases proper' with ⟨mark', names'⟩
  simp only [sortKey, beq_iff_eq] at key_eq mark names mark' names'
  by_cases relative : root = ""
  · by_cases relative' : root' = ""
    · rw [if_pos relative, if_pos relative'] at key_eq
      rw [relative, relative', key_eq]
    · rw [if_pos relative, if_neg relative'] at key_eq
      exact absurd (mark'.resolve_left relative') (names root' (key_eq ▸ List.mem_cons_self))
  · by_cases relative' : root' = ""
    · rw [if_neg relative, if_pos relative'] at key_eq
      exact absurd (mark.resolve_left relative) (names' root (key_eq ▸ List.mem_cons_self))
    · rw [if_neg relative, if_neg relative'] at key_eq
      obtain ⟨rfl, rfl⟩ := List.cons.inj key_eq
      rfl

/-! ## Proper paths -/

/-- A text is read as a proper path. -/
theorem isProper_parse (text : String) : (parse text).IsProper where
  root := by
    simp only [parse]
    fun_cases rootMark text.toList with
    | case1 => exact Or.inr (by decide)
    | case2 => exact Or.inr (by decide)
    | case3 => exact Or.inr (by decide)
    | case4 => exact Or.inl rfl
  parts part mem := by
    obtain ⟨piece, piece_mem, rfl⟩ := List.mem_map.1 (List.mem_filter.1 mem).1
    rw [String.toList_ofList]
    exact Text.not_mem_of_mem_splitAt '/' text.toList piece piece_mem

theorem IsProper.append {base p : Path} (base_proper : base.IsProper) (proper : p.IsProper) :
    (base.append p).IsProper := by
  rw [Path.append]
  split
  · exact proper
  · refine ⟨base_proper.root, fun part mem => ?_⟩
    rcases List.mem_append.1 mem with mem | mem
    · exact base_proper.parts part mem
    · exact proper.parts part mem

end Path

namespace Tree

/-- The names in a tree hold no slash. -/
def IsProper (t : Tree) : Prop :=
  ∀ place ∈ t.nodes.keys, ∀ name ∈ place, '/' ∉ name.toList

instance (t : Tree) : Decidable t.IsProper :=
  inferInstanceAs (Decidable (∀ place ∈ t.nodes.keys, ∀ name ∈ place, '/' ∉ name.toList))

/-- The names of a place come from where the way began and from the way. -/
theorem mem_of_mem_walk {t : Tree} {path : String} {start names place : List String}
    (walked : t.walk path start names = .ok place) {name : String} (mem : name ∈ place) :
    name ∈ start ∨ name ∈ names := by
  induction names generalizing start with
  | nil =>
      obtain rfl := Except.ok.inj walked
      exact Or.inl mem
  | cons first rest ih =>
      rw [walk_cons_eq_ok_iff] at walked
      obtain ⟨-, walked⟩ := walked
      split_ifs at walked
      · rcases ih walked.2 with before | later
        · exact Or.inl (List.dropLast_subset start before)
        · exact Or.inr (List.mem_cons_of_mem first later)
      · rcases ih walked with before | later
        · rcases List.mem_append.1 before with before | here
          · exact Or.inl before
          · exact Or.inr (List.mem_singleton.1 here ▸ List.mem_cons_self)
        · exact Or.inr (List.mem_cons_of_mem first later)

section Changes

variable {t u : Tree} (tree_proper : t.IsProper)

theorem slash_not_mem_of_locate {p : Path} (proper : p.IsProper) {place : List String}
    (located : t.locate p = .ok place) : ∀ name ∈ place, '/' ∉ name.toList := by
  intro name mem
  rw [locate] at located
  split at located
  · rcases mem_of_mem_walk located mem with start | named
    · contradiction
    · exact proper.parts name named
  · contradiction

include tree_proper in
theorem isProper_insert {place : List String} (plain : ∀ name ∈ place, '/' ∉ name.toList)
    (node : TreeNode) : IsProper { t with nodes := t.nodes.insert place node } := by
  intro other mem
  rw [Dict.keys_insert] at mem
  split at mem
  · exact tree_proper other mem
  · rcases List.mem_append.1 mem with mem | mem
    · exact tree_proper other mem
    · rwa [List.mem_singleton.1 mem]

include tree_proper in
/-- A file at a proper path leaves the names of a tree without slashes. -/
theorem isProper_of_write {p : Path} (proper : p.IsProper) {content : List Nat}
    (written : t.write p content = .ok u) : u.IsProper := by
  simp only [write, bind, Except.bind, pure, Except.pure] at written
  cases located : t.locate p with
  | error fault => simp [located] at written
  | ok place =>
      rw [located] at written
      simp only at written
      split at written
      · contradiction
      · obtain rfl := Except.ok.inj written
        exact isProper_insert tree_proper (slash_not_mem_of_locate proper located) _

include tree_proper in
/-- A tree without one of its files has no names but those it had. -/
theorem isProper_of_remove {p : Path} (removed : t.remove p = .ok u) : u.IsProper := by
  simp only [remove, bind, Except.bind, pure, Except.pure] at removed
  cases located : t.locate p with
  | error fault => simp [located] at removed
  | ok place =>
      rw [located] at removed
      simp only at removed
      split at removed
      · obtain rfl := Except.ok.inj removed
        intro other mem
        exact tree_proper other (List.map_subset Prod.fst (List.filter_subset_self _) mem)
      · contradiction
      · contradiction

include tree_proper in
theorem isProper_of_makeWay {whole : Path} (root : whole.root = "" ∨ '/' ∈ whole.root.toList)
    {done names : List String} (plain : ∀ name ∈ done ++ names, '/' ∉ name.toList)
    (made : t.makeWay whole done names = .ok u) : u.IsProper := by
  induction names generalizing t done with
  | nil =>
      obtain rfl := Except.ok.inj made
      exact tree_proper
  | cons name rest ih =>
      have goes_on : ∀ other ∈ done ++ [name] ++ rest, '/' ∉ other.toList := by simpa using plain
      have here : Path.IsProper { whole with parts := done ++ [name] } :=
        ⟨root, fun other mem => goes_on other (List.mem_append_left rest mem)⟩
      rw [makeWay] at made
      split at made
      · contradiction
      next place located =>
        split at made
        · exact ih tree_proper goes_on made
        · split at made <;> contradiction
        · have plain_place := slash_not_mem_of_locate here located
          exact ih (isProper_insert tree_proper plain_place _) goes_on made

include tree_proper in
/-- So do directories on the way to a proper path. -/
theorem isProper_of_makeDirectory {p : Path} (proper : p.IsProper)
    (made : t.makeDirectory p = .ok u) : u.IsProper :=
  isProper_of_makeWay tree_proper proper.root (by simpa using proper.parts) made

end Changes

end Tree

end EnvConcord
