import EnvConcord.Glob.Resolve
import EnvConcord.Proofs.Collection.Distinct
import EnvConcord.Proofs.Glob.Expansion
import EnvConcord.Proofs.Text.Sorted
import EnvConcord.Proofs.Tree.Order

/-!
# Files of patterns

Every path that a pattern finds is made of the root mark and the names of the pattern and of names
in the tree, so the paths found in a file system are told apart by their parts.  Arranging them
leaves nothing of the order and the number in which they were found: the files of some patterns are
settled by the options that the patterns expand to.
-/

namespace EnvConcord.Glob

/-! ## Found paths -/

section Found

variable {t : Tree} (tree_proper : t.IsProper)

include tree_proper in
theorem slash_not_mem_of_mem_children {p : Path} {name : String} (mem : name ∈ t.children p) :
    '/' ∉ name.toList := by
  rw [Tree.children] at mem
  split at mem
  · split at mem
    · obtain ⟨place, place_mem, last⟩ := List.mem_filterMap.1 mem
      split at last
      · exact tree_proper place place_mem name (List.mem_of_getLast? last)
      · contradiction
    · contradiction
  · contradiction

theorem isProper_enter {p : Path} (proper : p.IsProper) {name : String}
    (plain : '/' ∉ name.toList) : (enter p name).IsProper where
  root := proper.root
  parts part mem := by
    rcases List.mem_append.1 mem with mem | mem
    · exact proper.parts part mem
    · rwa [List.mem_singleton.1 mem]

variable {directoriesOnly : Bool} {p : Path} (proper : p.IsProper)

include tree_proper proper in
theorem isProper_enter_of_mem_namesIn {name : String} (mem : name ∈ namesIn t directoriesOnly p) :
    (enter p name).IsProper :=
  isProper_enter proper (slash_not_mem_of_mem_children tree_proper (List.mem_filter.1 mem).1)

include tree_proper proper in
theorem isProper_of_mem_matchesIn {pattern : String} {found : Path}
    (mem : found ∈ matchesIn t directoriesOnly pattern p) : found.IsProper := by
  obtain ⟨name, name_mem, rfl⟩ := List.mem_map.1 mem
  exact isProper_enter_of_mem_namesIn tree_proper proper (List.mem_filter.1 name_mem).1

include tree_proper proper in
theorem isProper_of_mem_below {fuel : Nat} {found : Path}
    (mem : found ∈ below t directoriesOnly fuel p) : found.IsProper := by
  induction fuel generalizing p with
  | zero => contradiction
  | succ fuel ih =>
      obtain ⟨name, name_mem, found_mem⟩ := List.mem_flatMap.1 mem
      have entered :=
        isProper_enter_of_mem_namesIn tree_proper proper (List.mem_filter.1 name_mem).1
      rcases List.mem_cons.1 found_mem with rfl | deeper
      · exact entered
      · exact ih entered deeper

include tree_proper proper in
theorem isProper_of_mem_withBelow {found : Path} (mem : found ∈ withBelow t directoriesOnly p) :
    found.IsProper := by
  rw [withBelow] at mem
  split at mem
  · rcases List.mem_cons.1 mem with rfl | deeper
    · exact proper
    · exact isProper_of_mem_below tree_proper proper deeper
  · contradiction

include tree_proper in
/-- Following plain names from proper paths leads to proper paths. -/
theorem isProper_of_mem_follow {checked : Bool} {names : List String} {starts : List Path}
    (plain : ∀ name ∈ names, '/' ∉ name.toList) (starts_proper : ∀ p ∈ starts, p.IsProper) :
    ∀ found ∈ follow t checked names starts, found.IsProper := by
  induction names generalizing checked starts with
  | nil =>
      intro found mem
      rw [follow] at mem
      split at mem
      · exact starts_proper found mem
      · exact starts_proper found (List.mem_filter.1 mem).1
  | cons name rest ih =>
      obtain ⟨name_plain, rest_plain⟩ := List.forall_mem_cons.1 plain
      -- The cases are those of the name: none, two stars, another pattern, and a plain one.
      rw [follow]
      split
      · exact ih rest_plain fun p mem => starts_proper p (List.mem_filter.1 mem).1
      split
      · refine ih rest_plain fun p mem => ?_
        obtain ⟨start, start_mem, mem⟩ := List.mem_flatMap.1 mem
        exact isProper_of_mem_withBelow tree_proper (starts_proper start start_mem) mem
      split
      · refine ih rest_plain fun p mem => ?_
        obtain ⟨start, start_mem, mem⟩ := List.mem_flatMap.1 mem
        exact isProper_of_mem_matchesIn tree_proper (starts_proper start start_mem) mem
      · have entered : ∀ p ∈ starts.map fun start => enter start name, p.IsProper := by
          intro p mem
          obtain ⟨start, start_mem, rfl⟩ := List.mem_map.1 mem
          exact isProper_enter (starts_proper start start_mem) name_plain
        refine ih rest_plain fun p mem => ?_
        split at mem
        · exact entered p (List.mem_filter.1 mem).1
        · exact entered p mem

include tree_proper in
/-- A pattern without stray slashes finds proper paths. -/
theorem isProper_of_mem_find {pattern found : Path} (proper : pattern.IsProper)
    (mem : found ∈ find t pattern) : found.IsProper := by
  refine isProper_of_mem_follow tree_proper proper.parts ?_ found mem
  intro start start_mem
  rw [List.mem_singleton.1 start_mem]
  exact ⟨proper.root, by simp⟩

theorem isProper_patternIn {directory : Path} (proper : directory.IsProper) (option : String) :
    (patternIn directory option).IsProper := by
  rw [patternIn]
  split
  · exact isProper_enter (Path.isProper_parse option) (by simp)
  · exact proper.append (Path.isProper_parse option)

end Found

/-! ## Arranged paths -/

theorem namesBefore_iff (names others : List String) :
    namesBefore names others = true ↔ names < others := by
  fun_induction namesBefore names others with
  | case1 => simp
  | case2 => simp
  | case3 => simp
  | case4 a as b bs ih => simp [List.cons_lt_cons_iff, ih]

@[simp]
theorem mem_arrange {paths : List Path} {p : Path} : p ∈ arrange paths ↔ p ∈ paths := by
  simp [arrange, List.mem_mergeSort, List.mem_eraseDups]

/-- Proper paths are arranged in strictly ascending order. -/
theorem pairwise_precedes_arrange {paths : List Path} (proper : ∀ p ∈ paths, p.IsProper) :
    (arrange paths).Pairwise Path.Precedes := by
  have ordered : (arrange paths).Pairwise fun p q => p.sortKey ≤ q.sortKey := by
    apply Text.pairwise_mergeSort_key
    intro p q
    rw [Bool.not_eq_true', ← Bool.not_eq_true, namesBefore_iff, not_lt]
  have distinct : (arrange paths).Nodup :=
    (List.mergeSort_perm _ _).nodup_iff.2 (Collection.nodup_eraseDups paths)
  refine (ordered.and distinct).imp_of_mem fun {p q} p_mem q_mem both => ?_
  have p_proper := proper p (mem_arrange.1 p_mem)
  have q_proper := proper q (mem_arrange.1 q_mem)
  exact lt_of_le_of_ne both.1 fun key_eq => both.2 (Path.sortKey_inj p_proper q_proper key_eq)

/-! ## Resolved files -/

/-- The files that patterns stand for are those that an option of a pattern leads to, unless a rule
ignores them. -/
theorem mem_resolve_iff {t : Tree} {directory p : Path} {rules : List Ignore.Rule}
    {patterns : List String} :
    p ∈ resolve t directory rules patterns ↔
      (∃ pattern ∈ patterns, ∃ option ∈ Brace.expandText pattern,
        p ∈ find t (patternIn directory option)) ∧
      t.isFile p = true ∧ Ignore.ignored rules (seenFrom t directory p) = false := by
  simp [resolve]

theorem mem_resolve_iff_options {t : Tree} {directory p : Path} {rules : List Ignore.Rule}
    {patterns : List String} :
    p ∈ resolve t directory rules patterns ↔
      (∃ option ∈ patterns.flatMap Brace.expandText, p ∈ find t (patternIn directory option)) ∧
      t.isFile p = true ∧ Ignore.ignored rules (seenFrom t directory p) = false := by
  rw [mem_resolve_iff]
  refine and_congr_left fun _ => ⟨?_, ?_⟩
  · rintro ⟨pattern, pattern_mem, option, option_mem, mem⟩
    exact ⟨option, List.mem_flatMap_of_mem pattern_mem option_mem, mem⟩
  · rintro ⟨option, option_mem, mem⟩
    obtain ⟨pattern, pattern_mem, option_mem⟩ := List.mem_flatMap.1 option_mem
    exact ⟨pattern, pattern_mem, option, option_mem, mem⟩

/-- A list of paths is the union of two others, in the order of paths. -/
structure IsOrderedUnion (union first second : List Path) : Prop where
  ascending : union.Pairwise Path.Precedes
  mem_iff : ∀ p, p ∈ union ↔ p ∈ first ∨ p ∈ second

/-- Patterns stand for the set of their options: the files are listed in ascending order, they are
those that some option leads to and no rule ignores, more patterns add their own files, and the
order of the patterns, repeats among them and groups instead of options change nothing. -/
structure ResolvesOptions (t : Tree) (directory : Path) (rules : List Ignore.Rule) : Prop where
  ascending : ∀ patterns, (resolve t directory rules patterns).Pairwise Path.Precedes
  mem_iff : ∀ patterns p, p ∈ resolve t directory rules patterns ↔
    (∃ option ∈ patterns.flatMap Brace.expandText, p ∈ find t (patternIn directory option)) ∧
    t.isFile p = true ∧ Ignore.ignored rules (seenFrom t directory p) = false
  union : ∀ patterns more, IsOrderedUnion (resolve t directory rules (patterns ++ more))
    (resolve t directory rules patterns) (resolve t directory rules more)
  settled : ∀ patterns others,
    (∀ option, option ∈ patterns.flatMap Brace.expandText ↔
      option ∈ others.flatMap Brace.expandText) →
    resolve t directory rules patterns = resolve t directory rules others
  reordered : ∀ patterns others, (∀ pattern, pattern ∈ patterns ↔ pattern ∈ others) →
    resolve t directory rules patterns = resolve t directory rules others
  expanded : ∀ patterns, resolve t directory rules patterns =
    resolve t directory rules (patterns.flatMap Brace.expandText)

section Resolved

variable {t : Tree} (tree_proper : t.IsProper) {directory : Path}
  (directory_proper : directory.IsProper) (rules : List Ignore.Rule)

include tree_proper directory_proper in
theorem pairwise_precedes_resolve (patterns : List String) :
    (resolve t directory rules patterns).Pairwise Path.Precedes := by
  apply pairwise_precedes_arrange
  intro p mem
  obtain ⟨pattern, -, mem⟩ := List.mem_flatMap.1 (List.mem_filter.1 mem).1
  obtain ⟨option, -, mem⟩ := List.mem_flatMap.1 mem
  exact isProper_of_mem_find tree_proper (isProper_patternIn directory_proper option) mem

include tree_proper directory_proper in
/-- Patterns with the same options stand for the same files. -/
theorem resolve_eq_of_options {patterns others : List String}
    (same : ∀ option, option ∈ patterns.flatMap Brace.expandText ↔
      option ∈ others.flatMap Brace.expandText) :
    resolve t directory rules patterns = resolve t directory rules others := by
  apply (pairwise_precedes_resolve tree_proper directory_proper rules patterns).eq_of_mem_iff
    (pairwise_precedes_resolve tree_proper directory_proper rules others)
  intro p
  rw [mem_resolve_iff_options, mem_resolve_iff_options]
  simp only [same]

end Resolved

/-- In a file system, what patterns stand for is settled by the set of their options. -/
theorem resolve_resolvesOptions {t : Tree} (tree_proper : t.IsProper) {directory : Path}
    (directory_proper : directory.IsProper) (rules : List Ignore.Rule) :
    ResolvesOptions t directory rules where
  ascending := pairwise_precedes_resolve tree_proper directory_proper rules
  mem_iff _ _ := mem_resolve_iff_options
  union patterns more := by
    refine ⟨pairwise_precedes_resolve tree_proper directory_proper rules _, fun p => ?_⟩
    simp only [mem_resolve_iff_options, List.flatMap_append, List.mem_append, or_and_right,
      exists_or]
  settled _ _ same := resolve_eq_of_options tree_proper directory_proper rules same
  reordered patterns others same := by
    apply resolve_eq_of_options tree_proper directory_proper rules
    intro option
    simp only [List.mem_flatMap, same]
  expanded patterns := by
    apply resolve_eq_of_options tree_proper directory_proper rules
    intro option
    have again : ∀ result ∈ patterns.flatMap Brace.expandText,
        Brace.expandText result = [result] := by
      intro result mem
      obtain ⟨pattern, -, mem⟩ := List.mem_flatMap.1 mem
      exact Brace.expandText_of_mem mem
    rw [List.flatMap_congr again, List.flatMap_singleton']

/-- A tree with sources and with a copy of one of them that is built from it. -/
def sourceTree : Tree where
  nodes := .ofList
    [(["src"], .directory), (["src", "app.ts"], .file []), (["src", "app.js"], .file []),
      (["dist"], .directory), (["dist", "app.js"], .file [])]

theorem resolve_resolvesOptions_sourceTree :
    sourceTree.IsProper ∧ (Path.parse ".").IsProper ∧
      ResolvesOptions sourceTree (Path.parse ".") (Ignore.rulesOf ["dist"]) := by
  have tree_proper : sourceTree.IsProper := by decide
  have directory_proper := Path.isProper_parse "."
  exact ⟨tree_proper, directory_proper,
    resolve_resolvesOptions tree_proper directory_proper (Ignore.rulesOf ["dist"])⟩

end EnvConcord.Glob
