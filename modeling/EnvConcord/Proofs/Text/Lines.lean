import EnvConcord.Text.Lines
import Mathlib.Data.List.Basic
import Mathlib.Data.List.TakeWhile

/-!
# Lines of joined texts

Cutting at a separator is the library's `List.splitOn`, so the lines of two texts with a
line break between them are the lines of the one followed by those of the other.
-/

namespace EnvConcord.Text

theorem splitAt_eq_splitOn (separator : Char) (cs : List Char) :
    splitAt separator cs = cs.splitOn separator := by
  induction cs with
  | nil => rfl
  | cons c rest ih =>
      rw [splitAt, List.splitOn_cons_eq_if_modifyHead, ih]
      by_cases here : c = separator
      · simp [here]
      · cases pieces : rest.splitOn separator with
        | nil => exact absurd pieces (List.splitOn_ne_nil separator rest)
        | cons piece others => simp [here]

/-- A text is cut into two pieces where it holds a separator between them and no other. -/
theorem splitAt_eq_pair_iff (separator : Char) (cs before after : List Char) :
    splitAt separator cs = [before, after] ↔
      cs = before ++ separator :: after ∧ separator ∉ before ∧ separator ∉ after := by
  constructor
  · intro pieces
    have joined := joinWith_splitAt separator cs
    have absent := not_mem_of_mem_splitAt separator cs
    rw [pieces] at joined absent
    refine ⟨?_, absent before (by simp), absent after (by simp)⟩
    simpa [joinWith] using joined.symm
  · rintro ⟨rfl, absent, absent'⟩
    rw [splitAt_eq_splitOn, List.splitOn_append_cons_self, List.splitOn_eq_singleton absent,
      List.splitOn_eq_singleton absent']
    rfl

/-- A line break between two texts separates their lines. -/
theorem lines_append_break (before after : List Char) :
    lines (before ++ '\n' :: after) = lines before ++ lines after := by
  simp only [lines, splitAt_eq_splitOn]
  exact List.splitOn_append_cons_self before after

theorem lines_of_not_mem {cs : List Char} (single : '\n' ∉ cs) : lines cs = [cs] := by
  rw [lines, splitAt_eq_splitOn, List.splitOn_eq_singleton single]

/-- No line holds a line break. -/
theorem break_not_mem_of_mem_lines {cs line : List Char} (mem : line ∈ lines cs) :
    '\n' ∉ line :=
  not_mem_of_mem_splitAt '\n' cs line mem

/-- Lines that are joined are found again. -/
theorem lines_intercalate {pieces : List (List Char)} (single : ∀ piece ∈ pieces, '\n' ∉ piece)
    (nonempty : pieces ≠ []) : lines (['\n'].intercalate pieces) = pieces := by
  rw [lines, splitAt_eq_splitOn, List.splitOn_intercalate '\n' single nonempty]

theorem lines_toList_intercalate {pieces : List String}
    (single : ∀ piece ∈ pieces, '\n' ∉ piece.toList) (nonempty : pieces ≠ []) :
    lines (String.intercalate "\n" pieces).toList = pieces.map String.toList := by
  rw [String.toList_intercalate]
  refine lines_intercalate ?_ (by simpa using nonempty)
  rwa [List.forall_mem_map]

/-- Lines that end in a break each leave an empty line behind the last one. -/
theorem lines_flatMap_break {α : Type*} (line : α → List Char) (items : List α)
    (single : ∀ item ∈ items, '\n' ∉ line item) :
    lines (items.flatMap fun item => line item ++ ['\n']) = items.map line ++ [[]] := by
  induction items with
  | nil => rfl
  | cons item rest ih =>
      have first : '\n' ∉ line item := single item (by simp)
      have later := ih fun other mem => single other (by simp [mem])
      rw [List.flatMap_cons, List.append_assoc, List.singleton_append, lines_append_break,
        lines_of_not_mem first, later]
      rfl

/-! ## Up to a character -/

section UpTo

variable {c : Char} {before : List Char} (absent : c ∉ before)

include absent

theorem ne_of_mem_before : ∀ d ∈ before, (d != c) = true := by
  intro d mem
  rw [bne_iff_ne]
  rintro rfl
  exact absent mem

theorem dropWhile_ne_of_not_mem : before.dropWhile (· != c) = [] :=
  List.dropWhile_eq_nil_iff.2 (ne_of_mem_before absent)

/-- What stands in front of the first occurrence of a character. -/
theorem takeWhile_ne_append_cons (after : List Char) :
    (before ++ c :: after).takeWhile (· != c) = before := by
  rw [List.takeWhile_append_of_pos (ne_of_mem_before absent), List.takeWhile_cons_of_neg (by simp),
    List.append_nil]

theorem dropWhile_ne_append_cons (after : List Char) :
    (before ++ c :: after).dropWhile (· != c) = c :: after := by
  rw [List.dropWhile_append_of_pos (ne_of_mem_before absent), List.dropWhile_cons_of_neg (by simp)]

end UpTo

end EnvConcord.Text
