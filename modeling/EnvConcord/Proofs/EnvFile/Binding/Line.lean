import EnvConcord.EnvFile.Binding
import Mathlib.Data.List.Basic
import Mathlib.Data.List.TakeWhile

/-!
# Steps within a line

A binding is read in steps that pass blanks, the word for exporting, a remark, or the rest
of a line.  On lines that are complete such a step does the same whatever stands behind
them.
-/

namespace EnvConcord.EnvFile.Binding

/-! ## Texts that end with a line -/

/-- The last character is a line feed. -/
def EndsLine (cs : List Char) : Prop := cs.getLast? = some '\n'

theorem EndsLine.ne_nil {cs : List Char} (ends : EndsLine cs) : cs ≠ [] := by
  rintro rfl
  contradiction

theorem EndsLine.mem {cs : List Char} (ends : EndsLine cs) : '\n' ∈ cs :=
  List.mem_of_getLast? ends

theorem endsLine_append_break (cs : List Char) : EndsLine (cs ++ ['\n']) := by
  simp [EndsLine]

theorem EndsLine.of_suffix {cs tail : List Char} (ends : EndsLine cs) (suffix : tail <:+ cs)
    (nonempty : tail ≠ []) : EndsLine tail := by
  rcases suffix with ⟨before, rfl⟩
  rwa [EndsLine, List.getLast?_append_of_ne_nil _ nonempty] at ends

theorem EndsLine.tail {c : Char} {cs : List Char} (ends : EndsLine (c :: cs)) (other : c ≠ '\n') :
    EndsLine cs := by
  apply ends.of_suffix (List.suffix_cons c cs)
  rintro rfl
  exact other (by simpa [EndsLine] using ends)

theorem EndsLine.tail_of_head? {c : Char} {cs : List Char} (ends : EndsLine cs)
    (first : cs.head? = some c) (other : c ≠ '\n') : EndsLine cs.tail := by
  cases cs with
  | nil => contradiction
  | cons d rest =>
      obtain rfl : d = c := by simpa using first
      exact ends.tail other

/-- Dropping characters stops within a text that holds another one. -/
theorem dropWhile_append_of_mem {cs : List Char} {c : Char} (mem : c ∈ cs) (drop : Char → Bool)
    (stop : drop c = false) (rest : List Char) :
    (cs ++ rest).dropWhile drop = cs.dropWhile drop ++ rest ∧ cs.dropWhile drop ≠ [] := by
  have nonempty : cs.dropWhile drop ≠ [] := by
    intro empty
    have dropped := List.dropWhile_eq_nil_iff.1 empty c mem
    simp [stop] at dropped
  exact ⟨by rw [List.dropWhile_append, if_neg (by simpa using nonempty)], nonempty⟩

/-- So does taking them. -/
theorem takeWhile_append_of_mem {cs : List Char} {c : Char} (mem : c ∈ cs) (take : Char → Bool)
    (stop : take c = false) (rest : List Char) :
    (cs ++ rest).takeWhile take = cs.takeWhile take := by
  induction cs with
  | nil => contradiction
  | cons d cs ih =>
      rw [List.cons_append, List.takeWhile_cons, List.takeWhile_cons]
      cases taken : take d with
      | false => rfl
      | true =>
          rcases List.mem_cons.1 mem with rfl | later
          · rw [stop] at taken
            contradiction
          · simp [ih later]

/-- Dropping characters that are no line feeds stops before the end. -/
theorem EndsLine.dropWhile {cs : List Char} (ends : EndsLine cs) {drop : Char → Bool}
    (stop : drop '\n' = false) (rest : List Char) :
    (cs ++ rest).dropWhile drop = cs.dropWhile drop ++ rest ∧ EndsLine (cs.dropWhile drop) := by
  rcases dropWhile_append_of_mem ends.mem drop stop rest with ⟨append_eq, nonempty⟩
  exact ⟨append_eq, ends.of_suffix (List.dropWhile_suffix drop) nonempty⟩

/-- What is left of two texts is left of the first one, if it is longer than the second. -/
theorem exists_append_of_suffix {cs rest left : List Char} (suffix : left <:+ cs ++ rest)
    (longer : rest.length < left.length) :
    ∃ tail, tail ≠ [] ∧ tail <:+ cs ∧ left = tail ++ rest := by
  obtain ⟨tail, rfl⟩ :=
    List.suffix_of_suffix_length_le (List.suffix_append cs rest) suffix (Nat.le_of_lt longer)
  refine ⟨tail, ?_, ?_, rfl⟩
  · rintro rfl
    simp at longer
  · rcases suffix with ⟨before, eq⟩
    rw [← List.append_assoc, List.append_left_inj] at eq
    exact ⟨before, eq⟩

/-! ## Steps that stay within a line -/

/-- A step that stops where the line ends, at the latest. -/
def LineLocal (step : List Char → List Char) : Prop :=
  ∀ ⦃cs : List Char⦄, EndsLine cs → ∀ rest, step (cs ++ rest) = step cs ++ rest ∧
    EndsLine (step cs)

theorem lineLocal_skipInner : LineLocal skipInner :=
  fun _ ends => ends.dropWhile (by decide)

/-- Pass everything up to the end of the line. -/
def toLineEnd (cs : List Char) : List Char := cs.dropWhile fun c => !isLineEnd c

theorem lineLocal_toLineEnd : LineLocal toLineEnd :=
  fun _ ends => ends.dropWhile (by decide)

theorem skipInner_suffix (cs : List Char) : skipInner cs <:+ cs :=
  List.dropWhile_suffix isInnerBlank

theorem toLineEnd_suffix (cs : List Char) : toLineEnd cs <:+ cs :=
  List.dropWhile_suffix fun c => !isLineEnd c

theorem skipExport_suffix (cs : List Char) : skipExport cs <:+ cs := by
  unfold skipExport
  simp only
  split
  next => exact (skipInner_suffix _).trans (List.drop_suffix _ cs)
  next => exact List.suffix_rfl

theorem skipRemark_eq (cs : List Char) :
    skipRemark cs =
      if (skipInner cs).head? = some '#' then toLineEnd (skipInner cs).tail else cs := by
  unfold skipRemark
  split
  next rest inner => simp [inner, toLineEnd]
  next other =>
    rw [if_neg]
    intro remark
    cases inner : skipInner cs with
    | nil => simp [inner] at remark
    | cons c tail =>
        obtain rfl : c = '#' := by simpa [inner] using remark
        exact other tail inner

theorem skipRemark_suffix (cs : List Char) : skipRemark cs <:+ cs := by
  rw [skipRemark_eq]
  split
  next =>
    exact ((toLineEnd_suffix _).trans (List.tail_suffix _)).trans (skipInner_suffix cs)
  next => exact List.suffix_rfl

/-- A word without line feeds is found before the end of a line or not at all. -/
theorem EndsLine.word_prefix_iff {cs : List Char} (ends : EndsLine cs) {word : List Char}
    (single : '\n' ∉ word) (rest : List Char) : word <+: cs ++ rest ↔ word <+: cs := by
  constructor
  · intro starts
    rcases Nat.le_total word.length cs.length with short | long
    · exact List.prefix_of_prefix_length_le starts (List.prefix_append cs rest) short
    · have inside : cs <+: word :=
        List.prefix_of_prefix_length_le (List.prefix_append cs rest) starts long
      exact absurd (inside.subset ends.mem) single
  · intro starts
    exact starts.trans (List.prefix_append cs rest)

theorem lineLocal_skipExport : LineLocal skipExport := by
  intro cs ends rest
  have single : '\n' ∉ exportWord := by decide
  have word_iff := ends.word_prefix_iff single rest
  by_cases starts : exportWord <+: cs
  · rcases starts with ⟨behind, rfl⟩
    have behind_ends : EndsLine behind := by
      apply ends.of_suffix (List.suffix_append exportWord behind)
      rintro rfl
      simp [EndsLine, exportWord] at ends
    have head_eq : (behind ++ rest).head? = behind.head? :=
      List.head?_append_of_ne_nil _ behind_ends.ne_nil
    have opened : ∀ tail, exportWord.isPrefixOf (exportWord ++ tail) = true := by simp
    rw [List.append_assoc]
    simp only [skipExport, opened, List.drop_left, head_eq, Bool.true_and]
    split
    next => exact lineLocal_skipInner behind_ends rest
    next => exact ⟨by simp, ends⟩
  · have closed : exportWord.isPrefixOf cs = false := by
      rw [← Bool.not_eq_true, List.isPrefixOf_iff_prefix]
      exact starts
    have closed_append : exportWord.isPrefixOf (cs ++ rest) = false := by
      rw [← Bool.not_eq_true, List.isPrefixOf_iff_prefix, word_iff]
      exact starts
    simp only [skipExport, closed, closed_append, Bool.false_and, Bool.false_eq_true, if_false]
    exact ⟨trivial, ends⟩

theorem lineLocal_skipRemark : LineLocal skipRemark := by
  intro cs ends rest
  rcases lineLocal_skipInner ends rest with ⟨inner_eq, inner_ends⟩
  rw [skipRemark_eq, skipRemark_eq, inner_eq, List.head?_append_of_ne_nil _ inner_ends.ne_nil,
    List.tail_append_of_ne_nil inner_ends.ne_nil]
  split
  next remark =>
    have tail_ends := inner_ends.tail_of_head? remark (by decide)
    exact lineLocal_toLineEnd tail_ends rest
  next => exact ⟨rfl, ends⟩

end EnvConcord.EnvFile.Binding
