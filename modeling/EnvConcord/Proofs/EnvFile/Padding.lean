import EnvConcord.Proofs.Collection.Traversal
import EnvConcord.Proofs.EnvFile.Reading

/-!
# Padded env files

Blanks at the ends of a line and around its first `=` do not change what the line says, so env
files that differ in such blanks only are read alike, diagnostics and places included.  Carriage
returns in front of the line breaks are blanks of that kind.
-/

namespace EnvConcord.EnvFile

/-! ## Padded lines -/

/-- Blanks that do not break a line. -/
def IsPadding (run : List Char) : Prop := ∀ c ∈ run, Text.isBlank c = true ∧ c ≠ '\n'

/-- A second line is the first one with padding at its ends and around its first `=`. -/
inductive PadsLine : List Char → List Char → Prop
  | ends {line left right : List Char} (absent : '=' ∉ line) (left_pads : IsPadding left)
      (right_pads : IsPadding right) : PadsLine line (left ++ line ++ right)
  | equals {before after left inner outer right : List Char} (absent : '=' ∉ before)
      (left_pads : IsPadding left) (inner_pads : IsPadding inner) (outer_pads : IsPadding outer)
      (right_pads : IsPadding right) :
      PadsLine (before ++ '=' :: after)
        (left ++ before ++ inner ++ '=' :: (outer ++ after ++ right))

theorem IsPadding.blank {run : List Char} (pads : IsPadding run) :
    ∀ c ∈ run, Text.isBlank c = true :=
  fun c mem => (pads c mem).1

theorem IsPadding.equals_not_mem {run : List Char} (pads : IsPadding run) : '=' ∉ run :=
  fun mem => absurd (pads.blank _ mem) (by decide)

theorem IsPadding.break_not_mem {run : List Char} (pads : IsPadding run) : '\n' ∉ run :=
  fun mem => (pads _ mem).2 rfl

theorem isPadding_nil : IsPadding [] := fun _ mem => absurd mem List.not_mem_nil

theorem padsLine_append {right : List Char} (pads : IsPadding right) (line : List Char) :
    PadsLine line (line ++ right) := by
  by_cases present : '=' ∈ line
  · obtain ⟨before, after, rfl, absent⟩ := List.eq_append_cons_of_mem present
    have padded : PadsLine (before ++ '=' :: after)
        ([] ++ before ++ [] ++ '=' :: ([] ++ after ++ right)) :=
      .equals absent isPadding_nil isPadding_nil isPadding_nil pads
    simpa using padded
  · simpa using PadsLine.ends present isPadding_nil pads

theorem PadsLine.refl (line : List Char) : PadsLine line line := by
  simpa using padsLine_append isPadding_nil line

theorem isSkipped_congr {line other : List Char} (same : Text.trim line = Text.trim other) :
    isSkipped line = isSkipped other := by
  rw [isSkipped_eq, isSkipped_eq, same]

theorem unquote_congr {cs other : List Char} (same : Text.trim cs = Text.trim other) :
    unquote cs = unquote other := by
  simp only [unquote, same]

/-- Padding does not change what a line says. -/
theorem PadsLine.readLine_eq {line padded : List Char} (pads : PadsLine line padded) :
    readLine padded = readLine line := by
  cases pads with
  | @ends _ left right absent left_pads right_pads =>
      have absent_padded : '=' ∉ left ++ line ++ right := by
        simp [absent, left_pads.equals_not_mem, right_pads.equals_not_mem]
      have skipped_eq := isSkipped_congr
        (Text.trim_append_of_blank left_pads.blank right_pads.blank line)
      rw [readLine_of_not_mem absent_padded, readLine_of_not_mem absent, skipped_eq]
  | @equals before after left inner outer right absent left_pads inner_pads outer_pads right_pads =>
      have absent_padded : '=' ∉ left ++ before ++ inner := by
        simp [absent, left_pads.equals_not_mem, inner_pads.equals_not_mem]
      have value_eq := unquote_congr
        (Text.trim_append_of_blank outer_pads.blank right_pads.blank after)
      rw [readLine_append_equals absent_padded, readLine_append_equals absent,
        Text.trim_append_of_blank left_pads.blank inner_pads.blank, value_eq]

theorem PadsLine.break_not_mem {line padded : List Char} (pads : PadsLine line padded)
    (single : '\n' ∉ line) : '\n' ∉ padded := by
  cases pads with
  | ends absent left_pads right_pads =>
      simp [single, left_pads.break_not_mem, right_pads.break_not_mem]
  | equals absent left_pads inner_pads outer_pads right_pads =>
      simp_all [left_pads.break_not_mem, inner_pads.break_not_mem, outer_pads.break_not_mem,
        right_pads.break_not_mem]

/-! ## Padded texts -/

/-- A second text is the first one with padding in its lines. -/
def Pads (text padded : String) : Prop :=
  ∃ lines, List.Forall₂ PadsLine (Text.lines text.toList) lines ∧
    padded.toList = ['\n'].intercalate lines

/-- Lines that are padded one by one are recorded alike. -/
theorem addLines_of_padsLines {lines padded : List (List Char)}
    (pads : List.Forall₂ PadsLine lines padded) (file : EnvFile) (number : Nat) :
    addLines file number padded = addLines file number lines := by
  induction pads generalizing file number with
  | nil => rfl
  | cons first later ih => rw [addLines, addLines, first.readLine_eq, ih]

/-- The lines of a padded text are the padded lines of the text. -/
theorem Pads.lines {text padded : String} (pads : Pads text padded) :
    List.Forall₂ PadsLine (Text.lines text.toList) (Text.lines padded.toList) := by
  obtain ⟨lines, padsLines, padded_eq⟩ := pads
  have single : ∀ line ∈ lines, '\n' ∉ line := by
    intro line mem
    obtain ⟨original, original_mem, pads⟩ := Collection.exists_mem_of_forall₂ padsLines.flip mem
    exact pads.break_not_mem (Text.break_not_mem_of_mem_lines original_mem)
  have nonempty : lines ≠ [] := by
    rintro rfl
    exact Text.splitAt_ne_nil '\n' _ (List.forall₂_nil_right_iff.1 padsLines)
  rwa [padded_eq, Text.lines_intercalate single nonempty]

/-! ## Carriage returns -/

/-- Lines of which each but the last ends in a carriage return. -/
def returned : List (List Char) → List (List Char)
  | [] => []
  | [line] => [line]
  | line :: rest => (line ++ ['\r']) :: returned rest

/-- A text with a carriage return in front of every line break. -/
def withReturns (text : String) : String :=
  String.ofList (['\r', '\n'].intercalate (Text.lines text.toList))

theorem intercalate_returned (lines : List (List Char)) :
    ['\n'].intercalate (returned lines) = ['\r', '\n'].intercalate lines := by
  induction lines with
  | nil => rfl
  | cons line rest ih =>
      cases rest with
      | nil => rfl
      | cons next others =>
          have returned_eq : returned (line :: next :: others) =
              (line ++ ['\r']) :: returned (next :: others) := rfl
          have nonempty : returned (next :: others) ≠ [] := by cases others <;> simp [returned]
          rw [returned_eq, List.intercalate_cons_of_ne_nil nonempty, ih]
          simp [List.intercalate_cons_cons]

theorem padsLines_returned (lines : List (List Char)) :
    List.Forall₂ PadsLine lines (returned lines) := by
  induction lines with
  | nil => exact List.Forall₂.nil
  | cons line rest ih =>
      cases rest with
      | nil => exact List.Forall₂.cons (PadsLine.refl line) List.Forall₂.nil
      | cons next others =>
          have return_pads : IsPadding ['\r'] := by simp [IsPadding]; decide
          exact List.Forall₂.cons (padsLine_append return_pads line) ih

theorem pads_withReturns (text : String) : Pads text (withReturns text) := by
  refine ⟨returned (Text.lines text.toList), padsLines_returned _, ?_⟩
  rw [withReturns, String.toList_ofList, intercalate_returned]

/-! ## Files -/

/-- Padding changes nothing of what is read of a text, and neither do carriage returns in front of
its line breaks. -/
theorem parse_padded (text path : String) :
    (∀ padded, Pads text padded → parse padded path = parse text path) ∧
      parse (withReturns text) path = parse text path := by
  have same : ∀ padded, Pads text padded → parse padded path = parse text path := by
    intro padded pads
    rw [parse, parse, addLines_of_padsLines pads.lines]
  exact ⟨same, same _ (pads_withReturns text)⟩

/-- Lines whose key is the word for exporting, whose value is quoted, and without an `=`. -/
def tightText : String := "export=1\nKEY='v'\nbad"

/-- The same lines with blanks wherever they do not count. -/
def looseText : String := "\texport =1\r\nKEY =\t'v' \n bad\r"

theorem parse_padded_looseText :
    Pads tightText looseText ∧ parse looseText ".env" = parse tightText ".env" ∧
      (parse looseText ".env").values = [("export", "1"), ("KEY", "v")] := by
  have blank_pads (c : Char) (blank : Text.isBlank c = true ∧ c ≠ '\n') : IsPadding [c] := by
    simpa [IsPadding] using blank
  have lines_eq : Text.lines tightText.toList =
      ["export".toList ++ '=' :: ['1'], "KEY".toList ++ '=' :: "'v'".toList, "bad".toList] := by
    decide
  have pads : Pads tightText looseText := by
    refine ⟨
      [ ['\t'] ++ "export".toList ++ [' '] ++ '=' :: ([] ++ ['1'] ++ ['\r']),
        [] ++ "KEY".toList ++ [' '] ++ '=' :: (['\t'] ++ "'v'".toList ++ [' ']),
        [' '] ++ "bad".toList ++ ['\r'] ], ?_, by decide⟩
    rw [lines_eq]
    refine .cons (.equals (by decide) ?_ ?_ isPadding_nil ?_) <|
      .cons (.equals (by decide) isPadding_nil ?_ ?_ ?_) <|
      .cons (.ends (by decide) ?_ ?_) .nil
    all_goals exact blank_pads _ (by decide)
  have same := (parse_padded tightText ".env").1 looseText pads
  exact ⟨pads, same, same ▸ by decide⟩

end EnvConcord.EnvFile
