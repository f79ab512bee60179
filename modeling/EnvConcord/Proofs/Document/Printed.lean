import EnvConcord.Document.Yaml.Writer
import EnvConcord.Proofs.Document.Lines

/-!
# The characters of written documents

A document is written in line feeds and printable ASCII only, whatever its texts hold: every other
character is escaped.  So no carriage return is in a written document, and nothing is lost where a
file is read with all its line breaks as line feeds.
-/

namespace EnvConcord

/-! ## Printed texts -/

/-- The line feed and the printable characters of ASCII. -/
def IsPrintedChar (c : Char) : Prop := c = '\n' ∨ (' ' ≤ c ∧ c ≤ '~')

instance : DecidablePred IsPrintedChar := fun c =>
  inferInstanceAs (Decidable (c = '\n' ∨ (' ' ≤ c ∧ c ≤ '~')))

theorem isPrintedChar_of_all {cs : List Char}
    (all : cs.all (fun c => decide (IsPrintedChar c)) = true) : ∀ c ∈ cs, IsPrintedChar c := by
  simpa using all

/-- Whether all characters of a text are printed as they are. -/
def Printed (s : String) : Prop := ∀ c ∈ s.toList, IsPrintedChar c

instance : DecidablePred Printed := fun s =>
  List.decidableBAll IsPrintedChar s.toList

theorem IsPrintedChar.of_code {c : Char} (lower : 32 ≤ c.toNat) (upper : c.toNat ≤ 126) :
    IsPrintedChar c :=
  Or.inr ⟨lower, upper⟩

namespace Printed

@[simp]
theorem append_iff (first second : String) :
    Printed (first ++ second) ↔ Printed first ∧ Printed second := by
  simp only [Printed, String.toList_append, List.forall_mem_append]

@[simp]
theorem ofList_iff (cs : List Char) :
    Printed (String.ofList cs) ↔ ∀ c ∈ cs, IsPrintedChar c := by
  rw [Printed, String.toList_ofList]

@[simp]
theorem toString_iff (c : Char) : Printed c.toString ↔ IsPrintedChar c := by simp [Printed]

theorem cr_not_mem {s : String} (printed : Printed s) : '\r' ∉ s.toList :=
  fun mem => absurd (printed '\r' mem) (by decide)

theorem empty : Printed "" := by decide

theorem blanks (count : Nat) : Printed (String.ofList (List.replicate count ' ')) := by
  rw [ofList_iff]
  intro c mem
  obtain rfl := List.eq_of_mem_replicate mem
  decide

theorem ofNumber (x : Number) : Printed x.text := by
  intro c mem
  rcases Number.isNumberChar_of_mem_text mem with digit | mark
  · have bounds : 48 ≤ c.toNat ∧ c.toNat ≤ 57 := by
      simpa [Char.isDigit, UInt32.le_iff_toNat_le] using digit
    exact .of_code (by omega) (by omega)
  · fin_cases mark <;> decide

end Printed

namespace Text

theorem isPrintedChar_of_mem_hexDigits {width n : Nat} {c : Char} (mem : c ∈ hexDigits width n) :
    IsPrintedChar c ∧ IsPrintedChar c.toUpper := by
  rcases List.mem_append.1 mem with zero | digit
  · obtain rfl := List.eq_of_mem_replicate zero
    decide
  · obtain ⟨value, small, rfl⟩ := mem_toDigits_sixteen digit
    have all_printed : ∀ value < 16,
        IsPrintedChar value.digitChar ∧ IsPrintedChar value.digitChar.toUpper := by
      decide
    exact all_printed value small

end Text

namespace Document

/-! ## JSON texts -/

namespace Json

theorem isPrintedChar_of_mem_escapeUnit {code : Nat} :
    ∀ c ∈ escapeUnit code, IsPrintedChar c := by
  simp only [escapeUnit, List.forall_mem_cons]
  exact ⟨by decide, by decide, fun c mem => (Text.isPrintedChar_of_mem_hexDigits mem).1⟩

theorem isPrintedChar_of_simpleEscape? {letter c : Char} (known : simpleEscape? letter = some c) :
    IsPrintedChar letter := by
  unfold simpleEscape? at known
  split at known
  any_goals decide
  contradiction

theorem isPrintedChar_of_mem_escapeChar (c : Char) : ∀ d ∈ escapeChar c, IsPrintedChar d := by
  rcases escapeChar_cases c with ⟨letter, -, known, eq⟩ | ⟨-, -, lower, upper, eq⟩ | ⟨-, eq⟩ |
    ⟨-, eq⟩ <;> rw [eq]
  · simp only [List.forall_mem_cons]
    exact ⟨by decide, isPrintedChar_of_simpleEscape? known, List.forall_mem_nil _⟩
  · exact List.forall_mem_singleton.2 (.of_code lower upper)
  · exact isPrintedChar_of_mem_escapeUnit
  · exact List.forall_mem_append.2
      ⟨isPrintedChar_of_mem_escapeUnit, isPrintedChar_of_mem_escapeUnit⟩

theorem printed_writeText (s : String) : Printed (writeText s) := by
  rw [Printed, toList_writeText]
  refine List.forall_mem_cons.2 ⟨by decide, List.forall_mem_append.2
    ⟨fun d mem => ?_, List.forall_mem_singleton.2 (by decide)⟩⟩
  obtain ⟨c, -, own⟩ := List.mem_flatMap.1 mem
  exact isPrintedChar_of_mem_escapeChar c d own

section Layouts

variable {layout : Layout} (comma : Printed layout.comma) (colon : Printed layout.colon)

theorem printed_break (layout : Layout) (depth : Nat) : Printed (layout.break depth) := by
  rw [Layout.break]
  cases layout.indent with
  | none => exact Printed.empty
  | some width => exact (Printed.append_iff _ _).2 ⟨by decide, Printed.blanks _⟩

include comma in
theorem printed_writeItems {items : List Value}
    (each : ∀ item ∈ items, ∀ depth, Printed (writeAt layout depth item)) (depth : Nat) :
    Printed (writeItems layout depth items) := by
  induction items with
  | nil => exact Printed.empty
  | cons item rest ih =>
      have own := each item List.mem_cons_self depth
      have later := ih fun other mem => each other (List.mem_cons_of_mem item mem)
      cases rest <;> simp only [writeItems, Printed.append_iff, printed_break, own, comma, later,
        and_self]

include comma colon in
theorem printed_writeEntries {entries : List (String × Value)}
    (each : ∀ entry ∈ entries, ∀ depth, Printed (writeAt layout depth entry.2)) (depth : Nat) :
    Printed (writeEntries layout depth (membersOf entries)) := by
  induction entries with
  | nil => exact Printed.empty
  | cons entry rest ih =>
      have own := each entry List.mem_cons_self depth
      have name : Printed (writeName (.text entry.1)) := printed_writeText entry.1
      have later := ih fun other mem => each other (List.mem_cons_of_mem entry mem)
      cases rest <;> simp_all only [membersOf, List.map_cons, List.map_nil, writeEntries,
        Printed.append_iff, printed_break, and_self]

include comma colon in
/-- A value that JSON can express is written in printed characters. -/
theorem printed_writeAt {value : Value} (json : value.IsJson) (depth : Nat) :
    Printed (writeAt layout depth value) := by
  induction json generalizing depth with
  | null => exact (by decide : Printed "null")
  | bool flag =>
      cases flag with
      | false => exact (by decide : Printed "false")
      | true => exact (by decide : Printed "true")
  | @int n proper => exact Printed.ofNumber (.int n)
  | @float x proper =>
      obtain _ | _ | _ := x
      case finite => exact Printed.ofNumber (.float _)
      case infinite => contradiction
      case nan => contradiction
  | text s => exact printed_writeText s
  | @list items each ih =>
      cases items with
      | nil => exact (by decide : Printed "[]")
      | cons item rest =>
          simp only [writeAt, Printed.append_iff, printed_break,
            printed_writeItems comma ih, and_true]
          exact ⟨by decide, by decide⟩
  | @object entries distinct each ih =>
      cases entries with
      | nil => exact (by decide : Printed "\x7b\x7d")
      | cons entry rest =>
          have members := printed_writeEntries comma colon ih (depth + 1)
          simp only [membersOf, List.map_cons] at members
          simp only [Value.object, List.map_cons, writeAt, Printed.append_iff, printed_break,
            members, and_true]
          exact ⟨by decide, by decide⟩

end Layouts

end Json

/-! ## YAML texts -/

namespace Yaml

theorem printed_newLine (indent : Nat) : Printed (newLine indent) :=
  (Printed.append_iff _ _).2 ⟨by decide, Printed.blanks indent⟩

theorem isPrintedChar_of_needsEscape_eq_false {c : Char} (plain : needsEscape c = false) :
    IsPrintedChar c := by
  by_cases line : c = '\n'
  · exact Or.inl line
  · right
    simpa [needsEscape, line] using plain

theorem printed_writePlain {cs : List Char} (printed : ∀ c ∈ cs, IsPrintedChar c) (m : Margin)
    (column : Nat) (previous : Char) : Printed (writePlain m column previous cs) := by
  fun_induction writePlain m column previous cs with
  | case1 => exact Printed.empty
  | case2 column previous rest breaks ih =>
      rw [Printed.append_iff]
      exact ⟨printed_newLine m.indent, ih (List.forall_mem_cons.1 printed).2⟩
  | case3 column previous rest stays ih =>
      rw [Printed.append_iff]
      exact ⟨by decide, ih (List.forall_mem_cons.1 printed).2⟩
  | case4 column previous c rest other ih =>
      rw [Printed.append_iff, Printed.toString_iff]
      exact ⟨(List.forall_mem_cons.1 printed).1, ih (List.forall_mem_cons.1 printed).2⟩

theorem printed_writeSingle {cs : List Char} (printed : ∀ c ∈ cs, IsPrintedChar c) (m : Margin)
    (column : Nat) (previous : Option Char) : Printed (writeSingle m column previous cs) := by
  fun_induction writeSingle m column previous cs with
  | case1 => exact Printed.empty
  | case2 column previous rest breaks ih =>
      rw [Printed.append_iff]
      exact ⟨printed_newLine m.indent, ih (List.forall_mem_cons.1 printed).2⟩
  | case3 column previous rest stays ih =>
      rw [Printed.append_iff]
      exact ⟨by decide, ih (List.forall_mem_cons.1 printed).2⟩
  | case4 column previous rest ih =>
      rw [Printed.append_iff, Printed.append_iff]
      refine ⟨⟨?_, ?_⟩, ih (List.forall_mem_cons.1 printed).2⟩
      · split <;> decide
      · split
        · exact Printed.empty
        · exact Printed.blanks m.indent
  | case5 column previous rest ih =>
      rw [Printed.append_iff]
      exact ⟨by decide, ih (List.forall_mem_cons.1 printed).2⟩
  | case6 column previous c rest no_blank no_line no_quote ih =>
      rw [Printed.append_iff, Printed.toString_iff]
      exact ⟨(List.forall_mem_cons.1 printed).1, ih (List.forall_mem_cons.1 printed).2⟩

theorem isPrintedChar_of_mem_escapeOf (c : Char) : ∀ d ∈ escapeOf c, IsPrintedChar d := by
  have hex (letter : Char) (own : IsPrintedChar letter) (width : Nat) :
      ∀ d ∈ '\\' :: letter :: upperHex width c.toNat, IsPrintedChar d := by
    simp only [List.forall_mem_cons, upperHex, List.forall_mem_map]
    exact ⟨by decide, own, fun d mem => (Text.isPrintedChar_of_mem_hexDigits mem).2⟩
  have short (entry : Char × Char) (mem : entry ∈ shortEscapes) : IsPrintedChar entry.2 := by
    fin_cases mem <;> decide
  rw [escapeOf]
  cases found : shortEscapes.lookup c with
  | some letter =>
      obtain ⟨before, after, eq, -⟩ := List.lookup_eq_some_iff.1 found
      have own : IsPrintedChar letter := short (c, letter) (by simp [eq])
      simp only [List.forall_mem_cons]
      exact ⟨by decide, own, List.forall_mem_nil _⟩
  | none =>
      simp only
      split_ifs
      · exact hex 'x' (by decide) 2
      · exact hex 'u' (by decide) 4
      · exact hex 'U' (by decide) 8

theorem printed_foldDouble (m : Margin) (next : Option Char) : Printed (foldDouble m next).1 := by
  have back : Printed ("\\" ++ newLine m.indent) :=
    (Printed.append_iff _ _).2 ⟨by decide, printed_newLine m.indent⟩
  rw [foldDouble]
  split
  · exact (Printed.append_iff _ _).2 ⟨back, by decide⟩
  · exact back

theorem isPrintedChar_of_isEscaped_eq_false {c : Char} (plain : isEscaped c = false) :
    IsPrintedChar c := by
  right
  simp only [isEscaped, Bool.or_eq_false_iff, Bool.not_eq_false', Bool.and_eq_true,
    decide_eq_true_eq] at plain
  exact plain.1.1

theorem printed_writeDouble (m : Margin) (column : Nat) (first afterEscape : Bool)
    (cs : List Char) : Printed (writeDouble m column first afterEscape cs) := by
  induction cs generalizing column first afterEscape with
  | nil => exact Printed.empty
  | cons c rest ih =>
      simp only [writeDouble]
      split_ifs with escaped breaks folds
      · simp only [Printed.append_iff, Printed.ofList_iff]
        exact ⟨⟨isPrintedChar_of_mem_escapeOf c, printed_foldDouble m rest.head?⟩, ih _ _ _⟩
      · rw [Printed.append_iff, Printed.ofList_iff]
        exact ⟨isPrintedChar_of_mem_escapeOf c, ih _ _ _⟩
      · have own := isPrintedChar_of_isEscaped_eq_false (Bool.eq_false_iff.2 escaped)
        simp only [Printed.append_iff, Printed.toString_iff]
        exact ⟨⟨printed_foldDouble m (some c), own⟩, ih _ _ _⟩
      · have own := isPrintedChar_of_isEscaped_eq_false (Bool.eq_false_iff.2 escaped)
        rw [Printed.append_iff, Printed.toString_iff]
        exact ⟨own, ih _ _ _⟩

/-- A text that is not written between double quotes has printed characters only. -/
theorem isPrintedChar_of_style {s : String} (other : TextStyle.of s ≠ .double) :
    ∀ c ∈ s.toList, IsPrintedChar c := by
  have harmless : s.toList.any needsEscape = false := by
    by_contra harm
    rw [Bool.not_eq_false] at harm
    have no_plain : isPlainText s.toList = false := by simp [isPlainText, harm]
    exact other (by simp [TextStyle.of, no_plain, harm])
  intro c mem
  exact isPrintedChar_of_needsEscape_eq_false
    (Bool.eq_false_iff.2 (List.any_eq_false.1 harmless c mem))

theorem printed_writeText (m : Margin) (column : Nat) (s : String) :
    Printed (writeText m column s) := by
  unfold writeText
  cases style : TextStyle.of s with
  | plain =>
      exact printed_writePlain (isPrintedChar_of_style (by simp [style])) m column ' '
  | single =>
      simp only [Printed.append_iff]
      exact ⟨⟨by decide, printed_writeSingle (isPrintedChar_of_style (by simp [style])) m _ none⟩,
        by decide⟩
  | double =>
      simp only [Printed.append_iff]
      exact ⟨⟨by decide, printed_writeDouble m _ true false s.toList⟩, by decide⟩

theorem printed_floatText (x : Binary64) : Printed (floatText x) := by
  have digits := Printed.ofNumber (.float x)
  obtain ⟨negative, mantissa, exponent⟩ | negative | _ := x
  · simp only [floatText]
    split_ifs
    · rwa [String.ofList_toList]
    · rw [Printed.ofList_iff, List.forall_mem_append, List.forall_mem_append]
      refine ⟨⟨?_, isPrintedChar_of_all (by decide)⟩, ?_⟩
      · exact fun c mem => digits c (List.takeWhile_subset _ mem)
      · exact fun c mem => digits c (List.dropWhile_subset _ mem)
  · cases negative
    · exact (by decide : Printed ".inf")
    · exact (by decide : Printed "-.inf")
  · exact (by decide : Printed ".nan")

theorem printed_writeScalar {value : Value} (json : value.IsJson) (m : Margin) (column : Nat) :
    Printed (writeScalar m column value) := by
  cases json with
  | null => exact (by decide : Printed "null")
  | bool flag =>
      cases flag with
      | false => exact (by decide : Printed "false")
      | true => exact (by decide : Printed "true")
  | @int n proper => exact Printed.ofNumber (.int n)
  | float proper => exact printed_floatText _
  | text s => exact printed_writeText m column s
  | list each => exact (by decide : Printed "[]")
  | object distinct each => exact (by decide : Printed "\x7b\x7d")

theorem printed_writeKey (indent : Nat) (name : String) :
    Printed (writeKey indent (.text name)) := by
  have written (m : Margin) (column : Nat) : Printed (writeScalar m column (.text name)) :=
    printed_writeText m column name
  rw [writeKey]
  split
  · exact (Printed.append_iff _ _).2 ⟨written _ _, by decide⟩
  · simp only [Printed.append_iff]
    exact ⟨⟨⟨by decide, written _ _⟩, printed_newLine indent⟩, by decide⟩

theorem printed_writeItems {items : List Value}
    (each : ∀ item ∈ items, ∀ indent column sameLine,
      Printed (writeAfter indent column sameLine item)) (indent : Nat) :
    Printed (writeItems indent items) := by
  induction items with
  | nil => exact Printed.empty
  | cons item rest ih =>
      have own := each item List.mem_cons_self indent (indent + 1) true
      have later := ih fun other mem => each other (List.mem_cons_of_mem item mem)
      have dash : Printed "-" := by decide
      cases rest <;> simp only [writeItems, Printed.append_iff, printed_newLine, dash, own, later,
        and_self]

theorem printed_writeEntries {entries : List (String × Value)}
    (each : ∀ entry ∈ entries, ∀ indent column sameLine,
      Printed (writeAfter indent column sameLine entry.2)) (indent : Nat) :
    Printed (writeEntries indent (Json.membersOf entries)) := by
  induction entries with
  | nil => exact Printed.empty
  | cons entry rest ih =>
      have own := each entry List.mem_cons_self indent (keyEnd indent (.text entry.1))
        (!isSimpleKey (.text entry.1))
      have later := ih fun other mem => each other (List.mem_cons_of_mem entry mem)
      have name := printed_writeKey indent entry.1
      cases rest <;> simp_all only [Json.membersOf, List.map_cons, List.map_nil, writeEntries,
        Printed.append_iff, printed_newLine, and_self]

theorem printed_writeAfter {value : Value} (json : value.IsJson) (indent column : Nat)
    (sameLine : Bool) : Printed (writeAfter indent column sameLine value) := by
  have scalar {value : Value} (json : value.IsJson) (m : Margin) (column : Nat) :
      Printed (" " ++ writeScalar m column value) :=
    (Printed.append_iff _ _).2 ⟨by decide, printed_writeScalar json m column⟩
  induction json generalizing indent column sameLine with
  | null => exact scalar .null _ _
  | bool flag => exact scalar (.bool flag) _ _
  | int proper => exact scalar (.int proper) _ _
  | float proper => exact scalar (.float proper) _ _
  | text s => exact scalar (.text s) _ _
  | @list items each ih =>
      cases items with
      | nil => exact scalar (.list each) _ _
      | cons item rest =>
          have written (start : Nat) : Printed (writeItems start (item :: rest)) :=
            printed_writeItems ih start
          cases sameLine with
          | false => exact (Printed.append_iff _ _).2 ⟨printed_newLine indent, written indent⟩
          | true => exact (Printed.append_iff " " _).2 ⟨by decide, written (indent + 2)⟩
  | @object entries distinct each ih =>
      cases entries with
      | nil => exact scalar (.object distinct each) _ _
      | cons entry rest =>
          have opening : Printed (if sameLine then " " else newLine (indent + 2)) := by
            split
            · decide
            · exact printed_newLine (indent + 2)
          exact (Printed.append_iff _ _).2 ⟨opening, printed_writeEntries ih (indent + 2)⟩

/-- A value that JSON can express is written in printed characters as YAML, too. -/
theorem printed_write {value : Value} (json : value.IsJson) : Printed (write value) := by
  have line {body : String} (printed : Printed body) : Printed (body ++ "\n") :=
    (Printed.append_iff _ _).2 ⟨printed, by decide⟩
  have scalar := line (printed_writeScalar json ⟨2, true⟩ 0)
  cases json with
  | null | bool | int | float | text => exact scalar
  | @list items each =>
      cases items with
      | nil => exact scalar
      | cons item rest =>
          exact line (printed_writeItems (fun own mem => printed_writeAfter (each own mem)) 0)
  | @object entries distinct each =>
      cases entries with
      | nil => exact scalar
      | cons entry rest =>
          exact line (printed_writeEntries (fun own mem => printed_writeAfter (each own mem)) 0)

end Yaml

end Document

end EnvConcord
