import EnvConcord.Document.Plain
import EnvConcord.Proofs.Document.Json.Strings
import EnvConcord.Proofs.Number.Numerals
import Mathlib.Tactic.FinCases

/-!
# JSON values

A value that JSON can express is read back from its text, whether that stands on one line or
every item on its own.  The text of a value tells where the value ends, except for a number, which
ends where a text goes on with neither a digit nor a point nor an exponent; in a written text that
is white space, a comma, a closing bracket or nothing.
-/

namespace EnvConcord.Document

/-- The values that JSON can express: integers of no more digits than are converted, finite
doubles, and mappings of distinct texts. -/
inductive Value.IsJson : Value → Prop
  | null : IsJson .null
  | bool (flag : Bool) : IsJson (.bool flag)
  | int {n : Int} (proper : (Number.int n).IsProper) : IsJson (.int n)
  | float {x : Binary64} (proper : x.IsProper) : IsJson (.float x)
  | text (s : String) : IsJson (.text s)
  | list {items : List Value} (each : ∀ item ∈ items, IsJson item) : IsJson (.list items)
  | object {entries : List (String × Value)} (distinct : (entries.map Prod.fst).Nodup)
      (each : ∀ entry ∈ entries, IsJson entry.2) : IsJson (.object entries)

namespace Json

open Numeral

/-! ## Numbers -/

/-- The characters that can stand behind a value: white space, a comma and the closing
brackets. -/
def followers : List Char := [' ', '\t', '\n', '\r', ',', ']', '\x7d']

/-- Whether a text goes on behind a value as JSON texts do, or not at all. -/
def Follows (rest : List Char) : Prop := ∀ c ∈ rest.head?, c ∈ followers

theorem Follows.head?_eq_false {rest : List Char} (follows : Follows rest) {p : Char → Bool}
    (apart : followers.any p = false) : ∀ c ∈ rest.head?, p c = false :=
  fun c first => Bool.eq_false_iff.2 (List.any_eq_false.1 apart c (follows c first))

theorem takeExponent_exponentText {exponent : Option (Bool × List Char)}
    (run : ∀ part ∈ exponent, IsRun part.2) {rest : List Char} (follows : Follows rest) :
    takeExponent (exponentText exponent ++ rest) = (exponent, rest) := by
  rcases exponent with - | ⟨negative, digits⟩
  · cases rest with
    | nil => rfl
    | cons c rest =>
        have apart : (c == 'e' || c == 'E') = false :=
          follows.head?_eq_false (p := fun c => c == 'e' || c == 'E') (by decide) c rfl
        simp only [exponentText, List.nil_append, takeExponent, apart, Bool.false_and]
        rfl
  · have part_run : IsRun digits := run (negative, digits) rfl
    have kept : digits.isEmpty = false := by simpa using part_run.ne_nil
    obtain ⟨digits_read, rest_eq⟩ := part_run.takeWhile_append rest (p := Char.isDigit)
      (fun _ digit => digit) (follows.head?_eq_false (by decide))
    cases negative <;>
      simp [exponentText, takeExponent, splitSign, digits_read, rest_eq, kept]

theorem takeFraction_fractionText {fraction : Option (List Char)}
    (run : ∀ digits ∈ fraction, IsRun digits) {rest : List Char}
    (ends : ∀ c ∈ rest.head?, c ≠ '.' ∧ c.isDigit = false) :
    takeFraction (fractionText fraction ++ rest) = (fraction, rest) := by
  cases fraction with
  | none =>
      cases rest with
      | nil => rfl
      | cons c rest =>
          have apart := (ends c rfl).1
          simp [fractionText, takeFraction, apart]
  | some digits =>
      have digits_run := run digits rfl
      have kept : digits.isEmpty = false := by simpa using digits_run.ne_nil
      obtain ⟨digits_read, rest_eq⟩ := digits_run.takeWhile_append rest (p := Char.isDigit)
        (fun _ digit => digit) fun c first => (ends c first).2
      simp [fractionText, takeFraction, digits_read, rest_eq, kept]

/-- The minus sign in front of a number, and what follows it. -/
def splitMinus : List Char → Bool × List Char
  | '-' :: rest => (true, rest)
  | rest => (false, rest)

/-- The digits in front of the point: a zero stands alone. -/
def integralRun : List Char → List Char
  | '0' :: _ => ['0']
  | rest => rest.takeWhile Char.isDigit

/-- A number as a value. -/
def ofNumber : Number → Value
  | .int value => .int value
  | .float value => .float value

/-- Reading a number takes its parts one after the other. -/
theorem readNumber_eq (cs : List Char) :
    readNumber cs =
      let signed := splitMinus cs
      let integral := integralRun signed.2
      if integral.isEmpty then .error (.at .expectedValue cs)
      else
        let broken := takeFraction (signed.2.drop integral.length)
        let powered := takeExponent broken.2
        match Numeral.toNumber ⟨signed.1, integral, broken.1, powered.1⟩ with
        | .ok (.int n) => .ok (.int n, powered.2)
        | .ok (.float x) => .ok (.float x, powered.2)
        | .error cause => .error (.tooManyDigits cause) := rfl

theorem splitMinus_sign {digits : List Char} (run : IsRun digits) (negative : Bool)
    (rest : List Char) :
    splitMinus ((if negative then ['-'] else []) ++ (digits ++ rest)) =
      (negative, digits ++ rest) := by
  cases negative with
  | true => rfl
  | false =>
      obtain ⟨c, more, rfl⟩ := List.exists_cons_of_ne_nil run.ne_nil
      have digit := run.digits c (by simp)
      have other : c ≠ '-' := by
        rintro rfl
        contradiction
      simp [splitMinus, other]

theorem integralRun_append {digits : List Char} (run : IsRun digits)
    (leading : digits.head? = some '0' → digits = ['0']) {rest : List Char}
    (ends : ∀ c ∈ rest.head?, c.isDigit = false) : integralRun (digits ++ rest) = digits := by
  obtain ⟨c, more, rfl⟩ := List.exists_cons_of_ne_nil run.ne_nil
  by_cases zero : c = '0'
  · subst zero
    rw [leading rfl]
    rfl
  · have taken := (run.takeWhile_append rest (fun _ digit => digit) ends).1
    rw [List.cons_append] at taken ⊢
    rw [integralRun, taken]
    simpa using zero

theorem head?_exponentText_append (exponent : Option (Bool × List Char)) {rest : List Char}
    (follows : Follows rest) :
    ∀ c ∈ (exponentText exponent ++ rest).head?, c ≠ '.' ∧ c.isDigit = false := by
  rcases exponent with - | ⟨negative, digits⟩
  · intro c first
    have apart := follows.head?_eq_false (p := fun c => c == '.' || c.isDigit) (by decide) c first
    simpa using apart
  · intro c first
    obtain rfl : 'e' = c := by simpa [exponentText] using first
    decide

theorem head?_fractionText_append (fraction : Option (List Char)) {rest : List Char}
    (ends : ∀ c ∈ rest.head?, c.isDigit = false) :
    ∀ c ∈ (fractionText fraction ++ rest).head?, c.isDigit = false := by
  cases fraction with
  | none => exact ends
  | some digits =>
      intro c first
      obtain rfl : '.' = c := by simpa [fractionText] using first
      decide

/-- A written numeral is read as the number that it denotes. -/
theorem readNumber_text {n : Numeral} (written : n.IsWritten) {rest : List Char}
    (follows : Follows rest) {x : Number} (denotes : n.toNumber = .ok x) :
    readNumber (n.text ++ rest) = .ok (ofNumber x, rest) := by
  have text_eq : n.text ++ rest = (if n.negative then ['-'] else []) ++
      (n.integral ++ (fractionText n.fraction ++ (exponentText n.exponent ++ rest))) := by
    simp [text]
  have behind_point := head?_exponentText_append n.exponent follows
  have behind_integral := head?_fractionText_append n.fraction fun c first =>
    (behind_point c first).2
  have integral_eq := integralRun_append written.integral written.leading behind_integral
  have kept : n.integral.isEmpty = false := by simpa using written.integral.ne_nil
  rw [text_eq, readNumber_eq]
  simp only [splitMinus_sign written.integral, integral_eq, kept, List.drop_left,
    takeFraction_fractionText written.fraction behind_point,
    takeExponent_exponentText written.exponent follows, denotes]
  cases x <;> rfl

/-! ## Scalars -/

/-- A text has no word at its head if they begin with different characters. -/
theorem after?_eq_none {word : String} {first : Char} {letters : List Char}
    (word_eq : word.toList = first :: letters) {c : Char} (other : first ≠ c) (rest : List Char) :
    after? word (c :: rest) = none := by
  simp [after?, word_eq, other]

theorem readScalar_of_no_word {cs : List Char} (g : Grammar) (null : after? "null" cs = none)
    (yes : after? "true" cs = none) (no : after? "false" cs = none)
    (nan : after? "NaN" cs = none) (infinity : after? "Infinity" cs = none)
    (negative : after? "-Infinity" cs = none) : readScalar g cs = readNumber cs := by
  rw [readScalar, null, yes, no, nan, infinity, negative]

/-- A written numeral is read as a number, since no word begins with a digit or with a minus sign
and a digit. -/
theorem readScalar_text (g : Grammar) {n : Numeral} (written : n.IsWritten) (rest : List Char) :
    readScalar g (n.text ++ rest) = readNumber (n.text ++ rest) := by
  obtain ⟨c, more, integral_eq⟩ := List.exists_cons_of_ne_nil written.integral.ne_nil
  have digit : c.isDigit = true := written.integral.digits c (by simp [integral_eq])
  have other {first : Char} (letter : first.isDigit = false) : first ≠ c := by
    rintro rfl
    simp [letter] at digit
  obtain ⟨behind, text_eq⟩ : ∃ behind,
      n.text ++ rest = (if n.negative then ['-'] else []) ++ c :: behind :=
    ⟨_, by rw [text, integral_eq]; simp only [List.cons_append, List.append_assoc]; rfl⟩
  rw [text_eq]
  cases n.negative with
  | false =>
      exact readScalar_of_no_word g (after?_eq_none rfl (other rfl) _)
        (after?_eq_none rfl (other rfl) _) (after?_eq_none rfl (other rfl) _)
        (after?_eq_none rfl (other rfl) _) (after?_eq_none rfl (other rfl) _)
        (after?_eq_none rfl (other rfl) _)
  | true =>
      have not_infinite : after? "-Infinity" ('-' :: c :: behind) = none := by
        have no_letter : 'I' ≠ c := other rfl
        simp [after?, no_letter]
      exact readScalar_of_no_word g (after?_eq_none rfl (by decide) _)
        (after?_eq_none rfl (by decide) _) (after?_eq_none rfl (by decide) _)
        (after?_eq_none rfl (by decide) _) (after?_eq_none rfl (by decide) _) not_infinite

/-! ## Layouts -/

/-- Layouts that put white space between the tokens and nothing else. -/
structure Layout.IsReadable (layout : Layout) : Prop where
  comma_eq : layout.comma = ","
  colon_eq : ∃ gap : List Char, layout.colon.toList = ':' :: gap ∧ ∀ c ∈ gap, isSpace c = true

theorem isReadable_compact : compact.IsReadable := ⟨rfl, [], rfl, List.forall_mem_nil _⟩

theorem isReadable_indented : indented.IsReadable :=
  ⟨rfl, [' '], rfl, List.forall_mem_singleton.2 rfl⟩

/-- The white space in front of an item. -/
abbrev gapAt (layout : Layout) (depth : Nat) : List Char := (layout.break depth).toList

theorem isSpace_gapAt (layout : Layout) (depth : Nat) : ∀ c ∈ gapAt layout depth, isSpace c := by
  rw [gapAt, Layout.break]
  cases layout.indent with
  | none => simp
  | some width =>
      intro c mem
      rw [String.toList_append, List.mem_append] at mem
      rcases mem with line | blank
      · obtain rfl : c = '\n' := by simpa using line
        rfl
      · rw [String.toList_ofList] at blank
        obtain rfl := List.eq_of_mem_replicate blank
        rfl

theorem mem_followers_of_isSpace {c : Char} (blank : isSpace c = true) : c ∈ followers := by
  simp only [isSpace, Bool.or_eq_true, beq_iff_eq] at blank
  rcases blank with ((rfl | rfl) | rfl) | rfl <;> decide

/-- White space is skipped up to what follows it. -/
theorem skipSpace_append {gap : List Char} (blank : ∀ c ∈ gap, isSpace c = true)
    (rest : List Char) : skipSpace (gap ++ rest) = skipSpace rest :=
  List.dropWhile_append_of_pos blank

theorem skipSpace_mark {c : Char} (mark : c ∈ [',', ':', ']', '\x7d']) (rest : List Char) :
    skipSpace (c :: rest) = c :: rest := by
  rw [skipSpace, List.dropWhile_cons_of_neg]
  fin_cases mark <;> decide

theorem follows_mark {c : Char} (mark : c ∈ [',', ']', '\x7d']) (rest : List Char) :
    Follows (c :: rest) := by
  intro first is_first
  obtain rfl : c = first := by simpa using is_first
  fin_cases mark <;> decide

/-- White space can stand between a value and what follows it. -/
theorem Follows.append {gap : List Char} (blank : ∀ c ∈ gap, isSpace c = true) {rest : List Char}
    (follows : Follows rest) : Follows (gap ++ rest) := by
  cases gap with
  | nil => exact follows
  | cons d more =>
      intro first is_first
      obtain rfl : d = first := by simpa using is_first
      exact mem_followers_of_isSpace (blank d List.mem_cons_self)

/-! ## Values -/

section Writing

variable {layout : Layout}

/-- The text of a value in a layout. -/
abbrev textAt (layout : Layout) (depth : Nat) (value : Value) : List Char :=
  (writeAt layout depth value).toList

/-- The first characters of written values. -/
def Begins (c : Char) : Prop := c.isDigit = true ∨ c ∈ ['n', 't', 'f', '-', '"', '[', '\x7b']

theorem Begins.apart {c : Char} (begins : Begins c) :
    isSpace c = false ∧ c ≠ ']' ∧ c ≠ '\x7d' ∧ c ≠ '\uFEFF' := by
  rcases begins with digit | mem
  · have other {d : Char} (mark : d.isDigit = false) : c ≠ d := by
      rintro rfl
      simp [mark] at digit
    refine ⟨?_, other rfl, other rfl, other rfl⟩
    simp [isSpace, other (d := ' ') rfl, other (d := '\t') rfl, other (d := '\n') rfl,
      other (d := '\r') rfl]
  · fin_cases mem <;> decide

theorem skipSpace_of_begins {c : Char} (begins : Begins c) (rest : List Char) :
    skipSpace (c :: rest) = c :: rest := by
  rw [skipSpace, List.dropWhile_cons_of_neg]
  simp [begins.apart.1]

theorem head_text {n : Numeral} (written : n.IsWritten) :
    ∃ c rest, n.text = c :: rest ∧ (c.isDigit = true ∨ c = '-') := by
  obtain ⟨c, more, integral_eq⟩ := List.exists_cons_of_ne_nil written.integral.ne_nil
  have digit : c.isDigit = true := written.integral.digits c (by simp [integral_eq])
  rw [text, integral_eq]
  cases n.negative with
  | false => exact ⟨c, _, rfl, Or.inl digit⟩
  | true => exact ⟨'-', _, rfl, Or.inr rfl⟩

theorem begins_text {n : Numeral} (written : n.IsWritten) :
    ∃ c rest, n.text = c :: rest ∧ Begins c := by
  obtain ⟨c, rest, text_eq, begins⟩ := head_text written
  exact ⟨c, rest, text_eq, begins.imp_right fun minus => by simp [minus]⟩

/-- A number is written as a numeral. -/
theorem exists_numeral_textAt (layout : Layout) {x : Number} (proper : x.IsProper) (depth : Nat) :
    ∃ n : Numeral, n.IsWritten ∧ textAt layout depth (ofNumber x) = n.text ∧
      n.toNumber = .ok x := by
  obtain ⟨n, written, text_eq, denotes⟩ := Number.exists_numeral proper
  refine ⟨n, written, text_eq ▸ ?_, denotes⟩
  cases x with
  | int value => rfl
  | float x =>
      obtain _ | _ | _ := x
      case finite => rfl
      case infinite => contradiction
      case nan => contradiction

theorem textAt_null (depth : Nat) : textAt layout depth .null = ['n', 'u', 'l', 'l'] := by
  change "null".toList = _
  decide

theorem textAt_true (depth : Nat) : textAt layout depth (.bool true) = ['t', 'r', 'u', 'e'] := by
  change "true".toList = _
  decide

theorem textAt_false (depth : Nat) :
    textAt layout depth (.bool false) = ['f', 'a', 'l', 's', 'e'] := by
  change "false".toList = _
  decide

theorem toList_writeText (s : String) :
    (writeText s).toList = '"' :: (s.toList.flatMap escapeChar ++ ['"']) := by
  simp [writeText]

theorem textAt_text (depth : Nat) (s : String) :
    textAt layout depth (.text s) = '"' :: (s.toList.flatMap escapeChar ++ ['"']) :=
  toList_writeText s

theorem textAt_list_nil (depth : Nat) : textAt layout depth (.list []) = ['[', ']'] := by
  change "[]".toList = _
  decide

/-- The text of items, each behind its white space, with commas between them. -/
abbrev itemsAt (layout : Layout) (depth : Nat) (items : List Value) : List Char :=
  (writeItems layout depth items).toList

/-- The text of members, each behind its white space, with commas between them. -/
abbrev membersAt (layout : Layout) (depth : Nat) (entries : List (String × Value)) : List Char :=
  (writeEntries layout depth (entries.map fun entry => (.text entry.1, entry.2))).toList

theorem textAt_list_cons (depth : Nat) (item : Value) (more : List Value) :
    textAt layout depth (.list (item :: more)) =
      '[' :: (itemsAt layout (depth + 1) (item :: more) ++ (gapAt layout depth ++ [']'])) := by
  change ("[" ++ writeItems layout (depth + 1) (item :: more) ++ layout.break depth ++
    "]").toList = _
  simp

theorem itemsAt_singleton (depth : Nat) (item : Value) :
    itemsAt layout depth [item] = gapAt layout depth ++ textAt layout depth item :=
  String.toList_append

theorem itemsAt_cons_cons (readable : layout.IsReadable) (depth : Nat) (item next : Value)
    (more : List Value) :
    itemsAt layout depth (item :: next :: more) =
      gapAt layout depth ++
        (textAt layout depth item ++ ',' :: itemsAt layout depth (next :: more)) := by
  change (layout.break depth ++ writeAt layout depth item ++ layout.comma ++
    writeItems layout depth (next :: more)).toList = _
  simp [readable.comma_eq]

theorem textAt_object_nil (depth : Nat) :
    textAt layout depth (.object []) = ['\x7b', '\x7d'] := by
  change "\x7b\x7d".toList = _
  decide

theorem textAt_object_cons (depth : Nat) (entry : String × Value) (more : List (String × Value)) :
    textAt layout depth (.object (entry :: more)) =
      '\x7b' :: (membersAt layout (depth + 1) (entry :: more) ++
        (gapAt layout depth ++ ['\x7d'])) := by
  change ("\x7b" ++ writeEntries layout (depth + 1) ((entry :: more).map _) ++
    layout.break depth ++ "\x7d").toList = _
  simp [membersAt]

/-- A member without the white space in front of it, up to what follows its name. -/
def memberText (name : String) (behind : List Char) : List Char :=
  '"' :: (name.toList.flatMap escapeChar ++ '"' :: behind)

theorem membersAt_singleton (depth : Nat) (entry : String × Value) :
    membersAt layout depth [entry] =
      gapAt layout depth ++
        memberText entry.1 (layout.colon.toList ++ textAt layout depth entry.2) := by
  change (layout.break depth ++ writeText entry.1 ++ layout.colon ++
    writeAt layout depth entry.2).toList = _
  simp [toList_writeText, memberText]

theorem membersAt_cons_cons (readable : layout.IsReadable) (depth : Nat)
    (entry next : String × Value) (more : List (String × Value)) :
    membersAt layout depth (entry :: next :: more) =
      gapAt layout depth ++ memberText entry.1 (layout.colon.toList ++
        (textAt layout depth entry.2 ++ ',' :: membersAt layout depth (next :: more))) := by
  change (layout.break depth ++ writeText entry.1 ++ layout.colon ++ writeAt layout depth entry.2 ++
    layout.comma ++ writeEntries layout depth ((next :: more).map _)).toList = _
  simp [toList_writeText, memberText, membersAt, readable.comma_eq]

theorem begins_textAt (layout : Layout) {value : Value} (json : value.IsJson) (depth : Nat) :
    ∃ c rest, textAt layout depth value = c :: rest ∧ Begins c := by
  cases json with
  | null => exact ⟨'n', _, textAt_null depth, Or.inr (by decide)⟩
  | bool flag =>
      cases flag with
      | false => exact ⟨'f', _, textAt_false depth, Or.inr (by decide)⟩
      | true => exact ⟨'t', _, textAt_true depth, Or.inr (by decide)⟩
  | int proper =>
      obtain ⟨n, written, text_eq, -⟩ := exists_numeral_textAt layout proper depth
      have begins := begins_text written
      rwa [← text_eq] at begins
  | float proper =>
      obtain ⟨n, written, text_eq, -⟩ :=
        exists_numeral_textAt layout (x := .float _) proper depth
      have begins := begins_text written
      rwa [← text_eq] at begins
  | text s => exact ⟨'"', _, textAt_text depth s, Or.inr (by decide)⟩
  | @list items each =>
      cases items with
      | nil => exact ⟨'[', _, textAt_list_nil depth, Or.inr (by decide)⟩
      | cons item more => exact ⟨'[', _, textAt_list_cons depth item more, Or.inr (by decide)⟩
  | @object entries distinct each =>
      cases entries with
      | nil => exact ⟨'\x7b', _, textAt_object_nil depth, Or.inr (by decide)⟩
      | cons entry more =>
          exact ⟨'\x7b', _, textAt_object_cons depth entry more, Or.inr (by decide)⟩

theorem skipSpace_textAt {value : Value} (json : value.IsJson) (depth : Nat) (rest : List Char) :
    skipSpace (textAt layout depth value ++ rest) = textAt layout depth value ++ rest := by
  obtain ⟨c, behind, text_eq, begins⟩ := begins_textAt layout json depth
  rw [text_eq, List.cons_append, skipSpace_of_begins begins]

/-- Behind white space, items begin with the text of the first one. -/
theorem begins_itemsAt (readable : layout.IsReadable) {item : Value} (json : item.IsJson)
    (depth : Nat) (more : List Value) (rest : List Char) :
    ∃ c behind, skipSpace (itemsAt layout depth (item :: more) ++ rest) = c :: behind ∧
      Begins c := by
  obtain ⟨c, behind, text_eq, begins⟩ := begins_textAt layout json depth
  cases more with
  | nil =>
      rw [itemsAt_singleton, List.append_assoc, skipSpace_append (isSpace_gapAt layout depth),
        skipSpace_textAt json, text_eq]
      exact ⟨c, _, rfl, begins⟩
  | cons next more =>
      rw [itemsAt_cons_cons readable, List.append_assoc,
        skipSpace_append (isSpace_gapAt layout depth), List.append_assoc, skipSpace_textAt json,
        text_eq]
      exact ⟨c, _, rfl, begins⟩

/-- A quote begins a member. -/
theorem skipSpace_memberText (name : String) (behind : List Char) :
    skipSpace (memberText name behind) = memberText name behind :=
  skipSpace_of_begins (Or.inr (by decide)) _

theorem memberText_append (name : String) (behind rest : List Char) :
    memberText name behind ++ rest = memberText name (behind ++ rest) := by
  simp [memberText]

/-- Behind white space, members begin with a quote. -/
theorem quote_membersAt (readable : layout.IsReadable) (depth : Nat) (entry : String × Value)
    (more : List (String × Value)) (rest : List Char) :
    ∃ behind, skipSpace (membersAt layout depth (entry :: more) ++ rest) = '"' :: behind := by
  cases more with
  | nil =>
      rw [membersAt_singleton, List.append_assoc, skipSpace_append (isSpace_gapAt layout depth),
        memberText_append, skipSpace_memberText]
      exact ⟨_, rfl⟩
  | cons next more =>
      rw [membersAt_cons_cons readable, List.append_assoc,
        skipSpace_append (isSpace_gapAt layout depth), memberText_append, skipSpace_memberText]
      exact ⟨_, rfl⟩

end Writing

/-! ## Reading back -/

section Reading

variable {g : Grammar} {layout : Layout}

/-- Whether a value is read from its text in a layout, wherever the text stands. -/
def ReadsBack (g : Grammar) (layout : Layout) (value : Value) : Prop :=
  ∀ (depth fuel : Nat) (rest : List Char), Follows rest →
    (textAt layout depth value).length < fuel →
      readValue g fuel (textAt layout depth value ++ rest) = .ok (value, rest)

theorem readValue_scalar {c : Char} (quote : c ≠ '"') (brace : c ≠ '\x7b') (bracket : c ≠ '[')
    (fuel : Nat) (rest : List Char) :
    readValue g (fuel + 1) (c :: rest) = readScalar g (c :: rest) := by
  rw [readValue]
  · simpa using quote
  · simpa using brace
  · simpa using bracket

theorem readsBack_null : ReadsBack g layout .null := by
  intro depth fuel rest follows enough
  obtain ⟨fuel, rfl⟩ := Nat.exists_eq_succ_of_ne_zero (Nat.ne_of_gt (Nat.zero_lt_of_lt enough))
  rw [textAt_null, List.cons_append, readValue_scalar (by decide) (by decide) (by decide)]
  rfl

theorem readsBack_bool (flag : Bool) : ReadsBack g layout (.bool flag) := by
  intro depth fuel rest follows enough
  obtain ⟨fuel, rfl⟩ := Nat.exists_eq_succ_of_ne_zero (Nat.ne_of_gt (Nat.zero_lt_of_lt enough))
  cases flag with
  | false =>
      rw [textAt_false, List.cons_append, readValue_scalar (by decide) (by decide) (by decide)]
      rfl
  | true =>
      rw [textAt_true, List.cons_append, readValue_scalar (by decide) (by decide) (by decide)]
      rfl

theorem readsBack_number {x : Number} (proper : x.IsProper) :
    ReadsBack g layout (ofNumber x) := by
  intro depth fuel rest follows enough
  obtain ⟨fuel, rfl⟩ := Nat.exists_eq_succ_of_ne_zero (Nat.ne_of_gt (Nat.zero_lt_of_lt enough))
  obtain ⟨n, written, text_eq, denotes⟩ := exists_numeral_textAt layout proper depth
  obtain ⟨c, more, shape, begins⟩ := head_text written
  have scalar : readValue g (fuel + 1) (n.text ++ rest) = readScalar g (n.text ++ rest) := by
    have apart {mark : Char} (no_digit : mark.isDigit = false) (no_minus : mark ≠ '-') :
        c ≠ mark := by
      rintro rfl
      simp [no_digit, no_minus] at begins
    rw [shape, List.cons_append]
    exact readValue_scalar (apart rfl (by decide)) (apart rfl (by decide))
      (apart rfl (by decide)) fuel _
  rw [text_eq, scalar, readScalar_text g written, readNumber_text written follows denotes]

theorem readsBack_text (s : String) : ReadsBack g layout (.text s) := by
  intro depth fuel rest follows enough
  obtain ⟨fuel, rfl⟩ := Nat.exists_eq_succ_of_ne_zero (Nat.ne_of_gt (Nat.zero_lt_of_lt enough))
  rw [textAt_text, List.cons_append, List.append_assoc, List.singleton_append, readValue,
    readString_escaped]
  · simp [bind, Except.bind, pure, Except.pure, String.ofList_toList]
  · rw [List.length_append]
    omega

/-! ## Lists -/

/-- Items are read one after the other up to the closing bracket. -/
theorem readItems_itemsAt (readable : layout.IsReadable) {items : List Value}
    (each : ∀ item ∈ items, item.IsJson) (reads : ∀ item ∈ items, ReadsBack g layout item)
    (nonempty : items ≠ []) (depth : Nat) {fuel : Nat} (reversed : List Value) {gap : List Char}
    (blank : ∀ c ∈ gap, isSpace c = true) (rest : List Char)
    (enough : (itemsAt layout depth items).length + 1 < fuel) :
    readItems g fuel reversed (skipSpace (itemsAt layout depth items ++ (gap ++ ']' :: rest))) =
      .ok (reversed.reverse ++ items, rest) := by
  induction items generalizing fuel reversed with
  | nil => contradiction
  | cons item more ih =>
      obtain ⟨fuel, rfl⟩ := Nat.exists_eq_succ_of_ne_zero (Nat.ne_of_gt (Nat.zero_lt_of_lt enough))
      have item_reads := reads item List.mem_cons_self depth fuel
      have json := each item List.mem_cons_self
      cases more with
      | nil =>
          rw [itemsAt_singleton] at enough ⊢
          rw [List.length_append] at enough
          rw [List.append_assoc, skipSpace_append (isSpace_gapAt layout depth),
            skipSpace_textAt json, readItems,
            item_reads _ (.append blank (follows_mark (by decide) rest)) (by omega)]
          simp [bind, Except.bind, pure, Except.pure, skipSpace_append blank,
            skipSpace_mark (c := ']') (by decide)]
      | cons next more =>
          rw [itemsAt_cons_cons readable] at enough ⊢
          simp only [List.length_append, List.length_cons] at enough
          have later := ih (fun item mem => each item (List.mem_cons_of_mem _ mem))
            (fun item mem => reads item (List.mem_cons_of_mem _ mem)) (by simp) (item :: reversed)
            (by omega : (itemsAt layout depth (next :: more)).length + 1 < fuel)
          rw [List.append_assoc, skipSpace_append (isSpace_gapAt layout depth), List.append_assoc,
            skipSpace_textAt json, List.cons_append, readItems,
            item_reads _ (follows_mark (by decide) _) (by omega)]
          simp only [bind, Except.bind, skipSpace_mark (c := ',') (by decide)]
          rw [later]
          simp

theorem readsBack_list (readable : layout.IsReadable) {items : List Value}
    (each : ∀ item ∈ items, item.IsJson) (reads : ∀ item ∈ items, ReadsBack g layout item) :
    ReadsBack g layout (.list items) := by
  intro depth fuel rest follows enough
  obtain ⟨fuel, rfl⟩ := Nat.exists_eq_succ_of_ne_zero (Nat.ne_of_gt (Nat.zero_lt_of_lt enough))
  cases items with
  | nil =>
      rw [textAt_list_nil, List.cons_append, List.cons_append, List.nil_append, readValue,
        skipSpace_mark (by decide)]
      rfl
  | cons item more =>
      rw [textAt_list_cons] at enough ⊢
      simp only [List.length_append, List.length_cons, List.length_nil] at enough
      have items_read := readItems_itemsAt readable each reads (by simp) (depth + 1) []
        (isSpace_gapAt layout depth) rest
        (by omega : (itemsAt layout (depth + 1) (item :: more)).length + 1 < fuel)
      obtain ⟨c, behind, head_eq, begins⟩ := begins_itemsAt readable (each item List.mem_cons_self)
        (depth + 1) more (gapAt layout depth ++ ']' :: rest)
      have open_list : c ≠ ']' := begins.apart.2.1
      rw [head_eq] at items_read
      rw [List.cons_append, List.append_assoc, List.append_assoc, List.singleton_append, readValue,
        head_eq]
      split
      next eq => exact absurd (List.cons.inj eq).1 open_list
      next =>
        rw [items_read]
        rfl

/-! ## Mappings -/

/-- The members of a mapping of texts. -/
abbrev membersOf (entries : List (String × Value)) : List (Value × Value) :=
  entries.map fun entry => (.text entry.1, entry.2)

/-- A new name comes last. -/
theorem insertEntry_of_fresh {entries : List (String × Value)} {name : String}
    (fresh : name ∉ entries.map Prod.fst) (value : Value) :
    Value.insertEntry (.text name) value (membersOf entries) =
      membersOf (entries ++ [(name, value)]) := by
  induction entries with
  | nil => rfl
  | cons entry rest ih =>
      rw [List.map_cons, List.mem_cons, not_or] at fresh
      have other : (Value.text entry.1).sameKey (.text name) = false := by
        simpa [Value.sameKey, Value.toNumber?] using Ne.symm fresh.1
      have later := ih fresh.2
      simp only [membersOf] at later
      simp [membersOf, Value.insertEntry, other, later]

/-- A member name is read up to its closing quote. -/
theorem readName (start : List Char) (name : String) (rest : List Char) :
    readString start ((name.toList.flatMap escapeChar ++ '"' :: rest).length + 1) []
      (name.toList.flatMap escapeChar ++ '"' :: rest) = .ok (name, rest) := by
  rw [readString_escaped]
  · simp
  · rw [List.length_append]
    omega

/-- Reading one member takes its name and its value, and what follows says how to go on. -/
theorem readMembers_member (readable : layout.IsReadable) {value : Value} (json : value.IsJson)
    {depth fuel : Nat} {rest : List Char}
    (reads : readValue g fuel (textAt layout depth value ++ rest) = .ok (value, rest))
    (name : String) (known : List (Value × Value)) :
    readMembers g (fuel + 1) known
        (memberText name (layout.colon.toList ++ (textAt layout depth value ++ rest))) =
      match skipSpace rest with
      | '\x7d' :: after => .ok (Value.insertEntry (.text name) value known, after)
      | ',' :: after =>
          readMembers g fuel (Value.insertEntry (.text name) value known) (skipSpace after)
      | after => .error (.at .expectedComma after) := by
  obtain ⟨gap, colon_eq, blank⟩ := readable.colon_eq
  rw [memberText, readMembers, readName, colon_eq]
  simp only [bind, Except.bind, List.cons_append, skipSpace_mark (c := ':') (by decide),
    skipSpace_append blank, skipSpace_textAt json, reads]
  rfl

/-- Members are read one after the other up to the closing brace. -/
theorem readMembers_membersAt (readable : layout.IsReadable) {entries : List (String × Value)}
    (each : ∀ entry ∈ entries, entry.2.IsJson)
    (reads : ∀ entry ∈ entries, ReadsBack g layout entry.2) (nonempty : entries ≠ []) (depth : Nat)
    {fuel : Nat} (known : List (String × Value))
    (distinct : ((known ++ entries).map Prod.fst).Nodup) {gap : List Char}
    (blank : ∀ c ∈ gap, isSpace c = true) (rest : List Char)
    (enough : (membersAt layout depth entries).length + 1 < fuel) :
    readMembers g fuel (membersOf known)
        (skipSpace (membersAt layout depth entries ++ (gap ++ '\x7d' :: rest))) =
      .ok (membersOf (known ++ entries), rest) := by
  induction entries generalizing fuel known with
  | nil => contradiction
  | cons entry more ih =>
      obtain ⟨name, value⟩ := entry
      obtain ⟨fuel, rfl⟩ := Nat.exists_eq_succ_of_ne_zero (Nat.ne_of_gt (Nat.zero_lt_of_lt enough))
      have value_reads : ∀ rest, Follows rest → (textAt layout depth value).length < fuel →
          readValue g fuel (textAt layout depth value ++ rest) = .ok (value, rest) :=
        reads (name, value) List.mem_cons_self depth fuel
      have json : value.IsJson := each (name, value) List.mem_cons_self
      have fresh : name ∉ known.map Prod.fst := by
        rw [List.map_append, List.map_cons] at distinct
        intro mem
        exact (List.nodup_append.1 distinct).2.2 name mem name (by simp) rfl
      cases more with
      | nil =>
          rw [membersAt_singleton] at enough ⊢
          simp only [memberText, List.length_append, List.length_cons] at enough
          have value_read := value_reads (gap ++ '\x7d' :: rest)
            (.append blank (follows_mark (by decide) rest)) (by omega)
          rw [List.append_assoc, skipSpace_append (isSpace_gapAt layout depth), memberText_append,
            skipSpace_memberText, List.append_assoc, readMembers_member readable json value_read,
            insertEntry_of_fresh fresh, skipSpace_append blank, skipSpace_mark (by decide)]
          rfl
      | cons next more =>
          rw [membersAt_cons_cons readable] at enough ⊢
          simp only [memberText, List.length_append, List.length_cons] at enough
          have value_read := value_reads
            (',' :: (membersAt layout depth (next :: more) ++ (gap ++ '\x7d' :: rest)))
            (follows_mark (by decide) _) (by omega)
          have later := ih (fun entry mem => each entry (List.mem_cons_of_mem _ mem))
            (fun entry mem => reads entry (List.mem_cons_of_mem _ mem)) (by simp)
            (known ++ [(name, value)]) (by simpa using distinct)
            (by omega : (membersAt layout depth (next :: more)).length + 1 < fuel)
          rw [List.append_assoc, skipSpace_append (isSpace_gapAt layout depth), memberText_append,
            skipSpace_memberText, List.append_assoc, List.append_assoc, List.cons_append,
            readMembers_member readable json value_read, insertEntry_of_fresh fresh,
            skipSpace_mark (by decide)]
          simp only [later]
          simp

theorem readsBack_object (readable : layout.IsReadable) {entries : List (String × Value)}
    (distinct : (entries.map Prod.fst).Nodup) (each : ∀ entry ∈ entries, entry.2.IsJson)
    (reads : ∀ entry ∈ entries, ReadsBack g layout entry.2) :
    ReadsBack g layout (.object entries) := by
  intro depth fuel rest follows enough
  obtain ⟨fuel, rfl⟩ := Nat.exists_eq_succ_of_ne_zero (Nat.ne_of_gt (Nat.zero_lt_of_lt enough))
  cases entries with
  | nil =>
      rw [textAt_object_nil, List.cons_append, List.cons_append, List.nil_append, readValue,
        skipSpace_mark (by decide)]
      rfl
  | cons entry more =>
      rw [textAt_object_cons] at enough ⊢
      simp only [List.length_append, List.length_cons, List.length_nil] at enough
      have members_read := readMembers_membersAt readable each reads (by simp) (depth + 1) []
        distinct (isSpace_gapAt layout depth) rest
        (by omega : (membersAt layout (depth + 1) (entry :: more)).length + 1 < fuel)
      obtain ⟨behind, head_eq⟩ := quote_membersAt readable (depth + 1) entry more
        (gapAt layout depth ++ '\x7d' :: rest)
      rw [head_eq] at members_read
      rw [List.cons_append, List.append_assoc, List.append_assoc, List.singleton_append, readValue,
        head_eq]
      split
      next eq => exact absurd (List.cons.inj eq).1 (by decide)
      next =>
        have none_known : membersOf [] = [] := rfl
        rw [none_known] at members_read
        rw [members_read]
        rfl

/-- A value that JSON can express is read from its text. -/
theorem readsBack (readable : layout.IsReadable) {value : Value} (json : value.IsJson) :
    ReadsBack g layout value := by
  induction json with
  | null => exact readsBack_null
  | bool flag => exact readsBack_bool flag
  | int proper => exact readsBack_number (x := .int _) proper
  | float proper => exact readsBack_number (x := .float _) proper
  | text s => exact readsBack_text s
  | list each reads => exact readsBack_list readable each reads
  | object distinct each reads => exact readsBack_object readable distinct each reads

/-- Reading what was written gives the value. -/
theorem read_write (readable : layout.IsReadable) {value : Value} (json : value.IsJson) :
    read g (write layout value).toList = .ok value := by
  obtain ⟨c, rest, text_eq, begins⟩ := begins_textAt layout json 0
  have back := readsBack (g := g) readable json 0 ((textAt layout 0 value).length + 1) [] nofun
    (by omega)
  rw [List.append_nil] at back
  change read g (textAt layout 0 value) = _
  rw [text_eq] at back ⊢
  rw [read, skipSpace_of_begins begins, back]
  · rfl
  · simpa using begins.apart.2.2.2

end Reading

/-! ## What can be written -/

theorem unwritableItem?_eq_none {items : List Value}
    (each : ∀ item ∈ items, unwritable? item = none) : unwritableItem? items = none := by
  induction items with
  | nil => rfl
  | cons item rest ih =>
      rw [List.forall_mem_cons] at each
      rw [unwritableItem?, each.1, Option.orElse_none, ih each.2]

theorem unwritableEntry?_eq_none {entries : List (String × Value)}
    (each : ∀ entry ∈ entries, unwritable? entry.2 = none) :
    unwritableEntry? (membersOf entries) = none := by
  induction entries with
  | nil => rfl
  | cons entry rest ih =>
      rw [List.forall_mem_cons] at each
      have later : unwritableEntry? (membersOf rest) = none := ih each.2
      simp only [membersOf] at later
      simp only [membersOf, List.map_cons, unwritableEntry?, badName?, each.1, later,
        Option.orElse_none]

/-- A value that JSON can express has no part that keeps it from being written. -/
theorem write?_eq_ok (layout : Layout) {value : Value} (json : value.IsJson) :
    write? layout value = .ok (write layout value) := by
  have writable : unwritable? value = none := by
    induction json with
    | int proper => rw [unwritable?, longInteger?, Number.isProper_int_iff.1 proper]; rfl
    | list each ih => exact unwritableItem?_eq_none ih
    | object distinct each ih => exact unwritableEntry?_eq_none ih
    | _ => rfl
  rw [write?, writable]

theorem anyLong_eq_false {items : List Value} (each : ∀ item ∈ items, item.isLong = false) :
    Value.anyLong items = false := by
  induction items with
  | nil => rfl
  | cons item rest ih =>
      rw [List.forall_mem_cons] at each
      rw [Value.anyLong, each.1, ih each.2, Bool.or_false]

theorem anyEntryLong_eq_false {entries : List (String × Value)}
    (each : ∀ entry ∈ entries, entry.2.isLong = false) :
    Value.anyEntryLong (membersOf entries) = false := by
  induction entries with
  | nil => rfl
  | cons entry rest ih =>
      rw [List.forall_mem_cons] at each
      have name_short : (Value.text entry.1).isLong = false := rfl
      rw [membersOf, List.map_cons, Value.anyEntryLong, name_short, each.1, Bool.false_or,
        Bool.false_or]
      exact ih each.2

/-- All integers of a value that JSON can express can be written. -/
theorem isLong_eq_false {value : Value} (json : value.IsJson) : value.isLong = false := by
  induction json with
  | int proper => exact Number.isProper_int_iff.1 proper
  | list each ih => exact anyLong_eq_false ih
  | object distinct each ih => exact anyEntryLong_eq_false ih
  | _ => rfl

end Json

end EnvConcord.Document
