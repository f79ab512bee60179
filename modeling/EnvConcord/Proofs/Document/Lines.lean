import EnvConcord.Document.Plain
import EnvConcord.Proofs.Document.Json.Values
import EnvConcord.Proofs.Text.Trim

/-!
# Texts of values stand on one line

Whatever a value holds, neither the text that shows it nor its compact JSON text has a line break:
breaks inside of texts are escaped.
-/

namespace EnvConcord

/-! ## Numbers -/

namespace Binary64

/-- The characters that numbers are written with. -/
def IsNumberChar (c : Char) : Prop :=
  c.isDigit = true ∨ c ∈ ['-', '+', '.', 'e', 'i', 'n', 'f', 'a']

theorem isDigit_of_mem_search {near : Neighbourhood} {exponent point : Int} {fuel size : Nat}
    {c : Char} (mem : c ∈ (near.search exponent point fuel size).digits) : c.isDigit = true := by
  induction fuel generalizing size with
  | zero =>
      obtain rfl : c = '0' := by simpa [Neighbourhood.search] using mem
      rfl
  | succ fuel ih =>
      rw [Neighbourhood.search] at mem
      split at mem
      next count _ =>
        exact Text.isDigit_of_mem_toDigits ((List.rdropWhile_prefix _ _).subset mem)
      next => exact ih mem

theorem isDigit_of_mem_shortest {mantissa : Nat} {exponent : Int} {c : Char}
    (mem : c ∈ (shortest mantissa exponent).digits) : c.isDigit = true := by
  rw [shortest] at mem
  split at mem
  · obtain rfl : c = '0' := by simpa using mem
    rfl
  · exact isDigit_of_mem_search mem

theorem isNumberChar_of_mem_layout {d : Decimal} (digits : ∀ c ∈ d.digits, c.isDigit = true) :
    ∀ c ∈ d.layout, IsNumberChar c := by
  have run {cs : List Char} (made : ∀ c ∈ cs, c.isDigit = true) : ∀ c ∈ cs, IsNumberChar c :=
    fun c mem => Or.inl (made c mem)
  have all := run digits
  have taken (n : Nat) := run fun c mem => digits c (List.mem_of_mem_take (i := n) mem)
  have left (n : Nat) := run fun c mem => digits c (List.mem_of_mem_drop (i := n) mem)
  have zeros (n : Nat) : ∀ c ∈ List.replicate n '0', IsNumberChar c :=
    run fun c mem => by
      rw [List.eq_of_mem_replicate mem]
      rfl
  have power : ∀ c ∈ powerDigits (d.point - 1), IsNumberChar c := run (isRun_powerDigits _).digits
  obtain ⟨minus, plus, point, mark, zero⟩ : IsNumberChar '-' ∧ IsNumberChar '+' ∧
      IsNumberChar '.' ∧ IsNumberChar 'e' ∧ IsNumberChar '0' := by
    unfold IsNumberChar
    decide
  have join {first second : List Char} (one : ∀ c ∈ first, IsNumberChar c)
      (two : ∀ c ∈ second, IsNumberChar c) : ∀ c ∈ first ++ second, IsNumberChar c :=
    List.forall_mem_append.2 ⟨one, two⟩
  simp only [Decimal.layout]
  split
  · refine join (join (join (taken 1) ?_) ?_) power
    · split
      · simp
      · exact List.forall_mem_cons.2 ⟨point, left 1⟩
    · split <;> simp [mark, minus, plus]
  · split
    · exact join (join (by simp [zero, point]) (zeros _)) all
    · split
      · exact join (join all (zeros _)) (by simp [zero, point])
      · exact join (join (taken _) (by simp [point])) (left _)

theorem isNumberChar_of_mem_render {x : Binary64} {c : Char} (mem : c ∈ x.render.toList) :
    IsNumberChar c := by
  obtain ⟨negative, mantissa, exponent⟩ | negative | _ := x
  · rw [render, String.toList_append, String.toList_ofList, List.mem_append] at mem
    rcases mem with sign | layout
    · cases negative <;> simp_all [IsNumberChar]
    · exact isNumberChar_of_mem_layout (fun _ => isDigit_of_mem_shortest) c layout
  · revert c
    cases negative <;> simp [render, IsNumberChar]
  · revert c
    simp [render, IsNumberChar]

theorem IsNumberChar.apart {c : Char} (number : IsNumberChar c) :
    Text.isBlank c = false ∧ c ≠ '\'' ∧ c ≠ '"' := by
  rcases number with digit | mem
  · have other {d : Char} (mark : d.isDigit = false) : c ≠ d := by
      rintro rfl
      simp [mark] at digit
    have bounds : 48 ≤ c.toNat ∧ c.toNat ≤ 57 := by
      simpa [Char.isDigit, UInt32.le_iff_toNat_le] using digit
    exact ⟨Text.isBlank_eq_false_of_code bounds.1 (by omega), other rfl, other rfl⟩
  · fin_cases mem <;> decide

end Binary64

theorem Number.isNumberChar_of_mem_text {x : Number} {c : Char} (mem : c ∈ x.text.toList) :
    Binary64.IsNumberChar c := by
  cases x with
  | int value =>
      have written := Numeral.mem_text (Numeral.isWritten_ofInt value) (c := c)
      rw [Numeral.text_ofInt] at written
      refine (written mem).imp_right fun mark => ?_
      simp only [List.mem_cons, List.not_mem_nil, or_false] at mark ⊢
      tauto
  | float x => exact Binary64.isNumberChar_of_mem_render mem

/-! ## Texts without line breaks -/

/-- Whether a text stands on one line. -/
def Single (s : String) : Prop := '\n' ∉ s.toList

instance : DecidablePred Single := fun s => inferInstanceAs (Decidable ('\n' ∉ s.toList))

namespace Single

@[simp]
theorem append_iff (first second : String) :
    Single (first ++ second) ↔ Single first ∧ Single second := by
  simp [Single, String.toList_append, not_or]

theorem ofNumber (x : Number) : Single x.text := by
  intro mem
  have blank := (Number.isNumberChar_of_mem_text mem).apart.1
  exact absurd blank (by decide)

theorem ofInt (n : Int) : Single (toString n) := ofNumber (.int n)

theorem ofNat (n : Nat) : Single (toString n) := ofInt n

theorem ofDouble (x : Binary64) : Single x.render := ofNumber (.float x)

theorem intercalate {separator : String} (apart : Single separator) {parts : List String}
    (each : ∀ part ∈ parts, Single part) : Single (String.intercalate separator parts) := by
  induction parts with
  | nil =>
      rw [String.intercalate_nil]
      decide
  | cons part rest ih =>
      have first := each part List.mem_cons_self
      have later := ih fun other mem => each other (List.mem_cons_of_mem part mem)
      cases rest with
      | nil => rwa [String.intercalate_singleton]
      | cons next rest =>
          rw [String.intercalate_cons_cons, append_iff, append_iff]
          exact ⟨⟨first, apart⟩, later⟩

end Single

namespace Text

theorem mem_toDigits_sixteen {n : Nat} {c : Char} (mem : c ∈ Nat.toDigits 16 n) :
    ∃ digit < 16, c = digit.digitChar := by
  induction n using Nat.strongRecOn with
  | ind n ih =>
      rw [Nat.toDigits_eq_if (by decide)] at mem
      split at mem
      next small => exact ⟨n, small, List.mem_singleton.1 mem⟩
      next large =>
        rcases List.mem_append.1 mem with front | last
        · exact ih (n / 16) (Nat.div_lt_self (by omega) (by decide)) front
        · exact ⟨n % 16, Nat.mod_lt n (by decide), List.mem_singleton.1 last⟩

theorem break_not_mem_hexDigits (width n : Nat) : '\n' ∉ hexDigits width n := by
  intro mem
  rcases List.mem_append.1 mem with zero | digit
  · exact absurd (List.eq_of_mem_replicate zero) (by decide)
  · obtain ⟨digit, small, eq⟩ := mem_toDigits_sixteen digit
    have none_breaks : ∀ digit < 16, '\n' ≠ digit.digitChar := by decide
    exact none_breaks digit small eq

theorem quoteFor_ne_break (cs : List Char) : quoteFor cs ≠ '\n' := by
  rw [quoteFor]
  split <;> decide

theorem break_not_mem_quoteChar {quote : Char} (mark : quote ≠ '\n') (c : Char) :
    '\n' ∉ quoteChar quote c := by
  have hex (letter : Char) (other : '\n' ≠ letter) (width : Nat) :
      '\n' ∉ '\\' :: letter :: hexDigits width c.toNat := by
    simp [other, break_not_mem_hexDigits]
  simp only [quoteChar]
  split_ifs with own line
  · have apart : '\n' ≠ c := by
      rintro rfl
      simp [Ne.symm mark] at own
    simp [apart]
  · decide
  · decide
  · decide
  · have apart : '\n' ≠ c := by
      rintro rfl
      simp at line
    simp [apart]
  · exact hex 'x' (by decide) 2
  · exact hex 'u' (by decide) 4
  · exact hex 'U' (by decide) 8

theorem single_quoted (s : String) : Single (quoted s) := by
  have mark := quoteFor_ne_break s.toList
  simp only [Single, quoted, String.toList_ofList, List.mem_append, List.mem_cons,
    List.not_mem_nil, or_false, not_or, List.mem_flatMap, not_exists, not_and]
  exact ⟨⟨mark.symm, fun c _ => break_not_mem_quoteChar mark c⟩, mark.symm⟩

theorem single_quotedOctets (data : List Nat) : Single (quotedOctets data) := by
  have mark := quoteFor_ne_break (data.map Char.ofNat)
  simp only [Single, quotedOctets, String.toList_ofList, List.mem_append, List.mem_cons,
    List.not_mem_nil, or_false, not_or, List.mem_flatMap, not_exists, not_and]
  refine ⟨⟨by decide, mark.symm, fun c _ => ?_⟩, mark.symm⟩
  split_ifs with own line _ _ shown
  · have apart : '\n' ≠ c := by
      rintro rfl
      simp [Ne.symm mark] at own
    simp [apart]
  · decide
  · decide
  · decide
  · have apart : '\n' ≠ c := by
      rintro rfl
      simp at line
    simp [apart]
  · simp [break_not_mem_hexDigits]

end Text

namespace Document

theorem single_padded (width value : Nat) : Single (padded width value) := by
  intro mem
  rw [padded, String.toList_ofList] at mem
  rcases List.mem_append.1 mem with zero | digit
  · exact absurd (List.eq_of_mem_replicate zero) (by decide)
  · exact absurd (Text.isDigit_of_mem_toDigits digit) (by decide)

theorem single_dateText (d : Date) : Single d.text := by
  simp only [Date.text, Single.append_iff, single_padded, true_and, and_true]
  decide

theorem single_timeText (t : TimeOfDay) : Single t.text := by
  simp only [TimeOfDay.text, Single.append_iff, single_padded, true_and, and_true]
  refine ⟨by decide, ?_⟩
  split
  · decide
  · rw [Single.append_iff]
    exact ⟨by decide, single_padded 6 t.millionths⟩

theorem single_offsetText (seconds : Int) : Single (offsetText seconds) := by
  simp only [offsetText, Single.append_iff, single_padded, and_true]
  refine ⟨⟨?_, by decide⟩, ?_⟩
  · split <;> decide
  · split
    · decide
    · rw [Single.append_iff]
      exact ⟨by decide, single_padded 2 _⟩

theorem single_momentText (m : Moment) : Single m.text := by
  cases m with
  | date d => exact single_dateText d
  | time t => exact single_timeText t
  | dateTime d t offset =>
      simp only [Moment.text, Single.append_iff]
      refine ⟨⟨⟨single_dateText d, by decide⟩, single_timeText t⟩, ?_⟩
      cases offset with
      | none => decide
      | some seconds => exact single_offsetText seconds

theorem single_durationShown (seconds : Int) : Single (durationShown seconds) := by
  have counted (unit : String) (apart : Single unit) (n : Int) :
      ∀ part ∈ if n = 0 then [] else [unit ++ toString n], Single part := by
    intro part mem
    split at mem
    · contradiction
    · rw [List.mem_singleton.1 mem, Single.append_iff]
      exact ⟨apart, Single.ofInt n⟩
  -- The two numbers are taken out first, as division by the seconds of a day is slow to unfold.
  unfold durationShown
  generalize Int.fdiv seconds daySeconds = days
  generalize Int.fmod seconds daySeconds = rest
  have joined {parts : List String} (each : ∀ part ∈ parts, Single part) :
      Single ("datetime.timedelta(" ++
        (if parts.isEmpty then "0" else String.intercalate ", " parts) ++ ")") := by
    simp only [Single.append_iff]
    refine ⟨⟨by decide, ?_⟩, by decide⟩
    split
    · decide
    · exact Single.intercalate (by decide) each
  exact joined (List.forall_mem_append.2
    ⟨counted "days=" (by decide) days, counted "seconds=" (by decide) rest⟩)

theorem single_offsetShown (seconds : Int) : Single (offsetShown seconds) := by
  rw [offsetShown]
  split
  · decide
  · simp only [Single.append_iff]
    exact ⟨⟨by decide, single_durationShown seconds⟩, by decide⟩

theorem single_momentShown (m : Moment) : Single m.shown := by
  have numbers (ns : List Nat) : ∀ part ∈ ns.map toString, Single part := by
    intro part mem
    obtain ⟨n, -, rfl⟩ := List.mem_map.1 mem
    exact Single.ofNat n
  have kind : Single m.kindName := by
    cases m with
    | date _ => exact (by decide : Single "date")
    | time _ => exact (by decide : Single "time")
    | dateTime _ _ _ => exact (by decide : Single "datetime")
  simp only [Moment.shown, Single.append_iff]
  refine ⟨⟨⟨⟨by decide, kind⟩, by decide⟩, Single.intercalate (by decide) ?_⟩, by decide⟩
  cases m with
  | date d => exact numbers d.numbers
  | time t => exact numbers t.numbers
  | dateTime d t offset =>
      intro part mem
      rcases List.mem_append.1 mem with number | zone
      · exact numbers _ part number
      · obtain ⟨seconds, rfl, rfl⟩ : ∃ seconds, offset = some seconds ∧
            "tzinfo=" ++ offsetShown seconds = part := by
          simpa using zone
        rw [Single.append_iff]
        exact ⟨by decide, single_offsetShown seconds⟩

/-! ## Shown values -/

namespace Value

mutual

theorem single_shown : (value : Value) → Single value.shown
  | .null => by decide
  | .bool flag => by cases flag <;> decide
  | .int n => Single.ofInt n
  | .float x => Single.ofDouble x
  | .text s => Text.single_quoted s
  | .moment m => single_momentShown m
  | .octets data => Text.single_quotedOctets data
  | .list items => by
      simp only [shown, Single.append_iff]
      exact ⟨⟨by decide, single_shownItems items⟩, by decide⟩
  | .pair key value => by
      simp only [shown, Single.append_iff]
      exact ⟨⟨⟨⟨by decide, single_shown key⟩, by decide⟩, single_shown value⟩, by decide⟩
  | .set [] => by decide
  | .set (item :: items) => by
      simp only [shown, Single.append_iff]
      exact ⟨⟨by decide, single_shownItems (item :: items)⟩, by decide⟩
  | .map entries => by
      simp only [shown, Single.append_iff]
      exact ⟨⟨by decide, single_shownEntries entries⟩, by decide⟩

theorem single_shownItems : (items : List Value) → Single (shownItems items)
  | [] => by decide
  | [item] => single_shown item
  | item :: next :: rest => by
      simp only [shownItems, Single.append_iff]
      exact ⟨⟨single_shown item, by decide⟩, single_shownItems (next :: rest)⟩

theorem single_shownEntries : (entries : List (Value × Value)) → Single (shownEntries entries)
  | [] => by decide
  | [(key, value)] => by
      simp only [shownEntries, Single.append_iff]
      exact ⟨⟨single_shown key, by decide⟩, single_shown value⟩
  | (key, value) :: next :: rest => by
      simp only [shownEntries, Single.append_iff]
      exact ⟨⟨⟨⟨single_shown key, by decide⟩, single_shown value⟩, by decide⟩,
        single_shownEntries (next :: rest)⟩

end

end Value

/-! ## JSON texts -/

namespace Json

theorem break_not_mem_escapeChar (c : Char) : '\n' ∉ escapeChar c := by
  have unit (code : Nat) : '\n' ∉ escapeUnit code := by
    simp [escapeUnit, Text.break_not_mem_hexDigits]
  rcases escapeChar_cases c with ⟨letter, -, escaped, eq⟩ | ⟨-, -, printable, -, eq⟩ | ⟨-, eq⟩ |
    ⟨-, eq⟩
  · have apart : '\n' ≠ letter := by
      rintro rfl
      contradiction
    simp [eq, apart]
  · have apart : '\n' ≠ c := by
      rintro rfl
      contradiction
    simp [eq, apart]
  · rw [eq]
    exact unit _
  · rw [eq, List.mem_append, not_or]
    exact ⟨unit _, unit _⟩

theorem single_writeText (s : String) : Single (writeText s) := by
  rw [Single, toList_writeText]
  simp only [List.mem_append, List.mem_cons, List.not_mem_nil, or_false, not_or, List.mem_flatMap,
    not_exists, not_and]
  exact ⟨by decide, fun c _ => break_not_mem_escapeChar c, by decide⟩

theorem single_writeFloat (x : Binary64) : Single (writeFloat x) := by
  obtain _ | negative | _ := x
  · exact Single.ofDouble _
  · cases negative <;> decide
  · decide

theorem single_writeScalar (value : Value) : Single (writeScalar value) := by
  cases value with
  | bool flag => cases flag <;> decide
  | int n => exact Single.ofInt n
  | float x => exact single_writeFloat x
  | text s => exact single_writeText s
  | moment m => exact single_writeText m.text
  | _ => exact (by decide : Single "null")

theorem single_writeName (name : Value) : Single (writeName name) := by
  cases name with
  | text s => exact single_writeText s
  | _ =>
      simp only [writeName, Single.append_iff]
      exact ⟨⟨by decide, single_writeScalar _⟩, by decide⟩

theorem break_compact (depth : Nat) : compact.break depth = "" := rfl

mutual

theorem single_writeAt (depth : Nat) : (value : Value) → Single (writeAt compact depth value)
  | .null | .bool _ | .int _ | .float _ | .text _ | .moment _ | .octets _ => by
      simp only [writeAt]
      exact single_writeScalar _
  | .list [] | .map [] => by
      simp only [writeAt]
      decide
  | .list (item :: items) => by
      simp only [writeAt, Single.append_iff, break_compact]
      exact ⟨⟨⟨by decide, single_writeItems (depth + 1) (item :: items)⟩, by decide⟩, by decide⟩
  | .pair key value => by
      simp only [writeAt, Single.append_iff, break_compact]
      exact ⟨⟨⟨⟨⟨⟨⟨by decide, by decide⟩, single_writeAt (depth + 1) key⟩, by decide⟩, by decide⟩,
        single_writeAt (depth + 1) value⟩, by decide⟩, by decide⟩
  | .set items => by
      simp only [writeAt, Single.append_iff, break_compact]
      exact ⟨⟨⟨by decide, single_writeItems (depth + 1) items⟩, by decide⟩, by decide⟩
  | .map (entry :: entries) => by
      simp only [writeAt, Single.append_iff, break_compact]
      exact ⟨⟨⟨by decide, single_writeEntries (depth + 1) (entry :: entries)⟩, by decide⟩,
        by decide⟩

theorem single_writeItems (depth : Nat) :
    (items : List Value) → Single (writeItems compact depth items)
  | [] => by
      simp only [writeItems]
      decide
  | [item] => by
      simp only [writeItems, Single.append_iff, break_compact]
      exact ⟨by decide, single_writeAt depth item⟩
  | item :: next :: rest => by
      simp only [writeItems, Single.append_iff, break_compact]
      exact ⟨⟨⟨by decide, single_writeAt depth item⟩, by decide⟩,
        single_writeItems depth (next :: rest)⟩

theorem single_writeEntries (depth : Nat) :
    (entries : List (Value × Value)) → Single (writeEntries compact depth entries)
  | [] => by
      simp only [writeEntries]
      decide
  | [(name, value)] => by
      simp only [writeEntries, Single.append_iff, break_compact]
      exact ⟨⟨⟨by decide, single_writeName name⟩, by decide⟩, single_writeAt depth value⟩
  | (name, value) :: next :: rest => by
      simp only [writeEntries, Single.append_iff, break_compact]
      exact ⟨⟨⟨⟨⟨by decide, single_writeName name⟩, by decide⟩, single_writeAt depth value⟩,
        by decide⟩, single_writeEntries depth (next :: rest)⟩

end

end Json

end Document

end EnvConcord
