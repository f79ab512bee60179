import EnvConcord.Proofs.Collection.Traversal
import EnvConcord.Proofs.Document.Lines
import EnvConcord.Proofs.EnvFile.RoundTrip
import EnvConcord.Schema.Example
import EnvConcord.Schema.Reader

/-!
# Example files load back to the defaults

The example file of a schema is read without complaint and sets the keys of the schema in their
order.  Each open default that its own type takes is found again by converting what is read.
-/

namespace EnvConcord

/-! ## Keys and values on a line -/

namespace EnvFile

/-- Whether a value can stand behind a key as it is. -/
structure IsBare (value : List Char) : Prop where
  single : '\n' ∉ value
  plain : needsQuotes value = false

theorem IsBare.unquote_eq {value : List Char} (bare : IsBare value) : unquote value = value := by
  have written := unquote_writeValue value
  rwa [writeValue, bare.plain] at written

theorem isQuoted_eq_false {value : List Char} (first : ∀ c ∈ value.head?, isQuote c = false) :
    isQuoted value = false := by
  match value with
  | [] => rfl
  | [_] => rfl
  | c :: d :: rest => simp [isQuoted, first c rfl]

/-- A value on one line is bare if it begins and ends without a blank and begins without a
quote. -/
theorem isBare_of_ends {value : List Char} (single : '\n' ∉ value)
    (first : ∀ c ∈ value.head?, Text.isBlank c = false ∧ isQuote c = false)
    (last : ∀ c ∈ value.getLast?, Text.isBlank c = false) : IsBare value where
  single := single
  plain := by
    have trimmed : Text.trim value = value :=
      (Text.trim_eq_self_iff value).2 ⟨fun c begins => (first c begins).1, last⟩
    have unquoted := isQuoted_eq_false fun c begins => (first c begins).2
    simp [needsQuotes, trimmed, unquoted]

/-- Letters and digits are those of ASCII. -/
theorem isAlphanum_eq (c : Char) : c.isAlphanum =
    (decide (c.val ≥ 65 ∧ c.val ≤ 90) || decide (c.val ≥ 97) && decide (c.val ≤ 122) ||
      decide (c.val ≥ 48) && decide (c.val ≤ 57)) := rfl

/-- The names that programs give to variables: letters, digits and underscores, with no digit in
front. -/
structure IsIdentifier (key : List Char) : Prop where
  ne_nil : key ≠ []
  begins : key.head?.all (fun c => !c.isDigit) = true
  parts : key.all (fun c => c.isAlphanum || c == '_') = true

namespace IsIdentifier

variable {key : List Char}

theorem isPart (identifier : IsIdentifier key) {c : Char} (mem : c ∈ key) :
    c.isAlphanum = true ∨ c = '_' := by
  simpa using List.all_eq_true.1 identifier.parts c mem

theorem not_mem (identifier : IsIdentifier key) {c : Char}
    (strange : c.isAlphanum = false ∧ c ≠ '_') : c ∉ key := by
  intro mem
  rcases identifier.isPart mem with part | part
  · simp [strange.1] at part
  · exact strange.2 part

theorem isBlank_eq_false (identifier : IsIdentifier key) {c : Char} (mem : c ∈ key) :
    Text.isBlank c = false := by
  rcases identifier.isPart mem with part | rfl
  · have ranges : (65 ≤ c.toNat ∧ c.toNat ≤ 90 ∨ 97 ≤ c.toNat ∧ c.toNat ≤ 122) ∨
        48 ≤ c.toNat ∧ c.toNat ≤ 57 := by
      simpa [isAlphanum_eq, UInt32.le_iff_toNat_le] using part
    exact Text.isBlank_eq_false_of_code (by omega) (by omega)
  · decide

theorem isKey (identifier : IsIdentifier key) : IsKey key where
  ne_nil := identifier.ne_nil
  trimmed := (Text.trim_eq_self_iff key).2
    ⟨fun _ first => identifier.isBlank_eq_false (List.mem_of_mem_head? first),
      fun _ last => identifier.isBlank_eq_false (List.mem_of_getLast? last)⟩
  equals_not_mem := identifier.not_mem (by decide)

/-- A line that begins with an identifier and goes on with a bare value assigns both. -/
theorem readLine_eq (identifier : IsIdentifier key) {value : List Char} (bare : IsBare value) :
    readLine (key ++ '=' :: value) = .assignment key value := by
  have plain : key.head? ≠ some '#' := fun comment =>
    identifier.not_mem (by decide) (List.mem_of_mem_head? comment)
  have not_export : ¬exportPrefix <+: key := fun starts =>
    identifier.not_mem (c := ' ') (by decide) (starts.subset (by simp [exportPrefix_eq]))
  rw [readLine_key_equals identifier.isKey, if_neg plain,
    (dropExport_eq_self_iff identifier.isKey).2 not_export, bare.unquote_eq]

end IsIdentifier

end EnvFile

namespace Schema

open Document Collection

/-! ## Written defaults -/

theorem numberText_eq (x : Number) : numberText x = x.text := by
  cases x <;> rfl

/-- A text on one line is bare if it begins and ends with characters of numbers. -/
theorem isBare_of_numberChars {s : String} (single : Single s)
    (first : ∀ c ∈ s.toList.head?, Binary64.IsNumberChar c)
    (last : ∀ c ∈ s.toList.getLast?, Binary64.IsNumberChar c) : EnvFile.IsBare s.toList := by
  apply EnvFile.isBare_of_ends single
  · intro c begins
    have apart := (first c begins).apart
    exact ⟨apart.1, by simp [EnvFile.isQuote, apart.2]⟩
  · intro c ends
    exact (last c ends).apart.1

theorem isBare_numberText (x : Number) : EnvFile.IsBare x.text.toList := by
  apply isBare_of_numberChars (Single.ofNumber x)
  · exact fun c first => Number.isNumberChar_of_mem_text (List.mem_of_mem_head? first)
  · exact fun c last => Number.isNumberChar_of_mem_text (List.mem_of_getLast? last)

/-- A text on one line is bare if it stands between two marks that are no blanks, the first of them
no quote. -/
theorem isBare_of_enclosed {s : String} (single : Single s) {first last : Char}
    {inside : List Char} (enclosed : s.toList = first :: (inside ++ [last]))
    (opens : Text.isBlank first = false ∧ EnvFile.isQuote first = false)
    (closes : Text.isBlank last = false) : EnvFile.IsBare s.toList := by
  apply EnvFile.isBare_of_ends single
  · simpa [enclosed] using opens
  · intro c ends
    rw [enclosed, ← List.cons_append, List.getLast?_concat] at ends
    obtain rfl := Option.some.inj ends
    exact closes

/-- Whether a text begins and ends with a digit. -/
structure DigitsAtEnds (s : String) : Prop where
  first : ∀ c ∈ s.toList.head?, c.isDigit = true
  last : ∀ c ∈ s.toList.getLast?, c.isDigit = true
  ne_nil : s.toList ≠ []

theorem digitsAtEnds_padded (width value : Nat) : DigitsAtEnds (padded width value) := by
  have digits : ∀ c ∈ (padded width value).toList, c.isDigit = true := by
    rw [padded, String.toList_ofList, List.forall_mem_append]
    refine ⟨fun c mem => ?_, fun c mem => Text.isDigit_of_mem_toDigits mem⟩
    rw [List.eq_of_mem_replicate mem]
    rfl
  refine ⟨fun c first => digits c (List.mem_of_mem_head? first),
    fun c last => digits c (List.mem_of_getLast? last), ?_⟩
  simp [padded, Nat.toDigits_ne_nil]

theorem DigitsAtEnds.append {first second : String} (one : DigitsAtEnds first) (between : String)
    (two : DigitsAtEnds second) : DigitsAtEnds (first ++ between ++ second) where
  first := by
    rw [String.toList_append, String.toList_append, List.append_assoc,
      List.head?_append_of_ne_nil _ one.ne_nil]
    exact one.first
  last := by
    rw [String.toList_append, List.getLast?_append_of_ne_nil _ two.ne_nil]
    exact two.last
  ne_nil := by simp [one.ne_nil]

theorem digitsAtEnds_dateText (d : Date) : DigitsAtEnds d.text :=
  ((digitsAtEnds_padded 4 d.year).append "-" (digitsAtEnds_padded 2 d.month)).append "-"
    (digitsAtEnds_padded 2 d.day)

/-- A last part may be left out. -/
theorem DigitsAtEnds.append_ite {first second : String} (one : DigitsAtEnds first)
    (between : String) (two : DigitsAtEnds second) (missing : Prop) [Decidable missing] :
    DigitsAtEnds (first ++ if missing then "" else between ++ second) := by
  split
  · rwa [String.append_empty]
  · rw [← String.append_assoc]
    exact one.append between two

theorem digitsAtEnds_timeText (t : TimeOfDay) : DigitsAtEnds t.text :=
  (((digitsAtEnds_padded 2 t.hour).append ":" (digitsAtEnds_padded 2 t.minute)).append
    ":" (digitsAtEnds_padded 2 t.second)).append_ite "." (digitsAtEnds_padded 6 t.millionths) _

theorem DigitsAtEnds.append_offsetText {text : String} (digits : DigitsAtEnds text)
    (seconds : Int) : DigitsAtEnds (text ++ offsetText seconds) := by
  have hours := digits.append (if seconds < 0 then "-" else "+")
    (digitsAtEnds_padded 2 (seconds.natAbs / 3600))
  have zone := (hours.append ":" (digitsAtEnds_padded 2 (seconds.natAbs / 60 % 60))).append_ite
    ":" (digitsAtEnds_padded 2 (seconds.natAbs % 60)) (seconds.natAbs % 60 = 0)
  simpa only [offsetText, String.append_assoc] using zone

theorem digitsAtEnds_momentText (m : Moment) : DigitsAtEnds m.text := by
  cases m with
  | date d => exact digitsAtEnds_dateText d
  | time t => exact digitsAtEnds_timeText t
  | dateTime d t offset =>
      have moment := (digitsAtEnds_dateText d).append " " (digitsAtEnds_timeText t)
      cases offset with
      | none => rwa [Moment.text, Option.map_none, Option.getD_none, String.append_empty]
      | some seconds => exact moment.append_offsetText seconds

theorem isBare_momentText (m : Moment) : EnvFile.IsBare m.text.toList := by
  have ends := digitsAtEnds_momentText m
  apply isBare_of_numberChars (single_momentText m)
  · exact fun c first => Or.inl (ends.first c first)
  · exact fun c last => Or.inl (ends.last c last)

theorem isBare_shown_set (items : List Value) :
    EnvFile.IsBare (Value.shown (.set items)).toList := by
  cases items with
  | nil => exact ⟨by decide, by decide⟩
  | cons item rest =>
      have enclosed : (Value.shown (.set (item :: rest))).toList =
          '\x7b' :: ((Value.shownItems (item :: rest)).toList ++ ['\x7d']) := by
        simp [Value.shown]
      exact isBare_of_enclosed (Value.single_shown _) enclosed (by decide) (by decide)

theorem isBare_quotedOctets (data : List Nat) :
    EnvFile.IsBare (Text.quotedOctets data).toList := by
  have closes : Text.isBlank (Text.quoteFor (data.map Char.ofNat)) = false := by
    rw [Text.quoteFor]
    split <;> decide
  exact isBare_of_enclosed (Text.single_quotedOctets data) String.toList_ofList (by decide) closes

theorem isBare_shown_pair (key value : Value) :
    EnvFile.IsBare (Value.shown (.pair key value)).toList := by
  have enclosed : (Value.shown (.pair key value)).toList =
      '(' :: ((Value.shown key ++ ", " ++ Value.shown value).toList ++ [')']) := by
    simp [Value.shown]
  exact isBare_of_enclosed (Value.single_shown _) enclosed (by decide) (by decide)

/-- The compact text of a list stands between brackets. -/
theorem isBare_write_list (items : List Value) :
    EnvFile.IsBare (Json.write Json.compact (.list items)).toList := by
  cases items with
  | nil => exact ⟨by decide, by decide⟩
  | cons item rest =>
      have enclosed : (Json.writeAt Json.compact 0 (.list (item :: rest))).toList =
          '[' :: ((Json.writeItems Json.compact 1 (item :: rest)).toList ++ [']']) :=
        Json.textAt_list_cons 0 item rest
      exact isBare_of_enclosed (Json.single_writeAt 0 _) enclosed (by decide) (by decide)

theorem isBare_write_map (entries : List (Value × Value)) :
    EnvFile.IsBare (Json.write Json.compact (.map entries)).toList := by
  cases entries with
  | nil => exact ⟨by decide, by decide⟩
  | cons entry rest =>
      have enclosed : (Json.writeAt Json.compact 0 (.map (entry :: rest))).toList =
          '\x7b' :: ((Json.writeEntries Json.compact 1 (entry :: rest)).toList ++ ['\x7d']) := by
        simp [Json.writeAt, Json.compact, Json.Layout.break]
      exact isBare_of_enclosed (Json.single_writeAt 0 _) enclosed (by decide) (by decide)

/-- Whether the example file can show a default: a text has to be bare, JSON has to express a
list or mapping, and integers are written up to a number of digits. -/
def IsShowable : Value → Prop
  | .text s => EnvFile.IsBare s.toList
  | .list items => Json.unwritable? (.list items) = none
  | .map entries => Json.unwritable? (.map entries) = none
  | value => value.isLong = false

theorem written_of_short {value : Value} (short : value.isLong = false) :
    value.written.mapError Json.Unwritable.tooManyDigits = .ok value.plain := by
  simp [Value.written, short, Except.mapError]

theorem eq_plain_of_written {value : Value} {text : String}
    (written : value.written.mapError Json.Unwritable.tooManyDigits = .ok text) :
    text = value.plain := by
  cases short : value.isLong with
  | false => exact (Except.ok.inj ((written_of_short short).symm.trans written)).symm
  | true => simp [Value.written, short, Except.mapError] at written

/-- A default that can be shown is written in a way that is read as it is. -/
theorem exists_defaultText {value : Value} (showable : IsShowable value) :
    ∃ text, defaultText value = .ok text ∧ EnvFile.IsBare text.toList := by
  cases value with
  | null => exact ⟨_, rfl, by decide, by decide⟩
  | bool flag =>
      refine ⟨_, rfl, ?_⟩
      cases flag <;> exact ⟨by decide, by decide⟩
  | int n => exact ⟨_, written_of_short showable, isBare_numberText (.int n)⟩
  | float x => exact ⟨_, rfl, isBare_numberText (.float x)⟩
  | text s => exact ⟨_, rfl, showable⟩
  | moment m => exact ⟨_, rfl, isBare_momentText m⟩
  | octets data => exact ⟨_, rfl, isBare_quotedOctets data⟩
  | pair key value => exact ⟨_, written_of_short showable, isBare_shown_pair key value⟩
  | set items => exact ⟨_, written_of_short showable, isBare_shown_set items⟩
  | list items =>
      have written : Json.unwritable? (.list items) = none := showable
      exact ⟨_, by rw [defaultText, Json.write?, written], isBare_write_list items⟩
  | map entries =>
      have written : Json.unwritable? (.map entries) = none := showable
      exact ⟨_, by rw [defaultText, Json.write?, written], isBare_write_map entries⟩

/-! ## Lines of a field -/

/-- Whether the example file can list a field: what is written into comments has no line breaks and
no integers of too many digits, and the default can be shown. -/
structure Field.IsListable (field : Field) : Prop where
  description : ∀ text ∈ field.description, Single text
  choices : ∀ choice ∈ field.allowedValues.getD [], Single choice
  min : ∀ low ∈ field.min?, (numberValue low).isLong = false
  max : ∀ high ∈ field.max?, (numberValue high).isLong = false
  pattern : ∀ pattern ∈ field.pattern?, Single pattern.source
  default : field.isSensitive = false → ∀ value ∈ field.default?, IsShowable value

theorem Field.exampleValue_of_hidden {field : Field}
    (hidden : field.isSensitive = true ∨ field.default? = none) : field.exampleValue = .ok "" := by
  rw [exampleValue]
  rcases hidden with secret | missing
  · rw [if_pos secret]
  · rw [missing]
    exact ite_self _

theorem Field.exampleValue_of_shown {field : Field} (isOpen : field.isSensitive = false)
    {value : Value} (given : field.default? = some value) :
    field.exampleValue = defaultText value := by
  rw [exampleValue, isOpen, given]
  rfl

/-- The comments in front of a field's line. -/
def Field.exampleComments (field : Field) (conditions : List String) : List String :=
  ((field.description.filter fun text => text != "").map fun text => "# " ++ text).toList ++
    (if conditions.isEmpty then [] else ["# (" ++ String.intercalate ", " conditions ++ ")"])

theorem Field.exampleLines_eq {field : Field} {conditions : List String}
    (listed : field.conditions = .ok conditions) {value : String}
    (written : field.exampleValue = .ok value) (key : String) :
    field.exampleLines key =
      .ok (field.exampleComments conditions ++ [key ++ "=" ++ value, ""]) := by
  rw [exampleLines, listed, written]
  rfl

/-- A bound that can be written is a condition on one line. -/
theorem exists_boundCondition (label : String) (single : Single (label ++ ": "))
    {bound? : Option Number} (short : ∀ bound ∈ bound?, (numberValue bound).isLong = false) :
    ∃ conditions, boundCondition label bound? = .ok conditions ∧
      ∀ condition ∈ conditions, Single condition := by
  cases bound? with
  | none => exact ⟨[], rfl, nofun⟩
  | some bound =>
      refine ⟨[label ++ ": " ++ numberText bound], ?_, List.forall_mem_singleton.2 ?_⟩
      · rw [boundCondition, written_of_short (short bound rfl)]
        rfl
      · rw [Single.append_iff, numberText_eq]
        exact ⟨single, Single.ofNumber bound⟩

namespace Field.IsListable

variable {field : Field}

/-- The conditions of a field can be written, each on one line. -/
theorem exists_conditions (listable : field.IsListable) :
    ∃ conditions, field.conditions = .ok conditions ∧
      ∀ condition ∈ conditions, Single condition := by
  obtain ⟨low, low_eq, low_single⟩ := exists_boundCondition "min" (by decide) listable.min
  obtain ⟨high, high_eq, high_single⟩ := exists_boundCondition "max" (by decide) listable.max
  refine ⟨_, by rw [conditions, low_eq, high_eq]; rfl, ?_⟩
  -- The cases are the conditions in their order; two of them carry texts of the schema.
  simp only [List.forall_mem_append]
  refine ⟨⟨⟨⟨⟨⟨?type, ?choices⟩, low_single⟩, high_single⟩, ?pattern⟩, ?sensitive⟩, ?optional⟩
  case type =>
    rw [typeName]
    cases field.type.name <;> decide
  case choices =>
    split
    · nofun
    · simpa using ⟨by decide, Single.intercalate (by decide) listable.choices⟩
  case pattern =>
    intro condition mem
    obtain ⟨pattern, ⟨is_pattern, -⟩, rfl⟩ : ∃ pattern,
        (field.pattern? = some pattern ∧ pattern.source ≠ "") ∧
          "pattern: " ++ pattern.source = condition := by
      simpa using mem
    rw [Single.append_iff]
    exact ⟨by decide, listable.pattern pattern is_pattern⟩
  case sensitive => split <;> decide
  case optional => split <;> decide

theorem sets_exampleComments (listable : field.IsListable) {conditions : List String}
    (single : ∀ condition ∈ conditions, Single condition) :
    EnvFile.Sets (field.exampleComments conditions) [] := by
  have comment {text : String} (single : Single text) : EnvFile.Sets ["# " ++ text] [] :=
    EnvFile.Sets.comment ((Single.append_iff "# " text).2 ⟨by decide, single⟩) (by simp)
  have description : EnvFile.Sets
      ((field.description.filter fun text => text != "").map fun text => "# " ++ text).toList
      [] := by
    cases shown : field.description.filter fun text => text != "" with
    | none => exact EnvFile.Sets.nil
    | some text => exact comment (listable.description text (Option.filter_eq_some_iff.1 shown).1)
  refine description.append ?_
  split
  · exact EnvFile.Sets.nil
  · have framed : Single ("# (" ++ String.intercalate ", " conditions ++ ")") := by
      rw [Single.append_iff, Single.append_iff]
      exact ⟨⟨by decide, Single.intercalate (by decide) single⟩, by decide⟩
    exact EnvFile.Sets.comment framed (by simp)

/-- The lines of a field set its key. -/
theorem exists_exampleLines (listable : field.IsListable) {key : String}
    (identifier : EnvFile.IsIdentifier key.toList) :
    ∃ value lines, field.exampleValue = .ok value ∧ field.exampleLines key = .ok lines ∧
      EnvFile.Sets lines [(key, value)] := by
  obtain ⟨value, written, bare⟩ : ∃ value, field.exampleValue = .ok value ∧
      EnvFile.IsBare value.toList := by
    rw [exampleValue]
    split
    next => exact ⟨"", rfl, by decide, by decide⟩
    next isOpen =>
      cases given : field.default? with
      | none => exact ⟨"", rfl, by decide, by decide⟩
      | some default =>
          exact exists_defaultText (listable.default (by simpa using isOpen) default given)
  obtain ⟨conditions, listed, single⟩ := listable.exists_conditions
  have line : EnvFile.Sets [key ++ "=" ++ value] [(key, value)] := by
    have text_eq : (key ++ "=" ++ value).toList = key.toList ++ '=' :: value.toList := by simp
    refine EnvFile.Sets.assignment ?_ ?_ <;> rw [text_eq]
    · simpa using ⟨identifier.not_mem (by decide), bare.single⟩
    · exact identifier.readLine_eq bare
  exact ⟨value, _, written, exampleLines_eq listed written key,
    (listable.sets_exampleComments single).append (line.append EnvFile.Sets.blank)⟩

end Field.IsListable

/-! ## Converting defaults -/

/-- Whether a type takes its default, if there is one: a number can be written and read, a choice is
one of the allowed ones, and free data can be expressed in JSON and is no text. -/
def Field.TakesDefault (field : Field) : Prop :=
  match field.type with
  | .string .. => True
  | .number _ _ default => ∀ x ∈ default, x.IsProper
  | .boolean _ => True
  | .url default => ∀ text ∈ default, Url.isUrl text.toList = true
  | .email default => ∀ text ∈ default, isEmail text.toList = true
  | .enum default => ∀ text ∈ default, text ∈ field.allowedValues.getD []
  | .json default => default.IsJson ∧ ∀ text, default ≠ .text text

/-- A number is read as it is written. -/
theorem readNumber?_numberText {x : Number} (proper : x.IsProper) :
    readNumber? (numberText x) = .ok (some x) := by
  have trimmed : Text.trim x.text.toList = x.text.toList := by
    rw [Text.trim_eq_self_iff]
    have apart (c : Char) (mem : c ∈ x.text.toList) : Text.isBlank c = false :=
      (Number.isNumberChar_of_mem_text mem).apart.1
    exact ⟨fun c first => apart c (List.mem_of_mem_head? first),
      fun c last => apart c (List.mem_of_getLast? last)⟩
  obtain ⟨numeral, written, text_eq, number_eq⟩ := Number.exists_numeral proper
  rw [numberText_eq, readNumber?, trimmed, text_eq, Numeral.read?_text written]
  simp only [number_eq]
  rfl

/-- But for texts, JSON data are written as JSON. -/
theorem defaultText_eq_write {value : Value} (json : value.IsJson) (present : value ≠ .null)
    (other : ∀ s, value ≠ .text s) {text : String} (written : defaultText value = .ok text) :
    text = Json.write Json.compact value := by
  have of_write? {text : String} (written : Json.write? Json.compact value = .ok text) :
      text = Json.write Json.compact value := by
    rw [Json.write?] at written
    split at written
    · contradiction
    · exact (Except.ok.inj written).symm
  cases json with
  | null => contradiction
  | bool flag => exact (Except.ok.inj written).symm
  | int _ => exact eq_plain_of_written written
  | @float x proper =>
      obtain ⟨negative, mantissa, exponent⟩ | _ | _ := x
      · exact (Except.ok.inj written).symm
      · contradiction
      · contradiction
  | text s => exact absurd rfl (other s)
  | list _ => exact of_write? written
  | object _ _ => exact of_write? written

/-- A default that its own type takes is found again in its text. -/
theorem Field.convert_defaultText {field : Field} (takes : field.TakesDefault) {value : Value}
    (default : field.default? = some value) {text : String}
    (written : defaultText value = .ok text) : field.convert text = .ok (some value) := by
  rw [default?] at default
  rw [TakesDefault] at takes
  rw [convert]
  generalize field.type = type at *
  -- An address is its own text and is kept by the test that it passes.
  have kept {test : List Char → Bool} {d : Option String}
      (passes : ∀ text ∈ d, test text.toList = true) (is_default : d.map Value.text = some value) :
      keepIf test text = some value := by
    obtain ⟨shown, rfl, rfl⟩ := Option.map_eq_some_iff.1 is_default
    obtain rfl := Except.ok.inj written
    exact if_pos (passes shown rfl)
  cases type with
  | string pattern min max d =>
      obtain ⟨shown, rfl, rfl⟩ := Option.map_eq_some_iff.1 default
      obtain rfl := Except.ok.inj written
      rfl
  | number min max d =>
      obtain ⟨x, rfl, rfl⟩ := Option.map_eq_some_iff.1 default
      have text_eq : text = numberText x := by
        cases x <;> exact eq_plain_of_written written
      simp only [text_eq, readNumber?_numberText (takes x rfl)]
      rfl
  | boolean d =>
      obtain ⟨flag, rfl, rfl⟩ := Option.map_eq_some_iff.1 default
      obtain rfl := Except.ok.inj written
      cases flag <;> rfl
  | url d => exact congrArg Except.ok (kept takes default)
  | email d => exact congrArg Except.ok (kept takes default)
  | enum d =>
      obtain ⟨shown, rfl, rfl⟩ := Option.map_eq_some_iff.1 default
      obtain rfl := Except.ok.inj written
      have allowed : shown ∈ field.allowedValues.getD [] := takes shown rfl
      exact congrArg Except.ok (if_pos (List.contains_iff_mem.2 allowed))
  | json d =>
      obtain ⟨rfl, present⟩ : d = value ∧ d ≠ .null := by
        cases d with
        | null => contradiction
        | _ => exact ⟨Option.some.inj default, nofun⟩
      have back := Json.read_write (g := { constants := false }) Json.isReadable_compact takes.1
      simp only [defaultText_eq_write takes.1 present takes.2 written, readJson?, back]
      rfl

/-! ## Example files -/

theorem exampleText_eq (schema : Schema) :
    exampleText schema =
      (schema.toList.mapM fun entry : String × Field => entry.2.exampleLines entry.1).map
        fun blocks => String.intercalate "\n" (exampleHeader ++ blocks.flatten) := by
  change (schema.toList.mapM fun entry : String × Field => entry.2.exampleLines entry.1) >>= _ = _
  cases schema.toList.mapM fun entry : String × Field => entry.2.exampleLines entry.1 <;> rfl

theorem sets_exampleHeader : EnvFile.Sets exampleHeader [] :=
  (EnvFile.Sets.comment (by decide) (by decide)).append
    ((EnvFile.Sets.comment (by decide) (by decide)).append EnvFile.Sets.blank)

/-- The blocks of listable fields set each key to the value that its field has in the example. -/
theorem exists_exampleBlocks {entries : List (String × Field)}
    (identifiers : ∀ entry ∈ entries, EnvFile.IsIdentifier entry.1.toList)
    (listable : ∀ entry ∈ entries, entry.2.IsListable) :
    ∃ (pairs : List (String × String)) (blocks : List (List String)),
      List.Forall₂ (fun entry pair => pair.1 = entry.1 ∧ entry.2.exampleValue = .ok pair.2)
          entries pairs ∧
        entries.mapM (fun entry => entry.2.exampleLines entry.1) = .ok blocks ∧
        EnvFile.Sets blocks.flatten pairs := by
  -- The blocks are made one after the other, and each adds one pair.
  induction entries with
  | nil => exact ⟨[], [], .nil, rfl, EnvFile.Sets.nil⟩
  | cons entry rest ih =>
      obtain ⟨pairs, blocks, values, made, sets⟩ :=
        ih (fun other mem => identifiers other (List.mem_cons_of_mem entry mem))
          fun other mem => listable other (List.mem_cons_of_mem entry mem)
      obtain ⟨value, lines, written, lines_made, line_sets⟩ :=
        (listable entry List.mem_cons_self).exists_exampleLines
          (identifiers entry List.mem_cons_self)
      refine ⟨(entry.1, value) :: pairs, lines :: blocks, .cons ⟨rfl, written⟩ values, ?_, ?_⟩
      · rw [List.mapM_cons, lines_made, made]
        rfl
      · exact line_sets.append sets

/-- Whether the example file of a schema is read without complaint, sets the keys of the schema in
their order, leaves out the values of secrets and of fields without a default, and gives back the
other defaults, as far as their fields meet a condition. -/
def LoadsBack (condition : Field → Prop) (schema : Schema) (path : String) : Prop :=
  ∃ text, exampleText schema = .ok text ∧ (EnvFile.parse text path).diagnostics = [] ∧
    (EnvFile.parse text path).entries.keys = schema.keys ∧
    ∀ key field, schema.get? key = some field →
      ∃ entry, (EnvFile.parse text path).entries.get? key = some entry ∧
        (field.isSensitive = true ∨ field.default? = none → entry.value = "") ∧
        (field.isSensitive = false → condition field → ∀ default ∈ field.default?,
          field.convert entry.value = .ok (some default))

/-- The example file of a schema with identifiers as keys loads back to the defaults that their own
types take, if all fields can be listed. -/
theorem exampleText_loads {schema : Schema}
    (identifiers : ∀ key ∈ schema.keys, EnvFile.IsIdentifier key.toList)
    (listable : ∀ field ∈ schema.values, field.IsListable) (path : String) :
    LoadsBack Field.TakesDefault schema path := by
  have named : ∀ entry ∈ schema.toList, EnvFile.IsIdentifier entry.1.toList :=
    fun entry mem => identifiers entry.1 (List.mem_map_of_mem mem)
  obtain ⟨pairs, blocks, values, made, sets⟩ :=
    exists_exampleBlocks named fun entry mem => listable entry.2 (List.mem_map_of_mem mem)
  have keys_eq : pairs.map Prod.fst = schema.keys := by
    rw [Dict.keys, ← List.forall₂_eq_eq_eq, List.forall₂_map_left_iff, List.forall₂_map_right_iff]
    exact values.flip.imp fun _ _ same => same.1
  have whole : EnvFile.Sets (exampleHeader ++ blocks.flatten) pairs :=
    sets_exampleHeader.append sets
  obtain ⟨silent, loaded⟩ := whole.parse_intercalate (by simp [exampleHeader])
    (keys_eq ▸ schema.nodup) path
  refine ⟨_, by rw [exampleText_eq, made]; rfl, silent, ?_, ?_⟩
  · rw [EnvFile.keys_eq_map_values, loaded, keys_eq]
  · intro key field known
    obtain ⟨⟨_, value⟩, mem, rfl, written⟩ :=
      exists_mem_of_forall₂ values ((Dict.get?_eq_some_iff _ _ _).1 known)
    rw [← loaded, EnvFile.values, List.mem_map] at mem
    obtain ⟨⟨_, entry⟩, listed, same⟩ := mem
    obtain ⟨rfl, rfl⟩ := Prod.mk.inj same
    refine ⟨entry, (Dict.get?_eq_some_iff _ _ _).2 listed, ?_, ?_⟩
    · intro hidden
      rw [Field.exampleValue_of_hidden hidden] at written
      exact (Except.ok.inj written).symm
    · intro isOpen takes default given
      rw [Field.exampleValue_of_shown isOpen given] at written
      exact field.convert_defaultText takes given written

/-- A service with a field of most types, one of them secret. -/
def serviceSchema : Schema where
  toList :=
    [ ("HOST", { description := some "Where to listen"
                 type := .string none none none (some "local host")
                 allows_of_enum := by decide }),
      ("PORT", { type := .number (some (.int 1)) none (some (.int 8080))
                 allows_of_enum := by decide }),
      ("TOKEN", { isSensitive := true
                  type := .string none none none (some " t")
                  allows_of_enum := by decide }),
      ("LEVEL", { allowedValues := some ["low", "high"]
                  type := .enum (some "low")
                  allows_of_enum := by decide }),
      ("LIMITS", { type := .json (.object [("cpu", .list [.int 2, .null])])
                   allows_of_enum := by decide }) ]

/-- All that the service gives is found again. -/
theorem exampleText_loads_service :
    (∀ key ∈ serviceSchema.keys, EnvFile.IsIdentifier key.toList) ∧
      (∀ field ∈ serviceSchema.values, field.IsListable ∧ field.TakesDefault) ∧
      LoadsBack (fun _ => True) serviceSchema ".env.example" := by
  have identifiers : ∀ key ∈ serviceSchema.keys, EnvFile.IsIdentifier key.toList := by
    simp only [Dict.keys, serviceSchema, List.map_cons, List.map_nil, List.forall_mem_cons]
    refine ⟨?_, ?_, ?_, ?_, ?_, by simp⟩ <;> exact ⟨by decide, by decide, by decide⟩
  have shows (value : Value) (showable : IsShowable value) :
      ∀ shown ∈ some value, IsShowable shown := by
    rintro _ ⟨⟩
    exact showable
  have short (n : Int) (few : (Nat.toDigits 10 n.natAbs).length ≤ Numeral.digitLimit) :
      (Number.int n).IsProper := few
  have limits : (Value.object [("cpu", .list [.int 2, .null])]).IsJson := by
    refine .object (by decide) (List.forall_mem_singleton.2 (.list ?_))
    exact List.forall_mem_cons.2 ⟨.int (short 2 (by decide)), List.forall_mem_singleton.2 .null⟩
  have fields : ∀ field ∈ serviceSchema.values, field.IsListable ∧ field.TakesDefault := by
    simp only [Dict.values, serviceSchema, List.map_cons, List.map_nil, List.forall_mem_cons]
    refine ⟨?host, ?port, ?token, ?level, ?limits, by simp⟩
    case host =>
      have bare : EnvFile.IsBare "local host".toList := ⟨by decide, by decide⟩
      exact ⟨⟨by decide, by decide, by decide, by decide, by decide,
        fun _ => shows (.text "local host") bare⟩, trivial⟩
    case port =>
      refine ⟨⟨by decide, by decide, by decide, by decide, by decide,
        fun _ => shows (.int 8080) rfl⟩, ?_⟩
      rintro _ ⟨⟩
      exact short 8080 (by decide)
    case token =>
      exact ⟨⟨by decide, by decide, by decide, by decide, by decide,
        fun isOpen => by contradiction⟩, trivial⟩
    case level =>
      have bare : EnvFile.IsBare "low".toList := ⟨by decide, by decide⟩
      refine ⟨⟨by decide, by decide, by decide, by decide, by decide,
        fun _ => shows (.text "low") bare⟩, ?_⟩
      rintro _ ⟨⟩
      decide
    case limits =>
      have no_text (s : String) : Value.object [("cpu", .list [.int 2, .null])] ≠ .text s := by
        simp [Value.object]
      exact ⟨⟨by decide, by decide, by decide, by decide, by decide, fun _ => shows _ (by rfl)⟩,
        limits, no_text⟩
  obtain ⟨text, made, silent, keys_eq, found⟩ :=
    exampleText_loads identifiers (fun field mem => (fields field mem).1) ".env.example"
  refine ⟨identifiers, fields, text, made, silent, keys_eq, fun key field known => ?_⟩
  obtain ⟨entry, listed, hidden, given⟩ := found key field known
  have takes := (fields field (List.mem_map_of_mem ((Dict.get?_eq_some_iff _ _ _).1 known))).2
  exact ⟨entry, listed, hidden, fun isOpen _ => given isOpen takes⟩

/-- Free data whose default is a text. -/
def textData : Value :=
  .object [("DATA", .object [("type", .text "json"), ("default", .text "abc")])]

/-- The schema of the document above. -/
def textSchema : Schema where
  toList := [("DATA", { type := .json (.text "abc") })]

/-- What is found in the example file need not convert to the default: a text is written as it is,
where free data are read as JSON. -/
theorem not_loadsBack_textData :
    ¬ ∀ (source : String) (document : Value) (schema : Schema) (path : String),
      ofDocument source document = .ok schema →
        (∀ key ∈ schema.keys, EnvFile.IsIdentifier key.toList) →
          LoadsBack (fun _ => True) schema path := by
  intro all
  have accepted : ofDocument "" textData = .ok textSchema := rfl
  have identifiers : ∀ key ∈ textSchema.keys, EnvFile.IsIdentifier key.toList :=
    List.forall_mem_singleton.2 ⟨by decide, by decide, by decide⟩
  obtain ⟨text, made, -, -, fields⟩ :=
    all "" textData textSchema ".env" accepted identifiers
  obtain ⟨entry, listed, -, back⟩ := fields "DATA" _ rfl
  have value_eq : ((exampleText textSchema).map fun text =>
      ((EnvFile.parse text ".env").entries.get? "DATA").map Entry.value) =
        .ok (some "abc") := by
    decide +kernel
  have read : entry.value = "abc" := by
    simpa [made, listed, Except.map] using value_eq
  rw [read] at back
  have given := back rfl trivial (.text "abc") rfl
  have refused : Field.convert { type := .json (.text "abc") } "abc" = .ok none := rfl
  rw [refused] at given
  cases Except.ok.inj given

end Schema

end EnvConcord
