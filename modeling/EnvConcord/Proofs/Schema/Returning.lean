import EnvConcord.Proofs.Number.Numerals
import EnvConcord.Proofs.Schema.Typing
import EnvConcord.Proofs.Text.Trim
import EnvConcord.Schema.Reader

/-!
# When a check comes to a report

A report finds every value that does not fit its field, and no other.  A check comes to a report
unless an integer has too many digits: a number that is to be read, or a bound that is to be shown
with a value beyond it.
-/

namespace EnvConcord.Schema

open Document

/-! ## Values that fit -/

/-- Whether the allowed values, if there are any, contain a text. -/
def Field.Allows (field : Field) (text : String) : Prop :=
  ∀ choices ∈ field.allowedValues, text ∈ choices

/-- The first bound that a text is beyond. -/
def Field.exceeded? (field : Field) (text : String) : Option Number :=
  (field.min?.filter fun low => (field.size? text).any fun size => size.less low).or
    (field.max?.filter fun high => (field.size? text).any fun size => high.less size)

/-- Whether a text fits a field. -/
structure Field.Accepts (field : Field) (text : String) : Prop where
  allowed : field.Allows text
  converts : ∃ typed, field.convert text = .ok (some typed)
  within : field.exceeded? text = none
  formed : ∀ pattern ∈ field.pattern?,
    pattern.source = "" ∨ Pattern.Regex.occursIn pattern.regex text.toList = true

/-- Whether there is no value, or an empty one, though one is required. -/
def Field.IsMissing (field : Field) (value : Option String) : Prop :=
  field.required = true ∧ isBlankValue value = true

/-- Whether there is a value that does not fit. -/
def Field.IsMisfit (field : Field) (value : Option String) : Prop :=
  ¬field.IsMissing value ∧ ∃ text ∈ value, ¬field.Accepts text

section Options

variable {β γ : Type*} {related : β → γ → Prop}

theorem rel_ite {p : Prop} [Decidable p] {b : β} {c : γ} (here : related b c) :
    Option.Rel related (if p then some b else none) (if p then some c else none) := by
  split
  · exact .some here
  · exact .none

theorem rel_or {a b : Option β} {c d : Option γ} (first : Option.Rel related a c)
    (second : Option.Rel related b d) : Option.Rel related (a.or b) (c.or d) := by
  cases first with
  | some here => exact .some here
  | none => exact second

end Options

section Checks

variable {field : Field} {text : String}

theorem Field.breachAt?_choice_eq_none_iff :
    field.breachAt? text .choice = none ↔ field.Allows text := by
  rw [breachAt?, Allows]
  cases field.allowedValues <;> simp

theorem Field.breachAt?_pattern_eq_none_iff :
    field.breachAt? text .pattern = none ↔
      ∀ pattern ∈ field.pattern?,
        pattern.source = "" ∨ Pattern.Regex.occursIn pattern.regex text.toList = true := by
  rw [breachAt?]
  cases field.pattern? with
  | none => simp
  | some pattern => simp [or_iff_not_imp_left]

theorem less_int (m n : Int) : (Number.int m).less (.int n) = decide (m < n) := by
  simp [Number.less, Number.place?, Number.Place.before]

/-- The breach of the bounds is about the bound that the text is beyond. -/
theorem Field.rel_exceeded? (field : Field) (text : String) :
    Option.Rel (fun breach bound => breach.bound? = some bound)
      ((field.lowBreach? text).or (field.highBreach? text)) (field.exceeded? text) := by
  rw [exceeded?]
  apply rel_or
  · rw [lowBreach?, min?, size?]
    cases field.type with
    | string pattern min max default =>
        cases min with
        | none => exact .none
        | some min =>
            simp only [Option.map_some, Option.filter, Option.any_some, less_int,
              decide_eq_true_eq]
            exact rel_ite rfl
    | number min max default =>
        cases min with
        | none => exact .none
        | some min => exact rel_ite rfl
    | _ => exact .none
  · rw [highBreach?, max?, size?]
    cases field.type with
    | string pattern min max default =>
        cases max with
        | none => exact .none
        | some max =>
            simp only [Option.map_some, Option.filter, Option.any_some, less_int,
              decide_eq_true_eq]
            exact rel_ite rfl
    | number min max default =>
        cases max with
        | none => exact .none
        | some max => exact rel_ite rfl
    | _ => exact .none

theorem Field.exceeded?_eq (field : Field) (text : String) :
    field.exceeded? text =
        ((field.lowBreach? text).or (field.highBreach? text)).bind Breach.bound? ∧
      (field.exceeded? text = none ↔
        field.lowBreach? text = none ∧ field.highBreach? text = none) := by
  rw [← Option.or_eq_none_iff]
  have bounds := field.rel_exceeded? text
  generalize (field.lowBreach? text).or (field.highBreach? text) = breach at bounds ⊢
  generalize field.exceeded? text = bound at bounds ⊢
  cases bounds with
  | some bound_eq => simp [bound_eq]
  | none => simp

/-- A text that is converted or refused is converted exactly if this check passes. -/
theorem Field.breachAt?_conversion_eq_none_iff {converted : Option Value}
    (done : field.convert text = .ok converted) :
    field.breachAt? text .conversion = none ↔
      ∃ typed, field.convert text = .ok (some typed) := by
  rw [breachAt?, refuses, done]
  cases converted <;> simp

/-- Nothing is found about a text exactly if it fits. -/
theorem Field.breach?_eq_none_iff {result : Option Breach}
    (decided : field.breach? text = .ok result) : result = none ↔ field.Accepts text := by
  have checks : result = none ↔ ∀ check ∈ Check.ofText, field.breachAt? text check = none := by
    rw [← breach?_eq decided, List.findSome?_eq_none_iff]
  rw [checks]
  constructor
  · intro silent
    have allowed := silent .choice (by decide)
    obtain ⟨converted, done⟩ := exists_convert_of_breach? allowed decided
    exact
      { allowed := breachAt?_choice_eq_none_iff.1 allowed
        converts := (breachAt?_conversion_eq_none_iff done).1 (silent .conversion (by decide))
        within := (field.exceeded?_eq text).2.2
          ⟨silent .lowerBound (by decide), silent .upperBound (by decide)⟩
        formed := breachAt?_pattern_eq_none_iff.1 (silent .pattern (by decide)) }
  · intro fits check mem
    obtain ⟨typed, done⟩ := fits.converts
    obtain ⟨low, high⟩ := (field.exceeded?_eq text).2.1 fits.within
    cases check with
    | presence => rfl
    | choice => exact breachAt?_choice_eq_none_iff.2 fits.allowed
    | conversion => exact (breachAt?_conversion_eq_none_iff done).2 fits.converts
    | lowerBound => exact low
    | upperBound => exact high
    | pattern => exact breachAt?_pattern_eq_none_iff.2 fits.formed

end Checks

/-! ## Integers of too many digits -/

/-- Whether a bound is an integer of more digits than are written. -/
def IsUnwritable (bound : Number) : Prop :=
  ∃ n : Int, bound = .int n ∧ Numeral.digitLimit < (Nat.toDigits 10 n.natAbs).length

/-- Whether the type or the bounds of a text cannot be checked: the text writes too long an integer,
or the bound it is beyond is one. -/
inductive Field.Overflows (field : Field) (text : String) : Prop
  | reading (number : field.type.name = .number)
      (long : Numeral.IsOverlong (Text.trim text.toList))
  | writing (bound : Number) (beyond : field.exceeded? text = some bound)
      (long : IsUnwritable bound)

/-- Whether a value stops the check. -/
def Field.Stops (field : Field) (value : Option String) : Prop :=
  ¬field.IsMissing value ∧ ∃ text ∈ value, field.Allows text ∧ field.Overflows text

section Stops

variable {field : Field} {text : String}

theorem exists_readNumber?_eq_error_iff (text : String) :
    (∃ cause, readNumber? text = .error cause) ↔
      Numeral.IsOverlong (Text.trim text.toList) := by
  rw [Numeral.isOverlong_iff, readNumber?]
  cases Numeral.read? (Text.trim text.toList) with
  | none => simp
  | some n => cases failed : n.toNumber <;> simp [failed, Except.map]

/-- A number has no text if it is an integer of too many digits. -/
theorem exists_written_numberValue_eq_error_iff (number : Number) :
    (∃ cause, (numberValue number).written = .error cause) ↔ IsUnwritable number := by
  cases number with
  | int n =>
      have unwritable_iff : IsUnwritable (.int n) ↔ Numeral.isLong n = true := by
        simp [IsUnwritable, Numeral.isLong]
      rw [unwritable_iff]
      cases long : Numeral.isLong n <;> simp [numberValue, Value.written, Value.isLong, long]
  | float x => simp [numberValue, Value.written, Value.isLong, IsUnwritable]

theorem exists_told_eq_error_iff (breach : Option Breach) :
    (∃ cause, told breach = .error cause) ↔
      ∃ bound ∈ breach.bind Breach.bound?, IsUnwritable bound := by
  rw [told]
  cases breach.bind Breach.bound? with
  | none => simp
  | some bound =>
      simp only [Option.mem_def, Option.some.injEq, exists_eq_left',
        ← exists_written_numberValue_eq_error_iff]
      cases (numberValue bound).written <;> simp [Except.map]

/-- Number fields are the ones whose type cannot always be checked, bounds apart. -/
theorem Field.exists_typeBreach?_eq_error_of_unsized (unsized : field.size? text = none) :
    (∃ cause, field.typeBreach? text = .error cause) ↔
      field.type.name = .number ∧ ∃ cause, readNumber? text = .error cause := by
  cases type_eq : field.type with
  | string pattern min max default => simp [size?, type_eq] at unsized
  | number min max default =>
      cases read : readNumber? text with
      | error cause => simp [typeBreach?, type_eq, read, bind, Except.bind, FieldType.name]
      | ok number =>
          cases number with
          | none =>
              simp [typeBreach?, type_eq, read, bind, Except.bind, pure, Except.pure]
          | some number => simp [size?, type_eq, number?_of_readNumber? type_eq read] at unsized
  | enum default => simp [typeBreach?, type_eq, FieldType.name]
  | _ =>
      simp only [typeBreach?, type_eq, convert, FieldType.name, bind, Except.bind, pure,
        Except.pure]
      split <;> simp

theorem Field.exists_typeBreach?_eq_error_iff :
    (∃ cause, field.typeBreach? text = .error cause) ↔ field.Overflows text := by
  cases sized : field.size? text with
  | some size =>
      rw [typeBreach?_of_size sized, exists_told_eq_error_iff, ← (field.exceeded?_eq text).1]
      constructor
      · rintro ⟨bound, beyond, long⟩
        exact .writing bound beyond long
      · rintro (⟨number, long⟩ | ⟨bound, beyond, long⟩)
        -- A number has a size only where it was read.
        · obtain ⟨cause, failed⟩ := (exists_readNumber?_eq_error_iff text).2 long
          cases type_eq : field.type <;> simp [type_eq, FieldType.name] at number
          simp [size?, number?, convert, type_eq, failed, Except.map] at sized
        · exact ⟨bound, beyond, long⟩
  | none =>
      rw [exists_typeBreach?_eq_error_of_unsized sized, exists_readNumber?_eq_error_iff]
      constructor
      · rintro ⟨number, long⟩
        exact .reading number long
      · rintro (⟨number, long⟩ | ⟨bound, beyond, -⟩)
        · exact ⟨number, long⟩
        · simp [exceeded?, sized] at beyond

/-- The checks of a text come to an end unless an allowed text overflows. -/
theorem Field.exists_breach?_iff :
    (∃ breach, field.breach? text = .ok breach) ↔ ¬(field.Allows text ∧ field.Overflows text) := by
  rw [← breachAt?_choice_eq_none_iff, ← exists_typeBreach?_eq_error_iff]
  cases choice : field.breachAt? text .choice with
  | some breach => simp [breach?_of_not_allowed choice]
  | none =>
      rw [breach?_of_allowed choice]
      cases field.typeBreach? text <;> simp [Except.map]

theorem Field.isMissing_iff {value : Option String} :
    field.IsMissing value ↔ (field.required && isBlankValue value) = true := by
  rw [IsMissing, Bool.and_eq_true]

theorem Field.exists_verdict_iff {value : Option String} :
    (∃ verdict, field.verdict value = .ok verdict) ↔ ¬field.Stops value := by
  constructor
  · rintro ⟨verdict, judged⟩ ⟨present, text, value_eq, overflows⟩
    rw [isMissing_iff] at present
    cases verdict_eq_ok_iff.1 judged with
    | missing gone => exact present gone
    | absent => contradiction
    | checked _ decided =>
        obtain rfl := Option.some.inj value_eq
        exact exists_breach?_iff.1 ⟨_, decided⟩ overflows
  · intro runs
    simp only [verdict_eq_ok_iff]
    by_cases gone : field.IsMissing value
    · exact ⟨_, .missing (isMissing_iff.1 gone)⟩
    · cases value with
      | none => exact ⟨_, .absent (by simpa [IsMissing, isBlankValue] using gone)⟩
      | some text =>
          obtain ⟨breach, decided⟩ :=
            exists_breach?_iff.2 fun overflows => runs ⟨gone, text, rfl, overflows⟩
          exact ⟨_, .checked (by simpa [isMissing_iff] using gone) decided⟩

end Stops

/-! ## Reports -/

/-- A verdict says whether a value is missing, and a breach is one of a value that does not fit. -/
theorem Field.says_of_verdict {field : Field} {value : Option String} {verdict : Verdict}
    (judged : field.verdict value = .ok verdict) :
    (verdict.missing = true ↔ field.IsMissing value) ∧
      (verdict.breach ≠ none ↔ field.IsMisfit value) := by
  rw [IsMisfit, isMissing_iff]
  cases verdict_eq_ok_iff.1 judged with
  | missing gone => simp [gone]
  | absent optional => simp [optional]
  | checked present decided => simp [present, breach?_eq_none_iff decided]

section Reports

variable {schema : Schema} {env : Variables} {report : Report}

/-- A check comes to a report unless the value of a field stops it. -/
theorem exists_validate_iff :
    (∃ report, validate schema env = .ok report) ↔
      ∀ entry ∈ schema.toList, ¬entry.2.Stops (env.value? entry.1) := by
  have checked_iff (entry : String × Field) : (∃ c, checkedEntry env entry = .ok c) ↔
      ¬entry.2.Stops (env.value? entry.1) := by
    rw [← Field.exists_verdict_iff, checkedEntry]
    cases entry.2.verdict (env.value? entry.1) <;> simp [Except.map]
  simp only [← checked_iff, ← Collection.exists_mapM_eq_ok_iff]
  rw [validate, verdicts_eq]
  cases schema.toList.mapM (checkedEntry env) <;> simp [Except.map]

theorem exists_listed_iff (report : Report) (key : String) :
    (∃ issue ∈ report.invalidEnum ++ report.invalidType ++ report.invalidFormat,
        issue.key = key) ↔
      ∃ group issue, .breach group issue ∈ report.about key := by
  simp only [mem_about_breach_iff, List.mem_append]
  constructor
  · rintro ⟨issue, (choice | type) | format, key_eq⟩
    · exact ⟨.choice, issue, key_eq, Or.inl ⟨rfl, choice⟩⟩
    · exact ⟨.type, issue, key_eq, Or.inr (Or.inl ⟨rfl, type⟩)⟩
    · exact ⟨.format, issue, key_eq, Or.inr (Or.inr ⟨rfl, format⟩)⟩
  · rintro ⟨group, issue, key_eq, ⟨-, choice⟩ | ⟨-, type⟩ | ⟨-, format⟩⟩
    · exact ⟨issue, Or.inl (Or.inl choice), key_eq⟩
    · exact ⟨issue, Or.inl (Or.inr type), key_eq⟩
    · exact ⟨issue, Or.inr format, key_eq⟩

/-- What a verdict that is settled reports is that a value is missing, or a breach. -/
theorem Verdict.mem_findings {verdict : Verdict}
    (settled : verdict.missing = true → verdict.breach = none) (field : Field)
    (key text : String) :
    let findings := (verdict.finding? field key text).toList ++
      (verdict.exposure? field key text).toList
    (.missing ∈ findings ↔ verdict.missing = true) ∧
      ((∃ group issue, .breach group issue ∈ findings) ↔ verdict.breach ≠ none) := by
  rw [finding?, exposure?]
  cases gone : verdict.missing with
  | true => cases verdict.exposedDefault <;> simp [settled gone]
  | false =>
      cases verdict.breach <;> cases verdict.exposedDefault <;> simp [Field.breachFinding]

/-- Under the key of a field a report says whether the value is missing, and otherwise whether it
fits. -/
theorem found_of_validate (returned : validate schema env = .ok report) {key : String}
    {field : Field} (mem : (key, field) ∈ schema.toList) :
    (key ∈ report.missing ↔ field.IsMissing (env.value? key)) ∧
      ((∃ issue ∈ report.invalidEnum ++ report.invalidType ++ report.invalidFormat,
        issue.key = key) ↔ field.IsMisfit (env.value? key)) := by
  have about_eq := about_validate returned key
  obtain ⟨checked, decided, -⟩ := exists_verdicts_of_validate returned
  obtain ⟨c, -, c_of⟩ := filter_key_of_verdicts decided mem
  obtain ⟨first_eq, exposure_eq⟩ := Field.findings_of_verdict c_of.judged key
  obtain ⟨missing_iff, breach_iff⟩ := Field.says_of_verdict c_of.judged
  have settled := Field.breach_eq_none_of_missing c_of.judged
  have findings := Verdict.mem_findings settled field key ((env.value? key).getD "")
  rw [(Dict.get?_eq_some_iff schema key field).2 mem, findingsFor, first_eq, exposure_eq] at about_eq
  rw [mem_missing_iff, exists_listed_iff, about_eq, ← missing_iff, ← breach_iff]
  exact findings

end Reports

/-- What a check comes to. -/
structure ReportsMisfits (schema : Schema) (env : Variables) : Prop where
  /-- There is a report unless the value of a field stops the check. -/
  returns_iff : (∃ report, validate schema env = .ok report) ↔
    ∀ entry ∈ schema.toList, ¬entry.2.Stops (env.value? entry.1)
  missing_iff : ∀ report, validate schema env = .ok report → ∀ entry ∈ schema.toList,
    (entry.1 ∈ report.missing ↔ entry.2.IsMissing (env.value? entry.1))
  /-- The lists of issues name the fields whose values do not fit. -/
  listed_iff : ∀ report, validate schema env = .ok report → ∀ entry ∈ schema.toList,
    ((∃ issue ∈ report.invalidEnum ++ report.invalidType ++ report.invalidFormat,
      issue.key = entry.1) ↔ entry.2.IsMisfit (env.value? entry.1))

/-- A check that is not stopped finds all values that do not fit their fields. -/
theorem validate_reportsMisfits (schema : Schema) (env : Variables) :
    ReportsMisfits schema env where
  returns_iff := exists_validate_iff
  missing_iff := fun _ returned _ mem => (found_of_validate returned mem).1
  listed_iff := fun _ returned _ mem => (found_of_validate returned mem).2

/-- A document with one field, a number with an upper bound. -/
def portDocument : Value :=
  .object [("PORT", .object [("type", .text "number"), ("max", .int 65535)])]

/-- The schema of the document above. -/
def portSchema : Schema where
  toList :=
    [("PORT", { type := .number none (some (.int 65535)) none, allows_of_enum := by decide })]

/-- A run of ones. -/
def ones (n : Nat) : String := String.ofList (List.replicate n '1')

/-- One digit more than are read. -/
def longPort : Variables where
  toList := [("PORT", some (ones 4301))]

theorem ones_ne_empty {n : Nat} (positive : n ≠ 0) : ones n ≠ "" := by
  rw [ones, ne_eq, ← String.toList_inj, String.toList_ofList]
  simpa using positive

theorem isOverlong_ones {n : Nat} (long : Numeral.digitLimit < n) :
    Numeral.IsOverlong (Text.trim (ones n).toList) := by
  have filled {c : Char} (mem : c ∈ List.replicate n '1') : c = '1' := List.eq_of_mem_replicate mem
  have trimmed : Text.trim (List.replicate n '1') = List.replicate n '1' := by
    rw [Text.trim_eq_self_iff]
    constructor
    · intro c first
      rw [filled (List.mem_of_mem_head? first)]
      decide
    · intro c last
      rw [filled (List.mem_of_getLast? last)]
      decide
  rw [ones, String.toList_ofList, trimmed]
  refine ⟨[], by simp, List.replicate n '1', rfl, fun c mem => ?_, ?_⟩
  · rw [filled mem]
    decide
  · rwa [List.length_replicate]

/-- A number that is beyond its bound need not be reported, as it may stop the check. -/
theorem not_returns_longPort :
    ¬∀ (source : String) (document : Value) (schema : Schema) (env : Variables),
      ofDocument source document = .ok schema → ∃ report, validate schema env = .ok report := by
  intro all
  have accepted : ofDocument "" portDocument = .ok portSchema := rfl
  have value_eq : longPort.value? "PORT" = some (ones 4301) := rfl
  have returns := all "" portDocument portSchema longPort accepted
  apply exists_validate_iff.1 returns _ List.mem_cons_self
  rw [value_eq]
  refine ⟨?_, ones 4301, rfl, ?_, .reading rfl (isOverlong_ones (by decide))⟩
  · rintro ⟨-, blank⟩
    have content : ones 4301 ≠ "" := ones_ne_empty (by decide)
    exact content (by simpa [isBlankValue] using blank)
  · rintro choices ⟨⟩

end EnvConcord.Schema
