import EnvConcord.Proofs.Schema.Findings

/-!
# Typing against checking

Typing stops at the first field that cannot be typed, and a check goes over all fields.  They
agree: whatever stops typing is among the findings of the check, and where the check finds
nothing missing, nothing of a wrong type and no value that is not allowed, all fields are typed.
-/

namespace EnvConcord.Schema

open Document

/-! ## What a field is typed as -/

/-- Whether a field has neither a value nor a default in its place, though one is required. -/
def Field.IsUnset (field : Field) (value : Option String) : Prop :=
  isBlankValue value = true ∧ field.required = true ∧
    (field.default? = none ∨ field.isSensitive = true)

/-- Whether a field has a value that is not converted to one of its type. -/
def Field.IsUnconvertible (field : Field) (value : Option String) : Prop :=
  ∃ text, value = some text ∧ text ≠ "" ∧ ∀ typed, field.convert text ≠ .ok (some typed)

/-- Whether a field cannot be typed. -/
def Field.IsUntypable (field : Field) (value : Option String) : Prop :=
  field.IsUnset value ∨ field.IsUnconvertible value

/-- The typed value of a field: what its text is converted to, or the default where there is no
text and the field is not secret. -/
inductive Field.Types (field : Field) (value : Option String) (typed : Value) : Prop
  | converted (text : String) (value_eq : value = some text) (content : text ≠ "")
      (converts : field.convert text = .ok (some typed))
  | byDefault (blank : isBlankValue value = true) (open_field : field.isSensitive = false)
      (default_eq : field.default? = some typed)

/-- Whether a field has a value, or a default in its place. -/
def Field.hasContent (field : Field) (value : Option String) : Bool :=
  !isBlankValue value || (field.hasDefault && !field.isSensitive)

/-- A value is either blank or a text that is typed by its conversion. -/
theorem filter_content_eq (value : Option String) :
    (isBlankValue value = true ∧ (value.filter fun text => text != "") = none) ∨
      ∃ text, value = some text ∧ text ≠ "" ∧ isBlankValue value = false ∧
        (value.filter fun text => text != "") = some text := by
  cases value with
  | none => exact Or.inl ⟨rfl, rfl⟩
  | some text =>
      by_cases empty : text = ""
      · subst empty
        exact Or.inl ⟨rfl, rfl⟩
      · right
        refine ⟨text, rfl, empty, ?_, ?_⟩
        · simpa [isBlankValue] using empty
        · simp [Option.filter, empty]

section Typed

variable {field : Field} {key : String} {value : Option String}

theorem Field.typed_of_text {text : String}
    (content : (value.filter fun text => text != "") = some text) :
    field.typed key value =
      match field.convert text with
      | .error cause => .error (.tooManyDigits cause)
      | .ok none => .error (.unconvertible key field.typeName)
      | .ok (some converted) => .ok (some converted) := by
  rcases converts : field.convert text with cause | _ | converted <;>
    simp only [typed, content, converts]

/-- Without a text a field is typed by its default, unless it is secret. -/
theorem Field.typed_of_blank (blank : (value.filter fun text => text != "") = none) :
    field.typed key value =
      match field.default?.filter fun _ => !field.isSensitive with
      | some default => .ok (some default)
      | none => if field.required then .error (.missing key) else .ok none := by
  rw [typed, blank]
  cases field.default? with
  | none => rfl
  | some default => cases secret : field.isSensitive <;> simp [Option.filter]

theorem Field.typed_eq_missing_iff {named : String} :
    field.typed key value = .error (.missing named) ↔ named = key ∧ field.IsUnset value := by
  rcases filter_content_eq value with ⟨blank, content⟩ | ⟨text, -, -, blank, content⟩
  · rw [typed_of_blank content, IsUnset, blank]
    cases field.default? <;> cases field.isSensitive <;> cases field.required <;>
      simp [Option.filter, eq_comm]
  · rw [typed_of_text content, IsUnset, blank]
    cases converted : field.convert text with
    | error cause => simp
    | ok result => cases result <;> simp

theorem Field.isUnconvertible_of_typed {named type : String}
    (stopped : field.typed key value = .error (.unconvertible named type)) :
    named = key ∧ type = field.typeName ∧ field.IsUnconvertible value := by
  rcases filter_content_eq value with ⟨blank, content⟩ | ⟨text, value_eq, filled, -, content⟩
  · rw [typed_of_blank content] at stopped
    split at stopped
    · contradiction
    · split at stopped <;> simp at stopped
  · rw [typed_of_text content] at stopped
    split at stopped
    · simp at stopped
    next refused =>
        simp only [Except.error.injEq, TypingFault.unconvertible.injEq] at stopped
        exact ⟨stopped.1.symm, stopped.2.symm, text, value_eq, filled, by simp [refused]⟩
    · contradiction

/-- A typed field has the value of its text or its default, or nothing where it has no content. -/
theorem Field.types_of_typed {typed : Option Value} (done : field.typed key value = .ok typed) :
    typed.isSome = field.hasContent value ∧
      ∀ result, typed = some result → field.Types value result := by
  rcases filter_content_eq value with ⟨blank, content⟩ | ⟨text, value_eq, filled, blank, content⟩
  · rw [typed_of_blank content] at done
    rw [hasContent, hasDefault, blank]
    split at done
    next default usable =>
        obtain rfl := Except.ok.inj done
        obtain ⟨default_eq, open_field⟩ := Option.filter_eq_some_iff.1 usable
        refine ⟨by simp [default_eq, open_field], ?_⟩
        intro result result_eq
        obtain rfl := Option.some.inj result_eq
        exact .byDefault blank (by simpa using open_field) default_eq
    next unusable =>
        split at done
        · contradiction
        · obtain rfl := Except.ok.inj done
          refine ⟨?_, by simp⟩
          cases default_eq : field.default? <;> simp_all [Option.filter]
  · rw [typed_of_text content] at done
    rw [hasContent, blank]
    split at done
    · contradiction
    · contradiction
    next converted converts =>
        obtain rfl := Except.ok.inj done
        refine ⟨rfl, ?_⟩
        intro result result_eq
        obtain rfl := Option.some.inj result_eq
        exact .converted text value_eq filled converts

/-- A field is typed unless it is unset or its value is not converted. -/
theorem Field.exists_typed_iff (key : String) :
    (∃ typed, field.typed key value = .ok typed) ↔ ¬field.IsUntypable value := by
  rcases filter_content_eq value with ⟨blank, content⟩ | ⟨text, rfl, filled, blank, content⟩
  · have no_text : ¬field.IsUnconvertible value := by
      rintro ⟨text, rfl, filled, -⟩
      exact filled (by simpa [isBlankValue] using blank)
    rw [IsUntypable, or_iff_left no_text, IsUnset, blank, typed_of_blank content]
    cases field.default? <;> cases field.isSensitive <;> cases field.required <;>
      simp [Option.filter]
  · have not_unset : ¬field.IsUnset (some text) := by
      rintro ⟨empty, -⟩
      simp [blank] at empty
    rw [IsUntypable, or_iff_right not_unset, IsUnconvertible, typed_of_text content]
    cases converted : field.convert text with
    | error cause => simp [filled, converted]
    | ok result => cases result <;> simp [filled, converted]

end Typed

/-! ## What a check says about untypable fields -/

section Found

variable {field : Field} {key : String}

theorem Field.firstFinding?_of_blank {value : Option String} (blank : isBlankValue value = true)
    (needed : field.required = true) : field.firstFinding? key value = some .missing := by
  simp [firstFinding?, Check.all, findingAt?, blank, needed]

/-- A text that is not allowed or is refused is found with its first breach, which is one of
these two. -/
theorem Field.firstFinding?_of_refused (key : String) {text : String} (filled : text ≠ "")
    (stopped : field.breachAt? text .choice ≠ none ∨ field.refuses text = true) :
    ∃ breach, field.firstFinding? key (some text) = some (field.breachFinding key text breach) ∧
      (breach.group = .choice ∨ breach = .badType field.typeName) := by
  have present : field.findingAt? key (some text) .presence = none := by
    simp [findingAt?, isBlankValue, filled]
  rw [firstFinding?_some present, Check.ofText, List.findSome?_cons]
  cases choice : field.breachAt? text .choice with
  | some breach =>
      refine ⟨breach, rfl, Or.inl ?_⟩
      rcases Option.map_eq_some_iff.1 choice with ⟨choices, -, rfl⟩
      rfl
  | none =>
      have refused : field.refuses text = true := by simpa [choice] using stopped
      have conversion : field.breachAt? text .conversion = some (.badType field.typeName) := by
        simp [breachAt?, refused]
      refine ⟨.badType field.typeName, ?_, Or.inr rfl⟩
      rw [List.findSome?_cons, conversion]
      rfl

theorem Field.exists_convert_of_typeBreach? {text : String} {result : Option Breach}
    (decided : field.typeBreach? text = .ok result) :
    ∃ converted, field.convert text = .ok converted := by
  cases type_eq : field.type with
  -- A number is the one type whose check does not go through the conversion.
  | number min max default =>
      simp only [typeBreach?, type_eq, bind, Except.bind] at decided
      cases read : readNumber? text with
      | error cause => simp [read] at decided
      | ok number => exact ⟨number.map numberValue, by simp only [convert, type_eq, read]; rfl⟩
  | _ => simp [convert, type_eq]

/-- An allowed text of which all checks are made is converted or refused. -/
theorem Field.exists_convert_of_breach? {text : String} {result : Option Breach}
    (allowed : field.breachAt? text .choice = none) (decided : field.breach? text = .ok result) :
    ∃ converted, field.convert text = .ok converted := by
  rw [breach?_of_allowed allowed] at decided
  cases own : field.typeBreach? text with
  | error cause => simp [own, Except.map] at decided
  | ok breach => exact exists_convert_of_typeBreach? own

/-- A checked text that is not converted is not allowed or is refused: a number with too many
digits stops the check. -/
theorem Field.stopped_of_verdict {text : String} {verdict : Verdict} (filled : text ≠ "")
    (judged : field.verdict (some text) = .ok verdict)
    (unconverted : ∀ typed, field.convert text ≠ .ok (some typed)) :
    field.breachAt? text .choice ≠ none ∨ field.refuses text = true := by
  by_cases allowed : field.breachAt? text .choice = none
  · right
    cases verdict_eq_ok_iff.1 judged with
    | missing gone => simp [isBlankValue, filled] at gone
    | checked _ decided =>
        rcases exists_convert_of_breach? allowed decided with ⟨converted, converts⟩
        cases converted with
        | none => rw [refuses, converts]
        | some typed => exact absurd converts (unconverted typed)
  · exact Or.inl allowed

end Found

/-! ## Agreement -/

/-- Whether a field is the first of a schema that cannot be typed. -/
def IsFirstUntypable (schema : Schema) (env : Variables) (key : String) (field : Field) : Prop :=
  ∃ before after, schema.toList = before ++ (key, field) :: after ∧
    field.IsUntypable (env.value? key) ∧
    ∀ other ∈ before, ¬other.2.IsUntypable (env.value? other.1)

/-- The entries of a schema that have a value or a default in its place. -/
def filledEntries (schema : Schema) (env : Variables) : List (String × Field) :=
  schema.toList.filter fun entry => entry.2.hasContent (env.value? entry.1)

/-- How typing goes where a check makes a report. -/
structure TypingAgrees (schema : Schema) (env : Variables) (report : Report) : Prop where
  missing : ∀ key, typedValues schema env = .error (.missing key) →
    key ∈ report.missing ∧
      ∃ field, IsFirstUntypable schema env key field ∧ field.IsUnset (env.value? key)
  unconvertible : ∀ key type, typedValues schema env = .error (.unconvertible key type) →
    ((∃ issue ∈ report.invalidEnum, issue.key = key) ∨
      ∃ issue ∈ report.invalidType,
        issue.key = key ∧ issue.issue = "Invalid " ++ type ++ " format") ∧
      ∃ field, IsFirstUntypable schema env key field ∧ type = field.typeName ∧
        field.IsUnconvertible (env.value? key)
  returns : report.missing = [] → report.invalidType = [] → report.invalidEnum = [] →
    ∃ values, typedValues schema env = .ok values
  typed : ∀ values, typedValues schema env = .ok values →
    values.map Prod.fst = (filledEntries schema env).map Prod.fst ∧
      ∀ key value, (key, value) ∈ values →
        ∃ field, schema.get? key = some field ∧ field.Types (env.value? key) value

section Agreement

variable {schema : Schema} {env : Variables} {report : Report}

theorem mem_missing_iff (report : Report) (key : String) :
    key ∈ report.missing ↔ .missing ∈ report.about key := by
  simp [Report.about]

theorem mem_about_breach_iff {key : String} {group : BreachClass} {issue : Issue} :
    .breach group issue ∈ report.about key ↔
      issue.key = key ∧
        ((group = .choice ∧ issue ∈ report.invalidEnum) ∨
          (group = .type ∧ issue ∈ report.invalidType) ∨
          (group = .format ∧ issue ∈ report.invalidFormat)) := by
  cases group <;> simp [Report.about, and_comm]

/-- The typing of one entry of a schema. -/
def typedEntry (env : Variables) (entry : String × Field) :
    Except TypingFault (Option (String × Value)) :=
  (entry.2.typed entry.1 (env.value? entry.1)).map (Option.map (Prod.mk entry.1))

theorem typedValues_eq (schema : Schema) (env : Variables) :
    typedValues schema env =
      (schema.toList.mapM (typedEntry env)).map fun values => values.filterMap id := by
  have step_eq : (fun entry : String × Field => do
      return (← entry.2.typed entry.1 (env.value? entry.1)).map fun value => (entry.1, value)) =
        typedEntry env := by
    funext entry
    rw [typedEntry]
    cases entry.2.typed entry.1 (env.value? entry.1) <;> rfl
  rw [← step_eq]
  rfl

theorem exists_typedEntry_iff {entry : String × Field} :
    (∃ result, typedEntry env entry = .ok result) ↔
      ¬entry.2.IsUntypable (env.value? entry.1) := by
  rw [← Field.exists_typed_iff entry.1, typedEntry]
  cases entry.2.typed entry.1 (env.value? entry.1) <;> simp [Except.map]

/-- Typing stops at the first field that is not typed. -/
theorem exists_first_of_typedValues {fault : TypingFault}
    (stopped : typedValues schema env = .error fault) :
    ∃ before key field after, schema.toList = before ++ (key, field) :: after ∧
      (∀ other ∈ before, ¬other.2.IsUntypable (env.value? other.1)) ∧
      field.typed key (env.value? key) = .error fault := by
  have traversed : schema.toList.mapM (typedEntry env) = .error fault := by
    rw [typedValues_eq] at stopped
    cases traversed : schema.toList.mapM (typedEntry env) <;> simp_all [Except.map]
  obtain ⟨before, ⟨key, field⟩, after, split, fine, here⟩ :=
    Collection.mapM_eq_error_iff.1 traversed
  refine ⟨before, key, field, after, split, ?_, ?_⟩
  · exact fun other mem => exists_typedEntry_iff.1 (fine other mem)
  · rw [typedEntry] at here
    cases typed_eq : field.typed key (env.value? key) <;> simp_all [Except.map]

theorem exists_typedValues_iff :
    (∃ values, typedValues schema env = .ok values) ↔
      ∀ entry ∈ schema.toList, ¬entry.2.IsUntypable (env.value? entry.1) := by
  simp only [← exists_typedEntry_iff]
  rw [← Collection.exists_mapM_eq_ok_iff, typedValues_eq]
  cases schema.toList.mapM (typedEntry env) <;> simp [Except.map]

/-- Of the typed entries those with content remain, each with what its field is typed as. -/
theorem typed_of_typedEntries {entries : List (String × Field)}
    {results : List (Option (String × Value))}
    (pairs : List.Forall₂ (fun entry result => typedEntry env entry = .ok result) entries results) :
    (results.filterMap id).map Prod.fst =
        (entries.filter fun entry => entry.2.hasContent (env.value? entry.1)).map Prod.fst ∧
      ∀ key value, (key, value) ∈ results.filterMap id →
        ∃ field, (key, field) ∈ entries ∧ field.Types (env.value? key) value := by
  induction pairs with
  | nil => simp
  | @cons entry result entries results here _ ih =>
      obtain ⟨own, field⟩ := entry
      rw [typedEntry] at here
      cases typed_eq : field.typed own (env.value? own) with
      | error fault => simp [typed_eq, Except.map] at here
      | ok typed =>
          obtain rfl : typed.map (Prod.mk own) = result := by
            simpa [typed_eq, Except.map] using here
          obtain ⟨content, types⟩ := Field.types_of_typed typed_eq
          cases typed with
          | none =>
              have empty : field.hasContent (env.value? own) = false := content.symm
              rw [List.filter_cons_of_neg (by simp [empty])]
              refine ⟨ih.1, ?_⟩
              intro key value mem
              obtain ⟨found, found_mem, found_types⟩ := ih.2 key value mem
              exact ⟨found, List.mem_cons_of_mem _ found_mem, found_types⟩
          | some typed =>
              have full : field.hasContent (env.value? own) = true := content.symm
              rw [List.filter_cons_of_pos (by simpa using full)]
              refine ⟨congrArg (List.cons own) ih.1, ?_⟩
              intro key value mem
              rcases List.mem_cons.1 mem with here | later
              · obtain ⟨rfl, rfl⟩ := Prod.mk.inj here
                exact ⟨field, List.mem_cons_self, types value rfl⟩
              · obtain ⟨found, found_mem, found_types⟩ := ih.2 key value later
                exact ⟨found, List.mem_cons_of_mem _ found_mem, found_types⟩

theorem typed_of_typedValues {values : List (String × Value)}
    (done : typedValues schema env = .ok values) :
    values.map Prod.fst = (filledEntries schema env).map Prod.fst ∧
      ∀ key value, (key, value) ∈ values →
        ∃ field, schema.get? key = some field ∧ field.Types (env.value? key) value := by
  rw [typedValues_eq] at done
  cases traversed : schema.toList.mapM (typedEntry env) with
  | error fault => simp [traversed, Except.map] at done
  | ok results =>
      obtain rfl : results.filterMap id = values := by simpa [traversed, Except.map] using done
      simp only [Dict.get?_eq_some_iff]
      exact typed_of_typedEntries (Collection.mapM_eq_ok_iff.1 traversed)

section Returned

variable (returned : validate schema env = .ok report) {key : String} {field : Field}
  (mem : (key, field) ∈ schema.toList)

include returned mem

theorem mem_about_of_firstFinding? {finding : Finding}
    (found : field.firstFinding? key (env.value? key) = some finding) :
    finding ∈ report.about key := by
  rw [about_validate returned, (Dict.get?_eq_some_iff schema key field).2 mem, findingsFor, found]
  simp

theorem mem_missing_of_isUnset (unset : field.IsUnset (env.value? key)) : key ∈ report.missing :=
  (mem_missing_iff report key).2 <|
    mem_about_of_firstFinding? returned mem (Field.firstFinding?_of_blank unset.1 unset.2.1)

theorem found_of_isUnconvertible (unconvertible : field.IsUnconvertible (env.value? key)) :
    (∃ issue ∈ report.invalidEnum, issue.key = key) ∨
      ∃ issue ∈ report.invalidType, issue.key = key ∧
        issue.issue = "Invalid " ++ field.typeName ++ " format" := by
  obtain ⟨text, value_eq, filled, unconverted⟩ := unconvertible
  obtain ⟨checked, decided, -⟩ := exists_verdicts_of_validate returned
  obtain ⟨c, -, c_of⟩ := filter_key_of_verdicts decided mem
  have judged := c_of.judged
  rw [value_eq] at judged
  obtain ⟨breach, found, kind⟩ :=
    Field.firstFinding?_of_refused key filled (Field.stopped_of_verdict filled judged unconverted)
  rw [← value_eq] at found
  obtain ⟨key_eq, listed⟩ := mem_about_breach_iff.1 (mem_about_of_firstFinding? returned mem found)
  rcases kind with choice | rfl
  · exact Or.inl ⟨_, by simpa [choice] using listed, key_eq⟩
  · exact Or.inr ⟨_, by simpa [Breach.group] using listed, key_eq, rfl⟩

end Returned

/-- Typing and checking agree. -/
theorem typedValues_agrees (returned : validate schema env = .ok report) :
    TypingAgrees schema env report where
  missing := by
    intro key stopped
    obtain ⟨before, own, field, after, split, fine, here⟩ := exists_first_of_typedValues stopped
    obtain ⟨rfl, unset⟩ := Field.typed_eq_missing_iff.1 here
    have mem : (key, field) ∈ schema.toList := by simp [split]
    exact ⟨mem_missing_of_isUnset returned mem unset, field,
      ⟨before, after, split, Or.inl unset, fine⟩, unset⟩
  unconvertible := by
    intro key type stopped
    obtain ⟨before, own, field, after, split, fine, here⟩ := exists_first_of_typedValues stopped
    obtain ⟨rfl, rfl, unconvertible⟩ := Field.isUnconvertible_of_typed here
    have mem : (key, field) ∈ schema.toList := by simp [split]
    exact ⟨found_of_isUnconvertible returned mem unconvertible, field,
      ⟨before, after, split, Or.inr unconvertible, fine⟩, rfl, unconvertible⟩
  returns := by
    intro no_missing no_type no_choice
    rw [exists_typedValues_iff]
    rintro ⟨key, field⟩ mem (unset | unconvertible)
    · have missing := mem_missing_of_isUnset returned mem unset
      simp [no_missing] at missing
    · have found := found_of_isUnconvertible returned mem unconvertible
      simp [no_type, no_choice] at found
  typed := fun _ done => typed_of_typedValues done

end Agreement

/-- Variables of a server that are all of their types; a secret has its own value, and a number
is written as a float. -/
def readyVariables : Variables :=
  .ofList
    [ ("HOST", some "b.io"), ("PORT", some "8e1"), ("MODE", some "dev"), ("TOKEN", some "secret"),
      ("DEBUG", none) ]

/-- One report names the missing port that typing stops at, and the other one lets all fields be
typed. -/
theorem typedValues_agrees_server :
    (∃ report, validate serverSchema serverVariables = .ok report ∧
      TypingAgrees serverSchema serverVariables report ∧
      (typedValues serverSchema serverVariables).map (List.map Prod.fst) =
        .error (.missing "PORT")) ∧
    ∃ report, validate serverSchema readyVariables = .ok report ∧
      TypingAgrees serverSchema readyVariables report ∧
      (typedValues serverSchema readyVariables).map (List.map Prod.fst) =
        .ok ["HOST", "PORT", "MODE", "TOKEN"] := by
  constructor
  · have returns : (validate serverSchema serverVariables).isOk = true := by decide +kernel
    cases returned : validate serverSchema serverVariables with
    | error cause => simp [returned, Except.isOk, Except.toBool] at returns
    | ok report => exact ⟨report, rfl, typedValues_agrees returned, by decide +kernel⟩
  · have returns : (validate serverSchema readyVariables).isOk = true := by decide +kernel
    cases returned : validate serverSchema readyVariables with
    | error cause => simp [returned, Except.isOk, Except.toBool] at returns
    | ok report => exact ⟨report, rfl, typedValues_agrees returned, by decide +kernel⟩

end EnvConcord.Schema
