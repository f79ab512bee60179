import EnvConcord.Proofs.Collection.Dict
import EnvConcord.Schema.Source

/-!
# Loading schemas

A schema is loaded from the document of one file: the file that is given, or else the first schema
file of a directory.  Loading returns a schema or refuses it, unless the document holds a value out
of the bounds of its format or a pattern beyond all bounds, or the path holds a null character: these
faults are passed on as they are.  Only a missing file and an empty document come to the schema
without fields.
-/

namespace EnvConcord.Schema

open Document

/-! ## Readings without refusals -/

/-- Whether a reading that refuses nothing has a result. -/
def Reading.IsDecided {α : Type} (reading : Reading α) : Prop :=
  reading.issues = [] → ∃ value, reading.value? = some value

section Attributes

variable {α : Type} (place : List String) (entries : List (Value × Value)) (attr : Attribute)
  (fallback : α)

theorem isDecided_readParts {convert : Value → Except (List (List String × Refusal)) α}
    (named : ∀ value refusals, convert value = .error refusals → refusals ≠ []) :
    (attr.readParts place entries fallback convert).IsDecided := by
  rw [Attribute.readParts]
  split
  · exact fun _ => ⟨fallback, rfl⟩
  next value _ =>
    split
    next result _ => exact fun _ => ⟨result, rfl⟩
    next refusals refused =>
      intro silent
      exact absurd (List.map_eq_nil_iff.1 silent) (named value refusals refused)

theorem isDecided_read (convert : Value → Except Refusal α) :
    (attr.read place entries fallback convert).IsDecided := by
  apply isDecided_readParts
  intro value refusals refused
  cases result : convert value with
  | ok found => simp [result, Except.mapError] at refused
  | error refusal =>
      obtain rfl : [([], refusal)] = refusals := by simpa [result, Except.mapError] using refused
      simp

theorem isDecided_readNumber : (attr.readNumber place entries).IsDecided := by
  apply isDecided_readParts
  intro value refusals refused
  cases result : orNull numberOf value with
  | ok found => simp [result, Except.mapError] at refused
  | error pair =>
      obtain rfl : [(["int"], pair.1), (["float"], pair.2)] = refusals := by
        simpa [result, Except.mapError] using refused
      simp

end Attributes

theorem ne_nil_of_textsOf {items : List Value} {refusals : List (List String × Refusal)}
    (refused : textsOf items = .error refusals) : refusals ≠ [] := by
  simp only [textsOf] at refused
  split at refused
  · contradiction
  next some_refusal =>
    obtain rfl := Except.error.inj refused
    simpa using some_refusal

theorem ne_nil_of_choicesOf {value : Value} {refusals : List (List String × Refusal)}
    (refused : choicesOf value = .error refusals) : refusals ≠ [] := by
  unfold choicesOf at refused
  split at refused
  next items =>
    cases chosen : items.mapM choiceText with
    | ok texts => simp [chosen, Except.mapError] at refused
    | error cause =>
        obtain rfl : [([], .badValue cause.message)] = refusals := by
          simpa [chosen, Except.mapError] using refused
        simp
  · exact ne_nil_of_textsOf refused
  · exact ne_nil_of_textsOf refused
  · obtain rfl := Except.error.inj refused
    simp

theorem ne_nil_of_orNull_choicesOf {value : Value} {refusals : List (List String × Refusal)}
    (refused : orNull choicesOf value = .error refusals) : refusals ≠ [] := by
  unfold orNull at refused
  split at refused
  · contradiction
  next =>
    cases chosen : choicesOf value with
    | ok choices => simp [chosen, Except.map] at refused
    | error own =>
        obtain rfl : own = refusals := by simpa [chosen, Except.map] using refused
        exact ne_nil_of_choicesOf chosen

theorem ne_nil_of_enumChoicesOf_error {value : Value} {refusals : List (List String × Refusal)}
    (refused : enumChoicesOf value = .error refusals) : refusals ≠ [] := by
  simp only [enumChoicesOf, bind, Except.bind] at refused
  split at refused
  next own chosen =>
    obtain rfl := Except.error.inj refused
    exact ne_nil_of_choicesOf chosen
  · split at refused
    · obtain rfl := Except.error.inj refused
      simp
    · contradiction

section Fields

variable (place : List String) (entries : List (Value × Value)) (type : TypeName)

theorem isDecided_readChoices : (readChoices place entries type).IsDecided := by
  unfold readChoices
  split
  · split
    · exact fun silent => absurd silent (List.cons_ne_nil _ _)
    · exact isDecided_readParts _ _ _ _ fun _ _ => ne_nil_of_enumChoicesOf_error
  · exact isDecided_readParts _ _ _ _ fun _ _ => ne_nil_of_orNull_choicesOf

theorem isDecided_readType : (readType place entries type).IsDecided := by
  intro silent
  have text_decided := isDecided_read place entries .default none (orNull textOf)
  cases type with
  | string =>
      simp only [readType, List.append_eq_nil_iff] at silent
      obtain ⟨⟨⟨pattern_silent, min_silent⟩, max_silent⟩, text_silent⟩ := silent
      obtain ⟨pattern, pattern_eq⟩ := isDecided_read _ _ _ _ _ pattern_silent
      obtain ⟨min, min_eq⟩ := isDecided_read _ _ _ _ _ min_silent
      obtain ⟨max, max_eq⟩ := isDecided_read _ _ _ _ _ max_silent
      obtain ⟨text, text_eq⟩ := text_decided text_silent
      exact ⟨.string pattern min max text, by simp [readType, pattern_eq, min_eq, max_eq, text_eq]⟩
  | number =>
      simp only [readType, List.append_eq_nil_iff] at silent
      obtain ⟨⟨min_silent, max_silent⟩, default_silent⟩ := silent
      obtain ⟨min, min_eq⟩ := isDecided_readNumber _ _ _ min_silent
      obtain ⟨max, max_eq⟩ := isDecided_readNumber _ _ _ max_silent
      obtain ⟨default, default_eq⟩ := isDecided_readNumber _ _ _ default_silent
      exact ⟨.number min max default, by simp [readType, min_eq, max_eq, default_eq]⟩
  | boolean =>
      obtain ⟨default, default_eq⟩ :=
        isDecided_read place entries .default none (orNull flagOf) silent
      exact ⟨.boolean default, by simp [readType, default_eq]⟩
  | url =>
      obtain ⟨text, text_eq⟩ := text_decided silent
      exact ⟨.url text, by simp [readType, text_eq]⟩
  | email =>
      obtain ⟨text, text_eq⟩ := text_decided silent
      exact ⟨.email text, by simp [readType, text_eq]⟩
  | enum =>
      obtain ⟨text, text_eq⟩ := text_decided silent
      exact ⟨.enum text, by simp [readType, text_eq]⟩
  | json => exact ⟨_, rfl⟩

theorem isDecided_readTyped (key : String) : (readTyped key entries type).IsDecided := by
  intro silent
  simp only [readTyped, List.append_eq_nil_iff] at silent
  obtain ⟨⟨⟨⟨⟨required_silent, description_silent⟩, sensitive_silent⟩, choices_silent⟩,
    own_silent⟩, -⟩ := silent
  obtain ⟨required, required_eq⟩ := isDecided_read _ _ _ _ _ required_silent
  obtain ⟨description, description_eq⟩ := isDecided_read _ _ _ _ _ description_silent
  obtain ⟨sensitive, sensitive_eq⟩ := isDecided_read _ _ _ _ _ sensitive_silent
  obtain ⟨choices, choices_eq⟩ := isDecided_readChoices _ _ _ choices_silent
  obtain ⟨own, own_eq⟩ := isDecided_readType _ _ _ own_silent
  simp only [readTyped, required_eq, description_eq, sensitive_eq, bind, Option.bind_some]
  split
  · exact ⟨_, rfl⟩
  next unread => exact absurd own_eq (unread choices own choices_eq)

theorem isDecided_readField (key : String) (value : Value) : (readField key value).IsDecided := by
  have refused (refusal : Refusal) : (Reading.refuse [key] refusal : Reading Field).IsDecided :=
    fun silent => absurd silent (List.cons_ne_nil _ _)
  unfold readField
  split
  · split
    · exact refused _
    · split
      · exact isDecided_readTyped _ _ _
      · exact refused _
    · exact refused _
  · exact refused _

end Fields

/-- An entry without refusals gives a field. -/
theorem isDecided_readEntry (entry : Value × Value) : (readEntry entry).IsDecided := by
  intro silent
  unfold readEntry at silent ⊢
  split at silent
  next key key_read =>
    obtain ⟨field, field_eq⟩ := isDecided_readField key entry.2 silent
    exact ⟨(key, field), by simp [field_eq]⟩
  next => exact absurd silent (List.cons_ne_nil _ _)

/-! ## Documents -/

/-- A document comes to the schema without fields only if there is nothing in it. -/
theorem ofDocument_eq_empty_iff {source : String} {document : Value} :
    ofDocument source document = .ok .empty ↔ document = .null ∨ document = .map [] := by
  constructor
  · intro empty_read
    unfold ofDocument at empty_read
    split at empty_read
    · exact Or.inl rfl
    next entries =>
      right
      cases entries with
      | nil => rfl
      | cons entry rest =>
          exfalso
          split at empty_read
          · contradiction
          simp only at empty_read
          split at empty_read
          next silent =>
            have silent_entry : (readEntry entry).issues = [] := by
              simp only [List.map_cons, List.flatMap_cons, List.isEmpty_iff,
                List.append_eq_nil_iff] at silent
              exact silent.1
            obtain ⟨⟨key, field⟩, read⟩ := isDecided_readEntry entry silent_entry
            have key_inserted : key ∈ (Dict.empty : Schema).keys := by
              rw [← Except.ok.inj empty_read, Dict.mem_keys_ofList]
              simp [read]
            simp at key_inserted
          · contradiction
    · contradiction
  · rintro (rfl | rfl)
    · rfl
    · exact congrArg Except.ok (Dict.ext _ _ rfl)

/-- Whether a document holds a text field with a pattern of which a repetition is beyond all
bounds. -/
def HasEndlessPattern (entries : List (Value × Value)) : Prop :=
  ∃ entry ∈ entries, ∃ source,
    entry.2.get? Attribute.type.name = some (.text TypeName.string.spelling) ∧
    (entry.2.get? Attribute.pattern.name).map textOf = some (.ok source) ∧
    Pattern.Regex.parse source.toList = .error .repetitionTooLarge

theorem hasEndlessPattern_iff {value : Value} :
    hasEndlessPattern value = true ↔
      ∃ source, textOf value = .ok source ∧
        Pattern.Regex.parse source.toList = .error .repetitionTooLarge := by
  unfold hasEndlessPattern
  split
  next source text_read =>
    rw [text_read]
    split
    next parsed => simp [parsed]
    next other =>
      simp only [Bool.false_eq_true, Except.ok.injEq, exists_eq_left', false_iff]
      exact other
  next refusal refused => simp [refused]

theorem isEndless_iff {entries : List (Value × Value)} :
    isEndless entries = true ↔ HasEndlessPattern entries := by
  rw [isEndless, List.any_eq_true]
  refine exists_congr fun entry => and_congr_right fun _ => ?_
  split
  next spelling pattern type_eq pattern_eq =>
    simp only [Bool.and_eq_true, beq_iff_eq, hasEndlessPattern_iff, type_eq, pattern_eq,
      Option.map_some, Option.some.injEq, Value.text.injEq]
    exact (exists_and_left).symm
  next unread =>
    simp only [Bool.false_eq_true, false_iff, not_exists, not_and]
    intro source type_eq pattern_eq
    obtain ⟨pattern, found, -⟩ := Option.map_eq_some_iff.1 pattern_eq
    exact absurd found (unread _ _ type_eq)

/-- What a document is refused or passed on by. -/
theorem ofDocument_eq_repetitionTooLarge_iff {source : String} {document : Value} :
    ofDocument source document = .error .repetitionTooLarge ↔
      ∃ entries, document = .map entries ∧ HasEndlessPattern entries := by
  unfold ofDocument
  split
  · simp
  next entries =>
    simp only [← isEndless_iff, Value.map.injEq, exists_eq_left']
    split
    next endless => simp [endless]
    next bounded =>
      simp only [bounded]
      split <;> simp
  next no_map => simpa using fun entries eq => absurd eq (no_map entries)

/-! ## Files -/

section Files

variable (t : Tree)

/-- The document of a schema file: in YAML by its suffix, and else in JSON. -/
def documentIn (p : Path) : Except SourceFault Value :=
  (contentOf t p).bind (if yamlSuffixes.contains p.suffix then yamlOf else jsonOf)

/-- The file that a schema is loaded from: the given one, or else the first schema file of a
directory. -/
def schemaFile? (given : Option Path) (directory : Path) : Option Path :=
  given.or
    ((fileNames.map fun name => directory.append (Path.parse name)).find? (isThere t))

theorem readFile_of_null {p : Path} (null : p.holdsNull = true) :
    readFile t p = .error .nullCharacter := by
  rw [readFile, if_pos null]
  rfl

theorem readFile_eq {p : Path} (path : p.holdsNull = false) :
    readFile t p =
      match documentIn t p with
      | .ok document => (ofDocument p.render document).mapError .reading
      | .error cause => .error (.source p.render cause) := by
  rw [readFile, documentIn, path]
  simp only [Bool.false_eq_true, if_false, bind, Except.bind]
  split <;> split <;> simp_all [Except.mapError]

theorem load_eq (given : Option Path) (directory : Path) :
    load t given directory =
      match schemaFile? t given directory with
      | some p => readFile t p
      | none => .ok .empty := by
  cases given with
  | some p => rfl
  | none => rfl

/-- Whether a file stops loading: a null character stands in its path, a value in it is out of the
bounds of its format, or a pattern is beyond all bounds. -/
inductive StopsLoading (p : Path) : Prop
  | path (null : p.holdsNull = true)
  | value (cause : SourceFault) (unread : documentIn t p = .error cause)
      (concerns : cause.concernsValue = true)
  | pattern (entries : List (Value × Value)) (document : documentIn t p = .ok (.map entries))
      (endless : HasEndlessPattern entries)

theorem isRefusal_reading_iff {cause : ReadingFault} :
    (LoadFault.reading cause).isRefusal = true ↔ cause ≠ .repetitionTooLarge := by
  cases cause <;> simp [LoadFault.isRefusal]

/-- A file without a document stops loading if the fault concerns a value. -/
theorem stopsLoading_iff_concernsValue {p : Path} (path : p.holdsNull = false)
    {cause : SourceFault} (found : documentIn t p = .error cause) :
    StopsLoading t p ↔ cause.concernsValue = true := by
  constructor
  · rintro (null | ⟨other, unread, concerns⟩ | ⟨entries, document, -⟩)
    · simp [path] at null
    · rwa [Except.error.inj (found.symm.trans unread)]
    · cases found.symm.trans document
  · exact .value cause found

/-- A file with a document stops loading if the document has a pattern beyond all bounds. -/
theorem stopsLoading_iff_repetitionTooLarge {p : Path} (path : p.holdsNull = false)
    {document : Value} (found : documentIn t p = .ok document) :
    StopsLoading t p ↔ ofDocument p.render document = .error .repetitionTooLarge := by
  rw [ofDocument_eq_repetitionTooLarge_iff]
  constructor
  · rintro (null | ⟨cause, unread, -⟩ | ⟨entries, is_map, endless⟩)
    · simp [path] at null
    · cases found.symm.trans unread
    · exact ⟨entries, Except.ok.inj (found.symm.trans is_map), endless⟩
  · rintro ⟨entries, rfl, endless⟩
    exact .pattern entries found endless

/-- A file is read as a schema, or refused, or it stops loading. -/
theorem readFile_cases (p : Path) :
    (¬StopsLoading t p ∧ ((∃ schema, readFile t p = .ok schema) ∨
        ∃ fault, readFile t p = .error fault ∧ fault.isRefusal = true)) ∨
      (StopsLoading t p ∧ ∃ fault, readFile t p = .error fault ∧ fault.isRefusal = false) := by
  cases path : p.holdsNull with
  | true => exact Or.inr ⟨.path path, _, readFile_of_null t path, rfl⟩
  | false =>
      rw [readFile_eq t path]
      cases found : documentIn t p with
      | error cause =>
          rw [stopsLoading_iff_concernsValue t path found]
          by_cases concerns : cause.concernsValue = true
          · exact Or.inr ⟨concerns, _, rfl, by simp [LoadFault.isRefusal, concerns]⟩
          · refine Or.inl ⟨concerns, Or.inr ⟨_, rfl, ?_⟩⟩
            simpa [LoadFault.isRefusal] using concerns
      | ok document =>
          rw [stopsLoading_iff_repetitionTooLarge t path found]
          dsimp only
          cases ofDocument p.render document with
          | ok schema => exact Or.inl ⟨by simp, Or.inl ⟨schema, rfl⟩⟩
          | error cause =>
              by_cases endless : cause = .repetitionTooLarge
              · subst endless
                exact Or.inr ⟨rfl, _, rfl, rfl⟩
              · refine Or.inl ⟨by simpa using endless, Or.inr ⟨_, rfl, ?_⟩⟩
                exact isRefusal_reading_iff.2 endless

theorem readFile_eq_empty_iff (p : Path) :
    readFile t p = .ok .empty ↔
      p.holdsNull = false ∧ (documentIn t p = .ok .null ∨ documentIn t p = .ok (.map [])) := by
  cases path : p.holdsNull with
  | true => simp [readFile_of_null t path]
  | false =>
      rw [readFile_eq t path]
      cases documentIn t p with
      | error cause => simp
      | ok document =>
          have passed : (ofDocument p.render document).mapError LoadFault.reading = .ok .empty ↔
              ofDocument p.render document = .ok .empty := by
            cases ofDocument p.render document <;> simp [Except.mapError]
          simp only [passed, ofDocument_eq_empty_iff, Except.ok.injEq, true_and]

end Files

/-! ## Loading -/

/-- What loading comes to, by the file that the schema is loaded from. -/
structure EndsByDocument (t : Tree) (given : Option Path) (directory : Path) : Prop where
  /-- Loading returns a schema or refuses the file, if the file does not stop it. -/
  ends_iff : ((∃ schema, load t given directory = .ok schema) ∨
      ∃ fault, load t given directory = .error fault ∧ fault.isRefusal = true) ↔
    ∀ p ∈ schemaFile? t given directory, ¬StopsLoading t p
  /-- The schema is empty only without a file or if there is nothing in the document. -/
  empty_iff : load t given directory = .ok .empty ↔
    ∀ p ∈ schemaFile? t given directory,
      p.holdsNull = false ∧ (documentIn t p = .ok .null ∨ documentIn t p = .ok (.map []))

/-- A directory with one schema file, in which a default is a day of a thirteenth month. -/
def thirteenthMonth : Tree where
  nodes := .ofList
    [([".envschema.yaml"],
      .file (Text.Utf8.encode "A: \x7btype: json, default: 2024-13-01\x7d\n"))]

end EnvConcord.Schema
