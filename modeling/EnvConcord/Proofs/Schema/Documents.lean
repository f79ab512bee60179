import EnvConcord.Proofs.Collection.Dict
import EnvConcord.Schema.Printer
import Mathlib.Data.List.Basic

/-!
# Schemas and their documents

A schema is written with one name for each attribute, without the attributes that have no
value, and with values of the kind that the attribute has.  Reading such a document takes every
value over as it stands, so that a schema that was read from any document is read again from its
own.  The one thing that fields can hold and documents cannot is a negative bound on a length,
and no document gives rise to one.
-/

namespace EnvConcord.Schema

open Document

/-! ## Members of a written field -/

/-- The members of a written field. -/
def Field.members (field : Field) : List (Value × Value) :=
  (Attribute.written.filterMap fun attr =>
    (field.attribute? attr.name).map fun value => (attr.name, value)).map fun member =>
      (.text member.1, member.2)

theorem Field.toValue_eq (field : Field) : field.toValue = .map field.members := rfl

theorem lookupText_cons (name key : String) (value : Value) (rest : List (Value × Value)) :
    Value.lookupText ((.text name, value) :: rest) key =
      if name = key then some value else Value.lookupText rest key := by
  by_cases here : name = key <;> simp [Value.lookupText, here]

/-- A written field has the attributes that the field has, under their names. -/
theorem Field.lookupText_members (field : Field) (name : String) :
    Value.lookupText field.members name = field.attribute? name := by
  have listed (attrs : List Attribute) (distinct : (attrs.map Attribute.name).Nodup) :
      Value.lookupText ((attrs.filterMap fun attr =>
        (field.attribute? attr.name).map fun value => (attr.name, value)).map fun member =>
          (.text member.1, member.2)) name =
        if name ∈ attrs.map Attribute.name then field.attribute? name else none := by
    induction attrs with
    | nil => rfl
    | cons attr rest ih =>
        rw [List.map_cons, List.nodup_cons] at distinct
        rw [List.filterMap_cons]
        cases found : field.attribute? attr.name with
        | none =>
            simp only [Option.map_none, ih distinct.2, List.map_cons, List.mem_cons]
            by_cases here : name = attr.name
            · subst here
              simp [distinct.1, found]
            · simp [here]
        | some value =>
            simp only [Option.map_some, List.map_cons, lookupText_cons, ih distinct.2,
              List.mem_cons]
            by_cases here : name = attr.name
            · subst here
              simp [found]
            · simp [here, Ne.symm here]
  have written_eq := listed Attribute.written (by decide)
  rw [members, written_eq]
  split
  · rfl
  next unknown =>
    simp only [Attribute.written, List.map_cons, List.map_nil, List.mem_cons, List.not_mem_nil,
      or_false, not_or] at unknown
    simp [attribute?, unknown]

/-- An attribute is found under its name, which comes before any other spelling. -/
theorem Field.find?_members (field : Field) {attr : Attribute} (known : attr ∈ Attribute.written) :
    attr.find? field.members =
      (field.attribute? attr.name).map fun value => (attr.name, value) := by
  have unspelled : ∀ other ∈ attr.alternative, field.attribute? other = none := by
    simp only [Attribute.written, List.mem_cons, List.not_mem_nil, or_false] at known
    rcases known with rfl | rfl | rfl | rfl | rfl | rfl | rfl | rfl | rfl <;>
      simp [Attribute.type, Attribute.required, Attribute.description, Attribute.isSensitive,
        Attribute.allowedValues, Attribute.default, Attribute.pattern, Attribute.min,
        Attribute.max, attribute?]
  rw [Attribute.find?, lookupText_members]
  cases field.attribute? attr.name with
  | some value => rfl
  | none =>
      cases spelled : attr.alternative with
      | none => rfl
      | some other => simp [lookupText_members, unspelled other (by simp [spelled])]

/-! ## Values that are taken over -/

theorem orNull_eq {ε α : Type} {convert : Value → Except ε α} {value : Value} {result : α}
    (converts : convert value = .ok result) (given : value ≠ .null) :
    orNull convert value = .ok (some result) := by
  cases value <;> simp_all [orNull, Except.map]

theorem boundOf_int {n : Int} (bound : 0 ≤ n) : boundOf (.int n) = .ok n := by
  have kept : ¬n < 0 := by omega
  simp [boundOf, integerOf, bind, Except.bind, pure, Except.pure, kept]

theorem patternOf_source (pattern : Pattern) : patternOf (.text pattern.source) = .ok pattern := by
  obtain ⟨source, regex, parsed⟩ := pattern
  simp only [patternOf, textOf, bind, Except.bind]
  split
  next found parses =>
    obtain rfl : found = regex := Except.ok.inj (parses.symm.trans parsed)
    rfl
  next fault fails => simp [parsed] at fails

theorem mapM_choiceText (choices : List String) :
    (choices.map Value.text).mapM choiceText = .ok choices := by
  induction choices with
  | nil => rfl
  | cons choice rest ih =>
      rw [List.map_cons, List.mapM_cons, ih]
      rfl

theorem choicesOf_texts (choices : List String) :
    choicesOf (.list (choices.map .text)) = .ok choices := by
  rw [choicesOf, mapM_choiceText]
  rfl

theorem numberOf_numberValue (number : Number) : numberOf (numberValue number) = .ok number := by
  cases number <;> rfl

theorem numberValue_ne_null (number : Number) : numberValue number ≠ .null := by
  cases number <;> simp [numberValue]

/-! ## Readings of attributes -/

section Readings

variable {α : Type} {entries : List (Value × Value)} {attr : Attribute}
  {convert : Value → Except (List (List String × Refusal)) α}

theorem readParts_of_absent (place : List String) (fallback : α)
    (absent : attr.find? entries = none) :
    attr.readParts place entries fallback convert = .ok fallback := by
  rw [Attribute.readParts, absent]

theorem readParts_of_given (place : List String) (fallback : α) {spelling : String}
    {value : Value} {result : α} (given : attr.find? entries = some (spelling, value))
    (converts : convert value = .ok result) :
    attr.readParts place entries fallback convert = .ok result := by
  simp only [Attribute.readParts, given, converts]

/-- An attribute that may have no value is read as it was written. -/
theorem readParts_stored {β : Type} (place : List String)
    {convert : Value → Except (List (List String × Refusal)) (Option β)} (encode : β → Value)
    {stored : Option β}
    (found : attr.find? entries = (stored.map encode).map fun value => (attr.name, value))
    (converts : ∀ content ∈ stored, convert (encode content) = .ok (some content)) :
    attr.readParts place entries none convert = .ok stored := by
  cases stored with
  | none => exact readParts_of_absent place none found
  | some content => exact readParts_of_given place none found (converts content rfl)

theorem read_stored {β : Type} (place : List String) {convert : Value → Except Refusal β}
    (encode : β → Value) {stored : Option β}
    (found : attr.find? entries = (stored.map encode).map fun value => (attr.name, value))
    (converts : ∀ content ∈ stored,
      convert (encode content) = .ok content ∧ encode content ≠ .null) :
    attr.read place entries none (orNull convert) = .ok stored := by
  refine readParts_stored place encode found fun content mem => ?_
  rw [orNull_eq (converts content mem).1 (converts content mem).2]
  rfl

theorem readNumber_stored (place : List String) {stored : Option Number}
    (found : attr.find? entries = (stored.map numberValue).map fun value => (attr.name, value)) :
    attr.readNumber place entries = .ok stored := by
  refine readParts_stored place numberValue found fun number _ => ?_
  rw [orNull_eq (numberOf_numberValue number) (numberValue_ne_null number)]
  rfl

end Readings

/-! ## Fields -/

/-- Whether no bound on the length of a text is negative. -/
def FieldType.BoundsLengths : FieldType → Prop
  | .string _ min max _ => (∀ low ∈ min, 0 ≤ low) ∧ ∀ high ∈ max, 0 ≤ high
  | _ => True

section Fields

variable {field : Field}

/-- An attribute that is a text is read as the field has it. -/
theorem Field.read_text (field : Field) (attr : Attribute) (known : attr ∈ Attribute.written)
    {stored : Option String} (attribute_eq : field.attribute? attr.name = stored.map .text)
    (place : List String) :
    attr.read place field.members none (orNull textOf) = .ok stored := by
  refine read_stored place Value.text ?_ fun content _ => ⟨rfl, by simp⟩
  rw [field.find?_members known, attribute_eq]

theorem Field.read_bound (field : Field) (attr : Attribute) (known : attr ∈ Attribute.written)
    {stored : Option Int} (attribute_eq : field.attribute? attr.name = stored.map .int)
    (bounded : ∀ bound ∈ stored, 0 ≤ bound) (place : List String) :
    attr.read place field.members none (orNull boundOf) = .ok stored := by
  refine read_stored place Value.int ?_ fun bound mem => ⟨boundOf_int (bounded bound mem), by simp⟩
  rw [field.find?_members known, attribute_eq]

theorem Field.read_number (field : Field) (attr : Attribute) (known : attr ∈ Attribute.written)
    {stored : Option Number} (attribute_eq : field.attribute? attr.name = stored.map numberValue)
    (place : List String) : attr.readNumber place field.members = .ok stored :=
  readNumber_stored place (by rw [field.find?_members known, attribute_eq])

/-- The attributes that belong to the type of a field are read as the field has them. -/
theorem Field.readType_members (lengths : field.type.BoundsLengths) (place : List String) :
    readType place field.members field.type.name = .ok field.type := by
  have default_eq : field.attribute? Attribute.default.name = field.type.default? := rfl
  have min_eq : field.attribute? Attribute.min.name = field.min?.map numberValue := rfl
  have max_eq : field.attribute? Attribute.max.name = field.max?.map numberValue := rfl
  cases type_eq : field.type with
  | string pattern min max default =>
      rw [type_eq] at default_eq lengths
      rw [min?, type_eq] at min_eq
      rw [max?, type_eq] at max_eq
      have pattern_eq : field.attribute? Attribute.pattern.name =
          pattern.map fun pattern => .text pattern.source := by
        change field.pattern?.map _ = _
        rw [pattern?, type_eq]
      have pattern_read : Attribute.pattern.read place field.members none (orNull patternOf) =
          .ok pattern := by
        refine read_stored place (fun pattern => .text pattern.source) ?_
          fun pattern _ => ⟨patternOf_source pattern, by simp⟩
        rw [field.find?_members (by decide), pattern_eq]
      have low_eq : field.attribute? Attribute.min.name = min.map .int := by
        rw [min_eq, Option.map_map]
        rfl
      have high_eq : field.attribute? Attribute.max.name = max.map .int := by
        rw [max_eq, Option.map_map]
        rfl
      have min_read := field.read_bound .min (by decide) low_eq lengths.1 place
      have max_read := field.read_bound .max (by decide) high_eq lengths.2 place
      have text_read := field.read_text .default (by decide) default_eq place
      simp only [FieldType.name, readType, pattern_read, min_read, max_read, text_read]
      rfl
  | number min max default =>
      rw [type_eq] at default_eq
      rw [min?, type_eq] at min_eq
      rw [max?, type_eq] at max_eq
      have min_read := field.read_number .min (by decide) min_eq place
      have max_read := field.read_number .max (by decide) max_eq place
      have default_read := field.read_number .default (by decide) default_eq place
      simp only [FieldType.name, readType, min_read, max_read, default_read]
      rfl
  | boolean default =>
      rw [type_eq] at default_eq
      have default_read : Attribute.default.read place field.members none (orNull flagOf) =
          .ok default := by
        refine read_stored place Value.bool ?_ fun flag _ => ⟨rfl, by simp⟩
        rw [field.find?_members (by decide), default_eq]
        rfl
      simp only [FieldType.name, readType, default_read]
      rfl
  | json default =>
      rw [type_eq] at default_eq
      rw [FieldType.name, readType, lookupText_members, default_eq]
      cases default <;> rfl
  | _ =>
      rw [type_eq] at default_eq
      have text_read := field.read_text .default (by decide) default_eq place
      simp only [FieldType.name, readType, text_read]
      rfl

theorem Field.readChoices_members (field : Field) (place : List String) :
    readChoices place field.members field.type.name = .ok field.allowedValues := by
  have found : Attribute.allowedValues.find? field.members =
      (field.allowedValues.map fun choices => Value.list (choices.map .text)).map
        fun value => (Attribute.allowedValues.name, value) :=
    field.find?_members (by decide)
  by_cases enum_type : field.type.name = .enum
  · have nonempty := field.allows_of_enum enum_type
    cases choices_eq : field.allowedValues with
    | none => simp [choices_eq] at nonempty
    | some choices =>
        rw [choices_eq] at found nonempty
        rw [enum_type, readChoices, found]
        refine readParts_of_given place none found ?_
        have kept : choices.isEmpty = false := by simpa using nonempty
        simp [enumChoicesOf, choicesOf_texts, bind, Except.bind, kept, pure, Except.pure]
  · have other_type : readChoices place field.members field.type.name =
        Attribute.allowedValues.readParts place field.members none (orNull choicesOf) := by
      cases type_eq : field.type <;> simp_all [readChoices, FieldType.name]
    rw [other_type]
    refine readParts_stored place _ found fun choices _ => ?_
    exact orNull_eq (choicesOf_texts choices) (by simp)

/-- The type of a field knows the attributes that the field has. -/
theorem Field.mem_attributesOf {attr : Attribute} (known : attr ∈ Attribute.written) {value : Value}
    (given : field.attribute? attr.name = some value) : attr ∈ attributesOf field.type.name := by
  simp only [Attribute.written, List.mem_cons, List.not_mem_nil, or_false] at known
  rcases known with rfl | rfl | rfl | rfl | rfl | rfl | rfl | rfl | rfl
  case inr.inr.inr.inr.inr.inr.inl =>
    change field.pattern?.map _ = _ at given
    cases type_eq : field.type <;> simp_all [pattern?, attributesOf, FieldType.name]
  case inr.inr.inr.inr.inr.inr.inr.inl =>
    change field.min?.map _ = _ at given
    cases type_eq : field.type <;> simp_all [min?, attributesOf, FieldType.name]
  case inr.inr.inr.inr.inr.inr.inr.inr =>
    change field.max?.map _ = _ at given
    cases type_eq : field.type <;> simp_all [max?, attributesOf, FieldType.name]
  all_goals simp [attributesOf]

/-- A written field has no attribute that its type does not know. -/
theorem Field.strangeAttributes_members (field : Field) (place : List String) :
    strangeAttributes place field.members field.type.name = [] := by
  simp only [strangeAttributes, List.filterMap_eq_nil_iff]
  intro entry mem
  simp only [members, List.mem_map, List.mem_filterMap, Option.map_eq_some_iff] at mem
  obtain ⟨_, ⟨attr, known, value, given, rfl⟩, rfl⟩ := mem
  have named : attr.name ∈ (attributesOf field.type.name).filterMap fun attr =>
      (attr.find? field.members).map Prod.fst := by
    refine List.mem_filterMap.2 ⟨attr, mem_attributesOf known given, ?_⟩
    rw [field.find?_members known, given]
    rfl
  simp [named]

/-- A field is read as it was written. -/
theorem Field.readTyped_members (lengths : field.type.BoundsLengths) (key : String) :
    readTyped key field.members field.type.name = .ok field := by
  have flag_read (attr : Attribute) (known : attr ∈ Attribute.written) (fallback flag : Bool)
      (attribute_eq : field.attribute? attr.name = some (.bool flag)) (place : List String) :
      attr.read place field.members fallback flagOf = .ok flag := by
    have found : attr.find? field.members = some (attr.name, .bool flag) := by
      rw [field.find?_members known, attribute_eq]
      rfl
    exact readParts_of_given place fallback found rfl
  have required_read := flag_read .required (by decide) true field.required rfl
  have sensitive_read := flag_read .isSensitive (by decide) false field.isSensitive rfl
  have description_eq :
    field.attribute? Attribute.description.name = field.description.map .text := rfl
  have description_read := field.read_text .description (by decide) description_eq
  have choices_read := field.readChoices_members [key, field.type.name.spelling]
  have own_read := readType_members lengths [key, field.type.name.spelling]
  simp only [readTyped, required_read, sensitive_read, description_read,
    field.strangeAttributes_members]
  rw [Reading.ok, Reading.mk.injEq]
  constructor
  -- The result carries a proof about what was read, so the readings are not rewritten in it.
  · simp only [Reading.ok, Option.bind_eq_bind, Option.bind_some]
    split
    next allowed own choices_eq own_eq =>
      rw [choices_read] at choices_eq
      rw [own_read] at own_eq
      obtain rfl := Option.some.inj choices_eq
      obtain rfl := Option.some.inj own_eq
      rfl
    next absent =>
      have own_given := congrArg Reading.value? own_read
      exact absurd own_given (absent _ _ (congrArg Reading.value? choices_read))
  · rw [choices_read, own_read]
    rfl

/-- A field is read as it was written. -/
theorem Field.readField_toValue (lengths : field.type.BoundsLengths) (key : String) :
    readField key field.toValue = .ok field := by
  have type_eq : Value.lookupText field.members Attribute.type.name =
      some (.text field.typeName) := by
    rw [lookupText_members]
    rfl
  have spelled : TypeName.ofSpelling? field.typeName = some field.type.name := by
    rw [typeName]
    cases field.type.name <;> decide
  rw [toValue_eq, readField, type_eq]
  simp only [spelled, readTyped_members lengths]

end Fields

/-! ## What documents give rise to -/

/-- What a reading comes to is the fallback or a converted value. -/
theorem readParts_cases {α : Type} {place : List String} {entries : List (Value × Value)}
    {attr : Attribute} {fallback result : α}
    {convert : Value → Except (List (List String × Refusal)) α}
    (read : (attr.readParts place entries fallback convert).value? = some result) :
    result = fallback ∨ ∃ value, convert value = .ok result := by
  rw [Attribute.readParts] at read
  split at read
  · exact Or.inl (Option.some.inj read).symm
  next spelling value _ =>
    split at read
    next converted converts =>
      obtain rfl := Option.some.inj read
      exact Or.inr ⟨value, converts⟩
    · contradiction

theorem nonneg_of_boundOf {value : Value} {bound : Int} (converts : boundOf value = .ok bound) :
    0 ≤ bound := by
  simp only [boundOf, bind, Except.bind] at converts
  split at converts
  · contradiction
  · split at converts
    · contradiction
    next kept =>
      obtain rfl := Except.ok.inj converts
      omega

theorem convert_of_orNull {ε α : Type} {convert : Value → Except ε α} {value : Value} {result : α}
    (converts : orNull convert value = .ok (some result)) : convert value = .ok result := by
  by_cases absent : value = .null
  · simp [orNull, absent] at converts
  · have whole : orNull convert value = (convert value).map some := by
      cases value <;> simp_all [orNull]
    rw [whole] at converts
    cases found : convert value <;> simp_all [Except.map]

/-- A bound that is read is not negative. -/
theorem nonneg_of_readBound {place : List String} {entries : List (Value × Value)}
    {attr : Attribute} {stored : Option Int}
    (read : (attr.read place entries none (orNull boundOf)).value? = some stored) :
    ∀ bound ∈ stored, 0 ≤ bound := by
  intro bound mem
  obtain rfl : stored = some bound := mem
  rcases readParts_cases read with given | ⟨value, converts⟩
  · contradiction
  · have bound_read : orNull boundOf value = .ok (some bound) := by
      cases result : orNull boundOf value with
      | error refusal => simp [result, Except.mapError] at converts
      | ok found => simpa [result, Except.mapError] using converts
    exact nonneg_of_boundOf (convert_of_orNull bound_read)

theorem boundsLengths_of_readType {place : List String} {entries : List (Value × Value)}
    {type : TypeName} {own : FieldType} (read : (readType place entries type).value? = some own) :
    own.BoundsLengths := by
  cases type with
  | string =>
      simp only [readType, bind, Option.bind_eq_some_iff, pure, Option.some.injEq] at read
      obtain ⟨pattern, -, min, min_read, max, max_read, default, -, rfl⟩ := read
      exact ⟨nonneg_of_readBound min_read, nonneg_of_readBound max_read⟩
  | _ =>
      have name_eq := name_of_readType read
      cases own <;> trivial

theorem boundsLengths_of_readTyped {key : String} {entries : List (Value × Value)}
    {type : TypeName} {field : Field} (read : (readTyped key entries type).value? = some field) :
    field.type.BoundsLengths := by
  simp only [readTyped, bind, Option.bind_eq_some_iff] at read
  obtain ⟨required, -, description, -, isSensitive, -, read⟩ := read
  split at read
  next allowed own choices_read own_read =>
    obtain rfl := Option.some.inj read
    exact boundsLengths_of_readType own_read
  next => contradiction

theorem boundsLengths_of_readField {key : String} {value : Value} {field : Field}
    (read : (readField key value).value? = some field) : field.type.BoundsLengths := by
  unfold readField at read
  split at read
  next entries =>
    split at read
    next => contradiction
    next spelling _ =>
      split at read
      next type _ => exact boundsLengths_of_readTyped read
      next => contradiction
    next => contradiction
  next => contradiction

/-- No document gives rise to a negative bound on a length. -/
theorem boundsLengths_of_readEntry {entry : Value × Value} {key : String} {field : Field}
    (read : (readEntry entry).value? = some (key, field)) : field.type.BoundsLengths := by
  rw [readEntry] at read
  split at read
  next name _ =>
    obtain ⟨found, field_read, pair_eq⟩ := Option.map_eq_some_iff.1 read
    obtain ⟨rfl, rfl⟩ := Prod.mk.inj pair_eq
    exact boundsLengths_of_readField field_read
  next => contradiction

/-! ## Schemas -/

section Schemas

variable {schema : Schema} {source : String}

theorem boundsLengths_of_ofDocument {document : Value}
    (accepted : ofDocument source document = .ok schema) :
    ∀ entry ∈ schema.toList, entry.2.type.BoundsLengths := by
  rintro ⟨key, field⟩ mem
  unfold ofDocument at accepted
  split at accepted
  next =>
    obtain rfl := Except.ok.inj accepted
    contradiction
  next entries =>
    split at accepted
    next => contradiction
    next =>
      simp only at accepted
      split at accepted
      next =>
        obtain rfl := Except.ok.inj accepted
        have inserted := Dict.mem_of_mem_toList_ofList mem
        simp only [List.mem_filterMap, List.mem_map] at inserted
        obtain ⟨_, ⟨entry, -, rfl⟩, read⟩ := inserted
        exact boundsLengths_of_readEntry read
      next => contradiction
  next => contradiction

theorem readEntry_toValue {key : String} {field : Field} (lengths : field.type.BoundsLengths) :
    readEntry (.text key, field.toValue) = .ok (key, field) := by
  simp only [readEntry, textOf, Field.readField_toValue lengths]
  rfl

/-- The pattern of a written field was read before, so its repetitions are within bounds. -/
theorem isEndless_toValue (entries : List (String × Field)) :
    isEndless (entries.map fun entry => (.text entry.1, entry.2.toValue)) = false := by
  rw [isEndless, List.any_eq_false]
  intro entry mem
  obtain ⟨⟨key, field⟩, -, rfl⟩ := List.mem_map.1 mem
  simp only [Field.toValue_eq, Value.get?, Field.lookupText_members]
  have pattern_eq : field.attribute? Attribute.pattern.name =
    field.pattern?.map fun pattern => .text pattern.source := rfl
  rw [pattern_eq]
  cases field.pattern? with
  | none => split <;> simp_all
  | some pattern =>
      have bounded : hasEndlessPattern (.text pattern.source) = false := by
        simp [hasEndlessPattern, textOf, pattern.parsed]
      split <;> simp_all

/-- A schema without negative bounds is what its document reads as. -/
theorem ofDocument_toValue (lengths : ∀ entry ∈ schema.toList, entry.2.type.BoundsLengths) :
    ofDocument source (toValue schema) = .ok schema := by
  have readings_eq : (schema.toList.map fun entry => (Value.text entry.1, entry.2.toValue)).map
      readEntry = schema.toList.map Reading.ok := by
    rw [List.map_map]
    apply List.map_congr_left
    intro entry mem
    exact readEntry_toValue (lengths entry mem)
  have document_eq : toValue schema =
      .map (schema.toList.map fun entry => (.text entry.1, entry.2.toValue)) := by
    simp [toValue, Value.object, Function.comp_def]
  rw [document_eq, ofDocument]
  simp only [isEndless_toValue, readings_eq]
  have silent : (schema.toList.map Reading.ok).flatMap Reading.issues = [] := by
    rw [List.flatMap_eq_nil_iff]
    intro reading mem
    obtain ⟨entry, -, rfl⟩ := List.mem_map.1 mem
    rfl
  have values_eq : (schema.toList.map Reading.ok).filterMap Reading.value? = schema.toList := by
    simp [Reading.ok, List.filterMap_map, Function.comp_def]
  rw [silent, values_eq]
  exact congrArg Except.ok (Dict.ext _ _ (Dict.toList_ofList_of_nodup schema.nodup))

/-- The schemas that documents give rise to are those without negative bounds on lengths. -/
theorem exists_document_iff :
    (∃ source document, ofDocument source document = .ok schema) ↔
      ∀ entry ∈ schema.toList, entry.2.type.BoundsLengths := by
  constructor
  · rintro ⟨source, document, accepted⟩
    exact boundsLengths_of_ofDocument accepted
  · intro lengths
    exact ⟨"", toValue schema, ofDocument_toValue lengths⟩

/-- A schema that was read from a document is read again from its own document, which is then
written as it was. -/
theorem ofDocument_normalises {document : Value}
    (accepted : ofDocument source document = .ok schema) (again : String) :
    ofDocument again (toValue schema) = .ok schema ∧
      (ofDocument again (toValue schema)).map toValue = .ok (toValue schema) := by
  have settled : ofDocument again (toValue schema) = .ok schema :=
    ofDocument_toValue (exists_document_iff.1 ⟨source, document, accepted⟩)
  rw [settled]
  exact ⟨rfl, rfl⟩

end Schemas

/-- A document that spells attributes in their second form and gives values of other kinds: a flag
as a number, choices as flags and numbers, a bound as a text, a default as a whole double. -/
def looseDocument : Value :=
  .object
    [ ("PORT", .object
        [("max", .text "65_535"), ("type", .text "number"), ("default", .bool true),
          ("is_sensitive", .int 0)]),
      ("MODE", .map
        [(.text "type", .text "enum"), (.text "allowed_values", .list [.bool true, .int 2]),
          (.text "required", .text "No"), (.text "description", .null)]),
      ("NAME", .object [("min", .text "+2.0"), ("type", .text "string"), ("pattern", .text "a+")]),
      ("TREE", .object [("type", .text "json"), ("default", .object [("a", .list [.null])])]) ]

/-- What the document above comes to. -/
def strictDocument : Value :=
  .object
    [ ("PORT", .object
        [("type", .text "number"), ("required", .bool true), ("isSensitive", .bool false),
          ("default", .int 1), ("max", .int 65535)]),
      ("MODE", .object
        [("type", .text "enum"), ("required", .bool false), ("isSensitive", .bool false),
          ("allowedValues", .list [.text "true", .text "2"])]),
      ("NAME", .object
        [("type", .text "string"), ("required", .bool true), ("isSensitive", .bool false),
          ("pattern", .text "a+"), ("min", .int 2)]),
      ("TREE", .object
        [("type", .text "json"), ("required", .bool true), ("isSensitive", .bool false),
          ("default", .object [("a", .list [.null])])]) ]

/-- The document is accepted; its schema is written in one spelling and read back. -/
theorem ofDocument_normalises_loose :
    ∃ schema, ofDocument "loose" looseDocument = .ok schema ∧ toValue schema = strictDocument ∧
      ofDocument "strict" strictDocument = .ok schema := by
  obtain ⟨schema, accepted, written⟩ : ∃ schema, ofDocument "loose" looseDocument = .ok schema ∧
      toValue schema = strictDocument := ⟨_, rfl, rfl⟩
  have settled := (ofDocument_normalises accepted "strict").1
  rw [written] at settled
  exact ⟨schema, accepted, written, settled⟩

end EnvConcord.Schema
