import EnvConcord.Schema.Coerce
import EnvConcord.Schema.Field

/-!
# Reading schemas from documents

A document maps each key to the attributes of its field.  The type decides which
attributes there are.  All refusals of a document are collected, each with the place
it concerns.
-/

namespace EnvConcord.Schema

open Document

/-- A refusal at a place: the key, the type, and the attribute as the document writes it. -/
structure DocumentIssue where
  place : List String
  refusal : Refusal
  deriving DecidableEq, Repr

/-- Why a document is no schema. -/
inductive ReadingFault
  /-- The document is no mapping but a value of another kind. -/
  | notMapping (source kind : String)
  | invalid (source : String) (issues : List DocumentIssue)
  /-- A pattern whose number of repetitions is beyond all bounds. -/
  | repetitionTooLarge
  deriving DecidableEq, Repr

/-- The text of a fault. -/
def ReadingFault.message : ReadingFault → String
  | .notMapping source kind =>
      "Invalid schema in " ++ source ++ ": expected a mapping, got " ++ kind
  | .invalid source _ => "Invalid schema in " ++ source
  | .repetitionTooLarge => Pattern.Regex.Fault.repetitionTooLarge.message []

/-! ## Attributes -/

/-- An attribute by its name in documents and its second spelling. -/
structure Attribute where
  name : String
  alternative : Option String := none
  deriving DecidableEq, Repr

/-- The attributes by name. -/
def Attribute.required : Attribute := ⟨"required", none⟩
def Attribute.description : Attribute := ⟨"description", none⟩
def Attribute.isSensitive : Attribute := ⟨"isSensitive", some "is_sensitive"⟩
def Attribute.allowedValues : Attribute := ⟨"allowedValues", some "allowed_values"⟩
def Attribute.default : Attribute := ⟨"default", none⟩
def Attribute.type : Attribute := ⟨"type", none⟩
def Attribute.pattern : Attribute := ⟨"pattern", none⟩
def Attribute.min : Attribute := ⟨"min", none⟩
def Attribute.max : Attribute := ⟨"max", none⟩

/-- The attributes of the fields of a type. -/
def attributesOf (type : TypeName) : List Attribute :=
  [.required, .description, .isSensitive, .allowedValues, .default, .type] ++
    match type with
    | .string => [.pattern, .min, .max]
    | .number => [.min, .max]
    | _ => []

/-- The spelling in which an attribute is given, and its value; the name comes before the
second spelling. -/
def Attribute.find? (entries : List (Value × Value)) (attr : Attribute) :
    Option (String × Value) :=
  match Value.lookupText entries attr.name with
  | some value => some (attr.name, value)
  | none =>
      attr.alternative.bind fun other =>
        (Value.lookupText entries other).map fun value => (other, value)

/-! ## Collecting refusals -/

/-- A result together with refusals; there is a result only without refusals of its own. -/
structure Reading (α : Type) where
  value? : Option α
  issues : List DocumentIssue := []

/-- A reading without refusals. -/
def Reading.ok (value : α) : Reading α := { value? := some value }

/-- A refused reading. -/
def Reading.refuse (place : List String) (refusal : Refusal) : Reading α :=
  { value? := none, issues := [⟨place, refusal⟩] }

/-- Read an attribute by a conversion that may refuse several parts of a value; an absent
attribute has a fallback. -/
def Attribute.readParts (place : List String) (entries : List (Value × Value)) (attr : Attribute)
    (fallback : α) (convert : Value → Except (List (List String × Refusal)) α) : Reading α :=
  match attr.find? entries with
  | none => .ok fallback
  | some (spelling, value) =>
      match convert value with
      | .ok result => .ok result
      | .error refusals =>
          { value? := none
            issues := refusals.map fun (part, refusal) => ⟨place ++ spelling :: part, refusal⟩ }

/-- Read an attribute by a conversion that refuses whole values. -/
def Attribute.read (place : List String) (entries : List (Value × Value)) (attr : Attribute)
    (fallback : α) (convert : Value → Except Refusal α) : Reading α :=
  attr.readParts place entries fallback fun value =>
    (convert value).mapError fun refusal => [([], refusal)]

/-- A conversion that takes null for nothing. -/
def orNull (convert : Value → Except ε α) : Value → Except ε (Option α)
  | .null => .ok none
  | value => (convert value).map some

/-- Read an attribute that is a number or null. -/
def Attribute.readNumber (place : List String) (entries : List (Value × Value))
    (attr : Attribute) : Reading (Option Number) :=
  attr.readParts place entries none fun value =>
    (orNull numberOf value).mapError fun (asInteger, asFloat) =>
      [(["int"], asInteger), (["float"], asFloat)]

/-- A length bound: an integer that is not negative. -/
def boundOf (value : Value) : Except Refusal Int := do
  let n ← integerOf value
  if n < 0 then .error .negative else return n

/-- Read a text as a pattern. -/
def patternOf (value : Value) : Except Refusal Pattern := do
  let source ← textOf value
  match parsed : Pattern.Regex.parse source.toList with
  | .ok regex => return { source, regex, parsed }
  | .error fault =>
      let reason := fault.message source.toList
      match fault with
      | .at .. | .general _ =>
          .error (.badValue
            ("invalid regular expression " ++ Text.quoted source ++ ": " ++ reason))
      | _ => .error (.badValue reason)

/-- Whether a value is a pattern whose number of repetitions is beyond all bounds. -/
def hasEndlessPattern (value : Value) : Bool :=
  match textOf value with
  | .ok source =>
      match Pattern.Regex.parse source.toList with
      | .error .repetitionTooLarge => true
      | _ => false
  | .error _ => false

/-- The choices of an enumeration, of which there is at least one. -/
def enumChoicesOf (value : Value) :
    Except (List (List String × Refusal)) (Option (List String)) := do
  let choices ← choicesOf value
  if choices.isEmpty then .error [([], .noChoice)] else return some choices

/-- Read the allowed values of a field. -/
def readChoices (place : List String) (entries : List (Value × Value)) (type : TypeName) :
    Reading (Option (List String)) :=
  match type with
  | .enum =>
      match Attribute.allowedValues.find? entries with
      | none => .refuse (place ++ [Attribute.allowedValues.name]) .missing
      | some _ => Attribute.allowedValues.readParts place entries none enumChoicesOf
  | _ => Attribute.allowedValues.readParts place entries none (orNull choicesOf)

/-- Read the attributes that belong to a type. -/
def readType (place : List String) (entries : List (Value × Value)) (type : TypeName) :
    Reading FieldType :=
  let text := Attribute.default.read place entries none (orNull textOf)
  match type with
  | .string =>
      let pattern := Attribute.pattern.read place entries none (orNull patternOf)
      let min := Attribute.min.read place entries none (orNull boundOf)
      let max := Attribute.max.read place entries none (orNull boundOf)
      { value? := do return .string (← pattern.value?) (← min.value?) (← max.value?) (← text.value?)
        issues := pattern.issues ++ min.issues ++ max.issues ++ text.issues }
  | .number =>
      let min := Attribute.min.readNumber place entries
      let max := Attribute.max.readNumber place entries
      let default := Attribute.default.readNumber place entries
      { value? := do return .number (← min.value?) (← max.value?) (← default.value?)
        issues := min.issues ++ max.issues ++ default.issues }
  | .boolean =>
      let default := Attribute.default.read place entries none (orNull flagOf)
      { value? := default.value?.map .boolean, issues := default.issues }
  | .url => { value? := text.value?.map .url, issues := text.issues }
  | .email => { value? := text.value?.map .email, issues := text.issues }
  | .enum => { value? := text.value?.map .enum, issues := text.issues }
  | .json => .ok (.json ((Value.lookupText entries Attribute.default.name).getD .null))

theorem ne_nil_of_enumChoicesOf {value : Value} {choices : Option (List String)}
    (read : enumChoicesOf value = .ok choices) : choices.getD [] ≠ [] := by
  simp only [enumChoicesOf, bind, Except.bind] at read
  split at read
  · contradiction
  next items _ =>
    split at read
    · contradiction
    next some_item =>
      obtain rfl := Except.ok.inj read
      simpa using some_item

/-- What is read for an enumeration allows at least one value. -/
theorem ne_nil_of_readChoices {place : List String} {entries : List (Value × Value)}
    {type : TypeName} {choices : Option (List String)}
    (read : (readChoices place entries type).value? = some choices) (enum_type : type = .enum) :
    choices.getD [] ≠ [] := by
  subst enum_type
  simp only [readChoices] at read
  split at read
  · contradiction
  next given found =>
    simp only [Attribute.readParts, found] at read
    split at read
    next result converted =>
      obtain rfl : result = choices := by simpa [Reading.ok] using read
      exact ne_nil_of_enumChoicesOf converted
    · contradiction

/-- What is read for a type is of that type. -/
theorem name_of_readType {place : List String} {entries : List (Value × Value)} {type : TypeName}
    {own : FieldType} (read : (readType place entries type).value? = some own) :
    own.name = type := by
  cases type <;>
    simp only [readType, Reading.ok, bind, Option.bind_eq_some_iff, Option.map_eq_some_iff,
      pure, Option.some.injEq] at read
  case string => obtain ⟨_, _, _, _, _, _, _, _, rfl⟩ := read; rfl
  case number => obtain ⟨_, _, _, _, _, _, rfl⟩ := read; rfl
  case json => exact read ▸ rfl
  all_goals
    obtain ⟨_, _, rfl⟩ := read
    rfl

/-- What stands for an integer in a place that has too many digits. -/
def longPlace : String := "<unprintable int object>"

/-- A key as a part of a place. -/
def placeName : Value → String
  | .bool b => if b then "1" else "0"
  | .text name => name
  | key => if key.isLong then longPlace else key.shown

/-- The refusals of attributes that a field of the type does not have. -/
def strangeAttributes (place : List String) (entries : List (Value × Value)) (type : TypeName) :
    List DocumentIssue :=
  let known := (attributesOf type).filterMap fun attr =>
    (attr.find? entries).map Prod.fst
  entries.filterMap fun entry =>
    match entry.1 with
    | .text name => if known.contains name then none else some ⟨place ++ [name], .noAttribute⟩
    | key => some ⟨place ++ [placeName key], .badAttribute⟩

/-- Read a field of a type. -/
def readTyped (key : String) (entries : List (Value × Value)) (type : TypeName) : Reading Field :=
  let place := [key, type.spelling]
  let required := Attribute.required.read place entries true flagOf
  let description := Attribute.description.read place entries none (orNull textOf)
  let sensitive := Attribute.isSensitive.read place entries false flagOf
  let choices := readChoices place entries type
  let own := readType place entries type
  let strange := strangeAttributes place entries type
  { value? := do
      let required ← required.value?
      let description ← description.value?
      let isSensitive ← sensitive.value?
      match choicesRead : choices.value?, ownRead : own.value? with
      | some allowedValues, some ownType =>
          return { required, description, isSensitive, allowedValues
                   type := ownType
                   allows_of_enum := fun enum_type =>
                     ne_nil_of_readChoices choicesRead ((name_of_readType ownRead).symm.trans enum_type) }
      | _, _ => none
    issues := required.issues ++ description.issues ++ sensitive.issues ++ choices.issues ++
      own.issues ++ strange }

/-- Read the attributes of a field. -/
def readField (key : String) : Value → Reading Field
  | .map entries =>
      match Value.lookupText entries Attribute.type.name with
      | none => .refuse [key] .noType
      | some (.text spelling) =>
          match TypeName.ofSpelling? spelling with
          | some type => readTyped key entries type
          | none => .refuse [key] .unknownType
      | some _ => .refuse [key] .unknownType
  | _ => .refuse [key] .noMapping

/-- Read a field with its key, which has to be a text. -/
def readEntry (entry : Value × Value) : Reading (String × Field) :=
  match textOf entry.1 with
  | .ok key =>
      let field := readField key entry.2
      { value? := field.value?.map fun field => (key, field), issues := field.issues }
  | .error refusal =>
      let key := placeName entry.1
      { value? := none
        issues := ⟨[key, "[key]"], refusal⟩ :: (readField key entry.2).issues }

/-- Whether some pattern of a document is beyond all bounds; nothing else is looked at then. -/
def isEndless (entries : List (Value × Value)) : Bool :=
  entries.any fun entry =>
    match entry.2.get? Attribute.type.name, entry.2.get? Attribute.pattern.name with
    | some (.text spelling), some pattern =>
        spelling == TypeName.string.spelling && hasEndlessPattern pattern
    | _, _ => false

/-- Read a schema. Null stands for the schema without fields. -/
def ofDocument (source : String) : Value → Except ReadingFault Schema
  | .null => .ok .empty
  | .map entries =>
      if isEndless entries then .error .repetitionTooLarge
      else
        let readings := entries.map readEntry
        let issues := readings.flatMap Reading.issues
        if issues.isEmpty then .ok (Dict.ofList (readings.filterMap Reading.value?))
        else .error (.invalid source issues)
  | value => .error (.notMapping source value.kindName)

end EnvConcord.Schema
