import EnvConcord.Proofs.Schema.Typing
import EnvConcord.Schema.Reader

/-!
# What typed values belong to

A typed value comes from the text of a variable or from the default of its field.  Whatever a text
is converted to belongs to the type of the field.  A default is of the right kind, but one that is
a text is not converted: an address that is none and a choice that is not listed get through.
-/

namespace EnvConcord.Schema

open Document

/-! ## Kinds and members -/

/-- The kinds of value that a type has. -/
inductive IsOfKind : TypeName → Value → Prop
  | text {type : TypeName} (s : String) (spelled : type ∈ [.string, .url, .email, .enum]) :
      IsOfKind type (.text s)
  | int (n : Int) : IsOfKind .number (.int n)
  | float (x : Binary64) : IsOfKind .number (.float x)
  | bool (b : Bool) : IsOfKind .boolean (.bool b)
  | json (value : Value) : IsOfKind .json value

/-- The values that belong to the type of a field. -/
inductive Field.Member (field : Field) : Value → Prop
  | text (s : String) (type_eq : field.type.name = .string) : field.Member (.text s)
  | int (n : Int) (type_eq : field.type.name = .number) : field.Member (.int n)
  | float (x : Binary64) (type_eq : field.type.name = .number) : field.Member (.float x)
  | bool (b : Bool) (type_eq : field.type.name = .boolean) : field.Member (.bool b)
  | formed (s : String) (address : field.type.name = .url ∨ field.type.name = .email)
      (accepted : field.convert s = .ok (some (.text s))) : field.Member (.text s)
  | choice (s : String) (type_eq : field.type.name = .enum)
      (listed : ∃ choices ∈ field.allowedValues, s ∈ choices) : field.Member (.text s)
  | json (value : Value) (type_eq : field.type.name = .json) : field.Member value

/-- Whether the default of a field is a text that its own conversion refuses. -/
def Field.HasStrayDefault (field : Field) : Prop :=
  field.type.name ∈ [.url, .email, .enum] ∧
    ∃ s, field.default? = some (.text s) ∧ field.convert s = .ok none

section Members

variable {field : Field}

theorem Field.Member.isOfKind {value : Value} (member : field.Member value) :
    IsOfKind field.type.name value := by
  cases member with
  | text s type_eq => exact .text s (by simp [type_eq])
  | int n type_eq => exact type_eq ▸ .int n
  | float x type_eq => exact type_eq ▸ .float x
  | bool b type_eq => exact type_eq ▸ .bool b
  | formed s address accepted => exact .text s (by rcases address with eq | eq <;> simp [eq])
  | choice s type_eq listed => exact .text s (by simp [type_eq])
  | json value type_eq => exact type_eq ▸ .json value

/-- Numbers are members of number fields. -/
theorem Field.member_numberValue (number : Number) (type_eq : field.type.name = .number) :
    field.Member (numberValue number) := by
  cases number with
  | int n => exact .int n type_eq
  | float x => exact .float x type_eq

/-- A text of an address or a choice is itself the value, or it is refused. -/
theorem Field.convert_of_spelled (spelled : field.type.name ∈ [.url, .email, .enum]) (s : String) :
    field.convert s = .ok (some (.text s)) ∨ field.convert s = .ok none := by
  rw [convert]
  cases type_eq : field.type with
  | url | email =>
      simp only [keepIf]
      split
      · exact Or.inl rfl
      · exact Or.inr rfl
  | enum default =>
      simp only
      split
      · exact Or.inl rfl
      · exact Or.inr rfl
  | _ => simp [type_eq, FieldType.name] at spelled

theorem Field.convert_eq_self_iff_of_enum (enum : field.type.name = .enum) (s : String) :
    field.convert s = .ok (some (.text s)) ↔ ∃ choices ∈ field.allowedValues, s ∈ choices := by
  cases type_eq : field.type with
  | enum default =>
      simp only [convert, type_eq]
      cases field.allowedValues <;> simp
  | _ => simp [type_eq, FieldType.name] at enum

/-- The members among the texts are those that are converted to themselves. -/
theorem Field.member_text_iff (spelled : field.type.name ∈ [.url, .email, .enum]) (s : String) :
    field.Member (.text s) ↔ field.convert s = .ok (some (.text s)) := by
  constructor
  · intro member
    cases member with
    | text _ type_eq => simp [type_eq] at spelled
    | formed _ _ accepted => exact accepted
    | choice _ type_eq listed => exact (convert_eq_self_iff_of_enum type_eq s).2 listed
    | json _ type_eq => simp [type_eq] at spelled
  · intro kept
    simp only [List.mem_cons, List.not_mem_nil, or_false] at spelled
    rcases spelled with url | email | enum
    · exact .formed s (Or.inl url) kept
    · exact .formed s (Or.inr email) kept
    · exact .choice s enum ((convert_eq_self_iff_of_enum enum s).1 kept)

/-- A text is converted to a member of the type. -/
theorem Field.member_of_convert {text : String} {typed : Value}
    (converts : field.convert text = .ok (some typed)) : field.Member typed := by
  by_cases spelled : field.type.name ∈ [.url, .email, .enum]
  · rcases convert_of_spelled spelled text with kept | refused
    · obtain rfl : Value.text text = typed := by simpa [kept] using converts
      exact (member_text_iff spelled text).2 kept
    · simp [refused] at converts
  · cases type_eq : field.type with
    | string pattern min max default =>
        obtain rfl : Value.text text = typed := by simpa [convert, type_eq] using converts
        exact .text text (by rw [type_eq]; rfl)
    | number min max default =>
        simp only [convert, type_eq] at converts
        cases read : readNumber? text with
        | error cause => simp [read, Except.map] at converts
        | ok number =>
            simp only [read, Except.map, Except.ok.injEq] at converts
            obtain ⟨number, -, rfl⟩ := Option.map_eq_some_iff.1 converts
            exact member_numberValue number (by rw [type_eq]; rfl)
    | boolean default =>
        simp only [convert, type_eq, Except.ok.injEq] at converts
        obtain ⟨flag, -, rfl⟩ := Option.map_eq_some_iff.1 converts
        exact .bool flag (by rw [type_eq]; rfl)
    | json default => exact .json typed (by rw [type_eq]; rfl)
    | _ => simp [type_eq, FieldType.name] at spelled

theorem Field.exists_text_of_spelled (spelled : field.type.name ∈ [.url, .email, .enum])
    {default : Value} (given : field.default? = some default) : ∃ s, default = .text s := by
  cases type_eq : field.type with
  | url own | email own | enum own =>
      simp only [default?, type_eq] at given
      obtain ⟨s, -, rfl⟩ := Option.map_eq_some_iff.1 given
      exact ⟨s, rfl⟩
  | _ => simp [type_eq, FieldType.name] at spelled

/-- A default is of the kind of its type, and belongs to the type unless it is stray. -/
theorem Field.member_default {default : Value} (given : field.default? = some default) :
    IsOfKind field.type.name default ∧ (field.Member default ↔ ¬field.HasStrayDefault) := by
  by_cases spelled : field.type.name ∈ [.url, .email, .enum]
  · obtain ⟨s, rfl⟩ := exists_text_of_spelled spelled given
    refine ⟨.text s (List.mem_cons_of_mem _ spelled), ?_⟩
    rw [member_text_iff spelled, HasStrayDefault, given]
    rcases convert_of_spelled spelled s with kept | refused
    · simp [kept]
    · simp [refused, spelled]
  · have member : field.Member default := by
      cases type_eq : field.type with
      | string pattern min max own =>
          simp only [default?, type_eq] at given
          obtain ⟨s, -, rfl⟩ := Option.map_eq_some_iff.1 given
          exact .text s (by rw [type_eq]; rfl)
      | number min max own =>
          simp only [default?, type_eq] at given
          obtain ⟨number, -, rfl⟩ := Option.map_eq_some_iff.1 given
          exact member_numberValue number (by rw [type_eq]; rfl)
      | boolean own =>
          simp only [default?, type_eq] at given
          obtain ⟨flag, -, rfl⟩ := Option.map_eq_some_iff.1 given
          exact .bool flag (by rw [type_eq]; rfl)
      | json own => exact .json default (by rw [type_eq]; rfl)
      | _ => simp [type_eq, FieldType.name] at spelled
    exact ⟨member.isOfKind, by simp [member, HasStrayDefault, spelled]⟩

end Members

/-! ## Typed values -/

/-- What typed values belong to. -/
structure BelongToTypes (schema : Schema) (env : Variables) (values : List (String × Value)) :
    Prop where
  isOfKind : ∀ key value, (key, value) ∈ values →
    ∃ field, schema.get? key = some field ∧ IsOfKind field.type.name value
  /-- A value belongs to the type of its field unless it stands for none and is a stray default. -/
  member_iff : ∀ key value, (key, value) ∈ values →
    ∃ field, schema.get? key = some field ∧
      (field.Member value ↔ ¬(isBlankValue (env.value? key) = true ∧ field.HasStrayDefault))
  /-- All values belong to their types unless a stray default stands for one. -/
  members_iff :
    (∀ key value, (key, value) ∈ values →
        ∃ field, schema.get? key = some field ∧ field.Member value) ↔
      ∀ entry ∈ schema.toList, isBlankValue (env.value? entry.1) = true →
        entry.2.isSensitive = false → ¬entry.2.HasStrayDefault

section Typed

variable {schema : Schema} {env : Variables} {values : List (String × Value)}

/-- Where there is no text, a field is typed by its default. -/
theorem Field.Types.default_of_blank {field : Field} {value : Option String} {typed : Value}
    (types : field.Types value typed) (blank : isBlankValue value = true) :
    field.isSensitive = false ∧ field.default? = some typed := by
  cases types with
  | converted text value_eq content _ =>
      exact absurd blank (by simpa [value_eq, isBlankValue] using content)
  | byDefault _ open_field default_eq => exact ⟨open_field, default_eq⟩

theorem Field.member_of_types {field : Field} {value : Option String} {typed : Value}
    (types : field.Types value typed) :
    IsOfKind field.type.name typed ∧
      (field.Member typed ↔ ¬(isBlankValue value = true ∧ field.HasStrayDefault)) := by
  cases types with
  | converted text value_eq content converts =>
      have member := member_of_convert converts
      have filled : isBlankValue value = false := by simpa [value_eq, isBlankValue] using content
      exact ⟨member.isOfKind, by simp [member, filled]⟩
  | byDefault blank open_field default_eq =>
      obtain ⟨kind, member_iff⟩ := member_default default_eq
      exact ⟨kind, by simp [member_iff, blank]⟩

/-- A default that stands for a value is among the typed values. -/
theorem mem_values_of_default (done : typedValues schema env = .ok values) {key : String}
    {field : Field} {default : Value} (mem : (key, field) ∈ schema.toList)
    (blank : isBlankValue (env.value? key) = true) (open_field : field.isSensitive = false)
    (given : field.default? = some default) : (key, default) ∈ values := by
  obtain ⟨keys_eq, types⟩ := typed_of_typedValues done
  have filled : (key, field) ∈ filledEntries schema env := by
    simp [filledEntries, mem, Field.hasContent, Field.hasDefault, open_field, given]
  have listed : key ∈ values.map Prod.fst := keys_eq ▸ List.mem_map_of_mem filled
  obtain ⟨⟨other, value⟩, pair_mem, key_eq⟩ := List.mem_map.1 listed
  obtain rfl : other = key := key_eq
  obtain ⟨own, known, own_types⟩ := types other value pair_mem
  obtain rfl : own = field :=
    Option.some.inj (known.symm.trans ((Dict.get?_eq_some_iff schema other field).2 mem))
  obtain rfl := Option.some.inj ((own_types.default_of_blank blank).2.symm.trans given)
  exact pair_mem

/-- Typed values are of the kinds of their types, and belong to the types but for stray defaults. -/
theorem typedValues_belong (done : typedValues schema env = .ok values) :
    BelongToTypes schema env values := by
  have types := (typed_of_typedValues done).2
  refine ⟨?isOfKind, ?member_iff, ?members_iff⟩
  case isOfKind =>
    intro key value mem
    obtain ⟨field, known, own⟩ := types key value mem
    exact ⟨field, known, (Field.member_of_types own).1⟩
  case member_iff =>
    intro key value mem
    obtain ⟨field, known, own⟩ := types key value mem
    exact ⟨field, known, (Field.member_of_types own).2⟩
  case members_iff =>
    constructor
    · rintro all ⟨key, field⟩ mem blank open_field stray
      obtain ⟨s, given, -⟩ := stray.2
      obtain ⟨own, known, member⟩ :=
        all key (.text s) (mem_values_of_default done mem blank open_field given)
      obtain rfl : own = field :=
        Option.some.inj (known.symm.trans ((Dict.get?_eq_some_iff schema key field).2 mem))
      exact (Field.member_default given).2.1 member stray
    · intro none_stray key value mem
      obtain ⟨field, known, own⟩ := types key value mem
      have listed := (Dict.get?_eq_some_iff schema key field).1 known
      refine ⟨field, known, (Field.member_of_types own).2.2 ?_⟩
      rintro ⟨blank, stray⟩
      exact none_stray _ listed blank (own.default_of_blank blank).1 stray

end Typed

/-- Three fields with defaults, two of which belong to their types. -/
def defaultsSchema : Schema where
  toList :=
    [ ("HOME", { type := .url (some "https://a.io"), allows_of_enum := by decide }),
      ("LEVEL", { allowedValues := some ["low", "high"]
                  type := .enum (some "medium")
                  allows_of_enum := by decide }),
      ("PORT", { type := .number none none (some (.int 80)), allows_of_enum := by decide }) ]

/-- The defaults stand for the values that are not set; one of them is stray. -/
theorem typedValues_belong_defaults :
    ∃ values, typedValues defaultsSchema (.ofList [("PORT", some "8080")]) = .ok values ∧
      values.map Prod.fst = ["HOME", "LEVEL", "PORT"] ∧
      BelongToTypes defaultsSchema (.ofList [("PORT", some "8080")]) values := by
  have keys_eq : (typedValues defaultsSchema (.ofList [("PORT", some "8080")])).map
      (List.map Prod.fst) = .ok ["HOME", "LEVEL", "PORT"] := by
    decide +kernel
  cases done : typedValues defaultsSchema (.ofList [("PORT", some "8080")]) with
  | error fault => simp [done, Except.map] at keys_eq
  | ok values =>
      rw [done] at keys_eq
      exact ⟨values, rfl, Except.ok.inj keys_eq, typedValues_belong done⟩

/-- A document with an enumeration whose default is none of its choices. -/
def levelDocument : Value :=
  .object
    [("LEVEL", .object
      [("type", .text "enum"), ("allowedValues", .list [.text "low", .text "high"]),
        ("default", .text "medium")])]

/-- The schema of the document above. -/
def levelSchema : Schema where
  toList :=
    [("LEVEL", { allowedValues := some ["low", "high"], type := .enum (some "medium") })]

/-- A default need not belong to the type of its field. -/
theorem not_member_levelDefault :
    ¬∀ (source : String) (document : Value) (schema : Schema) (env : Variables)
        (values : List (String × Value)),
      ofDocument source document = .ok schema → typedValues schema env = .ok values →
        ∀ key value, (key, value) ∈ values →
          ∃ field, schema.get? key = some field ∧ field.Member value := by
  intro all
  have accepted : ofDocument "" levelDocument = .ok levelSchema := rfl
  have done : typedValues levelSchema .empty = .ok [("LEVEL", .text "medium")] := rfl
  obtain ⟨field, known, member⟩ :=
    all "" levelDocument levelSchema .empty _ accepted done "LEVEL" _ (List.mem_singleton.2 rfl)
  obtain rfl := Option.some.inj known
  rw [Field.member_text_iff (by decide)] at member
  have refused : Field.convert
      { allowedValues := some ["low", "high"], type := .enum (some "medium") } "medium" =
        .ok none := rfl
  rw [refused] at member
  cases Except.ok.inj member

end EnvConcord.Schema
