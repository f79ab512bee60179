import EnvConcord.Proofs.Schema.ExampleFile
import EnvConcord.Proofs.Schema.SecretValues
import EnvConcord.Proofs.Schema.Typing

/-!
# Defaults of secret fields

The default of a secret field is not made use of.  A check says that there is one, typing does
not fall back on it, and the example file leaves the value out.  Two schemas are compared that
differ in such defaults only; whatever does not depend on the default is seen on the field
without its default, which is the same for both.
-/

namespace EnvConcord.Schema

open Document Collection

/-- A type without its default. -/
def FieldType.withoutDefault : FieldType → FieldType
  | .string pattern min max _ => .string pattern min max none
  | .number min max _ => .number min max none
  | .boolean _ => .boolean none
  | .url _ => .url none
  | .email _ => .email none
  | .enum _ => .enum none
  | .json _ => .json .null

@[simp]
theorem FieldType.name_withoutDefault (type : FieldType) :
    type.withoutDefault.name = type.name := by
  cases type <;> rfl

/-- A field without its default. -/
def Field.withoutDefault (field : Field) : Field :=
  { field with
    type := field.type.withoutDefault
    allows_of_enum := by simpa using field.allows_of_enum }

/-- Two fields that are equal but for the value of a default that is secret. -/
structure Field.DifferInSecretDefault (field other : Field) : Prop where
  withoutDefault_eq : field.withoutDefault = other.withoutDefault
  hasDefault_eq : field.hasDefault = other.hasDefault
  eq_of_open : field.isSensitive = false → field = other

section Defaults

variable {field other : Field}

theorem Field.convert_withoutDefault (field : Field) :
    field.withoutDefault.convert = field.convert := by
  funext text
  simp only [convert, withoutDefault]
  cases field.type <;> rfl

theorem Field.typeBreach?_withoutDefault (field : Field) :
    field.withoutDefault.typeBreach? = field.typeBreach? := by
  funext text
  simp only [typeBreach?, convert_withoutDefault, typeName]
  simp only [withoutDefault, FieldType.name_withoutDefault]
  cases field.type <;> rfl

theorem Field.breach?_withoutDefault (field : Field) :
    field.withoutDefault.breach? = field.breach? := by
  funext text
  have format_eq : field.withoutDefault.formatBreach? text = field.formatBreach? text := by
    simp only [formatBreach?, pattern?, withoutDefault]
    cases field.type <;> rfl
  simp only [breach?, typeBreach?_withoutDefault, format_eq]
  rfl

theorem Field.conditions_withoutDefault (field : Field) :
    field.withoutDefault.conditions = field.conditions := by
  simp only [conditions, typeName, pattern?, min?, max?]
  simp only [withoutDefault, FieldType.name_withoutDefault]
  cases field.type <;> rfl

theorem Field.issue_withoutDefault (field : Field) :
    field.withoutDefault.issue = field.issue := by
  funext key text message
  simp only [issue, mask, typeName, withoutDefault, FieldType.name_withoutDefault]
  rfl

/-- What does not depend on the default is the same for both fields. -/
theorem Field.DifferInSecretDefault.apply_eq {α : Type*} {f : Field → α}
    (differ : field.DifferInSecretDefault other)
    (blind : ∀ field, f field.withoutDefault = f field) : f field = f other := by
  rw [← blind field, differ.withoutDefault_eq, blind other]

theorem Field.DifferInSecretDefault.verdict_eq (differ : field.DifferInSecretDefault other) :
    field.verdict = other.verdict := by
  funext value
  have required_eq := differ.apply_eq (f := Field.required) fun _ => rfl
  have sensitive_eq := differ.apply_eq (f := Field.isSensitive) fun _ => rfl
  have breach_eq := differ.apply_eq Field.breach?_withoutDefault
  simp only [verdict, required_eq, sensitive_eq, breach_eq, differ.hasDefault_eq]

/-- Without a text a secret field has no value. -/
theorem Field.typed_of_blank_secret (secret : field.isSensitive = true) {key : String}
    {value : Option String} (blank : (value.filter fun text => text != "") = none) :
    field.typed key value = if field.required then .error (.missing key) else .ok none := by
  rw [typed_of_blank blank]
  cases field.default? <;> simp [Option.filter, secret]

theorem Field.DifferInSecretDefault.typed_eq (differ : field.DifferInSecretDefault other) :
    field.typed = other.typed := by
  cases secret : field.isSensitive with
  | false => rw [differ.eq_of_open secret]
  | true =>
      have other_secret : other.isSensitive = true := by
        rw [← secret, differ.apply_eq (f := Field.isSensitive) fun _ => rfl]
      funext key value
      rcases filter_content_eq value with ⟨-, content⟩ | ⟨text, -, -, -, content⟩
      · have required_eq := differ.apply_eq (f := Field.required) fun _ => rfl
        rw [typed_of_blank_secret secret content, typed_of_blank_secret other_secret content,
          required_eq]
      · have convert_eq := differ.apply_eq Field.convert_withoutDefault
        have name_eq := differ.apply_eq (f := Field.typeName) fun field => by
          rw [typeName, typeName, withoutDefault, FieldType.name_withoutDefault]
        rw [typed_of_text content, typed_of_text content, convert_eq, name_eq]

theorem Field.DifferInSecretDefault.exampleLines_eq (differ : field.DifferInSecretDefault other) :
    field.exampleLines = other.exampleLines := by
  cases secret : field.isSensitive with
  | false => rw [differ.eq_of_open secret]
  | true =>
      funext key
      have sensitive_eq := differ.apply_eq (f := Field.isSensitive) fun _ => rfl
      have description_eq := differ.apply_eq (f := Field.description) fun _ => rfl
      have conditions_eq := differ.apply_eq Field.conditions_withoutDefault
      have value_eq : field.exampleValue = other.exampleValue := by
        rw [exampleValue, exampleValue, ← sensitive_eq, secret]
        rfl
      simp only [exampleLines, value_eq, description_eq, conditions_eq]

end Defaults

/-- Schemas with the same keys in the same order, whose fields are equal but for the values of
defaults that are secret. -/
def DifferInSecretDefaults (schema other : Schema) : Prop :=
  List.Forall₂ (fun entry second => entry.1 = second.1 ∧ entry.2.DifferInSecretDefault second.2)
    schema.toList other.toList

theorem DifferInSecretDefaults.keys_eq {schema other : Schema}
    (differ : DifferInSecretDefaults schema other) : schema.keys = other.keys := by
  rw [Dict.keys, Dict.keys, ← List.forall₂_eq_eq_eq, List.forall₂_map_left_iff,
    List.forall₂_map_right_iff]
  exact differ.imp fun _ _ same => same.1

/-- Typing, the example file and checks do not depend on the default of a secret field. -/
theorem secret_default_unused {schema other : Schema} (differ : DifferInSecretDefaults schema other)
    (env : Variables) :
    typedValues schema env = typedValues other env ∧ exampleText schema = exampleText other ∧
      validate schema env = validate other env := by
  refine ⟨?_, ?_, ?_⟩
  · have steps_eq := mapM_eq_of_forall₂ (f := typedEntry env) (g := typedEntry env)
      (differ.imp fun entry second same => by
        rw [typedEntry, typedEntry, same.1, same.2.typed_eq])
    rw [typedValues_eq, typedValues_eq, steps_eq]
  · have blocks_eq := mapM_eq_of_forall₂
      (f := fun entry => entry.2.exampleLines entry.1)
      (g := fun entry => entry.2.exampleLines entry.1)
      (differ.imp fun entry second same => by rw [same.1, same.2.exampleLines_eq])
    rw [exampleText_eq, exampleText_eq, blocks_eq]
  · apply Agree.eq
    refine validate_agree (differ.imp fun entry second same => ?_) ?_ rfl
    · exact
        { key_eq := same.1
          verdict_agree := .of_eq (fun _ => rfl) (by rw [same.1, same.2.verdict_eq])
          issue_eq := fun message => by
            rw [same.1, same.2.apply_eq Field.issue_withoutDefault] }
    · have contains_eq : schema.contains = other.contains := by
        funext key
        rw [Dict.contains, Dict.contains, differ.keys_eq]
      rw [unusedKeys, unusedKeys, contains_eq]

/-- The same field twice but for a default, once in a schema with an open field before it. -/
def tokenSchema (default : String) : Schema where
  toList :=
    [ ("HOST", { type := .string none none none (some "local"), allows_of_enum := nofun }),
      ("TOKEN", { isSensitive := true
                  type := .string none none none (some default)
                  allows_of_enum := nofun }) ]

/-- Neither of two defaults of a secret turns up: not in place of an empty value, not in the
example file, and not in a report. -/
theorem secret_default_unused_tokens :
    DifferInSecretDefaults (tokenSchema "t") (tokenSchema "other") ∧
      typedValues (tokenSchema "t") .empty = .error (.missing "TOKEN") ∧
      typedValues (tokenSchema "other") .empty = .error (.missing "TOKEN") ∧
      exampleText (tokenSchema "t") = exampleText (tokenSchema "other") ∧
      validate (tokenSchema "t") .empty = validate (tokenSchema "other") .empty := by
  have differ : DifferInSecretDefaults (tokenSchema "t") (tokenSchema "other") := by
    refine .cons ⟨rfl, rfl, rfl, fun _ => rfl⟩ (.cons ⟨rfl, rfl, rfl, ?_⟩ .nil)
    exact fun isOpen => by contradiction
  obtain ⟨typed_eq, example_eq, report_eq⟩ := secret_default_unused differ .empty
  have stopped : typedValues (tokenSchema "t") .empty = .error (.missing "TOKEN") := by
    rfl
  exact ⟨differ, stopped, typed_eq ▸ stopped, example_eq, report_eq⟩

end EnvConcord.Schema
