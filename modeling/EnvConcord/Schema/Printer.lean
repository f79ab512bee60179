import EnvConcord.Schema.Reader

/-!
# Writing schemas as documents

A schema is written with the names of its attributes, those without a value left
out.  Reading what was written gives the schema back.
-/

namespace EnvConcord.Schema

open Document

/-- The value of an attribute, if it has one. -/
def Field.attribute? (field : Field) (name : String) : Option Value :=
  if name == Attribute.type.name then some (.text field.typeName)
  else if name == Attribute.required.name then some (.bool field.required)
  else if name == Attribute.description.name then field.description.map .text
  else if name == Attribute.isSensitive.name then some (.bool field.isSensitive)
  else if name == Attribute.allowedValues.name then
    field.allowedValues.map fun choices => .list (choices.map .text)
  else if name == Attribute.default.name then field.default?
  else if name == Attribute.pattern.name then
    field.pattern?.map fun pattern => .text pattern.source
  else if name == Attribute.min.name then field.min?.map numberValue
  else if name == Attribute.max.name then field.max?.map numberValue
  else none

/-- The attributes in the order in which they are written. -/
def Attribute.written : List Attribute :=
  [.type, .required, .description, .isSensitive, .allowedValues, .default, .pattern, .min, .max]

/-- A field as a document. -/
def Field.toValue (field : Field) : Value :=
  .object (Attribute.written.filterMap fun attr =>
    (field.attribute? attr.name).map fun value => (attr.name, value))

/-- A schema as a document. -/
def toValue (schema : Schema) : Value :=
  .object (schema.toList.map fun (key, field) => (key, field.toValue))

end EnvConcord.Schema
