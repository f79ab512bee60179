import EnvConcord.Document.Json.Writer
import EnvConcord.Schema.Validate

/-!
# Example env files

An example file lists the keys of a schema, each below its description and its
conditions, with the defaults filled in.  Secret keys stay empty.
-/

namespace EnvConcord.Schema

open Document

/-- A default as an env file writes it: flags in lower case, lists and mappings as
compact JSON. -/
def defaultText : Value → Except Json.Unwritable String
  | .bool b => .ok (if b then "true" else "false")
  | .map entries => Json.write? Json.compact (.map entries)
  | .list items => Json.write? Json.compact (.list items)
  | value => value.written.mapError .tooManyDigits

/-- The condition that a bound is, if there is one. -/
def boundCondition (label : String) : Option Number → Except Json.Unwritable (List String)
  | none => .ok []
  | some bound =>
      ((numberValue bound).written.mapError .tooManyDigits).map fun text => [label ++ ": " ++ text]

/-- The conditions of a field, in a fixed order. -/
def Field.conditions (field : Field) : Except Json.Unwritable (List String) := do
  let choices := field.allowedValues.getD []
  let low ← boundCondition "min" field.min?
  let high ← boundCondition "max" field.max?
  return (if field.type.name = .string then [] else ["type: " ++ field.typeName]) ++
    (if choices.isEmpty then [] else ["choices: " ++ String.intercalate " | " choices]) ++
    low ++ high ++
    ((field.pattern?.filter fun pattern => pattern.source != "").map fun pattern =>
      "pattern: " ++ pattern.source).toList ++
    (if field.isSensitive then ["sensitive"] else []) ++
    (if field.required then [] else ["optional"])

/-- The value that the example file gives a field. -/
def Field.exampleValue (field : Field) : Except Json.Unwritable String :=
  if field.isSensitive then .ok ""
  else
    match field.default? with
    | none => .ok ""
    | some default => defaultText default

/-- The lines of the example file for one field. -/
def Field.exampleLines (field : Field) (key : String) : Except Json.Unwritable (List String) := do
  let description := field.description.filter fun text => text != ""
  let conditions ← field.conditions
  let value ← field.exampleValue
  return (description.map fun text => "# " ++ text).toList ++
    (if conditions.isEmpty then [] else ["# (" ++ String.intercalate ", " conditions ++ ")"]) ++
    [key ++ "=" ++ value, ""]

/-- The lines that open an example file. -/
def exampleHeader : List String :=
  ["# Generated from schema by envguard", "# Copy this file to .env and fill in the values", ""]

/-- The text of the example file. -/
def exampleText (schema : Schema) : Except Json.Unwritable String := do
  let blocks ← schema.toList.mapM fun (key, field) => field.exampleLines key
  return String.intercalate "\n" (exampleHeader ++ blocks.flatten)

end EnvConcord.Schema
