import EnvConcord.Collection.Dict
import EnvConcord.Document.Value
import EnvConcord.Pattern.Regex.Matcher
import EnvConcord.Pattern.Regex.Parser

/-!
# Fields of a schema

A field describes one variable: what type of value it takes, whether it has to be
set, and which further conditions its values meet.  Each type has the attributes
that make sense for it.
-/

namespace EnvConcord

namespace Schema

/-- A regular expression with the text that it was read from. -/
structure Pattern where
  source : String
  regex : Pattern.Regex
  /-- The expression is what the text says. -/
  parsed : Pattern.Regex.parse source.toList = .ok regex

/-- The names of the types. -/
inductive TypeName
  | string
  | number
  | boolean
  | url
  | email
  | enum
  | json
  deriving DecidableEq, Repr

/-- The spelling of a type. -/
def TypeName.spelling : TypeName → String
  | .string => "string"
  | .number => "number"
  | .boolean => "boolean"
  | .url => "url"
  | .email => "email"
  | .enum => "enum"
  | .json => "json"

/-- All types. -/
def TypeName.all : List TypeName := [.string, .number, .boolean, .url, .email, .enum, .json]

/-- The type of a spelling. -/
def TypeName.ofSpelling? (spelling : String) : Option TypeName :=
  TypeName.all.find? fun type => type.spelling == spelling

/-- The type of a field with its own attributes and its default. -/
inductive FieldType
  | string (pattern : Option Pattern) (min max : Option Int) (default : Option String)
  | number (min max : Option Number) (default : Option Number)
  | boolean (default : Option Bool)
  | url (default : Option String)
  | email (default : Option String)
  | enum (default : Option String)
  | json (default : Document.Value)

/-- The name of a field type. -/
def FieldType.name : FieldType → TypeName
  | .string .. => .string
  | .number .. => .number
  | .boolean .. => .boolean
  | .url .. => .url
  | .email .. => .email
  | .enum .. => .enum
  | .json .. => .json

/-- A field. -/
structure Field where
  required : Bool := true
  description : Option String := none
  /-- Whether values are masked in findings. -/
  isSensitive : Bool := false
  /-- The values allowed, if there is such a list. -/
  allowedValues : Option (List String) := none
  type : FieldType
  /-- An enumeration allows at least one value. -/
  allows_of_enum : type.name = .enum → allowedValues.getD [] ≠ [] := by simp [FieldType.name]

/-- The spelling of a field's type. -/
def Field.typeName (field : Field) : String := field.type.name.spelling

/-- A number as a document value. -/
def numberValue : Number → Document.Value
  | .int n => .int n
  | .float x => .float x

/-- The default of a field type, if it has one; null is none. -/
def FieldType.default? : FieldType → Option Document.Value
  | .string _ _ _ d => d.map .text
  | .number _ _ d => d.map numberValue
  | .boolean d => d.map .bool
  | .url d => d.map .text
  | .email d => d.map .text
  | .enum d => d.map .text
  | .json .null => none
  | .json d => some d

/-- The default of a field. -/
def Field.default? (field : Field) : Option Document.Value := field.type.default?

/-- Whether a field has a default. -/
def Field.hasDefault (field : Field) : Bool := field.default?.isSome

/-- The pattern of a field. -/
def Field.pattern? (field : Field) : Option Pattern :=
  match field.type with
  | .string pattern .. => pattern
  | _ => none

/-- The lower bound of a field. -/
def Field.min? (field : Field) : Option Number :=
  match field.type with
  | .string _ min _ _ => min.map .int
  | .number min _ _ => min
  | _ => none

/-- The upper bound of a field. -/
def Field.max? (field : Field) : Option Number :=
  match field.type with
  | .string _ _ max _ => max.map .int
  | .number _ max _ => max
  | _ => none

end Schema

/-- A schema: its fields by key, in the order of the document. -/
abbrev Schema := Dict String Schema.Field

end EnvConcord
