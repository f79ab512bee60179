import EnvConcord.Document.Json.Reader
import EnvConcord.Number.Numeral
import EnvConcord.Schema.Email
import EnvConcord.Schema.Field
import EnvConcord.Url.Basic

/-!
# Converting texts to typed values

The value of a variable is a text; a field's type says what value the text stands
for, if it stands for any.
-/

namespace EnvConcord.Schema

open Document

/-- The number that a text writes, blanks around it apart. -/
def readNumber? (text : String) : Except TooManyDigits (Option Number) :=
  match Numeral.read? (Text.trim text.toList) with
  | none => .ok none
  | some numeral => numeral.toNumber.map some

/-- The spellings of true. -/
def trueSpellings : List String := ["true", "1", "yes", "on"]

/-- The spellings of false. -/
def falseSpellings : List String := ["false", "0", "no", "off"]

/-- The flag that a text spells, in any case. -/
def readFlag? (text : String) : Option Bool :=
  let lowered := Text.lowered text
  if trueSpellings.contains lowered then some true
  else if falseSpellings.contains lowered then some false
  else none

/-- The value of a JSON text. The constants beyond JSON are refused. -/
def readJson? (text : String) : Option Value :=
  (Json.read { constants := false } text.toList).toOption

/-- The text itself, if it passes a test. -/
def keepIf (test : List Char → Bool) (text : String) : Option Value :=
  if test text.toList then some (.text text) else none

/-- Convert a text by a field; `none` means that the text does not fit. -/
def Field.convert (field : Field) (text : String) : Except TooManyDigits (Option Value) :=
  match field.type with
  | .string .. => .ok (some (.text text))
  | .number .. => (readNumber? text).map fun number => number.map numberValue
  | .boolean _ => .ok ((readFlag? text).map .bool)
  | .url _ => .ok (keepIf Url.isUrl text)
  | .email _ => .ok (keepIf isEmail text)
  | .json _ => .ok (readJson? text)
  | .enum _ =>
      .ok (if (field.allowedValues.getD []).contains text then some (.text text) else none)

/-- What hides a secret value. -/
def maskText : String := "********"

/-- A value as findings show it. -/
def Field.mask (field : Field) (value : Option String) : String :=
  match value with
  | none => ""
  | some text => if text == "" then "" else if field.isSensitive then maskText else text

end EnvConcord.Schema
