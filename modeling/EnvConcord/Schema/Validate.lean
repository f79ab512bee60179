import EnvConcord.Document.Plain
import EnvConcord.Schema.Convert
import EnvConcord.Schema.Issue

/-!
# Checking variables against a schema

A check collects all findings: for each field at most one among missing, not
allowed, of the wrong type, and of the wrong format, and apart from these a secret
that has a default.  Typing is all or nothing: it stops at the first field whose
value is missing or cannot be converted.
-/

namespace EnvConcord.Schema

open Document

/-- Variables: a key may be present without a value. -/
abbrev Variables := Dict String (Option String)

/-- The value of a key, if it is present and has one. -/
def Variables.value? (env : Variables) (key : String) : Option String := (env.get? key).join

/-- The text of a number. -/
def numberText (n : Number) : String := Value.plain (numberValue n)

/-- What is wrong with a value. -/
inductive Breach
  | notAllowed (choices : List String)
  | badType (type : String)
  | tooShort (min : Int)
  | tooLong (max : Int)
  | tooSmall (min : Number)
  | tooLarge (max : Number)
  | badFormat (pattern : String)
  deriving DecidableEq, Repr

/-- The text of a breach. -/
def Breach.message : Breach → String
  | .notAllowed choices => "Not in allowed values: " ++ String.intercalate ", " choices
  | .badType type => "Invalid " ++ type ++ " format"
  | .tooShort min => "String too short (min: " ++ toString min ++ ")"
  | .tooLong max => "String too long (max: " ++ toString max ++ ")"
  | .tooSmall min => "Number too small (min: " ++ numberText min ++ ")"
  | .tooLarge max => "Number too large (max: " ++ numberText max ++ ")"
  | .badFormat pattern => "Does not match pattern: " ++ pattern

/-- The bound that the text of a breach shows. -/
def Breach.bound? : Breach → Option Number
  | .tooShort min => some (.int min)
  | .tooLong max => some (.int max)
  | .tooSmall min => some min
  | .tooLarge max => some max
  | _ => none

/-- A breach, if there is one and its text can be written: a bound may have too many digits. -/
def told (breach : Option Breach) : Except TooManyDigits (Option Breach) :=
  match breach.bind Breach.bound? with
  | some bound => (numberValue bound).written.map fun _ => breach
  | none => .ok breach

/-- The group of findings that a breach belongs to. -/
inductive BreachClass
  | choice
  | type
  | format
  deriving DecidableEq, Repr

/-- The group of a breach; bounds count as part of the type. -/
def Breach.group : Breach → BreachClass
  | .notAllowed _ => .choice
  | .badFormat _ => .format
  | _ => .type

/-- The breach of allowed values, if there is one. -/
def Field.choiceBreach? (field : Field) (text : String) : Option Breach :=
  match field.allowedValues with
  | some choices => if choices.contains text then none else some (.notAllowed choices)
  | none => none

/-- The breach of the bounds on a text's length. -/
def lengthBreach? (min max : Option Int) (length : Int) : Option Breach :=
  match min.filter fun low => length < low with
  | some low => some (.tooShort low)
  | none => (max.filter fun high => high < length).map .tooLong

/-- The breach of the bounds on a number. -/
def rangeBreach? (min max : Option Number) (number : Number) : Option Breach :=
  match min.filter fun low => number.less low with
  | some low => some (.tooSmall low)
  | none => (max.filter fun high => high.less number).map .tooLarge

/-- The breach of a field's type or bounds. An enumeration is checked by its allowed
values alone. -/
def Field.typeBreach? (field : Field) (text : String) : Except TooManyDigits (Option Breach) :=
  match field.type with
  | .enum _ => .ok none
  | .string _ min max _ => told (lengthBreach? min max text.length)
  | .number min max _ => do
      match ← readNumber? text with
      | none => return some (.badType field.typeName)
      | some number => told (rangeBreach? min max number)
  | _ => do
      match ← field.convert text with
      | none => return some (.badType field.typeName)
      | some _ => return none

/-- The breach of a field's pattern; an empty pattern asks for nothing. -/
def Field.formatBreach? (field : Field) (text : String) : Option Breach :=
  match field.pattern? with
  | some pattern =>
      if pattern.source == "" || Pattern.Regex.occursIn pattern.regex text.toList then none
      else some (.badFormat pattern.source)
  | none => none

/-- The first breach of a value: allowed values, then type and bounds, then pattern. -/
def Field.breach? (field : Field) (text : String) : Except TooManyDigits (Option Breach) :=
  match field.choiceBreach? text with
  | some breach => .ok (some breach)
  | none => do
      match ← field.typeBreach? text with
      | some breach => return some breach
      | none => return field.formatBreach? text

/-- What a check says about one field. -/
structure Verdict where
  missing : Bool := false
  exposedDefault : Bool := false
  breach : Option Breach := none
  deriving DecidableEq, Repr

/-- The verdict on a field: a required field without a value is missing and nothing else;
an absent one that is not required has no findings. -/
def Field.verdict (field : Field) (value : Option String) : Except TooManyDigits Verdict :=
  if field.required && (value.all fun text => text == "") then .ok { missing := true }
  else
    match value with
    | none => .ok {}
    | some text => do
        return { exposedDefault := field.isSensitive && field.hasDefault
                 breach := ← field.breach? text }

/-- An issue with a field. -/
def Field.issue (field : Field) (key text message : String) : Issue where
  key := key
  value := field.mask (some text)
  expectedType := field.typeName
  issue := message
  description := field.description
  isSensitive := field.isSensitive

/-- A field with the value it is checked for and the verdict. -/
structure Checked where
  key : String
  field : Field
  text : String
  verdict : Verdict

/-- The verdicts on all fields, in schema order. -/
def verdicts (schema : Schema) (env : Variables) : Except TooManyDigits (List Checked) :=
  schema.toList.mapM fun (key, field) => do
    let value := env.value? key
    return { key, field, text := value.getD "", verdict := ← field.verdict value }

/-- The issues of one group, in schema order. -/
def issuesOf (checked : List Checked) (group : BreachClass) : List Issue :=
  checked.filterMap fun c =>
    (c.verdict.breach.filter fun breach => breach.group == group).map fun breach =>
      c.field.issue c.key c.text breach.message

/-- The keys with a value that the schema does not know, ascending. -/
def unusedKeys (schema : Schema) (env : Variables) : List String :=
  Text.sort ((env.toList.filter fun pair => pair.2.isSome && !schema.contains pair.1).map Prod.fst)

/-- The findings that verdicts amount to. -/
def collect (schema : Schema) (env : Variables) (checked : List Checked) : Report :=
  let missing := Text.sort ((checked.filter fun c => c.verdict.missing).map Checked.key)
  let exposed := (checked.filter fun c => c.verdict.exposedDefault).map fun c =>
    c.field.issue c.key c.text "Sensitive field cannot have default value"
  let unused := unusedKeys schema env
  let types := issuesOf checked .type
  let formats := issuesOf checked .format
  let choices := issuesOf checked .choice
  { missing
    unused
    invalidType := types
    invalidFormat := formats
    invalidEnum := choices
    sensitiveDefaults := exposed
    summary :=
      { keysInCode := schema.keys.length
        keysInEnv := env.keys.length
        totalIssues := missing.length + unused.length + types.length + formats.length +
          choices.length + exposed.length } }

/-- Check variables against a schema. -/
def validate (schema : Schema) (env : Variables) : Except TooManyDigits Report :=
  (verdicts schema env).map (collect schema env)

/-! ## Typing -/

/-- Why variables cannot be typed. -/
inductive TypingFault
  | missing (key : String)
  | unconvertible (key type : String)
  | tooManyDigits (cause : TooManyDigits)
  deriving DecidableEq, Repr

/-- The text of a fault. -/
def TypingFault.message : TypingFault → String
  | .missing key => "Missing required environment variable: " ++ key
  | .unconvertible key type =>
      "Invalid " ++ type ++ " value for environment variable: " ++ key
  | .tooManyDigits cause => cause.message

/-- The typed value of a field: the converted value, or the default of a field that is
not secret; a field without either that is not required has none. -/
def Field.typed (field : Field) (key : String) (value : Option String) :
    Except TypingFault (Option Value) :=
  match value.filter fun text => text != "" with
  | some text =>
      match field.convert text with
      | .error cause => .error (.tooManyDigits cause)
      | .ok none => .error (.unconvertible key field.typeName)
      | .ok (some converted) => .ok (some converted)
  | none =>
      match field.default? with
      | some default =>
          if field.isSensitive then
            if field.required then .error (.missing key) else .ok none
          else .ok (some default)
      | none => if field.required then .error (.missing key) else .ok none

/-- The typed values of all fields that have one, in schema order. -/
def typedValues (schema : Schema) (env : Variables) :
    Except TypingFault (List (String × Value)) := do
  let values ← schema.toList.mapM fun (key, field) => do
    return (← field.typed key (env.value? key)).map fun value => (key, value)
  return values.filterMap id

end EnvConcord.Schema
