import EnvConcord.Document.Value
import EnvConcord.Number.Numeral
import EnvConcord.Text.Digits

/-!
# Writing values as JSON text

All characters outside printable ASCII are escaped.  A `Layout` fixes the
separators; an indented layout puts every item on its own line.
-/

namespace EnvConcord.Document.Json

/-- The spacing of written JSON. -/
structure Layout where
  /-- The blanks added per level; without it all stands on one line. -/
  indent : Option Nat := none
  comma : String := ","
  colon : String := ":"
  deriving DecidableEq, Repr

/-- No blanks at all. -/
def compact : Layout := {}

/-- Every item on its own line, two blanks deeper than its parent. -/
def indented : Layout := { indent := some 2, colon := ": " }

/-- Four lower-case hexadecimal digits behind `\u`. -/
def escapeUnit (code : Nat) : List Char := '\\' :: 'u' :: Text.hexDigits 4 code

/-- A character inside a string literal. -/
def escapeChar (c : Char) : List Char :=
  if c == '"' then ['\\', '"']
  else if c == '\\' then ['\\', '\\']
  else if c == '\n' then ['\\', 'n']
  else if c == '\r' then ['\\', 'r']
  else if c == '\t' then ['\\', 't']
  else if c == '\x08' then ['\\', 'b']
  else if c == '\x0c' then ['\\', 'f']
  else
    let code := c.toNat
    if 32 ≤ code && code ≤ 126 then [c]
    else if code < 0x10000 then escapeUnit code
    else
      let offset := code - 0x10000
      escapeUnit (0xD800 + offset / 1024) ++ escapeUnit (0xDC00 + offset % 1024)

/-- A string literal. -/
def writeText (s : String) : String :=
  String.ofList (('"' :: s.toList.flatMap escapeChar) ++ ['"'])

/-- The text of a double; infinities and the undefined value have names. -/
def writeFloat : Binary64 → String
  | .nan => "NaN"
  | .infinite negative => if negative then "-Infinity" else "Infinity"
  | x => x.render

/-- A scalar; calendar values and octets, which JSON lacks, are written as texts. -/
def writeScalar : Value → String
  | .null => "null"
  | .bool b => if b then "true" else "false"
  | .int n => toString n
  | .float x => writeFloat x
  | .text s => writeText s
  | .moment m => writeText m.text
  | _ => "null"

/-- A member name: scalars that are no texts are written between quotes. -/
def writeName : Value → String
  | .text s => writeText s
  | key => "\"" ++ writeScalar key ++ "\""

/-- The line break and the blanks in front of an item at a depth. -/
def Layout.break (layout : Layout) (depth : Nat) : String :=
  match layout.indent with
  | some width => "\n" ++ String.ofList (List.replicate (width * depth) ' ')
  | none => ""

mutual

/-- Write a value at a depth. -/
def writeAt (layout : Layout) (depth : Nat) : Value → String
  | .list [] => "[]"
  | .list items => "[" ++ writeItems layout (depth + 1) items ++ layout.break depth ++ "]"
  | .pair key value =>
      "[" ++ layout.break (depth + 1) ++ writeAt layout (depth + 1) key ++ layout.comma ++
        layout.break (depth + 1) ++ writeAt layout (depth + 1) value ++ layout.break depth ++ "]"
  | .set items => "[" ++ writeItems layout (depth + 1) items ++ layout.break depth ++ "]"
  | .map [] => "\x7b\x7d"
  | .map entries =>
      "\x7b" ++ writeEntries layout (depth + 1) entries ++ layout.break depth ++ "\x7d"
  | scalar => writeScalar scalar

/-- Write items with their separators. -/
def writeItems (layout : Layout) (depth : Nat) : List Value → String
  | [] => ""
  | [item] => layout.break depth ++ writeAt layout depth item
  | item :: rest =>
      layout.break depth ++ writeAt layout depth item ++ layout.comma ++
        writeItems layout depth rest

/-- Write members with their separators. -/
def writeEntries (layout : Layout) (depth : Nat) : List (Value × Value) → String
  | [] => ""
  | [(name, value)] =>
      layout.break depth ++ writeName name ++ layout.colon ++ writeAt layout depth value
  | (name, value) :: rest =>
      layout.break depth ++ writeName name ++ layout.colon ++ writeAt layout depth value ++
        layout.comma ++ writeEntries layout depth rest

end

/-- Write a value whose parts JSON all has. -/
def write (layout : Layout) (value : Value) : String := writeAt layout 0 value

/-- Why a value is not written: a part of it is of a kind that JSON cannot express, or is an
integer with too many digits. -/
inductive Unwritable
  | value (kind : String)
  | name (kind : String)
  | tooManyDigits (cause : TooManyDigits)
  deriving DecidableEq, Repr

/-- The explanation of an unwritable part. -/
def Unwritable.message : Unwritable → String
  | .value kind => "Object of type " ++ kind ++ " is not JSON serializable"
  | .name kind => "keys must be str, int, float, bool or None, not " ++ kind
  | .tooManyDigits cause => cause.message

/-- What is wrong with an integer. -/
def longInteger? (n : Int) : Option Unwritable :=
  if Numeral.isLong n then some (.tooManyDigits .writing) else none

/-- What is wrong with a member name. -/
def badName? : Value → Option Unwritable
  | .int n => longInteger? n
  | .moment m => some (.name m.kindName)
  | .octets _ => some (.name "bytes")
  | _ => none

mutual

/-- What is wrong with the first part of a value that is not written. -/
def unwritable? : Value → Option Unwritable
  | .int n => longInteger? n
  | .moment m => some (.value m.kindName)
  | .octets _ => some (.value "bytes")
  | .set _ => some (.value "set")
  | .list items => unwritableItem? items
  | .pair key value => (unwritable? key).orElse fun _ => unwritable? value
  | .map entries => unwritableEntry? entries
  | _ => none

/-- The first such part among items. -/
def unwritableItem? : List Value → Option Unwritable
  | [] => none
  | item :: rest => (unwritable? item).orElse fun _ => unwritableItem? rest

/-- The first such part among members. -/
def unwritableEntry? : List (Value × Value) → Option Unwritable
  | [] => none
  | (name, value) :: rest =>
      (badName? name).orElse fun _ =>
        (unwritable? value).orElse fun _ => unwritableEntry? rest

end

/-- Write a value, if all of it can be written. -/
def write? (layout : Layout) (value : Value) : Except Unwritable String :=
  match unwritable? value with
  | some cause => .error cause
  | none => .ok (write layout value)

end EnvConcord.Document.Json
