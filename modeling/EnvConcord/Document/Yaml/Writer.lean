import EnvConcord.Document.Yaml.Implicit
import EnvConcord.Document.Value

/-!
# Writing values as YAML text

Lists and mappings are written in block form, one item a line; texts are written
plain where they read back as themselves, else in quotes.  Long texts are broken at
blanks behind column eighty.
-/

namespace EnvConcord.Document.Yaml

/-- The column behind which a text is broken. -/
def bestWidth : Nat := 80

/-- A number of blanks. -/
def blanks (count : Nat) : String := String.ofList (List.replicate count ' ')

/-- The break in front of a line that is indented. -/
def newLine (indent : Nat) : String := "\n" ++ blanks indent

/-! ## Styles of texts -/

/-- The style of a text. -/
inductive TextStyle
  | plain
  | single
  | double
  deriving DecidableEq, Repr

/-- Whether a character needs an escape. -/
def needsEscape (c : Char) : Bool := c != '\n' && !(' ' ≤ c && c ≤ '~')

/-- Whether a blank stands beside a line break. -/
def hasLooseBlank : List Char → Bool
  | a :: b :: rest =>
      (a == ' ' && b == '\n') || (a == '\n' && b == ' ') || hasLooseBlank (b :: rest)
  | _ => false

/-- The characters that a plain text does not begin with. -/
def openingIndicators : List Char :=
  ['#', ',', '[', ']', '\x7b', '\x7d', '&', '*', '!', '|', '>', '\'', '"', '%', '@', '\x60']

/-- Whether nothing or a blank follows. -/
def endsOrBlank : List Char → Bool
  | [] => true
  | c :: _ => c == ' '

/-- Whether a text begins like an indicator. -/
def beginsIndicator : List Char → Bool
  | [] => false
  | c :: rest =>
      openingIndicators.contains c || ((c == '?' || c == ':' || c == '-') && endsOrBlank rest) ||
        (c == '-' && rest.take 2 == ['-', '-']) || (c == '.' && rest.take 2 == ['.', '.'])

/-- Whether a key mark or a comment stands behind the first character. -/
def holdsIndicator : List Char → Bool
  | a :: b :: rest =>
      (b == ':' && endsOrBlank rest) || (a == ' ' && b == '#') || holdsIndicator (b :: rest)
  | _ => false

/-- Whether a text can stand without quotes. -/
def isPlainText (cs : List Char) : Bool :=
  !cs.isEmpty && !cs.any needsEscape && !cs.contains '\n' && cs.head? != some ' ' &&
    cs.getLast? != some ' ' && !beginsIndicator cs && !holdsIndicator cs

/-- The style of a text. -/
def TextStyle.of (text : String) : TextStyle :=
  let cs := text.toList
  if isPlainText cs && ScalarKind.ofPlain text == .text then .plain
  else if cs.any needsEscape || hasLooseBlank cs then .double
  else .single

/-! ## Texts -/

/-- Where a text is written: the column reached, the indentation of the lines that follow,
and whether it may be broken. -/
structure Margin where
  indent : Nat
  breaks : Bool

/-- Whether a blank at a column is where the text is broken. -/
def Margin.breaksAt (m : Margin) (column : Nat) : Bool := m.breaks && bestWidth < column

/-- Write a plain text from a column on; `previous` is the character before. -/
def writePlain (m : Margin) (column : Nat) (previous : Char) : List Char → String
  | [] => ""
  | ' ' :: rest =>
      if m.breaksAt column && previous != ' ' && !endsOrBlank rest then
        newLine m.indent ++ writePlain m m.indent ' ' rest
      else " " ++ writePlain m (column + 1) ' ' rest
  | c :: rest => c.toString ++ writePlain m (column + 1) c rest

/-- Write a text between single quotes from a column on. A quote is doubled, a line break
becomes an empty line. -/
def writeSingle (m : Margin) (column : Nat) (previous : Option Char) : List Char → String
  | [] => ""
  | ' ' :: rest =>
      if m.breaksAt column && previous.any (· != ' ') && !endsOrBlank rest then
        newLine m.indent ++ writeSingle m m.indent (some ' ') rest
      else " " ++ writeSingle m (column + 1) (some ' ') rest
  | '\n' :: rest =>
      (if previous == some '\n' then "\n" else "\n\n") ++
        (if rest.head? == some '\n' then "" else blanks m.indent) ++
        writeSingle m m.indent (some '\n') rest
  | '\'' :: rest => "''" ++ writeSingle m (column + 2) (some '\'') rest
  | c :: rest => c.toString ++ writeSingle m (column + 1) (some c) rest

/-- Upper-case hexadecimal digits. -/
def upperHex (width value : Nat) : List Char := (Text.hexDigits width value).map Char.toUpper

/-- The letters of short escapes. -/
def shortEscapes : List (Char × Char) :=
  [('\x00', '0'), ('\x07', 'a'), ('\x08', 'b'), ('\t', 't'), ('\n', 'n'), ('\x0b', 'v'),
    ('\x0c', 'f'), ('\r', 'r'), ('\x1b', 'e'), ('"', '"'), ('\\', '\\'), ('\x85', 'N'),
    ('\xa0', '_'), ('\u2028', 'L'), ('\u2029', 'P')]

/-- The escape of a character. -/
def escapeOf (c : Char) : List Char :=
  match shortEscapes.lookup c with
  | some letter => ['\\', letter]
  | none =>
      let code := c.toNat
      if code ≤ 0xff then '\\' :: 'x' :: upperHex 2 code
      else if code ≤ 0xffff then '\\' :: 'u' :: upperHex 4 code
      else '\\' :: 'U' :: upperHex 8 code

/-- Whether a character is escaped between double quotes. -/
def isEscaped (c : Char) : Bool := !(' ' ≤ c && c ≤ '~') || c == '"' || c == '\\'

/-- The break inside double quotes; a blank at the start of the next line is escaped. -/
def foldDouble (m : Margin) (next : Option Char) : String × Nat :=
  if next == some ' ' then ("\\" ++ newLine m.indent ++ "\\", m.indent + 1)
  else ("\\" ++ newLine m.indent, m.indent)

/-- Write a text between double quotes from a column on. It is broken at blanks and
beside escapes, but not next to its first and last character. -/
def writeDouble (m : Margin) (column : Nat) (first afterEscape : Bool) : List Char → String
  | [] => ""
  | c :: rest =>
      let inner := !first && !rest.isEmpty
      if isEscaped c then
        let escape := escapeOf c
        let reached := column + escape.length
        if inner && m.breaksAt (reached - 1) then
          let (fold, next) := foldDouble m rest.head?
          String.ofList escape ++ fold ++ writeDouble m next false true rest
        else String.ofList escape ++ writeDouble m reached false true rest
      else if inner && (c == ' ' || afterEscape) && m.breaksAt column then
        let (fold, next) := foldDouble m (some c)
        fold ++ c.toString ++ writeDouble m (next + 1) false false rest
      else c.toString ++ writeDouble m (column + 1) false false rest

/-- Write a text from a column on. -/
def writeText (m : Margin) (column : Nat) (text : String) : String :=
  match TextStyle.of text with
  | .plain => writePlain m column ' ' text.toList
  | .single => "'" ++ writeSingle m (column + 1) none text.toList ++ "'"
  | .double => "\"" ++ writeDouble m (column + 1) true false text.toList ++ "\""

/-! ## Values -/

/-- The text of a double: a point stands in front of every exponent. -/
def floatText : Binary64 → String
  | .nan => ".nan"
  | .infinite negative => if negative then "-.inf" else ".inf"
  | x =>
      let cs := x.render.toList
      if cs.contains '.' then String.ofList cs
      else String.ofList (cs.takeWhile (· != 'e') ++ ['.', '0'] ++ cs.dropWhile (· != 'e'))

/-- Write a value without parts from a column on. -/
def writeScalar (m : Margin) (column : Nat) : Value → String
  | .null => "null"
  | .bool b => if b then "true" else "false"
  | .int n => toString n
  | .float x => floatText x
  | .text s => writeText m column s
  | .moment t => t.text
  | .list _ => "[]"
  | .map _ => "\x7b\x7d"
  | _ => "null"

/-- The number of characters of a key's type mark. -/
def markSize : Value → Nat
  | .bool _ => 6
  | .float _ => 7
  | .null => 6
  | .moment _ => 11
  | _ => 5

/-- The greatest size of a key with its mark that stands on the line of its value. -/
def simpleKeyLimit : Nat := 128

/-- Whether a key stands on the line of its value. -/
def isSimpleKey (key : Value) : Bool :=
  let text :=
    match key with
    | .text s => s
    | key => writeScalar ⟨0, false⟩ 0 key
  text.length + markSize key < simpleKeyLimit && text != "" && !text.toList.contains '\n'

/-- A key with its mark, up to where the value follows. -/
def writeKey (indent : Nat) (key : Value) : String :=
  if isSimpleKey key then writeScalar ⟨indent, false⟩ indent key ++ ":"
  else
    "? " ++ writeScalar ⟨indent + 2, true⟩ (indent + 2) key ++ newLine indent ++ ":"

/-- The column that a key with its mark reaches. -/
def keyEnd (indent : Nat) (key : Value) : Nat :=
  if isSimpleKey key then indent + (writeKey indent key).length else indent + 1

mutual

/-- Write what follows a key or a dash that stands at `indent` and ends before `column`.
Parts follow on the same line, unless the key stands there. -/
def writeAfter (indent column : Nat) (sameLine : Bool) : Value → String
  | .list (item :: items) =>
      if sameLine then " " ++ writeItems (indent + 2) (item :: items)
      else newLine indent ++ writeItems indent (item :: items)
  | .map (entry :: entries) =>
      (if sameLine then " " else newLine (indent + 2)) ++
        writeEntries (indent + 2) (entry :: entries)
  | scalar => " " ++ writeScalar ⟨indent + 2, true⟩ (column + 1) scalar

/-- Write the items of a list, the first one in place. -/
def writeItems (indent : Nat) : List Value → String
  | [] => ""
  | [item] => "-" ++ writeAfter indent (indent + 1) true item
  | item :: rest =>
      "-" ++ writeAfter indent (indent + 1) true item ++ newLine indent ++ writeItems indent rest

/-- Write the members of a mapping, the first one in place. -/
def writeEntries (indent : Nat) : List (Value × Value) → String
  | [] => ""
  | [(key, value)] =>
      writeKey indent key ++ writeAfter indent (keyEnd indent key) (!isSimpleKey key) value
  | (key, value) :: rest =>
      writeKey indent key ++ writeAfter indent (keyEnd indent key) (!isSimpleKey key) value ++
        newLine indent ++ writeEntries indent rest

end

/-- Write a document. -/
def write : Value → String
  | .list (item :: items) => writeItems 0 (item :: items) ++ "\n"
  | .map (entry :: entries) => writeEntries 0 (entry :: entries) ++ "\n"
  | scalar => writeScalar ⟨2, true⟩ 0 scalar ++ "\n"

end EnvConcord.Document.Yaml
