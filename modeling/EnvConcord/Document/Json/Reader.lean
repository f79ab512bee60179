import EnvConcord.Document.Value
import EnvConcord.Number.Numeral

/-!
# Reading JSON text

The reader accepts one value surrounded by white space.  A repeated member name
keeps its first place and its last value.  A refusal names its cause and the
place in the text where it was found.
-/

namespace EnvConcord.Document.Json

/-- Why a text is no JSON document. -/
inductive Cause
  | expectedValue
  | expectedName
  | expectedColon
  | expectedComma
  | extraData
  | controlCharacter
  | unterminatedString
  | badEscape
  | badUnicodeEscape
  | byteOrderMark
  deriving DecidableEq, Repr

/-- The explanation of a cause. -/
def Cause.message : Cause → String
  | .expectedValue => "Expecting value"
  | .expectedName => "Expecting property name enclosed in double quotes"
  | .expectedColon => "Expecting ':' delimiter"
  | .expectedComma => "Expecting ',' delimiter"
  | .extraData => "Extra data"
  | .controlCharacter => "Invalid control character at"
  | .unterminatedString => "Unterminated string starting at"
  | .badEscape => "Invalid \\escape"
  | .badUnicodeEscape => "Invalid \\uXXXX escape"
  | .byteOrderMark => "Unexpected UTF-8 BOM (decode using utf-8-sig)"

/-- A refusal: a cause at a place, given by what is left of the text there, or
an integer that is too long, or a constant that is not allowed. -/
inductive Fault
  | at (cause : Cause) (rest : List Char)
  | tooManyDigits (cause : TooManyDigits)
  | constant (name : String)
  deriving DecidableEq, Repr

/-- Which extensions of JSON the reader takes. -/
structure Grammar where
  /-- Whether `NaN`, `Infinity` and `-Infinity` are values. -/
  constants : Bool := true
  deriving DecidableEq, Repr

/-- White space between the tokens. -/
def isSpace (c : Char) : Bool := c == ' ' || c == '\t' || c == '\n' || c == '\r'

/-- What follows the white space. -/
def skipSpace (cs : List Char) : List Char := cs.dropWhile isSpace

/-- The character of a one-letter escape. -/
def simpleEscape? : Char → Option Char
  | '"' => some '"'
  | '\\' => some '\\'
  | '/' => some '/'
  | 'b' => some '\x08'
  | 'f' => some '\x0c'
  | 'n' => some '\n'
  | 'r' => some '\r'
  | 't' => some '\t'
  | _ => none

/-- Four hexadecimal digits and what follows them. -/
def readUnit? : List Char → Option (Nat × List Char)
  | a :: b :: c :: d :: rest => do
      let a ← Text.hexValue? a
      let b ← Text.hexValue? b
      let c ← Text.hexValue? c
      let d ← Text.hexValue? d
      some (4096 * a + 256 * b + 16 * c + d, rest)
  | _ => none

/-- Whether a code unit is the first half of a pair. -/
def isHighHalf (code : Nat) : Bool := 0xD800 ≤ code && code ≤ 0xDBFF

/-- Whether a code unit is the second half of a pair. -/
def isLowHalf (code : Nat) : Bool := 0xDC00 ≤ code && code ≤ 0xDFFF

/-- The character of a code unit; a half without its partner has none and is
shown as the replacement character. -/
def unitChar (code : Nat) : Char :=
  if isHighHalf code || isLowHalf code then '\uFFFD' else Char.ofNat code

/-- Read the four digits behind `\u`, and a second such escape that completes a
pair. `mark` is the text from the letter `u` on. -/
def readUnicode (mark digits : List Char) : Except Fault (Char × List Char) :=
  match readUnit? digits with
  | none => .error (.at .badUnicodeEscape mark)
  | some (code, rest) =>
      if rest.isEmpty then .error (.at .badUnicodeEscape mark)
      else if isHighHalf code && 6 < rest.length then
        match rest with
        | '\\' :: 'u' :: more =>
            match readUnit? more with
            | none => .error (.at .badUnicodeEscape ('u' :: more))
            | some (second, after) =>
                if isLowHalf second then
                  .ok (Char.ofNat (0x10000 + (code - 0xD800) * 1024 + (second - 0xDC00)), after)
                else .ok (unitChar code, rest)
        | _ => .ok (unitChar code, rest)
      else .ok (unitChar code, rest)

/-- Read the rest of a string behind its opening quote. `start` is the text from
that quote on; `reversed` holds the characters read so far. -/
def readString (start : List Char) : Nat → List Char → List Char →
    Except Fault (String × List Char)
  | 0, _, _ => .error (.at .unterminatedString start)
  | fuel + 1, reversed, cs =>
      match cs with
      | [] => .error (.at .unterminatedString start)
      | '"' :: rest => .ok (String.ofList reversed.reverse, rest)
      | '\\' :: rest =>
          match rest with
          | [] => .error (.at .unterminatedString start)
          | 'u' :: digits => do
              let (c, after) ← readUnicode rest digits
              readString start fuel (c :: reversed) after
          | c :: after =>
              match simpleEscape? c with
              | some escaped => readString start fuel (escaped :: reversed) after
              | none => .error (.at .badEscape cs)
      | c :: rest =>
          if c.toNat < 32 then .error (.at .controlCharacter cs)
          else readString start fuel (c :: reversed) rest

/-- What follows a literal word at the head of a text. -/
def after? (word : String) (cs : List Char) : Option (List Char) :=
  let letters := word.toList
  if letters.isPrefixOf cs then some (cs.drop letters.length) else none

/-- The exponent part of a number and what follows it, if one is complete. -/
def takeExponent : List Char → Option (Bool × List Char) × List Char
  | [] => (none, [])
  | mark :: rest =>
      let (negative, body) := Numeral.splitSign rest
      let digits := body.takeWhile Char.isDigit
      if (mark == 'e' || mark == 'E') && !digits.isEmpty then
        (some (negative, digits), body.dropWhile Char.isDigit)
      else (none, mark :: rest)

/-- The fraction of a number and what follows it, if one is complete. -/
def takeFraction : List Char → Option (List Char) × List Char
  | '.' :: rest =>
      let digits := rest.takeWhile Char.isDigit
      if digits.isEmpty then (none, '.' :: rest) else (some digits, rest.dropWhile Char.isDigit)
  | rest => (none, rest)

/-- Read a number; the text starts with it. -/
def readNumber (cs : List Char) : Except Fault (Value × List Char) :=
  let (negative, body) :=
    match cs with
    | '-' :: rest => (true, rest)
    | rest => (false, rest)
  let integral :=
    match body with
    | '0' :: _ => ['0']
    | rest => rest.takeWhile Char.isDigit
  if integral.isEmpty then .error (.at .expectedValue cs)
  else
    let (fraction, rest) := takeFraction (body.drop integral.length)
    let (exponent, rest) := takeExponent rest
    match Numeral.toNumber { negative, integral, fraction, exponent } with
    | .ok (.int n) => .ok (.int n, rest)
    | .ok (.float x) => .ok (.float x, rest)
    | .error cause => .error (.tooManyDigits cause)

/-- A constant that only the extended grammar knows. -/
def constant (g : Grammar) (name : String) (value : Binary64) (rest : List Char) :
    Except Fault (Value × List Char) :=
  if g.constants then .ok (.float value, rest) else .error (.constant name)

/-- Read a word or a number. -/
def readScalar (g : Grammar) (cs : List Char) : Except Fault (Value × List Char) :=
  match after? "null" cs, after? "true" cs, after? "false" cs with
  | some rest, _, _ => .ok (.null, rest)
  | _, some rest, _ => .ok (.bool true, rest)
  | _, _, some rest => .ok (.bool false, rest)
  | none, none, none =>
      match after? "NaN" cs, after? "Infinity" cs, after? "-Infinity" cs with
      | some rest, _, _ => constant g "NaN" .nan rest
      | _, some rest, _ => constant g "Infinity" (.infinite false) rest
      | _, _, some rest => constant g "-Infinity" (.infinite true) rest
      | none, none, none => readNumber cs

mutual

/-- Read one value at the head of a text. -/
def readValue (g : Grammar) : Nat → List Char → Except Fault (Value × List Char)
  | 0, cs => .error (.at .expectedValue cs)
  | fuel + 1, cs =>
      match cs with
      | '"' :: rest => do
          let (s, after) ← readString cs (rest.length + 1) [] rest
          return (.text s, after)
      | '{' :: rest =>
          match skipSpace rest with
          | '}' :: after => .ok (.map [], after)
          | rest => do
              let (entries, after) ← readMembers g fuel [] rest
              return (.map entries, after)
      | '[' :: rest =>
          match skipSpace rest with
          | ']' :: after => .ok (.list [], after)
          | rest => do
              let (items, after) ← readItems g fuel [] rest
              return (.list items, after)
      | _ => readScalar g cs

/-- Read the members of an object up to its closing brace. -/
def readMembers (g : Grammar) : Nat → List (Value × Value) → List Char →
    Except Fault (List (Value × Value) × List Char)
  | 0, _, cs => .error (.at .expectedName cs)
  | fuel + 1, entries, cs =>
      match cs with
      | '"' :: rest => do
          let (name, after) ← readString cs (rest.length + 1) [] rest
          match skipSpace after with
          | ':' :: after => do
              let (value, after) ← readValue g fuel (skipSpace after)
              let entries := Value.insertEntry (.text name) value entries
              match skipSpace after with
              | '}' :: after => return (entries, after)
              | ',' :: after => readMembers g fuel entries (skipSpace after)
              | after => .error (.at .expectedComma after)
          | after => .error (.at .expectedColon after)
      | _ => .error (.at .expectedName cs)

/-- Read the items of a list up to its closing bracket. -/
def readItems (g : Grammar) : Nat → List Value → List Char →
    Except Fault (List Value × List Char)
  | 0, _, cs => .error (.at .expectedValue cs)
  | fuel + 1, reversed, cs => do
      let (value, after) ← readValue g fuel cs
      match skipSpace after with
      | ']' :: after => return ((value :: reversed).reverse, after)
      | ',' :: after => readItems g fuel (value :: reversed) (skipSpace after)
      | after => .error (.at .expectedComma after)

end

/-- Read a whole text as one value. -/
def read (g : Grammar) (cs : List Char) : Except Fault Value :=
  match cs with
  | '\uFEFF' :: _ => .error (.at .byteOrderMark cs)
  | _ => do
      let (value, after) ← readValue g (cs.length + 1) (skipSpace cs)
      match skipSpace after with
      | [] => return value
      | after => .error (.at .extraData after)

/-- A place of a text as line, column and offset, the first two counted from one. -/
def describePlace (text rest : List Char) : String :=
  let offset := text.length - rest.length
  let before := text.take offset
  let line := before.count '\n' + 1
  let column := (before.reverse.takeWhile (· != '\n')).length + 1
  "line " ++ toString line ++ " column " ++ toString column ++ " (char " ++ toString offset ++ ")"

/-- The explanation of a refusal of a text. -/
def Fault.message (text : List Char) : Fault → String
  | .at cause rest => cause.message ++ ": " ++ describePlace text rest
  | .tooManyDigits cause => cause.message
  | .constant name => "invalid JSON constant: " ++ name

end EnvConcord.Document.Json
