import EnvConcord.Document.Yaml.Timestamp
import EnvConcord.Text.Lines

/-!
# What plain scalars stand for

A scalar without quotes and without a tag stands for null, a flag, a number or a
moment if it is written like one, and else for its own text.
-/

namespace EnvConcord.Document.Yaml

/-- The kinds of scalars. -/
inductive ScalarKind
  | null
  | bool
  | int
  | float
  | moment
  /-- The key under which other mappings are merged in. -/
  | merge
  /-- The key of a mapping's own value. -/
  | value
  /-- A lone indicator, which stands for nothing. -/
  | indicator
  | text
  deriving DecidableEq, Repr, Inhabited

/-- The spellings of null. -/
def nullWords : List String := ["", "~", "null", "Null", "NULL"]

/-- The spellings of true and false. -/
def flagWords : List String :=
  ["yes", "Yes", "YES", "no", "No", "NO", "true", "True", "TRUE", "false", "False", "FALSE",
    "on", "On", "ON", "off", "Off", "OFF"]

/-- The spellings of infinity and of the undefined number. -/
def specialWords : List String :=
  let signs := ["", "-", "+"]
  (signs.flatMap fun sign => [".inf", ".Inf", ".INF"].map (sign ++ ·)) ++ [".nan", ".NaN", ".NAN"]

/-- Drop a sign. -/
def dropSign : List Char → List Char
  | '-' :: rest => rest
  | '+' :: rest => rest
  | rest => rest

/-- Whether a character is a digit or a separating underscore. -/
def isSpacedDigit (c : Char) : Bool := c.isDigit || c == '_'

/-- Whether a character is a digit of a base or an underscore. -/
def isSpacedDigitOf (base : Nat) (c : Char) : Bool :=
  c == '_' || (Text.hexValue? c).any fun value => value < base

/-- Whether a text is a digit followed by digits and underscores. -/
def isSpacedNumber : List Char → Bool
  | [] => false
  | c :: rest => c.isDigit && rest.all isSpacedDigit

/-- Whether a text is a number below sixty in at most two digits. -/
def isSixtieth : List Char → Bool
  | [a] => a.isDigit
  | [a, b] => '0' ≤ a && a ≤ '5' && b.isDigit
  | _ => false

/-- Whether a text is a number followed by sixtieths, one at least. -/
def isSexagesimal (leading : List Char → Bool) (cs : List Char) : Bool :=
  match Text.splitAt ':' cs with
  | whole :: parts => leading whole && !parts.isEmpty && parts.all isSixtieth
  | [] => false

/-- Whether a text is a number without leading zero. -/
def isPositiveNumber : List Char → Bool
  | [] => false
  | c :: rest => c != '0' && isSpacedNumber (c :: rest)

/-- Whether a text is written as an integer: binary, octal, hexadecimal, decimal, or in
parts of sixty. -/
def isIntText (cs : List Char) : Bool :=
  match dropSign cs with
  | '0' :: 'b' :: rest => !rest.isEmpty && rest.all (isSpacedDigitOf 2)
  | '0' :: 'x' :: rest => !rest.isEmpty && rest.all (isSpacedDigitOf 16)
  | '0' :: rest => rest.all (isSpacedDigitOf 8)
  | body => isPositiveNumber body || isSexagesimal isPositiveNumber body

/-- Whether a text is an exponent with its sign, or nothing. -/
def isExponent : List Char → Bool
  | [] => true
  | mark :: sign :: digits =>
      (mark == 'e' || mark == 'E') && (sign == '-' || sign == '+') && !digits.isEmpty &&
        digits.all Char.isDigit
  | [_] => false

/-- Whether a text is a decimal fraction with a point, and perhaps an exponent. -/
def isDecimalText (cs : List Char) : Bool :=
  let body := dropSign cs
  match body.dropWhile isSpacedDigit with
  | '.' :: rest =>
      isSpacedNumber (body.takeWhile isSpacedDigit) && isExponent (rest.dropWhile isSpacedDigit)
  | _ => false

/-- Whether a text is a point, a fraction, and perhaps an exponent. -/
def isFractionText : List Char → Bool
  | '.' :: rest =>
      isSpacedNumber (rest.takeWhile isSpacedDigit) && isExponent (rest.dropWhile isSpacedDigit)
  | _ => false

/-- Whether a text is a number in parts of sixty with a point behind. -/
def isSexagesimalFraction (cs : List Char) : Bool :=
  let body := dropSign cs
  match body.dropWhile (· != '.') with
  | '.' :: rest =>
      isSexagesimal isSpacedNumber (body.takeWhile (· != '.')) && rest.all isSpacedDigit
  | _ => false

/-- Whether a text is written as a double. -/
def isFloatText (cs : List Char) : Bool :=
  isDecimalText cs || isFractionText cs || isSexagesimalFraction cs ||
    specialWords.contains (String.ofList cs)

/-- The kind of a plain scalar. -/
def ScalarKind.ofPlain (text : String) : ScalarKind :=
  let cs := text.toList
  if flagWords.contains text then .bool
  else if isFloatText cs then .float
  else if isIntText cs then .int
  else if text == "<<" then .merge
  else if nullWords.contains text then .null
  else if (Timestamp.read? cs).any Timestamp.isCanonical then .moment
  else if text == "=" then .value
  else if text == "!" || text == "&" || text == "*" then .indicator
  else .text

end EnvConcord.Document.Yaml
