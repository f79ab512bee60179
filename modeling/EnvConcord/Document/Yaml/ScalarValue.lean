import EnvConcord.Document.Value
import EnvConcord.Document.Yaml.Fault
import EnvConcord.Document.Yaml.Node
import EnvConcord.Text.Blank
import EnvConcord.Text.LowerCase

/-!
# Values of YAML scalars

A tag says how the text of a scalar is read.
-/

namespace EnvConcord.Document.Yaml

/-! ## Integers -/

/-- A text without its underscores. -/
def withoutUnderscores (text : String) : List Char := text.toList.filter (· != '_')

/-- The integer of a decimal text; blanks around it and a sign are allowed. -/
def decimalInt (cs : List Char) : Except Fault Int :=
  match Numeral.read? (Text.trim cs) with
  | some numeral =>
      if numeral.isIntegral then
        (Numeral.toInt numeral.negative numeral.integral).mapError .tooManyDigits
      else .error (.noInteger 10 (String.ofList cs))
  | none => .error (.noInteger 10 (String.ofList cs))

/-- The value of a digit: a decimal one of any script, or a letter. -/
def digitOf? (c : Char) : Option Nat := (Text.digitValue? c).or (Text.hexValue? c)

/-- The letter behind a zero that may stand in front of the digits of a base. -/
def baseMark : Nat → Char
  | 2 => 'b'
  | 8 => 'o'
  | _ => 'x'

/-- The integer of a text in a base other than ten; blanks around it and a sign are allowed. -/
def intOfBase (base : Nat) (cs : List Char) : Except Fault Int :=
  let (negative, body) := Numeral.splitSign (Text.trim cs)
  let digits :=
    match body with
    | '0' :: mark :: rest => if mark.toLower == baseMark base then rest else body
    | _ => body
  let values := digits.filterMap digitOf?
  if !digits.isEmpty && values.length == digits.length && values.all (· < base) then
    let size := Int.ofNat (values.foldl (fun total d => base * total + d) 0)
    .ok (if negative then -size else size)
  else .error (.noInteger base (String.ofList cs))

/-- A sign and what follows it; the text is not empty. -/
def splitNumber (cs : List Char) : Except Fault (Bool × List Char) :=
  if cs.isEmpty then .error .emptyNumber else .ok (Numeral.splitSign cs)

/-- The integer of a text. -/
def intOfText (text : String) : Except Fault Int := do
  let (negative, body) ← splitNumber (withoutUnderscores text)
  let size : Int ←
    match body with
    | [] => .error .emptyNumber
    | ['0'] => pure 0
    | '0' :: 'b' :: digits => intOfBase 2 digits
    | '0' :: 'x' :: digits => intOfBase 16 digits
    | '0' :: digits => intOfBase 8 ('0' :: digits)
    | _ => do
        let parts ← (Text.splitAt ':' body).mapM decimalInt
        pure (parts.foldl (fun total part => 60 * total + part) 0)
  return if negative then -size else size

/-- The double of a decimal text. -/
def decimalFloat (cs : List Char) : Except Fault Binary64 :=
  match Numeral.read? (Text.trim cs) with
  | some numeral => .ok numeral.toBinary64
  | none =>
      let (negative, word) := Numeral.splitSign (Text.trim cs)
      let word := String.ofList word
      if word == "inf" || word == "infinity" then .ok (.infinite negative)
      else if word == "nan" then .ok .nan
      else .error (.noFloat (String.ofList cs))

/-- The double nearest to a ratio. -/
def nearest (numerator : Int) (denominator : Nat) : Binary64 :=
  Binary64.ofRatio (decide (numerator < 0)) numerator.natAbs denominator

/-- The product of a double and a positive one, rounded. -/
def scaled : Binary64 → Binary64 → Binary64
  | .finite negative mantissa exponent, .finite _ factor shift =>
      let (a, b) := Binary64.ratio negative mantissa exponent
      let (c, d) := Binary64.ratio false factor shift
      nearest (a * c) (b * d)
  | x, _ => x

/-- The sum of two doubles, rounded. -/
def sum : Binary64 → Binary64 → Binary64
  | .finite negative mantissa exponent, .finite minus summand shift =>
      let (a, b) := Binary64.ratio negative mantissa exponent
      let (c, d) := Binary64.ratio minus summand shift
      nearest (a * d + c * b) (b * d)
  | .infinite negative, .infinite minus => if negative == minus then .infinite negative else .nan
  | .finite .., y => y
  | x, .finite .. => x
  | _, _ => .nan

/-- The sum of parts of sixty, the last part first. -/
def sixtieths : List Binary64 → Nat → Binary64 → Except Fault Binary64
  | [], _, total => .ok total
  | part :: rest, base, total =>
      let factor := nearest base 1
      if factor.isFinite then sixtieths rest (60 * base) (sum total (scaled part factor))
      else .error .baseTooLarge

/-- A double with the other sign. -/
def negated : Binary64 → Binary64
  | .finite negative mantissa exponent => .finite (!negative) mantissa exponent
  | .infinite negative => .infinite (!negative)
  | .nan => .nan

/-- The double of a text. -/
def floatOfText (text : String) : Except Fault Binary64 := do
  let digits := Text.lowered (String.ofList (withoutUnderscores text))
  let (negative, body) ← splitNumber digits.toList
  let size ←
    if String.ofList body == ".inf" then pure (Binary64.infinite false)
    else if String.ofList body == ".nan" then pure Binary64.nan
    else if body.contains ':' then do
      let parts ← (Text.splitAt ':' body).mapM decimalFloat
      sixtieths parts.reverse 1 (Binary64.zero false)
    else decimalFloat body
  return if negative then negated size else size

/-- The spellings of the two flags. -/
def flagSpellings : List (String × Bool) :=
  [("yes", true), ("no", false), ("true", true), ("false", false), ("on", true), ("off", false)]

/-- The flag of a text. -/
def flagOfText (text : String) : Except Fault Bool :=
  let word := Text.lowered text
  match flagSpellings.lookup word with
  | some flag => .ok flag
  | none => .error (.noFlag word)

/-- The moment of a text. -/
def momentOfText (text : String) : Except Fault Moment :=
  match Timestamp.read? text.toList with
  | some timestamp => timestamp.toMoment.mapError .moment
  | none => .error .noMoment

/-- The value of a digit of octets in text form. -/
def base64Value? (c : Char) : Option Nat :=
  if 'A' ≤ c && c ≤ 'Z' then some (c.toNat - 65)
  else if 'a' ≤ c && c ≤ 'z' then some (c.toNat - 71)
  else if '0' ≤ c && c ≤ '9' then some (c.toNat + 4)
  else if c == '+' then some 62
  else if c == '/' then some 63
  else none

/-- The octets of digits of six bits, four digits for three octets. -/
def octetsOfDigits : List Nat → List Nat
  | a :: b :: c :: d :: rest =>
      (4 * a + b / 16) :: (16 * (b % 16) + c / 4) :: (64 * (c % 4) + d) :: octetsOfDigits rest
  | [a, b, c] => [4 * a + b / 16, 16 * (b % 16) + c / 4]
  | [a, b] => [4 * a + b / 16]
  | _ => []

/-- The octets of a text; characters that are no digits are passed over, and the padding
completes the last group. -/
def octetsOfText (text : String) : Except Fault (List Nat) :=
  let cs := text.toList
  let digits := (cs.takeWhile (· != '=')).filterMap base64Value?
  let padding := (cs.filter (· == '=')).length
  if cs.any fun c => 128 ≤ c.toNat then .error .untaggable
  else if digits.length % 4 == 0 || (digits.length % 4 != 1 && 4 ≤ digits.length % 4 + padding) then
    .ok (octetsOfDigits digits)
  else .error .untaggable

/-- The value of a scalar. -/
def scalarValue : Tag → String → Except Fault Value
  | .scalar .null, _ => .ok .null
  | .scalar .bool, text => (flagOfText text).map .bool
  | .scalar .int, text => (intOfText text).map .int
  | .scalar .float, text => (floatOfText text).map .float
  | .scalar .moment, text => (momentOfText text).map .moment
  | .scalar .text, text => .ok (.text text)
  | .octets, text => (octetsOfText text).map .octets
  | _, _ => .error .untaggable

end EnvConcord.Document.Yaml
