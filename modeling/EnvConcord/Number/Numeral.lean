import EnvConcord.Number.Binary64
import EnvConcord.Text.Digits

/-!
# Numerals

A numeral is a written number: a sign, an integral part, and perhaps a fraction
and an exponent.  A numeral without fraction and exponent denotes an integer,
any other the double nearest to the decimal it writes.
-/

namespace EnvConcord

/-- The parts of a written number. -/
structure Numeral where
  negative : Bool
  integral : List Char
  /-- The digits behind the point, if there is a point. -/
  fraction : Option (List Char) := none
  /-- The sign and the digits of the exponent, if there is one. -/
  exponent : Option (Bool × List Char) := none
  deriving DecidableEq, Repr

/-- An integer with more digits than are converted, on the way from its numeral or to it. -/
inductive TooManyDigits
  | reading (digits : Nat)
  | writing
  deriving DecidableEq, Repr

/-- The explanation of the limit. -/
def TooManyDigits.message (cause : TooManyDigits) : String :=
  let found :=
    match cause with
    | .reading digits => ": value has " ++ toString digits ++ " digits"
    | .writing => ""
  "Exceeds the limit (4300 digits) for integer string conversion" ++ found ++
    "; use sys.set_int_max_str_digits() to increase the limit"

namespace Numeral

/-- The greatest number of digits of an integer that is converted. -/
def digitLimit : Nat := 4300

/-- Whether an integer has more digits than are written. -/
def isLong (n : Int) : Bool := digitLimit < (Nat.toDigits 10 n.natAbs).length

/-- An optional sign and what follows it. -/
def splitSign : List Char → Bool × List Char
  | '-' :: rest => (true, rest)
  | '+' :: rest => (false, rest)
  | rest => (false, rest)

/-- The exponent at the end of a numeral, or nothing at all. -/
def readExponent? : List Char → Option (Option (Bool × List Char))
  | [] => some none
  | mark :: rest =>
      if mark == 'e' || mark == 'E' then
        let (negative, digits) := splitSign rest
        if !digits.isEmpty && digits.all Text.isDigit then some (some (negative, digits))
        else none
      else none

/-- Read a text as a numeral, with at least one digit before or behind the point. -/
def read? (cs : List Char) : Option Numeral :=
  let (negative, body) := splitSign cs
  let integral := body.takeWhile Text.isDigit
  match body.dropWhile Text.isDigit with
  | '.' :: rest =>
      let fraction := rest.takeWhile Text.isDigit
      if integral.isEmpty && fraction.isEmpty then none
      else
        (readExponent? (rest.dropWhile Text.isDigit)).map fun exponent =>
          { negative, integral, fraction := some fraction, exponent }
  | rest =>
      if integral.isEmpty then none
      else (readExponent? rest).map fun exponent => { negative, integral, exponent }

/-- Whether the numeral has neither point nor exponent. -/
def isIntegral (n : Numeral) : Bool := n.fraction.isNone && n.exponent.isNone

/-- The integer of a sign and digits, unless the digits are too many. -/
def toInt (negative : Bool) (digits : List Char) : Except TooManyDigits Int :=
  if digitLimit < digits.length then .error (.reading digits.length)
  else
    let magnitude : Int := Text.digitsValue digits
    .ok (if negative then -magnitude else magnitude)

/-- The double nearest to the decimal that the numeral writes. -/
def toBinary64 (n : Numeral) : Binary64 :=
  let fraction := n.fraction.getD []
  let exponent : Int :=
    match n.exponent with
    | some (negative, digits) =>
        let size : Int := Text.digitsValue digits
        if negative then -size else size
    | none => 0
  Binary64.ofDecimal n.negative (Text.digitsValue (n.integral ++ fraction))
    (exponent - fraction.length)

/-- The number that a numeral denotes. -/
def toNumber (n : Numeral) : Except TooManyDigits Number :=
  if n.isIntegral then (toInt n.negative n.integral).map .int
  else .ok (.float n.toBinary64)

end Numeral

end EnvConcord
