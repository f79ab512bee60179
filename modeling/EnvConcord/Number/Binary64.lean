import EnvConcord.Number.Rounding

/-!
# Double-precision numbers by their exact value

A `Binary64` is a signed integer times a power of two, an infinity, or the
undefined value.  Rounding a ratio, comparing and printing are done in exact
integer arithmetic.
-/

namespace EnvConcord

/-- A double-precision number. A finite one is `± mantissa * 2 ^ exponent`. -/
inductive Binary64
  | finite (negative : Bool) (mantissa : Nat) (exponent : Int)
  | infinite (negative : Bool)
  | nan
  deriving DecidableEq, Repr, Inhabited

namespace Binary64

/-- The least exponent of a finite number. -/
def minExponent : Int := -1074

/-- The greatest exponent of a finite number. -/
def maxExponent : Int := 971

/-- The least mantissa of a normal number. -/
def hiddenBit : Nat := Nat.pow 2 52

/-- Zero with a sign. -/
def zero (negative : Bool) : Binary64 := .finite negative 0 minExponent

/-- A ratio divided by a power of two, as a ratio. -/
def scaleRatio (numerator denominator : Nat) (exponent : Int) : Nat × Nat :=
  match exponent with
  | .ofNat e => (numerator, denominator * Nat.pow 2 e)
  | .negSucc e => (numerator * Nat.pow 2 (e + 1), denominator)

/-- The double-precision number nearest to a ratio of positive denominator. -/
def ofRatio (negative : Bool) (numerator denominator : Nat) : Binary64 :=
  if numerator = 0 then zero negative
  else
    let guess := max ((numerator.log2 : Int) - denominator.log2 - 52) minExponent
    let scaled := scaleRatio numerator denominator guess
    let exponent :=
      if scaled.1 / scaled.2 < hiddenBit then max (guess - 1) minExponent else guess
    let scaled := scaleRatio numerator denominator exponent
    let mantissa := Number.roundHalfEven scaled.1 scaled.2
    let settled := if mantissa = 2 * hiddenBit then (hiddenBit, exponent + 1) else (mantissa, exponent)
    if maxExponent < settled.2 then .infinite negative
    else .finite negative settled.1 settled.2

/-- The double-precision number nearest to `± digits * 10 ^ exponent`. -/
def ofDecimal (negative : Bool) (digits : Nat) (exponent : Int) : Binary64 :=
  let size : Int := (Nat.toDigits 10 digits).length
  if digits = 0 then zero negative
  else if 310 < size + exponent then .infinite negative
  else if size + exponent < -330 then zero negative
  else
    match exponent with
    | .ofNat e => ofRatio negative (digits * Nat.pow 10 e) 1
    | .negSucc e => ofRatio negative digits (Nat.pow 10 (e + 1))

/-- Whether the number is neither infinite nor undefined. -/
def isFinite : Binary64 → Bool
  | .finite .. => true
  | _ => false

/-- A finite number as a signed ratio. -/
def ratio (negative : Bool) (mantissa : Nat) (exponent : Int) : Int × Nat :=
  let signed : Int := if negative then -(mantissa : Int) else mantissa
  match exponent with
  | .ofNat e => (signed * Nat.pow 2 e, 1)
  | .negSucc e => (signed, Nat.pow 2 (e + 1))

/-- The integer that a number equals, if it equals one. -/
def toInt? : Binary64 → Option Int
  | .finite negative mantissa exponent =>
      let value := ratio negative mantissa exponent
      if value.1 % value.2 = 0 then some (value.1 / value.2) else none
  | _ => none

/-- Whether the number is zero, of either sign. -/
def isZero : Binary64 → Bool
  | .finite _ mantissa _ => mantissa == 0
  | _ => false

end Binary64

/-- A number of a document: an integer of any size, or a double. -/
inductive Number
  | int (value : Int)
  | float (value : Binary64)
  deriving DecidableEq, Repr, Inhabited

namespace Number

/-- Where a number lies: at an infinity, or at a signed ratio. -/
inductive Place
  | below
  | at (numerator : Int) (denominator : Nat)
  | above

/-- The place of a number; the undefined value has none. -/
def place? : Number → Option Place
  | .int value => some (.at value 1)
  | .float (.finite negative mantissa exponent) =>
      let value := Binary64.ratio negative mantissa exponent
      some (.at value.1 value.2)
  | .float (.infinite negative) => some (if negative then .below else .above)
  | .float .nan => none

/-- Strict order of places. -/
def Place.before : Place → Place → Bool
  | .below, .below => false
  | .below, _ => true
  | .above, _ => false
  | .at .., .below => false
  | .at .., .above => true
  | .at a b, .at c d => decide (a * d < c * b)

/-- Strict order of numbers; nothing is below or above the undefined value. -/
def less (x y : Number) : Bool :=
  match x.place?, y.place? with
  | some a, some b => a.before b
  | _, _ => false

/-- Equality of value: an integer equals the double of the same value. -/
def same (x y : Number) : Bool :=
  match x.place?, y.place? with
  | some a, some b => !a.before b && !b.before a
  | _, _ => false

end Number

end EnvConcord
