import EnvConcord.Number.Binary64

/-!
# The shortest decimal text of a double

The digits printed are the fewest that read back as the same double; of two
such decimals the nearer one, of two equally near ones the even one.
-/

namespace EnvConcord.Binary64

/-- A decimal `0.d₁d₂… * 10 ^ point` by its digits and the place of its point. -/
structure Decimal where
  digits : List Char
  point : Int
  deriving DecidableEq, Repr

/-- `value * 10 ^ exponent` as a ratio. -/
def scaleTen (value : Nat) (exponent : Int) : Nat × Nat :=
  match exponent with
  | .ofNat e => (value * Nat.pow 10 e, 1)
  | .negSucc e => (value, Nat.pow 10 (e + 1))

/-- The open or closed interval of the reals that round to a finite number, in
quarters of its unit. -/
structure Neighbourhood where
  low : Nat
  value : Nat
  high : Nat
  closed : Bool

/-- The neighbourhood of a mantissa: half a unit on both sides, and a quarter
below a power of two. -/
def neighbourhood (mantissa : Nat) (exponent : Int) : Neighbourhood where
  low := if mantissa = hiddenBit ∧ minExponent < exponent then 4 * mantissa - 1 else 4 * mantissa - 2
  value := 4 * mantissa
  high := 4 * mantissa + 2
  closed := mantissa % 2 == 0

/-- The ratio `quarters * 2 ^ (exponent - 2)`. -/
def quarterRatio (quarters : Nat) (exponent : Int) : Nat × Nat :=
  match exponent - 2 with
  | .ofNat e => (quarters * Nat.pow 2 e, 1)
  | .negSucc e => (quarters, Nat.pow 2 (e + 1))

/-- Whether the first ratio is below the second. -/
def ratioLess (a b : Nat × Nat) : Bool := a.1 * b.2 < b.1 * a.2

/-- The distance of two ratios. -/
def ratioGap (a b : Nat × Nat) : Nat × Nat :=
  let x := a.1 * b.2
  let y := b.1 * a.2
  (if x < y then y - x else x - y, a.2 * b.2)

/-- Whether `count * 10 ^ place` rounds to the number. -/
def Neighbourhood.holds (near : Neighbourhood) (exponent : Int) (count : Nat) (place : Int) :
    Bool :=
  let candidate := scaleTen count place
  let low := quarterRatio near.low exponent
  let high := quarterRatio near.high exponent
  if near.closed then !ratioLess candidate low && !ratioLess high candidate
  else ratioLess low candidate && ratioLess candidate high

/-- The multiple of `10 ^ place` that rounds to the number and lies nearest to it. -/
def Neighbourhood.pick? (near : Neighbourhood) (exponent : Int) (place : Int) : Option Nat :=
  let value := quarterRatio near.value exponent
  let unit := scaleTen 1 place
  let below := value.1 * unit.2 / (value.2 * unit.1)
  let above := below + 1
  match near.holds exponent below place, near.holds exponent above place with
  | true, true =>
      let gapBelow := ratioGap value (scaleTen below place)
      let gapAbove := ratioGap value (scaleTen above place)
      if ratioLess gapBelow gapAbove then some below
      else if ratioLess gapAbove gapBelow then some above
      else some (if below % 2 = 0 then below else above)
  | true, false => some below
  | false, true => some above
  | false, false => none

/-- Try grids of `size`, `size + 1`, … digits, at most `fuel` of them. -/
def Neighbourhood.search (near : Neighbourhood) (exponent : Int) (point : Int) :
    Nat → Nat → Decimal
  | 0, _ => ⟨['0'], 1⟩
  | fuel + 1, size =>
      match near.pick? exponent (point - size) with
      | some count =>
          let written := Nat.toDigits 10 count
          let trimmed := (written.reverse.dropWhile (· == '0')).reverse
          ⟨trimmed, point - size + written.length⟩
      | none => near.search exponent point fuel (size + 1)

/-- The shortest decimal of a positive finite number. -/
def shortest (mantissa : Nat) (exponent : Int) : Decimal :=
  if mantissa = 0 then ⟨['0'], 1⟩
  else
    let near := neighbourhood mantissa exponent
    let value := quarterRatio near.value exponent
    let point : Int := (Nat.toDigits 10 (value.1 * Nat.pow 10 350 / value.2)).length - 350
    near.search exponent point 17 1

/-- How a decimal is laid out: positionally from `10 ^ -4` up to `10 ^ 16`, with
an exponent of at least two digits outside; an integral value ends in `.0`. -/
def Decimal.layout (d : Decimal) : List Char :=
  let size : Int := d.digits.length
  if d.point ≤ -4 ∨ 16 < d.point then
    let exponent := d.point - 1
    let power := Nat.toDigits 10 exponent.natAbs
    let power := if power.length < 2 then '0' :: power else power
    let fraction := d.digits.drop 1
    d.digits.take 1 ++ (if fraction.isEmpty then [] else '.' :: fraction) ++
      ['e', if exponent < 0 then '-' else '+'] ++ power
  else if d.point ≤ 0 then
    ['0', '.'] ++ List.replicate (-d.point).toNat '0' ++ d.digits
  else if size ≤ d.point then
    d.digits ++ List.replicate (d.point - size).toNat '0' ++ ['.', '0']
  else
    d.digits.take d.point.toNat ++ ['.'] ++ d.digits.drop d.point.toNat

/-- The text of a double. -/
def render : Binary64 → String
  | .finite negative mantissa exponent =>
      (if negative then "-" else "") ++ String.ofList (shortest mantissa exponent).layout
  | .infinite negative => if negative then "-inf" else "inf"
  | .nan => "nan"

end EnvConcord.Binary64
