import EnvConcord.Text.Digits

/-!
# Labels in ASCII form

A label with characters beyond ASCII is written as its ASCII characters followed by
insertions: each insertion advances a counter of code point and place by a number in
a variable base.
-/

namespace EnvConcord.Url.Punycode

/-- The value of a digit: letters come before decimal digits. -/
def digit? (c : Char) : Option Nat :=
  if 'a' ≤ c && c ≤ 'z' then some (c.toNat - 97)
  else if 'A' ≤ c && c ≤ 'Z' then some (c.toNat - 65)
  else if '0' ≤ c && c ≤ '9' then some (c.toNat - 22)
  else none

/-- Reduce a delta until the digits' thresholds fit it. -/
def reduceDelta : Nat → Nat → Nat → Nat × Nat
  | 0, delta, k => (delta, k)
  | fuel + 1, delta, k =>
      if 455 < delta then reduceDelta fuel (delta / 35) (k + 36) else (delta, k)

/-- The bias for the next insertion. -/
def adapt (delta points : Nat) (first : Bool) : Nat :=
  let delta := if first then delta / 700 else delta / 2
  let (delta, k) := reduceDelta 32 (delta + delta / points) 0
  k + 36 * delta / (delta + 38)

/-- The threshold of a digit's place. -/
def threshold (k bias : Nat) : Nat :=
  if k ≤ bias + 1 then 1 else if bias + 26 ≤ k then 26 else k - bias

/-- Read a number in the variable base; the answer is the number and what follows. -/
def readDelta? (bias : Nat) (k weight value : Nat) : List Char → Option (Nat × List Char)
  | [] => none
  | c :: rest =>
      match digit? c with
      | none => none
      | some digit =>
          let value := value + digit * weight
          let limit := threshold k bias
          if Nat.pow 2 32 ≤ value then none
          else if digit < limit then some (value, rest)
          else readDelta? bias (k + 36) (weight * (36 - limit)) value rest

/-- Carry out the insertions on a label; `index` and `code` are the counter. -/
def insertAll : Nat → List Nat → Nat → Nat → Nat → List Char → Option (List Nat)
  | _, label, _, _, _, [] => some label
  | 0, _, _, _, _, _ => none
  | fuel + 1, label, index, code, bias, cs =>
      match readDelta? bias 36 1 0 cs with
      | none => none
      | some (delta, rest) =>
          let size := label.length + 1
          let counter := index + delta
          let code := code + counter / size
          let place := counter % size
          if code.isValidChar then
            insertAll fuel (label.take place ++ code :: label.drop place) (place + 1) code
              (adapt delta size (index == 0 && label.all (· < 128))) rest
          else none

/-- The label that an ASCII form stands for. -/
def decode (cs : List Char) : Option (List Char) :=
  let reversed := cs.reverse
  let tail := (reversed.takeWhile (· != '-')).reverse
  let basic := ((reversed.dropWhile (· != '-')).drop 1).reverse
  let basic := if cs.contains '-' then basic else []
  (insertAll (cs.length + 1) (basic.map Char.toNat) 0 128 72 tail).map fun label =>
    label.map Char.ofNat

end EnvConcord.Url.Punycode
