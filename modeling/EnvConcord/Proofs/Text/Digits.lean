import EnvConcord.Text.Digits
import Mathlib.Data.List.DropRight
import Mathlib.Tactic.Ring

/-!
# Numbers as digits

The number that a run of digits writes, and the digits that a number is written with.  Zeros
behind digits count as factors of ten, and the first digit of a positive number is no zero.
A number of sixteen bits is written with four hexadecimal digits.
-/

namespace EnvConcord.Text

/-- A decimal digit of the first script is worth what its place among the ten says. -/
theorem digitValue?_of_isDigit {c : Char} (digit : c.isDigit = true) :
    digitValue? c = some (c.toNat - 48) := by
  have bounds : 48 ≤ c.toNat ∧ c.toNat ≤ 57 := by
    simpa [Char.isDigit, UInt32.le_iff_toNat_le] using digit
  have small : c.toNat < 0x660 := by omega
  simp [digitValue?, small, bounds]

theorem isDigit_of_isDigit {c : Char} (digit : c.isDigit = true) : isDigit c = true := by
  rw [isDigit, digitValue?_of_isDigit digit]
  rfl

theorem digitsValue_append (first second : List Char) :
    digitsValue (first ++ second) =
      10 ^ second.length * digitsValue first + digitsValue second := by
  induction second using List.reverseRecOn with
  | nil => simp [digitsValue]
  | append_singleton second c ih =>
      have step (cs : List Char) :
          digitsValue (cs ++ [c]) = 10 * digitsValue cs + (digitValue? c).getD 0 := by
        simp [digitsValue]
      rw [← List.append_assoc, step, step, ih, List.length_append, List.length_singleton]
      ring

/-- Digits of the first script write the number that the library reads from them. -/
theorem digitsValue_eq_ofDigitChars {cs : List Char} (digits : ∀ c ∈ cs, c.isDigit = true) :
    digitsValue cs = Nat.ofDigitChars 10 cs 0 := by
  rw [digitsValue, Nat.ofDigitChars_eq_foldl]
  apply List.foldl_ext
  intro total c mem
  rw [digitValue?_of_isDigit (digits c mem)]
  rfl

theorem digitsValue_replicate_zero (n : Nat) : digitsValue (List.replicate n '0') = 0 := by
  rw [digitsValue_eq_ofDigitChars fun c mem => by rw [List.eq_of_mem_replicate mem]; decide,
    Nat.ofDigitChars_replicate_zero, Nat.mul_zero]

theorem isDigit_of_mem_toDigits {n : Nat} {c : Char} (mem : c ∈ Nat.toDigits 10 n) :
    c.isDigit = true :=
  Nat.isDigit_of_mem_toDigits (by decide) (by decide) mem

/-- The digits of a number write it. -/
theorem digitsValue_toDigits (n : Nat) : digitsValue (Nat.toDigits 10 n) = n := by
  rw [digitsValue_eq_ofDigitChars fun c mem => isDigit_of_mem_toDigits mem,
    Nat.ofDigitChars_ten_toDigits]

/-- A positive number lies between two powers of ten by the length of its digits. -/
theorem length_toDigits_bounds {n : Nat} (positive : 0 < n) :
    10 ^ ((Nat.toDigits 10 n).length - 1) ≤ n ∧ n < 10 ^ (Nat.toDigits 10 n).length := by
  have length_pos : 0 < (Nat.toDigits 10 n).length := Nat.length_toDigits_pos
  constructor
  · rcases Nat.eq_or_lt_of_le (Nat.succ_le_of_lt length_pos) with one | more
    · rw [← one]
      exact positive
    · have shorter := Nat.length_toDigits_le_iff (b := 10) (n := n)
        (k := (Nat.toDigits 10 n).length - 1) (by decide) (by omega)
      by_contra less
      have bound := shorter.2 (not_le.1 less)
      omega
  · exact (Nat.length_toDigits_le_iff (by decide) length_pos).1 le_rfl

/-- The first digit of a positive number is no zero. -/
theorem head?_toDigits_ne_zero {n : Nat} (positive : 0 < n) :
    (Nat.toDigits 10 n).head? ≠ some '0' := by
  induction n using Nat.strongRecOn with
  | ind n ih =>
      rcases Nat.lt_or_ge n 10 with small | large
      · have single : ∀ digit < 10, 0 < digit → [digit.digitChar].head? ≠ some '0' := by decide
        rw [Nat.toDigits_of_lt_base small]
        exact single n small positive
      · have smaller := ih (n / 10) (Nat.div_lt_self positive (by decide)) (by omega)
        rwa [Nat.toDigits_of_base_le (by decide) large,
          List.head?_append_of_ne_nil _ Nat.toDigits_ne_nil]

/-- The digits of a number without the zeros at their end. -/
theorem exists_toDigits_eq_append_zeros (n : Nat) :
    ∃ zeros, Nat.toDigits 10 n =
      (Nat.toDigits 10 n).rdropWhile (· == '0') ++ List.replicate zeros '0' := by
  have cut := (List.takeWhile_append_dropWhile (p := (· == '0'))
    (l := (Nat.toDigits 10 n).reverse)).symm
  refine ⟨((Nat.toDigits 10 n).reverse.takeWhile (· == '0')).length, ?_⟩
  have all_zeros : (Nat.toDigits 10 n).reverse.takeWhile (· == '0') =
      List.replicate ((Nat.toDigits 10 n).reverse.takeWhile (· == '0')).length '0' := by
    rw [List.eq_replicate_iff]
    refine ⟨rfl, fun c mem => ?_⟩
    simpa using List.mem_takeWhile_imp mem
  rw [all_zeros] at cut
  have reversed := congrArg List.reverse cut
  rwa [List.reverse_reverse, List.reverse_append, List.reverse_replicate] at reversed

/-! ## Hexadecimal digits -/

theorem hexValue?_digitChar {digit : Nat} (small : digit < 16) :
    hexValue? digit.digitChar = some digit := by
  have all : ∀ digit < 16, hexValue? digit.digitChar = some digit := by decide
  exact all digit small

/-- A number of sixteen bits is written with four digits. -/
theorem hexDigits_four {code : Nat} (small : code < 0x10000) :
    hexDigits 4 code =
      [(code / 4096).digitChar, (code / 256 % 16).digitChar, (code / 16 % 16).digitChar,
        (code % 16).digitChar] := by
  have step (n : Nat) : Nat.toDigits 16 n =
      if n < 16 then [n.digitChar] else Nat.toDigits 16 (n / 16) ++ [(n % 16).digitChar] :=
    Nat.toDigits_eq_if (by decide)
  have zero : (0 : Nat).digitChar = '0' := rfl
  have second : code / 16 / 16 = code / 256 := by omega
  have third : code / 256 / 16 = code / 4096 := by omega
  have fourth : code / 4096 < 16 := by omega
  rw [hexDigits, step code]
  split
  next one =>
    simp [Nat.mod_eq_of_lt one, zero, (by omega : code / 4096 = 0), (by omega : code / 256 = 0),
      (by omega : code / 16 = 0)]
  next more_than_one =>
    rw [step (code / 16)]
    split
    next two =>
      simp [Nat.mod_eq_of_lt two, zero, (by omega : code / 4096 = 0), (by omega : code / 256 = 0)]
    next more_than_two =>
      rw [second, step (code / 256)]
      split
      next three =>
        simp [Nat.mod_eq_of_lt three, zero, (by omega : code / 4096 = 0)]
      next =>
        rw [third, step (code / 4096), if_pos fourth]
        simp

end EnvConcord.Text
