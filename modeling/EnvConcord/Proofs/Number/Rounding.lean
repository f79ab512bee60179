import EnvConcord.Number.Shortest
import EnvConcord.Proofs.Text.Digits
import Mathlib.Algebra.Order.Field.Power
import Mathlib.Tactic.FieldSimp
import Mathlib.Tactic.Linarith
import Mathlib.Tactic.NormNum
import Mathlib.Tactic.Positivity
import Mathlib.Tactic.Ring

/-!
# Rounding to doubles

The finite doubles are the multiples of a power of two by a mantissa of at most 53 bits, with the
exponent as small as the mantissa allows.  A ratio rounds to a double exactly where the double's
neighbourhood says so, so that any decimal in that neighbourhood is read as the double.
-/

namespace EnvConcord

/-! ## Ratios as rational numbers -/

/-- The rational number that a ratio stands for. -/
def ratioValue (ratio : Nat × Nat) : ℚ := ratio.1 / ratio.2

namespace Number

/-- A ratio rounds to an integer that is at most a half away, at a half only to an even one. -/
theorem roundHalfEven_eq {ratio : Nat × Nat} (positive : 0 < ratio.2) {nearest : Nat}
    (low : (nearest : ℚ) - 1 / 2 ≤ ratioValue ratio) (high : ratioValue ratio ≤ nearest + 1 / 2)
    (tie : nearest % 2 = 0 ∨
      (nearest : ℚ) - 1 / 2 < ratioValue ratio ∧ ratioValue ratio < nearest + 1 / 2) :
    roundHalfEven ratio.1 ratio.2 = nearest := by
  obtain ⟨n, d⟩ := ratio
  have d_pos : (0 : ℚ) < d := by exact_mod_cast positive
  simp only [ratioValue, le_div_iff₀ d_pos, div_le_iff₀ d_pos, lt_div_iff₀ d_pos,
    div_lt_iff₀ d_pos] at low high tie
  -- The bounds in natural numbers, with the ratio cut into quotient and remainder.
  have low_nat : 2 * (nearest * d) ≤ 2 * n + d := by
    exact_mod_cast (by linarith : (2 : ℚ) * (nearest * d) ≤ 2 * n + d)
  have high_nat : 2 * n ≤ 2 * (nearest * d) + d := by
    exact_mod_cast (by linarith : (2 : ℚ) * n ≤ 2 * (nearest * d) + d)
  have tie_nat :
      nearest % 2 = 0 ∨ 2 * (nearest * d) < 2 * n + d ∧ 2 * n < 2 * (nearest * d) + d := by
    refine tie.imp_right fun strict => ⟨?_, ?_⟩
    · exact_mod_cast (by linarith [strict.1] : (2 : ℚ) * (nearest * d) < 2 * n + d)
    · exact_mod_cast (by linarith [strict.2] : (2 : ℚ) * n < 2 * (nearest * d) + d)
  have cut := Nat.div_add_mod n d
  have small : n % d < d := Nat.mod_lt n positive
  rw [Nat.mul_comm] at cut
  have at_most {k : Nat} (less : n / d * d < nearest * d + k * d) : n / d < nearest + k :=
    Nat.lt_of_mul_lt_mul_right (by rwa [Nat.add_mul])
  have at_least {k : Nat} (less : nearest * d < n / d * d + k * d) : nearest < n / d + k :=
    Nat.lt_of_mul_lt_mul_right (by rwa [Nat.add_mul])
  simp only [roundHalfEven]
  split
  next =>
    have upper := at_most (k := 1) (by omega)
    have lower := at_least (k := 1) (by omega)
    omega
  next =>
    split
    next =>
      have upper := at_most (k := 0) (by omega)
      have lower := at_least (k := 2) (by omega)
      omega
    next =>
      have upper := at_most (k := 1) (by omega)
      have lower := at_least (k := 2) (by omega)
      rcases tie_nat with even | ⟨above, under⟩
      · omega
      · have beyond := at_most (k := 0) (by omega)
        have short := at_least (k := 1) (by omega)
        omega

end Number

namespace Binary64

theorem hiddenBit_eq : hiddenBit = 2 ^ 52 := rfl

/-- The mantissas and exponents of the finite doubles. -/
structure IsDouble (mantissa : Nat) (exponent : Int) : Prop where
  least : minExponent ≤ exponent
  greatest : exponent ≤ maxExponent
  below : mantissa < 2 * hiddenBit
  normal : hiddenBit ≤ mantissa ∨ exponent = minExponent

theorem ratioValue_scaleRatio (numerator denominator : Nat) (exponent : Int) :
    ratioValue (scaleRatio numerator denominator exponent) =
      ratioValue (numerator, denominator) / 2 ^ exponent := by
  cases exponent with
  | ofNat e =>
      simp only [ratioValue, scaleRatio, Nat.pow_eq, Int.ofNat_eq_natCast, zpow_natCast]
      push_cast
      rw [div_div]
  | negSucc e =>
      simp only [ratioValue, scaleRatio, Nat.pow_eq, zpow_negSucc]
      push_cast
      rw [div_inv_eq_mul]
      ring

theorem scaleRatio_pos {numerator denominator : Nat} (positive : 0 < denominator)
    (exponent : Int) : 0 < (scaleRatio numerator denominator exponent).2 := by
  cases exponent with
  | ofNat e => exact Nat.mul_pos positive (Nat.pow_pos (by decide))
  | negSucc e => exact positive

theorem ratioValue_quarterRatio (quarters : Nat) (exponent : Int) :
    ratioValue (quarterRatio quarters exponent) = quarters * 2 ^ (exponent - 2) := by
  rw [quarterRatio]
  cases exponent - 2 with
  | ofNat e => simp [ratioValue, Nat.pow_eq]
  | negSucc e => simp [ratioValue, Nat.pow_eq, zpow_negSucc, div_eq_mul_inv]

theorem quarterRatio_pos (quarters : Nat) (exponent : Int) :
    0 < (quarterRatio quarters exponent).2 := by
  rw [quarterRatio]
  cases exponent - 2 with
  | ofNat e => exact Nat.one_pos
  | negSucc e => exact Nat.pow_pos (by decide)

theorem ratioValue_scaleTen (value : Nat) (exponent : Int) :
    ratioValue (scaleTen value exponent) = value * 10 ^ exponent := by
  cases exponent with
  | ofNat e => simp [ratioValue, scaleTen, Nat.pow_eq]
  | negSucc e => simp [ratioValue, scaleTen, Nat.pow_eq, zpow_negSucc, div_eq_mul_inv]

theorem scaleTen_pos (value : Nat) (exponent : Int) : 0 < (scaleTen value exponent).2 := by
  cases exponent with
  | ofNat e => exact Nat.one_pos
  | negSucc e => exact Nat.pow_pos (by decide)

theorem ratioLess_iff {a b : Nat × Nat} (a_pos : 0 < a.2) (b_pos : 0 < b.2) :
    ratioLess a b = true ↔ ratioValue a < ratioValue b := by
  have left : (0 : ℚ) < a.2 := by exact_mod_cast a_pos
  have right : (0 : ℚ) < b.2 := by exact_mod_cast b_pos
  rw [ratioLess, decide_eq_true_iff, ratioValue, ratioValue, div_lt_div_iff₀ left right]
  exact_mod_cast Iff.rfl

/-! ## Neighbourhoods -/

/-- The rational numbers between the bounds of a neighbourhood. -/
def Neighbourhood.Contains (near : Neighbourhood) (exponent : Int) (x : ℚ) : Prop :=
  near.low * 2 ^ (exponent - 2) ≤ x ∧ x ≤ near.high * 2 ^ (exponent - 2) ∧
    (near.closed = true ∨
      near.low * 2 ^ (exponent - 2) < x ∧ x < near.high * 2 ^ (exponent - 2))

/-- The test of a decimal is whether its value lies between the bounds. -/
theorem Neighbourhood.holds_iff (near : Neighbourhood) (exponent : Int) (count : Nat)
    (place : Int) :
    near.holds exponent count place = true ↔ near.Contains exponent (count * 10 ^ place) := by
  have candidate_pos := scaleTen_pos count place
  have low_pos := quarterRatio_pos near.low exponent
  have high_pos := quarterRatio_pos near.high exponent
  have below := ratioLess_iff candidate_pos low_pos
  have above := ratioLess_iff high_pos candidate_pos
  have beyond_low := ratioLess_iff low_pos candidate_pos
  have beyond_high := ratioLess_iff candidate_pos high_pos
  simp only [ratioValue_scaleTen, ratioValue_quarterRatio] at below above beyond_low beyond_high
  rw [Neighbourhood.holds, Neighbourhood.Contains]
  cases near.closed with
  | true =>
      simp only [if_true, Bool.and_eq_true, Bool.not_eq_true', ← Bool.not_eq_true, below, above,
        not_lt, true_or, and_true]
  | false =>
      simp only [Bool.false_eq_true, if_false, Bool.and_eq_true, beyond_low, beyond_high, false_or]
      exact ⟨fun strict => ⟨strict.1.le, strict.2.le, strict⟩, fun strict => strict.2.2⟩

/-! ## Exponents -/

/-- The exponent that a double of the size of a value has. -/
structure IsExponent (x : ℚ) (exponent : Int) : Prop where
  least : minExponent ≤ exponent
  below : x < 2 ^ 53 * 2 ^ exponent
  above : 2 ^ 52 * 2 ^ exponent ≤ x ∨ exponent = minExponent

theorem IsExponent.le {x : ℚ} {e f : Int} (first : IsExponent x e) (second : IsExponent x f) :
    e ≤ f := by
  by_contra more
  rcases first.above with above | least
  · have step : (2 : ℚ) ^ (f + 1) ≤ 2 ^ e := zpow_le_zpow_right₀ (by norm_num) (by omega)
    rw [zpow_add_one₀ (by norm_num)] at step
    have below := second.below
    linarith
  · have second_least := second.least
    omega

/-- A value has one exponent. -/
theorem IsExponent.unique {x : ℚ} {e f : Int} (first : IsExponent x e) (second : IsExponent x f) :
    e = f :=
  le_antisymm (first.le second) (second.le first)

/-- The lengths of numerator and denominator tell the size of a ratio up to a factor of four. -/
theorem ratioValue_bounds {numerator denominator : Nat} (numerator_pos : 0 < numerator)
    (denominator_pos : 0 < denominator) :
    (2 : ℚ) ^ ((numerator.log2 : Int) - denominator.log2 - 1) <
        ratioValue (numerator, denominator) ∧
      ratioValue (numerator, denominator) <
        2 ^ ((numerator.log2 : Int) - denominator.log2 + 1) := by
  have n_low : (2 : ℚ) ^ numerator.log2 ≤ numerator := by
    exact_mod_cast Nat.log2_self_le numerator_pos.ne'
  have n_high : (numerator : ℚ) < 2 ^ (numerator.log2 + 1) := by
    exact_mod_cast Nat.lt_log2_self
  have d_low : (2 : ℚ) ^ denominator.log2 ≤ denominator := by
    exact_mod_cast Nat.log2_self_le denominator_pos.ne'
  have d_high : (denominator : ℚ) < 2 ^ (denominator.log2 + 1) := by
    exact_mod_cast Nat.lt_log2_self
  have d_pos : (0 : ℚ) < denominator := by exact_mod_cast denominator_pos
  rw [ratioValue, lt_div_iff₀ d_pos, div_lt_iff₀ d_pos]
  constructor
  · calc (2 : ℚ) ^ ((numerator.log2 : Int) - denominator.log2 - 1) * denominator
        < 2 ^ ((numerator.log2 : Int) - denominator.log2 - 1) * 2 ^ (denominator.log2 + 1) := by
          gcongr
      _ = 2 ^ numerator.log2 := by
          rw [← zpow_natCast, ← zpow_natCast, ← zpow_add₀ (by norm_num)]
          congr 1
          push_cast
          ring
      _ ≤ numerator := n_low
  · calc (numerator : ℚ) < 2 ^ (numerator.log2 + 1) := n_high
      _ = 2 ^ ((numerator.log2 : Int) - denominator.log2 + 1) * 2 ^ denominator.log2 := by
          rw [← zpow_natCast, ← zpow_natCast, ← zpow_add₀ (by norm_num)]
          congr 1
          push_cast
          ring
      _ ≤ 2 ^ ((numerator.log2 : Int) - denominator.log2 + 1) * denominator := by
          gcongr

section Ratios

variable {numerator denominator : Nat}

/-- The test that settles the exponent compares the ratio with a power of two. -/
theorem scaleRatio_lt_hiddenBit_iff (positive : 0 < denominator) (exponent : Int) :
    (scaleRatio numerator denominator exponent).1 / (scaleRatio numerator denominator exponent).2 <
        hiddenBit ↔ ratioValue (numerator, denominator) < 2 ^ 52 * 2 ^ exponent := by
  have scaled_pos : 0 < (scaleRatio numerator denominator exponent).2 :=
    scaleRatio_pos positive exponent
  have cast_pos : (0 : ℚ) < (scaleRatio numerator denominator exponent).2 := by
    exact_mod_cast scaled_pos
  rw [← div_lt_iff₀ (by positivity), ← ratioValue_scaleRatio, ratioValue, div_lt_iff₀ cast_pos,
    Nat.div_lt_iff_lt_mul scaled_pos, hiddenBit_eq]
  exact_mod_cast Iff.rfl

/-- The exponent that rounding settles on, for a ratio that is not zero. -/
def settledExponent (numerator denominator : Nat) : Int :=
  let guess := max ((numerator.log2 : Int) - denominator.log2 - 52) minExponent
  let scaled := scaleRatio numerator denominator guess
  if scaled.1 / scaled.2 < hiddenBit then max (guess - 1) minExponent else guess

theorem isExponent_settledExponent (numerator_pos : 0 < numerator)
    (denominator_pos : 0 < denominator) :
    IsExponent (ratioValue (numerator, denominator)) (settledExponent numerator denominator) := by
  obtain ⟨lower, upper⟩ := ratioValue_bounds numerator_pos denominator_pos
  simp only [settledExponent, scaleRatio_lt_hiddenBit_iff denominator_pos]
  generalize ratioValue (numerator, denominator) = x at *
  generalize (numerator.log2 : Int) - denominator.log2 = size at *
  have capped : x < 2 ^ 53 * 2 ^ max (size - 52) minExponent := by
    calc x < 2 ^ (size + 1) := upper
      _ ≤ 2 ^ (53 + max (size - 52) minExponent) := by
          apply zpow_le_zpow_right₀ (by norm_num)
          omega
      _ = 2 ^ 53 * 2 ^ max (size - 52) minExponent := by
          rw [zpow_add₀ (by norm_num)]
          norm_num
  split
  next small =>
    rcases le_or_gt (size - 52) minExponent with least | more
    · rw [max_eq_right least, max_eq_right (by omega)]
      rw [max_eq_right least] at capped
      exact ⟨le_rfl, capped, Or.inr rfl⟩
    · rw [max_eq_left more.le] at small ⊢
      rw [max_eq_left (by omega)]
      have halved : (2 : ℚ) ^ (size - 52) = 2 ^ (size - 52 - 1) * 2 := by
        rw [← zpow_add_one₀ (by norm_num)]
        congr 1
        ring
      have base : (2 : ℚ) ^ (size - 1) = 2 ^ 52 * 2 ^ (size - 52 - 1) := by
        rw [← zpow_natCast, ← zpow_add₀ (by norm_num)]
        congr 1
        push_cast
        ring
      rw [halved] at small
      rw [base] at lower
      exact ⟨by omega, by linarith, Or.inl lower.le⟩
  next large =>
    exact ⟨le_max_right _ _, capped, Or.inl (not_lt.1 large)⟩

/-- Rounding a ratio, by the exponent of its value. -/
theorem ofRatio_of_isExponent {exponent : Int} (negative : Bool) (numerator_pos : 0 < numerator)
    (denominator_pos : 0 < denominator)
    (sized : IsExponent (ratioValue (numerator, denominator)) exponent) :
    ofRatio negative numerator denominator =
      let scaled := scaleRatio numerator denominator exponent
      let mantissa := Number.roundHalfEven scaled.1 scaled.2
      let settled :=
        if mantissa = 2 * hiddenBit then (hiddenBit, exponent + 1) else (mantissa, exponent)
      if maxExponent < settled.2 then .infinite negative
      else .finite negative settled.1 settled.2 := by
  obtain rfl := sized.unique (isExponent_settledExponent numerator_pos denominator_pos)
  rw [ofRatio, if_neg numerator_pos.ne']
  rfl

end Ratios

/-! ## Doubles by their neighbourhoods -/

section Neighbourhoods

variable {mantissa : Nat} {exponent : Int} {x : ℚ}

theorem two_mul_hiddenBit_eq : ((2 * hiddenBit : Nat) : ℚ) = 2 ^ 53 := by
  rw [hiddenBit_eq]
  norm_num

theorem neighbourhood_low_ge (positive : 0 < mantissa) :
    (4 * mantissa - 2 : ℚ) ≤ (neighbourhood mantissa exponent).low := by
  have bound : 4 * mantissa ≤ (neighbourhood mantissa exponent).low + 2 := by
    simp only [neighbourhood]
    split <;> omega
  have cast_bound : (4 * mantissa : ℚ) ≤ (neighbourhood mantissa exponent).low + 2 := by
    exact_mod_cast bound
  linarith

/-- The bounds of a neighbourhood in units of the double. -/
theorem bounds_of_contains (positive : 0 < mantissa)
    (near : (neighbourhood mantissa exponent).Contains exponent x) :
    (mantissa - 1 / 2 : ℚ) ≤ x / 2 ^ exponent ∧ x / 2 ^ exponent ≤ mantissa + 1 / 2 ∧
      (mantissa % 2 = 0 ∨
        (mantissa - 1 / 2 : ℚ) < x / 2 ^ exponent ∧ x / 2 ^ exponent < mantissa + 1 / 2) := by
  obtain ⟨low, high, inside⟩ := near
  have unit_pos : (0 : ℚ) < 2 ^ exponent := by positivity
  have quarter : (2 : ℚ) ^ (exponent - 2) = 2 ^ exponent / 4 := by
    rw [zpow_sub₀ (by norm_num)]
    norm_num
  have low_ge : (4 * mantissa - 2 : ℚ) ≤ (neighbourhood mantissa exponent).low :=
    neighbourhood_low_ge positive
  have low_bound := mul_le_mul_of_nonneg_right low_ge unit_pos.le
  have high_eq : ((neighbourhood mantissa exponent).high : ℚ) = 4 * mantissa + 2 := by
    simp [neighbourhood]
  rw [quarter] at low high inside
  rw [high_eq] at high inside
  refine ⟨?_, ?_, inside.imp (fun even => ?_) fun strict => ⟨?_, ?_⟩⟩
  · rw [le_div_iff₀ unit_pos]
    linarith
  · rw [div_le_iff₀ unit_pos]
    linarith
  · simpa [neighbourhood] using even
  · rw [lt_div_iff₀ unit_pos]
    linarith [strict.1]
  · rw [div_lt_iff₀ unit_pos]
    linarith [strict.2]

/-- Below a power of two the neighbourhood is half as wide. -/
theorem low_of_contains (binade : minExponent < exponent)
    (near : (neighbourhood hiddenBit exponent).Contains exponent x) :
    (hiddenBit - 1 / 4 : ℚ) ≤ x / 2 ^ exponent := by
  have unit_pos : (0 : ℚ) < 2 ^ exponent := by positivity
  have quarter : (2 : ℚ) ^ (exponent - 2) = 2 ^ exponent / 4 := by
    rw [zpow_sub₀ (by norm_num)]
    norm_num
  have low_eq : ((neighbourhood hiddenBit exponent).low : ℚ) = 4 * hiddenBit - 1 := by
    simp only [neighbourhood, binade, and_self, if_true]
    rw [Nat.cast_sub (by decide)]
    push_cast
    ring
  have low := near.1
  rw [quarter, low_eq] at low
  rw [le_div_iff₀ unit_pos]
  linarith

/-- A value near a double has the exponent of the double, or the one below where the double is a
power of two and the value is less. -/
theorem isExponent_of_contains (double : IsDouble mantissa exponent) (positive : 0 < mantissa)
    (near : (neighbourhood mantissa exponent).Contains exponent x) :
    IsExponent x exponent ∨
      mantissa = hiddenBit ∧ minExponent < exponent ∧ x / 2 ^ exponent < hiddenBit ∧
        IsExponent x (exponent - 1) := by
  have unit_pos : (0 : ℚ) < 2 ^ exponent := by positivity
  obtain ⟨low, high, -⟩ := bounds_of_contains positive near
  have bit : (hiddenBit : ℚ) = 2 ^ 52 := by
    rw [hiddenBit_eq]
    norm_num
  have below : x < 2 ^ 53 * 2 ^ exponent := by
    have most : (mantissa : ℚ) + 1 ≤ 2 * hiddenBit := by exact_mod_cast double.below
    rw [← div_lt_iff₀ unit_pos]
    rw [bit] at most
    linarith
  by_cases above : 2 ^ 52 * 2 ^ exponent ≤ x ∨ exponent = minExponent
  · exact Or.inl ⟨double.least, below, above⟩
  · rw [not_or, not_le, ← div_lt_iff₀ unit_pos] at above
    obtain ⟨under, more⟩ := above
    have least := double.least
    have binade : minExponent < exponent := by omega
    have power : mantissa = hiddenBit := by
      have enough := double.normal.resolve_right more
      have few : (mantissa : ℚ) < hiddenBit + 1 := by
        rw [bit]
        linarith
      have few_nat : mantissa < hiddenBit + 1 := by exact_mod_cast few
      omega
    subst power
    have near_low := low_of_contains binade near
    have halved : (2 : ℚ) ^ exponent = 2 ^ (exponent - 1) * 2 := by
      rw [← zpow_add_one₀ (by norm_num)]
      congr 1
      ring
    refine Or.inr ⟨rfl, binade, bit ▸ under, ⟨by omega, ?_, Or.inl ?_⟩⟩
    · rw [div_lt_iff₀ unit_pos, halved] at under
      linarith
    · rw [bit, le_div_iff₀ unit_pos, halved] at near_low
      have half_pos : (0 : ℚ) < 2 ^ (exponent - 1) := by positivity
      linarith

/-- A ratio in the neighbourhood of a double rounds to it. -/
theorem ofRatio_eq {numerator denominator : Nat} (negative : Bool)
    (double : IsDouble mantissa exponent) (positive : 0 < mantissa)
    (denominator_pos : 0 < denominator)
    (near : (neighbourhood mantissa exponent).Contains exponent
      (ratioValue (numerator, denominator))) :
    ofRatio negative numerator denominator = .finite negative mantissa exponent := by
  have unit_pos : (0 : ℚ) < 2 ^ exponent := by positivity
  obtain ⟨low, high, tie⟩ := bounds_of_contains positive near
  have numerator_pos : 0 < numerator := by
    have one : (1 : ℚ) ≤ mantissa := by exact_mod_cast positive
    have value_pos : 0 < ratioValue (numerator, denominator) / 2 ^ exponent := by linarith
    rw [Nat.pos_iff_ne_zero]
    rintro rfl
    simp [ratioValue] at value_pos
  have not_beyond : ¬maxExponent < exponent := by
    have greatest := double.greatest
    omega
  rcases isExponent_of_contains double positive near with sized | ⟨rfl, binade, under, sized⟩
  · have rounded : Number.roundHalfEven (scaleRatio numerator denominator exponent).1
        (scaleRatio numerator denominator exponent).2 = mantissa := by
      apply Number.roundHalfEven_eq (scaleRatio_pos denominator_pos exponent) <;>
        rwa [ratioValue_scaleRatio]
    have plain : mantissa ≠ 2 * hiddenBit := double.below.ne
    rw [ofRatio_of_isExponent negative numerator_pos denominator_pos sized]
    simp only [rounded, plain, if_false, not_beyond]
  · -- The value lies below the power of two; rounding takes it up to the next exponent.
    have halved : (2 : ℚ) ^ exponent = 2 ^ (exponent - 1) * 2 := by
      rw [← zpow_add_one₀ (by norm_num)]
      congr 1
      ring
    have near_low := low_of_contains binade near
    rw [halved, div_mul_eq_div_div, ← ratioValue_scaleRatio] at near_low under
    have rounded : Number.roundHalfEven (scaleRatio numerator denominator (exponent - 1)).1
        (scaleRatio numerator denominator (exponent - 1)).2 = 2 * hiddenBit := by
      apply Number.roundHalfEven_eq (scaleRatio_pos denominator_pos (exponent - 1))
      · push_cast
        linarith
      · push_cast
        linarith
      · exact Or.inl (by decide)
    rw [ofRatio_of_isExponent negative numerator_pos denominator_pos sized]
    simp only [rounded, if_true, sub_add_cancel, not_beyond, if_false]

theorem half_least_gt : (10 : ℚ) ^ (-330 : Int) < 1 / 2 * 2 ^ minExponent := by
  have powers : (2 : Nat) * 2 ^ 1074 < 10 ^ 330 := by decide +kernel
  have cast_powers : (2 : ℚ) * 2 ^ 1074 < 10 ^ 330 := by exact_mod_cast powers
  have least : (2 : ℚ) ^ minExponent = (2 ^ 1074)⁻¹ := by
    rw [minExponent, zpow_neg, zpow_ofNat]
  have bound : (10 : ℚ) ^ (-330 : Int) = (10 ^ 330)⁻¹ := by
    rw [zpow_neg, zpow_ofNat]
  rw [least, bound, one_div, ← mul_inv]
  exact inv_strictAnti₀ (by positivity) cast_powers

theorem beyond_greatest_lt : (2 : ℚ) ^ 53 * 2 ^ maxExponent < 10 ^ (310 : Int) := by
  have powers : (2 : Nat) ^ 53 * 2 ^ 971 < 10 ^ 310 := by decide +kernel
  have cast_powers : (2 : ℚ) ^ 53 * 2 ^ 971 < 10 ^ 310 := by exact_mod_cast powers
  rw [maxExponent, zpow_ofNat, zpow_ofNat]
  exact cast_powers

/-- A value near a double is within the range of doubles. -/
theorem range_of_contains (double : IsDouble mantissa exponent) (positive : 0 < mantissa)
    (near : (neighbourhood mantissa exponent).Contains exponent x) :
    (10 : ℚ) ^ (-330 : Int) < x ∧ x < 10 ^ (310 : Int) := by
  have unit_pos : (0 : ℚ) < 2 ^ exponent := by positivity
  obtain ⟨low, high, -⟩ := bounds_of_contains positive near
  rw [le_div_iff₀ unit_pos] at low
  rw [div_le_iff₀ unit_pos] at high
  have one : (1 : ℚ) ≤ mantissa := by exact_mod_cast positive
  have most : (mantissa : ℚ) + 1 ≤ 2 ^ 53 := by
    rw [← two_mul_hiddenBit_eq]
    exact_mod_cast double.below
  have smallest : (2 : ℚ) ^ minExponent ≤ 2 ^ exponent :=
    zpow_le_zpow_right₀ (by norm_num) double.least
  have largest : (2 : ℚ) ^ exponent ≤ 2 ^ maxExponent :=
    zpow_le_zpow_right₀ (by norm_num) double.greatest
  constructor
  · calc (10 : ℚ) ^ (-330 : Int) < 1 / 2 * 2 ^ minExponent := half_least_gt
      _ ≤ 1 / 2 * 2 ^ exponent := by gcongr
      _ ≤ (mantissa - 1 / 2) * 2 ^ exponent := by
          gcongr
          linarith
      _ ≤ x := low
  · calc x ≤ (mantissa + 1 / 2) * 2 ^ exponent := high
      _ ≤ 2 ^ 53 * 2 ^ maxExponent := by
          gcongr
          linarith
      _ < 10 ^ (310 : Int) := beyond_greatest_lt

/-- The sizes of a decimal that is neither too large nor too small. -/
theorem size_of_range {digits : Nat} {place : Int} (positive : 0 < digits)
    (low : (10 : ℚ) ^ (-330 : Int) < digits * 10 ^ place)
    (high : (digits * 10 ^ place : ℚ) < 10 ^ (310 : Int)) :
    ((Nat.toDigits 10 digits).length : Int) + place ≤ 310 ∧
      -330 ≤ ((Nat.toDigits 10 digits).length : Int) + place := by
  obtain ⟨at_least, below⟩ := Text.length_toDigits_bounds positive
  have length_pos : 0 < (Nat.toDigits 10 digits).length := Nat.length_toDigits_pos
  generalize (Nat.toDigits 10 digits).length = size at *
  have unit_pos : (0 : ℚ) < 10 ^ place := by positivity
  constructor
  · have bound : (10 : ℚ) ^ ((size : Int) - 1 + place) < 10 ^ (310 : Int) := by
      calc (10 : ℚ) ^ ((size : Int) - 1 + place) = 10 ^ (size - 1) * 10 ^ place := by
            rw [zpow_add₀ (by norm_num), ← zpow_natCast, Nat.cast_sub length_pos]
            rfl
        _ ≤ digits * 10 ^ place := by
            gcongr
            exact_mod_cast at_least
        _ < 10 ^ (310 : Int) := high
    have exponents := (zpow_lt_zpow_iff_right₀ (by norm_num : (1 : ℚ) < 10)).1 bound
    omega
  · have bound : (10 : ℚ) ^ (-330 : Int) < 10 ^ ((size : Int) + place) := by
      calc (10 : ℚ) ^ (-330 : Int) < digits * 10 ^ place := low
        _ ≤ 10 ^ size * 10 ^ place := by
            gcongr
            exact_mod_cast below.le
        _ = 10 ^ ((size : Int) + place) := by rw [zpow_add₀ (by norm_num), zpow_natCast]
    have exponents := (zpow_lt_zpow_iff_right₀ (by norm_num : (1 : ℚ) < 10)).1 bound
    omega

/-- A decimal in the neighbourhood of a double is read as the double. -/
theorem ofDecimal_eq {digits : Nat} {place : Int} (negative : Bool)
    (double : IsDouble mantissa exponent) (positive : 0 < mantissa)
    (near : (neighbourhood mantissa exponent).Contains exponent (digits * 10 ^ place)) :
    ofDecimal negative digits place = .finite negative mantissa exponent := by
  obtain ⟨low, high⟩ := range_of_contains double positive near
  have digits_pos : 0 < digits := by
    rw [Nat.pos_iff_ne_zero]
    rintro rfl
    have least : (0 : ℚ) < 10 ^ (-330 : Int) := by positivity
    simp only [Nat.cast_zero, zero_mul] at low
    linarith
  obtain ⟨small, large⟩ := size_of_range digits_pos low high
  have ratio_eq : ofDecimal negative digits place =
      ofRatio negative (scaleTen digits place).1 (scaleTen digits place).2 := by
    simp only [ofDecimal, digits_pos.ne', not_lt.2 small, not_lt.2 large, if_false]
    cases place <;> rfl
  rw [ratio_eq]
  apply ofRatio_eq negative double positive (scaleTen_pos digits place)
  rwa [ratioValue_scaleTen]

theorem ofDecimal_zero (negative : Bool) (place : Int) :
    ofDecimal negative 0 place = zero negative := rfl

end Neighbourhoods

end Binary64

end EnvConcord
