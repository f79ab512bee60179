import EnvConcord.Proofs.Number.Rounding

/-!
# Shortest decimals

The decimal that a double is printed as lies in the neighbourhood of the double.  One of at most
seventeen digits always does: between two neighbouring multiples of so fine a unit there is no
room for all the values that round to the double.
-/

namespace EnvConcord.Binary64

/-! ## Decimals -/

/-- The value of a decimal. -/
def Decimal.value (d : Decimal) : ℚ :=
  Text.digitsValue d.digits * 10 ^ (d.point - d.digits.length)

/-- What holds of the digits of every decimal that is printed: they begin with no zero unless
they are the one digit of zero itself. -/
structure Decimal.IsPlain (d : Decimal) : Prop where
  digits : ∀ c ∈ d.digits, c.isDigit = true
  ne_nil : d.digits ≠ []
  leading : d.digits.head? = some '0' → d.digits = ['0'] ∧ d.point = 1

/-- A multiple of a power of ten as a decimal, without zeros at its end. -/
def decimalOf (count : Nat) (place : Int) : Decimal where
  digits := (Nat.toDigits 10 count).rdropWhile (· == '0')
  point := place + (Nat.toDigits 10 count).length

section DecimalOf

variable {count : Nat} {place : Int}

theorem isPlain_decimalOf (positive : 0 < count) : (decimalOf count place).IsPlain := by
  obtain ⟨zeros, cut⟩ := Text.exists_toDigits_eq_append_zeros count
  have first := Text.head?_toDigits_ne_zero positive
  have ne_nil : (Nat.toDigits 10 count).rdropWhile (· == '0') ≠ [] := by
    intro nothing
    rw [nothing, List.nil_append] at cut
    cases zeros with
    | zero => exact Nat.toDigits_ne_nil cut
    | succ zeros =>
        rw [cut] at first
        exact first rfl
  refine ⟨fun c mem => ?_, ne_nil, fun leading => ?_⟩
  · exact Text.isDigit_of_mem_toDigits ((List.rdropWhile_prefix _ _).subset mem)
  · rw [cut, List.head?_append_of_ne_nil _ ne_nil] at first
    exact absurd leading first

theorem value_decimalOf (count : Nat) (place : Int) :
    (decimalOf count place).value = count * 10 ^ place := by
  obtain ⟨zeros, cut⟩ := Text.exists_toDigits_eq_append_zeros count
  have digits_eq := congrArg Text.digitsValue cut
  have length_eq := congrArg List.length cut
  rw [Text.digitsValue_toDigits, Text.digitsValue_append, Text.digitsValue_replicate_zero,
    List.length_replicate, Nat.add_zero] at digits_eq
  rw [List.length_append, List.length_replicate] at length_eq
  calc (decimalOf count place).value
      = Text.digitsValue ((Nat.toDigits 10 count).rdropWhile (· == '0')) *
          10 ^ (zeros + place : Int) := by
        rw [Decimal.value, decimalOf, length_eq]
        congr 2
        push_cast
        ring
    _ = (10 ^ zeros * Text.digitsValue ((Nat.toDigits 10 count).rdropWhile (· == '0')) : Nat) *
          10 ^ place := by
        rw [zpow_add₀ (by norm_num), zpow_natCast]
        push_cast
        ring
    _ = count * 10 ^ place := by rw [← digits_eq]

end DecimalOf

/-! ## The search -/

section Search

variable {near : Neighbourhood} {exponent place point : Int} {count : Nat}

theorem Neighbourhood.contains_of_pick? (picked : near.pick? exponent place = some count) :
    near.Contains exponent (count * 10 ^ place) := by
  rw [← Neighbourhood.holds_iff]
  simp only [Neighbourhood.pick?] at picked
  split at picked
  next below above =>
    split at picked
    · obtain rfl := Option.some.inj picked
      exact below
    · split at picked
      · obtain rfl := Option.some.inj picked
        exact above
      · obtain rfl := Option.some.inj picked
        split
        · exact below
        · exact above
  next below _ =>
    obtain rfl := Option.some.inj picked
    exact below
  next _ above =>
    obtain rfl := Option.some.inj picked
    exact above
  next => contradiction

/-- The multiple of a power of ten next below the value of a neighbourhood. -/
def Neighbourhood.floor (near : Neighbourhood) (exponent place : Int) : Nat :=
  let value := quarterRatio near.value exponent
  let unit := scaleTen 1 place
  value.1 * unit.2 / (value.2 * unit.1)

/-- The value lies between the two multiples that are tried. -/
theorem Neighbourhood.floor_bounds (near : Neighbourhood) (exponent place : Int) :
    (near.floor exponent place * 10 ^ place : ℚ) ≤ near.value * 2 ^ (exponent - 2) ∧
      (near.value * 2 ^ (exponent - 2) : ℚ) <
        (near.floor exponent place + 1 : Nat) * 10 ^ place := by
  have value_pos := quarterRatio_pos near.value exponent
  have unit_pos := scaleTen_pos 1 place
  have unit_eq := ratioValue_scaleTen 1 place
  have value_eq := ratioValue_quarterRatio near.value exponent
  have unit_top : 0 < (scaleTen 1 place).1 := by
    cases place with
    | ofNat e => exact Nat.mul_pos Nat.one_pos (Nat.pow_pos (by decide))
    | negSucc e => exact Nat.one_pos
  rw [Nat.cast_one, one_mul] at unit_eq
  rw [← unit_eq, ← value_eq, ratioValue, ratioValue, floor]
  generalize quarterRatio near.value exponent = value at *
  generalize scaleTen 1 place = unit at *
  have value_cast : (0 : ℚ) < value.2 := by exact_mod_cast value_pos
  have unit_cast : (0 : ℚ) < unit.2 := by exact_mod_cast unit_pos
  have low := Nat.div_mul_le_self (value.1 * unit.2) (value.2 * unit.1)
  have high := Nat.lt_mul_div_succ (value.1 * unit.2) (Nat.mul_pos value_pos unit_top)
  generalize value.1 * unit.2 / (value.2 * unit.1) = count at *
  have low_cast : (count * (value.2 * unit.1) : ℚ) ≤ value.1 * unit.2 := by exact_mod_cast low
  have high_cast : (value.1 * unit.2 : ℚ) < value.2 * unit.1 * (count + 1 : Nat) := by
    exact_mod_cast high
  rw [← mul_div_assoc, ← mul_div_assoc, div_le_div_iff₀ unit_cast value_cast,
    div_lt_div_iff₀ value_cast unit_cast]
  constructor <;> linarith

/-- One of the two multiples that are tried is picked if it lies in the neighbourhood. -/
theorem Neighbourhood.isSome_pick?
    (found : near.Contains exponent (near.floor exponent place * 10 ^ place) ∨
      near.Contains exponent ((near.floor exponent place + 1 : Nat) * 10 ^ place)) :
    (near.pick? exponent place).isSome := by
  rw [← Neighbourhood.holds_iff, ← Neighbourhood.holds_iff] at found
  simp only [Neighbourhood.pick?]
  split
  next => split <;> [rfl; split <;> rfl]
  next => rfl
  next => rfl
  next below above =>
    rw [floor] at found
    simp_all

/-- A search that comes by a grid with a multiple in the neighbourhood ends with such a
multiple. -/
theorem Neighbourhood.search_spec {fuel size reached : Nat} (from_size : size ≤ reached)
    (in_time : reached < size + fuel)
    (picks : (near.pick? exponent (point - reached)).isSome) :
    ∃ (count : Nat) (place : Int), near.Contains exponent (count * 10 ^ place) ∧
      near.search exponent point fuel size = decimalOf count place := by
  induction fuel generalizing size with
  | zero => omega
  | succ fuel ih =>
      rw [Neighbourhood.search]
      cases picked : near.pick? exponent (point - size) with
      | some count =>
          exact ⟨count, point - size, contains_of_pick? picked, rfl⟩
      | none =>
          have later : size ≠ reached := by
            rintro rfl
            rw [picked] at picks
            contradiction
          exact ih (by omega) (by omega)

end Search

/-! ## Shortest decimals -/

section Shortest

variable {mantissa : Nat} {exponent : Int}

theorem neighbourhood_value (mantissa : Nat) (exponent : Int) :
    ((neighbourhood mantissa exponent).value * 2 ^ (exponent - 2) : ℚ) =
      mantissa * 2 ^ exponent := by
  rw [zpow_sub₀ (by norm_num), neighbourhood]
  push_cast
  ring

/-- The place of the point of a double. -/
def pointOf (mantissa : Nat) (exponent : Int) : Int :=
  let value := quarterRatio (neighbourhood mantissa exponent).value exponent
  (Nat.toDigits 10 (value.1 * Nat.pow 10 350 / value.2)).length - 350

theorem one_le_least_mul : (1 : ℚ) ≤ 2 ^ minExponent * 10 ^ 350 := by
  have powers : (2 : Nat) ^ 1074 ≤ 10 ^ 350 := by decide +kernel
  have cast_powers : (2 : ℚ) ^ 1074 ≤ 10 ^ 350 := by exact_mod_cast powers
  rw [minExponent, zpow_neg, zpow_ofNat, inv_mul_eq_div, le_div_iff₀ (by positivity), one_mul]
  exact cast_powers

/-- The digits of a ratio's integral part, at so many places behind its point, tell its size. -/
theorem pow_size_le {ratio : Nat × Nat} (positive : 0 < ratio.2) {places : Nat}
    (scaled : 1 ≤ ratioValue ratio * 10 ^ places) :
    (10 : ℚ) ^ (((Nat.toDigits 10 (ratio.1 * Nat.pow 10 places / ratio.2)).length : Int) -
      places - 1) ≤ ratioValue ratio := by
  have denominator_pos : (0 : ℚ) < ratio.2 := by exact_mod_cast positive
  rw [Nat.pow_eq]
  rw [ratioValue, div_mul_eq_mul_div, le_div_iff₀ denominator_pos, one_mul] at scaled
  have enough : ratio.2 ≤ ratio.1 * 10 ^ places := by exact_mod_cast scaled
  have whole_pos : 0 < ratio.1 * 10 ^ places / ratio.2 := Nat.div_pos enough positive
  have whole_le := Nat.div_mul_le_self (ratio.1 * 10 ^ places) ratio.2
  obtain ⟨size_le, -⟩ := Text.length_toDigits_bounds whole_pos
  have size_pos : 0 < (Nat.toDigits 10 (ratio.1 * 10 ^ places / ratio.2)).length :=
    Nat.length_toDigits_pos
  generalize (Nat.toDigits 10 (ratio.1 * 10 ^ places / ratio.2)).length = size at *
  have shifted : (10 : ℚ) ^ ((size : Int) - places - 1) = 10 ^ (size - 1) / 10 ^ places := by
    rw [eq_div_iff (by positivity), ← zpow_natCast, ← zpow_natCast, ← zpow_add₀ (by norm_num)]
    congr 1
    push_cast [Nat.cast_sub size_pos]
    ring
  rw [shifted, ratioValue, div_le_div_iff₀ (by positivity) denominator_pos]
  exact_mod_cast (Nat.mul_le_mul_right ratio.2 size_le).trans whole_le

/-- A double is not less than the power of ten in front of its point. -/
theorem pow_pointOf_le (double : IsDouble mantissa exponent) (positive : 0 < mantissa) :
    (10 : ℚ) ^ (pointOf mantissa exponent - 1) ≤ mantissa * 2 ^ exponent := by
  have value_eq := ratioValue_quarterRatio (neighbourhood mantissa exponent).value exponent
  rw [neighbourhood_value] at value_eq
  rw [← value_eq]
  apply pow_size_le (quarterRatio_pos _ exponent)
  have one : (1 : ℚ) ≤ mantissa := by exact_mod_cast positive
  have smallest : (2 : ℚ) ^ minExponent ≤ 2 ^ exponent :=
    zpow_le_zpow_right₀ (by norm_num) double.least
  calc (1 : ℚ) ≤ 2 ^ minExponent * 10 ^ 350 := one_le_least_mul
    _ ≤ 2 ^ exponent * 10 ^ 350 := by gcongr
    _ ≤ mantissa * 2 ^ exponent * 10 ^ 350 := by
        gcongr
        exact le_mul_of_one_le_left (by positivity) one
    _ = ratioValue (quarterRatio (neighbourhood mantissa exponent).value exponent) * 10 ^ 350 := by
        rw [value_eq]

theorem contains_of_lt {near : Neighbourhood} {x : ℚ} (low : near.low * 2 ^ (exponent - 2) < x)
    (high : x < near.high * 2 ^ (exponent - 2)) : near.Contains exponent x :=
  ⟨low.le, high.le, Or.inr ⟨low, high⟩⟩

/-- A fine enough unit is less than the width of the neighbourhood of a double, which reaches half
a unit of the double upwards. -/
theorem gap_below {place : Int} (double : IsDouble mantissa exponent) (positive : 0 < mantissa)
    (fine : (10 : ℚ) ^ place * 10 ^ 16 ≤ mantissa * 2 ^ exponent) :
    ∃ gap : ℚ, 0 < gap ∧ ((neighbourhood mantissa exponent).low : ℚ) = 4 * mantissa - gap ∧
      (10 : ℚ) ^ place < (2 + gap) * 2 ^ (exponent - 2) := by
  have unit_pos : (0 : ℚ) < 2 ^ (exponent - 2) := by positivity
  have value_eq := neighbourhood_value mantissa exponent
  have quarters : (mantissa * 2 ^ exponent : ℚ) = 4 * mantissa * 2 ^ (exponent - 2) := by
    rw [← value_eq]
    simp [neighbourhood]
  rw [quarters] at fine
  by_cases power : mantissa = hiddenBit ∧ minExponent < exponent
  · refine ⟨1, by norm_num, ?_, ?_⟩
    · simp only [neighbourhood, power, and_self, if_true]
      rw [Nat.cast_sub (by decide)]
      push_cast
      ring
    · have bit : (mantissa : ℚ) = 2 ^ 52 := by
        rw [power.1, hiddenBit_eq]
        norm_num
      rw [bit] at fine
      linarith
  · refine ⟨2, by norm_num, ?_, ?_⟩
    · simp only [neighbourhood, power, if_false]
      rw [Nat.cast_sub (by omega)]
      push_cast
      ring
    · have most : (mantissa : ℚ) ≤ 2 ^ 53 := by
        rw [← two_mul_hiddenBit_eq]
        exact_mod_cast double.below.le
      have scaled := mul_le_mul_of_nonneg_right most unit_pos.le
      linarith

/-- One of the two multiples of a fine enough unit lies in the neighbourhood of a double. -/
theorem contains_floor_or_next {place : Int} (double : IsDouble mantissa exponent)
    (positive : 0 < mantissa) (fine : (10 : ℚ) ^ place * 10 ^ 16 ≤ mantissa * 2 ^ exponent) :
    (neighbourhood mantissa exponent).Contains exponent
        ((neighbourhood mantissa exponent).floor exponent place * 10 ^ place) ∨
      (neighbourhood mantissa exponent).Contains exponent
        (((neighbourhood mantissa exponent).floor exponent place + 1 : Nat) * 10 ^ place) := by
  obtain ⟨below, above⟩ := (neighbourhood mantissa exponent).floor_bounds exponent place
  obtain ⟨gap, gap_pos, low_eq, room⟩ := gap_below double positive fine
  have high_eq : ((neighbourhood mantissa exponent).high : ℚ) = 4 * mantissa + 2 := by
    simp [neighbourhood]
  have value_eq : ((neighbourhood mantissa exponent).value : ℚ) = 4 * mantissa := by
    simp [neighbourhood]
  have unit_pos : (0 : ℚ) < 2 ^ (exponent - 2) := by positivity
  have gap_quarters : 0 < gap * 2 ^ (exponent - 2) := mul_pos gap_pos unit_pos
  rw [value_eq] at below above
  rw [Nat.cast_add_one, add_mul, one_mul] at above
  -- Either the lower multiple is near enough, or the upper one is, as the unit has no room for
  -- both to be too far away.
  by_cases near : 4 * mantissa * 2 ^ (exponent - 2) -
      (neighbourhood mantissa exponent).floor exponent place * 10 ^ place <
        gap * 2 ^ (exponent - 2)
  · left
    apply contains_of_lt
    · rw [low_eq]
      linarith
    · rw [high_eq]
      linarith
  · right
    apply contains_of_lt
    · rw [low_eq]
      push_cast
      linarith
    · rw [high_eq]
      push_cast
      linarith

/-- The shortest decimal of a double lies in its neighbourhood. -/
theorem shortest_spec (double : IsDouble mantissa exponent) (positive : 0 < mantissa) :
    (shortest mantissa exponent).IsPlain ∧
      (neighbourhood mantissa exponent).Contains exponent (shortest mantissa exponent).value := by
  have fine : (10 : ℚ) ^ (pointOf mantissa exponent - (17 : Nat)) * 10 ^ 16 ≤
      mantissa * 2 ^ exponent := by
    have shifted : (10 : ℚ) ^ (pointOf mantissa exponent - (17 : Nat)) * 10 ^ 16 =
        10 ^ (pointOf mantissa exponent - 1) := by
      rw [← zpow_natCast, ← zpow_add₀ (by norm_num)]
      congr 1
      push_cast
      ring
    rw [shifted]
    exact pow_pointOf_le double positive
  have picks := Neighbourhood.isSome_pick? (contains_floor_or_next double positive fine)
  obtain ⟨count, place, near, found⟩ : ∃ (count : Nat) (place : Int),
      (neighbourhood mantissa exponent).Contains exponent (count * 10 ^ place) ∧
        (neighbourhood mantissa exponent).search exponent (pointOf mantissa exponent) 17 1 =
          decimalOf count place :=
    Neighbourhood.search_spec (by decide) (by decide) picks
  have shortest_eq : shortest mantissa exponent = decimalOf count place := by
    rw [shortest, if_neg positive.ne']
    exact found
  have count_pos : 0 < count := by
    obtain ⟨low, -⟩ := range_of_contains double positive near
    rw [Nat.pos_iff_ne_zero]
    rintro rfl
    have least : (0 : ℚ) < 10 ^ (-330 : Int) := by positivity
    simp only [Nat.cast_zero, zero_mul] at low
    linarith
  rw [shortest_eq, value_decimalOf]
  exact ⟨isPlain_decimalOf count_pos, near⟩

end Shortest

end EnvConcord.Binary64
