import EnvConcord.Number.Numeral
import EnvConcord.Proofs.Number.Shortest

/-!
# Numbers as numerals

Integers and doubles are written as numerals, and a written numeral is read back part by part.
The double of a printed numeral is the double that was printed, as the decimal lies in its
neighbourhood.
-/

namespace EnvConcord

/-! ## Written numerals -/

namespace Numeral

/-- The digits behind the point with the point, if there is one. -/
def fractionText : Option (List Char) → List Char
  | none => []
  | some digits => '.' :: digits

/-- The exponent with its mark and its sign, if there is one. -/
def exponentText : Option (Bool × List Char) → List Char
  | none => []
  | some (negative, digits) => 'e' :: (if negative then '-' else '+') :: digits

/-- The text of a numeral. -/
def text (n : Numeral) : List Char :=
  (if n.negative then ['-'] else []) ++ n.integral ++ fractionText n.fraction ++
    exponentText n.exponent

/-- A run of at least one digit. -/
structure IsRun (digits : List Char) : Prop where
  ne_nil : digits ≠ []
  digits : ∀ c ∈ digits, c.isDigit = true

/-- What holds of the numerals that are written: no part is empty, and a zero in front of the
point stands alone. -/
structure IsWritten (n : Numeral) : Prop where
  integral : IsRun n.integral
  leading : n.integral.head? = some '0' → n.integral = ['0']
  fraction : ∀ digits ∈ n.fraction, IsRun digits
  exponent : ∀ part ∈ n.exponent, IsRun part.2

theorem IsRun.takeWhile_append {digits : List Char} (run : IsRun digits) (rest : List Char)
    {p : Char → Bool} (covers : ∀ c, c.isDigit = true → p c = true)
    (ends : ∀ c ∈ rest.head?, p c = false) :
    (digits ++ rest).takeWhile p = digits ∧ (digits ++ rest).dropWhile p = rest := by
  have all (c : Char) (mem : c ∈ digits) : p c = true := covers c (run.digits c mem)
  rw [List.takeWhile_append_of_pos all, List.dropWhile_append_of_pos all]
  cases rest with
  | nil => simp
  | cons c rest =>
      have stop : p c = false := ends c rfl
      simp [stop]

theorem IsRun.all_isDigit {digits : List Char} (run : IsRun digits) :
    digits.all Text.isDigit = true := by
  rw [List.all_eq_true]
  exact fun c mem => Text.isDigit_of_isDigit (run.digits c mem)

/-- A text that begins with a digit has no sign. -/
theorem splitSign_of_isDigit {c : Char} (digit : Text.isDigit c = true) (rest : List Char) :
    splitSign (c :: rest) = (false, c :: rest) := by
  rw [splitSign]
  · rintro later eq
    obtain ⟨rfl, -⟩ := List.cons.inj eq
    contradiction
  · rintro later eq
    obtain ⟨rfl, -⟩ := List.cons.inj eq
    contradiction

theorem splitSign_of_run {digits : List Char} (run : IsRun digits) (rest : List Char) :
    splitSign (digits ++ rest) = (false, digits ++ rest) := by
  obtain ⟨c, more, rfl⟩ := List.exists_cons_of_ne_nil run.ne_nil
  exact splitSign_of_isDigit (Text.isDigit_of_isDigit (run.digits c (by simp))) (more ++ rest)

theorem splitSign_sign {digits : List Char} (run : IsRun digits) (negative : Bool)
    (rest : List Char) :
    splitSign ((if negative then ['-'] else []) ++ (digits ++ rest)) =
      (negative, digits ++ rest) := by
  cases negative with
  | true => rfl
  | false => exact splitSign_of_run run rest

theorem readExponent?_exponentText {exponent : Option (Bool × List Char)}
    (run : ∀ part ∈ exponent, IsRun part.2) :
    readExponent? (exponentText exponent) = some exponent := by
  rcases exponent with - | ⟨negative, digits⟩
  · rfl
  · have part_run : IsRun digits := run (negative, digits) rfl
    have kept : digits.isEmpty = false := by simpa using part_run.ne_nil
    cases negative <;>
      simp [readExponent?, exponentText, splitSign, kept, part_run.all_isDigit]

theorem isDigit_head?_exponentText (exponent : Option (Bool × List Char)) :
    ∀ c ∈ (exponentText exponent).head?, Text.isDigit c = false := by
  rcases exponent with - | ⟨negative, digits⟩
  · simp [exponentText]
  · simp only [exponentText, List.head?_cons, Option.mem_some_iff, forall_eq']
    decide

/-- A written numeral is read part by part. -/
theorem read?_text {n : Numeral} (written : n.IsWritten) : read? n.text = some n := by
  have parted : splitSign n.text =
      (n.negative, n.integral ++ (fractionText n.fraction ++ exponentText n.exponent)) := by
    rw [text, List.append_assoc, List.append_assoc]
    exact splitSign_sign written.integral n.negative _
  have integral_kept : n.integral.isEmpty = false := by simpa using written.integral.ne_nil
  have exponent_read := readExponent?_exponentText written.exponent
  have exponent_ends := isDigit_head?_exponentText n.exponent
  rw [read?, parted]
  obtain ⟨negative, integral, fraction, exponent⟩ := n
  cases fraction with
  | none =>
      obtain ⟨integral_read, rest_eq⟩ := written.integral.takeWhile_append _
        (fun c => Text.isDigit_of_isDigit) exponent_ends
      simp only [fractionText, List.nil_append, integral_read, rest_eq, integral_kept]
      -- An exponent does not begin with a point.
      rcases exponent with - | part
      · rfl
      · exact congrArg (Option.map _) exponent_read
  | some digits =>
      have run := written.fraction digits rfl
      obtain ⟨integral_read, rest_eq⟩ := written.integral.takeWhile_append (p := Text.isDigit)
        ('.' :: (digits ++ exponentText exponent)) (fun c => Text.isDigit_of_isDigit)
        (by simp; decide)
      obtain ⟨digits_read, more_eq⟩ := run.takeWhile_append _
        (fun c => Text.isDigit_of_isDigit) exponent_ends
      simp only [fractionText, List.cons_append, integral_read, rest_eq, integral_kept,
        digits_read, more_eq, exponent_read]
      rfl

/-- The digits of a numeral as a number, without regard to the point. -/
def count (n : Numeral) : Nat := Text.digitsValue (n.integral ++ n.fraction.getD [])

/-- The power of ten that the digits of a numeral count. -/
def place (n : Numeral) : Int :=
  (match n.exponent with
    | some (negative, digits) =>
        let size : Int := Text.digitsValue digits
        if negative then -size else size
    | none => 0) - (n.fraction.getD []).length

theorem toBinary64_eq (n : Numeral) :
    n.toBinary64 = Binary64.ofDecimal n.negative n.count n.place := rfl

end Numeral

/-! ## Printed decimals -/

namespace Binary64

open Numeral

/-- The digits of an exponent, two of them at least. -/
def powerDigits (exponent : Int) : List Char :=
  let power := Nat.toDigits 10 exponent.natAbs
  if power.length < 2 then '0' :: power else power

theorem isRun_powerDigits (exponent : Int) : IsRun (powerDigits exponent) := by
  have digits (c : Char) (mem : c ∈ Nat.toDigits 10 exponent.natAbs) : c.isDigit = true :=
    Text.isDigit_of_mem_toDigits mem
  rw [powerDigits]
  split
  · refine ⟨by simp, fun c mem => ?_⟩
    rcases List.mem_cons.1 mem with rfl | mem
    · decide
    · exact digits c mem
  · exact ⟨Nat.toDigits_ne_nil, digits⟩

theorem digitsValue_zero_cons (digits : List Char) :
    Text.digitsValue ('0' :: digits) = Text.digitsValue digits := by
  have zero : Text.digitsValue ['0'] = 0 := by decide
  rw [← List.singleton_append, Text.digitsValue_append, zero, Nat.mul_zero, Nat.zero_add]

theorem digitsValue_powerDigits (exponent : Int) :
    Text.digitsValue (powerDigits exponent) = exponent.natAbs := by
  rw [powerDigits]
  split
  · rw [digitsValue_zero_cons, Text.digitsValue_toDigits]
  · rw [Text.digitsValue_toDigits]

/-- The numeral that a decimal is laid out as. -/
def Decimal.numeral (negative : Bool) (d : Decimal) : Numeral :=
  if d.point ≤ -4 ∨ 16 < d.point then
    { negative
      integral := d.digits.take 1
      fraction := if (d.digits.drop 1).isEmpty then none else some (d.digits.drop 1)
      exponent := some (decide (d.point - 1 < 0), powerDigits (d.point - 1)) }
  else if d.point ≤ 0 then
    { negative
      integral := ['0']
      fraction := some (List.replicate (-d.point).toNat '0' ++ d.digits) }
  else if (d.digits.length : Int) ≤ d.point then
    { negative
      integral := d.digits ++ List.replicate (d.point - d.digits.length).toNat '0'
      fraction := some ['0'] }
  else
    { negative
      integral := d.digits.take d.point.toNat
      fraction := some (d.digits.drop d.point.toNat) }

theorem Decimal.text_numeral (negative : Bool) (d : Decimal) :
    (d.numeral negative).text = (if negative then ['-'] else []) ++ d.layout := by
  simp only [numeral, layout]
  split
  · cases drop_eq : d.digits.drop 1 <;> simp [text, fractionText, exponentText, powerDigits]
  · split
    · simp [text, fractionText, exponentText]
    · split <;> simp [text, fractionText, exponentText]

section Layout

variable {d : Decimal}

/-- The digits of a decimal and zeros make up a run. -/
theorem Decimal.IsPlain.isRun (plain : d.IsPlain) {cs : List Char} (ne_nil : cs ≠ [])
    (made : ∀ c ∈ cs, c ∈ d.digits ∨ c = '0') : IsRun cs where
  ne_nil := ne_nil
  digits c mem := by
    rcases made c mem with digit | rfl
    · exact plain.digits c digit
    · decide

theorem Decimal.isWritten_numeral (plain : d.IsPlain) (negative : Bool) :
    (d.numeral negative).IsWritten := by
  have some_digit : 0 < d.digits.length := List.length_pos_iff.2 plain.ne_nil
  rw [numeral]
  split
  · refine ⟨plain.isRun ?_ ?_, ?_, ?_, ?_⟩
    · simp [plain.ne_nil]
    · exact fun c mem => Or.inl (List.mem_of_mem_take mem)
    · obtain ⟨c, rest, digits_eq⟩ := List.exists_cons_of_ne_nil plain.ne_nil
      simp [digits_eq]
    · intro digits given
      obtain ⟨nonempty, rfl⟩ : ¬(d.digits.drop 1).isEmpty ∧ d.digits.drop 1 = digits := by
        simpa using given
      exact plain.isRun (by simpa using nonempty) fun c mem => Or.inl (List.mem_of_mem_drop mem)
    · intro part given
      obtain rfl := Option.some.inj given
      exact isRun_powerDigits _
  · split
    · refine ⟨plain.isRun (by simp) (by simp), fun _ => rfl, ?_, nofun⟩
      intro digits given
      obtain rfl := Option.some.inj given
      refine plain.isRun (by simp [plain.ne_nil]) fun c mem => ?_
      exact (List.mem_append.1 mem).symm.imp_right List.eq_of_mem_replicate
    · split
      · refine ⟨plain.isRun (by simp [plain.ne_nil]) fun c mem => ?_, ?_, ?_, nofun⟩
        · exact (List.mem_append.1 mem).imp_right List.eq_of_mem_replicate
        · intro leading
          rw [List.head?_append_of_ne_nil _ plain.ne_nil] at leading
          obtain ⟨digits_eq, point_eq⟩ := plain.leading leading
          simp [digits_eq, point_eq]
        · intro digits given
          obtain rfl := Option.some.inj given
          exact plain.isRun (by simp) (by simp)
      next inside long =>
        have some_taken : 0 < d.point.toNat := by omega
        have some_left : d.point.toNat < d.digits.length := by omega
        refine ⟨plain.isRun ?_ ?_, ?_, ?_, nofun⟩
        · simp [plain.ne_nil, some_taken.ne']
        · exact fun c mem => Or.inl (List.mem_of_mem_take mem)
        · intro leading
          rw [List.head?_take, if_neg some_taken.ne'] at leading
          have digits_eq := (plain.leading leading).1
          simp only [digits_eq, List.length_singleton] at some_left
          omega
        · intro digits given
          obtain rfl := Option.some.inj given
          refine plain.isRun ?_ fun c mem => Or.inl (List.mem_of_mem_drop mem)
          simpa using some_left

/-- The layout of a decimal keeps its value. -/
theorem Decimal.value_numeral (plain : d.IsPlain) (negative : Bool) :
    ((d.numeral negative).count * 10 ^ (d.numeral negative).place : ℚ) = d.value := by
  have some_digit : 0 < d.digits.length := List.length_pos_iff.2 plain.ne_nil
  -- Three of the four layouts have the digits of the decimal, with zeros in front of them.
  have same {n : Numeral} (count_eq : n.count = Text.digitsValue d.digits)
      (place_eq : n.place = d.point - d.digits.length) :
      (n.count * 10 ^ n.place : ℚ) = d.value := by
    rw [count_eq, place_eq, value]
  rw [numeral]
  split
  · have fraction_eq : (if (d.digits.drop 1).isEmpty then none else some (d.digits.drop 1)).getD
        [] = d.digits.drop 1 := by
      split <;> simp_all
    apply same
    · rw [Numeral.count, fraction_eq, List.take_append_drop]
    · simp only [Numeral.place, fraction_eq, digitsValue_powerDigits, List.length_drop,
        decide_eq_true_eq]
      split <;> omega
  · split
    next low =>
      apply same
      · simp [Numeral.count, digitsValue_zero_cons, Text.digitsValue_append,
          Text.digitsValue_replicate_zero]
      · simp [Numeral.place]
        omega
    next high =>
      split
      next short =>
        have count_eq : Numeral.count
            { negative
              integral := d.digits ++ List.replicate (d.point - d.digits.length).toNat '0'
              fraction := some ['0'] } =
            10 ^ ((d.point - d.digits.length).toNat + 1) * Text.digitsValue d.digits := by
          have one_more : List.replicate (d.point - d.digits.length).toNat '0' ++ ['0'] =
              List.replicate ((d.point - d.digits.length).toNat + 1) '0' := by
            rw [List.replicate_succ']
          rw [Numeral.count, Option.getD_some, List.append_assoc, one_more,
            Text.digitsValue_append, Text.digitsValue_replicate_zero, List.length_replicate,
            Nat.add_zero]
        have zeros_eq : ((d.point - d.digits.length).toNat : Int) = d.point - d.digits.length := by
          omega
        rw [count_eq, value, Numeral.place]
        push_cast
        rw [← zeros_eq, pow_succ, zpow_natCast]
        simp only [Option.getD_some, List.length_singleton]
        norm_num
        ring
      next long =>
        apply same
        · rw [Numeral.count, Option.getD_some, List.take_append_drop]
        · simp [Numeral.place]
          omega

end Layout

/-! ## Printed doubles -/

/-- Whether a number is a finite double in its one form. -/
def IsProper : Binary64 → Prop
  | .finite _ mantissa exponent => IsDouble mantissa exponent
  | _ => False

theorem isPlain_zero : Decimal.IsPlain ⟨['0'], 1⟩ where
  digits := List.forall_mem_singleton.2 rfl
  ne_nil := nofun
  leading := fun _ => ⟨rfl, rfl⟩

theorem Decimal.negative_numeral (negative : Bool) (d : Decimal) :
    (d.numeral negative).negative = negative := by
  rw [numeral]
  split_ifs <;> rfl

/-- A laid out decimal has a point or an exponent. -/
theorem Decimal.isIntegral_numeral (negative : Bool) (d : Decimal) :
    (d.numeral negative).isIntegral = false := by
  rw [numeral]
  split_ifs <;> simp [Numeral.isIntegral]

theorem isPlain_shortest {mantissa : Nat} {exponent : Int} (double : IsDouble mantissa exponent) :
    (shortest mantissa exponent).IsPlain := by
  rcases Nat.eq_zero_or_pos mantissa with rfl | positive
  · exact isPlain_zero
  · exact (shortest_spec double positive).1

/-- The numeral of a printed double is read as the double. -/
theorem toBinary64_shortest {mantissa : Nat} {exponent : Int} (double : IsDouble mantissa exponent)
    (negative : Bool) :
    ((shortest mantissa exponent).numeral negative).toBinary64 =
      .finite negative mantissa exponent := by
  rw [toBinary64_eq, Decimal.negative_numeral]
  rcases Nat.eq_zero_or_pos mantissa with rfl | positive
  · have count_eq : ((shortest 0 exponent).numeral negative).count = 0 := by
      cases negative <;> rfl
    have least : exponent = minExponent := double.normal.resolve_left (by decide)
    rw [count_eq, ofDecimal_zero, zero, least]
  · apply ofDecimal_eq negative double positive
    rw [Decimal.value_numeral (isPlain_shortest double)]
    exact (shortest_spec double positive).2

/-- A double is printed as a numeral with a point or an exponent, which is read as the double. -/
theorem exists_numeral {x : Binary64} (proper : x.IsProper) :
    ∃ n : Numeral, n.IsWritten ∧ n.isIntegral = false ∧ x.render.toList = n.text ∧
      n.toBinary64 = x := by
  obtain ⟨negative, mantissa, exponent⟩ | _ | _ := x
  case infinite => contradiction
  case nan => contradiction
  have double : IsDouble mantissa exponent := proper
  refine ⟨(shortest mantissa exponent).numeral negative,
    Decimal.isWritten_numeral (isPlain_shortest double) negative,
    Decimal.isIntegral_numeral negative _, ?_, toBinary64_shortest double negative⟩
  rw [Decimal.text_numeral, render, String.toList_append, String.toList_ofList]
  cases negative <;> rfl

end Binary64

/-! ## Numbers -/

namespace Numeral

/-- The numeral of an integer. -/
def ofInt (value : Int) : Numeral where
  negative := decide (value < 0)
  integral := Nat.toDigits 10 value.natAbs

theorem isWritten_ofInt (value : Int) : (ofInt value).IsWritten where
  integral := ⟨Nat.toDigits_ne_nil, fun _ mem => Text.isDigit_of_mem_toDigits mem⟩
  leading := by
    intro leading
    rcases Nat.eq_zero_or_pos value.natAbs with none | positive
    · rw [ofInt, none]
      rfl
    · exact absurd leading (Text.head?_toDigits_ne_zero positive)
  fraction := nofun
  exponent := nofun

theorem text_ofInt (value : Int) : (ofInt value).text = (toString value).toList := by
  cases value with
  | ofNat n =>
      have sign : decide (Int.ofNat n < 0) = false := by simp
      rw [text, ofInt, sign]
      change [] ++ Nat.toDigits 10 n ++ [] ++ [] = n.repr.toList
      rw [Nat.toList_repr]
      simp
  | negSucc n =>
      have sign : decide (Int.negSucc n < 0) = true := by simp [Int.negSucc_lt_zero]
      rw [text, ofInt, sign]
      change ['-'] ++ Nat.toDigits 10 (n + 1) ++ [] ++ [] = ("-" ++ (n + 1).repr).toList
      rw [String.toList_append, Nat.toList_repr]
      simp

/-- An integer of few enough digits is read back. -/
theorem toNumber_ofInt {value : Int}
    (short : (Nat.toDigits 10 value.natAbs).length ≤ digitLimit) :
    (ofInt value).toNumber = .ok (.int value) := by
  have integral : (ofInt value).isIntegral = true := rfl
  have value_eq : (if decide (value < 0) then -(value.natAbs : Int) else value.natAbs) = value := by
    simp only [decide_eq_true_eq]
    split <;> omega
  rw [toNumber, integral, if_pos rfl, toInt, ofInt, if_neg (not_lt.2 short),
    Text.digitsValue_toDigits]
  exact congrArg (fun value => Except.ok (Number.int value)) value_eq

theorem toNumber_of_not_isIntegral {n : Numeral} (broken : n.isIntegral = false) :
    n.toNumber = .ok (.float n.toBinary64) := by
  rw [toNumber, broken]
  rfl

/-! ### Integers of too many digits -/

/-- Whether a text writes an integer of more digits than are converted: nothing but digits, with a
sign in front of them or without one. -/
def IsOverlong (cs : List Char) : Prop :=
  ∃ sign ∈ [[], ['-'], ['+']], ∃ digits, cs = sign ++ digits ∧
    (∀ c ∈ digits, Text.isDigit c = true) ∧ digitLimit < digits.length

theorem exists_sign (cs : List Char) :
    ∃ sign ∈ [[], ['-'], ['+']], cs = sign ++ (splitSign cs).2 := by
  fun_cases splitSign cs with
  | case1 rest => exact ⟨['-'], by simp, rfl⟩
  | case2 rest => exact ⟨['+'], by simp, rfl⟩
  | case3 rest => exact ⟨[], by simp, rfl⟩

theorem eq_nil_of_readExponent? {cs : List Char} (read : readExponent? cs = some none) :
    cs = [] := by
  cases cs with
  | nil => rfl
  | cons mark rest =>
      simp only [readExponent?] at read
      split at read
      · split at read <;> simp at read
      · contradiction

/-- A text without point and exponent is all digits behind its sign. -/
theorem integral_of_read? {cs : List Char} {n : Numeral} (read : read? cs = some n)
    (whole : n.isIntegral = true) :
    (splitSign cs).2 = n.integral ∧ ∀ c ∈ n.integral, Text.isDigit c = true := by
  simp only [read?] at read
  split at read
  · split at read
    · contradiction
    · obtain ⟨exponent, -, rfl⟩ := Option.map_eq_some_iff.1 read
      simp [isIntegral] at whole
  · split at read
    · contradiction
    · obtain ⟨exponent, exponent_read, rfl⟩ := Option.map_eq_some_iff.1 read
      obtain rfl : exponent = none := by simpa [isIntegral] using whole
      have ends := eq_nil_of_readExponent? exponent_read
      have parts := (splitSign cs).2.takeWhile_append_dropWhile (p := Text.isDigit)
      rw [ends, List.append_nil] at parts
      exact ⟨parts.symm, fun c mem => List.mem_takeWhile_imp mem⟩

/-- Digits behind a sign are read as a numeral without point and exponent. -/
theorem read?_sign_digits {sign digits : List Char} (known : sign ∈ [[], ['-'], ['+']])
    (ne_nil : digits ≠ []) (all : ∀ c ∈ digits, Text.isDigit c = true) :
    read? (sign ++ digits) = some { negative := sign == ['-'], integral := digits } := by
  have parted : splitSign (sign ++ digits) = (sign == ['-'], digits) := by
    obtain ⟨c, rest, rfl⟩ := List.exists_cons_of_ne_nil ne_nil
    simp only [List.mem_cons, List.not_mem_nil, or_false] at known
    rcases known with rfl | rfl | rfl
    · exact splitSign_of_isDigit (all c List.mem_cons_self) rest
    · rfl
    · rfl
  have taken : digits.takeWhile Text.isDigit = digits := List.takeWhile_eq_self_iff.2 all
  have dropped : digits.dropWhile Text.isDigit = [] := List.dropWhile_eq_nil_iff.2 all
  have kept : digits.isEmpty = false := by simpa using ne_nil
  simp [read?, parted, taken, dropped, kept, readExponent?]

theorem exists_toNumber_eq_error_iff (n : Numeral) :
    (∃ cause, n.toNumber = .error cause) ↔
      n.isIntegral = true ∧ digitLimit < n.integral.length := by
  rw [toNumber]
  cases n.isIntegral with
  | false => simp
  | true => by_cases long : digitLimit < n.integral.length <;> simp [toInt, long, Except.map]

/-- The numerals that are read but not converted are those of overlong texts. -/
theorem isOverlong_iff (cs : List Char) :
    IsOverlong cs ↔ ∃ n cause, read? cs = some n ∧ n.toNumber = .error cause := by
  constructor
  · rintro ⟨sign, known, digits, rfl, all, long⟩
    have ne_nil : digits ≠ [] := List.ne_nil_of_length_pos (Nat.zero_lt_of_lt long)
    obtain ⟨cause, stopped⟩ := (exists_toNumber_eq_error_iff
      { negative := sign == ['-'], integral := digits }).2 ⟨rfl, long⟩
    exact ⟨_, cause, read?_sign_digits known ne_nil all, stopped⟩
  · rintro ⟨n, cause, read, stopped⟩
    obtain ⟨whole, long⟩ := (exists_toNumber_eq_error_iff n).1 ⟨cause, stopped⟩
    obtain ⟨integral_eq, all⟩ := integral_of_read? read whole
    obtain ⟨sign, known, split⟩ := exists_sign cs
    exact ⟨sign, known, n.integral, integral_eq ▸ split, all, long⟩

/-- A numeral is written with digits, signs, a point and the mark of an exponent. -/
theorem mem_text {n : Numeral} (written : n.IsWritten) {c : Char} (mem : c ∈ n.text) :
    c.isDigit = true ∨ c ∈ ['-', '+', '.', 'e'] := by
  simp only [text, List.mem_append] at mem
  rcases mem with ((sign | integral) | fraction) | exponent
  · cases negative_eq : n.negative <;> simp_all
  · exact Or.inl (written.integral.digits c integral)
  · cases fraction_eq : n.fraction with
    | none => simp [fraction_eq, fractionText] at fraction
    | some digits =>
        rw [fraction_eq, fractionText] at fraction
        rcases List.mem_cons.1 fraction with rfl | digit
        · exact Or.inr (by simp)
        · exact Or.inl ((written.fraction digits fraction_eq).digits c digit)
  · cases exponent_eq : n.exponent with
    | none => simp [exponent_eq, exponentText] at exponent
    | some part =>
        obtain ⟨negative, digits⟩ := part
        rw [exponent_eq, exponentText] at exponent
        rcases List.mem_cons.1 exponent with rfl | more
        · exact Or.inr (by simp)
        · rcases List.mem_cons.1 more with rfl | digit
          · cases negative <;> exact Or.inr (by simp)
          · exact Or.inl ((written.exponent _ exponent_eq).digits c digit)

end Numeral

namespace Number

/-- The text of a number. -/
def text : Number → String
  | .int value => toString value
  | .float x => x.render

/-- Whether a number can be written and read: an integer of no more digits than are converted, or
a finite double. -/
def IsProper : Number → Prop
  | .int value => (Nat.toDigits 10 value.natAbs).length ≤ Numeral.digitLimit
  | .float x => x.IsProper

theorem isProper_int_iff {value : Int} :
    (Number.int value).IsProper ↔ Numeral.isLong value = false := by
  simp [IsProper, Numeral.isLong]

/-- A number is written as a numeral that denotes it. -/
theorem exists_numeral {x : Number} (proper : x.IsProper) :
    ∃ n : Numeral, n.IsWritten ∧ x.text.toList = n.text ∧ n.toNumber = .ok x := by
  cases x with
  | int value =>
      exact ⟨.ofInt value, Numeral.isWritten_ofInt value, (Numeral.text_ofInt value).symm,
        Numeral.toNumber_ofInt proper⟩
  | float x =>
      obtain ⟨n, written, broken, text_eq, double_eq⟩ := Binary64.exists_numeral proper
      exact ⟨n, written, text_eq, double_eq ▸ Numeral.toNumber_of_not_isIntegral broken⟩

end Number

end EnvConcord
