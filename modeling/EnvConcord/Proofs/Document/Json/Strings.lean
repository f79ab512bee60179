import EnvConcord.Document.Json.Reader
import EnvConcord.Document.Json.Writer
import EnvConcord.Proofs.Text.Digits

/-!
# JSON strings

Every character has an escape that the reader turns back into the character, so a string literal
is read as the text it was made of.  Characters beyond the first plane are written as two code
units, which the reader puts together.
-/

namespace EnvConcord.Document.Json

/-- Four digits are read as the number they write. -/
theorem readUnit?_hexDigits {code : Nat} (small : code < 0x10000) (rest : List Char) :
    readUnit? (Text.hexDigits 4 code ++ rest) = some (code, rest) := by
  rw [Text.hexDigits_four small]
  simp only [List.cons_append, List.nil_append, readUnit?]
  rw [Text.hexValue?_digitChar (by omega), Text.hexValue?_digitChar (by omega),
    Text.hexValue?_digitChar (by omega), Text.hexValue?_digitChar (by omega)]
  simp only [bind, Option.bind, Option.some.injEq, Prod.mk.injEq, and_true]
  omega

/-! ## Escapes -/

theorem readUnicode_single {c : Char} (small : c.toNat < 0x10000) (mark : List Char)
    {rest : List Char} (more : rest ≠ []) :
    readUnicode mark (Text.hexDigits 4 c.toNat ++ rest) = .ok (c, rest) := by
  have valid : c.toNat < 0xD800 ∨ 0xDFFF < c.toNat ∧ c.toNat < 0x110000 := c.valid
  have not_high : isHighHalf c.toNat = false := by
    simp only [isHighHalf, Bool.and_eq_false_iff, decide_eq_false_iff_not]
    omega
  have not_low : isLowHalf c.toNat = false := by
    simp only [isLowHalf, Bool.and_eq_false_iff, decide_eq_false_iff_not]
    omega
  have kept : rest.isEmpty = false := by simpa using more
  rw [readUnicode, readUnit?_hexDigits small]
  simp [kept, not_high, not_low, unitChar, Char.ofNat_toNat]

/-- The two halves of a pair are put together. -/
theorem readUnicode_halves {high low : Nat} (is_high : isHighHalf high = true)
    (is_low : isLowHalf low = true) (mark : List Char) {rest : List Char} (more : rest ≠ []) :
    readUnicode mark (Text.hexDigits 4 high ++ (escapeUnit low ++ rest)) =
      .ok (Char.ofNat (0x10000 + (high - 0xD800) * 1024 + (low - 0xDC00)), rest) := by
  have high_bounds : 0xD800 ≤ high ∧ high ≤ 0xDBFF := by simpa [isHighHalf] using is_high
  have low_bounds : 0xDC00 ≤ low ∧ low ≤ 0xDFFF := by simpa [isLowHalf] using is_low
  have high_read : readUnit? (Text.hexDigits 4 high ++ (escapeUnit low ++ rest)) =
      some (high, escapeUnit low ++ rest) := readUnit?_hexDigits (by omega) _
  have low_read : readUnit? (Text.hexDigits 4 low ++ rest) = some (low, rest) :=
    readUnit?_hexDigits (by omega) rest
  have long : 6 < (escapeUnit low ++ rest).length := by
    have some_left : 0 < rest.length := List.length_pos_iff.2 more
    rw [escapeUnit, Text.hexDigits_four (by omega)]
    simp only [List.length_append, List.length_cons, List.length_nil]
    omega
  have kept : (escapeUnit low ++ rest).isEmpty = false := rfl
  rw [readUnicode, high_read]
  simp only [kept, is_high, long, decide_true, Bool.and_self, Bool.false_eq_true, if_false, if_true]
  simp only [escapeUnit, List.cons_append, low_read, is_low, if_true]

theorem readUnicode_pair {c : Char} (large : 0x10000 ≤ c.toNat) (mark : List Char)
    {rest : List Char} (more : rest ≠ []) :
    readUnicode mark (Text.hexDigits 4 (0xD800 + (c.toNat - 0x10000) / 1024) ++
      (escapeUnit (0xDC00 + (c.toNat - 0x10000) % 1024) ++ rest)) = .ok (c, rest) := by
  have valid : c.toNat < 0xD800 ∨ 0xDFFF < c.toNat ∧ c.toNat < 0x110000 := c.valid
  have is_high : isHighHalf (0xD800 + (c.toNat - 0x10000) / 1024) = true := by
    simp only [isHighHalf, Bool.and_eq_true, decide_eq_true_eq]
    omega
  have is_low : isLowHalf (0xDC00 + (c.toNat - 0x10000) % 1024) = true := by
    simp only [isLowHalf, Bool.and_eq_true, decide_eq_true_eq]
    omega
  have whole : 0x10000 + (0xD800 + (c.toNat - 0x10000) / 1024 - 0xD800) * 1024 +
      (0xDC00 + (c.toNat - 0x10000) % 1024 - 0xDC00) = c.toNat := by
    omega
  rw [readUnicode_halves is_high is_low mark more, whole, Char.ofNat_toNat]

/-- How a character is escaped: by a letter, not at all, or by one or two code units. -/
theorem escapeChar_cases (c : Char) :
    (∃ letter, letter ≠ 'u' ∧ simpleEscape? letter = some c ∧ escapeChar c = ['\\', letter]) ∨
      (c ≠ '"' ∧ c ≠ '\\' ∧ 32 ≤ c.toNat ∧ c.toNat ≤ 126 ∧ escapeChar c = [c]) ∨
      (c.toNat < 0x10000 ∧ escapeChar c = escapeUnit c.toNat) ∨
      (0x10000 ≤ c.toNat ∧ escapeChar c =
        escapeUnit (0xD800 + (c.toNat - 0x10000) / 1024) ++
          escapeUnit (0xDC00 + (c.toNat - 0x10000) % 1024)) := by
  by_cases special : c ∈ ['"', '\\', '\n', '\r', '\t', '\x08', '\x0c']
  · simp only [List.mem_cons, List.not_mem_nil, or_false] at special
    left
    rcases special with rfl | rfl | rfl | rfl | rfl | rfl | rfl
    · exact ⟨'"', by decide, rfl, rfl⟩
    · exact ⟨'\\', by decide, rfl, rfl⟩
    · exact ⟨'n', by decide, rfl, rfl⟩
    · exact ⟨'r', by decide, rfl, rfl⟩
    · exact ⟨'t', by decide, rfl, rfl⟩
    · exact ⟨'b', by decide, rfl, rfl⟩
    · exact ⟨'f', by decide, rfl, rfl⟩
  · simp only [List.mem_cons, List.not_mem_nil, or_false, not_or] at special
    obtain ⟨quote, slash, line, carriage, tab, back, form⟩ := special
    right
    simp only [escapeChar, beq_iff_eq, quote, slash, line, carriage, tab, back, form, if_false]
    split
    next printable =>
      simp only [Bool.and_eq_true, decide_eq_true_eq] at printable
      exact Or.inl ⟨quote, slash, printable.1, printable.2, rfl⟩
    next =>
      split
      next small => exact Or.inr (Or.inl ⟨small, rfl⟩)
      next large => exact Or.inr (Or.inr ⟨Nat.not_lt.1 large, rfl⟩)

/-- An escaped character is read as the character. -/
theorem readString_escapeChar (start : List Char) (fuel : Nat) (reversed : List Char) (c : Char)
    {rest : List Char} (more : rest ≠ []) :
    readString start (fuel + 1) reversed (escapeChar c ++ rest) =
      readString start fuel (c :: reversed) rest := by
  rcases escapeChar_cases c with ⟨letter, other, escaped, eq⟩ | ⟨quote, slash, printable, -, eq⟩ |
    ⟨small, eq⟩ | ⟨large, eq⟩
  · rw [eq, List.cons_append, List.cons_append, List.nil_append, readString]
    · simp [escaped]
    · simpa using other
  · rw [eq, List.cons_append, List.nil_append, readString]
    · simp [Nat.not_lt.2 printable]
    · simpa using quote
    · simpa using slash
  · rw [eq, escapeUnit, List.cons_append, List.cons_append, readString]
    rw [readUnicode_single small _ more]
    rfl
  · rw [eq, escapeUnit, List.append_assoc, List.cons_append, List.cons_append, readString]
    rw [readUnicode_pair large _ more]
    rfl

theorem escapeChar_ne_nil (c : Char) : escapeChar c ≠ [] := by
  rcases escapeChar_cases c with ⟨_, -, -, eq⟩ | ⟨-, -, -, -, eq⟩ | ⟨-, eq⟩ | ⟨-, eq⟩ <;>
    rw [eq] <;> exact List.cons_ne_nil _ _

/-- Escaped characters up to a quote are read as the characters. -/
theorem readString_escaped (start : List Char) (cs : List Char) {fuel : Nat}
    (reversed rest : List Char) (enough : (cs.flatMap escapeChar).length < fuel) :
    readString start fuel reversed (cs.flatMap escapeChar ++ '"' :: rest) =
      .ok (String.ofList (reversed.reverse ++ cs), rest) := by
  induction cs generalizing fuel reversed with
  | nil =>
      obtain ⟨fuel, rfl⟩ := Nat.exists_eq_succ_of_ne_zero (Nat.ne_of_gt enough)
      simp [readString]
  | cons c cs ih =>
      have width := List.length_pos_iff.2 (escapeChar_ne_nil c)
      rw [List.flatMap_cons, List.length_append] at enough
      obtain ⟨fuel, rfl⟩ := Nat.exists_eq_succ_of_ne_zero (Nat.ne_of_gt (Nat.zero_lt_of_lt enough))
      rw [List.flatMap_cons, List.append_assoc, readString_escapeChar _ _ _ _ (by simp),
        ih (c :: reversed) (by omega)]
      simp

end EnvConcord.Document.Json
