import EnvConcord.Text.Utf8
import Mathlib.Data.List.Basic

/-!
# Encoded texts are decoded again

The octets of a character are read as that character, whatever follows them.  Hence
decoding what encoding yields gives the text back.
-/

namespace EnvConcord.Text.Utf8

/-! ## Octets of a text -/

theorem loop_eq_append_drop (octets : ByteArray) (i : Nat) (reversed : List UInt8) :
    ByteArray.toList.loop octets i reversed = reversed.reverse ++ octets.data.toList.drop i := by
  by_cases below : i < octets.size
  · have ends : i < octets.data.toList.length := by simpa using below
    rw [ByteArray.toList.loop, if_pos below, loop_eq_append_drop octets (i + 1),
      List.drop_eq_getElem_cons ends]
    have here : octets.get! i = octets.data.toList[i] := by
      simp [ByteArray.get!, below]
    rw [here, List.reverse_cons, List.append_assoc]
    rfl
  · have beyond : octets.data.toList.length ≤ i := by
      simpa using Nat.le_of_not_lt below
    rw [ByteArray.toList.loop, if_neg below, List.drop_eq_nil_of_le beyond, List.append_nil]
termination_by octets.size - i

theorem toList_eq_data (octets : ByteArray) : octets.toList = octets.data.toList := by
  rw [ByteArray.toList, loop_eq_append_drop]
  rfl

/-- The octets of a character. -/
def octetsOf (c : Char) : List Nat := (String.utf8EncodeChar c).map UInt8.toNat

/-- The octets of a text are those of its characters. -/
theorem encode_eq (s : String) : encode s = s.toList.flatMap octetsOf := by
  have octets_eq : s.toUTF8.toList = s.toList.flatMap String.utf8EncodeChar := by
    rw [toList_eq_data, String.toUTF8_eq_toByteArray, ← String.utf8Encode_toList, List.utf8Encode,
      List.toList_data_toByteArray]
  rw [encode, octets_eq, List.map_flatMap]
  rfl

/-! ## Octets of a character -/

theorem toNat_lt_of_valid (c : Char) :
    c.toNat < 0xD800 ∨ (0xDFFF < c.toNat ∧ c.toNat < 0x110000) := c.valid

/-- The octets of a character, by the size of its code point. -/
theorem octetsOf_eq (c : Char) :
    octetsOf c =
      if c.toNat ≤ 0x7F then [c.toNat]
      else if c.toNat ≤ 0x7FF then [c.toNat / 64 + 0xC0, c.toNat % 64 + 0x80]
      else if c.toNat ≤ 0xFFFF then
        [c.toNat / 4096 + 0xE0, c.toNat / 64 % 64 + 0x80, c.toNat % 64 + 0x80]
      else
        [c.toNat / 262144 + 0xF0, c.toNat / 4096 % 64 + 0x80, c.toNat / 64 % 64 + 0x80,
          c.toNat % 64 + 0x80] := by
  have valid := toNat_lt_of_valid c
  have code : c.val.toNat = c.toNat := rfl
  rw [octetsOf, String.utf8EncodeChar]
  simp only [code]
  split
  · simp only [List.map_cons, List.map_nil, UInt8.toNat_ofNat', List.cons.injEq, and_true]
    omega
  · split
    · simp only [List.map_cons, List.map_nil, UInt8.toNat_ofNat', List.cons.injEq, and_true]
      omega
    · split
      · simp only [List.map_cons, List.map_nil, UInt8.toNat_ofNat', List.cons.injEq, and_true]
        omega
      · simp only [List.map_cons, List.map_nil, UInt8.toNat_ofNat', List.cons.injEq, and_true]
        omega

/-! ## Decoding -/

/-- Octets are read as a character if the first one tells their number and the others
complete its code point. -/
theorem decodeFrom_char (c : Char) (first : Nat) (tail : List Nat) {rest : List Nat}
    (length_eq : lengthOf? first = some (tail.length + 1))
    (tail_eq : readTail first (leadBits (tail.length + 1) first) 1 tail.length (tail ++ rest) =
      .ok c.toNat)
    (reversed : List Char) (position : Nat) :
    decodeFrom reversed position 0 (first :: tail ++ rest) =
      decodeFrom (c :: reversed) (position + (first :: tail).length) 0 rest := by
  have skipped : ∀ (octets : List Nat) (place : Nat) (so_far : List Char),
      decodeFrom so_far place octets.length (octets ++ rest) =
        decodeFrom so_far (place + octets.length) 0 rest := by
    intro octets
    induction octets with
    | nil => intro place so_far; rfl
    | cons octet octets ih =>
        intro place so_far
        rw [List.cons_append, List.length_cons, decodeFrom, ih]
        congr 1
        omega
  rw [List.cons_append, decodeFrom]
  simp only [length_eq, Nat.add_sub_cancel, tail_eq, Char.ofNat_toNat]
  rw [skipped, List.length_cons]
  congr 1
  omega

theorem isContinuation_tail (n : Nat) : isContinuation (n % 64 + 0x80) = true := by
  simp only [isContinuation, Bool.and_eq_true, decide_eq_true_eq]
  omega

theorem fitsSecond_of (first : Nat) {second : Nat} (continues : isContinuation second = true)
    (not_overlong : first = 0xE0 → 0xA0 ≤ second) (not_half : first = 0xED → second < 0xA0)
    (not_overlong_four : first = 0xF0 → 0x90 ≤ second) (not_beyond : first = 0xF4 → second < 0x90) :
    fitsSecond first second = true := by
  simp only [fitsSecond, continues, Bool.true_and, beq_iff_eq]
  split
  next three => simpa using not_overlong three
  next =>
    split
    next half => simpa using not_half half
    next =>
      split
      next four => simpa using not_overlong_four four
      next =>
        split
        next last => simpa using not_beyond last
        next => rfl

/-- A second octet that fits adds six bits to a code point. -/
theorem readTail_second {first code missing octet : Nat} {rest : List Nat}
    (fits : fitsSecond first octet = true) :
    readTail first code 1 (missing + 1) (octet :: rest) =
      readTail first (code * 64 + (octet - 0x80)) 2 missing rest := by
  simp [readTail, fits]

/-- So does a later octet that continues a character. -/
theorem readTail_later {first code read missing octet : Nat} {rest : List Nat}
    (continues : isContinuation octet = true) :
    readTail first code (read + 2) (missing + 1) (octet :: rest) =
      readTail first (code * 64 + (octet - 0x80)) (read + 3) missing rest := by
  simp [readTail, continues]

section Sizes

variable (c : Char) (reversed : List Char) (position : Nat) (rest : List Nat)

theorem decodeFrom_two_octets (low : 0x7F < c.toNat) (high : c.toNat ≤ 0x7FF) :
    decodeFrom reversed position 0
        ([c.toNat / 64 + 0xC0, c.toNat % 64 + 0x80] ++ rest) =
      decodeFrom (c :: reversed) (position + 2) 0 rest := by
  have length_eq : lengthOf? (c.toNat / 64 + 0xC0) = some 2 := by
    rw [lengthOf?, if_neg (by omega), if_neg (by omega), if_pos (by omega)]
  have second := fitsSecond_of (c.toNat / 64 + 0xC0) (isContinuation_tail c.toNat) (by omega)
    (by omega) (by omega) (by omega)
  apply decodeFrom_char c (c.toNat / 64 + 0xC0) [c.toNat % 64 + 0x80] length_eq
  refine (readTail_second second).trans (congrArg Except.ok ?_)
  change (c.toNat / 64 + 0xC0 - 0xC0) * 64 + (c.toNat % 64 + 0x80 - 0x80) = c.toNat
  omega

theorem decodeFrom_three_octets (low : 0x7FF < c.toNat) (high : c.toNat ≤ 0xFFFF) :
    decodeFrom reversed position 0
        ([c.toNat / 4096 + 0xE0, c.toNat / 64 % 64 + 0x80, c.toNat % 64 + 0x80] ++ rest) =
      decodeFrom (c :: reversed) (position + 3) 0 rest := by
  have valid := toNat_lt_of_valid c
  have length_eq : lengthOf? (c.toNat / 4096 + 0xE0) = some 3 := by
    rw [lengthOf?, if_neg (by omega), if_neg (by omega), if_neg (by omega), if_pos (by omega)]
  have second := fitsSecond_of (c.toNat / 4096 + 0xE0) (isContinuation_tail (c.toNat / 64))
    (by omega) (by omega) (by omega) (by omega)
  have third := isContinuation_tail c.toNat
  apply decodeFrom_char c (c.toNat / 4096 + 0xE0)
    [c.toNat / 64 % 64 + 0x80, c.toNat % 64 + 0x80] length_eq
  refine ((readTail_second second).trans (readTail_later third)).trans (congrArg Except.ok ?_)
  change ((c.toNat / 4096 + 0xE0 - 0xE0) * 64 + (c.toNat / 64 % 64 + 0x80 - 0x80)) * 64 +
    (c.toNat % 64 + 0x80 - 0x80) = c.toNat
  omega

theorem decodeFrom_four_octets (low : 0xFFFF < c.toNat) :
    decodeFrom reversed position 0
        ([c.toNat / 262144 + 0xF0, c.toNat / 4096 % 64 + 0x80, c.toNat / 64 % 64 + 0x80,
          c.toNat % 64 + 0x80] ++ rest) =
      decodeFrom (c :: reversed) (position + 4) 0 rest := by
  have valid := toNat_lt_of_valid c
  have length_eq : lengthOf? (c.toNat / 262144 + 0xF0) = some 4 := by
    rw [lengthOf?, if_neg (by omega), if_neg (by omega), if_neg (by omega), if_neg (by omega),
      if_pos (by omega)]
  have second := fitsSecond_of (c.toNat / 262144 + 0xF0) (isContinuation_tail (c.toNat / 4096))
    (by omega) (by omega) (by omega) (by omega)
  have third := isContinuation_tail (c.toNat / 64)
  have fourth := isContinuation_tail c.toNat
  apply decodeFrom_char c (c.toNat / 262144 + 0xF0)
    [c.toNat / 4096 % 64 + 0x80, c.toNat / 64 % 64 + 0x80, c.toNat % 64 + 0x80] length_eq
  refine (((readTail_second second).trans (readTail_later third)).trans
    (readTail_later fourth)).trans (congrArg Except.ok ?_)
  change (((c.toNat / 262144 + 0xF0 - 0xF0) * 64 +
    (c.toNat / 4096 % 64 + 0x80 - 0x80)) * 64 + (c.toNat / 64 % 64 + 0x80 - 0x80)) * 64 +
    (c.toNat % 64 + 0x80 - 0x80) = c.toNat
  omega

/-- The octets of a character are read as that character. -/
theorem decodeFrom_octetsOf :
    decodeFrom reversed position 0 (octetsOf c ++ rest) =
      decodeFrom (c :: reversed) (position + (octetsOf c).length) 0 rest := by
  rw [octetsOf_eq]
  split
  next one =>
    have length_eq : lengthOf? c.toNat = some 1 := if_pos (by omega)
    exact decodeFrom_char c c.toNat [] length_eq rfl reversed position
  next more =>
    have above_one := Nat.lt_of_not_le more
    split
    next two => exact decodeFrom_two_octets c reversed position rest above_one two
    next more =>
      have above_two := Nat.lt_of_not_le more
      split
      next three => exact decodeFrom_three_octets c reversed position rest above_two three
      next more => exact decodeFrom_four_octets c reversed position rest (Nat.lt_of_not_le more)

end Sizes

/-! ## Texts -/

/-- Decoding the octets of a text gives the text back. -/
theorem decode_encode (s : String) : decode (encode s) = .ok s.toList := by
  have run : ∀ (cs reversed : List Char) (position : Nat),
      decodeFrom reversed position 0 (cs.flatMap octetsOf) = .ok (reversed.reverse ++ cs) := by
    intro cs
    induction cs with
    | nil => intro reversed position; simp [decodeFrom]
    | cons c cs ih =>
        intro reversed position
        rw [List.flatMap_cons, decodeFrom_octetsOf, ih, List.reverse_cons, List.append_assoc,
          List.singleton_append]
  rw [decode, encode_eq, run]
  rfl

end EnvConcord.Text.Utf8
