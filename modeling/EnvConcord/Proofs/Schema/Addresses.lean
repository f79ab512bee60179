import EnvConcord.Pattern.Regex.Parser
import EnvConcord.Proofs.Pattern.Regex.Simple
import EnvConcord.Proofs.Text.Lines
import EnvConcord.Schema.Convert

/-!
# What an address field takes

An address has a rule of its own here, which says nothing of how it is checked: no blanks, one at
sign, and a dot between other characters behind it.  The check agrees with the rule up to one line
break at the end of the text, and so does the expression that addresses are described by, since its
last anchor holds in front of such a break too.  A field of addresses therefore keeps the addresses
and, with them, the addresses that a line break follows.
-/

namespace EnvConcord.Schema

open EnvConcord.Pattern

/-! ## Addresses -/

/-- A text without blanks and with one at sign, behind a local part and in front of a domain, which
has a dot between other characters. -/
structure IsAddress (cs : List Char) : Prop where
  unblank : ∀ c ∈ cs, Text.isBlank c = false
  single : cs.count '@' = 1
  parts : ∃ localPart host tld, cs = localPart ++ '@' :: (host ++ '.' :: tld) ∧
    localPart ≠ [] ∧ host ≠ [] ∧ tld ≠ []

/-- An address, or an address and a line break. -/
def IsAddressLine (cs : List Char) : Prop :=
  ∃ address, IsAddress address ∧ (cs = address ∨ cs = address ++ ['\n'])

/-- A part of an address: some characters that are neither blanks nor at signs. -/
structure IsPart (cs : List Char) : Prop where
  nonempty : cs ≠ []
  allowed : ∀ c ∈ cs, Text.isBlank c = false ∧ c ≠ '@'

/-- An address is three parts with an at sign and a dot between them. -/
theorem isAddress_iff (cs : List Char) :
    IsAddress cs ↔ ∃ localPart host tld, cs = localPart ++ '@' :: (host ++ '.' :: tld) ∧
      IsPart localPart ∧ IsPart host ∧ IsPart tld := by
  constructor
  · rintro ⟨unblank, single, localPart, host, tld, rfl, local_ne, host_ne, tld_ne⟩
    have allowed : ∀ part : List Char, (∀ c ∈ part, Text.isBlank c = false) → part.count '@' = 0 →
        ∀ c ∈ part, Text.isBlank c = false ∧ c ≠ '@' := by
      intro part solid none_left c mem
      exact ⟨solid c mem, ne_of_mem_of_not_mem mem (List.count_eq_zero.1 none_left)⟩
    simp only [List.count_append, List.count_cons_self,
      List.count_cons_of_ne (show '.' ≠ '@' by decide)] at single
    exact ⟨localPart, host, tld, rfl,
      ⟨local_ne, allowed localPart (fun c mem => unblank c (by simp [mem])) (by omega)⟩,
      ⟨host_ne, allowed host (fun c mem => unblank c (by simp [mem])) (by omega)⟩,
      ⟨tld_ne, allowed tld (fun c mem => unblank c (by simp [mem])) (by omega)⟩⟩
  · rintro ⟨localPart, host, tld, rfl, local_part, host_part, tld_part⟩
    have no_at : ∀ {part}, IsPart part → part.count '@' = 0 := fun is_part =>
      List.count_eq_zero.2 fun mem => (is_part.allowed '@' mem).2 rfl
    refine ⟨?_, ?_, localPart, host, tld, rfl, local_part.nonempty, host_part.nonempty,
      tld_part.nonempty⟩
    · intro c mem
      simp only [List.mem_append, List.mem_cons] at mem
      rcases mem with mem | rfl | mem | rfl | mem
      · exact (local_part.allowed c mem).1
      · decide
      · exact (host_part.allowed c mem).1
      · decide
      · exact (tld_part.allowed c mem).1
    · simp only [List.count_append, List.count_cons_self,
        List.count_cons_of_ne (show '.' ≠ '@' by decide), no_at local_part, no_at host_part,
        no_at tld_part]

/-- A dot is inside of a text exactly if it parts the text into two that are not empty. -/
theorem hasInnerDot_iff (cs : List Char) :
    hasInnerDot cs = true ↔ ∃ host tld, cs = host ++ '.' :: tld ∧ host ≠ [] ∧ tld ≠ [] := by
  rw [hasInnerDot, List.contains_iff_mem]
  constructor
  · intro mem
    obtain ⟨c, rest, rfl⟩ := List.exists_cons_of_ne_nil (l := cs) (by rintro rfl; contradiction)
    rw [List.tail_cons] at mem
    rcases List.eq_nil_or_concat' rest with rfl | ⟨inner, last, rfl⟩
    · contradiction
    · rw [List.dropLast_concat] at mem
      obtain ⟨front, back, rfl⟩ := List.append_of_mem mem
      exact ⟨c :: front, back ++ [last], by simp, by simp, by simp⟩
  · rintro ⟨host, tld, rfl, host_ne, tld_ne⟩
    obtain ⟨c, front, rfl⟩ := List.exists_cons_of_ne_nil host_ne
    rw [List.cons_append, List.tail_cons, List.dropLast_append_of_ne_nil (List.cons_ne_nil _ _),
      List.dropLast_cons_of_ne_nil tld_ne]
    simp

/-- The check without its line break is the rule. -/
theorem isBareEmail_iff (cs : List Char) : isBareEmail cs = true ↔ IsAddress cs := by
  have unblank_iff : (cs.all fun c => !Text.isBlank c) = true ↔
      ∀ c ∈ cs, Text.isBlank c = false := by simp
  rw [isBareEmail, Bool.and_eq_true, unblank_iff]
  constructor
  · rintro ⟨unblank, parts⟩
    split at parts
    next localPart domain pieces =>
      obtain ⟨rfl, absent, absent'⟩ := (Text.splitAt_eq_pair_iff '@' cs localPart domain).1 pieces
      rw [Bool.and_eq_true, hasInnerDot_iff] at parts
      obtain ⟨named, host, tld, rfl, host_ne, tld_ne⟩ := parts
      refine ⟨unblank, ?_, localPart, host, tld, rfl, by simpa using named, host_ne, tld_ne⟩
      rw [List.count_append, List.count_cons_self, List.count_eq_zero.2 absent,
        List.count_eq_zero.2 absent']
    next => contradiction
  · rintro ⟨unblank, single, localPart, host, tld, rfl, local_ne, host_ne, tld_ne⟩
    refine ⟨unblank, ?_⟩
    rw [List.count_append, List.count_cons_self] at single
    have absent : '@' ∉ localPart := List.count_eq_zero.1 (by omega)
    have absent' : '@' ∉ host ++ '.' :: tld := List.count_eq_zero.1 (by omega)
    rw [(Text.splitAt_eq_pair_iff '@' _ localPart _).2 ⟨rfl, absent, absent'⟩]
    simp only [Bool.and_eq_true]
    exact ⟨by simpa using local_ne, (hasInnerDot_iff _).2 ⟨host, tld, rfl, host_ne, tld_ne⟩⟩

instance (cs : List Char) : Decidable (IsAddress cs) :=
  decidable_of_iff _ (isBareEmail_iff cs)

/-- No address ends with a line break. -/
theorem IsAddress.not_break {address : List Char} (is_address : IsAddress address) :
    address.getLast? ≠ some '\n' := by
  intro last
  have solid := is_address.unblank '\n' (List.mem_of_getLast? last)
  contradiction

/-- The check is the rule, up to a line break at the end. -/
theorem isEmail_iff (cs : List Char) : isEmail cs = true ↔ IsAddressLine cs := by
  rw [isEmail]
  split
  next last =>
    obtain ⟨address, rfl⟩ := List.getLast?_eq_some_iff.1 last
    rw [List.dropLast_concat, isBareEmail_iff]
    constructor
    · intro is_address
      exact ⟨address, is_address, Or.inr rfl⟩
    · rintro ⟨other, is_address, whole | same⟩
      · exact absurd (whole ▸ last) is_address.not_break
      · rwa [List.append_cancel_right same]
  next no_break =>
    rw [isBareEmail_iff]
    constructor
    · intro is_address
      exact ⟨cs, is_address, Or.inl rfl⟩
    · rintro ⟨address, is_address, rfl | rfl⟩
      · exact is_address
      · exact absurd List.getLast?_concat no_break

/-! ## The pattern of addresses -/

/-- What a part of an address holds. -/
def partTest : CharTest := { items := [.ofClass .blank false, .single 64], negated := true }

/-- A character. -/
def charTest (c : Char) : CharTest := { items := [.single c.toNat] }

/-- Some characters of a part. -/
def partPattern : Regex := .loop .greedy 1 none (.char partTest)

/-- Three parts with an at sign and a dot between them, and nothing behind them but a line break. -/
def addressPattern : Regex :=
  .seq (.anchor .start) (.seq partPattern (.seq (.char (charTest '@')) (.seq partPattern
    (.seq (.char (charTest '.')) (.seq partPattern (.anchor .lastLineEnd))))))

/-- The pattern of addresses as it is written. -/
def addressSource : String := "^[^\\s@]+@[^\\s@]+\\.[^\\s@]+$"

theorem parse_addressSource : Regex.parse addressSource.toList = .ok addressPattern := by
  decide +kernel

theorem regex_eq_of_source_eq {pattern : Schema.Pattern}
    (source_eq : pattern.source = addressSource) : pattern.regex = addressPattern := by
  have parsed := pattern.parsed
  rw [source_eq, parse_addressSource] at parsed
  exact (Except.ok.inj parsed).symm

theorem holds_partTest_iff (c : Char) :
    partTest.holds c = true ↔ Text.isBlank c = false ∧ c ≠ '@' := by
  have at_iff : c = '@' ↔ 64 = c.toNat := by
    rw [← Char.toNat_inj, eq_comm]
    rfl
  simp [partTest, CharTest.holds, CaseRule.lower, CaseRule.covers, CharClass.holds, at_iff]

theorem holds_charTest_iff (c d : Char) : (charTest c).holds d = true ↔ c = d := by
  simp [charTest, CharTest.holds, CaseRule.lower, CaseRule.covers, ← Char.toNat_inj]

theorem holds_lastLineEnd_iff (before left : List Char) :
    Regex.Anchor.holds (before ++ left).toArray before.length .lastLineEnd = true ↔
      left = [] ∨ left = ['\n'] := by
  rw [Regex.Anchor.holds, Regex.getElem?_toArray_length rfl]
  rcases left with _ | ⟨c, _ | ⟨d, rest⟩⟩
  · simp
  · simp
  · simp

theorem isPart_iff (cs : List Char) :
    IsPart cs ↔ 1 ≤ cs.length ∧ ∀ c ∈ cs, partTest.holds c = true := by
  simp only [holds_partTest_iff, Nat.one_le_iff_ne_zero, ne_eq, List.length_eq_zero_iff]
  exact ⟨fun is_part => ⟨is_part.nonempty, is_part.allowed⟩, fun parts => ⟨parts.1, parts.2⟩⟩

/-- The pattern matches a text from its start exactly if the text is an address, with or without a
line break behind it. -/
theorem matchesAt_addressPattern_iff (cs : List Char) :
    Regex.matchesAt addressPattern cs.toArray 0 = true ↔ IsAddressLine cs := by
  have takes_part : Regex.Takes cs partPattern fun _ taken _ => IsPart taken := by
    simp only [isPart_iff]
    exact Regex.takes_loop_char 1 partTest
  have takes := Regex.takes_seq (Regex.takes_anchor .start) (Regex.takes_seq takes_part
    (Regex.takes_seq (Regex.takes_char (charTest '@')) (Regex.takes_seq takes_part
      (Regex.takes_seq (Regex.takes_char (charTest '.')) (Regex.takes_seq takes_part
        (Regex.takes_anchor .lastLineEnd))))))
  have text_eq : [] ++ cs = cs := rfl
  refine (Regex.matchesAt_iff takes text_eq).trans ?_
  simp only [holds_lastLineEnd_iff, holds_charTest_iff]
  constructor
  -- What is taken and what is left of it, for one step of the pattern after the other.
  · rintro ⟨_, left, rfl, _, _, rfl, ⟨rfl, -⟩, localPart, _, rfl, local_part,
      _, _, rfl, ⟨_, rfl, rfl⟩, host, _, rfl, host_part,
      _, _, rfl, ⟨_, rfl, rfl⟩, tld, _, rfl, tld_part, rfl, ending⟩
    refine ⟨_, (isAddress_iff _).2 ⟨localPart, host, tld, rfl, local_part, host_part, tld_part⟩, ?_⟩
    rcases ending with rfl | rfl <;> simp
  · rintro ⟨address, is_address, ending⟩
    obtain ⟨localPart, host, tld, rfl, local_part, host_part, tld_part⟩ :=
      (isAddress_iff _).1 is_address
    obtain ⟨left, rfl, left_eq⟩ : ∃ left,
        cs = localPart ++ '@' :: (host ++ '.' :: tld) ++ left ∧ (left = [] ∨ left = ['\n']) := by
      rcases ending with rfl | rfl
      · exact ⟨[], by simp, Or.inl rfl⟩
      · exact ⟨['\n'], rfl, Or.inr rfl⟩
    exact ⟨_, left, rfl, [], _, rfl, ⟨rfl, rfl⟩, localPart, _, rfl, local_part,
      ['@'], _, rfl, ⟨'@', rfl, rfl⟩, host, _, rfl, host_part,
      ['.'], _, rfl, ⟨'.', rfl, rfl⟩, tld, [], by simp, tld_part, rfl, left_eq⟩

/-! ## Fields -/

/-- A field tells addresses from other texts: it returns an address as it is, and refuses any other
text. -/
structure JudgesAddress (field : Field) (text : String) : Prop where
  kept : IsAddress text.toList → field.convert text = .ok (some (.text text))
  refused : ¬IsAddress text.toList → field.convert text = .ok none

/-- A field tells addresses, with or without a line break behind them, from other texts.  The
pattern of addresses does the same, and addresses are told apart exactly where no line break
follows one. -/
structure JudgesAddressLine (field : Field) (text : String) : Prop where
  kept : IsAddressLine text.toList → field.convert text = .ok (some (.text text))
  refused : ¬IsAddressLine text.toList → field.convert text = .ok none
  by_pattern : ∀ pattern : Schema.Pattern, pattern.source = addressSource →
    (field.convert text = .ok (some (.text text)) ↔
      Regex.matchesAt pattern.regex text.toList.toArray 0 = true)
  exact_iff : JudgesAddress field text ↔
    ¬∃ address, IsAddress address ∧ text.toList = address ++ ['\n']

theorem Field.convert_email_eq_some_iff {field : Field} {default : Option String}
    (typed : field.type = .email default) (text : String) :
    field.convert text = .ok (some (.text text)) ↔ IsAddressLine text.toList := by
  rw [Field.convert, typed, ← isEmail_iff]
  simp only [keepIf]
  by_cases passes : isEmail text.toList = true <;> simp [passes]

theorem Field.convert_email_eq_none_iff {field : Field} {default : Option String}
    (typed : field.type = .email default) (text : String) :
    field.convert text = .ok none ↔ ¬IsAddressLine text.toList := by
  rw [Field.convert, typed, ← isEmail_iff]
  simp only [keepIf]
  by_cases passes : isEmail text.toList = true <;> simp [passes]

/-- An address line that is no address is an address and a line break. -/
theorem IsAddressLine.broken {cs : List Char} (line : IsAddressLine cs)
    (no_address : ¬IsAddress cs) : ∃ address, IsAddress address ∧ cs = address ++ ['\n'] := by
  obtain ⟨address, is_address, rfl | broken⟩ := line
  · exact absurd is_address no_address
  · exact ⟨address, is_address, broken⟩

/-- A field of addresses keeps an address and an address that a line break follows, and refuses any
other text. -/
theorem convert_judgesAddressLine (field : Field) (default : Option String)
    (typed : field.type = .email default) (text : String) : JudgesAddressLine field text where
  kept := (field.convert_email_eq_some_iff typed text).2
  refused := (field.convert_email_eq_none_iff typed text).2
  by_pattern := by
    intro pattern source_eq
    rw [regex_eq_of_source_eq source_eq, matchesAt_addressPattern_iff,
      field.convert_email_eq_some_iff typed]
  exact_iff := by
    constructor
    · rintro judges ⟨address, is_address, text_eq⟩
      have no_address : ¬IsAddress text.toList := fun is_text =>
        is_text.not_break (text_eq ▸ List.getLast?_concat)
      exact (field.convert_email_eq_none_iff typed text).1 (judges.refused no_address)
        ⟨address, is_address, Or.inr text_eq⟩
    · intro unbroken
      refine ⟨fun is_address => ?_, fun no_address => ?_⟩
      · exact (field.convert_email_eq_some_iff typed text).2 ⟨_, is_address, Or.inl rfl⟩
      · exact (field.convert_email_eq_none_iff typed text).2
          fun line => unbroken (line.broken no_address)

/-- A field of addresses. -/
def adminField : Field := { type := .email none, allows_of_enum := by decide }

/-- Dots may stand on both sides of the at sign. -/
theorem convert_judgesAddressLine_dotted :
    adminField.type = .email none ∧ IsAddress "first.last@mail.example.org".toList ∧
      JudgesAddressLine adminField "first.last@mail.example.org" :=
  ⟨rfl, by decide, convert_judgesAddressLine adminField none rfl _⟩

/-- A line break behind an address is not refused. -/
theorem not_judgesAddress_broken : ¬JudgesAddress adminField "a@b.c\n" := by
  intro judges
  have refused : adminField.convert "a@b.c\n" = .ok none := judges.refused (by decide)
  have kept : adminField.convert "a@b.c\n" = .ok (some (.text "a@b.c\n")) := rfl
  rw [kept] at refused
  cases refused

end EnvConcord.Schema
