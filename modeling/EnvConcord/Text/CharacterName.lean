import EnvConcord.Text.Digits
import EnvConcord.Text.Lines
import EnvConcord.Text.NameTable

/-!
# Characters by name

A character is found by its name or by a further one, in capitals or not.  Names that end in
the code point of the character, and those of syllables, follow rules.  The rules for
syllables and for unified ideographs know capitals only.
-/

namespace EnvConcord.Text

/-! ## Tabulated names -/

/-- The words of a name, of which the first ones may be those of the name before it. -/
def wordsAfter (before : List (List Char)) : List Char → List (List Char)
  | [] => []
  | shared :: own =>
      before.take ((digitValue? shared).getD 0) ++ if own.isEmpty then [] else splitAt ' ' own

/-- The code point of a name, given by its words, among entries from a code point on. -/
def codeAmong? (name : List (List Char)) : List (List Char) → Nat → List (List Char) → Option Nat
  | [], _, _ => none
  | entry :: rest, code, before =>
      let words := wordsAfter before entry
      if words == name then some code else codeAmong? name rest (code + 1) words

/-- The code point of a name in capitals that stands in the tables. -/
def tabulatedCode? (name : List Char) : Option Nat :=
  (nameBlocks ++ aliasBlocks).findSome? fun (first, names) =>
    codeAmong? (splitAt ' ' name) (names.flatMap fun line => splitAt ',' line.toList) first []

/-! ## Names with code points -/

/-- The code point that capital hexadecimal digits write. -/
def codeOfDigits? (digits : List Char) : Option Nat :=
  if digits.all fun c => c.isDigit || ('A' ≤ c && c ≤ 'F') then
    some ((digits.filterMap hexValue?).foldl (fun total d => 16 * total + d) 0)
  else none

/-- The beginnings of names that end in a code point, with the first and the last one. -/
def codedNames : List (String × Nat × Nat) :=
  [("CJK COMPATIBILITY IDEOGRAPH-", 0xf900, 0xfa6d),
    ("CJK COMPATIBILITY IDEOGRAPH-", 0xfa70, 0xfad9),
    ("CJK COMPATIBILITY IDEOGRAPH-", 0x2f800, 0x2fa1d),
    ("KHITAN SMALL SCRIPT CHARACTER-", 0x18b00, 0x18cd5), ("NUSHU CHARACTER-", 0x1b170, 0x1b2fb)]

/-- The code point in which a name in capitals ends, without zeros in front. -/
def codedCode? (name : List Char) : Option Nat :=
  codedNames.findSome? fun (stem, first, last) =>
    match stem.toList.isPrefixOf? name with
    | none => none
    | some digits =>
        if digits.head? == some '0' then none
        else (codeOfDigits? digits).filter fun code => first ≤ code && code ≤ last

/-- The ranges of unified ideographs. -/
def ideographRanges : List (Nat × Nat) :=
  [(0x3400, 0x4dbf), (0x4e00, 0x9fff), (0x20000, 0x2a6df), (0x2a700, 0x2b738), (0x2b740, 0x2b81d),
    (0x2b820, 0x2cea1), (0x2ceb0, 0x2ebe0), (0x30000, 0x3134a)]

/-- The unified ideograph of four or five digits. -/
def ideographCode? (digits : List Char) : Option Nat :=
  if digits.length == 4 || digits.length == 5 then
    (codeOfDigits? digits).filter fun code =>
      ideographRanges.any fun (first, last) => first ≤ code && code ≤ last
  else none

/-! ## Syllables -/

/-- The leading consonants of syllables. -/
def leadNames : List String :=
  ["G", "GG", "N", "D", "DD", "R", "M", "B", "BB", "S", "SS", "", "J", "JJ", "C", "K", "T", "P", "H"]

/-- The vowels of syllables. -/
def vowelNames : List String :=
  ["A", "AE", "YA", "YAE", "EO", "E", "YEO", "YE", "O", "WA", "WAE", "OE", "YO", "U", "WEO", "WE",
    "WI", "YU", "EU", "YI", "I"]

/-- The final consonants of syllables. -/
def tailNames : List String :=
  ["", "G", "GG", "GS", "N", "NJ", "NH", "D", "L", "LG", "LM", "LB", "LS", "LT", "LP", "LH", "M",
    "B", "BS", "S", "SS", "NG", "J", "C", "K", "T", "P", "H"]

/-- The longest one of some names that a text begins with, by its index, and what is left. -/
def longestName? (names : List String) (cs : List Char) : Option (Nat × List Char) :=
  let fitting := names.zipIdx.filterMap fun (name, index) =>
    (name.toList.isPrefixOf? cs).map fun rest => (index, rest)
  fitting.find? fun found => fitting.all fun other => found.2.length ≤ other.2.length

/-- The syllable of a lead, a vowel and a tail. -/
def syllableCode? (cs : List Char) : Option Nat := do
  let (lead, cs) ← longestName? leadNames cs
  let (vowel, cs) ← longestName? vowelNames cs
  let (tail, cs) ← longestName? tailNames cs
  if cs.isEmpty then some (0xac00 + (lead * 21 + vowel) * 28 + tail) else none

/-! ## All names -/

/-- The code point of the character of a name. -/
def namedCode? (name : List Char) : Option Nat :=
  match "HANGUL SYLLABLE ".toList.isPrefixOf? name,
      "CJK UNIFIED IDEOGRAPH-".toList.isPrefixOf? name with
  | some parts, _ => syllableCode? parts
  | none, some digits => ideographCode? digits
  | none, none =>
      let name := name.map Char.toUpper
      (codedCode? name).or (tabulatedCode? name)

end EnvConcord.Text
