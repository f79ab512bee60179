import EnvConcord.Document.Chars
import EnvConcord.Document.Value
import EnvConcord.Number.Numeral
import EnvConcord.Text.Digits

/-!
# Scalars of a TOML text

Texts stand between quotes, of which basic ones know escapes and literal ones do not;
three quotes allow line breaks.  All other scalars are recognised by their first
characters.
-/

namespace EnvConcord.Document.Toml

/-- What is wrong with a text. -/
inductive Fault
  | malformed
  | tooManyDigits (cause : TooManyDigits)
  deriving DecidableEq, Repr

/-- Whether a character controls a device; a tab is allowed everywhere. -/
def isControl (c : Char) : Bool := c != '\t' && (c.toNat < 32 || c.toNat == 127)

/-- Pass blanks. -/
def skipBlanks (cs : List Char) : List Char := cs.dropWhile isInlineBlank

/-- Pass blanks and line breaks. -/
def skipSpace (cs : List Char) : List Char := cs.dropWhile fun c => isInlineBlank c || c == '\n'

/-- Pass a comment, which holds no control characters. -/
def skipComment : List Char → Except Fault (List Char)
  | '#' :: rest =>
      if (rest.takeWhile (· != '\n')).any isControl then .error .malformed
      else .ok (rest.dropWhile (· != '\n'))
  | rest => .ok rest

/-- The rest behind an opening, if the text begins with it. -/
def behind? (opening : List Char) (cs : List Char) : Option (List Char) :=
  if opening.isPrefixOf cs then some (cs.drop opening.length) else none

/-! ## Texts -/

/-- The characters of short escapes. -/
def escapes : List (Char × Char) :=
  [('b', '\x08'), ('t', '\t'), ('n', '\n'), ('f', '\x0c'), ('r', '\r'), ('"', '"'), ('\\', '\\')]

/-- The character of a code point with a number of digits. -/
def readCodePoint (size : Nat) (cs : List Char) : Except Fault (List Char × List Char) :=
  let digits := (cs.take size).filterMap Text.hexValue?
  let code := digits.foldl (fun total d => 16 * total + d) 0
  if h : digits.length = size ∧ code.isValidChar then
    .ok ([Char.ofNatAux code h.2], cs.drop size)
  else .error .malformed

/-- The escape behind a backslash. In a text of several lines a backslash at the end of a
line joins the next one. -/
def readEscape (multiline : Bool) (cs : List Char) : Except Fault (List Char × List Char) :=
  match cs with
  | 'u' :: rest => readCodePoint 4 rest
  | 'U' :: rest => readCodePoint 8 rest
  | c :: rest =>
      if multiline && (isInlineBlank c || c == '\n') then
        match skipBlanks cs with
        | [] => .ok ([], [])
        | '\n' :: rest => .ok ([], skipSpace rest)
        | _ => .error .malformed
      else
        match escapes.lookup c with
        | some x => .ok ([x], rest)
        | none => .error .malformed
  | [] => .error .malformed

/-- Read a basic text behind its opening quotes. -/
def readBasic (multiline : Bool) : Nat → List Char → Except Fault (List Char × List Char)
  | 0, _ => .error .malformed
  | _ + 1, [] => .error .malformed
  | fuel + 1, '"' :: rest =>
      if !multiline then .ok ([], rest)
      else
        match behind? ['"', '"'] rest with
        | some rest => .ok ([], rest)
        | none => do
            let (more, rest) ← readBasic multiline fuel rest
            return ('"' :: more, rest)
  | fuel + 1, '\\' :: rest => do
      let (own, rest) ← readEscape multiline rest
      let (more, rest) ← readBasic multiline fuel rest
      return (own ++ more, rest)
  | fuel + 1, c :: rest =>
      if isControl c && !(multiline && c == '\n') then .error .malformed
      else do
        let (more, rest) ← readBasic multiline fuel rest
        return (c :: more, rest)

/-- Read a literal text of one line behind its opening quote. -/
def readLiteral (cs : List Char) : Except Fault (List Char × List Char) :=
  let own := cs.takeWhile (· != '\'')
  match cs.dropWhile (· != '\'') with
  | _ :: rest => if own.any isControl then .error .malformed else .ok (own, rest)
  | [] => .error .malformed

/-- Read a literal text of several lines behind its opening quotes. -/
def readLiteralLines : List Char → Except Fault (List Char × List Char)
  | [] => .error .malformed
  | c :: rest =>
      match behind? ['\'', '\'', '\''] (c :: rest) with
      | some rest => .ok ([], rest)
      | none =>
          if isControl c && c != '\n' then .error .malformed
          else do
            let (more, rest) ← readLiteralLines rest
            return (c :: more, rest)

/-- Up to two quotes more belong to a text that ends with three. -/
def readExtraQuotes (quote : Char) (own rest : List Char) : List Char × List Char :=
  let extra := min 2 (rest.takeWhile (· == quote)).length
  (own ++ List.replicate extra quote, rest.drop extra)

/-- A line break directly behind the opening quotes does not count. -/
def dropFirstBreak : List Char → List Char
  | '\n' :: rest => rest
  | rest => rest

/-- Read a basic text of one line behind its quote. -/
def readBasicLine (cs : List Char) : Except Fault (List Char × List Char) :=
  readBasic false (cs.length + 1) cs

/-- Read a text at its quotes. -/
def readText (quote : Char) (cs : List Char) : Except Fault (List Char × List Char) :=
  match behind? [quote, quote, quote] cs with
  | some rest => do
      let rest := dropFirstBreak rest
      let (own, rest) ←
        if quote == '"' then readBasic true (rest.length + 1) rest else readLiteralLines rest
      return readExtraQuotes quote own rest
  | none => if quote == '"' then readBasicLine (cs.drop 1) else readLiteral (cs.drop 1)

/-! ## Moments -/

/-- A number of exactly so many digits within bounds. -/
def readNumber? (size low high : Nat) (cs : List Char) : Option (Nat × List Char) :=
  let digits := cs.take size
  let value := Text.digitsValue digits
  if digits.length = size ∧ digits.all Char.isDigit ∧ low ≤ value ∧ value ≤ high then
    some (value, cs.drop size)
  else none

/-- A time of day. -/
def readTime? (cs : List Char) : Option (TimeOfDay × List Char) := do
  let (hour, rest) ← readNumber? 2 0 23 cs
  let (minute, rest) ← readNumber? 2 0 59 (← behind? [':'] rest)
  let (second, rest) ← readNumber? 2 0 59 (← behind? [':'] rest)
  match rest with
  | '.' :: fraction =>
      let digits := fraction.takeWhile Char.isDigit
      if digits.isEmpty then return (⟨hour, minute, second, 0⟩, rest)
      else
        let six := digits.take 6
        let value := Text.digitsValue (six ++ List.replicate (6 - six.length) '0')
        return (⟨hour, minute, second, value⟩, fraction.drop digits.length)
  | _ => return (⟨hour, minute, second, 0⟩, rest)

/-- A distance from universal time behind its sign. -/
def readOffset? (cs : List Char) : Option (Int × List Char) := do
  let (hours, rest) ← readNumber? 2 0 23 cs
  let (minutes, rest) ← readNumber? 2 0 59 (← behind? [':'] rest)
  return (3600 * hours + 60 * minutes, rest)

/-- A distance from universal time, if one is written. -/
def readZone (cs : List Char) : Option Int × List Char :=
  match cs with
  | 'Z' :: rest => (some 0, rest)
  | 'z' :: rest => (some 0, rest)
  | '+' :: rest =>
      match readOffset? rest with
      | some (seconds, rest) => (some seconds, rest)
      | none => (none, cs)
  | '-' :: rest =>
      match readOffset? rest with
      | some (seconds, rest) => (some (-seconds), rest)
      | none => (none, cs)
  | _ => (none, cs)

/-- A day, which may be missing in its month. -/
def readDate? (cs : List Char) : Option ((Nat × Nat × Nat) × List Char) := do
  let (year, rest) ← readNumber? 4 0 9999 cs
  let (month, rest) ← readNumber? 2 1 12 (← behind? ['-'] rest)
  let (day, rest) ← readNumber? 2 1 31 (← behind? ['-'] rest)
  return ((year, month, day), rest)

/-- A time behind a date. -/
def readTimeBehind? : List Char → Option (TimeOfDay × List Char)
  | c :: rest => if c == 'T' || c == 't' || c == ' ' then readTime? rest else none
  | [] => none

/-- A date, perhaps with a time, or a time. -/
def readMoment? (cs : List Char) : Option (Except Fault (Moment × List Char)) :=
  match readDate? cs with
  | some ((year, month, day), rest) => some <|
      match Date.ofNumbers year month day with
      | .error _ => .error .malformed
      | .ok date =>
          match readTimeBehind? rest with
          | none => .ok (.date date, rest)
          | some (time, rest) =>
              let (zone, rest) := readZone rest
              .ok (.dateTime date time zone, rest)
  | none => (readTime? cs).map fun (time, rest) => .ok (.time time, rest)

/-! ## Numbers -/

/-- Digits between which single underscores may stand, as written, and the rest. -/
def readDigits (isDigit : Char → Bool) : List Char → List Char × List Char
  | '_' :: d :: rest =>
      if isDigit d then
        let (more, rest) := readDigits isDigit rest
        (d :: more, rest)
      else ([], '_' :: d :: rest)
  | d :: rest =>
      if isDigit d then
        let (more, rest) := readDigits isDigit rest
        (d :: more, rest)
      else ([], d :: rest)
  | [] => ([], [])

/-- Digits that begin with a digit. -/
def readRun (isDigit : Char → Bool) (cs : List Char) : List Char × List Char :=
  match cs with
  | c :: _ => if isDigit c then readDigits isDigit cs else ([], cs)
  | [] => ([], [])

/-- Whether a character is a digit of a base. -/
def isDigitOf (base : Nat) (c : Char) : Bool := (Text.hexValue? c).any (· < base)

/-- An integer of another base behind its mark. -/
def readBased? : List Char → Option (Nat × List Char)
  | '0' :: mark :: rest =>
      let base := ([('x', 16), ('o', 8), ('b', 2)].lookup mark).getD 0
      let (digits, rest) := readRun (isDigitOf base) rest
      if digits.isEmpty then none
      else some ((digits.filterMap Text.hexValue?).foldl (fun total d => base * total + d) 0, rest)
  | _ => none

/-- The fraction of a number, if one is written. -/
def readFraction (cs : List Char) : Option (List Char) × List Char :=
  match cs with
  | '.' :: rest =>
      match readRun Char.isDigit rest with
      | ([], _) => (none, cs)
      | (digits, rest) => (some digits, rest)
  | _ => (none, cs)

/-- The exponent of a number, if one is written. -/
def readExponent (cs : List Char) : Option (Bool × List Char) × List Char :=
  match cs with
  | mark :: rest =>
      if mark == 'e' || mark == 'E' then
        let (negative, rest) := Numeral.splitSign rest
        match readRun Char.isDigit rest with
        | ([], _) => (none, cs)
        | (digits, rest) => (some (negative, digits), rest)
      else (none, cs)
  | [] => (none, cs)

/-- A decimal number: an integer without leading zeros, and perhaps more. -/
def readDecimal? (cs : List Char) : Option (Numeral × List Char) :=
  let (negative, rest) := Numeral.splitSign cs
  let (integral, rest) :=
    match rest with
    | '0' :: rest => (['0'], rest)
    | rest => readRun Char.isDigit rest
  if integral.isEmpty then none
  else
    let (fraction, rest) := readFraction rest
    let (exponent, rest) := readExponent rest
    some ({ negative, integral, fraction, exponent }, rest)

/-- The words for infinite and undefined numbers. -/
def specialNumbers : List (List Char × Binary64) :=
  [(['i', 'n', 'f'], .infinite false), (['n', 'a', 'n'], .nan),
    (['-', 'i', 'n', 'f'], .infinite true), (['+', 'i', 'n', 'f'], .infinite false),
    (['-', 'n', 'a', 'n'], .nan), (['+', 'n', 'a', 'n'], .nan)]

/-- A special number at the start of a text. -/
def readSpecial? (cs : List Char) : Option (Binary64 × List Char) :=
  specialNumbers.findSome? fun (word, x) => (behind? word cs).map fun rest => (x, rest)

/-- A number. -/
def readNumeric (cs : List Char) : Except Fault (Value × List Char) :=
  match readBased? cs with
  | some (n, rest) => .ok (.int n, rest)
  | none =>
      match readDecimal? cs with
      | some (numeral, rest) =>
          match numeral.toNumber with
          | .ok (.int n) => .ok (.int n, rest)
          | .ok (.float x) => .ok (.float x, rest)
          | .error cause => .error (.tooManyDigits cause)
      | none =>
          match readSpecial? cs with
          | some (x, rest) => .ok (.float x, rest)
          | none => .error .malformed

/-- A scalar other than a text. -/
def readScalar (cs : List Char) : Except Fault (Value × List Char) :=
  match behind? "true".toList cs, behind? "false".toList cs with
  | some rest, _ => .ok (.bool true, rest)
  | none, some rest => .ok (.bool false, rest)
  | none, none =>
      match readMoment? cs with
      | some reading => reading.map fun (moment, rest) => (.moment moment, rest)
      | none => readNumeric cs

end EnvConcord.Document.Toml
