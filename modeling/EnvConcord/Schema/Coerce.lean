import EnvConcord.Document.Plain
import EnvConcord.Number.Numeral
import EnvConcord.Text.Blank
import EnvConcord.Text.LowerCase
import EnvConcord.Text.Lines
import EnvConcord.Text.Utf8

/-!
# Attribute values

The attributes of a field take values of certain kinds.  Values of other kinds are
taken over where nothing is lost: a text that writes a number, a number that equals
an integer, and the usual spellings of flags.
-/

namespace EnvConcord.Schema

open Document

/-- Why a value is refused. -/
inductive Refusal
  | noText
  | badText
  | noInteger
  | badInteger
  | fractional
  | notFinite
  | integerTooLarge
  | noNumber
  | badNumber
  | noFlag
  | badFlag
  | negative
  | noList
  | noChoice
  | noMapping
  | noType
  | unknownType
  | noAttribute
  | badAttribute
  | missing
  /-- A value that a check of its own refuses, such as a text that is no regular expression. -/
  | badValue (reason : String)
  deriving DecidableEq, Repr

/-- The digits of an integer numeral: single underscores between digits are dropped, and
so is a fraction of zeros. -/
def integerDigits? (cs : List Char) : Option (List Char) :=
  let whole := cs.takeWhile (· != '.')
  let fraction := (cs.dropWhile (· != '.')).drop 1
  let parts := Text.splitAt '_' whole
  if fraction.all (· == '0') && parts.all (fun part => !part.isEmpty && part.all Char.isDigit) then
    some parts.flatten
  else none

/-- The integer that a text writes. -/
def integerOfText (text : String) : Except Refusal Int :=
  let (negative, digits) := Numeral.splitSign (Text.trim text.toList)
  match integerDigits? digits with
  | none => .error .badInteger
  | some digits =>
      match Numeral.toInt negative digits with
      | .ok n => .ok n
      | .error _ => .error .integerTooLarge

/-- The bound from which on a double is not taken for an integer. -/
def wordBound : Int := Nat.pow 2 63

/-- The integer that a double equals. -/
def integerOfFloat (x : Binary64) : Except Refusal Int :=
  if !x.isFinite then .error .notFinite
  else
    match x.toInt? with
    | none => .error .fractional
    | some n => if -wordBound < n && n < wordBound then .ok n else .error .integerTooLarge

/-- The text that octets encode; octets that encode none are refused. -/
def textOfOctets (refusal : ε) (data : List Nat) : Except ε String :=
  match Text.Utf8.decode data with
  | .ok cs => .ok (String.ofList cs)
  | .error _ => .error refusal

/-- The text of a value: octets count as the text that they encode. -/
def textOf : Value → Except Refusal String
  | .text s => .ok s
  | .octets data => textOfOctets .badText data
  | _ => .error .noText

/-- The integer of a value. -/
def integerOf : Value → Except Refusal Int
  | .int n => .ok n
  | .bool b => .ok (if b then 1 else 0)
  | .text s => integerOfText s
  | .octets data => textOfOctets .badInteger data >>= integerOfText
  | .float x => integerOfFloat x
  | _ => .error .noInteger

/-- The words for infinite and undefined numbers. -/
def specialNumber? (cs : List Char) : Option Binary64 :=
  let (negative, word) := Numeral.splitSign cs
  let word := String.ofList (word.map Char.toLower)
  if word == "inf" || word == "infinity" then some (.infinite negative)
  else if word == "nan" then some .nan
  else none

/-- The double that a text writes, with ASCII digits and single underscores between them. -/
def floatOfText (text : String) : Except Refusal Binary64 :=
  let cs := Text.trim text.toList
  let isFree (c : Char) : Bool := c.toNat < 128
  let parts := Text.splitAt '_' cs
  let joined := parts.flatten
  let spaced := parts.length == 1 ||
    (parts.dropLast.all (fun part => part.getLast?.any Char.isDigit) &&
      parts.tail.all (fun part => part.head?.any Char.isDigit))
  match specialNumber? cs with
  | some x => .ok x
  | none =>
      if !spaced || !joined.all isFree then .error .badNumber
      else
        match Numeral.read? joined with
        | some numeral => .ok numeral.toBinary64
        | none => .error .badNumber

/-- The number that a text writes, or the refusals as an integer and as a double. -/
def numberOfText (text : String) : Except (Refusal × Refusal) Number :=
  match integerOfText text with
  | .ok n => .ok (.int n)
  | .error refusal =>
      match floatOfText text with
      | .ok x => .ok (.float x)
      | .error other => .error (refusal, other)

/-- The number of a value, or the refusals as an integer and as a double. -/
def numberOf : Value → Except (Refusal × Refusal) Number
  | .int n => .ok (.int n)
  | .float x => .ok (.float x)
  | .bool b => .ok (.int (if b then 1 else 0))
  | .text s => numberOfText s
  | .octets data => textOfOctets (.badInteger, .badNumber) data >>= numberOfText
  | _ => .error (.noInteger, .noNumber)

/-- The spellings of true among attribute values. -/
def truthWords : List String := ["1", "on", "t", "true", "y", "yes"]

/-- The spellings of false among attribute values. -/
def falsehoodWords : List String := ["0", "off", "f", "false", "n", "no"]

/-- The flag of an integer. -/
def flagOfInteger (n : Int) : Except Refusal Bool :=
  if n = 0 then .ok false else if n = 1 then .ok true else .error .badFlag

/-- The flag that a text spells. -/
def flagOfText (text : String) : Except Refusal Bool :=
  let word := String.ofList (text.toList.map Char.toLower)
  if truthWords.contains word then .ok true
  else if falsehoodWords.contains word then .ok false
  else .error .badFlag

/-- The flag of a value. -/
def flagOf : Value → Except Refusal Bool
  | .bool b => .ok b
  | .int n => flagOfInteger n
  | .text s => flagOfText s
  | .octets data => textOfOctets .badFlag data >>= flagOfText
  | .float x =>
      match integerOfFloat x with
      | .ok n => flagOfInteger n
      | .error .integerTooLarge => .error .badFlag
      | .error _ => .error .noFlag
  | _ => .error .noFlag

/-- A choice as text: flags are written in lower case. -/
def choiceText : Value → Except TooManyDigits String
  | .bool b => .ok (if b then "true" else "false")
  | value => value.written

/-- The refusals of the items that are no texts, each with its position. -/
def textRefusals (items : List Value) : List (List String × Refusal) :=
  items.zipIdx.filterMap fun (item, position) =>
    match textOf item with
    | .ok _ => none
    | .error refusal => some ([toString position], refusal)

/-- The texts that items are, or the refusals of the others. -/
def textsOf (items : List Value) : Except (List (List String × Refusal)) (List String) :=
  let refusals := textRefusals items
  if refusals.isEmpty then .ok (items.filterMap fun item => (textOf item).toOption)
  else .error refusals

/-- The choices of a value, or the refusals with the part of the value that each concerns: the
items of a list as texts, or the items of a set or of a pair, which have to be texts. -/
def choicesOf : Value → Except (List (List String × Refusal)) (List String)
  | .list items => (items.mapM choiceText).mapError fun cause => [([], .badValue cause.message)]
  | .pair first second => textsOf [first, second]
  | .set items => textsOf items
  | _ => .error [([], .noList)]

end EnvConcord.Schema
