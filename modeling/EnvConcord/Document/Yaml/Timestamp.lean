import EnvConcord.Document.Chars
import EnvConcord.Document.Moment
import EnvConcord.Text.Digits

/-!
# Timestamps

A timestamp is a date of the form `year-month-day`, or such a date with a time and
perhaps a zone.  The canonical date has all its leading zeros.
-/

namespace EnvConcord.Document.Yaml

/-- A number as written: how many digits, and their value. -/
structure Figure where
  width : Nat
  value : Nat
  deriving DecidableEq, Repr, Inhabited

/-- The time of a timestamp; the zone counts seconds. -/
structure Clock where
  hour : Figure
  minute : Figure
  second : Figure
  fraction : List Char
  zone : Option Int
  deriving DecidableEq, Repr

/-- The parts of a timestamp. -/
structure Timestamp where
  year : Figure
  month : Figure
  day : Figure
  clock : Option Clock
  deriving DecidableEq, Repr

/-- At least `least` and at most `most` digits, and the rest. -/
def readFigure? (least most : Nat) (cs : List Char) : Option (Figure × List Char) :=
  let digits := (cs.take most).takeWhile Char.isDigit
  if least ≤ digits.length then
    some (⟨digits.length, Text.digitsValue digits⟩, cs.drop digits.length)
  else none

/-- The rest behind a character. -/
def skip? (c : Char) : List Char → Option (List Char)
  | [] => none
  | d :: rest => if d = c then some rest else none

/-- The minutes of a zone, which may be absent. -/
def readZoneMinutes? : List Char → Option Nat
  | [] => some 0
  | cs => do
      let (minutes, rest) ← readFigure? 2 2 (← skip? ':' cs)
      if rest.isEmpty then some minutes.value else none

/-- The zone at the end of a timestamp, if there is one. -/
def readZone? (cs : List Char) : Option (Option Int) :=
  if cs.isEmpty then some none
  else
    match cs.dropWhile isInlineBlank with
    | ['Z'] => some (some 0)
    | sign :: rest =>
        if sign == '+' || sign == '-' then do
          let (hours, rest) ← readFigure? 1 2 rest
          let minutes ← readZoneMinutes? rest
          let seconds : Int := 3600 * hours.value + 60 * minutes
          some (some (if sign == '-' then -seconds else seconds))
        else none
    | [] => none

/-- A fraction behind a point, which may be absent, and the rest. -/
def readFraction : List Char → List Char × List Char
  | '.' :: rest => (rest.takeWhile Char.isDigit, rest.dropWhile Char.isDigit)
  | rest => ([], rest)

/-- What separates a date from a time, and the rest. -/
def skipSeparator? : List Char → Option (List Char)
  | 'T' :: rest => some rest
  | 't' :: rest => some rest
  | c :: rest => if isInlineBlank c then some (rest.dropWhile isInlineBlank) else none
  | [] => none

/-- The time of a timestamp. -/
def readClock? (cs : List Char) : Option Clock := do
  let (hour, rest) ← readFigure? 1 2 (← skipSeparator? cs)
  let (minute, rest) ← readFigure? 2 2 (← skip? ':' rest)
  let (second, rest) ← readFigure? 2 2 (← skip? ':' rest)
  let (fraction, rest) := readFraction rest
  let zone ← readZone? rest
  return { hour, minute, second, fraction, zone }

/-- Read a timestamp. -/
def Timestamp.read? (cs : List Char) : Option Timestamp := do
  let (year, rest) ← readFigure? 4 4 cs
  let (month, rest) ← readFigure? 1 2 (← skip? '-' rest)
  let (day, rest) ← readFigure? 1 2 (← skip? '-' rest)
  if rest.isEmpty then return { year, month, day, clock := none }
  else return { year, month, day, clock := some (← readClock? rest) }

/-- Whether a timestamp is taken for one without being marked as such: a date alone has
two digits for the month and the day. -/
def Timestamp.isCanonical (s : Timestamp) : Bool :=
  s.clock.isSome || (s.month.width == 2 && s.day.width == 2)

/-- The millionths that the digits of a fraction write. -/
def millionths (fraction : List Char) : Nat :=
  let digits := fraction.take 6
  Text.digitsValue (digits ++ List.replicate (6 - digits.length) '0')

/-- The moment of a timestamp. -/
def Timestamp.toMoment (s : Timestamp) : Except MomentFault Moment :=
  match s.clock with
  | none => (Date.ofNumbers s.year.value s.month.value s.day.value).map .date
  | some clock => do
      let offset ← clock.zone.mapM checkOffset
      let date ← Date.ofNumbers s.year.value s.month.value s.day.value
      let time ← TimeOfDay.ofNumbers clock.hour.value clock.minute.value clock.second.value
        (millionths clock.fraction)
      return .dateTime date time offset

end EnvConcord.Document.Yaml
