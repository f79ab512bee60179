/-!
# Calendar values

A moment is a date, a time of day, or a date with a time and perhaps its distance
from universal time.  Moments are built from numbers that exist in the calendar.
-/

namespace EnvConcord.Document

/-- A day of the calendar. -/
structure Date where
  year : Nat
  month : Nat
  day : Nat
  deriving DecidableEq, Repr, Inhabited

/-- A time of day, down to millionths of a second. -/
structure TimeOfDay where
  hour : Nat
  minute : Nat
  second : Nat
  millionths : Nat
  deriving DecidableEq, Repr, Inhabited

/-- A calendar value; the distance from universal time counts seconds. -/
inductive Moment
  | date (date : Date)
  | time (time : TimeOfDay)
  | dateTime (date : Date) (time : TimeOfDay) (offset : Option Int)
  deriving DecidableEq, Repr, Inhabited

/-- Why numbers are no moment. -/
inductive MomentFault
  | year (value : Nat)
  | month
  | day
  | hour
  | minute
  | second
  /-- A distance of a day or more, in seconds. -/
  | offset (seconds : Int)
  deriving DecidableEq, Repr

/-! ## Making moments -/

/-- Whether a year has a leap day. -/
def isLeapYear (year : Nat) : Bool :=
  year % 4 == 0 && (year % 100 != 0 || year % 400 == 0)

/-- The number of days of a month. -/
def daysIn (year month : Nat) : Nat :=
  if month = 2 then if isLeapYear year then 29 else 28
  else if month = 4 ∨ month = 6 ∨ month = 9 ∨ month = 11 then 30
  else 31

/-- The date of three numbers. -/
def Date.ofNumbers (year month day : Nat) : Except MomentFault Date :=
  if year < 1 ∨ 9999 < year then .error (.year year)
  else if month < 1 ∨ 12 < month then .error .month
  else if day < 1 ∨ daysIn year month < day then .error .day
  else .ok ⟨year, month, day⟩

/-- The time of four numbers. -/
def TimeOfDay.ofNumbers (hour minute second millionths : Nat) : Except MomentFault TimeOfDay :=
  if 23 < hour then .error .hour
  else if 59 < minute then .error .minute
  else if 59 < second then .error .second
  else .ok ⟨hour, minute, second, millionths⟩

/-- The seconds of a day. -/
def daySeconds : Nat := 86400

/-- A distance from universal time, which is less than a day. -/
def checkOffset (seconds : Int) : Except MomentFault Int :=
  if seconds.natAbs < daySeconds then .ok seconds else .error (.offset seconds)

/-! ## Texts -/

/-- A number with leading zeros. -/
def padded (width value : Nat) : String :=
  let digits := Nat.toDigits 10 value
  String.ofList (List.replicate (width - digits.length) '0' ++ digits)

/-- The text of a date. -/
def Date.text (d : Date) : String :=
  padded 4 d.year ++ "-" ++ padded 2 d.month ++ "-" ++ padded 2 d.day

/-- The text of a time; millionths are written only if there are any. -/
def TimeOfDay.text (t : TimeOfDay) : String :=
  padded 2 t.hour ++ ":" ++ padded 2 t.minute ++ ":" ++ padded 2 t.second ++
    (if t.millionths = 0 then "" else "." ++ padded 6 t.millionths)

/-- The text of a distance from universal time. -/
def offsetText (seconds : Int) : String :=
  let size := seconds.natAbs
  (if seconds < 0 then "-" else "+") ++ padded 2 (size / 3600) ++ ":" ++
    padded 2 (size / 60 % 60) ++
    (if size % 60 = 0 then "" else ":" ++ padded 2 (size % 60))

/-- The text of a moment. -/
def Moment.text : Moment → String
  | .date d => d.text
  | .time t => t.text
  | .dateTime d t offset => d.text ++ " " ++ t.text ++ (offset.map offsetText).getD ""

/-- The name of a moment's kind. -/
def Moment.kindName : Moment → String
  | .date _ => "date"
  | .time _ => "time"
  | .dateTime .. => "datetime"

/-! ## Order -/

/-- What moments have to have in common to be compared. -/
inductive MomentKind
  | date
  | time
  /-- A date with a time whose distance from universal time is not known. -/
  | localTime
  | zonedTime
  deriving DecidableEq, Repr

/-- The kind of a moment. -/
def Moment.kind : Moment → MomentKind
  | .date _ => .date
  | .time _ => .time
  | .dateTime _ _ none => .localTime
  | .dateTime _ _ (some _) => .zonedTime

/-- The number of a day, counted from the first day of the first year. -/
def Date.dayNumber (d : Date) : Nat :=
  let years := d.year - 1
  let months := (List.range (d.month - 1)).map fun month => daysIn d.year (month + 1)
  365 * years + years / 4 - years / 100 + years / 400 + months.foldl (· + ·) 0 + d.day

/-- The millionths of a second since midnight. -/
def TimeOfDay.position (t : TimeOfDay) : Nat :=
  ((t.hour * 60 + t.minute) * 60 + t.second) * 1000000 + t.millionths

/-- Where a moment lies among the moments of its kind; a known distance from universal time
is taken off. -/
def Moment.position : Moment → Int
  | .date d => d.dayNumber
  | .time t => t.position
  | .dateTime d t offset =>
      (d.dayNumber * daySeconds - offset.getD 0) * 1000000 + t.position

/-- Whether two moments are one point in time. -/
def Moment.same (a b : Moment) : Bool := a.kind == b.kind && a.position == b.position

/-! ## Texts of parts -/

/-- A duration by its days, rounded down, and the seconds left. -/
def durationShown (seconds : Int) : String :=
  let days := Int.fdiv seconds daySeconds
  let rest := Int.fmod seconds daySeconds
  let parts :=
    (if days = 0 then [] else ["days=" ++ toString days]) ++
      (if rest = 0 then [] else ["seconds=" ++ toString rest])
  "datetime.timedelta(" ++ (if parts.isEmpty then "0" else String.intercalate ", " parts) ++ ")"

/-- The numbers of a time; zero seconds and zero millionths at the end are left out. -/
def TimeOfDay.numbers (t : TimeOfDay) : List Nat :=
  [t.hour, t.minute] ++
    if t.millionths = 0 then if t.second = 0 then [] else [t.second]
    else [t.second, t.millionths]

/-- A distance from universal time as a part of a moment. -/
def offsetShown (seconds : Int) : String :=
  if seconds = 0 then "datetime.timezone.utc"
  else "datetime.timezone(" ++ durationShown seconds ++ ")"

/-- The numbers of a date. -/
def Date.numbers (d : Date) : List Nat := [d.year, d.month, d.day]

/-- A moment as a part of a list or mapping: its kind and its numbers. -/
def Moment.shown (m : Moment) : String :=
  let parts :=
    match m with
    | .date d => d.numbers.map toString
    | .time t => t.numbers.map toString
    | .dateTime d t offset =>
        (d.numbers ++ t.numbers).map toString ++
          (offset.map fun seconds => "tzinfo=" ++ offsetShown seconds).toList
  "datetime." ++ m.kindName ++ "(" ++ String.intercalate ", " parts ++ ")"

/-- The text of a fault. -/
def MomentFault.message : MomentFault → String
  | .year value => "year " ++ toString value ++ " is out of range"
  | .month => "month must be in 1..12"
  | .day => "day is out of range for month"
  | .hour => "hour must be in 0..23"
  | .minute => "minute must be in 0..59"
  | .second => "second must be in 0..59"
  | .offset seconds =>
      "offset must be a timedelta strictly between -timedelta(hours=24) and " ++
        "timedelta(hours=24), not " ++ durationShown seconds ++ "."

end EnvConcord.Document
