import EnvConcord.Schema.Validate
import Mathlib.Data.Option.Basic

/-!
# The checks of a field

Six checks are made of a value, each for itself.  The verdict on a field reports the first
of them that fails, and apart from them a secret that has a default.
-/

namespace EnvConcord.Schema

open Document

/-- The checks of a value. -/
inductive Check
  | presence
  | choice
  | conversion
  | lowerBound
  | upperBound
  | pattern
  deriving DecidableEq, Repr

/-- The checks in the order in which they count. -/
def Check.all : List Check :=
  [.presence, .choice, .conversion, .lowerBound, .upperBound, .pattern]

/-- What is found about a key. -/
inductive Finding
  | missing
  | breach (group : BreachClass) (issue : Issue)
  | exposedDefault (issue : Issue)
  | unused
  deriving DecidableEq, Repr

/-! ## Checks one by one -/

/-- Whether there is no value, or an empty one. -/
def isBlankValue (value : Option String) : Bool := value.getD "" == ""

/-- Whether a text stands for no value of the field. -/
def Field.refuses (field : Field) (text : String) : Bool :=
  match field.convert text with
  | .ok none => true
  | _ => false

/-- The number that a text is converted to. -/
def Field.number? (field : Field) (text : String) : Option Number :=
  match field.convert text with
  | .ok (some converted) => converted.toNumber?
  | _ => none

/-- What the bounds of a field are compared with: the length of a text, or the number it writes. -/
def Field.size? (field : Field) (text : String) : Option Number :=
  match field.type with
  | .string .. => some (.int text.length)
  | .number .. => field.number? text
  | _ => none

/-- The breach of a lower bound. -/
def Field.lowBreach? (field : Field) (text : String) : Option Breach :=
  match field.type with
  | .string _ (some min) _ _ => if text.length < min then some (.tooShort min) else none
  | .number (some min) _ _ =>
      if (field.number? text).any fun number => number.less min then some (.tooSmall min) else none
  | _ => none

/-- The breach of an upper bound. -/
def Field.highBreach? (field : Field) (text : String) : Option Breach :=
  match field.type with
  | .string _ _ (some max) _ => if max < text.length then some (.tooLong max) else none
  | .number _ (some max) _ =>
      if (field.number? text).any fun number => max.less number then some (.tooLarge max) else none
  | _ => none

/-- What a text breaches in the view of one check; presence is no matter of the text. -/
def Field.breachAt? (field : Field) (text : String) : Check → Option Breach
  | .presence => none
  | .choice =>
      (field.allowedValues.filter fun choices => !choices.contains text).map .notAllowed
  | .conversion => if field.refuses text then some (.badType field.typeName) else none
  | .lowerBound => field.lowBreach? text
  | .upperBound => field.highBreach? text
  | .pattern =>
      (field.pattern?.filter fun pattern =>
        pattern.source != "" && !Pattern.Regex.occursIn pattern.regex text.toList).map
          fun pattern => .badFormat pattern.source

/-- The finding of a breach. -/
def Field.breachFinding (field : Field) (key text : String) (breach : Breach) : Finding :=
  .breach breach.group (field.issue key text breach.message)

/-- What one check finds about a key; without a value only presence is checked. -/
def Field.findingAt? (field : Field) (key : String) (value : Option String) :
    Check → Option Finding
  | .presence => if field.required && isBlankValue value then some .missing else none
  | check => value.bind fun text => (field.breachAt? text check).map (field.breachFinding key text)

/-- The finding of the first check that fails. -/
def Field.firstFinding? (field : Field) (key : String) (value : Option String) :
    Option Finding :=
  Check.all.findSome? (field.findingAt? key value)

/-- A secret that has a default is found with every value that is not missing. -/
def Field.exposure? (field : Field) (key : String) (value : Option String) : Option Finding :=
  if field.findingAt? key value .presence = none && field.isSensitive && field.hasDefault then
    value.map fun text =>
      .exposedDefault (field.issue key text "Sensitive field cannot have default value")
  else none

/-! ## Bounds and conversions -/

theorem number?_of_readNumber? {field : Field} {text : String} {number : Number}
    {min max default : Option Number} (type_eq : field.type = .number min max default)
    (read : readNumber? text = .ok (some number)) : field.number? text = some number := by
  have converted : field.convert text = .ok (some (numberValue number)) := by
    rw [Field.convert, type_eq]
    simp only [read]
    rfl
  rw [Field.number?, converted]
  cases number <;> rfl

/-- The breach of the bounds on a length is that of the lower one, or else of the upper one. -/
theorem lengthBreach?_eq (min max : Option Int) (length : Int) :
    lengthBreach? min max length =
      (min.bind fun low => if length < low then some (Breach.tooShort low) else none).or
        (max.bind fun high => if high < length then some (Breach.tooLong high) else none) := by
  cases min with
  | none => cases max <;> simp [lengthBreach?, Option.filter, apply_ite]
  | some low => cases max <;> by_cases below : length < low <;>
      simp [lengthBreach?, Option.filter, below, apply_ite]

theorem rangeBreach?_eq (min max : Option Number) (number : Number) :
    rangeBreach? min max number =
      (min.bind fun low => if number.less low then some (Breach.tooSmall low) else none).or
        (max.bind fun high => if high.less number then some (Breach.tooLarge high) else none) := by
  cases min with
  | none => cases max <;> simp [rangeBreach?, Option.filter, apply_ite]
  | some low => cases max <;> cases below : number.less low <;>
      simp [rangeBreach?, Option.filter, below, apply_ite]

/-- A text that has a size is checked by the bounds alone. -/
theorem Field.typeBreach?_of_size {field : Field} {text : String} {size : Number}
    (sized : field.size? text = some size) :
    field.typeBreach? text = told ((field.lowBreach? text).or (field.highBreach? text)) := by
  cases type_eq : field.type with
  | string pattern min max default =>
      simp only [typeBreach?, type_eq, lengthBreach?_eq, lowBreach?, highBreach?]
      cases min <;> cases max <;> rfl
  | number min max default =>
      have number_eq : field.number? text = some size := by simpa [size?, type_eq] using sized
      cases read : readNumber? text with
      | error cause => simp [number?, convert, type_eq, read, Except.map] at number_eq
      | ok number =>
          cases number with
          | none => simp [number?, convert, type_eq, read, Except.map] at number_eq
          | some number =>
              obtain rfl : number = size := by
                simpa [number?_of_readNumber? type_eq read] using number_eq
              simp only [typeBreach?, type_eq, read, bind, Except.bind, rangeBreach?_eq,
                lowBreach?, highBreach?, number_eq]
              cases min <;> cases max <;> rfl
  | _ => simp [size?, type_eq] at sized

/-- A breach is told as it is. -/
theorem eq_of_told {breach result : Option Breach} (done : told breach = .ok result) :
    breach = result := by
  rw [told] at done
  cases shows : breach.bind Breach.bound? with
  | none =>
      rw [shows] at done
      exact Except.ok.inj done
  | some bound =>
      rw [shows] at done
      cases written : (numberValue bound).written <;>
        simp only [written, Except.map, reduceCtorEq, Except.ok.injEq] at done
      exact done

/-- A text that the allowed values let pass stands for a value of an enumeration. -/
theorem Field.refuses_eq_false_of_enum {field : Field} {text : String}
    (enum_type : field.type.name = .enum) (allowed : field.breachAt? text .choice = none) :
    field.refuses text = false := by
  have some_allowed := field.allows_of_enum enum_type
  cases choices_eq : field.allowedValues with
  | none => simp [choices_eq] at some_allowed
  | some choices =>
      have contained : choices.contains text = true := by
        simpa [breachAt?, choices_eq, Option.filter] using allowed
      cases type_eq : field.type <;> simp [FieldType.name, type_eq] at enum_type
      simp only [refuses, convert, type_eq, choices_eq, Option.getD_some, contained, if_true]

/-- The checks that concern the type of a value and its bounds. -/
def Check.typed : List Check := [.conversion, .lowerBound, .upperBound]

/-- Where the allowed values let a text pass, the breach of the type is that of the first
check of the type that fails. -/
theorem Field.typeBreach?_eq {field : Field} {text : String} {result : Option Breach}
    (allowed : field.breachAt? text .choice = none)
    (decided : field.typeBreach? text = .ok result) :
    Check.typed.findSome? (field.breachAt? text) = result := by
  have checks_eq : Check.typed.findSome? (field.breachAt? text) =
      (if field.refuses text then some (Breach.badType field.typeName) else none).or
        ((field.lowBreach? text).or (field.highBreach? text)) := by
    simp only [Check.typed, List.findSome?, breachAt?]
    cases field.refuses text <;> cases field.lowBreach? text <;>
      cases field.highBreach? text <;> rfl
  rw [checks_eq]
  cases type_eq : field.type with
  | string pattern min max default =>
      have accepted : field.refuses text = false := by simp [refuses, convert, type_eq]
      have sized : field.size? text = some (.int text.length) := by simp [size?, type_eq]
      rw [typeBreach?_of_size sized] at decided
      rw [eq_of_told decided, accepted]
      rfl
  | number min max default =>
      cases read : readNumber? text with
      | error cause => simp [typeBreach?, type_eq, bind, Except.bind, read] at decided
      | ok number =>
          cases number with
          | none =>
              have refused : field.refuses text = true := by
                simp [refuses, convert, type_eq, read, Except.map]
              simp only [typeBreach?, type_eq, read, bind, Except.bind, pure, Except.pure,
                Except.ok.injEq] at decided
              rw [← decided, refused]
              rfl
          | some number =>
              have accepted : field.refuses text = false := by
                simp [refuses, convert, type_eq, read, Except.map]
              have sized : field.size? text = some number := by
                simp [size?, type_eq, number?_of_readNumber? type_eq read]
              rw [typeBreach?_of_size sized] at decided
              rw [eq_of_told decided, accepted]
              rfl
  | enum default =>
      have accepted : field.refuses text = false :=
        refuses_eq_false_of_enum (by rw [type_eq]; rfl) allowed
      simp only [typeBreach?, type_eq, Except.ok.injEq] at decided
      rw [← decided, lowBreach?, highBreach?, type_eq, accepted]
      rfl
  | _ =>
      simp only [typeBreach?, type_eq, bind, Except.bind] at decided
      cases converted : field.convert text with
      | error cause => simp [converted] at decided
      | ok value =>
          cases value <;>
            simp only [converted, pure, Except.pure, Except.ok.injEq] at decided <;>
            rw [← decided, lowBreach?, highBreach?, refuses, type_eq, converted] <;> rfl

theorem Field.choiceBreach?_eq (field : Field) (text : String) :
    field.choiceBreach? text = field.breachAt? text .choice := by
  rw [choiceBreach?, breachAt?]
  cases field.allowedValues with
  | none => rfl
  | some choices => by_cases allowed : text ∈ choices <;> simp [Option.filter, allowed]

theorem Field.formatBreach?_eq (field : Field) (text : String) :
    field.formatBreach? text = field.breachAt? text .pattern := by
  rw [formatBreach?, breachAt?]
  cases field.pattern? with
  | none => rfl
  | some pattern =>
      cases found : Pattern.Regex.occursIn pattern.regex text.toList <;>
        by_cases bare : pattern.source = "" <;> simp [Option.filter, found, bare]

/-- The checks that a text is put to, in their order. -/
def Check.ofText : List Check := [.choice, .conversion, .lowerBound, .upperBound, .pattern]

/-- An allowed text is checked by its type, and by the pattern after that. -/
theorem Field.breach?_of_allowed {field : Field} {text : String}
    (allowed : field.breachAt? text .choice = none) :
    field.breach? text =
      (field.typeBreach? text).map fun own => own.or (field.formatBreach? text) := by
  simp only [breach?, choiceBreach?_eq, allowed]
  cases field.typeBreach? text with
  | error cause => rfl
  | ok own => cases own <;> rfl

/-- A text that is not allowed is not checked any further. -/
theorem Field.breach?_of_not_allowed {field : Field} {text : String} {breach : Breach}
    (found : field.breachAt? text .choice = some breach) :
    field.breach? text = .ok (some breach) := by
  simp only [breach?, choiceBreach?_eq, found]

/-- The breach that is reported is that of the first check that fails. -/
theorem Field.breach?_eq {field : Field} {text : String} {result : Option Breach}
    (decided : field.breach? text = .ok result) :
    Check.ofText.findSome? (field.breachAt? text) = result := by
  have split : Check.ofText = .choice :: (Check.typed ++ [.pattern]) := rfl
  rw [split, List.findSome?_cons, List.findSome?_append]
  cases choice : field.breachAt? text .choice with
  | some breach =>
      rw [breach?_of_not_allowed choice] at decided
      exact Except.ok.inj decided
  | none =>
      rw [breach?_of_allowed choice] at decided
      cases own : field.typeBreach? text with
      | error cause => simp [own, Except.map] at decided
      | ok breach =>
          rw [own, Except.map, Except.ok.injEq, formatBreach?_eq] at decided
          rw [typeBreach?_eq choice own, ← decided, List.findSome?_singleton]

/-! ## Verdicts -/

/-- What a verdict reports about a key, an exposed default apart. -/
def Verdict.finding? (verdict : Verdict) (field : Field) (key text : String) : Option Finding :=
  if verdict.missing then some .missing else verdict.breach.map (field.breachFinding key text)

/-- What a verdict reports about the default of a secret. -/
def Verdict.exposure? (verdict : Verdict) (field : Field) (key text : String) : Option Finding :=
  if verdict.exposedDefault then
    some (.exposedDefault (field.issue key text "Sensitive field cannot have default value"))
  else none

theorem Field.verdict_blank (value : Option String) :
    (value.all fun text => text == "") = isBlankValue value := by
  cases value <;> simp [isBlankValue]

/-- How a field judges a value: it is missing, it is absent without need, or it is checked. -/
inductive Field.Judges (field : Field) : Option String → Verdict → Prop
  | missing {value : Option String} (gone : (field.required && isBlankValue value) = true) :
      field.Judges value { missing := true }
  | absent (optional : field.required = false) : field.Judges none {}
  | checked {text : String} {breach : Option Breach}
      (present : (field.required && isBlankValue (some text)) = false)
      (decided : field.breach? text = .ok breach) :
      field.Judges (some text)
        { exposedDefault := field.isSensitive && field.hasDefault, breach }

theorem Field.verdict_eq_ok_iff {field : Field} {value : Option String} {verdict : Verdict} :
    field.verdict value = .ok verdict ↔ field.Judges value verdict := by
  constructor
  · intro decided
    simp only [Field.verdict, verdict_blank] at decided
    split at decided
    next gone =>
        obtain rfl := Except.ok.inj decided
        exact .missing gone
    next present =>
        rw [Bool.not_eq_true] at present
        cases value with
        | none =>
            obtain rfl := Except.ok.inj decided
            exact .absent (by simpa [isBlankValue] using present)
        | some text =>
            simp only [bind, Except.bind] at decided
            cases breach_eq : field.breach? text with
            | error cause => simp [breach_eq] at decided
            | ok breach =>
                simp only [breach_eq, pure, Except.pure, Except.ok.injEq] at decided
                exact decided ▸ .checked present breach_eq
  · rintro (gone | optional | ⟨present, decided⟩)
    · simp only [Field.verdict, verdict_blank, gone, if_true]
    · simp [Field.verdict, optional]
    · simp only [Field.verdict, verdict_blank, present, decided]
      rfl

/-- Nothing is said about the content of a missing value. -/
theorem Field.breach_eq_none_of_missing {field : Field} {value : Option String}
    {verdict : Verdict} (decided : field.verdict value = .ok verdict)
    (missing : verdict.missing = true) : verdict.breach = none := by
  cases verdict_eq_ok_iff.1 decided with
  | missing => rfl
  | absent => rfl
  | checked => contradiction

theorem Field.firstFinding?_some {field : Field} {key text : String}
    (present : field.findingAt? key (some text) .presence = none) :
    field.firstFinding? key (some text) =
      (Check.ofText.findSome? (field.breachAt? text)).map (field.breachFinding key text) := by
  have split : Check.all = .presence :: Check.ofText := rfl
  rw [firstFinding?, split, List.findSome?_cons, present, List.map_findSome?]
  rfl

/-- A verdict reports the first check that fails and, apart from it, an exposed default. -/
theorem Field.findings_of_verdict {field : Field} {value : Option String} {verdict : Verdict}
    (decided : field.verdict value = .ok verdict) (key : String) :
    field.firstFinding? key value = verdict.finding? field key (value.getD "") ∧
      field.exposure? key value = verdict.exposure? field key (value.getD "") := by
  cases verdict_eq_ok_iff.1 decided with
  | missing gone =>
      have found : field.findingAt? key value .presence = some .missing := by
        simp [findingAt?, gone]
      simp [firstFinding?, Check.all, exposure?, found, Verdict.finding?, Verdict.exposure?]
  | absent optional =>
      simp [firstFinding?, Check.all, exposure?, findingAt?, Verdict.finding?, Verdict.exposure?,
        optional]
  | @checked text breach present breach_eq =>
      have silent : field.findingAt? key (some text) .presence = none := by
        simp [findingAt?, present]
      rw [firstFinding?_some silent, breach?_eq breach_eq]
      simp [exposure?, Verdict.finding?, Verdict.exposure?, silent]

end EnvConcord.Schema
