import EnvConcord.Document.Value
import EnvConcord.Number.Numeral
import EnvConcord.Text.Quoted

/-!
# The plain text of a value

A text is its own plain text, and so is a calendar value.  Null and the booleans are
capitalised words, and the parts of lists and mappings are shown with quotes around texts.
Integers have a plain text up to a number of digits.
-/

namespace EnvConcord.Document.Value

mutual

/-- A value as a part of a list or mapping. -/
def shown : Value → String
  | .null => "None"
  | .bool b => if b then "True" else "False"
  | .int n => toString n
  | .float x => x.render
  | .text s => Text.quoted s
  | .moment m => m.shown
  | .octets data => Text.quotedOctets data
  | .list items => "[" ++ shownItems items ++ "]"
  | .pair key value => "(" ++ shown key ++ ", " ++ shown value ++ ")"
  | .set [] => "set()"
  | .set items => "\x7b" ++ shownItems items ++ "\x7d"
  | .map entries => "\x7b" ++ shownEntries entries ++ "\x7d"

/-- Items between commas. -/
def shownItems : List Value → String
  | [] => ""
  | [item] => shown item
  | item :: rest => shown item ++ ", " ++ shownItems rest

/-- Members between commas. -/
def shownEntries : List (Value × Value) → String
  | [] => ""
  | [(key, value)] => shown key ++ ": " ++ shown value
  | (key, value) :: rest => shown key ++ ": " ++ shown value ++ ", " ++ shownEntries rest

end

/-- The plain text of a value. -/
def plain : Value → String
  | .text s => s
  | .moment m => m.text
  | value => shown value

/-! ## Integers of too many digits -/

mutual

/-- Whether a part of a value is an integer with more digits than are written. -/
def isLong : Value → Bool
  | .int n => Numeral.isLong n
  | .list items => anyLong items
  | .pair key value => isLong key || isLong value
  | .set items => anyLong items
  | .map entries => anyEntryLong entries
  | _ => false

/-- Whether an item has such a part. -/
def anyLong : List Value → Bool
  | [] => false
  | item :: rest => isLong item || anyLong rest

/-- Whether a member has such a part. -/
def anyEntryLong : List (Value × Value) → Bool
  | [] => false
  | (key, value) :: rest => isLong key || isLong value || anyEntryLong rest

end

/-- The plain text of a value, unless an integer in it has too many digits. -/
def written (value : Value) : Except TooManyDigits String :=
  if value.isLong then .error .writing else .ok value.plain

/-! ## Kinds -/

/-- The short name of a value's kind. -/
def kindName : Value → String
  | .null => "NoneType"
  | .bool _ => "bool"
  | .int _ => "int"
  | .float _ => "float"
  | .text _ => "str"
  | .moment m => m.kindName
  | .octets _ => "bytes"
  | .list _ => "list"
  | .pair .. => "tuple"
  | .set _ => "set"
  | .map _ => "dict"

/-- The full name of a value's kind. -/
def fullKindName : Value → String
  | .moment m => "datetime." ++ m.kindName
  | value => kindName value

/-! ## Order -/

/-- What scalars have to have in common to be put in order. -/
inductive SortKind
  | number
  | text
  | octets
  | moment (kind : MomentKind)
  deriving DecidableEq, Repr

/-- The kind of a scalar that can be put in order. -/
def sortKind? : Value → Option SortKind
  | .bool _ => some .number
  | .int _ => some .number
  | .float _ => some .number
  | .text _ => some .text
  | .octets _ => some .octets
  | .moment m => some (.moment m.kind)
  | _ => none

/-- Whether a scalar comes before another one of its kind. -/
def isBefore (a b : Value) : Bool :=
  match a, b with
  | .text s, .text t => decide (s < t)
  | .octets s, .octets t => decide (s < t)
  | .moment s, .moment t => decide (s.position < t.position)
  | _, _ =>
      match a.toNumber?, b.toNumber? with
      | some x, some y => x.less y
      | _, _ => false

/-- Whether two scalars are of one kind and can be put in order. -/
def isComparable (a b : Value) : Bool := a.sortKind?.isSome && a.sortKind? == b.sortKind?

/-- Strict order of scalars of one kind, for sorting. -/
def less? (a b : Value) : Option Bool :=
  if a.isComparable b then some (a.isBefore b) else none

end EnvConcord.Document.Value
