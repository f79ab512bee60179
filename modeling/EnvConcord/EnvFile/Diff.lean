import EnvConcord.EnvFile.Basic
import EnvConcord.Text.Sorted

/-!
# Comparing env files

Every key of two entry maps falls into one of four classes, by where it is set
and whether the two values agree.  Each class is listed in ascending order.
-/

namespace EnvConcord

/-- A key that two files set to different values. -/
structure Difference where
  key : String
  first : String
  second : String
  deriving DecidableEq, Repr

/-- The classes of keys of two entry maps. -/
structure EntryDiff where
  onlyFirst : List String := []
  onlySecond : List String := []
  different : List Difference := []
  common : List String := []
  deriving DecidableEq, Repr

namespace EntryDiff

/-- The number of keys on which the maps disagree. -/
def size (d : EntryDiff) : Nat :=
  d.onlyFirst.length + d.onlySecond.length + d.different.length

/-- The keys of either map, ascending. -/
def allKeys (first second : EntryMap) : List String :=
  Text.sortDistinct (first.keys ++ second.keys)

/-- The difference of a key that both maps set, if their values disagree. -/
def difference? (first second : EntryMap) (key : String) : Option Difference :=
  match first.get? key, second.get? key with
  | some a, some b => if a.value = b.value then none else some ⟨key, a.value, b.value⟩
  | _, _ => none

/-- Whether both maps set the key to one value. -/
def agree (first second : EntryMap) (key : String) : Bool :=
  match first.get? key, second.get? key with
  | some a, some b => a.value == b.value
  | _, _ => false

/-- Compare two entry maps. -/
def between (first second : EntryMap) : EntryDiff :=
  let keys := allKeys first second
  { onlyFirst := keys.filter fun key => !second.contains key
    onlySecond := keys.filter fun key => !first.contains key
    different := keys.filterMap (difference? first second)
    common := keys.filter (agree first second) }

end EntryDiff

end EnvConcord
