import EnvConcord.Collection.Dict
import EnvConcord.Digest.Sha1

/-!
# Accesses to environment variables

A usage is one place in a source file that reads a variable.  A code key is a
variable with all its usages; a usage whose key is computed at run time stands
under a name of its own, made from its place.
-/

namespace EnvConcord

/-- How a source text refers to a variable. -/
inductive AccessKind
  | direct
  | bracket
  | call
  | computed
  deriving DecidableEq, Repr, Inhabited

/-- One place that reads a variable; lines and columns are counted from one. -/
structure Usage where
  file : String
  line : Nat
  column : Nat
  kind : AccessKind
  rawText : String
  /-- Whether the place supplies a value for an unset variable. -/
  isOptional : Bool := false
  deriving DecidableEq, Repr, Inhabited

/-- A variable with the places that read it. -/
structure CodeKey where
  name : String
  usages : List Usage := []
  isOptional : Bool := false
  deriving DecidableEq, Repr, Inhabited

/-- What the names of computed accesses begin with. -/
def computedMark : String := "DYNAMIC_KEY_"

/-- The name under which a computed access at a place is recorded. -/
def computedName (file : String) (line column : Int) : String :=
  computedMark ++ toString line ++ "_" ++ toString column ++ "_" ++
    String.ofList ((Digest.Sha1.ofText file).toList.take 8)

namespace CodeKey

/-- Whether the name marks a computed access. -/
def isComputed (key : CodeKey) : Bool := computedMark.toList.isPrefixOf key.name.toList

/-- Add a place; one optional place makes the key optional. -/
def addUsage (key : CodeKey) (usage : Usage) : CodeKey :=
  { key with
    usages := key.usages ++ [usage]
    isOptional := key.isOptional || usage.isOptional }

/-- Add all places of another key, and its flag. -/
def absorb (key other : CodeKey) : CodeKey :=
  { key with
    usages := key.usages ++ other.usages
    isOptional := key.isOptional || other.isOptional }

/-- Absorb a key into the one of its name. -/
def absorbInto (merged : Dict String CodeKey) (key : CodeKey) : Dict String CodeKey :=
  let known := (merged.get? key.name).getD { name := key.name }
  merged.insert key.name (known.absorb key)

/-- Merge lists of keys into one key per name, in the order of first appearance. -/
def merge (lists : List (List CodeKey)) : List CodeKey :=
  (lists.flatten.foldl absorbInto .empty).values

end CodeKey

end EnvConcord
