import EnvConcord.Reconcile

/-!
# Findings of a schema

A check against a schema finds what a comparison finds and, beyond that, issues
with single fields.
-/

namespace EnvConcord.Schema

/-- What is wrong with the value of a field. A secret value is masked. -/
structure Issue where
  key : String
  value : String
  expectedType : String
  actualType : String := "string"
  issue : String
  description : Option String := none
  isSensitive : Bool := false
  deriving DecidableEq, Repr, Inhabited

/-- The findings of a check against a schema. -/
structure Report extends Findings where
  invalidType : List Issue := []
  invalidFormat : List Issue := []
  invalidEnum : List Issue := []
  sensitiveDefaults : List Issue := []
  schemaErrors : List Issue := []
  deriving DecidableEq, Repr, Inhabited

end EnvConcord.Schema
