import EnvConcord.Document.Json.Writer
import EnvConcord.Document.Source
import EnvConcord.Document.Yaml.Writer
import EnvConcord.Settings.Override

/-!
# Saving settings

Settings are saved as YAML or JSON, as the suffix of the file asks.
-/

namespace EnvConcord.Settings

open Document

/-- Why settings cannot be saved. -/
inductive StoreFault
  | settings (cause : Fault)
  | unwritable (cause : Json.Unwritable)
  /-- An integer cannot be written as YAML. -/
  | tooManyDigits (cause : TooManyDigits)
  | tree (cause : Tree.Fault)
  deriving DecidableEq, Repr

/-- The text of a fault. -/
def StoreFault.message : StoreFault → String
  | .settings cause => cause.message
  | .unwritable cause => cause.message
  | .tooManyDigits cause => cause.message
  | .tree cause => cause.message

/-- Settings as YAML text. -/
def toYaml (s : Settings) : String := Yaml.write s.toValue

/-- Settings as JSON text. -/
def toJson (s : Settings) : Except Json.Unwritable String := Json.write? Json.indented s.toValue

/-- The text of settings in the format of a suffix. -/
def textFor (suffix : String) (s : Settings) : Except StoreFault String :=
  if yamlSuffixes.contains suffix then
    if s.toValue.isLong then .error (.tooManyDigits .writing) else .ok s.toYaml
  else if suffix == ".json" then s.toJson.mapError .unwritable
  else .error (.settings (.unsupportedSuffix suffix))

/-- Save settings; missing directories on the way are made. -/
def save (t : Tree) (p : Path) (s : Settings) : Except StoreFault Tree := do
  let text ← textFor p.suffix s
  let t ← (t.makeDirectory p.parent).mapError .tree
  (t.writeText p text).mapError .tree

end EnvConcord.Settings
