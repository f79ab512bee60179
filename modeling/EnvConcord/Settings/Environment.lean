import EnvConcord.Settings.Override
import EnvConcord.Text.Blank
import EnvConcord.Text.Lines

/-!
# Settings from environment variables

Every setting has a variable.  A variable that is set, even to nothing, replaces the
setting as a whole, also where layers would accumulate.
-/

namespace EnvConcord.Settings

/-- What the names of the variables begin with. -/
def variableStem : String := "ENVGUARD_"

/-- The variable of a setting; of the logging members only the level has one. -/
def Field.variable : Field → String
  | .paths => variableStem ++ "PATHS"
  | .envFiles => variableStem ++ "ENV_FILES"
  | .allowOptional => variableStem ++ "ALLOW_OPTIONAL"
  | .ignoreKeys => variableStem ++ "IGNORE_KEYS"
  | .ignorePatterns => variableStem ++ "IGNORE_PATTERNS"
  | .reportFormat => variableStem ++ "REPORT_FORMAT"
  | .exitOnError => variableStem ++ "EXIT_ON_ERROR"
  | .includeOptional => variableStem ++ "INCLUDE_OPTIONAL"
  | .logging => variableStem ++ "LOGGING_LEVEL"

/-- The items of a list between commas, without blanks around them and without empty ones. -/
def splitItems (text : String) : List String :=
  ((Text.splitAt ',' text.toList).map fun item => String.ofList (Text.trim item)).filter fun item =>
    item != ""

/-- Whether a text says yes, in any case; every other text says no. -/
def saysYes (text : String) : Bool := ["true", "1", "yes", "on"].contains (Text.lowered text)

/-- Replace one setting by the text of its variable. -/
def setFromText (s : Settings) (text : String) : Field → Settings
  | .paths => { s with paths := splitItems text }
  | .envFiles => { s with envFiles := splitItems text }
  | .allowOptional => { s with allowOptional := splitItems text }
  | .ignoreKeys => { s with ignoreKeys := splitItems text }
  | .ignorePatterns => { s with ignorePatterns := splitItems text }
  | .reportFormat => { s with reportFormat := text }
  | .exitOnError => { s with exitOnError := saysYes text }
  | .includeOptional => { s with includeOptional := saysYes text }
  | .logging => { s with logging := { s.logging with level := .text text } }

/-- Replace all settings whose variables are set. -/
def applyEnvironment (environment : String → Option String) (s : Settings) : Settings :=
  Field.all.foldl
    (fun s field =>
      match environment field.variable with
      | some text => setFromText s text field
      | none => s)
    s

end EnvConcord.Settings
