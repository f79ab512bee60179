import EnvConcord.Document.Json.Reader
import EnvConcord.Document.Toml.Reader
import EnvConcord.Document.Yaml.Reader
import EnvConcord.Tree.Basic

/-!
# Documents in files

A file holds a document in one of three formats.  Reading it can fail because there is
no text, because the text does not have the form of a document, or because a value in it
is out of bounds.
-/

namespace EnvConcord.Document

/-- Why a file holds no document. -/
inductive SourceFault
  | text (cause : Tree.TextFault)
  | json (cause : Json.Fault) (content : List Char)
  | yaml (cause : Yaml.Fault)
  | toml (cause : Toml.Fault)

/-- What stands for an explanation that is not worked out. -/
def noDetail : String := "<detail>"

/-- The text of a fault. Where the form is wrong, only JSON faults are explained. -/
def SourceFault.message : SourceFault → String
  | .text cause => cause.message
  | .json cause content => cause.message content
  | .yaml .malformed => noDetail
  | .yaml .untaggable => noDetail
  | .yaml cause => cause.message
  | .toml .malformed => noDetail
  | .toml (.tooManyDigits cause) => cause.message

/-- How the names of files end whose faults are not explained. -/
def unexplained : List String := [".yaml", ".yml", ".toml"]

/-- The explanation of the fault in a file. -/
def SourceFault.explain (path : String) (cause : SourceFault) : String :=
  if unexplained.any (fun ending => path.endsWith ending) then noDetail else cause.message

/-- Whether a fault concerns the value that a part of the text writes, and not the form
of the text. -/
def SourceFault.concernsValue : SourceFault → Bool
  | .text _ => false
  | .json (.tooManyDigits _) _ => true
  | .json .. => false
  | .yaml cause => !cause.isFormal
  | .toml (.tooManyDigits _) => true
  | .toml .malformed => false

/-- The JSON document of a text. -/
def jsonOf (content : List Char) : Except SourceFault Value :=
  (Json.read {} content).mapError fun cause => .json cause content

/-- The YAML document of a text. -/
def yamlOf (content : List Char) : Except SourceFault Value :=
  (Yaml.read content).mapError .yaml

/-- The TOML document of a text. -/
def tomlOf (content : List Char) : Except SourceFault Value :=
  (Toml.read content).mapError .toml

/-- The text of a file. -/
def contentOf (t : Tree) (p : Path) : Except SourceFault (List Char) :=
  (t.readText p).mapError .text

/-- The suffixes of YAML files. -/
def yamlSuffixes : List String := [".yaml", ".yml"]

end EnvConcord.Document
