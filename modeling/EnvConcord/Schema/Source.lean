import EnvConcord.Document.Source
import EnvConcord.Schema.Reader

/-!
# Loading schemas

A schema is given as a document, stands in a file that is asked for, or in one of the
files that are looked for.  Without any of these it has no fields.
-/

namespace EnvConcord.Schema

open Document

/-- Why a schema cannot be loaded. -/
inductive LoadFault
  /-- A null character stands in the path. -/
  | nullCharacter
  /-- The file holds no document. -/
  | source (path : String) (cause : SourceFault)
  | reading (cause : ReadingFault)

/-- The text of a fault. -/
def LoadFault.message : LoadFault → String
  | .nullCharacter => "embedded null byte"
  | .source path cause =>
      if cause.concernsValue then cause.message
      else "Failed to load schema from " ++ path ++ ": " ++ cause.explain path
  | .reading cause => cause.message

/-- Whether a fault refuses the schema. The others are faults of single values and of the path,
which are passed on as they are. -/
def LoadFault.isRefusal : LoadFault → Bool
  | .nullCharacter => false
  | .source _ cause => !cause.concernsValue
  | .reading .repetitionTooLarge => false
  | .reading _ => true

/-- The schema files that are looked for, the first of which counts. -/
def fileNames : List String := [".envschema.json", "envschema.json", ".envschema.yaml"]

/-- The schema of a file. -/
def readFile (t : Tree) (p : Path) : Except LoadFault Schema := do
  if p.holdsNull then throw .nullCharacter
  let parse := if yamlSuffixes.contains p.suffix then yamlOf else jsonOf
  let document ← ((contentOf t p).bind parse).mapError (LoadFault.source p.render)
  (ofDocument p.render document).mapError .reading

/-- Whether there is a file to be read at a path. -/
def isThere (t : Tree) (p : Path) : Bool := !p.holdsNull && t.exists? p

/-- The schema of the first schema file in a directory. -/
def discover (t : Tree) (directory : Path) : Except LoadFault Schema :=
  match (fileNames.map fun name => directory.append (Path.parse name)).find? (isThere t) with
  | some p => readFile t p
  | none => .ok .empty

/-- Load a schema: from a file that is given, or from the files of a directory. -/
def load (t : Tree) (given : Option Path) (directory : Path) : Except LoadFault Schema :=
  match given with
  | some p => readFile t p
  | none => discover t directory

end EnvConcord.Schema
