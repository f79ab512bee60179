import EnvConcord.Collection.Dict

/-!
# Env files

An env file sets variables: each key has one entry, and whatever could not be
read as an entry is kept as a diagnostic with its line.
-/

namespace EnvConcord

/-- A variable as an env file sets it. -/
structure Entry where
  key : String
  value : String
  isEmpty : Bool
  line : Nat
  deriving DecidableEq, Repr, Inhabited

/-- The entry of a value; it is empty exactly when the value is. -/
def Entry.ofValue (key value : String) (line : Nat) : Entry :=
  { key, value, isEmpty := value == "", line }

/-- What is wrong with a line, or with a whole file. -/
inductive Diagnostic.Cause
  | missingEquals
  | emptyKey
  | duplicateKey (key : String)
  | missingFile (path : String)
  | unreadable (reason : String)
  deriving DecidableEq, Repr

/-- A problem that does not keep the rest of a file from being read. -/
structure Diagnostic where
  /-- The line, counted from one; zero stands for the whole file. -/
  line : Nat
  cause : Diagnostic.Cause
  deriving DecidableEq, Repr

/-- The text of a diagnostic. -/
def Diagnostic.message (d : Diagnostic) : String :=
  match d.cause with
  | .missingEquals => "Invalid format: missing '=' on line " ++ toString d.line
  | .emptyKey => "Invalid format: empty key on line " ++ toString d.line
  | .duplicateKey key =>
      "Duplicate key '" ++ key ++ "' found on line " ++ toString d.line
  | .missingFile path => "File not found: " ++ path
  | .unreadable reason => "Failed to read file: " ++ reason

/-- The entries of a file under their keys. -/
abbrev EntryMap := Dict String Entry

/-- A file that has been read. -/
structure EnvFile where
  path : String
  entries : EntryMap := .empty
  diagnostics : List Diagnostic := []
  deriving DecidableEq, Repr

namespace EnvFile

/-- A file of which nothing could be read. -/
def unread (path : String) (cause : Diagnostic.Cause) : EnvFile :=
  { path, diagnostics := [⟨0, cause⟩] }

/-- The pairs of key and value, in order. -/
def values (file : EnvFile) : List (String × String) :=
  file.entries.toList.map fun pair => (pair.1, pair.2.value)

/-- The entries of several files; of two for one key the later counts. -/
def merge (files : List EnvFile) : EntryMap :=
  files.foldl (fun merged file => merged.insertAll file.entries.toList) .empty

end EnvFile

end EnvConcord
