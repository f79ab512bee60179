import EnvConcord.EnvFile.Parser

/-!
# Writing env files

Each entry is one line `KEY=value`.  A value is put between double quotes only
where reading it bare would change it.
-/

namespace EnvConcord.EnvFile

/-- Whether reading a bare value would change it: blanks at an end, or a pair of
quotes around it. -/
def needsQuotes (value : List Char) : Bool :=
  value != Text.trim value || isQuoted value

/-- A value as it is written. -/
def writeValue (value : List Char) : List Char :=
  if needsQuotes value then '"' :: value ++ ['"'] else value

/-- The line of an entry, without its line break. -/
def writeEntry (entry : Entry) : List Char :=
  entry.key.toList ++ '=' :: writeValue entry.value.toList

/-- Write entries line by line; a text with entries ends in a line break. -/
def write (entries : List Entry) : String :=
  String.ofList (entries.flatMap fun entry => writeEntry entry ++ ['\n'])

end EnvConcord.EnvFile
