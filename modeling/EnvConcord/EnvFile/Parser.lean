import EnvConcord.EnvFile.Basic
import EnvConcord.Text.Blank
import EnvConcord.Text.Lines

/-!
# Reading env files

A line that is neither blank nor a comment assigns what stands behind its first
`=` to the key before it.  The word `export` in front of a key is dropped, and
one pair of quotes around a value is dropped without any unescaping.
-/

namespace EnvConcord.EnvFile

/-- What a line of an env file says. -/
inductive LineReading
  | nothing
  | missingEquals
  | emptyKey
  | assignment (key value : List Char)
  deriving DecidableEq, Repr

/-- Whether a character is a quote. -/
def isQuote (c : Char) : Bool := c == '\'' || c == '"'

/-- Whether a text of two or more characters begins and ends with one quote. -/
def isQuoted (cs : List Char) : Bool :=
  match cs with
  | c :: d :: rest => isQuote c && (d :: rest).getLast (by simp) == c
  | _ => false

/-- A value without the blanks and the one pair of quotes around it. -/
def unquote (cs : List Char) : List Char :=
  let trimmed := Text.trim cs
  if isQuoted trimmed then trimmed.tail.dropLast else trimmed

/-- The word that may stand in front of a key, with the blank behind it. -/
def exportPrefix : List Char := "export ".toList

/-- A key without the word `export` in front of it, if a key is left. -/
def dropExport (key : List Char) : List Char :=
  if exportPrefix.isPrefixOf key then
    let rest := Text.trim (key.drop exportPrefix.length)
    if rest.isEmpty then key else rest
  else key

/-- Whether a line is blank or a comment. -/
def isSkipped (line : List Char) : Bool :=
  match Text.trim line with
  | [] => true
  | c :: _ => c == '#'

/-- What a line says. -/
def readLine (line : List Char) : LineReading :=
  if isSkipped line then .nothing
  else if !line.contains '=' then .missingEquals
  else
    let key := dropExport (Text.trim (line.takeWhile (· != '=')))
    if key.isEmpty then .emptyKey
    else .assignment key (unquote ((line.dropWhile (· != '=')).drop 1))

/-- Record what line `number` says. -/
def addReading (file : EnvFile) (number : Nat) : LineReading → EnvFile
  | .nothing => file
  | .missingEquals =>
      { file with diagnostics := file.diagnostics ++ [⟨number, .missingEquals⟩] }
  | .emptyKey => { file with diagnostics := file.diagnostics ++ [⟨number, .emptyKey⟩] }
  | .assignment key value =>
      let key := String.ofList key
      let repeated :=
        if file.entries.contains key then [⟨number, .duplicateKey key⟩] else []
      { file with
        entries := file.entries.insert key (.ofValue key (String.ofList value) number)
        diagnostics := file.diagnostics ++ repeated }

/-- Record lines that are counted from `number` on. -/
def addLines (file : EnvFile) (number : Nat) : List (List Char) → EnvFile
  | [] => file
  | line :: rest => addLines (addReading file number (readLine line)) (number + 1) rest

/-- Read the text of an env file. -/
def parse (text : String) (path : String) : EnvFile :=
  addLines { path } 1 (Text.lines text.toList)

end EnvConcord.EnvFile
