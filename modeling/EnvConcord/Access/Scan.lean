import EnvConcord.Access.Dialect
import EnvConcord.Text.Lines

/-!
# Scanning source text

A scan looks at every position of every line.  Its occurrences are ordered by
line; within a line the computed accesses come first, form by form, and each
form's occurrences stand from left to right.
-/

namespace EnvConcord.Access

/-- What a recogniser finds at the positions of a line, counted from `column` on. -/
def findings (recognise : List Char → Option α) (column : Nat) :
    List Char → List (Nat × α)
  | [] => []
  | c :: rest =>
      let later := findings recognise (column + 1) rest
      match recognise (c :: rest) with
      | some found => (column, found) :: later
      | none => later

/-- A usage together with the name that it is recorded under. -/
structure Occurrence where
  name : String
  usage : Usage
  deriving DecidableEq, Repr

/-- The computed accesses of one form in a line. -/
def computedIn (file : String) (line : Nat) (cs : List Char) (form : ComputedForm) :
    List Occurrence :=
  (findings (ComputedForm.match? form) 1 cs).map fun (column, expression) =>
    { name := computedName file line column
      usage := { file, line, column, kind := .computed, rawText := String.ofList expression } }

/-- The static accesses of one form in a line. -/
def staticsIn (file : String) (line : Nat) (cs : List Char) (form : StaticForm) :
    List Occurrence :=
  (findings (StaticForm.match? form) 1 cs).map fun (column, found) =>
    { name := String.ofList found.key
      usage :=
        { file, line, column, kind := form.kind, rawText := String.ofList found.raw
          isOptional := found.isOptional } }

/-- The occurrences in one line. -/
def inLine (dialect : Dialect) (file : String) (line : Nat) (cs : List Char) : List Occurrence :=
  dialect.computed.flatMap (computedIn file line cs) ++
    dialect.statics.flatMap (staticsIn file line cs)

/-- The occurrences in lines that are counted from `line` on. -/
def inLines (dialect : Dialect) (file : String) (line : Nat) :
    List (List Char) → List Occurrence
  | [] => []
  | cs :: rest => inLine dialect file line cs ++ inLines dialect file (line + 1) rest

/-- The occurrences in a text. -/
def occurrences (dialect : Dialect) (file text : String) : List Occurrence :=
  inLines dialect file 1 (Text.lines text.toList)

/-- Add an occurrence to the key of its name. -/
def record (keys : Dict String CodeKey) (found : Occurrence) : Dict String CodeKey :=
  let known := (keys.get? found.name).getD { name := found.name }
  keys.insert found.name (known.addUsage found.usage)

/-- Group occurrences by name, in the order of first appearance. -/
def collect (found : List Occurrence) : List CodeKey := (found.foldl record .empty).values

/-- The keys that a text reads. -/
def scan (dialect : Dialect) (file text : String) : List CodeKey :=
  collect (occurrences dialect file text)

end EnvConcord.Access
