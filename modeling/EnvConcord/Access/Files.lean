import EnvConcord.Access.Registry
import EnvConcord.Logged
import EnvConcord.Tree.Basic

/-!
# Scanning files

The keys of several files are merged by name.  A file without text is left out, with a
warning.  Files that were found in a tree can be scanned as they are; a path that is given
may hold a null character, and that stops the scan.
-/

namespace EnvConcord.Access

/-- A file that could not be scanned. -/
structure Unscanned where
  file : String
  message : String
  deriving DecidableEq, Repr

/-- The outcome of scanning files. -/
structure ScanOutcome where
  keys : List CodeKey := []
  /-- The files that were scanned, as they were asked for. -/
  files : List String := []
  unscanned : List Unscanned := []
  deriving Repr

/-- The names of the keys, ascending. -/
def ScanOutcome.names (o : ScanOutcome) : List String := Text.sortDistinct (o.keys.map CodeKey.name)

/-- The key of a name. -/
def ScanOutcome.get? (o : ScanOutcome) (name : String) : Option CodeKey :=
  o.keys.find? fun key => key.name == name

/-- Scan one file. -/
def scanFile (t : Tree) (r : Registry) (p : Path) :
    Logged (Except Unscanned (List CodeKey)) := do
  match t.readText p with
  | .ok cs => return .ok (r.scan p.render (String.ofList cs))
  | .error fault =>
      Logged.warn ("Failed to read file " ++ p.render ++ ": " ++ fault.message)
      return .error ⟨p.render, "Failed to read file: " ++ fault.message⟩

/-- Put together what was found in each file. -/
def ScanOutcome.ofResults (results : List (String × Except Unscanned (List CodeKey))) :
    ScanOutcome where
  keys := CodeKey.merge (results.filterMap fun result => result.2.toOption)
  files := (results.filter fun result => result.2.toBool).map Prod.fst
  unscanned := results.filterMap fun result =>
    match result.2 with
    | .ok _ => none
    | .error unscanned => some unscanned

/-- Scan files that were found, in order. -/
def scanFiles (t : Tree) (r : Registry) (files : List SpelledPath) : Logged ScanOutcome := do
  let results ← files.mapM fun file => do return (file.spelling, ← scanFile t r file.path)
  return .ofResults results

/-- Why a scan stops. -/
inductive ScanFault
  | nullCharacter
  deriving DecidableEq, Repr

/-- The text of a fault. -/
def ScanFault.message : ScanFault → String
  | .nullCharacter => "embedded null byte"

/-- Scan one file that is given by its path. -/
def scanGivenFile (t : Tree) (r : Registry) (file : SpelledPath) :
    Attempt ScanFault (String × Except Unscanned (List CodeKey)) := do
  if file.path.holdsNull then throw ScanFault.nullCharacter
  return (file.spelling, ← ExceptT.lift (scanFile t r file.path))

/-- Scan files that are given by their paths, in order. -/
def scanGiven (t : Tree) (r : Registry) (files : List SpelledPath) :
    Attempt ScanFault ScanOutcome := do
  return .ofResults (← files.mapM (scanGivenFile t r))

end EnvConcord.Access
