import EnvConcord.EnvFile.Binding
import EnvConcord.EnvFile.Load
import EnvConcord.Text.Sorted

/-!
# Removing keys from env files

All bindings of the keys are taken out; the other bindings stay as they are.  A dry run
only tells what would be removed.
-/

namespace EnvConcord.EnvFile

/-- The outcome of cleaning one file. -/
structure Cleaning where
  path : String
  /-- The keys removed, ascending. -/
  removed : List String := []
  /-- Whether the file does not exist. -/
  skipped : Bool := false
  deriving DecidableEq, Repr

/-- Whether the file was changed, or would have been. -/
def Cleaning.isModified (c : Cleaning) : Bool := !c.removed.isEmpty && !c.skipped

/-- Take one key out of a file. The file is written anew also where the key is not bound. -/
def removeFrom (t : Tree) (file : SpelledPath) (key : String) : Logged Tree := do
  match t.readText file.path with
  | .error _ => return t
  | .ok cs =>
      let (found, rest) := removeKey key cs
      if !found then Logged.warn ("Could not remove " ++ key ++ " from " ++ file.spelling)
      match t.writeText file.path (String.ofList rest) with
      | .ok t => return t
      | .error _ => return t

/-- Clean one file of keys that are given in ascending order. -/
def cleanFile (keys : List String) (dryRun : Bool) (t : Tree) (file : SpelledPath) :
    Logged (Cleaning × Tree) := do
  let shown := file.spelling
  if !t.exists? file.path then
    Logged.warn ("Skipping " ++ shown ++ " (file not found)")
    return ({ path := shown, skipped := true }, t)
  let content ← load t (.ofPath file.path)
  let removed := keys.filter content.entries.contains
  let t ← if dryRun then pure t else removed.foldlM (fun t key => removeFrom t file key) t
  return ({ path := shown, removed }, t)

/-- Clean files one after the other. -/
def cleanFrom (keys : List String) (dryRun : Bool) :
    List SpelledPath → Tree → Logged (List Cleaning × Tree)
  | [], t => pure ([], t)
  | file :: rest, t => do
      let (first, t) ← cleanFile keys dryRun t file
      let (others, t) ← cleanFrom keys dryRun rest t
      return (first :: others, t)

/-- Clean files of some keys. -/
def clean (t : Tree) (files : List SpelledPath) (unused : List String) (dryRun : Bool) :
    Logged (List Cleaning × Tree) :=
  cleanFrom (Text.sortDistinct unused) dryRun files t

end EnvConcord.EnvFile
