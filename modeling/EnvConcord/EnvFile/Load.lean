import EnvConcord.EnvFile.Diff
import EnvConcord.EnvFile.Parser
import EnvConcord.Logged
import EnvConcord.Tree.Basic

/-!
# Env files of a directory

A file that is missing or has no text is no fault: it is read as a file without entries
and with one diagnostic.
-/

namespace EnvConcord.EnvFile

/-- Read an env file. -/
def load (t : Tree) (file : SpelledPath) : Logged EnvFile := do
  let shown := file.spelling
  if !t.exists? file.path then return unread shown (.missingFile shown)
  match t.readText file.path with
  | .ok cs => return parse (String.ofList cs) shown
  | .error fault =>
      Logged.warn ("Failed to read env file " ++ file.path.render ++ ": " ++ fault.message)
      return unread shown (.unreadable fault.message)

/-- Read several env files. -/
def loadAll (t : Tree) (files : List SpelledPath) : Logged (List EnvFile) :=
  files.mapM (load t)

/-- The entries of several env files together. -/
def loadMerged (t : Tree) (files : List SpelledPath) : Logged EntryMap := do
  return merge (← loadAll t files)

end EnvConcord.EnvFile
