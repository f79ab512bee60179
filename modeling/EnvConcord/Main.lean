import EnvConcord.Command.Run

/-!
# The command line

The files of the working directory are named on standard input, one a line, and read into
a tree.  The command runs on the tree; what it changed is written back.
-/

open EnvConcord

namespace EnvConcord.Command.Line

/-- The lines of standard input. -/
partial def readLines (input : IO.FS.Stream) : IO (List String) := do
  let line ← input.getLine
  if line.isEmpty then return []
  let rest ← readLines input
  return String.ofList (line.toList.filter (· != '\n')) :: rest

/-- A tree with one more file, in the directories that its name asks for. -/
def addFile (t : Tree) (name : String) : IO Tree := do
  let content ← IO.FS.readBinFile name
  let p := Path.parse name
  let added := do (← t.makeDirectory p.parent).write p (content.toList.map UInt8.toNat)
  return added.toOption.getD t

/-- The variables that settings look at. -/
def readVariables : IO (Dict String String) :=
  Settings.Field.all.foldlM (fun d field => do
    match ← IO.getEnv field.variable with
    | some value => return d.insert field.variable value
    | none => return d) .empty

/-- Write a file that differs from what stood there. -/
def writeBack (old : Tree) (place : List String) : TreeNode → IO Unit
  | .directory => pure ()
  | .file content => do
      if old.nodes.get? place != some (.file content) then
        IO.FS.writeBinFile (String.intercalate "/" place)
          (ByteArray.mk (content.map Nat.toUInt8).toArray)

/-- The exit code of a command. -/
def exitCode : Ending → UInt32
  | .exit code => code.toUInt32
  | .crash _ => 1

end EnvConcord.Command.Line

open EnvConcord.Command.Line in
/-- Runs the command that the arguments ask for. -/
def main (args : List String) : IO UInt32 := do
  let names ← readLines (← IO.getStdin)
  let here := toString (← IO.currentDir)
  let tree ← names.foldlM addFile { root := here ++ "/" }
  let environment ← readVariables
  let answer := Command.answer { tree, environment := environment.get? } args
  IO.print answer.value.printed
  for warning in answer.log do IO.eprintln warning
  for (place, node) in answer.value.tree.nodes.toList do writeBack tree place node
  return exitCode answer.value.ending
