import EnvConcord.Glob.Name
import EnvConcord.Tree.Basic

/-!
# Finding the paths of a pattern

A path pattern is followed name by name.  Two stars as a name stand for any number of
directories, and an empty name at the end stands for the directories found so far.  Hidden
names are found only by patterns that begin with a dot, and below two stars not at all.
-/

namespace EnvConcord.Glob

/-- Whether a name is hidden. -/
def isHidden (name : String) : Bool := name.toList.head? == some '.'

/-- A name in a directory. -/
def enter (directory : Path) (name : String) : Path :=
  { directory with parts := directory.parts ++ [name] }

/-- The names in a directory, or only those of directories. -/
def namesIn (t : Tree) (directoriesOnly : Bool) (directory : Path) : List String :=
  (t.children directory).filter fun name =>
    !directoriesOnly || t.isDirectory (enter directory name)

/-- The paths in a directory whose names a pattern stands for. -/
def matchesIn (t : Tree) (directoriesOnly : Bool) (pattern : String) (directory : Path) :
    List Path :=
  let names := (namesIn t directoriesOnly directory).filter fun name =>
    (isHidden pattern || !isHidden name) && standsFor pattern name
  names.map (enter directory)

/-- All paths below a directory that are not hidden, at most `fuel` levels deep. -/
def below (t : Tree) (directoriesOnly : Bool) : Nat → Path → List Path
  | 0, _ => []
  | fuel + 1, directory =>
      let names := (namesIn t directoriesOnly directory).filter fun name => !isHidden name
      names.flatMap fun name =>
        enter directory name :: below t directoriesOnly fuel (enter directory name)

/-- The depth that no path of a tree exceeds. -/
def depthBound (t : Tree) : Nat := t.nodes.keys.foldl (fun bound place => max bound place.length) 0

/-- A directory and all paths below it that are not hidden. -/
def withBelow (t : Tree) (directoriesOnly : Bool) (p : Path) : List Path :=
  if t.isDirectory p then p :: below t directoriesOnly (depthBound t + 1) p else []

/-- Follow the names of a pattern from some paths. Names without patterns are only looked
up behind a pattern. -/
def follow (t : Tree) (checked : Bool) : List String → List Path → List Path
  | [], found => if checked then found else found.filter t.exists?
  | name :: rest, found =>
      let directoriesOnly := !rest.isEmpty
      if name == "" then follow t true rest (found.filter t.isDirectory)
      else if name == "**" then
        follow t true rest (found.flatMap (withBelow t directoriesOnly))
      else if hasMagic name then
        follow t true rest (found.flatMap (matchesIn t directoriesOnly name))
      else
        let next := found.map fun p => enter p name
        follow t checked rest (if checked then next.filter t.exists? else next)

/-- The paths that a pattern stands for, some perhaps more than once. -/
def find (t : Tree) (pattern : Path) : List Path :=
  follow t false pattern.parts [{ pattern with parts := [] }]

end EnvConcord.Glob
