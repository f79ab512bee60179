import EnvConcord.Text.Lines

/-!
# Paths

A path is a root mark and a list of names.  Reading a path drops empty names and
single dots; two dots are kept as a name.
-/

namespace EnvConcord

/-- A path by its root mark (empty for a relative path) and its names. -/
structure Path where
  root : String := ""
  parts : List String := []
  deriving DecidableEq, Repr, Inhabited

namespace Path

/-- The mark that a text starts with: one slash, or exactly two of them. -/
def rootMark (cs : List Char) : String :=
  match cs with
  | '/' :: '/' :: '/' :: _ => "/"
  | '/' :: '/' :: _ => "//"
  | '/' :: _ => "/"
  | _ => ""

/-- Read a path. -/
def parse (text : String) : Path where
  root := rootMark text.toList
  parts := ((Text.splitAt '/' text.toList).map String.ofList).filter fun part =>
    part != "" && part != "."

/-- A root mark that stands alone: slashes at its end count only where nothing else is in it. -/
def bareRoot (mark : String) : String :=
  let kept := (mark.toList.reverse.dropWhile (· == '/')).reverse
  if kept.isEmpty then mark else String.ofList kept

/-- The text of a path; a relative path without names is a dot. -/
def render (p : Path) : String :=
  if p.parts.isEmpty then
    if p.root == "" then "." else bareRoot p.root
  else p.root ++ String.intercalate "/" p.parts

/-- Whether the path starts at the root. -/
def isAbsolute (p : Path) : Bool := p.root != ""

/-- Whether a name holds a null character.  No file system has such a name, and opening the
path is refused before the file system is asked. -/
def holdsNull (p : Path) : Bool := p.parts.any fun part => part.toList.contains '\x00'

/-- The last name, or the empty text. -/
def name (p : Path) : String := p.parts.getLastD ""

/-- The end of a name from its last dot on, unless that dot is the first or the
last character. -/
def suffixOf (name : String) : String :=
  let reversed := name.toList.reverse
  let tail := reversed.takeWhile (· != '.')
  let stem := (reversed.drop (tail.length + 1))
  if tail.isEmpty || stem.isEmpty || tail.length == reversed.length then ""
  else String.ofList ('.' :: tail.reverse)

/-- The suffix of the last name. -/
def suffix (p : Path) : String := suffixOf p.name

/-- A path seen from another one; an absolute path stands for itself. -/
def append (base p : Path) : Path :=
  if p.isAbsolute then p else { base with parts := base.parts ++ p.parts }

/-- The path without its last name. -/
def parent (p : Path) : Path := { p with parts := p.parts.dropLast }

/-- What paths are compared by: the root mark, if there is one, and the names. -/
def sortKey (p : Path) : List String := if p.root == "" then p.parts else p.root :: p.parts

end Path

/-- A path together with the spelling that it is shown by. -/
structure SpelledPath where
  path : Path
  spelling : String
  deriving DecidableEq, Repr

namespace SpelledPath

/-- A path as a text spells it. -/
def ofText (text : String) : SpelledPath := ⟨Path.parse text, text⟩

/-- A path in its usual spelling. -/
def ofPath (p : Path) : SpelledPath := ⟨p, p.render⟩

end SpelledPath

end EnvConcord
