import EnvConcord.Glob.Brace
import EnvConcord.Glob.Ignore
import EnvConcord.Glob.Walk

/-!
# Resolving patterns to files

Every pattern is expanded into its options, each option is followed through the tree,
and the files found that no rule ignores are listed in the order of their names.
-/

namespace EnvConcord.Glob

/-- Whether a pattern asks for a directory: nothing or a dot stands behind its last slash. -/
def asksForDirectory (pattern : String) : Bool :=
  ((Text.splitAt '/' pattern.toList).getLast?).any fun last => last == [] || last == ['.']

/-- A path pattern below a directory. Only a pattern from the root is taken as it is written, so that
it can ask for a directory. -/
def patternIn (directory : Path) (pattern : String) : Path :=
  let p := Path.parse pattern
  if p.isAbsolute && asksForDirectory pattern then enter p "" else directory.append p

/-- The path that ignore rules see: as the directory sees it, if it is below the directory. -/
def seenFrom (t : Tree) (directory p : Path) : String :=
  match t.locate directory, t.locate p with
  | .ok base, .ok place =>
      if base.isPrefixOf place then
        ({ parts := place.drop base.length } : Path).render
      else p.render
  | _, _ => p.render

/-- Strict order of lists of names. -/
def namesBefore : List String → List String → Bool
  | [], [] => false
  | [], _ :: _ => true
  | _ :: _, [] => false
  | a :: as, b :: bs => a < b || (a == b && namesBefore as bs)

/-- Paths in the order of their names, each once. -/
def arrange (paths : List Path) : List Path :=
  (paths.eraseDups).mergeSort fun p q => !namesBefore q.sortKey p.sortKey

/-- The files that patterns stand for, seen from a directory. -/
def resolve (t : Tree) (directory : Path) (rules : List Ignore.Rule) (patterns : List String) :
    List Path :=
  let found := patterns.flatMap fun pattern =>
    (Brace.expandText pattern).flatMap fun option => find t (patternIn directory option)
  arrange (found.filter fun p => t.isFile p && !Ignore.ignored rules (seenFrom t directory p))

end EnvConcord.Glob
