import EnvConcord.Access.Scan
import EnvConcord.Text.LowerCase
import EnvConcord.Text.Sorted
import EnvConcord.Tree.Path

/-!
# Choosing a dialect

A registry assigns dialects to file suffixes, whatever their case.  A later
registration of a suffix replaces an earlier one; a file of an unknown suffix
gets the fallback.
-/

namespace EnvConcord.Access

/-- The dialects by suffix, in lower case. -/
structure Registry where
  bySuffix : Dict String Dialect := .empty
  fallback : Dialect := .javascript

namespace Registry

/-- Register a dialect for all its suffixes. -/
def register (r : Registry) (dialect : Dialect) : Registry :=
  { r with
    bySuffix :=
      r.bySuffix.insertAll (dialect.extensions.map fun suffix => (Text.lowered suffix, dialect)) }

/-- A registry of some dialects. -/
def ofDialects (dialects : List Dialect) (fallback : Dialect) : Registry :=
  dialects.foldl register { fallback }

/-- The registry of the built-in dialects. -/
def standard : Registry := ofDialects [.javascript, .python] .javascript

/-- The dialect of a file. -/
def forPath (r : Registry) (path : String) : Dialect :=
  (r.bySuffix.get? (Text.lowered (Path.parse path).suffix)).getD r.fallback

/-- The registered suffixes, ascending. -/
def suffixes (r : Registry) : List String := Text.sort r.bySuffix.keys

/-- The keys that a file's text reads, in the dialect of its suffix. -/
def scan (r : Registry) (file text : String) : List CodeKey :=
  Access.scan (r.forPath file) file text

end Registry

end EnvConcord.Access
