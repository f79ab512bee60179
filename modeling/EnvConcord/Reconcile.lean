import EnvConcord.Access.Basic
import EnvConcord.EnvFile.Basic
import EnvConcord.Settings.Basic
import EnvConcord.Text.Sorted

/-!
# Reconciling code and env files

The keys that source text reads are compared with the keys that env files set.
Every list of the outcome is ascending.
-/

namespace EnvConcord

/-- The sizes of a comparison. -/
structure Summary where
  keysInCode : Int := 0
  keysInEnv : Int := 0
  totalIssues : Int := 0
  deriving DecidableEq, Repr, Inhabited

/-- The findings of a comparison. -/
structure Findings where
  /-- Keys read by code and set nowhere. -/
  missing : List String := []
  /-- Keys set and read nowhere. -/
  unused : List String := []
  /-- Keys set to nothing. -/
  empty : List String := []
  /-- Repeated keys; reading a file reports them, a comparison never does. -/
  duplicates : List String := []
  /-- The source texts of computed accesses. -/
  uncertain : List String := []
  summary : Summary := {}
  deriving DecidableEq, Repr, Inhabited

namespace Findings

/-- Whether anything was found. -/
def hasIssues (f : Findings) : Bool := f.summary.totalIssues > 0

end Findings

namespace Reconcile

/-- Whether a key of the code has to be set and is not. -/
def isMissing (entries : EntryMap) (settings : Settings) (key : CodeKey) : Bool :=
  !key.isComputed && !entries.contains key.name &&
    !(settings.allowOptional.contains key.name && key.isOptional)

/-- The names of the keys that are not computed. -/
def staticNames (keys : List CodeKey) : List String :=
  (keys.filter fun key => !key.isComputed).map CodeKey.name

/-- The source text of a computed key's first usage. -/
def uncertainText? (key : CodeKey) : Option String :=
  if key.isComputed then key.usages.head?.map Usage.rawText else none

/-- Whether a key is set without being read. -/
def isUnused (keys : List CodeKey) (settings : Settings) (name : String) : Bool :=
  !(staticNames keys).contains name && !settings.ignoreKeys.contains name

/-- Whether an entry has no value and should have one. -/
def isUnset (settings : Settings) (pair : String × Entry) : Bool :=
  pair.2.isEmpty && !settings.ignoreKeys.contains pair.1

end Reconcile

open Reconcile in
/-- Compare the keys of code with the entries of env files. -/
def reconcile (keys : List CodeKey) (entries : EntryMap) (settings : Settings) : Findings :=
  let missing := (keys.filter (isMissing entries settings)).map CodeKey.name
  let unused := entries.keys.filter (isUnused keys settings)
  let empty := (entries.toList.filter (isUnset settings)).map Prod.fst
  { missing := Text.sort missing
    unused := Text.sort unused
    empty := Text.sort empty
    uncertain := Text.sort (keys.filterMap uncertainText?)
    summary :=
      { keysInCode := (Text.sortDistinct (keys.map CodeKey.name)).length
        keysInEnv := entries.keys.length
        totalIssues := missing.length + unused.length + empty.length } }

namespace Reconcile

/-- The missing keys with their usages; of several keys of one name the last. -/
def missingDetails (keys : List CodeKey) (missing : List String) : Dict String CodeKey :=
  Dict.ofList ((keys.filter fun key => missing.contains key.name).map fun key => (key.name, key))

/-- The unused keys with their entries. -/
def unusedDetails (entries : EntryMap) (unused : List String) : EntryMap :=
  Dict.ofList (unused.filterMap fun name => (entries.get? name).map fun entry => (name, entry))

end Reconcile

end EnvConcord
