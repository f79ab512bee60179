/-!
# Brace groups

A group `{a,b}` in a pattern stands for its options, one pattern for each.  The
first group is expanded first; a pattern whose first brace is never closed
stands for itself.
-/

namespace EnvConcord.Glob.Brace

/-- The inside of a group and what follows it, read behind the opening brace;
`depth` counts the braces opened since. -/
def splitGroup? : Nat → List Char → Option (List Char × List Char)
  | _, [] => none
  | depth, c :: rest =>
      if c = '{' then (splitGroup? (depth + 1) rest).map fun group => (c :: group.1, group.2)
      else if c = '}' then
        match depth with
        | 0 => some ([], rest)
        | outer + 1 => (splitGroup? outer rest).map fun group => (c :: group.1, group.2)
      else (splitGroup? depth rest).map fun group => (c :: group.1, group.2)

/-- The options inside a group, cut at the commas outside inner groups. -/
def options : Nat → List Char → List (List Char)
  | _, [] => [[]]
  | depth, c :: rest =>
      if c = ',' && depth == 0 then [] :: options depth rest
      else
        let inner := if c = '{' then depth + 1 else if c = '}' then depth - 1 else depth
        match options inner rest with
        | [] => [[c]]
        | option :: others => (c :: option) :: others

/-- A pattern cut at its first group: what stands before it, inside it and after it. -/
structure Cut where
  before : List Char
  inside : List Char
  after : List Char
  deriving DecidableEq, Repr

/-- The first group of a pattern, if its first brace is closed. -/
def cut? (pattern : List Char) : Option Cut :=
  match pattern.dropWhile (· != '{') with
  | [] => none
  | _ :: rest =>
      (splitGroup? 0 rest).map fun group => ⟨pattern.takeWhile (· != '{'), group.1, group.2⟩

/-- Expand at most `fuel` groups one inside or behind the other. -/
def expandUpTo : Nat → List Char → List (List Char)
  | 0, pattern => [pattern]
  | fuel + 1, pattern =>
      match cut? pattern with
      | none => [pattern]
      | some cut =>
          (options 0 cut.inside).flatMap fun option =>
            expandUpTo fuel (cut.before ++ option ++ cut.after)

/-- The patterns that a pattern stands for. Each expansion removes an opening
brace, so their number bounds the depth. -/
def expand (pattern : List Char) : List (List Char) :=
  expandUpTo (pattern.count '{') pattern

/-- The patterns that a pattern text stands for. -/
def expandText (pattern : String) : List String :=
  (expand pattern.toList).map String.ofList

end EnvConcord.Glob.Brace
