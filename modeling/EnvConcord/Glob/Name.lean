/-!
# Name patterns

A name pattern stands for names: a star for any characters, a question mark for one,
and a set between brackets for one of its characters.  A set lists characters and
ranges; an exclamation mark in front stands for all others.
-/

namespace EnvConcord.Glob

/-- The characters of a set, as ranges. -/
structure CharSet where
  negated : Bool
  ranges : List (Char × Char)
  deriving DecidableEq, Repr

/-- Whether a set holds a character. -/
def CharSet.holds (s : CharSet) (c : Char) : Bool :=
  (s.ranges.any fun range => range.1 ≤ c && c ≤ range.2) != s.negated

/-- A part of a name pattern. -/
inductive NamePart
  | star
  | any
  | one (char : Char)
  | among (set : CharSet)
  deriving DecidableEq, Repr

/-! ## Sets -/

/-- The members of a set behind its mark and what follows the set, if it is closed. A closing
bracket that comes first belongs to the set. -/
def takeMembers? (cs : List Char) : Option (List Char × List Char) :=
  let first := match cs with
    | ']' :: _ => [']']
    | _ => []
  let cs := cs.drop first.length
  match cs.dropWhile (· != ']') with
  | [] => none
  | _ :: rest => some (first ++ cs.takeWhile (· != ']'), rest)

/-- The text of a set with its mark and what follows it, if the set is closed. -/
def closeSet? (cs : List Char) : Option (List Char × List Char) :=
  let mark := match cs with
    | '!' :: _ => ['!']
    | _ => []
  (takeMembers? (cs.drop mark.length)).map fun (members, rest) => (mark ++ members, rest)

/-- Cut the text of a set at the hyphens that express ranges: such a hyphen has at least
`least` characters in front of it. -/
def cutRanges : Nat → Nat → List Char → List (List Char)
  | 0, _, cs => [cs]
  | fuel + 1, least, cs =>
      let size := least + ((cs.drop least).takeWhile (· != '-')).length
      match cs.drop size with
      | [] => [cs]
      | [_] => [cs.take size ++ ['-']]
      | _ :: rest => cs.take size :: cutRanges fuel 2 rest

/-- Drop the ranges without characters. -/
def dropEmptyRanges : List (List Char) → List (List Char)
  | [] => []
  | piece :: rest =>
      match dropEmptyRanges rest with
      | [] => [piece]
      | next :: others =>
          match piece.getLast?, next.head? with
          | some low, some high =>
              if high < low then (piece.dropLast ++ next.tail) :: others
              else piece :: next :: others
          | _, _ => piece :: next :: others

/-- A character as a range. -/
def single (c : Char) : Char × Char := (c, c)

/-- The ranges of pieces: between the end of a piece and the start of the next one, and the
other characters alone. -/
def rangesOf : List (List Char) → List (Char × Char)
  | [] => []
  | [piece] => piece.map single
  | piece :: next :: rest =>
      match piece.getLast?, next with
      | some low, high :: others =>
          piece.dropLast.map single ++ (low, high) :: rangesOf (others :: rest)
      | _, _ => piece.map single ++ rangesOf (next :: rest)
termination_by pieces => pieces.length

/-- The set of a text. -/
def CharSet.ofText (cs : List Char) : CharSet :=
  let least := if cs.head? == some '!' then 2 else 1
  let pieces := if cs.contains '-' then dropEmptyRanges (cutRanges cs.length least cs) else [cs]
  match pieces with
  | ('!' :: piece) :: rest => ⟨true, rangesOf (piece :: rest)⟩
  | pieces => ⟨false, rangesOf pieces⟩

/-! ## Patterns -/

/-- Read a name pattern; a bracket that is not closed stands for itself. -/
def readName : Nat → List Char → List NamePart
  | 0, _ => []
  | _ + 1, [] => []
  | fuel + 1, '*' :: rest => .star :: readName fuel rest
  | fuel + 1, '?' :: rest => .any :: readName fuel rest
  | fuel + 1, '[' :: rest =>
      match closeSet? rest with
      | some (text, rest) => .among (.ofText text) :: readName fuel rest
      | none => .one '[' :: readName fuel rest
  | fuel + 1, c :: rest => .one c :: readName fuel rest

/-- Whether parts stand for a name. -/
def nameMatches : List NamePart → List Char → Bool
  | [], cs => cs.isEmpty
  | .star :: parts, [] => nameMatches parts []
  | .star :: parts, c :: cs => nameMatches parts (c :: cs) || nameMatches (.star :: parts) cs
  | .any :: parts, _ :: cs => nameMatches parts cs
  | .one x :: parts, c :: cs => x == c && nameMatches parts cs
  | .among set :: parts, c :: cs => set.holds c && nameMatches parts cs
  | _ :: _, [] => false
termination_by parts cs => parts.length + cs.length

/-- Whether a pattern stands for a name. -/
def standsFor (pattern name : String) : Bool :=
  nameMatches (readName pattern.length pattern.toList) name.toList

/-- Whether a text has a character with a meaning in patterns. -/
def hasMagic (text : String) : Bool := text.toList.any fun c => c == '*' || c == '?' || c == '['

end EnvConcord.Glob
