import EnvConcord.Glob.Name
import EnvConcord.Text.Blank
import EnvConcord.Text.Lines

/-!
# Ignore rules

A rule stands for paths, each together with everything below it.  A rule without a slash
concerns names in every directory; an exclamation mark takes back what other rules
ignore.  What a rule says about a path itself counts more than what it says about a
directory around it, and among equals the later rule counts.
-/

namespace EnvConcord.Glob.Ignore

/-- A part of a rule, matched against the text of a path. -/
inductive Part
  /-- Any directories in front, or none. -/
  | leading
  /-- Any directories in between, or none. -/
  | between
  | slash
  /-- Characters of a name, or none. -/
  | star
  /-- A whole name. -/
  | name
  | any
  | one (char : Char)
  | among (set : CharSet)
  /-- The end of the path, or of a directory in it. -/
  | finish
  /-- Whatever is below, either as a part of a directory or on its own account. -/
  | below (asDirectory : Bool)
  /-- Every path. -/
  | everything
  deriving DecidableEq, Repr

/-- A rule: whether it ignores or takes back, and its parts. -/
structure Rule where
  ignores : Bool
  parts : List Part
  deriving DecidableEq, Repr

/-! ## Reading rules -/

/-- The ranges of a set's members: two characters around a hyphen, and single ones. -/
def hyphenRanges : List Char → List (Char × Char)
  | low :: '-' :: high :: rest => (low, high) :: hyphenRanges rest
  | c :: rest => single c :: hyphenRanges rest
  | [] => []

/-- A set as rules write it, where both marks negate, and what follows it. -/
def readSet? (cs : List Char) : Option (CharSet × List Char) :=
  let negated := cs.head? == some '!' || cs.head? == some '^'
  (takeMembers? (if negated then cs.drop 1 else cs)).map fun (members, rest) =>
    (⟨negated, hyphenRanges members⟩, rest)

/-- Whether all ranges of a set have characters. -/
def isProper (s : CharSet) : Bool := s.ranges.all fun range => range.1 ≤ range.2

/-- The parts of a segment between slashes. A backslash takes the meaning of the next
character away; at the end of a segment, and with an improper range, there is no rule. -/
def readSegment : Nat → List Char → Option (List Part)
  | 0, _ => some []
  | _ + 1, [] => some []
  | fuel + 1, '\\' :: rest =>
      match rest with
      | c :: rest => (readSegment fuel rest).map (.one c :: ·)
      | [] => none
  | fuel + 1, '*' :: rest => (readSegment fuel rest).map (.star :: ·)
  | fuel + 1, '?' :: rest => (readSegment fuel rest).map (.any :: ·)
  | fuel + 1, '[' :: rest =>
      match readSet? rest with
      | some (set, rest) =>
          if isProper set then (readSegment fuel rest).map (.among set :: ·) else none
      | none => (readSegment fuel rest).map (.one '[' :: ·)
  | fuel + 1, c :: rest => (readSegment fuel rest).map (.one c :: ·)

/-- Keep one of each run of double stars. -/
def dropRepeatedStars : List String → List String
  | "**" :: rest =>
      match dropRepeatedStars rest with
      | "**" :: others => "**" :: others
      | others => "**" :: others
  | segment :: rest => segment :: dropRepeatedStars rest
  | [] => []

/-- The segments of a rule in full: where it may begin, and what is below a directory. -/
def completeSegments (segments : List String) : List String :=
  let opened :=
    match segments with
    | "" :: rest => rest
    | [segment] => if segment == "**" then [segment] else ["**", segment]
    | [segment, ""] => if segment == "**" then [segment, ""] else ["**", segment, ""]
    | segments => segments
  let closed := if opened.getLast? == some "" then opened.dropLast ++ ["**"] else opened
  dropRepeatedStars closed

/-- The parts of the segments from a place on; `first` tells whether it is the start, and
`slash` whether a slash is due in front of a name. -/
def partsFrom (asDirectory first slash : Bool) : List String → Option (List Part)
  | [] => some []
  | "**" :: rest =>
      if first then (partsFrom asDirectory false false rest).map (.leading :: ·)
      else if rest.isEmpty then some [.below asDirectory]
      else (partsFrom asDirectory false true rest).map (.between :: ·)
  | segment :: rest => do
      let own ← if segment == "*" then some [.name] else readSegment segment.length segment.toList
      let more ← partsFrom asDirectory false true rest
      return (if slash then [.slash] else []) ++ own ++
        (if rest.isEmpty then [.finish] else []) ++ more

/-- The parts of a rule's text behind its mark. -/
def readParts (text : String) : Option (List Part) :=
  let segments := (Text.splitAt '/' text.toList).map String.ofList
  let asDirectory := segments.getLast? == some ""
  match completeSegments segments with
  | [] => none
  | ["**"] => some (if asDirectory then [.name, .below true] else [.everything])
  | segments => partsFrom asDirectory true false segments

/-- A rule's text without blanks at its end; a blank behind a backslash stays. -/
def trimRule (text : String) : String :=
  let cs := text.toList
  if ['\\', ' '].reverse.isPrefixOf cs.reverse then text else String.ofList (Text.trimRight cs)

/-- Read a rule; an empty text, a comment and a lone slash are none. -/
def Rule.read? (text : String) : Option Rule :=
  match (trimRule text).toList with
  | [] => none
  | '#' :: _ => none
  | ['/'] => none
  | '!' :: rest => (readParts (String.ofList rest)).map fun parts => ⟨false, parts⟩
  | cs => (readParts (String.ofList cs)).map fun parts => ⟨true, parts⟩

/-! ## Matching -/

/-- What is left behind each slash of a text that has a character in front of it, the last
slash first. -/
def behindSlashes : List Char → List (List Char)
  | [] => []
  | _ :: rest =>
      behindSlashes rest ++
        match rest with
        | '/' :: behind => [behind]
        | _ => []

/-- All ends of a text, the shortest first. -/
def ends : List Char → List (List Char)
  | [] => [[]]
  | c :: rest => ends rest ++ [c :: rest]

/-- What can be left behind characters of one name, the shortest rest first. -/
def behindName : List Char → List (List Char)
  | [] => [[]]
  | '/' :: rest => ['/' :: rest]
  | c :: rest => behindName rest ++ [c :: rest]

/-- What can be left behind a part of a path, in the order in which it is tried. -/
def Part.rests : Part → List Char → List (List Char)
  | .leading, cs => behindSlashes cs ++ [cs]
  | .between, '/' :: c :: rest => ends rest ++ ['/' :: c :: rest]
  | .between, cs => [cs]
  | .slash, '/' :: rest => [rest]
  | .star, cs => behindName cs
  | .name, c :: rest => if c == '/' then [] else behindName rest
  | .any, c :: rest => if c == '/' then [] else [rest]
  | .one x, c :: rest => if x == c then [rest] else []
  | .among set, c :: rest => if set.holds c then [rest] else []
  | _, _ => []

/-- How a path is matched: itself, or only a directory around it. -/
inductive Strength
  | directory
  | path
  deriving DecidableEq, Repr

/-- How parts match the rest of a path; the first way found counts. -/
def strength? : List Part → List Char → Option Strength
  | [], _ => some .path
  | [.finish], [] => some .path
  | [.finish], '/' :: _ => some .directory
  | [.finish], _ => none
  | [.below asDirectory], '/' :: _ => some (if asDirectory then .directory else .path)
  | [.below _], _ => none
  | .everything :: _, cs => if cs.isEmpty then none else some .path
  | part :: parts, cs => (part.rests cs).findSome? (strength? parts)

/-- What the rules so far say about a path, and whether they concern the path itself. -/
structure Standing where
  ignored : Bool := false
  byPath : Bool := false
  deriving DecidableEq, Repr

/-- Add what one more rule says. A rule about a directory yields to one about the path. -/
def Standing.add (s : Standing) (path : List Char) (rule : Rule) : Standing :=
  match strength? rule.parts path with
  | none => s
  | some .path => ⟨rule.ignores, true⟩
  | some .directory => if s.byPath then s else ⟨rule.ignores, false⟩

/-- Whether rules ignore a path. -/
def ignored (rules : List Rule) (path : String) : Bool :=
  (rules.foldl (fun (s : Standing) rule => s.add path.toList rule) {}).ignored

/-- Read the rules of texts. -/
def rulesOf (texts : List String) : List Rule := texts.filterMap Rule.read?

end EnvConcord.Glob.Ignore
