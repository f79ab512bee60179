import EnvConcord.Document.Chars
import EnvConcord.Document.Yaml.Cursor
import EnvConcord.Document.Yaml.Fault
import EnvConcord.Text.Digits

/-!
# Scalars of a YAML text

A scalar is written between quotes, as an indented block, or plain.  Line breaks
inside quoted and plain scalars are folded: a single one becomes a blank, of
several the first is dropped.
-/

namespace EnvConcord.Document.Yaml

/-! ## Line breaks -/

/-- The line breaks from a place on, each after what `skip` passes. -/
def takeBreaks (skip : Cursor → Cursor) : Nat → Cursor → List Char × Cursor
  | 0, c => ([], c)
  | fuel + 1, c =>
      let c := skip c
      match c.takeBreak? with
      | none => ([], c)
      | some (b, c) =>
          let (more, c) := takeBreaks skip fuel c
          (b :: more, c)

/-- What a first line break and those behind it stand for. -/
def foldBreaks (first : Char) (others : List Char) : List Char :=
  if first != '\n' then first :: others
  else if others.isEmpty then [' ']
  else others

/-! ## Blocks -/

/-- What happens to the line breaks at the end of a block. -/
inductive Chomping
  | strip
  | clip
  | keep
  deriving DecidableEq, Repr

/-- The chomping that a sign asks for. -/
def Chomping.ofSign? : Char → Option Chomping
  | '+' => some .keep
  | '-' => some .strip
  | _ => none

/-- The digit that sets the depth of a block. -/
def readIncrement (c : Cursor) : Except Fault (Option Nat × Cursor) :=
  match c.peek? with
  | some d =>
      if !d.isDigit then .ok (none, c)
      else if d == '0' then .error .malformed
      else .ok (Text.digitValue? d, c.next)
  | none => .ok (none, c)

/-- A sign of chomping, if there is one. -/
def readChomping (c : Cursor) : Option Chomping × Cursor :=
  match c.peek?.bind Chomping.ofSign? with
  | some chomping => (some chomping, c.next)
  | none => (none, c)

/-- The rest of a line that may hold spaces and a comment, and its break. -/
def skipLineRest (c : Cursor) : Except Fault Cursor :=
  let c := c.skipSpaces
  let c := if c.peek? == some '#' then (c.run fun x => !isBreak x).2 else c
  match c.takeBreak? with
  | some (_, c) => .ok c
  | none => if c.atEnd then .ok c else .error .malformed

/-- The header of a block: chomping and depth in either order. -/
def readBlockHeader (c : Cursor) : Except Fault (Chomping × Option Nat × Cursor) := do
  let (before, c) := readChomping c
  let (increment, c) ← readIncrement c
  let (after, c) := if before.isNone && increment.isSome then readChomping c else (none, c)
  if atSpaceOrEnd c.peek? then
    return (before.getD (after.getD .clip), increment, ← skipLineRest c)
  else .error .malformed

/-- Pass spaces up to a column. -/
def skipTo (indent : Nat) (c : Cursor) : Cursor :=
  Cursor.forward (min (indent - c.column) (c.rest.takeWhile (· == ' ')).length) c

/-- The line breaks that a block begins with, and the greatest depth of blank lines. -/
def leadingBreaks : Nat → Nat → Cursor → List Char × Nat × Cursor
  | 0, depth, c => ([], depth, c)
  | fuel + 1, depth, c =>
      let c := c.skipSpaces
      let depth := max depth c.column
      match c.takeBreak? with
      | none => ([], depth, c)
      | some (b, c) =>
          let (more, depth, c) := leadingBreaks fuel depth c
          (b :: more, depth, c)

/-- The lines of a block. -/
structure BlockLines where
  text : List Char
  /-- The break behind the last line. -/
  lastBreak : List Char
  /-- The breaks of the blank lines behind it. -/
  blankBreaks : List Char
  cursor : Cursor

/-- Whether a line is more than blanks at its start. -/
def beginsFull (c : Cursor) : Bool := c.peek? != some ' ' && c.peek? != some '\t'

/-- The lines of a block from a line on whose blank lines before it are `breaks`. -/
def readBlockLines (folded : Bool) (indent : Nat) : Nat → Cursor → List Char → BlockLines
  | 0, c, breaks => ⟨[], [], breaks, c⟩
  | fuel + 1, c, breaks =>
      if c.column != indent || c.atEnd then ⟨[], [], breaks, c⟩
      else
        let (line, behind) := c.run fun x => !isBreak x
        let (lineBreak, start) :=
          match behind.takeBreak? with
          | some (b, start) => ([b], start)
          | none => ([], behind)
        let (blank, start) := takeBreaks (skipTo indent) (start.rest.length + 1) start
        if start.column != indent || start.atEnd then ⟨breaks ++ line, lineBreak, blank, start⟩
        else
          let joint :=
            if folded && lineBreak == ['\n'] && beginsFull c && beginsFull start then
              if blank.isEmpty then [' '] else []
            else lineBreak
          let more := readBlockLines folded indent fuel start blank
          { more with text := breaks ++ line ++ joint ++ more.text }

/-- Read a block behind its indicator, inside a collection at depth `parent`. -/
def readBlock (folded : Bool) (parent : Int) (c : Cursor) : Except Fault (String × Cursor) := do
  let (chomping, increment, c) ← readBlockHeader c
  let least := max (parent + 1).toNat 1
  let fuel := c.rest.length + 1
  let (breaks, indent, c) :=
    match increment with
    | some depth =>
        let indent := least + depth - 1
        let (breaks, c) := takeBreaks (skipTo indent) fuel c
        (breaks, indent, c)
    | none =>
        let (breaks, depth, c) := leadingBreaks fuel 0 c
        (breaks, max least depth, c)
  let lines := readBlockLines folded indent fuel c breaks
  let ending :=
    match chomping with
    | .strip => []
    | .clip => lines.lastBreak
    | .keep => lines.lastBreak ++ lines.blankBreaks
  return (String.ofList (lines.text ++ ending), lines.cursor)

/-! ## Quoted scalars -/

/-- The characters of short escapes. -/
def shortEscape? : Char → Option Char
  | '0' => some '\x00'
  | 'a' => some '\x07'
  | 'b' => some '\x08'
  | 't' => some '\t'
  | '\t' => some '\t'
  | 'n' => some '\n'
  | 'v' => some '\x0b'
  | 'f' => some '\x0c'
  | 'r' => some '\r'
  | 'e' => some '\x1b'
  | ' ' => some ' '
  | '"' => some '"'
  | '\\' => some '\\'
  | '/' => some '/'
  | 'N' => some '\x85'
  | '_' => some '\xa0'
  | 'L' => some '\u2028'
  | 'P' => some '\u2029'
  | _ => none

/-- The number of hexadecimal digits behind a long escape. -/
def escapeSize? : Char → Option Nat
  | 'x' => some 2
  | 'u' => some 4
  | 'U' => some 8
  | _ => none

/-- The character of a code point; halves of pairs have none of their own. -/
def charOfCode (code : Nat) : Except Fault Char :=
  if 0x7fffffff < code then .error .characterTooLarge
  else if 0x10ffff < code then .error .noCharacter
  else .ok (if h : code.isValidChar then Char.ofNatAux code h else '\ufffd')

/-- The digits of a long escape. -/
def readEscapeDigits (size : Nat) (c : Cursor) : Except Fault (Char × Cursor) := do
  let digits := (c.rest.take size).filterMap Text.hexValue?
  if digits.length = size then
    return (← charOfCode (digits.foldl (fun total d => 16 * total + d) 0), Cursor.forward size c)
  else .error .malformed

/-- Pass spaces and tabs. -/
def skipBlanks (c : Cursor) : Cursor := (c.run isInlineBlank).2

/-- The further line breaks inside quotes; no document may begin there. -/
def quotedBreaks : Nat → Cursor → Except Fault (List Char × Cursor)
  | 0, c => .ok ([], c)
  | fuel + 1, c =>
      if c.atDocumentMark then .error .malformed
      else
        let c := skipBlanks c
        match c.takeBreak? with
        | none => .ok ([], c)
        | some (b, c) => do
            let (more, c) ← quotedBreaks fuel c
            return (b :: more, c)

/-- What stands behind a backslash between double quotes. -/
def readEscape (c : Cursor) : Except Fault (List Char × Cursor) :=
  match c.peek? with
  | none => .error .malformed
  | some x =>
      match shortEscape? x, escapeSize? x with
      | some y, _ => .ok ([y], c.next)
      | none, some size => do
          let (y, c) ← readEscapeDigits size c.next
          return ([y], c)
      | none, none =>
          match c.takeBreak? with
          | some (_, c) => quotedBreaks (c.rest.length + 1) c
          | none => .error .malformed

/-- Whether a character stands for itself between quotes of any kind. -/
def isQuotable (c : Char) : Bool :=
  c != '\'' && c != '"' && c != '\\' && c != ' ' && c != '\t' && !isBreak c

/-- The characters up to a blank or the closing quote. -/
def quotedWord (double : Bool) : Nat → Cursor → Except Fault (List Char × Cursor)
  | 0, c => .ok ([], c)
  | fuel + 1, c => do
      let (own, c) := c.run isQuotable
      match c.peek?, double with
      | some '\'', false =>
          if c.peekAt? 1 == some '\'' then
            let (more, c) ← quotedWord double fuel (Cursor.forward 2 c)
            return (own ++ '\'' :: more, c)
          else return (own, c)
      | some '\'', true =>
          let (more, c) ← quotedWord double fuel c.next
          return (own ++ '\'' :: more, c)
      | some '"', false =>
          let (more, c) ← quotedWord double fuel c.next
          return (own ++ '"' :: more, c)
      | some '\\', false =>
          let (more, c) ← quotedWord double fuel c.next
          return (own ++ '\\' :: more, c)
      | some '\\', true =>
          let (escaped, c) ← readEscape c.next
          let (more, c) ← quotedWord double fuel c
          return (own ++ escaped ++ more, c)
      | _, _ => return (own, c)

/-- The blanks between two words inside quotes. -/
def quotedBlanks (c : Cursor) : Except Fault (List Char × Cursor) := do
  let (blanks, c) := c.run isInlineBlank
  match c.takeBreak? with
  | some (first, c) =>
      let (others, c) ← quotedBreaks (c.rest.length + 1) c
      return (foldBreaks first others, c)
  | none => if c.atEnd then .error .malformed else return (blanks, c)

/-- Read a scalar behind its opening quote. -/
def readQuoted (double : Bool) : Nat → Cursor → Except Fault (List Char × Cursor)
  | 0, _ => .error .malformed
  | fuel + 1, c => do
      let (word, c) ← quotedWord double (c.rest.length + 1) c
      if c.peek? == some (if double then '"' else '\'') then return (word, c.next)
      else
        let (blanks, c) ← quotedBlanks c
        let (more, c) ← readQuoted double fuel c
        return (word ++ blanks ++ more, c)

/-! ## Plain scalars -/

/-- The brackets and the comma of collections between brackets. -/
def isFlowMark (c : Char) : Bool :=
  c == ',' || c == '[' || c == ']' || c == '\x7b' || c == '\x7d'

/-- Whether a plain scalar pauses here. -/
def endsPlain (flow : Bool) (c : Char) (next : Option Char) : Bool :=
  atBlankOrEnd (some c) ||
    (c == ':' && (atBlankOrEnd next || (flow && next.any isFlowMark))) ||
    (flow && (isFlowMark c || c == '?'))

/-- The characters of a plain scalar up to a pause. -/
def plainWord (flow : Bool) : List Char → List Char
  | [] => []
  | c :: rest => if endsPlain flow c rest.head? then [] else c :: plainWord flow rest

/-- What stands between two words of a plain scalar: nothing when the scalar ends there. -/
structure PlainGap where
  text : List Char
  /-- Whether a line break was passed. -/
  crossed : Bool
  cursor : Cursor

/-- The further line breaks inside a plain scalar, unless a document begins there. -/
def plainBreaks : Nat → Cursor → Option (List Char) × Cursor
  | 0, c => (some [], c)
  | fuel + 1, c =>
      if c.atDocumentMark then (none, c)
      else
        let c := c.skipSpaces
        match c.takeBreak? with
        | none => (some [], c)
        | some (b, c) =>
            let (more, c) := plainBreaks fuel c
            (more.map (b :: ·), c)

/-- Read the gap behind a word. -/
def readPlainGap (c : Cursor) : PlainGap :=
  let (blanks, c) := c.run (· == ' ')
  match c.takeBreak? with
  | none => ⟨blanks, false, c⟩
  | some (first, c) =>
      match plainBreaks (c.rest.length + 1) c with
      | (some others, c) => ⟨foldBreaks first others, true, c⟩
      | (none, c) => ⟨[], true, c⟩

/-- Read a plain scalar whose lines stand at `indent` or deeper; the flag tells whether a
line break was passed behind it. -/
def readPlain (flow : Bool) (indent : Int) : Nat → Cursor → List Char × Bool × Cursor
  | 0, c => ([], false, c)
  | fuel + 1, c =>
      let word := plainWord flow c.rest
      let gap := readPlainGap (Cursor.forward word.length c)
      let after := gap.cursor
      if gap.text.isEmpty || after.peek? == some '#' || (!flow && (after.column : Int) < indent) ||
          (plainWord flow after.rest).isEmpty then
        (word, gap.crossed, after)
      else
        let (more, crossed, last) := readPlain flow indent fuel after
        (word ++ gap.text ++ more, crossed, last)

end EnvConcord.Document.Yaml
