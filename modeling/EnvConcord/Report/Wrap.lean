import EnvConcord.Text.Blank
import EnvConcord.Text.CellWidth
import EnvConcord.Text.Lines

/-!
# Fitting text into columns

A text is cut at its line breaks, its tabs are filled up to the next multiple of
eight cells, and lines that are too wide are broken between words.  A word that
is wider than the column is folded or cut off, as the column says.
-/

namespace EnvConcord.Report

/-- What happens to a word that is wider than its column. -/
inductive Overflow
  | fold
  | ellipsis
  deriving DecidableEq, Repr

/-- Where a line stands in its column. -/
inductive Justify
  /-- As it is, without padding. -/
  | none
  | left
  | center
  | right
  deriving DecidableEq, Repr

/-- Whether a control character is dropped from all output: bell, backspace, vertical
tab, form feed and carriage return. -/
def isDropped (c : Char) : Bool :=
  let code := c.toNat
  code == 7 || code == 8 || code == 11 || code == 12 || code == 13

/-- A text without the control characters that are dropped. -/
def clean (cs : List Char) : List Char := cs.filter fun c => !isDropped c

/-- The pieces between tabs with their tabs filled up; `position` cells are used. -/
def fillTabs (position : Nat) : List (List Char) → List Char
  | [] => []
  | [piece] => piece
  | piece :: rest =>
      let after := position + Text.cells piece + 1
      let filling := (8 - after % 8) % 8
      piece ++ ' ' :: List.replicate filling ' ' ++ fillTabs (after + filling) rest

/-- A line with its tabs filled up to multiples of eight cells. -/
def expandTabs (cs : List Char) : List Char := fillTabs 0 (Text.splitAt '\t' cs)

/-- The words of a line, each with the blanks behind it; the first one also has the
blanks before it. A line of blanks has no words. -/
def wordsUpTo : Nat → List Char → List (List Char)
  | 0, _ => []
  | fuel + 1, cs =>
      let lead := cs.takeWhile Text.isBlank
      let body := cs.dropWhile Text.isBlank
      let letters := body.takeWhile fun c => !Text.isBlank c
      let rest := body.dropWhile fun c => !Text.isBlank c
      if letters.isEmpty then []
      else
        (lead ++ letters ++ rest.takeWhile Text.isBlank) ::
          wordsUpTo fuel (rest.dropWhile Text.isBlank)

/-- The words of a line. -/
def words (cs : List Char) : List (List Char) := wordsUpTo (cs.length + 1) cs

/-- The offsets at which a folded word is cut; `start` is where it begins, and a cut at
the very beginning of the line is none. -/
def foldBreaks (start : Nat) : List (List Char) → List Nat
  | [] => []
  | piece :: rest => (if start = 0 then [] else [start]) ++ foldBreaks (start + piece.length) rest

/-- The offsets at which a line is broken. `start` is the offset of the first of the
words and `used` the cells taken on the current line. -/
def breaks (width : Nat) (overflow : Overflow) (start used : Nat) : List (List Char) → List Nat
  | [] => []
  | word :: rest =>
      let size := Text.cells (Text.trimRight word)
      let next := start + word.length
      if used + size ≤ width then
        breaks width overflow next (used + Text.cells word) rest
      else if width < size then
        match overflow with
        | .fold =>
            let pieces := Text.chopCells width word
            foldBreaks start pieces ++
              breaks width overflow next (Text.cells (pieces.getLastD [])) rest
        | .ellipsis =>
            (if start = 0 then [] else [start]) ++
              breaks width overflow next (Text.cells word) rest
      else if used ≠ 0 ∧ start ≠ 0 then
        start :: breaks width overflow next (Text.cells word) rest
      else breaks width overflow next used rest

/-- Cut a text at ascending offsets, the first of which is counted from `done`. -/
def cutAt (done : Nat) (cs : List Char) : List Nat → List (List Char)
  | [] => [cs]
  | offset :: offsets => cs.take (offset - done) :: cutAt offset (cs.drop (offset - done)) offsets

/-- A line without the blanks at its end that stand beyond a width. -/
def dropExcess (width : Nat) (cs : List Char) : List Char :=
  let excess := cs.length - width
  let blanks := (cs.reverse.takeWhile Text.isBlank).length
  cs.take (cs.length - min excess blanks)

/-- A line cut down to a width; an ellipsis shows what was cut off. -/
def truncate (width : Nat) (overflow : Overflow) (cs : List Char) : List Char :=
  if Text.cells cs ≤ width then cs
  else
    match overflow with
    | .fold => Text.fitCells width cs
    | .ellipsis => Text.fitCells (width - 1) cs ++ ['…']

/-- A number of blanks. -/
def blanks (count : Nat) : List Char := List.replicate count ' '

/-- A line put to its place in a column. -/
def justifyLine (width : Nat) (overflow : Overflow) (justify : Justify) (cs : List Char) :
    List Char :=
  match justify with
  | .none => truncate width overflow cs
  | .left =>
      let cut := truncate width overflow cs
      cut ++ blanks (width - Text.cells cut)
  | .center =>
      let cut := truncate width overflow (Text.trimRight cs)
      let left := blanks ((width - Text.cells cut) / 2) ++ cut
      left ++ blanks (width - Text.cells left)
  | .right =>
      let cut := truncate width overflow (Text.trimRight cs)
      blanks (width - Text.cells cut) ++ cut

/-- The lines of a text in a column. -/
def wrap (width : Nat) (overflow : Overflow) (justify : Justify) (breakable : Bool)
    (cs : List Char) : List (List Char) :=
  (Text.lines cs).flatMap fun line =>
    let line := if line.contains '\t' then expandTabs line else line
    let pieces :=
      if breakable then cutAt 0 line (breaks width overflow 0 0 (words line)) else [line]
    pieces.map fun piece => justifyLine width overflow justify (dropExcess width piece)

/-- Whether a character ends a line for the purpose of measuring. -/
def endsLine (c : Char) : Bool :=
  let code := c.toNat
  (10 ≤ code && code ≤ 13) || (28 ≤ code && code ≤ 30) || code == 0x85 || code == 0x2028 ||
    code == 0x2029

/-- The widest line of a text, tabs not filled up. -/
def measureUpTo (line : List Char) : List Char → Nat
  | [] => Text.cells line.reverse
  | c :: rest =>
      if endsLine c then max (Text.cells line.reverse) (measureUpTo [] rest)
      else measureUpTo (c :: line) rest

/-- The cells that a text would like to have. -/
def measure (cs : List Char) : Nat := measureUpTo [] cs

end EnvConcord.Report
