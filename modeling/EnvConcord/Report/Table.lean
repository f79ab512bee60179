import EnvConcord.Number.Rounding
import EnvConcord.Report.Styled
import EnvConcord.Report.Wrap

/-!
# Tables

A table has columns and rows of cells, each a span of text.  Its columns are as wide as
their widest cells; where they do not fit together, the widest ones give way first.  A
framed table has a heading between heavy lines, a grid has neither frame nor heading.
-/

namespace EnvConcord.Report

/-- How a column is laid out. -/
structure Column where
  heading : List Char := []
  style : Style := {}
  justify : Justify := .left
  /-- Whether lines may be broken and the column made narrower. -/
  breakable : Bool := true
  deriving DecidableEq, Repr

/-- A table before it is laid out. -/
structure Table where
  columns : List Column
  rows : List (List Span)
  /-- Whether there is a frame with a heading. -/
  framed : Bool := true
  border : Style := {}
  /-- The empty lines above every row of a grid but the first. -/
  rowGap : Nat := 0
  deriving DecidableEq, Repr

/-! ## Widths -/

/-- Some widths together. -/
def total (widths : List Nat) : Nat := widths.foldl (· + ·) 0

/-- Take `remaining` cells away from values of equal weight that take part, at most
`limit` from each. -/
def takeAway (remaining : Nat) (limit : Nat) : List (Bool × Nat) → List Nat
  | [] => []
  | (takesPart, value) :: rest =>
      let weight := (rest.filter Prod.fst).length + 1
      if takesPart then
        let part := min limit (Number.roundHalfEven remaining weight)
        (value - part) :: takeAway (remaining - part) limit rest
      else value :: takeAway remaining limit rest

/-- Make the widest breakable columns narrower, down to the next widest, until the
total fits. -/
def collapse (room : Nat) : Nat → List (Bool × Nat) → List Nat
  | 0, columns => columns.map Prod.snd
  | fuel + 1, columns =>
      let widths := columns.map Prod.snd
      let excess := total widths - room
      if excess = 0 then widths
      else
        let flexible := (columns.filter Prod.fst).map Prod.snd
        let widest := flexible.foldl max 0
        let second := (flexible.filter (· ≠ widest)).foldl max 0
        let difference := widest - second
        if flexible.isEmpty || difference = 0 then widths
        else
          let reduced := takeAway excess (min excess difference)
            (columns.map fun column => (column.1 && column.2 == widest, column.2))
          collapse room fuel ((columns.map Prod.fst).zip reduced)

/-- Take the excess away from all columns alike. -/
def reduceEvenly (room : Nat) (widths : List Nat) : List Nat :=
  let rec go (remaining : Nat) : List Nat → List Nat
    | [] => []
    | width :: rest =>
        if width = 0 then 0 :: go remaining rest
        else
          let weight := (rest.filter (· ≠ 0)).length + 1
          let part := min width (Number.roundHalfEven remaining weight)
          (width - part) :: go (remaining - part) rest
  go (total widths - room) widths

/-- The blanks on the left and right of a column's cells. -/
def Table.padding (t : Table) (index : Nat) : Nat × Nat :=
  if t.framed then (1, 1)
  else (0, if index + 1 = t.columns.length then 0 else 1)

/-- The width that a column would like to have, within some room. -/
def Table.wanted (t : Table) (room index : Nat) (column : Column) : Nat :=
  let sides := (t.padding index).1 + (t.padding index).2
  let texts := (if t.framed then [column.heading] else []) ++
    t.rows.filterMap fun row => (row[index]?).map Span.text
  let widest := (texts.map measure).foldl max 0
  if room < sides + 1 then room else min room (widest + sides)

/-- The cells taken by the frame's vertical lines. -/
def Table.frameWidth (t : Table) : Nat := if t.framed then t.columns.length + 1 else 0

/-- The widths of the columns, blanks included, in a page of some width. -/
def Table.widths (t : Table) (page : Nat) : List Nat :=
  let room := page - t.frameWidth
  let wanted := t.columns.zipIdx.map fun (column, index) => max 1 (t.wanted room index column)
  if total wanted ≤ room then wanted
  else
    let narrowed := collapse room (total wanted + 1) ((t.columns.map Column.breakable).zip wanted)
    let narrowed := if total narrowed ≤ room then narrowed else reduceEvenly room narrowed
    (t.columns.zip narrowed).zipIdx.map fun ((column, width), index) => t.wanted width index column

/-! ## Lines -/

/-- The lines of a cell: its text wrapped, with blanks on both sides. -/
def cellLines (column : Column) (base : Style) (sides : Nat × Nat) (width : Nat) (cell : Span) :
    List Line :=
  let inner := width - sides.1 - sides.2
  let pad (count : Nat) : Line := if count = 0 then [] else [⟨blanks count, base⟩]
  (wrap inner .ellipsis column.justify column.breakable cell.text).map fun line =>
    pad sides.1 ++ [⟨line, cell.style.over base⟩] ++ pad sides.2

/-- Join the cells of one line with the frame's vertical lines. -/
def joinCells (left divider right : Line) : List Line → Line
  | [] => left ++ right
  | [cell] => left ++ cell ++ right
  | cell :: rest => left ++ cell ++ joinCells divider divider right rest

/-- The lines of a row whose cells have been laid out. Shorter cells are filled up
with blank lines, below the text or, in a heading, above it. -/
def rowLines (heading : Bool) (left divider right : Line)
    (cells : List (Nat × Style × List Line)) : List Line :=
  let height := (cells.map fun cell => cell.2.2.length).foldl max 0
  let filled := cells.map fun (width, style, lines) =>
    let filler : List Line := List.replicate (height - lines.length) [⟨blanks width, style⟩]
    if heading then filler ++ lines else lines ++ filler
  (List.range height).map fun index =>
    joinCells left divider right (filled.map fun lines => lines.getD index [])

/-- A horizontal line of the frame. -/
def rule (style : Style) (left across divider right : Char) (widths : List Nat) : Line :=
  let stretches := widths.map fun width => List.replicate width across
  [⟨left :: [divider].intercalate stretches ++ [right], style⟩]

/-- The lines of a row's cells with their columns. -/
def Table.layRow (t : Table) (heading : Bool) (gap : Nat) (widths : List Nat) (row : List Span) :
    List (Nat × Style × List Line) :=
  ((t.columns.zip widths).zip row).zipIdx.map fun (((column, width), cell), index) =>
    let base : Style := if heading then { bold := true } else column.style
    let above : List Line := List.replicate gap [⟨blanks width, base⟩]
    (width, base, above ++ cellLines column base (t.padding index) width cell)

/-- The lines of a table on a page of some width. -/
def Table.lines (t : Table) (page : Nat) : List Line :=
  let widths := t.widths page
  let bar (c : Char) : Line := if t.framed then [⟨[c], t.border⟩] else []
  let body := t.rows.zipIdx.flatMap fun (row, index) =>
    rowLines false (bar '│') (bar '│') (bar '│')
      (t.layRow false (if index = 0 then 0 else t.rowGap) widths row)
  if t.framed then
    let headings := t.columns.map fun column => ({ text := column.heading } : Span)
    [rule t.border '┏' '━' '┳' '┓' widths] ++
      rowLines true (bar '┃') (bar '┃') (bar '┃') (t.layRow true 0 widths headings) ++
      [rule t.border '┡' '━' '╇' '┩' widths] ++ body ++
      [rule t.border '└' '─' '┴' '┘' widths]
  else body

/-- The width of a laid out table. -/
def Table.width (t : Table) (page : Nat) : Nat := total (t.widths page) + t.frameWidth

end EnvConcord.Report
