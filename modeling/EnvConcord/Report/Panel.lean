import EnvConcord.Report.Table

/-!
# Titles and panels

A title stands in the middle above a table.  A panel is a frame with round corners
around lines of one width, with its title in the upper edge.
-/

namespace EnvConcord.Report

/-- The lines of a title above a table of some width. -/
def titleLines (width : Nat) (title : List Char) : List Line :=
  (wrap width .fold .center true title).map fun line => [⟨line, {}⟩]

/-- The upper edge of a panel whose lines have some width. -/
def panelTop (width : Nat) (title : List Char) : List Char :=
  let shown := ' ' :: title ++ [' ']
  let room := width - Text.cells shown
  let edge (count : Nat) : List Char := List.replicate count '─'
  ['╭', '─'] ++ edge (room / 2) ++ shown ++ edge (room - room / 2) ++ ['─', '╮']

/-- Lines of some width in a panel that is at least as wide as its title. -/
def panelLines (title : List Char) (width : Nat) (lines : List Line) : List Line :=
  let inner := max width (Text.cells title + 2)
  [[⟨panelTop inner title, {}⟩]] ++
    (lines.map fun line =>
      [⟨['│', ' '], {}⟩] ++ line ++ [⟨blanks (inner - width) ++ [' ', '│'], {}⟩]) ++
    [[⟨'╰' :: List.replicate (inner + 2) '─' ++ ['╯'], {}⟩]]

end EnvConcord.Report
