import EnvConcord.Document.Json.Writer
import EnvConcord.Report.Table

/-!
# Report options and pages

A page is a list of lines; its width depends on whether it is coloured.
-/

namespace EnvConcord.Report

/-- How a report is written. A format that is neither `json` nor `minimal` means a
table. -/
structure Options where
  format : String := "table"
  colors : Bool := true
  /-- Whether descriptions are shown. -/
  verbose : Bool := false
  deriving DecidableEq, Repr, Inhabited

/-- The width of a page: a coloured page is laid out for a plain terminal. -/
def pageWidth (colors : Bool) : Nat := if colors then 80 else 100

/-- The lines of a text in one style; they are never broken. -/
def textLines (style : Style) (s : String) : List Line :=
  (Text.lines (clean s.toList)).map fun line =>
    if line.isEmpty then []
    else [⟨if line.contains '\t' then expandTabs line else line, style⟩]

/-- A grid of labels and counts. -/
def summaryGrid (rows : List (String × Int)) : Table where
  columns := [{ style := { bold := true } }, {}]
  framed := false
  rows := rows.map fun (label, count) => [⟨label.toList, {}⟩, ⟨(toString count).toList, {}⟩]

/-- The text of a page, without line breaks at its end. -/
def pageText (colors : Bool) (lines : List Line) : String :=
  String.ofList ((renderLines colors lines).reverse.dropWhile (· == '\n')).reverse

/-- Lines of a minimal report, or its single word where there are none. -/
def minimalText (lines : List String) : String :=
  if lines.isEmpty then "OK" else String.intercalate "\n" lines

/-- A document over several lines. -/
def documentText (value : Document.Value) : String :=
  Document.Json.write Document.Json.indented value

end EnvConcord.Report
