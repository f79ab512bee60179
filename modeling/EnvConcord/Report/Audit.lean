import EnvConcord.Reconcile
import EnvConcord.Report.Options

/-!
# Reports of a comparison

The findings of a comparison are reported as a table by category, as a document,
or as labelled lines.  A detailed report adds the places of missing keys and the
lines of unused ones.
-/

namespace EnvConcord.Report

open Document

/-- The members of findings in a document. -/
def findingsMembers (f : Findings) : List (String × Value) :=
  let texts (items : List String) : Value := .list (items.map .text)
  [ ("missing", texts f.missing),
    ("unused", texts f.unused),
    ("empty", texts f.empty),
    ("duplicates", texts f.duplicates),
    ("uncertain", texts f.uncertain),
    ("summary", .object
      [ ("keys_in_code", .int f.summary.keysInCode),
        ("keys_in_env", .int f.summary.keysInEnv),
        ("total_issues", .int f.summary.totalIssues) ]) ]

/-- The categories of a table report with their colours. -/
def categories (f : Findings) : List (String × List String × Color) :=
  [ ("Missing", f.missing, .red),
    ("Unused", f.unused, .yellow),
    ("Empty", f.empty, .yellow),
    ("Duplicates", f.duplicates, .yellow),
    ("Uncertain", f.uncertain, .blue) ]

/-- The table of the categories that hold keys. -/
def categoryTable (populated : List (String × List String × Color)) : Table where
  columns :=
    [ { heading := "Category".toList, style := { bold := true }, breakable := false },
      { heading := "Count".toList, justify := .right },
      { heading := "Keys".toList } ]
  border := { color := some .blue }
  rows := populated.map fun (label, keys, color) =>
    [ ⟨label.toList, { color := some color }⟩,
      ⟨(toString keys.length).toList, {}⟩,
      ⟨clean (String.intercalate "\n" keys).toList, {}⟩ ]

/-- The lines of a table report. -/
def auditLines (f : Findings) (colors : Bool) : List Line :=
  let width := pageWidth colors
  let populated := (categories f).filter fun category => !category.2.1.isEmpty
  textLines { bold := true } "Environment Check Report" ++
    (if populated.isEmpty then [] else (categoryTable populated).lines width) ++
    (summaryGrid
      [ ("Keys in code:", f.summary.keysInCode),
        ("Keys in env:", f.summary.keysInEnv),
        ("Total issues:", f.summary.totalIssues) ]).lines width ++
    (if f.hasIssues then []
    else textLines { color := some .green } "✓ All environment variables are in sync")

/-- The labels of a minimal report with their keys. -/
def minimalLabels (f : Findings) : List (String × List String) :=
  [ ("missing", f.missing),
    ("unused", f.unused),
    ("empty", f.empty),
    ("duplicate", f.duplicates),
    ("uncertain", f.uncertain) ]

/-- Lines that name a label and a key. -/
def labelled (labels : List (String × List String)) : List String :=
  labels.flatMap fun (label, keys) => keys.map fun key => label ++ ": " ++ key

/-- The minimal report of a comparison. -/
def auditMinimal (f : Findings) : String := minimalText (labelled (minimalLabels f))

/-- The report of a comparison. -/
def audit (f : Findings) (options : Options) : String :=
  if options.format == "json" then documentText (.object (findingsMembers f))
  else if options.format == "minimal" then auditMinimal f
  else pageText options.colors (auditLines f options.colors)

/-- The lines about missing keys. -/
def missingLines (details : Dict String CodeKey) : List Line :=
  if details.keys.isEmpty then []
  else
    textLines { bold := true, color := some .red } "\nMissing keys:" ++
      (Text.sort details.keys).flatMap fun name =>
        textLines { color := some .red } ("  " ++ name) ++
          ((details.get? name).map CodeKey.usages |>.getD []).flatMap fun usage =>
            textLines { dim := true }
              ("    " ++ usage.file ++ ":" ++ toString usage.line ++ ":" ++ toString usage.column ++
                "  " ++ usage.rawText)

/-- The lines about unused keys. -/
def unusedLines (details : EntryMap) : List Line :=
  if details.keys.isEmpty then []
  else
    textLines { bold := true, color := some .yellow } "\nUnused keys:" ++
      (Text.sort details.keys).flatMap fun name =>
        let line := ((details.get? name).map Entry.line).getD 0
        textLines { color := some .yellow } ("  " ++ name ++ " (line " ++ toString line ++ ")")

/-- The table report of a comparison with the places of its keys. -/
def auditDetailed (f : Findings) (missing : Dict String CodeKey) (unused : EntryMap)
    (colors : Bool) : String :=
  pageText colors (auditLines f colors ++ missingLines missing ++ unusedLines unused)

end EnvConcord.Report
