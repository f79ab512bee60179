import EnvConcord.Report.Audit
import EnvConcord.Schema.Issue

/-!
# Reports of a schema check

The findings of a schema check are reported as titled lists, as a document, or as
labelled lines.
-/

namespace EnvConcord.Report

open Document

/-- An issue in a document. -/
def issueValue (issue : Schema.Issue) : Value :=
  .object
    [ ("key", .text issue.key),
      ("value", .text issue.value),
      ("expected_type", .text issue.expectedType),
      ("actual_type", .text issue.actualType),
      ("issue", .text issue.issue),
      ("description", (issue.description.map Value.text).getD .null),
      ("is_sensitive", .bool issue.isSensitive) ]

/-- The members of a schema check's findings in a document. -/
def schemaMembers (r : Schema.Report) : List (String × Value) :=
  let issues (items : List Schema.Issue) : Value := .list (items.map issueValue)
  findingsMembers r.toFindings ++
    [ ("invalid_type", issues r.invalidType),
      ("invalid_format", issues r.invalidFormat),
      ("invalid_enum", issues r.invalidEnum),
      ("sensitive_defaults", issues r.sensitiveDefaults),
      ("schema_errors", issues r.schemaErrors) ]

/-- The minimal report of a schema check. -/
def schemaMinimal (r : Schema.Report) : String :=
  let keys (issues : List Schema.Issue) : List String := issues.map Schema.Issue.key
  minimalText (labelled
    [ ("missing", r.missing),
      ("invalid-type", keys r.invalidType),
      ("invalid-format", keys r.invalidFormat),
      ("invalid-enum", keys r.invalidEnum),
      ("sensitive-default", keys r.sensitiveDefaults),
      ("unused", r.unused) ])

/-- The lines about issues under a title. -/
def issueLines (title : String) (color : Color) (verbose : Bool) (issues : List Schema.Issue) :
    List Line :=
  if issues.isEmpty then []
  else
    textLines { bold := true, color := some color } title ++
      issues.flatMap fun issue =>
        textLines { color := some color } ("  ✗ " ++ issue.key ++ ": " ++ issue.issue) ++
          match issue.description with
          | some description =>
              if verbose && description != "" then
                textLines { dim := true } ("    " ++ description)
              else []
          | none => []

/-- The lines about keys under a title. -/
def keyLines (title mark : String) (color : Color) (keys : List String) : List Line :=
  if keys.isEmpty then []
  else
    textLines { bold := true, color := some color } title ++
      keys.flatMap fun key => textLines { color := some color } ("  " ++ mark ++ " " ++ key)

/-- The lines of a schema report. -/
def schemaLines (r : Schema.Report) (options : Options) : List Line :=
  let findings :=
    if !r.hasIssues then
      textLines { color := some .green } "✓ All environment variables are valid!"
    else
      textLines { color := some .yellow }
          ("Found " ++ toString r.summary.totalIssues ++ " issues:") ++
        keyLines "Missing required variables:" "✗" .red r.missing ++
        issueLines "Type validation errors:" .red options.verbose r.invalidType ++
        issueLines "Format validation errors:" .red options.verbose r.invalidFormat ++
        issueLines "Enum validation errors:" .red options.verbose r.invalidEnum ++
        issueLines "Security warnings:" .yellow options.verbose r.sensitiveDefaults ++
        keyLines "Unused variables (not in schema):" "?" .yellow r.unused
  textLines { bold := true } "Schema Validation Report" ++ findings ++
    (summaryGrid
      [ ("Variables in schema:", r.summary.keysInCode),
        ("Variables in env:", r.summary.keysInEnv),
        ("Total issues:", r.summary.totalIssues) ]).lines (pageWidth options.colors)

/-- The report of a schema check. -/
def schema (r : Schema.Report) (options : Options) : String :=
  if options.format == "json" then documentText (.object (schemaMembers r))
  else if options.format == "minimal" then schemaMinimal r
  else pageText options.colors (schemaLines r options)

end EnvConcord.Report
