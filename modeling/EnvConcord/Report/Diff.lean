import EnvConcord.EnvFile.Diff
import EnvConcord.Report.Markup
import EnvConcord.Report.Options
import EnvConcord.Report.Panel

/-!
# Reports of two env files side by side

The keys on which two files disagree make a table with a column for each file; the
numbers of keys in each class stand in a panel below.
-/

namespace EnvConcord.Report

open Document

/-- The classes of keys in a document. -/
def diffMembers (d : EntryDiff) : List (String × Value) :=
  let texts (items : List String) : Value := .list (items.map .text)
  [ ("only_in_first", texts d.onlyFirst),
    ("only_in_second", texts d.onlySecond),
    ("different", .list (d.different.map fun x => .object
      [("key", .text x.key), ("value1", .text x.first), ("value2", .text x.second)])),
    ("common", texts d.common) ]

/-- Two files and their difference as a document. -/
def diffDocument (first second : String) (d : EntryDiff) : String :=
  documentText (.object ([("file1", .text first), ("file2", .text second)] ++ diffMembers d))

/-- The value that a map sets, as a message that shows it. -/
def shownValue (entries : EntryMap) (key : String) : List Char :=
  match entries.get? key with
  | some entry => Markup.escape entry.value.toList
  | none => []

/-- The rows of the table: a key, how it differs, and both values. -/
def diffRows (first second : EntryMap) (d : EntryDiff) : List (List (List Char)) :=
  let row (key status : String) (a b : List Char) := [key.toList, status.toList, a, b]
  (d.onlyFirst.map fun key =>
      row key "[red]only in first[/red]" (shownValue first key) []) ++
    (d.onlySecond.map fun key =>
      row key "[green]only in second[/green]" [] (shownValue second key)) ++
    (d.different.map fun x =>
      row x.key "[yellow]different[/yellow]" (Markup.escape x.first.toList)
        (Markup.escape x.second.toList))

/-- The table of the keys on which two files disagree. -/
def diffTable (first second : String) (rows : List (List (List Char))) :
    Except Markup.Fault Table := do
  let headings ← ["Key".toList, "Status".toList, first.toList, second.toList].mapM Markup.plain
  let rows ← rows.mapM fun row => row.mapM Markup.plain
  return { columns := headings.map fun heading => { heading }
           rows := rows.map fun row => row.map fun text => { text } }

/-- The lines of the table with the names of the files above it. -/
def diffLines (page : Nat) (first second : String) (rows : List (List (List Char))) :
    Except Markup.Fault (List Line) := do
  let title ← Markup.plain (first ++ " vs " ++ second).toList
  let table ← diffTable first second rows
  return titleLines (table.width page) title ++ table.lines page

/-- The numbers of keys in each class. -/
def diffCounts (d : EntryDiff) : Table :=
  { summaryGrid
      [ ("Only in first:", d.onlyFirst.length),
        ("Only in second:", d.onlySecond.length),
        ("Different values:", d.different.length),
        ("Identical:", d.common.length) ] with rowGap := 1 }

/-- The lines of the panel with the numbers of keys. -/
def diffSummary (page : Nat) (d : EntryDiff) : List Line :=
  let counts := diffCounts d
  panelLines "Summary".toList (counts.width page) (counts.lines page)

end EnvConcord.Report
