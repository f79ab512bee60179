import EnvConcord.Access.Example
import EnvConcord.Access.Files
import EnvConcord.EnvFile.Load
import EnvConcord.Glob.Resolve
import EnvConcord.Report.Audit
import EnvConcord.Schema.Validate

/-!
# Auditing a directory

An audit scans the source files that the settings name, reads their env files and
compares both.  Everything is computed anew from the tree each time.
-/

namespace EnvConcord.Audit

/-- What an audit found on its way and in the end. -/
structure Run where
  scan : Access.ScanOutcome
  envFiles : List EnvFile
  entries : EntryMap
  findings : Findings

/-- The env files, seen from the directory. -/
def envPaths (directory : Path) (s : Settings) : List Path :=
  s.envFiles.map fun text => directory.append (Path.parse text)

/-- The env files in their usual spelling. -/
def envFiles (directory : Path) (s : Settings) : List SpelledPath :=
  (envPaths directory s).map SpelledPath.ofPath

/-- The source files. -/
def sourceFiles (t : Tree) (directory : Path) (ignore patterns : List String) : List Path :=
  Glob.resolve t directory (Glob.Ignore.rulesOf ignore) patterns

/-- Scan the files of patterns. -/
def scanPatterns (t : Tree) (directory : Path) (ignore patterns : List String) :
    Logged Access.ScanOutcome :=
  Access.scanFiles t .standard ((sourceFiles t directory ignore patterns).map SpelledPath.ofPath)

/-- Scan the source files. -/
def scan (t : Tree) (directory : Path) (s : Settings) : Logged Access.ScanOutcome :=
  scanPatterns t directory s.ignorePatterns s.paths

/-- Compare source files and env files. -/
def check (t : Tree) (directory : Path) (s : Settings) : Logged Findings := do
  let scanned ← scan t directory s
  let entries ← EnvFile.loadMerged t (envFiles directory s)
  return reconcile scanned.keys entries s

/-- Compare source files and env files, and keep what was read. -/
def run (t : Tree) (directory : Path) (s : Settings) : Logged Run := do
  let scanned ← scan t directory s
  let files ← EnvFile.loadAll t (envFiles directory s)
  let entries := EnvFile.merge files
  return { scan := scanned, envFiles := files, entries,
           findings := reconcile scanned.keys entries s }

/-- The report of an audit; only a table can be detailed. -/
def Run.report (r : Run) (options : Report.Options) (detailed : Bool) : String :=
  if !detailed || options.format != "table" then Report.audit r.findings options
  else
    Report.auditDetailed r.findings (Reconcile.missingDetails r.scan.keys r.findings.missing)
      (Reconcile.unusedDetails r.entries r.findings.unused) options.colors

/-- The options of a report that settings imply. -/
def optionsOf (s : Settings) : Report.Options := { format := s.reportFormat }

/-- The example file of the keys that source files read. -/
def exampleText (t : Tree) (directory : Path) (s : Settings) : Logged String := do
  return Access.exampleText (← scan t directory s).keys s.includeOptional

/-- Why an env file cannot be checked against a schema. -/
inductive SchemaFault
  /-- No env file is given, and the settings name none. -/
  | noEnvFile
  | tooManyDigits (cause : TooManyDigits)
  deriving DecidableEq, Repr

/-- The text of a fault. -/
def SchemaFault.message : SchemaFault → String
  | .noEnvFile => "list index out of range"
  | .tooManyDigits cause => cause.message

/-- Check an env file against a schema: the one that is given, or the first one of the
settings. -/
def checkSchema (t : Tree) (directory : Path) (s : Settings) (schema : Schema)
    (given : Option Path) : Attempt SchemaFault Schema.Report := do
  let path ←
    match given with
    | some p => pure (directory.append p)
    | none =>
        match envPaths directory s with
        | [] => throw SchemaFault.noEnvFile
        | first :: _ => pure first
  let file ← ExceptT.lift (EnvFile.load t (.ofPath path))
  let entries := Dict.ofList (file.values.map fun (key, value) => (key, some value))
  Attempt.ofExcept ((Schema.validate schema entries).mapError .tooManyDigits)

end EnvConcord.Audit
