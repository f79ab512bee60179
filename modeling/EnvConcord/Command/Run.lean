import EnvConcord.Audit
import EnvConcord.Command.Basic
import EnvConcord.Command.Shell
import EnvConcord.EnvFile.Clean
import EnvConcord.Report.Diff
import EnvConcord.Report.Schema
import EnvConcord.Schema.Example
import EnvConcord.Schema.Source
import EnvConcord.Schema.Starter
import EnvConcord.Settings.Logging
import EnvConcord.Settings.Source

/-!
# Running commands

The commands that check or compare only print.  Those that write change one output file,
or the env files that are cleaned.  A check tells by its exit code what it found: one for
missing keys, two for other findings.
-/

namespace EnvConcord.Command

open Printing

/-- What a command works on: a tree, and the variables of its own surroundings. -/
structure Surroundings where
  tree : Tree
  environment : String → Option String := fun _ => none

/-! ## Settings -/

/-- Load settings and make sure that messages can be logged by them. -/
def loadSettings (s : Surroundings) (given : Option Path) (verbose : Bool) : Printing Settings := do
  let settings ← attempt Settings.LoadFault.message
    (Settings.load s.tree given s.tree.home (some s.environment))
  orFail LogSettings.Fault.message (settings.logging.check verbose)
  return settings

/-- Settings with other env files, if any are given. -/
def withEnvFiles (settings : Settings) (envFiles : List String) : Settings :=
  if envFiles.isEmpty then settings else { settings with envFiles }

/-- Load a schema, which has to have fields. -/
def loadSchema (s : Surroundings) (given : Option Path) : Printing Schema := do
  let schema ← orFail Schema.LoadFault.message (Schema.load s.tree given s.tree.home)
  if schema.keys.isEmpty then
    say ("[bold red]Error:[/bold red] No schema found. " ++
      "Create a .envschema.json file or specify --schema path")
    throw (.exit 1)
  return schema

/-! ## Commands that only print -/

/-- Print the diagnostics of an env file. -/
def printDiagnostics (file : EnvFile) : Printing Unit := do
  if file.diagnostics.isEmpty then return
  say ("[yellow]Warnings in " ++ file.path ++ ":[/yellow]")
  for diagnostic in file.diagnostics do
    sayPlain ("  Line " ++ toString diagnostic.line ++ ": " ++ diagnostic.message)

/-- The exit code of a check. -/
def checkCode (settings : Settings) (findings : Findings) : Nat :=
  if !settings.exitOnError || findings.summary.totalIssues ≤ 0 then 0
  else if findings.missing.isEmpty then 2
  else 1

/-- Check env files against source files. -/
def runCheck (s : Surroundings) (o : CheckOptions) : Printing Unit := do
  let settings := withEnvFiles (← loadSettings s o.config o.verbose) o.envFiles
  let run ← monadLift (Audit.run s.tree s.tree.home settings)
  if !o.json then
    for file in run.envFiles do
      printDiagnostics file
  let format := if o.json then "json" else settings.reportFormat
  echo (run.report { format, colors := o.colors, verbose := o.verbose } o.verbose)
  throw (.exit (checkCode settings run.findings))

/-- Check an env file against a schema. -/
def runValidate (s : Surroundings) (o : ValidateOptions) : Printing Unit := do
  let settings ← loadSettings s none o.verbose
  let schema ← loadSchema s o.schema
  let result ← attempt Audit.SchemaFault.message
    (Audit.checkSchema s.tree s.tree.home settings schema o.envFile)
  let format := if o.json then "json" else "table"
  echo (Report.schema result { format, colors := o.colors, verbose := o.verbose })
  throw (.exit (if result.hasIssues then 1 else 0))

/-- Compare two env files. -/
def runDiff (s : Surroundings) (o : DiffOptions) : Printing Unit := do
  let firstName := o.first.render
  let secondName := o.second.render
  let first ← monadLift (EnvFile.load s.tree (.ofPath o.first))
  let second ← monadLift (EnvFile.load s.tree (.ofPath o.second))
  let d := EntryDiff.between first.entries second.entries
  if o.json then
    echo (Report.diffDocument firstName secondName d)
  else
    printDiagnostics first
    printDiagnostics second
    if d.size = 0 then
      say "[green]✓[/green] Files have identical keys and values"
    else
      let rows := Report.diffRows first.entries second.entries d
      putLines (← orFail Report.Markup.Fault.message
        (Report.diffLines width firstName secondName rows))
    putLines (Report.diffSummary width d)

/-! ## Commands that write -/

/-- Write a new file; a file that is already there is replaced only by force. -/
def writeNew (p : Path) (text : String) (force : Bool) : Shell Unit := do
  if (← Shell.tree).exists? p && !force then
    say ("[yellow]File " ++ p.render ++ " already exists. Use --force to overwrite.[/yellow]")
    throw (.exit 1)
  Shell.write p text

/-- Make an example file from a schema. -/
def runGenerate (s : Surroundings) (o : GenerateOptions) : Shell Unit := do
  let schema ← loadSchema s o.schema
  let text ← orFail (fun fault => fault.message) (Schema.exampleText schema)
  writeNew o.output text o.force
  say ("[bold green]Generated " ++ o.output.render ++ " from schema[/bold green]")
  say ("[dim]   " ++ toString schema.keys.length ++ " environment variables defined[/dim]")

/-- Write a starter schema. -/
def runInit (o : InitOptions) : Shell Unit := do
  match Schema.Starter.ofName? o.template with
  | none =>
      say ("[bold red]Error:[/bold red] Unknown template '" ++ o.template ++ "'. " ++
        "Choose from: " ++ String.intercalate ", " Schema.Starter.names)
      throw (.exit 1)
  | some document =>
      let shown := o.output.render
      writeNew o.output (Report.documentText document ++ "\n") o.force
      say ("[bold green]Created " ++ shown ++ "[/bold green] (" ++ o.template ++ " template)")
      say "\nNext steps:"
      say ("  1. Edit " ++ shown ++ " to describe your environment variables")
      say "  2. Run [bold]envguard validate[/bold] to check your .env file"
      say "  3. Run [bold]envguard generate[/bold] to create .env.example"

/-- Make an example file from source files. -/
def runExport (s : Surroundings) (o : ExportOptions) : Shell Unit := do
  let settings ← loadSettings s o.config false
  let settings := if o.includeOptional then { settings with includeOptional := true } else settings
  let text ← monadLift (Audit.exampleText s.tree s.tree.home settings)
  Shell.write o.output text
  say ("[bold green]Generated " ++ o.output.render ++ "[/bold green]")
  say "[dim]Copy this file to .env and fill in the values[/dim]"

/-- Print what would be removed from each file. -/
def printPreview (cleanings : List EnvFile.Cleaning) : Printing Unit := do
  for cleaning in cleanings do
    if !cleaning.removed.isEmpty then
      say ("[dim]Would remove from " ++ cleaning.path ++ ": " ++
        String.intercalate ", " cleaning.removed ++ "[/dim]")
  say "\n[cyan]Dry run mode - no files will be modified.[/cyan]"

/-- Print what was done with each file. -/
def printCleanings (cleanings : List EnvFile.Cleaning) : Printing Unit := do
  for cleaning in cleanings do
    if cleaning.skipped then
      say ("[yellow]Skipping " ++ cleaning.path ++ " (file not found)[/yellow]")
    else if cleaning.isModified then
      say ("[green]✓[/green] Cleaned " ++ cleaning.path)
  say "\n[bold green]Cleanup completed![/bold green]"

/-- Print the unused keys. -/
def printUnused (unused : List String) : Printing Unit := do
  say ("Found " ++ toString unused.length ++ " unused keys:")
  for key in unused do
    say ("  - " ++ key)

/-- Remove unused keys from env files. Nothing is removed without force. -/
def runClean (s : Surroundings) (o : CleanOptions) : Shell Unit := do
  let settings := withEnvFiles (← loadSettings s o.config false) o.envFiles
  let findings ← monadLift (Audit.check s.tree s.tree.home settings)
  if findings.unused.isEmpty then
    say "[green]✓[/green] No unused keys found in environment files."
  else
    printUnused findings.unused
    let files := Audit.envFiles s.tree.home settings
    if o.dryRun then
      let (cleanings, _) ← monadLift (EnvFile.clean s.tree files findings.unused true)
      printPreview cleanings
    else if !o.force then
      say "\n[yellow]Use --force to actually remove these keys.[/yellow]"
      say "[dim]Use --dry-run to preview changes without modifying files.[/dim]"
    else
      let (cleanings, t) ← monadLift (EnvFile.clean s.tree files findings.unused false)
      Shell.setTree t
      printCleanings cleanings

/-! ## All commands -/

/-- What a command does. -/
def body (s : Surroundings) : Command → Shell Unit
  | .check o => Shell.ofPrinting (runCheck s o)
  | .validate o => Shell.ofPrinting (runValidate s o)
  | .generate o => runGenerate s o
  | .init o => runInit o
  | .exportKeys o => runExport s o
  | .clean o => runClean s o
  | .diff o => Shell.ofPrinting (runDiff s o)

/-- The exit code of a command that fails. -/
def failureCode : Command → Nat
  | .check _ | .exportKeys _ | .clean _ | .diff _ => 2
  | .validate _ | .generate _ | .init _ => 1

/-- How a command ended. -/
inductive Ending
  | exit (code : Nat)
  /-- A failure could not be reported. -/
  | crash (cause : Report.Markup.Fault)
  deriving DecidableEq, Repr

/-- How a command ended, what it printed, and the tree it left. -/
structure Outcome where
  ending : Ending
  printed : String := ""
  tree : Tree

/-- How a command ended. A failure that nobody reported counts as misuse. -/
def Ending.ofResult : Except Stop Unit → Ending
  | .ok () => .exit 0
  | .error (.exit code) => .exit code
  | .error (.failure _) => .exit 2
  | .error (.crash cause) => .crash cause

/-- Run a command. -/
def run (s : Surroundings) (c : Command) : Logged Outcome := do
  let (result, session) ← (Shell.reporting c.failureCode (c.body s)).run.run { tree := s.tree }
  return { ending := .ofResult result, printed := session.printed, tree := session.tree }

/-- How commands are used. -/
def usage : Option String → String
  | none => "usage: envguard COMMAND [OPTION]...\ncommands: " ++
      String.intercalate ", " (forms.map Prod.fst) ++ "\n"
  | some name =>
      let options := ((forms.lookup name).map Form.specs).getD []
      "usage: envguard " ++ name ++ " [OPTION]...\noptions: " ++
        String.intercalate ", " (options.flatMap OptionSpec.long) ++ "\n"

/-- Do what a command line asks for. Misuse ends with code two. -/
def answer (s : Surroundings) (words : List String) : Logged Outcome :=
  match ofWords words with
  | .run command => run s command
  | .help name => pure { ending := .exit 0, printed := usage name, tree := s.tree }
  | .misuse => pure { ending := .exit 2, tree := s.tree }

end EnvConcord.Command
