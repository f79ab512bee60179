import EnvConcord.Command.Arguments
import EnvConcord.Tree.Path

/-!
# Commands

Each command compares, checks or writes files of a working directory, as its options say.
A command line asks for one of them, or it is misused.
-/

namespace EnvConcord

/-- How a check of env files against source files is done and reported. -/
structure Command.CheckOptions where
  config : Option Path := none
  /-- Env files in place of those of the settings. -/
  envFiles : List String := []
  json : Bool := false
  verbose : Bool := false
  colors : Bool := true
  deriving DecidableEq, Repr

/-- How a check of an env file against a schema is done and reported. -/
structure Command.ValidateOptions where
  schema : Option Path := none
  envFile : Option Path := none
  json : Bool := false
  verbose : Bool := false
  colors : Bool := true
  deriving DecidableEq, Repr

/-- How an example file is made from a schema. -/
structure Command.GenerateOptions where
  schema : Option Path := none
  output : Path
  force : Bool := false
  deriving DecidableEq, Repr

/-- How a starter schema is written. -/
structure Command.InitOptions where
  output : Path
  template : String := "basic"
  force : Bool := false
  deriving DecidableEq, Repr

/-- How an example file is made from source files. -/
structure Command.ExportOptions where
  config : Option Path := none
  output : Path
  includeOptional : Bool := false
  deriving DecidableEq, Repr

/-- How unused keys are removed. -/
structure Command.CleanOptions where
  config : Option Path := none
  /-- Env files in place of those of the settings. -/
  envFiles : List String := []
  dryRun : Bool := false
  force : Bool := false
  deriving DecidableEq, Repr

/-- How two env files are compared. -/
structure Command.DiffOptions where
  first : Path
  second : Path
  json : Bool := false
  deriving DecidableEq, Repr

/-- The commands. -/
inductive Command
  | check (options : Command.CheckOptions)
  | validate (options : Command.ValidateOptions)
  | generate (options : Command.GenerateOptions)
  | init (options : Command.InitOptions)
  | exportKeys (options : Command.ExportOptions)
  | clean (options : Command.CleanOptions)
  | diff (options : Command.DiffOptions)
  deriving DecidableEq, Repr

namespace Command

/-! ## Options -/

/-- The option that every command has. -/
def helpSpec : OptionSpec := { id := "help", long := ["--help"] }

/-- An option without a value. -/
def flag (id : String) (long : String) (letters : List Char) : OptionSpec :=
  { id, long := [long], letters }

/-- An option with a value. -/
def setting (id : String) (long : String) (letters : List Char) : OptionSpec :=
  { id, long := [long], letters, takesValue := true }

/-- The options about colours, of which the last one counts. -/
def colorSpecs : List OptionSpec := [flag "colors" "--colors" [], flag "plain" "--no-colors" []]

/-- A path that an option gives. -/
def pathOf? (a : Arguments) (id : String) : Option Path := (a.value? id).map Path.parse

/-- A path that an option gives, or else the one of a usual name. -/
def pathOr (a : Arguments) (id usual : String) : Path := (pathOf? a id).getD (Path.parse usual)

/-- How a command is read: its options, and its options and operands put together. -/
structure Form where
  specs : List OptionSpec
  read : Arguments → Option Command

/-- Read a command without operands. -/
def alone (read : Arguments → Command) (a : Arguments) : Option Command :=
  if a.operands.isEmpty then some (read a) else none

/-- The form of `check`. -/
def checkForm : Form where
  specs :=
    [ setting "config" "--config" ['c'], setting "env" "--env" ['e'], flag "json" "--json" [],
      flag "verbose" "--verbose" ['v'] ] ++ colorSpecs
  read := alone fun a => .check
    { config := pathOf? a "config"
      envFiles := a.values "env"
      json := a.has "json"
      verbose := a.has "verbose"
      colors := a.lastOf "colors" "plain" true }

/-- The form of `validate`. -/
def validateForm : Form where
  specs :=
    [ setting "schema" "--schema" ['s'], setting "env" "--env" ['e'], flag "json" "--json" [],
      flag "verbose" "--verbose" ['v'] ] ++ colorSpecs
  read := alone fun a => .validate
    { schema := pathOf? a "schema"
      envFile := pathOf? a "env"
      json := a.has "json"
      verbose := a.has "verbose"
      colors := a.lastOf "colors" "plain" true }

/-- The form of `generate`. -/
def generateForm : Form where
  specs :=
    [ setting "schema" "--schema" ['s'], setting "output" "--output" ['o'],
      flag "force" "--force" ['f'] ]
  read := alone fun a => .generate
    { schema := pathOf? a "schema"
      output := pathOr a "output" ".env.example"
      force := a.has "force" }

/-- The form of `init`. -/
def initForm : Form where
  specs :=
    [ setting "output" "--output" ['o'], setting "template" "--template" ['t'],
      flag "force" "--force" ['f'] ]
  read := alone fun a => .init
    { output := pathOr a "output" ".envschema.json"
      template := (a.value? "template").getD "basic"
      force := a.has "force" }

/-- The form of `export`. -/
def exportForm : Form where
  specs :=
    [ setting "config" "--config" ['c'], setting "output" "--output" ['o'],
      flag "optional" "--include-optional" [] ]
  read := alone fun a => .exportKeys
    { config := pathOf? a "config"
      output := pathOr a "output" ".env.example"
      includeOptional := a.has "optional" }

/-- The form of `clean`. -/
def cleanForm : Form where
  specs :=
    [ setting "config" "--config" ['c'], setting "env" "--env" ['e'],
      flag "dry" "--dry-run" [], flag "force" "--force" ['f'] ]
  read := alone fun a => .clean
    { config := pathOf? a "config"
      envFiles := a.values "env"
      dryRun := a.has "dry"
      force := a.has "force" }

/-- The form of `diff`, which has two operands. -/
def diffForm : Form where
  specs := [flag "json" "--json" []]
  read a :=
    match a.operands with
    | [first, second] =>
        some (.diff
          { first := Path.parse first, second := Path.parse second, json := a.has "json" })
    | _ => none

/-- The commands by name. -/
def forms : List (String × Form) :=
  [ ("check", checkForm), ("validate", validateForm), ("generate", generateForm),
    ("init", initForm), ("export", exportForm), ("clean", cleanForm), ("diff", diffForm) ]

/-! ## Command lines -/

/-- What a command line asks for. -/
inductive Request
  | run (command : Command)
  /-- How the command of a name is used, or else which commands there are. -/
  | help (command : Option String)
  | misuse
  deriving DecidableEq, Repr

/-- Read the words behind the name of a command. -/
def readForm (name : String) (form : Form) (words : List String) : Request :=
  match Arguments.read? (helpSpec :: form.specs) true words with
  | none => .misuse
  | some a =>
      if a.has helpSpec.id then .help (some name)
      else
        match form.read a with
        | some command => .run command
        | none => .misuse

/-- Read a command line. -/
def ofWords (words : List String) : Request :=
  match Arguments.read? [helpSpec] false words with
  | none => .misuse
  | some a =>
      if a.has helpSpec.id then .help none
      else
        match a.operands with
        | [] => .misuse
        | name :: rest =>
            match forms.lookup name with
            | some form => readForm name form rest
            | none => .misuse

end Command

end EnvConcord
