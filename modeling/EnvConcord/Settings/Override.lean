import EnvConcord.Collection.Dict
import EnvConcord.Document.Plain
import EnvConcord.Settings.Basic
import EnvConcord.Text.LowerCase

/-!
# Overriding settings

An override gives some of the settings.  It is read from a mapping whose values
must have the shapes that their settings expect; null counts as not given.  Two
lists accumulate over the layers, the logging members are replaced one by one,
and every other setting is replaced as a whole.
-/

namespace EnvConcord.Settings

open Document

/-- The settings by name. -/
inductive Field
  | paths
  | envFiles
  | allowOptional
  | ignoreKeys
  | ignorePatterns
  | reportFormat
  | exitOnError
  | includeOptional
  | logging
  deriving DecidableEq, Repr

/-- The name of a setting. -/
def Field.name : Field → String
  | .paths => "paths"
  | .envFiles => "env_files"
  | .allowOptional => "allow_optional"
  | .ignoreKeys => "ignore_keys"
  | .ignorePatterns => "ignore_patterns"
  | .reportFormat => "report_format"
  | .exitOnError => "exit_on_error"
  | .includeOptional => "include_optional"
  | .logging => "logging"

/-- All settings, in the order in which they are written. -/
def Field.all : List Field :=
  [.paths, .envFiles, .allowOptional, .ignoreKeys, .ignorePatterns, .reportFormat,
    .exitOnError, .includeOptional, .logging]

/-- The setting of a name. -/
def Field.ofName? (name : String) : Option Field := Field.all.find? fun f => f.name == name

/-- The second spelling of a setting's name, if it has one. -/
def Field.alias? : Field → Option String
  | .envFiles => some "envFiles"
  | .allowOptional => some "allowOptional"
  | .ignoreKeys => some "ignoreKeys"
  | .ignorePatterns => some "ignorePatterns"
  | .reportFormat => some "reportFormat"
  | .exitOnError => some "exitOnError"
  | .includeOptional => some "includeOptional"
  | .paths => none
  | .logging => none

/-- The setting of a name in either spelling. -/
def Field.ofSpelling? (name : String) : Option Field :=
  Field.all.find? fun f => f.name == name || f.alias? == some name

/-- Why settings cannot be taken from a source. -/
inductive Fault
  /-- A value does not have the shape that its setting expects. -/
  | shape (field : Field) (source expectation : String)
  | unknownLogging (source : String) (keys : List String)
  /-- Keys of different kinds that cannot be listed in order. -/
  | unordered (first second : String)
  /-- A key that cannot be shown. -/
  | tooManyDigits (cause : TooManyDigits)
  /-- A name that is no setting, where unknown names are not skipped. -/
  | unknownField (name : String)
  | missingFile (path : String)
  | unsupportedSuffix (suffix : String)
  | unparsable (path reason : String)
  | notMapping (path : String)
  deriving DecidableEq, Repr

/-- The names of the kinds of values that count days. -/
def dayKinds : List String := ["datetime.datetime", "datetime.date"]

/-- Why values of two kinds cannot be listed in order. -/
def unorderedMessage (first second : String) : String :=
  if dayKinds.contains first && dayKinds.contains second then
    if first == second then "can't compare offset-naive and offset-aware datetimes"
    else "can't compare " ++ String.intercalate " to " dayKinds
  else "'<' not supported between instances of '" ++ first ++ "' and '" ++ second ++ "'"

/-- The text of a fault. -/
def Fault.message : Fault → String
  | .shape field source expectation =>
      "Invalid value for '" ++ field.name ++ "' in " ++ source ++ ": expected " ++ expectation
  | .unknownLogging source keys =>
      "Unknown logging keys in " ++ source ++ ": " ++ String.intercalate ", " keys
  | .unordered first second => unorderedMessage first second
  | .tooManyDigits cause => cause.message
  | .unknownField name =>
      if name == "self" then
        "EnvGuardConfig.__init__() got multiple values for argument 'self'"
      else "EnvGuardConfig.__init__() got an unexpected keyword argument '" ++ name ++ "'"
  | .missingFile path => "Configuration file not found: " ++ path
  | .unsupportedSuffix suffix => "Unsupported config file format: " ++ suffix
  | .unparsable path reason => "Failed to parse config file " ++ path ++ ": " ++ reason
  | .notMapping path => "Invalid config format in " ++ path ++ ": expected a mapping"

/-- The logging members that an override gives; a member may be given as null. -/
structure LogOverride where
  level : Option Value := none
  format : Option Value := none
  deriving Repr, Inhabited

/-- A layer of settings. -/
structure Override where
  paths : Option (List String) := none
  envFiles : Option (List String) := none
  allowOptional : Option (List String) := none
  ignoreKeys : Option (List String) := none
  ignorePatterns : Option (List String) := none
  reportFormat : Option String := none
  exitOnError : Option Bool := none
  includeOptional : Option Bool := none
  logging : Option LogOverride := none
  deriving Repr, Inhabited

/-! ## Reading a layer -/

/-- The texts of a list of texts. -/
def textItems? : Value → Option (List String)
  | .list items => items.mapM fun item =>
      match item with
      | .text s => some s
      | _ => none
  | _ => none

/-- The list that a setting expects. -/
def readTexts (field : Field) (source : String) (value : Value) : Except Fault (List String) :=
  match textItems? value with
  | some items => .ok items
  | none => .error (.shape field source "a list of strings")

/-- The flag that a setting expects. -/
def readFlag (field : Field) (source : String) : Value → Except Fault Bool
  | .bool b => .ok b
  | _ => .error (.shape field source "a boolean")

/-- Insert a key into a list of keys in order, if all of them can be compared. -/
def insertSorted (key : Value) : List Value → Except Fault (List Value)
  | [] => .ok [key]
  | other :: rest =>
      match key.less? other with
      | none => .error (.unordered key.fullKindName other.fullKindName)
      | some true => .ok (key :: other :: rest)
      | some false => (insertSorted key rest).map (other :: ·)

/-- The keys in order, if all of them can be compared. -/
def sortKeys (keys : List Value) : Except Fault (List Value) :=
  keys.foldlM (fun sorted key => insertSorted key sorted) []

/-- The text of a key in a message. -/
def keyText (key : Value) : Except Fault String := key.written.mapError .tooManyDigits

/-- The logging members of a mapping, which may hold no others. -/
def readLogging (source : String) : Value → Except Fault LogOverride
  | .map entries => do
      let unknown := (entries.map Prod.fst).filter fun key =>
        match key with
        | .text s => s != "level" && s != "format"
        | _ => true
      if unknown.isEmpty then
        return { level := Value.lookupText entries "level"
                 format := Value.lookupText entries "format" }
      else
        .error (.unknownLogging source (← (← sortKeys unknown).mapM keyText))
  | _ => .error (.shape .logging source "a mapping")

/-- Add the value of one setting to a layer; null adds nothing. -/
def Override.add (source : String) (o : Override) (field : Field) (value : Value) :
    Except Fault Override :=
  match value with
  | .null => .ok o
  | value =>
      match field with
      | .paths => do return { o with paths := some (← readTexts field source value) }
      | .envFiles => do return { o with envFiles := some (← readTexts field source value) }
      | .allowOptional => do
          return { o with allowOptional := some (← readTexts field source value) }
      | .ignoreKeys => do return { o with ignoreKeys := some (← readTexts field source value) }
      | .ignorePatterns => do
          return { o with ignorePatterns := some (← readTexts field source value) }
      | .reportFormat =>
          match value with
          | .text s => .ok { o with reportFormat := some s }
          | _ => .error (.shape field source "a string")
      | .exitOnError => do return { o with exitOnError := some (← readFlag field source value) }
      | .includeOptional => do
          return { o with includeOptional := some (← readFlag field source value) }
      | .logging => do return { o with logging := some (← readLogging source value) }

/-- The layer of settings given one by one; the first misshapen value counts. -/
def Override.ofFields (source : String) (given : List (Field × Value)) :
    Except Fault Override :=
  given.foldlM (fun o entry => o.add source entry.1 entry.2) {}

/-- The settings that a mapping gives in either spelling, and its unknown keys.
The later spelling of a setting counts. -/
def splitKnown (entries : List (Value × Value)) : Dict Field Value × List Value :=
  entries.foldl
    (fun (known, unknown) entry =>
      match entry.1 with
      | .text name =>
          match Field.ofSpelling? name with
          | some field => (known.insert field entry.2, unknown)
          | none => (known, unknown ++ [entry.1])
      | key => (known, unknown ++ [key]))
    (.empty, [])

/-- The layer of a mapping whose unknown names are an error. Shapes are checked
first; an unknown name given as null is not noticed. -/
def Override.ofMembers (source : String) (entries : List (String × Value)) :
    Except Fault Override := do
  let given := entries.filterMap fun entry =>
    (Field.ofName? entry.1).map fun field => (field, entry.2)
  let layer ← Override.ofFields source given
  let unknown := entries.find? fun entry =>
    (Field.ofName? entry.1).isNone &&
      match entry.2 with
      | .null => false
      | _ => true
  match unknown with
  | some entry => .error (.unknownField entry.1)
  | none => return layer

/-! ## Applying a layer -/

/-- The first occurrences of the items. -/
def distinct (items : List String) : List String :=
  items.foldl (fun kept item => if kept.contains item then kept else kept ++ [item]) []

/-- A list that accumulates: earlier items first, repeats dropped. -/
def accumulate (base : List String) : Option (List String) → List String
  | none => base
  | some items => distinct (base ++ items)

/-- Replace the logging members that are given. -/
def LogOverride.applyTo (o : LogOverride) (base : LogSettings) : LogSettings :=
  { level := o.level.getD base.level, format := o.format.getD base.format }

/-- Put a layer on top of settings. -/
def apply (base : Settings) (o : Override) : Settings where
  paths := o.paths.getD base.paths
  envFiles := o.envFiles.getD base.envFiles
  allowOptional := accumulate base.allowOptional o.allowOptional
  ignoreKeys := accumulate base.ignoreKeys o.ignoreKeys
  ignorePatterns := o.ignorePatterns.getD base.ignorePatterns
  reportFormat := o.reportFormat.getD base.reportFormat
  exitOnError := o.exitOnError.getD base.exitOnError
  includeOptional := o.includeOptional.getD base.includeOptional
  logging :=
    match o.logging with
    | some members => members.applyTo base.logging
    | none => base.logging

end EnvConcord.Settings
