import EnvConcord.Document.Source
import EnvConcord.Logged
import EnvConcord.Settings.Environment

/-!
# Loading settings

Settings come in layers: the defaults, a settings file, a section of `pyproject.toml`,
a section of `package.json`, and environment variables.  A settings file that is asked
for has to be usable; one that was found, and the sections, are skipped with a warning.
-/

namespace EnvConcord.Settings

open Document

/-- Why settings cannot be loaded. -/
inductive LoadFault
  | settings (cause : Fault)
  /-- A value in a file is out of bounds. -/
  | value (cause : SourceFault)
  /-- A value of some kind stands where sections are looked up. -/
  | noTable (kind : String)

/-- The text of a fault. -/
def LoadFault.message : LoadFault → String
  | .settings cause => cause.message
  | .value cause => cause.message
  | .noTable kind => "'" ++ kind ++ "' object has no attribute 'get'"

/-- Whether a layer with this fault can be skipped. -/
def LoadFault.isSkippable : LoadFault → Bool
  | .settings (.unordered ..) => false
  | .settings (.tooManyDigits _) => false
  | .settings _ => true
  | _ => false

/-! ## Layers from documents -/

/-- Warn about unknown keys, as far as they can be shown. -/
def warnUnknown (source : String) : List Value → Attempt LoadFault Unit
  | [] => pure ()
  | key :: rest => do
      let shown ← Attempt.ofExcept ((keyText key).mapError .settings)
      Attempt.warn ("Ignoring unknown config key '" ++ shown ++ "' in " ++ source)
      warnUnknown source rest

/-- The layer of a mapping. Unknown keys are skipped with a warning. -/
def layerOf (source : String) (entries : List (Value × Value)) : Attempt LoadFault Override := do
  let (known, unknown) := splitKnown entries
  warnUnknown source unknown
  Attempt.ofExcept ((Override.ofFields source known.toList).mapError .settings)

/-- What a fault in the text of a settings file amounts to. -/
def unusable (p : Path) (cause : SourceFault) : LoadFault :=
  if cause.concernsValue then .value cause
  else .settings (.unparsable p.render (cause.explain p.render))

/-- Whether a file without the suffix of JSON is read as JSON. -/
def isRunFile (p : Path) : Bool := ['c', 'r'].isPrefixOf p.name.toList.reverse

/-- The document of a settings file. Nothing at all stands for no settings, and in YAML so
does every empty value. -/
def documentOf (p : Path) (content : List Char) : Except LoadFault Value :=
  if yamlSuffixes.contains p.suffix then do
    let value ← (yamlOf content).mapError (unusable p)
    return if value.isEmptyLike then .map [] else value
  else if p.suffix == ".json" || isRunFile p then
    if (Text.trim content).isEmpty then .ok (.map [])
    else (jsonOf content).mapError (unusable p)
  else .error (.settings (.unsupportedSuffix p.suffix))

/-- The layer of a settings file. -/
def readFile (t : Tree) (p : Path) : Attempt LoadFault Override := do
  if !t.exists? p then throw (.settings (.missingFile p.render))
  let content ← Attempt.ofExcept ((contentOf t p).mapError (unusable p))
  match ← Attempt.ofExcept (documentOf p content) with
  | .map entries => layerOf p.render entries
  | _ => throw (.settings (.notMapping p.render))

/-- An attempt whose fault is turned into a warning, if it can be skipped. -/
def skipping (opening : String) (attempt : Attempt LoadFault Override) :
    Attempt LoadFault (Option Override) := do
  match ← ExceptT.lift attempt.outcome with
  | .ok layer => return some layer
  | .error fault =>
      if fault.isSkippable then
        Attempt.warn (opening ++ fault.message)
        return none
      else throw fault

/-! ## Files that are looked up -/

/-- The settings files that are looked for, the first of which counts. -/
def fileNames : List String := [".envguard.yaml", ".envguard.yml", ".envguardrc.json"]

/-- The name of the section in files of other tools. -/
def sectionName : String := "envguard"

/-- A name in a directory. -/
def inDirectory (directory : Path) (name : String) : Path := directory.append (Path.parse name)

/-- The layer of the first settings file in a directory. -/
def discovered (t : Tree) (directory : Path) : Attempt LoadFault (Option Override) :=
  match (fileNames.map (inDirectory directory)).find? t.exists? with
  | none => pure none
  | some p => skipping "Skipping config file: " (readFile t p)

/-- The layer of a section; what is no mapping is no section. -/
def readSection (p : Path) : Option Value → Attempt LoadFault (Option Override)
  | some (.map entries) => skipping "Skipping envguard section: " (layerOf p.render entries)
  | _ => pure none

/-- The layer of a section in a file, if the file is there. The section is found in the
document by `find`. -/
def sectionLayer (t : Tree) (p : Path) (parse : List Char → Except SourceFault Value)
    (find : Value → Except LoadFault (Option Value)) : Attempt LoadFault (Option Override) := do
  if !t.exists? p then return none
  match (contentOf t p).bind parse with
  | .ok document => readSection p (← Attempt.ofExcept (find document))
  | .error fault =>
      if fault.concernsValue then throw (.value fault)
      else
        Attempt.warn ("Failed to parse " ++ p.render ++ ": " ++ fault.explain p.render)
        return none

/-- The section of a TOML document, inside of its table of tools. -/
def toolSection (document : Value) : Except LoadFault (Option Value) :=
  match document.get? "tool" with
  | none => .ok none
  | some (.map entries) => .ok (Value.lookupText entries sectionName)
  | some value => .error (.noTable value.fullKindName)

/-- The section of a JSON document. -/
def packageSection (document : Value) : Except LoadFault (Option Value) :=
  .ok (document.get? sectionName)

/-- Put a layer on top, if there is one. -/
def applyOptional (s : Settings) : Option Override → Settings
  | none => s
  | some layer => apply s layer

/-- The settings of a file on top of the defaults. -/
def ofFile (t : Tree) (p : Path) : Attempt LoadFault Settings := do
  return apply {} (← readFile t p)

/-- Load the settings of a directory; a file that is given replaces the files that are
looked for, and variables count if they are given. -/
def load (t : Tree) (given : Option Path) (directory : Path)
    (environment : Option (String → Option String)) : Attempt LoadFault Settings := do
  let own ←
    match given with
    | some p => (readFile t p).map some
    | none => discovered t directory
  let pyproject ← sectionLayer t (inDirectory directory "pyproject.toml") tomlOf toolSection
  let package ← sectionLayer t (inDirectory directory "package.json") jsonOf packageSection
  let s := [own, pyproject, package].foldl applyOptional {}
  return match environment with
    | some environment => applyEnvironment environment s
    | none => s

end EnvConcord.Settings
