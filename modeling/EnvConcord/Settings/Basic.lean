import EnvConcord.Document.Value

/-!
# Settings

The settings say which source files and env files are compared, which keys are
left out of the comparison, and how the outcome is reported.
-/

namespace EnvConcord

/-- How messages are logged. Both members are kept as the document gave them. -/
structure LogSettings where
  level : Document.Value := .text "WARNING"
  format : Document.Value := .text "%(asctime)s - %(name)s - %(levelname)s - %(message)s"
  deriving Repr, Inhabited

/-- The settings of one run. -/
structure Settings where
  /-- Patterns of the source files to scan. -/
  paths : List String := ["src/**/*.\x7bjs,ts,mjs,cjs\x7d", "lib/**/*.\x7bjs,ts,mjs,cjs\x7d"]
  /-- Env files; a later one overrides an earlier one. -/
  envFiles : List String := [".env"]
  /-- Keys that need no value where the source supplies a fallback. -/
  allowOptional : List String := []
  /-- Keys that may be unused or empty. -/
  ignoreKeys : List String := ["NODE_ENV"]
  /-- Ignore rules for source files. -/
  ignorePatterns : List String :=
    ["node_modules", ".git", "dist", "build", "__pycache__", ".venv"]
  reportFormat : String := "table"
  /-- Whether a check with findings ends in failure. -/
  exitOnError : Bool := true
  /-- Whether an example file lists optional keys. -/
  includeOptional : Bool := false
  logging : LogSettings := {}
  deriving Repr, Inhabited

namespace Settings

/-- The formats of a report. -/
def reportFormats : List String := ["table", "json", "minimal"]

/-- What keeps settings from being usable. -/
inductive Problem
  | noPath
  | noEnvFile
  | unknownFormat
  deriving DecidableEq, Repr

/-- The text of a problem. -/
def Problem.message : Problem → String
  | .noPath => "Config must specify at least one path to scan"
  | .noEnvFile => "Config must specify at least one env file"
  | .unknownFormat => "report_format must be one of: " ++ String.intercalate ", " reportFormats

/-- The problems of settings, in a fixed order. -/
def problems (s : Settings) : List Problem :=
  (if s.paths.isEmpty then [.noPath] else []) ++
    (if s.envFiles.isEmpty then [.noEnvFile] else []) ++
    (if reportFormats.contains s.reportFormat then [] else [.unknownFormat])

/-- The settings as a document. -/
def toValue (s : Settings) : Document.Value :=
  .object
    [ ("paths", .texts s.paths),
      ("env_files", .texts s.envFiles),
      ("allow_optional", .texts s.allowOptional),
      ("ignore_keys", .texts s.ignoreKeys),
      ("ignore_patterns", .texts s.ignorePatterns),
      ("report_format", .text s.reportFormat),
      ("exit_on_error", .bool s.exitOnError),
      ("include_optional", .bool s.includeOptional),
      ("logging", .object [("level", s.logging.level), ("format", s.logging.format)]) ]

end Settings

end EnvConcord
