import EnvConcord.Document.Value

/-!
# Starter schemas

Documents that a new project can begin with.  Both are schemas: reading them has no
refusals.
-/

namespace EnvConcord.Schema.Starter

open Document

/-- The environment that an application runs in. -/
def nodeEnv : Value :=
  .object
    [ ("type", .text "enum"),
      ("description", .text "Application environment"),
      ("allowedValues", .texts ["development", "production", "test"]),
      ("default", .text "development"),
      ("required", .bool true) ]

/-- Three keys that most servers have. -/
def basic : Value :=
  .object
    [ ("NODE_ENV", nodeEnv),
      ("PORT", .object
        [ ("type", .text "number"),
          ("description", .text "Server port number"),
          ("default", .int 3000),
          ("required", .bool false) ]),
      ("DATABASE_URL", .object
        [ ("type", .text "string"),
          ("description", .text "Database connection URL"),
          ("isSensitive", .bool true),
          ("required", .bool true) ]) ]

/-- At least one key of each type. -/
def comprehensive : Value :=
  .object
    [ ("NODE_ENV", nodeEnv),
      ("PORT", .object
        [ ("type", .text "number"),
          ("description", .text "Server port number"),
          ("min", .int 1),
          ("max", .int 65535),
          ("default", .int 3000),
          ("required", .bool false) ]),
      ("DATABASE_URL", .object
        [ ("type", .text "url"),
          ("description", .text "Database connection URL"),
          ("isSensitive", .bool true),
          ("required", .bool true) ]),
      ("JWT_SECRET", .object
        [ ("type", .text "string"),
          ("description", .text "Secret key for JWT token signing"),
          ("min", .int 32),
          ("isSensitive", .bool true),
          ("required", .bool true) ]),
      ("API_KEY", .object
        [ ("type", .text "string"),
          ("description", .text "External API key"),
          ("pattern", .text "^[a-zA-Z0-9]\x7b32\x7d$"),
          ("isSensitive", .bool true),
          ("required", .bool true) ]),
      ("DEBUG", .object
        [ ("type", .text "boolean"),
          ("description", .text "Enable debug mode"),
          ("default", .bool false),
          ("required", .bool false) ]),
      ("REDIS_CONFIG", .object
        [ ("type", .text "json"),
          ("description", .text "Redis configuration object"),
          ("required", .bool false) ]),
      ("ADMIN_EMAIL", .object
        [ ("type", .text "email"),
          ("description", .text "Administrator email address"),
          ("required", .bool true) ]),
      ("MAX_CONNECTIONS", .object
        [ ("type", .text "number"),
          ("description", .text "Maximum number of database connections"),
          ("min", .int 1),
          ("max", .int 100),
          ("default", .int 10),
          ("required", .bool false) ]),
      ("LOG_LEVEL", .object
        [ ("type", .text "enum"),
          ("description", .text "Logging level"),
          ("allowedValues", .texts ["error", "warn", "info", "debug"]),
          ("default", .text "info"),
          ("required", .bool false) ]) ]

/-- The starter schemas by name. -/
def all : List (String × Value) := [("basic", basic), ("comprehensive", comprehensive)]

/-- The starter schema of a name. -/
def ofName? (name : String) : Option Value := all.lookup name

/-- The names of starter schemas. -/
def names : List String := all.map Prod.fst

end EnvConcord.Schema.Starter
