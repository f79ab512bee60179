import EnvConcord.Access.Basic

/-!
# Example files from code

An example file lists the static keys of a source tree in ascending order, each
without a value and under a comment that names its first usage.
-/

namespace EnvConcord.Access

/-- Whether an example lists a key. -/
def inExample (includeOptional : Bool) (key : CodeKey) : Bool :=
  !(key.isComputed || (key.isOptional && !includeOptional))

/-- The lines of one key. -/
def exampleLines (key : CodeKey) : List String :=
  let comment :=
    match key.usages with
    | first :: _ =>
        ["# Used in " ++ first.file ++ ":" ++ toString first.line ++
          if key.isOptional then " (optional)" else ""]
    | [] => []
  comment ++ [key.name ++ "=", ""]

/-- The text of an example file. -/
def exampleText (keys : List CodeKey) (includeOptional : Bool) : String :=
  let sorted := keys.mergeSort fun a b => decide (a.name ≤ b.name)
  String.intercalate "\n"
    (["# Environment variables referenced in code",
      "# Generated by envguard; copy to .env and fill in the values", ""] ++
      (sorted.filter (inExample includeOptional)).flatMap exampleLines)

end EnvConcord.Access
