import EnvConcord.Document.Toml.Scalar

/-!
# Reading values from TOML text

A document is a list of statements: headers of tables and settings of keys.  A key is
a path; the tables on the way are made where they are missing.  What was declared once
cannot be declared again, and what was written between brackets cannot be extended.
-/

namespace EnvConcord.Document.Toml

/-- The path of a key. -/
abbrev KeyPath := List String

/-- The members of a table. -/
abbrev Members := List (Value × Value)

/-! ## Tables -/

/-- Change the table at a path, which is made where it is missing. Of a list of tables the
last one is meant, where lists may be entered. -/
def changeAt (enterLists : Bool) (change : Members → Except Fault Members) :
    KeyPath → Members → Except Fault Members
  | [], table => change table
  | name :: path, table => do
      let inner ←
        match Value.lookupText table name with
        | none => (changeAt enterLists change path []).map .map
        | some (.map inner) => (changeAt enterLists change path inner).map .map
        | some (.list items) =>
            match enterLists, items.getLast? with
            | true, some (.map inner) => do
                let inner ← changeAt enterLists change path inner
                pure (.list (items.dropLast ++ [.map inner]))
            | _, _ => .error .malformed
        | some _ => .error .malformed
      return Value.insertEntry (.text name) inner table

/-- Set a key that is not set yet. -/
def setNew (name : String) (value : Value) (table : Members) : Except Fault Members :=
  match Value.lookupText table name with
  | none => .ok (Value.insertEntry (.text name) value table)
  | some _ => .error .malformed

/-- Add a table to a list of tables. -/
def appendTable (name : String) (table : Members) : Except Fault Members :=
  match Value.lookupText table name with
  | none => .ok (Value.insertEntry (.text name) (.list [.map []]) table)
  | some (.list items) => .ok (Value.insertEntry (.text name) (.list (items ++ [.map []])) table)
  | some _ => .error .malformed

/-- A path without its last name, and the last name. -/
def splitPath (path : KeyPath) : KeyPath × String := (path.dropLast, path.getLast?.getD "")

/-- Which paths have been declared or closed. -/
structure Marks where
  /-- Tables that cannot be declared again. -/
  declared : List KeyPath := []
  /-- Tables that will be declared when the next header comes. -/
  pending : List KeyPath := []
  /-- Lists and tables written between brackets; everything below them is closed too. -/
  closed : List KeyPath := []

/-- Whether a path is at or below a closed one. -/
def Marks.isClosed (m : Marks) (path : KeyPath) : Bool := m.closed.any fun c => c.isPrefixOf path

/-- Declare the pending tables. -/
def Marks.settle (m : Marks) : Marks :=
  { m with declared := m.pending ++ m.declared, pending := [] }

/-- Forget everything at or below a path. -/
def Marks.forget (m : Marks) (path : KeyPath) : Marks :=
  { m with declared := m.declared.filter fun d => !path.isPrefixOf d
           closed := m.closed.filter fun c => !path.isPrefixOf c }

/-- Whether parts of a value can be reached by a path. -/
def hasParts : Value → Bool
  | .list _ => true
  | .map _ => true
  | _ => false

/-! ## Keys -/

/-- Read one name of a key. -/
def readName (cs : List Char) : Except Fault (String × List Char) :=
  match cs with
  | '\'' :: rest => (readLiteral rest).map fun (name, rest) => (String.ofList name, rest)
  | '"' :: rest => (readBasicLine rest).map fun (name, rest) => (String.ofList name, rest)
  | _ =>
      let name := cs.takeWhile isBareChar
      if name.isEmpty then .error .malformed
      else .ok (String.ofList name, cs.dropWhile isBareChar)

/-- Read a key: names between points. -/
def readKey : Nat → List Char → Except Fault (KeyPath × List Char)
  | 0, _ => .error .malformed
  | fuel + 1, cs => do
      let (name, rest) ← readName cs
      match skipBlanks rest with
      | '.' :: rest => do
          let (more, rest) ← readKey fuel (skipBlanks rest)
          return (name :: more, rest)
      | rest => return ([name], rest)

/-! ## Values -/

/-- Pass blanks, line breaks and comments. -/
def skipFiller : Nat → List Char → Except Fault (List Char)
  | 0, cs => .ok cs
  | fuel + 1, cs => do
      match skipSpace cs with
      | '#' :: rest => skipFiller fuel (← skipComment ('#' :: rest))
      | rest => return rest

mutual

/-- Read a value. -/
def readValue : Nat → List Char → Except Fault (Value × List Char)
  | 0, _ => .error .malformed
  | fuel + 1, cs =>
      match cs with
      | '"' :: _ => (readText '"' cs).map fun (text, rest) => (.text (String.ofList text), rest)
      | '\'' :: _ => (readText '\'' cs).map fun (text, rest) => (.text (String.ofList text), rest)
      | '[' :: rest => do
          let rest ← skipFiller (rest.length + 1) rest
          let (items, rest) ← readItems fuel rest
          return (.list items, rest)
      | '\x7b' :: rest =>
          match skipBlanks rest with
          | '\x7d' :: rest => .ok (.map [], rest)
          | rest => do
              let (table, rest) ← readInline fuel [] [] rest
              return (.map table, rest)
      | _ => readScalar cs

/-- Read the items of a list from an item or the end on. -/
def readItems : Nat → List Char → Except Fault (List Value × List Char)
  | 0, _ => .error .malformed
  | _ + 1, ']' :: rest => .ok ([], rest)
  | fuel + 1, cs => do
      let (item, rest) ← readValue fuel cs
      match ← skipFiller (rest.length + 1) rest with
      | ']' :: rest => return ([item], rest)
      | ',' :: rest => do
          let rest ← skipFiller (rest.length + 1) rest
          let (more, rest) ← readItems fuel rest
          return (item :: more, rest)
      | _ => .error .malformed

/-- Read the settings of a table between braces. -/
def readInline : Nat → List KeyPath → Members → List Char → Except Fault (Members × List Char)
  | 0, _, _, _ => .error .malformed
  | fuel + 1, closed, table, cs => do
      let (path, rest) ← readKey (cs.length + 1) cs
      match rest with
      | '=' :: rest => do
          let (value, rest) ← readValue fuel (skipBlanks rest)
          let (outer, name) := splitPath path
          if closed.any fun c => c.isPrefixOf path then .error .malformed
          else
            let table ← changeAt false (setNew name value) outer table
            match skipBlanks rest with
            | '\x7d' :: rest => return (table, rest)
            | ',' :: rest =>
                readInline fuel (if hasParts value then path :: closed else closed) table
                  (skipBlanks rest)
            | _ => .error .malformed
      | _ => .error .malformed

end

/-! ## Statements -/

/-- What the statements so far amount to. -/
structure Progress where
  table : Members := []
  marks : Marks := {}
  /-- The table that settings belong to. -/
  header : KeyPath := []

/-- The header of a table. -/
def Progress.openTable (p : Progress) (path : KeyPath) : Except Fault Progress := do
  if p.marks.declared.contains path || p.marks.isClosed path then .error .malformed
  else
    let marks := { p.marks with declared := path :: p.marks.declared }
    return { table := ← changeAt true .ok path p.table, marks, header := path }

/-- The header of a table in a list of tables. -/
def Progress.openItem (p : Progress) (path : KeyPath) : Except Fault Progress := do
  if p.marks.isClosed path then .error .malformed
  else
    let (outer, name) := splitPath path
    let marks := p.marks.forget path
    let marks := { marks with declared := path :: marks.declared }
    return { table := ← changeAt true (appendTable name) outer p.table, marks, header := path }

/-- The paths of the tables on the way to a key. -/
def waypoints (header path : KeyPath) : List KeyPath :=
  (List.range (path.length - 1)).map fun n => header ++ path.take (n + 1)

/-- The setting of a key. -/
def Progress.set (p : Progress) (path : KeyPath) (value : Value) : Except Fault Progress := do
  let way := waypoints p.header path
  let (inner, name) := splitPath path
  let outer := p.header ++ inner
  if (way.any fun w => p.marks.declared.contains w) || p.marks.isClosed outer then
    .error .malformed
  else
    let table ← changeAt true (setNew name value) outer p.table
    let closed :=
      if hasParts value then (p.header ++ path) :: p.marks.closed else p.marks.closed
    return { p with table, marks := { p.marks with pending := way ++ p.marks.pending, closed } }

/-- Read a statement that is not empty. -/
def readStatement (p : Progress) (cs : List Char) : Except Fault (Progress × List Char) :=
  match cs with
  | '[' :: '[' :: rest => do
      let (path, rest) ← readKey (rest.length + 1) (skipBlanks rest)
      let p ← Progress.openItem { p with marks := p.marks.settle } path
      match rest with
      | ']' :: ']' :: rest => return (p, rest)
      | _ => .error .malformed
  | '[' :: rest => do
      let (path, rest) ← readKey (rest.length + 1) (skipBlanks rest)
      let p ← Progress.openTable { p with marks := p.marks.settle } path
      match rest with
      | ']' :: rest => return (p, rest)
      | _ => .error .malformed
  | '#' :: _ => .ok (p, cs)
  | _ => do
      let (path, rest) ← readKey (cs.length + 1) cs
      match rest with
      | '=' :: rest => do
          let (value, rest) ← readValue (rest.length + 1) (skipBlanks rest)
          return (← p.set path value, rest)
      | _ => .error .malformed

/-- Read all statements. -/
def readStatements : Nat → Progress → List Char → Except Fault Members
  | 0, _, _ => .error .malformed
  | fuel + 1, p, cs => do
      match skipBlanks cs with
      | [] => return p.table
      | '\n' :: rest => readStatements fuel p rest
      | cs => do
          let (p, rest) ← readStatement p cs
          match ← skipComment (skipBlanks rest) with
          | [] => return p.table
          | '\n' :: rest => readStatements fuel p rest
          | _ => .error .malformed

/-- Read a document. -/
def read (cs : List Char) : Except Fault Value :=
  (readStatements (cs.length + 1) {} cs).map .map

end EnvConcord.Document.Toml
