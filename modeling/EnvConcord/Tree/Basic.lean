import EnvConcord.Collection.Dict
import EnvConcord.Text.Breaks
import EnvConcord.Text.Quoted
import EnvConcord.Text.Utf8
import EnvConcord.Tree.Path

/-!
# Directory trees

A tree holds files and directories below a working directory.  Relative paths start
there, and so do paths with the tree's own root mark; other absolute paths lead outside.
Two dots lead back to a directory that exists.
-/

namespace EnvConcord

/-- What stands at a place: a directory, or a file with its octets. -/
inductive TreeNode
  | directory
  | file (content : List Nat)
  deriving DecidableEq, Repr, Inhabited

/-- A tree: what stands at each place, given by the names that lead there. The working
directory itself always exists. -/
structure Tree where
  nodes : Dict (List String) TreeNode := .empty
  /-- The root mark of absolute paths that start at the working directory. -/
  root : String := "/"
  deriving Repr

namespace Tree

/-- Why an operation on a path fails. -/
inductive Fault
  | absent (path : String)
  | alreadyThere (path : String)
  | noDirectory (path : String)
  | isDirectory (path : String)
  deriving DecidableEq, Repr

/-- The text of a fault. -/
def Fault.message : Fault → String
  | .absent path => "[Errno 2] No such file or directory: " ++ Text.quoted path
  | .alreadyThere path => "[Errno 17] File exists: " ++ Text.quoted path
  | .noDirectory path => "[Errno 20] Not a directory: " ++ Text.quoted path
  | .isDirectory path => "[Errno 21] Is a directory: " ++ Text.quoted path

/-- The working directory as an absolute path. -/
def home (t : Tree) : Path := { root := t.root }

/-! ## Looking up -/

/-- What stands at a place. -/
def at? (t : Tree) (place : List String) : Option TreeNode :=
  if place.isEmpty then some .directory else t.nodes.get? place

/-- Follow names from a directory. -/
def walk (t : Tree) (path : String) : List String → List String → Except Fault (List String)
  | place, [] => .ok place
  | place, name :: rest =>
      match t.at? place with
      | none => .error (.absent path)
      | some (.file _) => .error (.noDirectory path)
      | some .directory =>
          if name == ".." then
            if place.isEmpty then .error (.absent path) else t.walk path place.dropLast rest
          else t.walk path (place ++ [name]) rest

/-- The place that a path leads to, where all but the last name have to exist. -/
def locate (t : Tree) (p : Path) : Except Fault (List String) :=
  if p.root == "" || p.root == t.root then t.walk p.render [] p.parts
  else .error (.absent p.render)

/-- What stands where a path leads to. -/
def node? (t : Tree) (p : Path) : Option TreeNode :=
  match t.locate p with
  | .ok place => t.at? place
  | .error _ => none

/-- Whether anything stands there. -/
def exists? (t : Tree) (p : Path) : Bool := (t.node? p).isSome

/-- Whether a file stands there. -/
def isFile (t : Tree) (p : Path) : Bool :=
  match t.node? p with
  | some (.file _) => true
  | _ => false

/-- Whether a directory stands there. -/
def isDirectory (t : Tree) (p : Path) : Bool :=
  match t.node? p with
  | some .directory => true
  | _ => false

/-- The names directly below a directory. -/
def children (t : Tree) (p : Path) : List String :=
  if t.isDirectory p then
    match t.locate p with
    | .ok place =>
        t.nodes.keys.filterMap fun key =>
          if key.dropLast = place ∧ key ≠ [] then key.getLast? else none
    | .error _ => []
  else []

/-- The octets of a file. -/
def read (t : Tree) (p : Path) : Except Fault (List Nat) := do
  match t.at? (← t.locate p) with
  | some (.file content) => return content
  | some .directory => .error (.isDirectory p.render)
  | none => .error (.absent p.render)

/-- Why a file has no text. -/
inductive TextFault
  | tree (cause : Fault)
  | octets (cause : Text.Utf8.Fault)
  deriving DecidableEq, Repr

/-- The text of a fault. -/
def TextFault.message : TextFault → String
  | .tree cause => cause.message
  | .octets cause => cause.message

/-- The text of a file. -/
def readText (t : Tree) (p : Path) : Except TextFault (List Char) :=
  match t.read p with
  | .error cause => .error (.tree cause)
  | .ok octets =>
      match Text.Utf8.decode octets with
      | .error cause => .error (.octets cause)
      | .ok cs => .ok (Text.unifyBreaks cs)

/-! ## Changing -/

/-- Put a file where a path leads to, in place of a file that may stand there. -/
def write (t : Tree) (p : Path) (content : List Nat) : Except Fault Tree := do
  let place ← t.locate p
  match t.at? place with
  | some .directory => .error (.isDirectory p.render)
  | _ => return { t with nodes := t.nodes.insert place (.file content) }

/-- Put a text where a path leads to. -/
def writeText (t : Tree) (p : Path) (text : String) : Except Fault Tree :=
  t.write p (Text.Utf8.encode text)

/-- Remove a file. -/
def remove (t : Tree) (p : Path) : Except Fault Tree := do
  let place ← t.locate p
  match t.at? place with
  | some (.file _) => return { t with nodes := t.nodes.erase place }
  | some .directory => .error (.isDirectory p.render)
  | none => .error (.absent p.render)

/-- Make the directories on a way, one name after the other. -/
def makeWay (t : Tree) (whole : Path) : List String → List String → Except Fault Tree
  | _, [] => .ok t
  | done, name :: rest =>
      let here : Path := { whole with parts := done ++ [name] }
      match t.locate here with
      | .error _ => .error (.noDirectory whole.render)
      | .ok place =>
          match t.at? place with
          | some .directory => t.makeWay whole (done ++ [name]) rest
          | some (.file _) =>
              if rest.isEmpty then .error (.alreadyThere whole.render)
              else .error (.noDirectory whole.render)
          | none =>
              let grown := { t with nodes := t.nodes.insert place .directory }
              grown.makeWay whole (done ++ [name]) rest

/-- Make a directory and those on the way to it, where they are missing. -/
def makeDirectory (t : Tree) (p : Path) : Except Fault Tree := t.makeWay p [] p.parts

end Tree

end EnvConcord
