import EnvConcord.Document.Yaml.Parser
import EnvConcord.Document.Yaml.ScalarValue

/-!
# Reading values from YAML text

The value of a scalar is made together with the collection around it, and the parts of a
collection one level after it.  Of several faults the one that is met first counts, which
need not be the first one in the text.
-/

namespace EnvConcord.Document.Yaml

/-! ## Levels -/

/-- For each level of a node the first fault there, if there is one. -/
abbrev Levels := List (Option Fault)

/-- The levels of two nodes of which one stands in front of the other. -/
def Levels.join : Levels → Levels → Levels
  | [], second => second
  | first, [] => first
  | fault :: first, other :: second => fault.or other :: join first second

/-- What is made of a node, or the faults in it. -/
abbrev Made (α : Type) := Except Levels α

namespace Made

variable {α β : Type}

/-- A fault that is met at once. -/
def fail (cause : Fault) : Made α := .error [some cause]

/-- Both of two things. -/
def both : Made α → Made β → Made (α × β)
  | .ok first, .ok second => .ok (first, second)
  | .ok _, .error faults => .error faults
  | .error faults, .ok _ => .error faults
  | .error first, .error second => .error (first.join second)

/-- What is made one level later. -/
def later (made : Made α) : Made α := made.mapError (none :: ·)

end Made

/-! ## Scalars -/

mutual

/-- The text that a node under the tag of a scalar holds: a mapping may have one as its own
value. -/
def Node.text : Node → Except Fault String
  | .scalar _ text => .ok text
  | .sequence .. => .error .untaggable
  | .mapping _ entries => ownText entries
  | .again .. => .error .endless

/-- The text of a mapping's own value. -/
def ownText : List (Node × Node) → Except Fault String
  | [] => .error .untaggable
  | (key, value) :: rest => if key.tag = .scalar .value then value.text else ownText rest

end

/-- Whether the value of a tag is read from a text. -/
def Tag.isRead : Tag → Bool
  | .octets => true
  | .scalar kind => kind != .merge && kind != .value
  | _ => false

/-- The value of a node that is no collection. -/
def Node.read (node : Node) : Except Fault Value :=
  if node.tag.isRead then do
    let text ← node.text
    match node.tag, node with
    | .scalar .moment, .mapping .. => .error .momentInMapping
    | tag, _ => scalarValue tag text
  else .error .untaggable

/-! ## Nodes -/

/-- The mapping of members; the last value of a key counts. -/
def mapOf (members : List (Value × Value)) : List (Value × Value) :=
  members.foldl (fun entries e => Value.insertEntry e.1 e.2 entries) []

mutual

/-- What is made of a node. A tag that does not suit a node is met where the parts of a collection
would be made. -/
def Node.made : Node → Made Value
  | .sequence .list items => Made.later ((madeItems items).map Value.list)
  | .sequence .pairs items => Made.later ((madePairs items).map Value.list)
  | .mapping .map entries => Made.later ((madeEntries entries).map fun e => Value.map (mapOf e))
  | .mapping .set entries =>
      Made.later ((madeEntries entries).map fun e => Value.set ((mapOf e).map Prod.fst))
  | .again _ empty => empty.made
  | node =>
      if node.tag.isCollection then Made.later (Made.fail .untaggable)
      else node.read.mapError ([some ·])

/-- What is made of items. -/
def madeItems : List Node → Made (List Value)
  | [] => .ok []
  | item :: rest => (item.made.both (madeItems rest)).map fun (value, more) => value :: more

/-- The pairs that mappings of one member stand for. -/
def madePairs : List Node → Made (List Value)
  | [] => .ok []
  | .mapping _ [(key, value)] :: rest =>
      ((key.made.both value.made).both (madePairs rest)).map fun ((key, value), more) =>
        .pair key value :: more
  | .again _ (.mapping ..) :: rest => madePairs rest
  | _ :: _ => .fail .untaggable

/-- What is made of members. Collections are no keys. -/
def madeEntries : List (Node × Node) → Made (List (Value × Value))
  | [] => .ok []
  | (key, value) :: rest =>
      let name := if key.tag.isCollection then .fail .untaggable else key.made
      ((name.both value.made).both (madeEntries rest)).map fun (entry, more) => entry :: more

end

/-- The value of a document's root; the fault of the outermost level counts. -/
def valueOf (root : Node) : Except Fault Value :=
  root.flattened.made.mapError fun levels => (levels.findSome? id).getD .malformed

/-- Read the single document of a text; a text without any stands for null. -/
def read (cs : List Char) : Except Fault Value := do
  match ← readDocument (← tokens cs) with
  | none => return .null
  | some root => valueOf root

end EnvConcord.Document.Yaml
