import EnvConcord.Document.Yaml.Implicit

/-!
# Nodes of a YAML document

A document is a tree of scalars, sequences and mappings.  Every node has a tag, given
or implied, that says what it stands for.  An alias is replaced by the node of its
anchor.  Inside of that node the alias leads back to it; there the node stands once
more, and inside of this one it is empty.  A mapping may merge others in: their members
come first, and its own replace them.
-/

namespace EnvConcord.Document.Yaml

/-- What a node stands for. -/
inductive Tag
  | scalar (kind : ScalarKind)
  | octets
  | list
  /-- A list of mappings of one member each. -/
  | pairs
  | map
  | set
  | unknown
  deriving DecidableEq, Repr, Inhabited

/-- A node. -/
inductive Node
  | scalar (tag : Tag) (text : String)
  | sequence (tag : Tag) (items : List Node)
  | mapping (tag : Tag) (entries : List (Node × Node))
  /-- The node of an anchor, inside of itself; `empty` is that node without its parts. -/
  | again (name : String) (empty : Node)
  deriving Repr, Inhabited

/-! ## Tags -/

/-- What the names of the common tags begin with. -/
def commonStem : String := "tag:yaml.org,2002:"

/-- The common tags by the ends of their names. -/
def commonTags : List (String × Tag) :=
  [("null", .scalar .null), ("bool", .scalar .bool), ("int", .scalar .int),
    ("float", .scalar .float), ("timestamp", .scalar .moment), ("str", .scalar .text),
    ("merge", .scalar .merge), ("value", .scalar .value), ("binary", .octets), ("seq", .list),
    ("omap", .pairs), ("pairs", .pairs), ("map", .map), ("set", .set)]

/-- The tag of a full name. -/
def Tag.ofName (name : String) : Tag :=
  match commonTags.find? fun entry => commonStem ++ entry.1 == name with
  | some (_, tag) => tag
  | none => .unknown

/-- Whether nodes of a tag have parts of their own. -/
def Tag.isCollection (tag : Tag) : Bool :=
  match tag with
  | .list | .pairs | .map | .set => true
  | _ => false

/-- The tag of a node. -/
def Node.tag : Node → Tag
  | .scalar tag _ => tag
  | .sequence tag _ => tag
  | .mapping tag _ => tag
  | .again _ empty => empty.tag

/-- A node under another tag. -/
def Node.retagged (tag : Tag) : Node → Node
  | .scalar _ text => .scalar tag text
  | .sequence _ items => .sequence tag items
  | .mapping _ entries => .mapping tag entries
  | .again name empty => .again name (empty.retagged tag)

/-! ## Nodes inside of themselves -/

/-- The nodes of the anchors so far. -/
abbrev Anchors := List (String × Node)

mutual

/-- A node with the nodes of anchors put in where they stand inside of themselves. -/
def Node.unrolled (anchors : Anchors) : Node → Node
  | .scalar tag text => .scalar tag text
  | .sequence tag items => .sequence tag (unrolledItems anchors items)
  | .mapping tag entries => .mapping tag (unrolledEntries anchors entries)
  | .again name empty => (anchors.lookup name).getD (.again name empty)

/-- Items with the nodes of anchors put in. -/
def unrolledItems (anchors : Anchors) : List Node → List Node
  | [] => []
  | item :: rest => item.unrolled anchors :: unrolledItems anchors rest

/-- Members with the nodes of anchors put in. -/
def unrolledEntries (anchors : Anchors) : List (Node × Node) → List (Node × Node)
  | [] => []
  | (key, value) :: rest =>
      (key.unrolled anchors, value.unrolled anchors) :: unrolledEntries anchors rest

end

/-! ## Merging -/

/-- The members of a mapping. -/
structure Members where
  /-- Those that are to merge in what is no mapping. -/
  faulty : List (Node × Node) := []
  merged : List (Node × Node) := []
  own : List (Node × Node) := []

/-- All members in the order in which they are set. -/
def Members.all (m : Members) : List (Node × Node) := m.faulty ++ m.merged ++ m.own

/-- Merge the members of one mapping into another one, in front of what is merged there. -/
def Members.merge (m other : Members) : Members :=
  { m with faulty := other.faulty ++ m.faulty, merged := other.merged ++ other.own ++ m.merged }

/-- The key of a mapping's own member; the mark of its own value is a text there. -/
def asKey (key : Node) : Node :=
  if key.tag = .scalar .value then key.retagged (.scalar .text) else key

mutual

/-- A node in whose mappings all is merged. -/
def Node.flattened : Node → Node
  | .scalar tag text => .scalar tag text
  | .sequence .pairs items => .sequence .pairs (flattenedPairs items)
  | .sequence tag items => .sequence tag (flattenedItems items)
  | .mapping .map entries => .mapping .map (members entries).all
  | .mapping .set entries => .mapping .set (members entries).all
  | .mapping tag entries => .mapping tag entries
  | .again name empty => .again name empty

/-- Items in whose mappings all is merged. -/
def flattenedItems : List Node → List Node
  | [] => []
  | item :: rest => item.flattened :: flattenedItems rest

/-- Mappings that stand for pairs; they merge nothing in, but their parts may. -/
def flattenedPairs : List Node → List Node
  | [] => []
  | .mapping tag entries :: rest => .mapping tag (flattenedParts entries) :: flattenedPairs rest
  | item :: rest => item :: flattenedPairs rest

/-- The parts of pairs. -/
def flattenedParts : List (Node × Node) → List (Node × Node)
  | [] => []
  | (key, value) :: rest => (key.flattened, value.flattened) :: flattenedParts rest

/-- The members of a mapping. -/
def members : List (Node × Node) → Members
  | [] => {}
  | (key, value) :: rest =>
      let more := members rest
      if key.tag = .scalar .merge then
        match mergedMembers? value with
        | some first => more.merge first
        | none => { more with faulty := (key, value) :: more.faulty }
      else { more with own := (asKey key.flattened, value.flattened) :: more.own }

/-- The members that a mapping or a list of mappings merges in. -/
def mergedMembers? : Node → Option Members
  | .mapping _ entries => some (members entries)
  | .sequence _ items => mergedItems? items
  | .again .. => some {}
  | .scalar .. => none

/-- The members of mappings, those of the last mapping first. -/
def mergedItems? : List Node → Option Members
  | [] => some {}
  | .mapping _ entries :: rest =>
      (mergedItems? rest).map fun more => ({} : Members).merge (members entries) |>.merge more
  | .again _ (.mapping ..) :: rest => mergedItems? rest
  | _ :: _ => none

end

end EnvConcord.Document.Yaml
