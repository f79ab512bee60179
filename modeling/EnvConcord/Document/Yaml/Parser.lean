import EnvConcord.Document.Yaml.Lexer
import EnvConcord.Document.Yaml.Node

/-!
# From tokens to nodes

Tokens are read on demand.  Where the text has a fault that is not one of form, the
tokens end with a stop, and the fault counts if the stop is reached.
-/

namespace EnvConcord.Document.Yaml

/-! ## Properties -/

/-- The handles of tags and their expansions. -/
abbrev Handles := List (String × String)

/-- The handles that are always known. -/
def defaultHandles : Handles := [("!", "!"), ("!!", commonStem)]

/-- The properties in front of a node. -/
structure Properties where
  anchor : Option String := none
  /-- The full name of the tag. -/
  tag : Option String := none
  deriving Repr

/-- Whether the tag is left to the node's content. -/
def Properties.isImplicit (p : Properties) : Bool := p.tag.isNone || p.tag == some "!"

/-- The tag of a scalar. The tag of a lone exclamation mark asks for what the text implies. -/
def Properties.scalarTag (p : Properties) (text : String) (plain : Bool) : Tag :=
  match p.tag with
  | none => .scalar (if plain then .ofPlain text else .text)
  | some "!" => .scalar (.ofPlain text)
  | some name => .ofName name

/-- The tag of a collection. -/
def Properties.collectionTag (p : Properties) (implied : Tag) : Tag :=
  if p.isImplicit then implied else .ofName (p.tag.getD "")

/-! ## From tokens to nodes -/

/-- What a part of the tokens was read as, and what is left. -/
structure Parsed (α : Type) where
  result : α
  rest : List Token
  anchors : Anchors

/-- The node that stands where none is written. -/
def emptyNode : Node := .scalar (.scalar .null) ""

/-- What is wrong where another token is expected. -/
def unexpected : List Token → Fault
  | .stop cause :: _ => cause
  | _ => .malformed

/-- The full name of a tag. -/
def expandTag (handles : Handles) (handle : Option String) (name : String) :
    Except Fault String :=
  match handle with
  | none => .ok name
  | some handle =>
      match handles.lookup handle with
      | some expansion => .ok (expansion ++ name)
      | none => .error .malformed

/-- Read the properties of a node, in either order. -/
def readProperties (handles : Handles) : List Token → Except Fault (Properties × List Token)
  | .anchor name :: .tag handle part :: rest => do
      return ({ anchor := some name, tag := some (← expandTag handles handle part) }, rest)
  | .tag handle part :: .anchor name :: rest => do
      return ({ anchor := some name, tag := some (← expandTag handles handle part) }, rest)
  | .anchor name :: rest => .ok ({ anchor := some name }, rest)
  | .tag .. :: .stop cause :: _ => .error cause
  | .tag handle part :: rest => do return ({ tag := some (← expandTag handles handle part) }, rest)
  | rest => .ok ({}, rest)

/-- Register an anchor, which must be new. -/
def register (p : Properties) (node : Node) (anchors : Anchors) : Except Fault Anchors :=
  match p.anchor with
  | none => .ok anchors
  | some name =>
      if (anchors.lookup name).isSome then .error .malformed else .ok ((name, node) :: anchors)

/-- Register the anchor of a collection before its parts are read. -/
def registerOpen (p : Properties) (empty : Node) (anchors : Anchors) : Except Fault Anchors :=
  register p (.again (p.anchor.getD "") empty) anchors

/-- Replace the node of an anchor. -/
def complete (p : Properties) (node : Node) (anchors : Anchors) : Anchors :=
  match p.anchor with
  | none => anchors
  | some name => anchors.map fun entry => if entry.1 = name then (name, node) else entry

/-- The forms of nodes that are possible at a place. -/
inductive Context
  /-- Between brackets. -/
  | flow
  | block
  /-- As a part of a block mapping, where a list may stand at the depth of its key. -/
  | mappingPart
  deriving DecidableEq, Repr

/-- Whether the next token is one of some, or there is none. -/
def nextIs (choices : List Token) : List Token → Bool
  | [] => true
  | token :: _ => choices.contains token

mutual

/-- Read a node. -/
def readNodeAt (handles : Handles) (context : Context) :
    Nat → List Token → Anchors → Except Fault (Parsed Node)
  | 0, _, _ => .error .malformed
  | _ + 1, .alias name :: rest, anchors =>
      match anchors.lookup name with
      | some node => .ok ⟨node, rest, anchors⟩
      | none => .error .malformed
  | fuel + 1, tokens, anchors => do
      let (p, rest) ← readProperties handles tokens
      let listTag := p.collectionTag .list
      let mapTag := p.collectionTag .map
      match rest with
      | .blockEntry :: _ =>
          if context == .mappingPart then
            let anchors ← registerOpen p (.sequence listTag []) anchors
            let items ← readIndentless handles fuel rest anchors
            let node := Node.sequence listTag items.result
            return ⟨node, items.rest, complete p node items.anchors⟩
          else readEmpty p rest anchors
      | .scalar text plain :: rest =>
          let node := Node.scalar (p.scalarTag text plain) text
          return ⟨node, rest, ← register p node anchors⟩
      | .flowSequenceStart :: rest =>
          let anchors ← registerOpen p (.sequence listTag []) anchors
          let items ← readFlowItems handles true fuel rest anchors
          let node := Node.sequence listTag items.result
          return ⟨node, items.rest, complete p node items.anchors⟩
      | .flowMappingStart :: rest =>
          let anchors ← registerOpen p (.mapping mapTag []) anchors
          let entries ← readFlowEntries handles true fuel rest anchors
          let node := Node.mapping mapTag entries.result
          return ⟨node, entries.rest, complete p node entries.anchors⟩
      | .blockSequenceStart :: rest =>
          if context == .flow then readEmpty p (.blockSequenceStart :: rest) anchors
          else
            let anchors ← registerOpen p (.sequence listTag []) anchors
            let items ← readBlockItems handles fuel rest anchors
            let node := Node.sequence listTag items.result
            return ⟨node, items.rest, complete p node items.anchors⟩
      | .blockMappingStart :: rest =>
          if context == .flow then readEmpty p (.blockMappingStart :: rest) anchors
          else
            let anchors ← registerOpen p (.mapping mapTag []) anchors
            let entries ← readBlockEntries handles fuel rest anchors
            let node := Node.mapping mapTag entries.result
            return ⟨node, entries.rest, complete p node entries.anchors⟩
      | rest => readEmpty p rest anchors

/-- The node that consists of properties only, of which there has to be one. -/
def readEmpty (p : Properties) (rest : List Token) (anchors : Anchors) :
    Except Fault (Parsed Node) :=
  match rest with
  | .stop cause :: _ => .error cause
  | _ =>
      if p.anchor.isNone && p.tag.isNone then .error .malformed
      else
        let node := Node.scalar (p.scalarTag "" true) ""
        do return ⟨node, rest, ← register p node anchors⟩

/-- Read a node, unless one of some tokens shows that none is written. -/
def readOptional (handles : Handles) (context : Context) (ends : List Token) :
    Nat → List Token → Anchors → Except Fault (Parsed Node)
  | 0, _, _ => .error .malformed
  | fuel + 1, tokens, anchors =>
      if nextIs ends tokens then .ok ⟨emptyNode, tokens, anchors⟩
      else readNodeAt handles context fuel tokens anchors

/-- Read the items of a block list up to its end. -/
def readBlockItems (handles : Handles) :
    Nat → List Token → Anchors → Except Fault (Parsed (List Node))
  | 0, _, _ => .error .malformed
  | fuel + 1, .blockEntry :: rest, anchors => do
      let item ← readOptional handles .block [.blockEntry, .blockEnd] fuel rest anchors
      let more ← readBlockItems handles fuel item.rest item.anchors
      return ⟨item.result :: more.result, more.rest, more.anchors⟩
  | _ + 1, .blockEnd :: rest, anchors => .ok ⟨[], rest, anchors⟩
  | _ + 1, tokens, _ => .error (unexpected tokens)

/-- Read the items of a list that stands at the depth of its key. -/
def readIndentless (handles : Handles) :
    Nat → List Token → Anchors → Except Fault (Parsed (List Node))
  | 0, _, _ => .error .malformed
  | fuel + 1, .blockEntry :: rest, anchors => do
      let item ←
        readOptional handles .block [.blockEntry, .key, .value, .blockEnd] fuel rest anchors
      let more ← readIndentless handles fuel item.rest item.anchors
      return ⟨item.result :: more.result, more.rest, more.anchors⟩
  | _ + 1, rest, anchors => .ok ⟨[], rest, anchors⟩

/-- Read the members of a block mapping up to its end. -/
def readBlockEntries (handles : Handles) :
    Nat → List Token → Anchors → Except Fault (Parsed (List (Node × Node)))
  | 0, _, _ => .error .malformed
  | fuel + 1, .key :: rest, anchors => do
      let key ← readOptional handles .mappingPart [.key, .value, .blockEnd] fuel rest anchors
      readBlockValue handles key.result fuel key.rest key.anchors
  | _ + 1, .blockEnd :: rest, anchors => .ok ⟨[], rest, anchors⟩
  | _ + 1, tokens, _ => .error (unexpected tokens)

/-- Read the value behind a key of a block mapping, and the members behind it. -/
def readBlockValue (handles : Handles) (key : Node) :
    Nat → List Token → Anchors → Except Fault (Parsed (List (Node × Node)))
  | 0, _, _ => .error .malformed
  | fuel + 1, .value :: rest, anchors => do
      let value ← readOptional handles .mappingPart [.key, .value, .blockEnd] fuel rest anchors
      let more ← readBlockEntries handles fuel value.rest value.anchors
      return ⟨(key, value.result) :: more.result, more.rest, more.anchors⟩
  | fuel + 1, rest, anchors => do
      let more ← readBlockEntries handles fuel rest anchors
      return ⟨(key, emptyNode) :: more.result, more.rest, more.anchors⟩

/-- Read the items of a list between brackets; a member of a mapping may stand alone. -/
def readFlowItems (handles : Handles) (first : Bool) :
    Nat → List Token → Anchors → Except Fault (Parsed (List Node))
  | 0, _, _ => .error .malformed
  | _ + 1, .flowSequenceEnd :: rest, anchors => .ok ⟨[], rest, anchors⟩
  | fuel + 1, tokens, anchors =>
      match first, tokens with
      | false, .flowEntry :: rest => readFlowItem handles fuel rest anchors
      | false, tokens => .error (unexpected tokens)
      | true, tokens => readFlowItem handles fuel tokens anchors

/-- Read one item of a list between brackets, and those behind it. -/
def readFlowItem (handles : Handles) :
    Nat → List Token → Anchors → Except Fault (Parsed (List Node))
  | 0, _, _ => .error .malformed
  | _ + 1, .flowSequenceEnd :: rest, anchors => .ok ⟨[], rest, anchors⟩
  | fuel + 1, .key :: rest, anchors => do
      let key ← readOptional handles .flow [.value, .flowEntry, .flowSequenceEnd] fuel rest anchors
      let value ← readFlowValue handles .flowSequenceEnd fuel key.rest key.anchors
      let more ← readFlowItems handles false fuel value.rest value.anchors
      return ⟨.mapping .map [(key.result, value.result)] :: more.result, more.rest, more.anchors⟩
  | fuel + 1, tokens, anchors => do
      let item ← readNodeAt handles .flow fuel tokens anchors
      let more ← readFlowItems handles false fuel item.rest item.anchors
      return ⟨item.result :: more.result, more.rest, more.anchors⟩

/-- Read the value behind a key between brackets, if there is one. -/
def readFlowValue (handles : Handles) (ending : Token) :
    Nat → List Token → Anchors → Except Fault (Parsed Node)
  | 0, _, _ => .error .malformed
  | fuel + 1, .value :: rest, anchors =>
      readOptional handles .flow [.flowEntry, ending] fuel rest anchors
  | _ + 1, rest, anchors => .ok ⟨emptyNode, rest, anchors⟩

/-- Read the members of a mapping between braces. -/
def readFlowEntries (handles : Handles) (first : Bool) :
    Nat → List Token → Anchors → Except Fault (Parsed (List (Node × Node)))
  | 0, _, _ => .error .malformed
  | _ + 1, .flowMappingEnd :: rest, anchors => .ok ⟨[], rest, anchors⟩
  | fuel + 1, tokens, anchors =>
      match first, tokens with
      | false, .flowEntry :: rest => readFlowEntry handles fuel rest anchors
      | false, tokens => .error (unexpected tokens)
      | true, tokens => readFlowEntry handles fuel tokens anchors

/-- Read one member of a mapping between braces, and those behind it. -/
def readFlowEntry (handles : Handles) :
    Nat → List Token → Anchors → Except Fault (Parsed (List (Node × Node)))
  | 0, _, _ => .error .malformed
  | _ + 1, .flowMappingEnd :: rest, anchors => .ok ⟨[], rest, anchors⟩
  | fuel + 1, .key :: rest, anchors => do
      let key ← readOptional handles .flow [.value, .flowEntry, .flowMappingEnd] fuel rest anchors
      let value ← readFlowValue handles .flowMappingEnd fuel key.rest key.anchors
      let more ← readFlowEntries handles false fuel value.rest value.anchors
      return ⟨(key.result, value.result) :: more.result, more.rest, more.anchors⟩
  | fuel + 1, tokens, anchors => do
      let key ← readNodeAt handles .flow fuel tokens anchors
      let more ← readFlowEntries handles false fuel key.rest key.anchors
      return ⟨(key.result, emptyNode) :: more.result, more.rest, more.anchors⟩

end

/-! ## Documents -/

/-- What the directives in front of a document set. -/
structure Preamble where
  hasVersion : Bool := false
  handles : Handles := []

/-- Read the directives in front of a document. Each may be given once, and only versions
with the major number one are known. -/
def readPreamble (p : Preamble) : List Token → Except Fault (Preamble × List Token)
  | .directive (.version major _) :: rest =>
      if p.hasVersion || major != 1 then .error .malformed
      else readPreamble { p with hasVersion := true } rest
  | .directive (.tag handle expansion) :: rest =>
      if (p.handles.lookup handle).isSome then .error .malformed
      else readPreamble { p with handles := (handle, expansion) :: p.handles } rest
  | .directive .other :: rest => readPreamble p rest
  | rest => .ok (p, rest)

/-- Only ends of documents may follow. -/
def checkEnd : List Token → Except Fault Unit
  | [] => .ok ()
  | .documentEnd :: rest => checkEnd rest
  | tokens => do
      let (_, rest) ← readPreamble {} tokens
      .error (unexpected rest)

/-- Whether a document has no content. -/
def isEmptyContent : List Token → Bool
  | [] => true
  | .directive _ :: _ => true
  | .documentStart :: _ => true
  | .documentEnd :: _ => true
  | _ => false

/-- The root of a document behind what introduces it. -/
def readRoot (handles : Handles) (tokens : List Token) : Except Fault Node := do
  let root ← readNodeAt handles .block (4 * tokens.length + 8) tokens []
  checkEnd root.rest
  return root.result.unrolled root.anchors

/-- Read the single document of a text; a text without any has no root. -/
def readDocument : List Token → Except Fault (Option Node)
  | [] => .ok none
  | token :: rest =>
      match token with
      | .directive _ => introduced (token :: rest)
      | .documentStart => introduced (token :: rest)
      | _ => (readRoot defaultHandles (token :: rest)).map some
where
  /-- A document behind directives and its mark. -/
  introduced (tokens : List Token) : Except Fault (Option Node) := do
    let (p, rest) ← readPreamble {} tokens
    match rest with
    | .documentStart :: rest =>
        if isEmptyContent rest then
          checkEnd rest
          return some emptyNode
        else return some (← readRoot (p.handles ++ defaultHandles) rest)
    | rest => .error (unexpected rest)

end EnvConcord.Document.Yaml
