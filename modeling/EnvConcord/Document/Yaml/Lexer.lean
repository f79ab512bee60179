import EnvConcord.Document.Yaml.Token

/-!
# From characters to tokens

Indentation opens and closes collections.  Whether a node is a key shows only at the
colon behind it: until then the place of its first token is remembered, and there the
key's mark is put in afterwards.  A node that has to be a key, because it stands at the
indentation of a mapping, must be followed by its colon on the same line.
-/

namespace EnvConcord.Document.Yaml

/-- A node that may turn out to be a key. -/
structure Candidate where
  /-- The number of tokens in front of the node. -/
  tokensBefore : Nat
  required : Bool
  index : Nat
  line : Nat
  column : Nat
  deriving Repr

/-- The greatest distance of a colon from the start of its key. -/
def keyReach : Nat := 1024

/-- What is known between two tokens. -/
structure Lexer where
  cursor : Cursor
  /-- The tokens so far, the latest first. -/
  tokens : List Token := []
  /-- The column of the innermost open block collection. -/
  indent : Int := -1
  /-- The columns of the block collections around it, the innermost first. -/
  indents : List Int := []
  /-- Whether a key may begin here. -/
  keyAllowed : Bool := true
  /-- The candidate for a key of the innermost collection. -/
  candidate : Option Candidate := none
  /-- The candidates of the collections around it; there is one entry for every bracket. -/
  outer : List (Option Candidate) := []
  deriving Repr

namespace Lexer

/-- Whether the place is between brackets. -/
def inFlow (s : Lexer) : Bool := !s.outer.isEmpty

/-- Add a token. -/
def emit (s : Lexer) (token : Token) : Lexer := { s with tokens := token :: s.tokens }

/-- Add a token and pass a number of characters. -/
def emitPassing (s : Lexer) (token : Token) (size : Nat) : Lexer :=
  { s with tokens := token :: s.tokens, cursor := Cursor.forward size s.cursor }

/-! ## Indentation -/

/-- Close the block collections to the right of a column. -/
def closeBlocks (column : Int) : List Int → Int → Nat → Nat × Int × List Int
  | outer :: rest, indent, closed =>
      if column < indent then closeBlocks column rest outer (closed + 1)
      else (closed, indent, outer :: rest)
  | [], indent, closed => (closed, indent, [])

/-- Leave the block collections to the right of a column; brackets keep them open. -/
def unwind (s : Lexer) (column : Int) : Lexer :=
  if s.inFlow then s
  else
    let (closed, indent, indents) := closeBlocks column s.indents s.indent 0
    { s with tokens := List.replicate closed .blockEnd ++ s.tokens, indent, indents }

/-- Open a block collection at a column to the right of the current one. -/
def openBlock (s : Lexer) (column : Int) : Option Lexer :=
  if s.indent < column then some { s with indent := column, indents := s.indent :: s.indents }
  else none

/-! ## Keys -/

/-- Give up the candidate of the innermost collection. -/
def dropCandidate (s : Lexer) : Except Fault Lexer :=
  if s.candidate.any Candidate.required then .error .malformed
  else .ok { s with candidate := none }

/-- Whether a candidate is out of reach. -/
def isStale (c : Cursor) (candidate : Candidate) : Bool :=
  candidate.line != c.line || keyReach < c.index - candidate.index

/-- Give up all candidates that are out of reach. -/
def dropStale (s : Lexer) : Except Fault Lexer :=
  let stale (c? : Option Candidate) : Bool := c?.any (isStale s.cursor)
  let lost := (s.candidate :: s.outer).any fun c? => stale c? && c?.any Candidate.required
  if lost then .error .malformed
  else
    .ok { s with candidate := s.candidate.filter fun c => !isStale s.cursor c
                 outer := s.outer.map fun c? => c?.filter fun c => !isStale s.cursor c }

/-- Remember the node at the cursor as a candidate, if a key may begin here. -/
def saveCandidate (s : Lexer) : Except Fault Lexer :=
  if s.keyAllowed then do
    let s ← s.dropCandidate
    let here : Candidate :=
      { tokensBefore := s.tokens.length
        required := !s.inFlow && s.indent == s.cursor.column
        index := s.cursor.index
        line := s.cursor.line
        column := s.cursor.column }
    return { s with candidate := some here }
  else .ok s

/-- Put tokens, the latest first, behind the first `count` tokens. -/
def insertTokens (count : Nat) (new tokens : List Token) : List Token :=
  let behind := tokens.length - count
  tokens.take behind ++ new ++ tokens.drop behind

/-! ## Indicators -/

/-- A mark that begins or ends a document. -/
def readDocumentMark (s : Lexer) (token : Token) : Except Fault Lexer := do
  let s ← (s.unwind (-1)).dropCandidate
  return { s.emitPassing token 3 with keyAllowed := false }

/-- A directive. -/
def readDirectiveLine (s : Lexer) : Except Fault Lexer := do
  let s ← (s.unwind (-1)).dropCandidate
  let (directive, cursor) ← readDirective s.cursor
  return { s.emit (.directive directive) with cursor, keyAllowed := false }

/-- An opening bracket. -/
def openBracket (s : Lexer) (token : Token) : Except Fault Lexer := do
  let s ← s.saveCandidate
  return { s.emitPassing token 1 with
    keyAllowed := true, candidate := none, outer := s.candidate :: s.outer }

/-- A closing bracket; it needs one that is open. -/
def closeBracket (s : Lexer) (token : Token) : Except Fault Lexer := do
  let s ← s.dropCandidate
  match s.outer with
  | [] => .error .malformed
  | candidate :: outer =>
      return { s.emitPassing token 1 with keyAllowed := false, candidate, outer }

/-- A comma between brackets. -/
def readComma (s : Lexer) : Except Fault Lexer := do
  let s ← s.dropCandidate
  return { s.emitPassing .flowEntry 1 with keyAllowed := true }

/-- The dash in front of an item. -/
def readDash (s : Lexer) : Except Fault Lexer := do
  let s ←
    if s.inFlow then pure s
    else if !s.keyAllowed then .error .malformed
    else pure (((s.openBlock s.cursor.column).map (·.emit .blockSequenceStart)).getD s)
  let s ← s.dropCandidate
  return { s.emitPassing .blockEntry 1 with keyAllowed := true }

/-- Open a mapping at the cursor, where a key or a value without a key stands. -/
def openMapping (s : Lexer) : Except Fault Lexer :=
  if s.inFlow then .ok s
  else if !s.keyAllowed then .error .malformed
  else .ok (((s.openBlock s.cursor.column).map (·.emit .blockMappingStart)).getD s)

/-- The question mark in front of a key. -/
def readQuestion (s : Lexer) : Except Fault Lexer := do
  let s ← (← s.openMapping).dropCandidate
  return { s.emitPassing .key 1 with keyAllowed := !s.inFlow }

/-- The colon in front of a value: the candidate becomes a key. -/
def readColon (s : Lexer) : Except Fault Lexer :=
  match s.candidate with
  | some key =>
      let opened := if s.inFlow then none else s.openBlock key.column
      let marks := if opened.isSome then [.key, .blockMappingStart] else [.key]
      let s := opened.getD s
      let s := { s with tokens := insertTokens key.tokensBefore marks s.tokens, candidate := none }
      .ok { s.emitPassing .value 1 with keyAllowed := false }
  | none => do
      let s ← s.openMapping
      return { s.emitPassing .value 1 with keyAllowed := !s.inFlow }

/-! ## Nodes -/

/-- A token that can begin a key. -/
def readNode (s : Lexer) (read : Cursor → Except Fault (Token × Cursor)) :
    Except Fault Lexer := do
  let s ← s.saveCandidate
  let (token, cursor) ← read s.cursor
  return { s.emit token with cursor, keyAllowed := false }

/-- A block scalar. -/
def readBlockScalar (s : Lexer) (folded : Bool) : Except Fault Lexer := do
  let s ← s.dropCandidate
  let (text, cursor) ← readBlock folded s.indent s.cursor.next
  return { s.emit (.scalar text false) with cursor, keyAllowed := true }

/-- A plain scalar; behind a line break a key may begin. -/
def readPlainScalar (s : Lexer) : Except Fault Lexer := do
  let s ← s.saveCandidate
  let (cs, crossed, cursor) :=
    readPlain s.inFlow (s.indent + 1) (s.cursor.rest.length + 1) s.cursor
  return { s.emit (.scalar (String.ofList cs) true) with cursor, keyAllowed := crossed }

/-- A quoted scalar at its quote. -/
def quotedToken (double : Bool) (c : Cursor) : Except Fault (Token × Cursor) := do
  let (cs, c) ← readQuoted double (c.rest.length + 1) c.next
  return (.scalar (String.ofList cs) false, c)

/-- The characters that no plain scalar begins with. -/
def indicators : List Char :=
  ['-', '?', ':', ',', '[', ']', '\x7b', '\x7d', '#', '&', '*', '!', '|', '>', '\'', '"', '%',
    '@', '\x60']

/-- Whether a plain scalar begins here. -/
def beginsPlain (s : Lexer) (first : Char) : Bool :=
  let solid := !atBlankOrEnd (s.cursor.peekAt? 1)
  (!atBlankOrEnd (some first) && !indicators.contains first) ||
    (solid && (first == '-' || (!s.inFlow && (first == '?' || first == ':'))))

/-! ## The whole text -/

/-- Pass spaces, comments and line breaks. -/
def skipToToken : Nat → Lexer → Lexer
  | 0, s => s
  | fuel + 1, s =>
      let c := s.cursor.skipSpaces
      let c := if c.peek? == some '#' then (c.run fun x => !isBreak x).2 else c
      match c.takeBreak? with
      | none => { s with cursor := c }
      | some (_, c) =>
          skipToToken fuel { s with cursor := c, keyAllowed := s.keyAllowed || !s.inFlow }

/-- Read the token at the cursor, which stands at a character. -/
def readToken (s : Lexer) (first : Char) : Except Fault Lexer :=
  let c := s.cursor
  let spaced := s.inFlow || atBlankOrEnd (c.peekAt? 1)
  if first == '%' && c.column == 0 then s.readDirectiveLine
  else if c.column == 0 && c.atMark '-' then s.readDocumentMark .documentStart
  else if c.column == 0 && c.atMark '.' then s.readDocumentMark .documentEnd
  else if first == '[' then s.openBracket .flowSequenceStart
  else if first == '\x7b' then s.openBracket .flowMappingStart
  else if first == ']' then s.closeBracket .flowSequenceEnd
  else if first == '\x7d' then s.closeBracket .flowMappingEnd
  else if first == ',' then s.readComma
  else if first == '-' && atBlankOrEnd (c.peekAt? 1) then s.readDash
  else if first == '?' && spaced then s.readQuestion
  else if first == ':' && spaced then s.readColon
  else if first == '*' then s.readNode fun c => (readName c.next).map fun (n, c) => (.alias n, c)
  else if first == '&' then s.readNode fun c => (readName c.next).map fun (n, c) => (.anchor n, c)
  else if first == '!' then s.readNode readTag
  else if first == '|' && !s.inFlow then s.readBlockScalar false
  else if first == '>' && !s.inFlow then s.readBlockScalar true
  else if first == '\'' then s.readNode (quotedToken false)
  else if first == '"' then s.readNode (quotedToken true)
  else if s.beginsPlain first then s.readPlainScalar
  else .error .malformed

/-- Pass what stands in front of the next token. -/
def approach (s : Lexer) : Except Fault Lexer := do
  let s ← (skipToToken (s.cursor.rest.length + 1) s).dropStale
  return s.unwind s.cursor.column

/-- The tokens that what is behind the cursor cannot change: those in front of the first node that
may turn out to be a key. -/
def settled (s : Lexer) : List Token :=
  let live := ((s.candidate :: s.outer).filterMap id).filter fun c => !isStale s.cursor c
  match (live.map Candidate.tokensBefore).min? with
  | some count => s.tokens.reverse.take count
  | none => s.tokens.reverse

/-- Read tokens up to the end of the text, or to a fault that is not one of form. -/
def readAll : Nat → Lexer → Except Fault (List Token)
  | 0, _ => .error .malformed
  | fuel + 1, s => do
      let ready ← s.approach
      match ready.cursor.peek? with
      | none =>
          let done ← (ready.unwind (-1)).dropCandidate
          return done.tokens.reverse
      | some first =>
          match ready.readToken first with
          | .ok behind => readAll fuel behind
          | .error cause =>
              if cause.isFormal then .error cause else return s.settled ++ [.stop cause]

end Lexer

/-- The tokens of a text. -/
def tokens (cs : List Char) : Except Fault (List Token) :=
  if cs.all isAllowed then
    let start : Cursor := { rest := cs }
    let start := if start.peek? == some byteOrderMark then start.next else start
    Lexer.readAll (cs.length + 2) { cursor := start }
  else .error .malformed

end EnvConcord.Document.Yaml
