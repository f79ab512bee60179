import EnvConcord.Document.Chars
import EnvConcord.Document.Yaml.Scalar
import EnvConcord.Text.Utf8

/-!
# Tokens of a YAML text

Tokens are scalars, names and tags, indicators, and the marks that open and close the
collections which indentation expresses.  This module holds the tokens and reads those
that hold text other than scalars.
-/

namespace EnvConcord.Document.Yaml

/-- A directive in front of a document. -/
inductive Directive
  | version (major minor : Nat)
  | tag (handle expansion : String)
  | other
  deriving DecidableEq, Repr

/-- A token. -/
inductive Token
  | directive (directive : Directive)
  | documentStart
  | documentEnd
  | blockSequenceStart
  | blockMappingStart
  | blockEnd
  | flowSequenceStart
  | flowSequenceEnd
  | flowMappingStart
  | flowMappingEnd
  | blockEntry
  | flowEntry
  | key
  | value
  | alias (name : String)
  | anchor (name : String)
  /-- A tag: without a handle, the other part is the whole of it. -/
  | tag (handle : Option String) (name : String)
  | scalar (text : String) (plain : Bool)
  /-- The last token of a text that cannot be read to its end. -/
  | stop (cause : Fault)
  deriving DecidableEq, Repr

/-! ## Names and tags -/

/-- The characters that end a name, the end of the text included. -/
def endsName (c? : Option Char) : Bool :=
  atBlankOrEnd c? ||
    c?.any fun c => ['?', ':', ',', ']', '\x7d', '%', '@', '\x60'].contains c

/-- Read the name of an anchor or alias. -/
def readName (c : Cursor) : Except Fault (String × Cursor) :=
  let (name, c) := c.run isBareChar
  if name.isEmpty || !endsName c.peek? then .error .malformed else .ok (String.ofList name, c)

/-- Whether a character may stand in a tag. -/
def isTagChar (c : Char) : Bool :=
  c.isAlphanum ||
    ['-', ';', '/', '?', ':', '@', '&', '=', '+', '$', ',', '_', '.', '!', '~', '*', '\'', '(',
      ')', '[', ']'].contains c

/-- The octets of a run of percent escapes, and the number of characters of it. -/
def percentOctets : Nat → List Char → Except Fault (List Nat × Nat)
  | 0, _ => .ok ([], 0)
  | fuel + 1, '%' :: rest =>
      match rest with
      | a :: b :: rest =>
          match Text.hexValue? a, Text.hexValue? b with
          | some x, some y => do
              let (more, size) ← percentOctets fuel rest
              return ((16 * x + y) :: more, size + 3)
          | _, _ => .error .malformed
      | _ => .error .malformed
  | _, _ => .ok ([], 0)

/-- The characters of a tag, with percent escapes resolved. -/
def tagText : Nat → Cursor → Except Fault (List Char × Cursor)
  | 0, c => .ok ([], c)
  | fuel + 1, c => do
      let (own, c) := c.run isTagChar
      if c.peek? == some '%' then
        let (octets, size) ← percentOctets (c.rest.length + 1) c.rest
        match Text.Utf8.decode octets with
        | .error _ => .error .malformed
        | .ok cs =>
            let (more, c) ← tagText fuel (Cursor.forward size c)
            return (own ++ cs ++ more, c)
      else return (own, c)

/-- Read the characters of a tag, of which there is at least one. -/
def readTagText (c : Cursor) : Except Fault (String × Cursor) := do
  let (cs, c) ← tagText (c.rest.length + 1) c
  if cs.isEmpty then .error .malformed else return (String.ofList cs, c)

/-- Read the handle of a tag: an exclamation mark, or a name between two. -/
def readHandle (c : Cursor) : Except Fault (String × Cursor) :=
  if c.peek? != some '!' then .error .malformed
  else if c.peekAt? 1 == some ' ' then .ok ("!", c.next)
  else
    let (name, after) := c.next.run isBareChar
    if after.peek? == some '!' then .ok ("!" ++ String.ofList name ++ "!", after.next)
    else .error .malformed

/-- Read a tag at its exclamation mark. -/
def readTag (c : Cursor) : Except Fault (Token × Cursor) := do
  let (tag, c) ←
    if c.peekAt? 1 == some '<' then do
      let (name, c) ← readTagText (Cursor.forward 2 c)
      if c.peek? == some '>' then pure (Token.tag none name, c.next) else .error .malformed
    else if atBlankOrEnd (c.peekAt? 1) then pure (Token.tag none "!", c.next)
    else do
      let word := c.next.rest.takeWhile fun x => !(isBreak x || x == ' ')
      let (handle, c) ← if word.contains '!' then readHandle c else pure ("!", c.next)
      let (name, c) ← readTagText c
      pure (Token.tag (some handle) name, c)
  if atSpaceOrEnd c.peek? then return (tag, c) else .error .malformed

/-! ## Directives -/

/-- Read a number of a version. -/
def readVersionNumber (c : Cursor) : Except Fault (Nat × Cursor) :=
  let (digits, c) := c.run Char.isDigit
  if digits.isEmpty then .error .malformed
  else if Numeral.digitLimit < digits.length then
    .error (.tooManyDigits (.reading digits.length))
  else .ok (Text.digitsValue digits, c)

/-- Read the version behind its directive's name. -/
def readVersion (c : Cursor) : Except Fault (Directive × Cursor) := do
  let (major, c) ← readVersionNumber c.skipSpaces
  if c.peek? != some '.' then .error .malformed
  else
    let (minor, c) ← readVersionNumber c.next
    if atSpaceOrEnd c.peek? then return (.version major minor, c) else .error .malformed

/-- Read the handle and the expansion behind the name of a tag directive. -/
def readTagDirective (c : Cursor) : Except Fault (Directive × Cursor) := do
  let (handle, c) ← readHandle c.skipSpaces
  if c.peek? != some ' ' then .error .malformed
  else
    let (expansion, c) ← readTagText c.skipSpaces
    if atSpaceOrEnd c.peek? then return (.tag handle expansion, c) else .error .malformed

/-- Read a directive at its percent sign, up to the end of the line. -/
def readDirective (c : Cursor) : Except Fault (Directive × Cursor) := do
  let (name, c) := c.next.run isBareChar
  if name.isEmpty || !atSpaceOrEnd c.peek? then .error .malformed
  else
    let (directive, c) ←
      match String.ofList name with
      | "YAML" => readVersion c
      | "TAG" => readTagDirective c
      | _ => pure (.other, (c.run fun x => !isBreak x).2)
    return (directive, ← skipLineRest c)

end EnvConcord.Document.Yaml
