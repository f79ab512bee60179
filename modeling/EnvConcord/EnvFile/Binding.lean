import EnvConcord.Text.Blank

/-!
# Bindings of an env file

Apart from the lines that set variables, an env file can be cut into bindings, which
together are the whole text: a binding takes the blank lines before it along, and a
quoted value may go over several lines.  What is no binding reaches to the end of its
line.
-/

namespace EnvConcord.EnvFile

/-- A part of an env file: the key it binds, if it binds one, and its text. -/
structure Binding where
  key : Option String
  text : List Char
  deriving DecidableEq, Repr

namespace Binding

/-- Whether a character ends a line. -/
def isLineEnd (c : Char) : Bool := c == '\n' || c == '\r'

/-- Whether a character is a blank within a line. -/
def isInnerBlank (c : Char) : Bool := Text.isBlank c && !isLineEnd c

/-- Pass blanks within a line. -/
def skipInner (cs : List Char) : List Char := cs.dropWhile isInnerBlank

/-- The word that marks a variable for child processes. -/
def exportWord : List Char := ['e', 'x', 'p', 'o', 'r', 't']

/-- Pass the word for exporting, if blanks follow it. -/
def skipExport (cs : List Char) : List Char :=
  let behind := cs.drop exportWord.length
  if exportWord.isPrefixOf cs && (behind.head?.any isInnerBlank) then skipInner behind else cs

/-- Whether a character may stand in a key without quotes. -/
def isKeyChar (c : Char) : Bool := c != '=' && c != '#' && !Text.isBlank c

/-- The key at the start of a binding; a comment has none. -/
def readKey? : List Char → Option (Option String × List Char)
  | '#' :: rest => some (none, '#' :: rest)
  | '\'' :: rest =>
      let key := rest.takeWhile (· != '\'')
      match rest.dropWhile (· != '\'') with
      | _ :: after => if key.isEmpty then none else some (some (String.ofList key), after)
      | [] => none
  | cs =>
      let key := cs.takeWhile isKeyChar
      if key.isEmpty then none else some (some (String.ofList key), cs.dropWhile isKeyChar)

/-- What follows a quoted value: behind the first quote without a backslash in front of it,
or else behind the last quote. -/
def closeQuote? (quote : Char) : List Char → Option (List Char)
  | [] => none
  | '\\' :: c :: rest =>
      if c = quote then (closeQuote? quote rest).orElse fun _ => some rest
      else closeQuote? quote (c :: rest)
  | c :: rest => if c = quote then some rest else closeQuote? quote rest

/-- What follows a value. -/
def skipValue? : List Char → Option (List Char)
  | '\'' :: rest => closeQuote? '\'' rest
  | '"' :: rest => closeQuote? '"' rest
  | cs => some (cs.dropWhile fun c => !isLineEnd c)

/-- Pass the equals sign and the value, if there are any. -/
def skipAssignment? : List Char → Option (List Char)
  | '=' :: rest => skipValue? (skipInner rest)
  | cs => some cs

/-- Pass a comment. -/
def skipRemark (cs : List Char) : List Char :=
  match skipInner cs with
  | '#' :: rest => rest.dropWhile fun c => !isLineEnd c
  | _ => cs

/-- Pass the end of a line. -/
def skipLineEnd : List Char → List Char
  | '\r' :: '\n' :: rest => rest
  | c :: rest => if isLineEnd c then rest else c :: rest
  | [] => []

/-- Pass blanks and the end of a line, which has to be here. -/
def closeLine? (cs : List Char) : Option (List Char) :=
  match skipInner cs with
  | [] => some []
  | c :: rest => if isLineEnd c then some (skipLineEnd (c :: rest)) else none

/-- The key of a binding and what follows it, if the text begins with one. -/
def readBinding? (cs : List Char) : Option (Option String × List Char) := do
  let body := cs.dropWhile Text.isBlank
  if body.isEmpty then return (none, [])
  let (key, rest) ← readKey? (skipExport body)
  let rest ← skipAssignment? (skipInner rest)
  return (key, ← closeLine? (skipRemark rest))

/-- Where reading a binding stops when it fails. -/
def faultRest (cs : List Char) : List Char :=
  let body := cs.dropWhile Text.isBlank
  let body := skipExport body
  match readKey? body with
  | none => body
  | some (_, rest) =>
      let rest := skipInner rest
      match skipAssignment? rest with
      | none =>
          match rest with
          | _ :: behind => skipInner behind
          | [] => []
      | some rest => skipRemark rest

/-- What follows the first part of a text, and the key that the part binds. -/
def splitBinding (cs : List Char) : Option String × List Char :=
  match readBinding? cs with
  | some (key, rest) => (key, rest)
  | none => (none, skipLineEnd ((faultRest cs).dropWhile fun c => !isLineEnd c))

end Binding

/-- The bindings of a text, of which there are at most as many as characters. -/
def bindingsFrom : Nat → List Char → List Binding
  | 0, _ => []
  | _ + 1, [] => []
  | fuel + 1, cs =>
      let (key, rest) := Binding.splitBinding cs
      ⟨key, cs.take (cs.length - rest.length)⟩ :: bindingsFrom fuel rest

/-- The bindings of a text. -/
def bindings (cs : List Char) : List Binding := bindingsFrom cs.length cs

/-- A text without the bindings of a key, and whether there were any. -/
def removeKey (key : String) (cs : List Char) : Bool × List Char :=
  let parts := bindings cs
  (parts.any fun part => part.key == some key,
    (parts.filter fun part => part.key != some key).flatMap Binding.text)

end EnvConcord.EnvFile
