import EnvConcord.Access.Basic
import EnvConcord.Text.Blank
import EnvConcord.Text.Letters

/-!
# Access dialects

A dialect lists the forms in which a language reads its environment.  A static
form holds a literal key; a computed form is an access whose key may be an
expression.  Forms are recognised at the head of a text, so that scanning a line
means testing its suffixes.
-/

namespace EnvConcord

/-- Where a form puts its key. -/
inductive KeyPlace
  /-- A bare key, not followed by further characters of a name. -/
  | bare
  /-- A quoted key and a closing bracket. -/
  | subscript
  /-- A quoted key behind optional blanks. -/
  | argument
  deriving DecidableEq, Repr

/-- A mark that may follow an access. -/
inductive TailMark
  | symbol (text : String)
  /-- A word, which must end where it ends. -/
  | word (text : String)
  deriving DecidableEq, Repr

/-- An access form with a literal key. A usage is optional where the marks of one
of the `fallbacks` follow it, with blanks allowed before each mark. -/
structure StaticForm where
  kind : AccessKind
  openings : List String
  place : KeyPlace
  fallbacks : List (List TailMark)
  deriving DecidableEq, Repr

/-- An access form whose key may be computed. The expression runs up to the first
closing character; the forms with a literal key are left out. -/
structure ComputedForm where
  openings : List String
  closer : Char
  place : KeyPlace
  deriving DecidableEq, Repr

/-- The access forms of a language and the suffixes of its files. -/
structure Dialect where
  name : String
  extensions : List String
  statics : List StaticForm
  computed : List ComputedForm
  deriving DecidableEq, Repr

namespace Access

/-- Whether a character begins a key: a capital letter or an underscore. -/
def isKeyStart (c : Char) : Bool := c.isUpper || c == '_'

/-- Whether a character continues a key. -/
def isKeyChar (c : Char) : Bool := isKeyStart c || c.isDigit

/-- Whether a character would make a bare key part of a longer name. -/
def isNameChar (c : Char) : Bool := c.isAlphanum || c == '_' || c == '$'

/-- The longest key at the head of a text, and what follows it. -/
def takeKey? (cs : List Char) : Option (List Char × List Char) :=
  match cs with
  | c :: _ => if isKeyStart c then some (cs.takeWhile isKeyChar, cs.dropWhile isKeyChar) else none
  | [] => none

/-- What follows one of the openings at the head of a text. -/
def afterOpening? (openings : List String) (cs : List Char) : Option (List Char) :=
  openings.findSome? fun opening =>
    if opening.toList.isPrefixOf cs then some (cs.drop opening.toList.length) else none

/-- A quoted key at the head of a text, and what follows the closing quote. -/
def takeQuotedKey? (cs : List Char) : Option (List Char × List Char) :=
  match cs with
  | quote :: rest =>
      if quote == '\'' || quote == '"' then
        match takeKey? rest with
        | some (key, closing :: after) => if closing = quote then some (key, after) else none
        | _ => none
      else none
  | [] => none

/-- The key behind an opening, and what follows the access. -/
def KeyPlace.read? : KeyPlace → List Char → Option (List Char × List Char)
  | .bare, cs =>
      match takeKey? cs with
      | some (key, rest) =>
          match rest with
          | next :: _ => if isNameChar next then none else some (key, rest)
          | [] => some (key, rest)
      | none => none
  | .subscript, cs =>
      match takeQuotedKey? cs with
      | some (key, ']' :: rest) => some (key, rest)
      | _ => none
  | .argument, cs => takeQuotedKey? (Text.trimLeft cs)

/-- Whether marks follow, each behind optional blanks. -/
def marksFollow : List TailMark → List Char → Bool
  | [], _ => true
  | .symbol text :: marks, cs =>
      let rest := Text.trimLeft cs
      text.toList.isPrefixOf rest && marksFollow marks (rest.drop text.toList.length)
  | .word text :: marks, cs =>
      let rest := Text.trimLeft cs
      let after := rest.drop text.toList.length
      text.toList.isPrefixOf rest && !(after.head?.any Text.isWordChar) && marksFollow marks after

/-- A static access at the head of a text. -/
structure StaticMatch where
  key : List Char
  raw : List Char
  isOptional : Bool
  deriving DecidableEq, Repr

/-- The static access of a form at the head of a text. -/
def StaticForm.match? (form : StaticForm) (cs : List Char) : Option StaticMatch := do
  let body ← afterOpening? form.openings cs
  let (key, rest) ← KeyPlace.read? form.place body
  some
    { key
      raw := cs.take (cs.length - rest.length)
      isOptional := form.fallbacks.any fun marks => marksFollow marks rest }

/-- Whether an expression, cut off behind its closing character, holds a literal
key; behind a subscript nothing may follow. -/
def ComputedForm.isLiteral (form : ComputedForm) (expression : List Char) : Bool :=
  match afterOpening? form.openings expression with
  | none => false
  | some body =>
      match KeyPlace.read? form.place body with
      | none => false
      | some (_, rest) => form.place != .subscript || rest.isEmpty

/-- A text up to and with the first occurrence of a character. -/
def upTo? (closer : Char) (cs : List Char) : Option (List Char) :=
  if cs.contains closer then some (cs.takeWhile (· != closer) ++ [closer]) else none

/-- The expression of a computed access at the head of a text. -/
def ComputedForm.match? (form : ComputedForm) (cs : List Char) : Option (List Char) :=
  match afterOpening? form.openings cs with
  | none => none
  | some _ =>
      match upTo? form.closer cs with
      | some expression => if ComputedForm.isLiteral form expression then none else some expression
      | none => none

end Access

namespace Dialect

/-- `||` or `??` behind an access supplies a fallback. -/
def coalescing : List (List TailMark) := [[.symbol "||"], [.symbol "??"]]

/-- Accesses through `process.env`. -/
def javascript : Dialect where
  name := "javascript"
  extensions := [".js", ".jsx", ".mjs", ".cjs", ".ts", ".tsx", ".mts", ".cts", ".vue", ".svelte"]
  statics :=
    [ { kind := .direct, openings := ["process.env."], place := .bare, fallbacks := coalescing },
      { kind := .bracket, openings := ["process.env["], place := .subscript,
        fallbacks := coalescing } ]
  computed := [{ openings := ["process.env["], closer := ']', place := .subscript }]

/-- Accesses through `os.environ` and `os.getenv`; a second argument, or the word
`or` behind the access, supplies a fallback. -/
def python : Dialect where
  name := "python"
  extensions := [".py", ".pyi"]
  statics :=
    [ { kind := .bracket, openings := ["os.environ["], place := .subscript,
        fallbacks := [[.word "or"]] },
      { kind := .call, openings := ["os.getenv(", "os.environ.get("], place := .argument,
        fallbacks := [[.symbol ","], [.symbol ")", .word "or"]] } ]
  computed :=
    [ { openings := ["os.environ["], closer := ']', place := .subscript },
      { openings := ["os.getenv(", "os.environ.get("], closer := ')', place := .argument } ]

end Dialect

end EnvConcord
