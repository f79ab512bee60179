import EnvConcord.Report.Wrap
import EnvConcord.Text.LowerCase

/-!
# Messages with style tags

A message may hold tags in brackets that open or close a style.  A page without styles
shows the text between the tags only; but every closing tag has to match an open one.
Backslashes keep a bracket from opening a tag.
-/

namespace EnvConcord.Report.Markup

/-- Why a message cannot be shown. `position` is where the closing tag stands. -/
inductive Fault
  | unmatched (tag : String) (position : Nat)
  | nothingOpen (position : Nat)
  deriving DecidableEq, Repr

/-- The text of a fault. -/
def Fault.message : Fault → String
  | .unmatched tag position =>
      "closing tag '" ++ tag ++ "' at position " ++ toString position ++
        " doesn't match any open tag"
  | .nothingOpen position =>
      "closing tag '[/]' at position " ++ toString position ++ " has nothing to close"

/-! ## Pieces -/

/-- A message is cut into stretches of text and tags. -/
inductive Piece
  | text (content : List Char)
  /-- What stands between the brackets, and where the tag stands. -/
  | tag (content : List Char) (position : Nat)
  deriving DecidableEq, Repr

/-- Whether a character may follow the bracket of a tag. -/
def opensTag (c : Char) : Bool :=
  ('a' ≤ c && c ≤ 'z') || c == '#' || c == '/' || c == '@'

/-- What stands in a tag whose opening bracket has been passed, and what follows it. -/
def tagBody? : List Char → Option (List Char × List Char)
  | [] => none
  | c :: rest =>
      if !opensTag c then none
      else
        let body := rest.takeWhile fun c => c != '[' && c != ']'
        match rest.dropWhile fun c => c != '[' && c != ']' with
        | ']' :: after => some (c :: body, after)
        | _ => none

/-- A run of backslashes with the tag behind it, and what follows the tag. -/
def tagAt? (cs : List Char) : Option (Nat × List Char × List Char) :=
  let slashes := cs.takeWhile (· == '\\')
  match cs.dropWhile (· == '\\') with
  | '[' :: rest => (tagBody? rest).map fun (body, after) => (slashes.length, body, after)
  | _ => none

/-- The pieces that a tag behind backslashes makes: pairs of backslashes stand for one each,
and one left over makes the tag a text. -/
def piecesOfTag (slashes : Nat) (body : List Char) (position : Nat) : List Piece :=
  let kept := List.replicate (slashes / 2) '\\'
  (if kept.isEmpty then [] else [.text kept]) ++
    [if slashes % 2 = 1 then .text ('[' :: body ++ [']'])
    else .tag body (position + slashes)]

/-- A stretch of text, if it is not empty. -/
def pending (reversed : List Char) : List Piece :=
  if reversed.isEmpty then [] else [.text reversed.reverse]

/-- Cut a message into pieces. `reversed` holds the text since the last tag, and `passing`
says that the current run of backslashes leads to no tag. -/
def piecesUpTo : Nat → List Char → Bool → Nat → List Char → List Piece
  | 0, reversed, _, _, cs => pending (cs.reverse ++ reversed)
  | _ + 1, reversed, _, _, [] => pending reversed
  | fuel + 1, reversed, passing, position, c :: rest =>
      match if passing && c == '\\' then none else tagAt? (c :: rest) with
      | some (slashes, body, after) =>
          pending reversed ++ piecesOfTag slashes body position ++
            piecesUpTo fuel [] false (position + slashes + body.length + 2) after
      | none => piecesUpTo fuel (c :: reversed) (c == '\\') (position + 1) rest

/-- The pieces of a message. -/
def pieces (cs : List Char) : List Piece := piecesUpTo (cs.length + 1) [] false 0 cs

/-! ## Styles -/

/-- The words for attributes of a style, by the attribute's own name. -/
def attributeWords : List (String × List String) :=
  [ ("bold", ["bold", "b"]),
    ("dim", ["dim", "d"]),
    ("italic", ["italic", "i"]),
    ("underline", ["underline", "u"]),
    ("blink", ["blink"]),
    ("blink2", ["blink2"]),
    ("reverse", ["reverse", "r"]),
    ("conceal", ["conceal", "c"]),
    ("strike", ["strike", "s"]),
    ("underline2", ["underline2", "uu"]),
    ("frame", ["frame"]),
    ("encircle", ["encircle"]),
    ("overline", ["overline", "o"]) ]

/-- The attribute that a word stands for. -/
def attributeOf? (word : String) : Option String :=
  (attributeWords.find? fun (_, words) => words.contains word).map Prod.fst

/-- The words of a style name, in lower case. -/
def styleWords (cs : List Char) : List String :=
  ((words (Text.lower cs)).map fun word => String.ofList (Text.trim word))

/-- The name by which a style is matched: a style of attributes alone is known by its
attributes in a fixed order, any other one by its name in lower case. -/
def styleName (cs : List Char) : String :=
  let named := (styleWords cs).map attributeOf?
  if !named.isEmpty && named.all Option.isSome then
    String.intercalate " " ((attributeWords.map Prod.fst).filter fun name =>
      named.contains (some name))
  else String.ofList (Text.lower (Text.trim cs))

/-! ## Plain text -/

/-- A text in which brackets lose the backslash before them. -/
def unescape : List Char → List Char
  | '\\' :: '[' :: rest => '[' :: unescape rest
  | c :: rest => c :: unescape rest
  | [] => []

/-- Close a style: the innermost open style of the name is no longer open. `opened` holds
the open styles, the innermost one first. -/
def close? (name : String) (opened : List String) : Option (List String) :=
  if opened.contains name then some (opened.erase name) else none

/-- The name of a tag, without what may follow an equals sign. -/
def tagName (body : List Char) : List Char := body.takeWhile (· != '=')

/-- The styles that are open behind a tag. -/
def afterTag (opened : List String) (body : List Char) (position : Nat) :
    Except Fault (List String) :=
  match tagName body with
  | '/' :: closing =>
      let name := Text.trim closing
      if name.isEmpty then
        match opened with
        | [] => .error (.nothingOpen position)
        | _ :: outer => .ok outer
      else
        match close? (styleName name) opened with
        | some outer => .ok outer
        | none => .error (.unmatched (String.ofList ('[' :: body ++ [']'])) position)
  | name => .ok (styleName name :: opened)

/-- The text of pieces, where the styles of `opened` are open. -/
def textOf (opened : List String) : List Piece → Except Fault (List Char)
  | [] => .ok []
  | .text content :: rest => do return unescape content ++ (← textOf opened rest)
  | .tag body position :: rest => do textOf (← afterTag opened body position) rest

/-- The text that a message shows. A message without brackets shows itself. -/
def plain (cs : List Char) : Except Fault (List Char) :=
  if cs.contains '[' then (textOf [] (pieces cs)).map clean else .ok (clean cs)

/-! ## Escaping -/

/-- Put a backslash before every tag, and double those before it. -/
def escapeUpTo : Nat → Bool → List Char → List Char
  | 0, _, cs => cs
  | _ + 1, _, [] => []
  | fuel + 1, passing, c :: rest =>
      match if passing && c == '\\' then none else tagAt? (c :: rest) with
      | some (slashes, body, after) =>
          List.replicate (2 * slashes + 1) '\\' ++ '[' :: body ++ ']' ::
            escapeUpTo fuel false after
      | none => c :: escapeUpTo fuel (c == '\\') rest

/-- A text as a message that shows it. A single backslash at the end is doubled. -/
def escape (cs : List Char) : List Char :=
  let escaped := escapeUpTo (cs.length + 1) false cs
  match escaped.reverse with
  | '\\' :: '\\' :: _ => escaped
  | '\\' :: _ => escaped ++ ['\\']
  | _ => escaped

end EnvConcord.Report.Markup
