import EnvConcord.Pattern.Regex.Reader
import EnvConcord.Text.CharacterName

/-!
# Escapes in patterns

An escape names a character, a class, an anchor, or a group.  Inside a set there
are no anchors and no groups, and `\b` is the backspace.
-/

namespace EnvConcord.Pattern.Regex

/-- What an escape stands for. -/
inductive Escaped
  | code (value : Nat)
  | ofClass (kind : CharClass) (negated : Bool)
  | anchor (a : Anchor)
  | group (index : Nat)
  deriving DecidableEq, Repr

/-- The control characters with a letter of their own. -/
def controlEscape? : Char → Option Nat
  | 'a' => some 7
  | 'b' => some 8
  | 'f' => some 12
  | 'n' => some 10
  | 'r' => some 13
  | 't' => some 9
  | 'v' => some 11
  | '\\' => some 92
  | _ => none

/-- The classes of characters by letter. -/
def classEscape? : Char → Option (CharClass × Bool)
  | 'd' => some (.digit, false)
  | 'D' => some (.digit, true)
  | 's' => some (.blank, false)
  | 'S' => some (.blank, true)
  | 'w' => some (.word, false)
  | 'W' => some (.word, true)
  | _ => none

/-- The anchors by letter. -/
def anchorEscape? (ascii : Bool) : Char → Option Anchor
  | 'A' => some .start
  | 'b' => some (.wordBorder false ascii)
  | 'B' => some (.wordBorder true ascii)
  | 'Z' => some .finish
  | _ => none

/-- Whether a character is an octal digit. -/
def isOctal (c : Char) : Bool := '0' ≤ c && c ≤ '7'

/-- The value of octal digits. -/
def octalValue (cs : List Char) : Nat := cs.foldl (fun total c => 8 * total + (c.toNat - 48)) 0

/-- The value of hexadecimal digits. -/
def hexNumber (cs : List Char) : Nat :=
  cs.foldl (fun total c => 16 * total + (Text.hexValue? c).getD 0) 0

/-- Read the digits of a hexadecimal escape of fixed width. -/
def hexEscape (letter : Char) (width : Nat) : Reader Escaped := do
  let digits ← Reader.takeWhile (fun c => (Text.hexValue? c).isSome) width
  let written := '\\' :: letter :: digits
  if digits.length ≠ width then
    Reader.fail (.incompleteEscape (String.ofList written)) written.length
  else if 0x10FFFF < hexNumber digits then
    Reader.fail (.badEscape (String.ofList written)) written.length
  else return .code (hexNumber digits)

/-- Read a character by name. -/
def namedEscape : Reader Escaped := do
  if ← Reader.accept '{' then
    let fuel := (← get).cursor.rest.length + 2
    let name ← Reader.takeUntil '}' "character name" fuel []
    match Text.namedCode? name with
    | some code => return .code code
    | none => Reader.fail (.unknownCharacter (String.ofList name)) (name.length + 4)
  else Reader.fail .missingBrace 0

/-- Read up to two more octal digits behind a first one. -/
def octalEscape (first : Char) : Reader Escaped := do
  let more ← Reader.takeWhile isOctal 2
  let digits := first :: more
  if 0xFF < octalValue digits then
    Reader.fail (.octalTooLarge (String.ofList ('\\' :: digits))) (digits.length + 1)
  else return .code (octalValue digits)

/-- Any other character stands for itself unless it is a letter or digit. -/
def plainEscape (c : Char) : Reader Escaped :=
  if c.isAlphanum then Reader.fail (.badEscape (String.ofList ['\\', c])) 2
  else return .code c.toNat

/-- The escapes that are the same inside and outside of sets. -/
def sharedEscape? (c : Char) : Option (Reader Escaped) :=
  match c with
  | 'x' => some (hexEscape 'x' 2)
  | 'u' => some (hexEscape 'u' 4)
  | 'U' => some (hexEscape 'U' 8)
  | 'N' => some namedEscape
  | _ => none

/-- Read the rest of an escape inside a set. -/
def readSetEscape (c : Char) : Reader Escaped :=
  match controlEscape? c, classEscape? c, sharedEscape? c with
  | some code, _, _ => return .code code
  | _, some (kind, negated), _ => return .ofClass kind negated
  | _, _, some reader => reader
  | none, none, none => if isOctal c then octalEscape c else plainEscape c

/-- Whether a group has been closed, so that it can be referred to. -/
def isClosed (state : Progress) (index : Nat) : Bool :=
  match index with
  | 0 => false
  | i + 1 => (state.groups.getD i none).isSome

/-- Refuse a reference to a group that a lookbehind cannot know. -/
def checkLookbehind (index : Nat) : Reader Unit := do
  let state ← get
  match state.lookbehind with
  | none => return ()
  | some known =>
      if !isClosed state index then Reader.fail .openGroup 0
      else if known ≤ index then Reader.fail .sameLookbehind 0
      else return ()

/-- Refer to a group by the number behind a backslash. -/
def groupEscape (digits : List Char) : Reader Escaped := do
  let index := Text.digitsValue digits
  let state ← get
  if index ≤ state.groups.length then
    if !isClosed state index then Reader.fail .openGroup (digits.length + 1)
    else
      checkLookbehind index
      return .group index
  else Reader.fail (.noSuchGroup index) digits.length

/-- Read an escape that begins with a digit other than zero: three octal digits are a
character, anything else is a group. -/
def digitEscape (first : Char) : Reader Escaped := do
  let more ← Reader.takeWhile Char.isDigit 1
  match more with
  | [second] =>
      let third ←
        if isOctal first && isOctal second then Reader.takeWhile isOctal 1 else pure []
      match third with
      | [third] =>
          let digits := [first, second, third]
          if 0xFF < octalValue digits then
            Reader.fail (.octalTooLarge (String.ofList ('\\' :: digits))) 4
          else return .code (octalValue digits)
      | _ => groupEscape [first, second]
  | _ => groupEscape [first]

/-- Read the rest of an escape outside of sets. -/
def readEscape (ascii : Bool) (c : Char) : Reader Escaped :=
  match classEscape? c, anchorEscape? ascii c, controlEscape? c, sharedEscape? c with
  | some (kind, negated), _, _, _ => return .ofClass kind negated
  | _, some a, _, _ => return .anchor a
  | _, _, some code, _ => return .code code
  | _, _, _, some reader => reader
  | none, none, none, none =>
      if c == '0' then do
        let more ← Reader.takeWhile isOctal 2
        return .code (octalValue more)
      else if c.isDigit then digitEscape c
      else plainEscape c

end EnvConcord.Pattern.Regex
