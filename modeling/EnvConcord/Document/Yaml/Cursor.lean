/-!
# Places in a YAML text

A cursor is what is left of a text together with the place reached: how many
characters were passed, and on which line and in which column the next one stands.
-/

namespace EnvConcord.Document.Yaml

/-- Whether a character ends a line. -/
def isBreak (c : Char) : Bool :=
  c == '\n' || c == '\r' || c == '\x85' || c == '\u2028' || c == '\u2029'

/-- Whether a line ends here. -/
def atLineEnd : Option Char → Bool
  | none => true
  | some c => isBreak c

/-- Whether a space or the end of a line stands here. -/
def atSpaceOrEnd (c? : Option Char) : Bool := atLineEnd c? || c? == some ' '

/-- Whether a space, a tab or the end of a line stands here. -/
def atBlankOrEnd (c? : Option Char) : Bool := atSpaceOrEnd c? || c? == some '\t'

/-- Whether a character may stand in a text at all. -/
def isAllowed (c : Char) : Bool :=
  let code := c.toNat
  c == '\t' || c == '\n' || c == '\r' || (0x20 ≤ code && code ≤ 0x7e) || code == 0x85 ||
    (0xa0 ≤ code && code ≤ 0xd7ff) || (0xe000 ≤ code && code ≤ 0xfffd) || 0x10000 ≤ code

/-- The mark that may open a text. -/
def byteOrderMark : Char := '\ufeff'

/-- A place in a text. -/
structure Cursor where
  rest : List Char
  index : Nat := 0
  line : Nat := 0
  column : Nat := 0
  deriving Repr, Inhabited

namespace Cursor

/-- The character at the cursor. -/
def peek? (c : Cursor) : Option Char := c.rest.head?

/-- The character `n` places behind the cursor. -/
def peekAt? (c : Cursor) (n : Nat) : Option Char := c.rest[n]?

/-- Whether the text ends here. -/
def atEnd (c : Cursor) : Bool := c.rest.isEmpty

/-- Pass one character. A pair of carriage return and line feed is one line break. -/
def next (c : Cursor) : Cursor :=
  match c.rest with
  | [] => c
  | x :: rest =>
      if isBreak x && !(x == '\r' && rest.head? == some '\n') then
        ⟨rest, c.index + 1, c.line + 1, 0⟩
      else if x == byteOrderMark then ⟨rest, c.index + 1, c.line, c.column⟩
      else ⟨rest, c.index + 1, c.line, c.column + 1⟩

/-- Pass a number of characters. -/
def forward : Nat → Cursor → Cursor
  | 0, c => c
  | n + 1, c => forward n c.next

/-- The characters from the cursor on that meet a condition, and the place behind them. -/
def run (p : Char → Bool) (c : Cursor) : List Char × Cursor :=
  let cs := c.rest.takeWhile p
  (cs, forward cs.length c)

/-- The place behind the spaces at the cursor. -/
def skipSpaces (c : Cursor) : Cursor := (c.run (· == ' ')).2

/-- Pass a line break and tell which character it stands for; only the two separators
keep their own. -/
def takeBreak? (c : Cursor) : Option (Char × Cursor) :=
  match c.rest with
  | '\r' :: '\n' :: _ => some ('\n', forward 2 c)
  | x :: _ =>
      if isBreak x then some (if x == '\u2028' || x == '\u2029' then x else '\n', c.next) else none
  | [] => none

/-- Whether three equal characters followed by a blank stand here. -/
def atMark (mark : Char) (c : Cursor) : Bool :=
  c.rest.take 3 == [mark, mark, mark] && atBlankOrEnd (c.peekAt? 3)

/-- Whether the mark between documents stands here. -/
def atDocumentMark (c : Cursor) : Bool := c.atMark '-' || c.atMark '.'

end Cursor

end EnvConcord.Document.Yaml
