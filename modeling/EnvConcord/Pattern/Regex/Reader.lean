import EnvConcord.Pattern.Regex.Basic
import EnvConcord.Pattern.Regex.Fault

/-!
# Reading patterns token by token

A token is one character, or a backslash with the character behind it.  One token
is always read ahead, so a backslash at the very end is noticed as soon as the
token before it is taken.
-/

namespace EnvConcord.Pattern.Regex

/-- The flags of an expression. -/
structure Flags where
  ignoreCase : Bool := false
  multiline : Bool := false
  dotAll : Bool := false
  verbose : Bool := false
  ascii : Bool := false
  unicode : Bool := false
  template : Bool := false
  deriving DecidableEq, Repr, Inhabited

namespace Flags

/-- Combine two sets of flags, flag by flag. -/
def zipWith (f : Bool → Bool → Bool) (a b : Flags) : Flags where
  ignoreCase := f a.ignoreCase b.ignoreCase
  multiline := f a.multiline b.multiline
  dotAll := f a.dotAll b.dotAll
  verbose := f a.verbose b.verbose
  ascii := f a.ascii b.ascii
  unicode := f a.unicode b.unicode
  template := f a.template b.template

/-- The flags of either set. -/
def union (a b : Flags) : Flags := zipWith or a b

/-- Whether some flag is in both sets. -/
def meets (a b : Flags) : Bool := zipWith and a b != {}

/-- The flag of a letter. -/
def ofLetter? : List Char → Option Flags
  | ['i'] => some { ignoreCase := true }
  | ['L'] => some {}
  | ['m'] => some { multiline := true }
  | ['s'] => some { dotAll := true }
  | ['x'] => some { verbose := true }
  | ['a'] => some { ascii := true }
  | ['t'] => some { template := true }
  | ['u'] => some { unicode := true }
  | _ => none

/-- Turn flags on and off for a group; naming an alphabet replaces the one before. -/
def within (base on off : Flags) : Flags :=
  let base :=
    if on.ascii || on.unicode then { base with ascii := false, unicode := false } else base
  zipWith (fun flag gone => flag && !gone) (base.union on) off

/-- How letters are compared. -/
def caseRule (flags : Flags) : CaseRule :=
  if !flags.ignoreCase then .exact else if flags.ascii then .ascii else .anyScript

end Flags

/-- A place in a pattern with the token read ahead; at the end there is none. -/
structure Cursor where
  position : Nat
  head : List Char
  rest : List Char
  deriving DecidableEq, Repr

/-- Read a token ahead. -/
def Cursor.load (position : Nat) : List Char → Except Fault Cursor
  | [] => .ok ⟨position, [], []⟩
  | ['\\'] => .error (.at .escapeAtEnd position)
  | '\\' :: c :: rest => .ok ⟨position, ['\\', c], rest⟩
  | c :: rest => .ok ⟨position, [c], rest⟩

/-- The least and greatest number of characters that an expression matches. -/
structure Width where
  low : Nat
  high : Nat
  deriving DecidableEq, Repr

namespace Width

/-- Widths are not told apart beyond this bound. -/
def bound : Nat := Nat.pow 2 64

/-- A width within the bound. -/
def capped (w : Width) : Width := ⟨min w.low bound, min w.high bound⟩

/-- The width of two expressions one after the other. -/
def plus (a b : Width) : Width := ⟨a.low + b.low, a.high + b.high⟩

/-- The width of a choice. -/
def either (a b : Width) : Width := ⟨min a.low b.low, max a.high b.high⟩

/-- The width of a loop. -/
def times (w : Width) (least : Nat) (most : Option Nat) : Width where
  low := w.low * least
  high :=
    match most with
    | some count => w.high * count
    | none => if w.high = 0 then 0 else bound

end Width

/-- What is known while a pattern is read. -/
structure Progress where
  cursor : Cursor
  /-- The flags of the whole pattern. -/
  flags : Flags := {}
  /-- The groups opened so far with their widths once they are closed. -/
  groups : List (Option Width) := []
  names : List (String × Nat) := []
  /-- Inside a lookbehind: the number of groups opened before it, plus one. -/
  lookbehind : Option Nat := none
  /-- The groups that conditions refer to, with the places of the references. -/
  conditions : List (Nat × Nat) := []
  /-- A fault that counts only if the whole pattern can be read. -/
  late : Option Cause := none
  deriving Repr

/-- A reader of a part of a pattern. -/
abbrev Reader := StateT Progress (Except Fault)

namespace Reader

/-- The place of the token read ahead. -/
def position : Reader Nat := do return (← get).cursor.position

/-- The token read ahead. -/
def peek : Reader (List Char) := do return (← get).cursor.head

/-- Take the token read ahead. -/
def take : Reader (List Char) := do
  let state ← get
  let cursor ← Cursor.load (state.cursor.position + state.cursor.head.length) state.cursor.rest
  set { state with cursor }
  return state.cursor.head

/-- Refuse the pattern with a cause, `offset` characters before the current place. -/
def fail (cause : Cause) (offset : Nat) : Reader α := do
  throw (.at cause ((← position) - offset))

/-- Take the next token if it is the given character. -/
def accept (c : Char) : Reader Bool := do
  if (← peek) == [c] then
    let _ ← take
    return true
  else return false

/-- Take at most `count` tokens of one character of a class. -/
def takeWhile (allowed : Char → Bool) : Nat → Reader (List Char)
  | 0 => return []
  | count + 1 => do
      match ← peek with
      | [c] =>
          if allowed c then
            let _ ← take
            return c :: (← takeWhile allowed count)
          else return []
      | _ => return []

/-- The tokens up to a terminator, which is taken too. -/
def takeUntil (terminator : Char) (what : String) : Nat → List Char → Reader (List Char)
  | 0, found => return found
  | fuel + 1, found => do
      let token ← take
      if token.isEmpty then
        if found.isEmpty then fail (.missingName what) 0
        else fail (.unterminatedName (String.singleton terminator)) found.length
      else if token == [terminator] then
        if found.isEmpty then fail (.missingName what) 1 else return found
      else takeUntil terminator what fuel (found ++ token)

end Reader

end EnvConcord.Pattern.Regex
