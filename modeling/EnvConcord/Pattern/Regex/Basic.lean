import EnvConcord.Text.Blank
import EnvConcord.Text.Digits
import EnvConcord.Text.Letters
import EnvConcord.Text.SameLetter

/-!
# Regular expressions

An expression is built from tests of one character, anchors, sequences, choices,
groups, references, loops and assertions.  All flags have been resolved into the
tests and anchors that they affect.
-/

namespace EnvConcord.Pattern

/-- The classes of characters that have a letter of their own. -/
inductive CharClass
  | digit
  | blank
  | word
  deriving DecidableEq, Repr

/-- A part of a character set. -/
inductive SetItem
  | single (code : Nat)
  | range (low high : Nat)
  | ofClass (kind : CharClass) (negated : Bool)
  deriving DecidableEq, Repr

/-- Whether letters that differ in case only are told apart. -/
inductive CaseRule
  | exact
  /-- ASCII letters match in either case. -/
  | ascii
  /-- Letters of all scripts match in either case. -/
  | anyScript
  deriving DecidableEq, Repr

/-- A test of one character. -/
structure CharTest where
  items : List SetItem
  negated : Bool := false
  rule : CaseRule := .exact
  /-- Whether the classes hold ASCII characters only. -/
  asciiClasses : Bool := false
  deriving DecidableEq, Repr

/-- A condition on a place between two characters. -/
inductive Anchor
  | start
  | lineStart
  | finish
  /-- The end, or before a line break that ends the text. -/
  | lastLineEnd
  | lineEnd
  | wordBorder (negated ascii : Bool)
  deriving DecidableEq, Repr

/-- How many rounds of a loop are tried first, and whether fewer or more are tried
after a failure. -/
inductive LoopMode
  | greedy
  | lazy
  | possessive
  deriving DecidableEq, Repr

/-- A regular expression. -/
inductive Regex
  | empty
  | char (test : CharTest)
  | anyChar (lineBreaks : Bool)
  | anchor (a : Anchor)
  | seq (first second : Regex)
  | choice (first second : Regex)
  | capture (index : Nat) (body : Regex)
  | backref (index : Nat) (rule : CaseRule)
  | conditional (index : Nat) (yes no : Regex)
  /-- Looks ahead, or back over a fixed number of characters. -/
  | look (back : Option Nat) (negated : Bool) (body : Regex)
  | atomic (body : Regex)
  | loop (mode : LoopMode) (min : Nat) (max : Option Nat) (body : Regex)
  deriving DecidableEq, Repr, Inhabited

/-- Whether a character belongs to a class. -/
def CharClass.holds (kind : CharClass) (ascii : Bool) (c : Char) : Bool :=
  match kind with
  | .digit => if ascii then c.isDigit else Text.isDigit c
  | .blank =>
      if ascii then c == ' ' || (9 ≤ c.toNat && c.toNat ≤ 13) else Text.isBlank c
  | .word =>
      if ascii then c.isAlphanum || c == '_' else Text.isWordChar c

/-- The small letter of a code point under a rule. -/
def CaseRule.lower (rule : CaseRule) (code : Nat) : Nat :=
  match rule with
  | .exact => code
  | .ascii => Text.lowerAscii code
  | .anyScript => Text.lowerCode code

/-- Whether a code of a set covers a code that has been lowered. -/
def CaseRule.covers (rule : CaseRule) (item lowered : Nat) : Bool :=
  match rule with
  | .anyScript => (Text.sameLetters (rule.lower item)).contains lowered
  | rule => rule.lower item == lowered

/-- Whether some code of a range covers a code that has been lowered. -/
def CaseRule.coversRange (rule : CaseRule) (low high lowered : Nat) : Bool :=
  match rule with
  | .exact => low ≤ lowered && lowered ≤ high
  | rule => (List.range (high + 1 - low)).any fun offset => rule.covers (low + offset) lowered

/-- Whether a character passes a test. -/
def CharTest.holds (test : CharTest) (c : Char) : Bool :=
  let lowered := test.rule.lower c.toNat
  let found := test.items.any fun item =>
    match item with
    | .single code => test.rule.covers code lowered
    | .range low high => test.rule.coversRange low high lowered
    | .ofClass kind negated =>
        kind.holds test.asciiClasses (Char.ofNat lowered) != negated
  found != test.negated

end EnvConcord.Pattern
