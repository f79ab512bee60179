import EnvConcord.Number.Numeral
import EnvConcord.Text.Quoted

/-!
# Faults of regular expressions

A pattern is refused with a cause and, for most causes, the place in the pattern.
-/

namespace EnvConcord.Pattern.Regex

/-- Why a pattern is no regular expression. -/
inductive Cause
  | escapeAtEnd
  | incompleteEscape (text : String)
  | badEscape (text : String)
  | missingBrace
  | unknownCharacter (name : String)
  | octalTooLarge (text : String)
  | openGroup
  | sameLookbehind
  | noSuchGroup (index : Nat)
  | unterminatedSet
  | badRange (first last : String)
  | minAboveMax
  | nothingToRepeat
  | multipleRepeat
  | unexpectedEnd
  | missingName (what : String)
  | unterminatedName (terminator : String)
  | badGroupName (name : String)
  | unknownGroup (name : String)
  | unknownExtension (text : String)
  | unterminatedComment
  | unterminatedGroup
  | thirdBranch
  | badGroupNumber
  | lateFlags
  | repeatedName (name : String) (index earlier : Nat)
  | localeFlag
  | alphabetConflict
  | globalFlagOn
  | globalFlagOff
  | unknownFlag
  | missingFlag
  | missingFlagEnd
  | missingColon
  | alphabetOff
  | flagOnAndOff
  | unbalanced
  | variableLookbehind
  | longLookbehind
  deriving DecidableEq, Repr

/-- The text of a cause. -/
def Cause.message : Cause → String
  | .escapeAtEnd => "bad escape (end of pattern)"
  | .incompleteEscape text => "incomplete escape " ++ text
  | .badEscape text => "bad escape " ++ text
  | .missingBrace => "missing \x7b"
  | .unknownCharacter name => "undefined character name " ++ Text.quoted name
  | .octalTooLarge text => "octal escape value " ++ text ++ " outside of range 0-0o377"
  | .openGroup => "cannot refer to an open group"
  | .sameLookbehind => "cannot refer to group defined in the same lookbehind subpattern"
  | .noSuchGroup index => "invalid group reference " ++ toString index
  | .unterminatedSet => "unterminated character set"
  | .badRange first last => "bad character range " ++ first ++ "-" ++ last
  | .minAboveMax => "min repeat greater than max repeat"
  | .nothingToRepeat => "nothing to repeat"
  | .multipleRepeat => "multiple repeat"
  | .unexpectedEnd => "unexpected end of pattern"
  | .missingName what => "missing " ++ what
  | .unterminatedName terminator => "missing " ++ terminator ++ ", unterminated name"
  | .badGroupName name => "bad character in group name " ++ Text.quoted name
  | .unknownGroup name => "unknown group name " ++ Text.quoted name
  | .unknownExtension text => "unknown extension " ++ text
  | .unterminatedComment => "missing ), unterminated comment"
  | .unterminatedGroup => "missing ), unterminated subpattern"
  | .thirdBranch => "conditional backref with more than two branches"
  | .badGroupNumber => "bad group number"
  | .lateFlags => "global flags not at the start of the expression"
  | .repeatedName name index earlier =>
      "redefinition of group name " ++ Text.quoted name ++ " as group " ++ toString index ++
        "; was group " ++ toString earlier
  | .localeFlag => "bad inline flags: cannot use 'L' flag with a str pattern"
  | .alphabetConflict => "bad inline flags: flags 'a', 'u' and 'L' are incompatible"
  | .globalFlagOn => "bad inline flags: cannot turn on global flag"
  | .globalFlagOff => "bad inline flags: cannot turn off global flag"
  | .unknownFlag => "unknown flag"
  | .missingFlag => "missing flag"
  | .missingFlagEnd => "missing -, : or )"
  | .missingColon => "missing :"
  | .alphabetOff => "bad inline flags: cannot turn off flags 'a', 'u' and 'L'"
  | .flagOnAndOff => "bad inline flags: flag turned on and off"
  | .unbalanced => "unbalanced parenthesis"
  | .variableLookbehind => "look-behind requires fixed-width pattern"
  | .longLookbehind => "looks too much behind"

/-- A refusal of a pattern. -/
inductive Fault
  | at (cause : Cause) (position : Nat)
  /-- A cause that concerns the whole pattern. -/
  | general (cause : Cause)
  /-- Flags that exclude each other, given one by one. -/
  | alphabets
  | tooManyDigits (cause : TooManyDigits)
  /-- A number of repetitions beyond all bounds. -/
  | repetitionTooLarge
  deriving DecidableEq, Repr

/-- The text of a refusal. In a pattern of several lines the line and column of the
place follow. -/
def Fault.message (pattern : List Char) : Fault → String
  | .at cause position =>
      let base := cause.message ++ " at position " ++ toString position
      if pattern.contains '\n' then
        let before := pattern.take position
        let line := before.count '\n' + 1
        let column := (before.reverse.takeWhile (· != '\n')).length + 1
        base ++ " (line " ++ toString line ++ ", column " ++ toString column ++ ")"
      else base
  | .general cause => cause.message
  | .alphabets => "ASCII and UNICODE flags are incompatible"
  | .tooManyDigits cause => cause.message
  | .repetitionTooLarge => "the repetition number is too large"

end EnvConcord.Pattern.Regex
