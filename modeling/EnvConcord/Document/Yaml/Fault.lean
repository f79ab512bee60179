import EnvConcord.Document.Moment
import EnvConcord.Number.Numeral
import EnvConcord.Text.Quoted

/-!
# What can be wrong with a YAML text

Most faults concern the form of the text.  The others concern scalars that are
marked or written as something that they do not denote.
-/

namespace EnvConcord.Document.Yaml

/-- What is wrong with a text. -/
inductive Fault
  /-- The text does not have the form of a document. -/
  | malformed
  /-- A part has a tag without meaning here, or one that does not suit the part. -/
  | untaggable
  | moment (cause : MomentFault)
  | tooManyDigits (cause : TooManyDigits)
  | noInteger (base : Nat) (text : String)
  | noFloat (text : String)
  | noFlag (text : String)
  | noMoment
  | emptyNumber
  /-- A number of so many parts of sixty that no double holds the value of the first one. -/
  | baseTooLarge
  /-- An escape beyond the last code point. -/
  | noCharacter
  /-- An escape beyond all code points by far. -/
  | characterTooLarge
  /-- A mapping whose own value is the mapping itself. -/
  | endless
  /-- A mapping in place of a moment. -/
  | momentInMapping
  deriving DecidableEq, Repr

/-- The text of a fault. -/
def Fault.message : Fault → String
  | .malformed => "malformed document"
  | .untaggable => "could not determine a constructor"
  | .moment cause => cause.message
  | .tooManyDigits cause => cause.message
  | .noInteger base text =>
      "invalid literal for int() with base " ++ toString base ++ ": " ++ Text.quoted text
  | .noFloat text => "could not convert string to float: " ++ Text.quoted text
  | .noFlag text => Text.quoted text
  | .noMoment => "'NoneType' object has no attribute 'groupdict'"
  | .emptyNumber => "string index out of range"
  | .baseTooLarge => "int too large to convert to float"
  | .noCharacter => "chr() arg not in range(0x110000)"
  | .characterTooLarge => "Python int too large to convert to C int"
  | .endless => "maximum recursion depth exceeded"
  | .momentInMapping => "expected string or bytes-like object, got 'list'"

/-- Whether a fault is one of form, which readers of files report with the path. -/
def Fault.isFormal : Fault → Bool
  | .malformed => true
  | .untaggable => true
  | _ => false

end EnvConcord.Document.Yaml
