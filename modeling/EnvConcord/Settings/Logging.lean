import EnvConcord.Document.Plain
import EnvConcord.Settings.Basic
import EnvConcord.Text.Letters
import EnvConcord.Text.Quoted
import EnvConcord.Text.SameLetter
import EnvConcord.Text.UpperCase

/-!
# Usable log settings

Log settings are taken over from documents as they are.  Before anything can be logged by
them, the level has to name one of the known levels and the format has to hold a field.
-/

namespace EnvConcord.LogSettings

open Document

/-- Why log settings cannot be used. -/
inductive Fault
  /-- The level is a value of a kind without capitals. -/
  | levelKind (kind : String)
  /-- The level has capitals but is no text. -/
  | noLevel (shown : String)
  /-- The format is no text but a value of another kind. -/
  | formatKind (kind : String)
  /-- The format is a string of octets. -/
  | formatOctets
  /-- No field stands in the format. -/
  | noField (format : String)
  | unknownLevel (level : String)
  deriving DecidableEq, Repr

/-- The text of a fault. -/
def Fault.message : Fault → String
  | .levelKind kind => "'" ++ kind ++ "' object has no attribute 'upper'"
  | .noLevel shown => "Level not an integer or a valid string: " ++ shown
  | .formatKind kind => "expected string or bytes-like object, got '" ++ kind ++ "'"
  | .formatOctets => "cannot use a string pattern on a bytes-like object"
  | .noField format => "Invalid format '" ++ format ++ "' for '%' style"
  | .unknownLevel level => "Unknown level: " ++ Text.quoted level

/-- The names of levels. -/
def levelNames : List String :=
  ["CRITICAL", "FATAL", "ERROR", "WARN", "WARNING", "INFO", "DEBUG", "NOTSET"]

/-! ## Fields of a format -/

/-- Whether a letter ends a field, in either case. -/
def endsField (c : Char) : Bool :=
  (Text.sameLetters (Text.lowerCode c.toNat)).any fun code =>
    ("diouxefgcrsa%".toList.map Char.toNat).contains code

/-- Pass the width of a field, or a star that stands for it. -/
def skipWidth : List Char → List Char
  | '*' :: rest => rest
  | cs => cs.dropWhile Text.isDigit

/-- Whether a text goes on with the flags, the width, the precision and the letter of a
field. -/
def hasConversion (cs : List Char) : Bool :=
  match skipWidth (cs.dropWhile "#0+ -".toList.contains) with
  | '.' :: rest =>
      let after := skipWidth rest
      after.length < rest.length && (after.head?.any endsField)
  | rest => rest.head?.any endsField

/-- Whether a text starts with a field. -/
def startsWithField : List Char → Bool
  | '%' :: '(' :: rest =>
      let name := rest.takeWhile Text.isWordChar
      match rest.dropWhile Text.isWordChar with
      | ')' :: after => !name.isEmpty && hasConversion after
      | _ => false
  | _ => false

/-- Whether a field stands anywhere in a text. -/
def hasField : List Char → Bool
  | [] => false
  | c :: rest => startsWithField (c :: rest) || hasField rest

/-! ## Checks -/

/-- Check a format. An absent one stands for the message alone. -/
def checkFormat (format : Value) : Except Fault Unit :=
  if format.isEmptyLike then .ok ()
  else
    match format with
    | .text s => if hasField s.toList then .ok () else .error (.noField s)
    | .octets _ => .error .formatOctets
    | value => .error (.formatKind value.fullKindName)

/-- An octet in capitals. -/
def upperOctet (octet : Nat) : Nat := if 97 ≤ octet && octet ≤ 122 then octet - 32 else octet

/-- The level in capitals. -/
def upperLevel (level : Value) : Except Fault Value :=
  match level with
  | .text s => .ok (.text (Text.uppered s))
  | .octets data => .ok (.octets (data.map upperOctet))
  | value => .error (.levelKind value.fullKindName)

/-- Check a level in capitals, which has to be the name of one. -/
def checkLevel : Value → Except Fault Unit
  | .text name => if levelNames.contains name then .ok () else .error (.unknownLevel name)
  | value => .error (.noLevel value.plain)

/-- Check log settings; a verbose run has a level of its own. -/
def check (s : LogSettings) (verbose : Bool) : Except Fault Unit := do
  let level ← if verbose then pure (.text "DEBUG") else upperLevel s.level
  checkFormat s.format
  checkLevel level

end EnvConcord.LogSettings
