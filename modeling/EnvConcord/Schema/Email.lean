import EnvConcord.Text.Blank
import EnvConcord.Text.Lines

/-!
# Addresses of mail

An address is a local part and a domain around its only `@`.  It holds no blanks,
and its domain holds a dot that is neither its first nor its last character.  One
line break may follow.
-/

namespace EnvConcord.Schema

/-- Whether a text holds a dot that is neither its first nor its last character. -/
def hasInnerDot (cs : List Char) : Bool := cs.tail.dropLast.contains '.'

/-- Whether a text is an address. -/
def isBareEmail (cs : List Char) : Bool :=
  cs.all (fun c => !Text.isBlank c) &&
    match Text.splitAt '@' cs with
    | [localPart, domain] => !localPart.isEmpty && hasInnerDot domain
    | _ => false

/-- Whether a text is an address, with or without a line break behind it. -/
def isEmail (cs : List Char) : Bool :=
  if cs.getLast? = some '\n' then isBareEmail cs.dropLast else isBareEmail cs

end EnvConcord.Schema
