/-!
# Characters that document formats share

Blanks within a line, and the characters of names without quotes.
-/

namespace EnvConcord.Document

/-- Whether a character is a blank within a line. -/
def isInlineBlank (c : Char) : Bool := c == ' ' || c == '\t'

/-- Whether a character may stand in a name without quotes. -/
def isBareChar (c : Char) : Bool := c.isAlphanum || c == '-' || c == '_'

end EnvConcord.Document
