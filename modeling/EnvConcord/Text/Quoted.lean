import EnvConcord.Text.Digits
import EnvConcord.Text.Printable

/-!
# Texts between quotes

A quoted text stands between single quotes, or between double quotes if it holds
single ones only.  Backslashes, the quote in use and whatever is not printable
are escaped.
-/

namespace EnvConcord.Text

/-- The quote chosen for a text. -/
def quoteFor (cs : List Char) : Char :=
  if cs.contains '\'' && !cs.contains '"' then '"' else '\''

/-- A character as it is written between quotes. -/
def quoteChar (quote c : Char) : List Char :=
  if c == quote || c == '\\' then ['\\', c]
  else if c == '\n' then ['\\', 'n']
  else if c == '\r' then ['\\', 'r']
  else if c == '\t' then ['\\', 't']
  else if isPrintable c then [c]
  else
    let code := c.toNat
    if code < 0x100 then '\\' :: 'x' :: hexDigits 2 code
    else if code < 0x10000 then '\\' :: 'u' :: hexDigits 4 code
    else '\\' :: 'U' :: hexDigits 8 code

/-- A text between quotes. -/
def quoted (s : String) : String :=
  let quote := quoteFor s.toList
  String.ofList ((quote :: s.toList.flatMap (quoteChar quote)) ++ [quote])

/-- Octets between quotes, behind the letter `b`. -/
def quotedOctets (data : List Nat) : String :=
  let cs := data.map Char.ofNat
  let quote := quoteFor cs
  let shown := cs.flatMap fun c =>
    if c == quote || c == '\\' then ['\\', c]
    else if c == '\n' then ['\\', 'n']
    else if c == '\r' then ['\\', 'r']
    else if c == '\t' then ['\\', 't']
    else if 32 ≤ c.toNat && c.toNat < 127 then [c]
    else '\\' :: 'x' :: hexDigits 2 c.toNat
  String.ofList (('b' :: quote :: shown) ++ [quote])

end EnvConcord.Text
