import EnvConcord.Text.Digits

/-!
# Decoding UTF-8

Octets are decoded from left to right.  A refusal names the first octets that are
no character: an octet that cannot begin one, one that cannot continue one, or the
end of the data inside of one.
-/

namespace EnvConcord.Text.Utf8

/-- Why octets are no character. -/
inductive Cause
  | badStart
  | badContinuation
  | unexpectedEnd
  deriving DecidableEq, Repr

/-- The text of a cause. -/
def Cause.message : Cause → String
  | .badStart => "invalid start byte"
  | .badContinuation => "invalid continuation byte"
  | .unexpectedEnd => "unexpected end of data"

/-- A refusal: the place of the first octet, its value, and how many octets the
refusal concerns. -/
structure Fault where
  cause : Cause
  position : Nat
  octet : Nat
  length : Nat
  deriving DecidableEq, Repr

/-- The text of a refusal. -/
def Fault.message (fault : Fault) : String :=
  let place :=
    if fault.length = 1 then
      "byte 0x" ++ String.ofList (hexDigits 2 fault.octet) ++ " in position " ++
        toString fault.position
    else
      "bytes in position " ++ toString fault.position ++ "-" ++
        toString (fault.position + fault.length - 1)
  "'utf-8' codec can't decode " ++ place ++ ": " ++ fault.cause.message

/-- Whether an octet continues a character. -/
def isContinuation (octet : Nat) : Bool := 0x80 ≤ octet && octet < 0xC0

/-- How many octets a character has by its first one; none if no character begins so. -/
def lengthOf? (octet : Nat) : Option Nat :=
  if octet < 0x80 then some 1
  else if octet < 0xC2 then none
  else if octet < 0xE0 then some 2
  else if octet < 0xF0 then some 3
  else if octet < 0xF5 then some 4
  else none

/-- Whether the second octet fits the first: no overlong forms, no halves of pairs, and
nothing beyond the last code point. -/
def fitsSecond (first second : Nat) : Bool :=
  isContinuation second &&
    (if first == 0xE0 then 0xA0 ≤ second
    else if first == 0xED then second < 0xA0
    else if first == 0xF0 then 0x90 ≤ second
    else if first == 0xF4 then second < 0x90
    else true)

/-- The bits that the first octet of a character of some length contributes. -/
def leadBits (length octet : Nat) : Nat :=
  match length with
  | 1 => octet
  | 2 => octet - 0xC0
  | 3 => octet - 0xE0
  | _ => octet - 0xF0

/-- Read the octets behind the first one. `read` counts the octets read so far; the answer
is the code point, or the cause and the number of octets it concerns. -/
def readTail (first : Nat) (code : Nat) : Nat → Nat → List Nat → Except (Cause × Nat) Nat
  | _, 0, _ => .ok code
  | read, _ + 1, [] => .error (.unexpectedEnd, read)
  | read, missing + 1, octet :: rest =>
      let fits := if read = 1 then fitsSecond first octet else isContinuation octet
      if fits then readTail first (code * 64 + (octet - 0x80)) (read + 1) missing rest
      else .error (.badContinuation, read)

/-- Decode octets, of which `skip` belong to the character before; `position` counts the
octets from the start and `reversed` holds the characters so far. -/
def decodeFrom (reversed : List Char) (position skip : Nat) :
    List Nat → Except Fault (List Char)
  | [] => .ok reversed.reverse
  | octet :: rest =>
      match skip with
      | left + 1 => decodeFrom reversed (position + 1) left rest
      | 0 =>
          match lengthOf? octet with
          | none => .error ⟨.badStart, position, octet, 1⟩
          | some length =>
              match readTail octet (leadBits length octet) 1 (length - 1) rest with
              | .ok code =>
                  decodeFrom (Char.ofNat code :: reversed) (position + 1) (length - 1) rest
              | .error (cause, read) => .error ⟨cause, position, octet, read⟩

/-- Decode octets. -/
def decode (octets : List Nat) : Except Fault (List Char) := decodeFrom [] 0 0 octets

/-- The octets of a text. -/
def encode (s : String) : List Nat := s.toUTF8.toList.map UInt8.toNat

end EnvConcord.Text.Utf8
