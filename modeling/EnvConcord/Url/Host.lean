import EnvConcord.Text.LowerCase
import EnvConcord.Text.Lines
import EnvConcord.Text.Utf8
import EnvConcord.Url.DomainTable
import EnvConcord.Url.Joining
import EnvConcord.Url.Punycode

/-!
# Hosts

The host of a URL is an address in brackets, a dotted address of numbers, or a
domain name.  A host of an unknown scheme is any text without delimiters.
-/

namespace EnvConcord.Url

/-! ## Addresses of numbers -/

/-- A part of a dotted address: a decimal, octal or hexadecimal number. A number that does
not fit into thirty-two bits counts as a number all the same. -/
def addressNumber? (cs : List Char) : Option Nat :=
  let value (base : Nat) (digit : Char → Bool) (cs : List Char) : Option Nat :=
    if cs.all digit then
      some (cs.foldl (fun total c => base * total + (Text.hexValue? c).getD 0) 0)
    else none
  match cs with
  | [] => none
  | '0' :: 'x' :: rest => value 16 (fun c => (Text.hexValue? c).isSome) rest
  | '0' :: 'X' :: rest => value 16 (fun c => (Text.hexValue? c).isSome) rest
  | '0' :: c :: rest => value 8 (fun c => '0' ≤ c && c ≤ '7') (c :: rest)
  | cs => value 10 Char.isDigit cs

/-- The parts of a dotted name, without an empty last one. -/
def dottedParts (cs : List Char) : List (List Char) :=
  let parts := Text.splitAt '.' cs
  if parts.getLastD [] == [] then parts.dropLast else parts

/-- Whether the last part of a dotted name is a number, so that the whole name has to be
an address. -/
def endsInNumber (cs : List Char) : Bool :=
  match (dottedParts cs).getLast? with
  | none => false
  | some last => (!last.isEmpty && last.all Char.isDigit) || (addressNumber? last).isSome

/-- Whether a dotted name is an address: at most four numbers, all but the last of one
octet, the last filling the octets that are left. -/
def isDottedAddress (cs : List Char) : Bool :=
  let parts := dottedParts cs
  match parts.mapM addressNumber? with
  | none => false
  | some numbers =>
      numbers.length ≤ 4 && numbers.dropLast.all (· ≤ 255) &&
        numbers.getLastD 0 < Nat.pow 256 (5 - numbers.length)

/-! ## Addresses in brackets -/

/-- Whether a text is four decimal octets without leading zeros. -/
def isPlainAddress (cs : List Char) : Bool :=
  let parts := Text.splitAt '.' cs
  parts.length == 4 && parts.all fun part =>
    !part.isEmpty && part.all Char.isDigit && (part.length == 1 || part.head? != some '0') &&
      part.length ≤ 3 && Text.digitsValue part ≤ 255

/-- Whether pieces follow that complete an address; `count` pieces are known, and
`compressed` says whether zeros were left out. -/
def piecesFollow : Nat → Nat → Bool → List Char → Bool
  | 0, _, _, _ => false
  | fuel + 1, count, compressed, cs =>
      if cs.isEmpty then compressed || count == 8
      else if count == 8 then false
      else
        match cs with
        | ':' :: rest => !compressed && piecesFollow fuel (count + 1) true rest
        | cs =>
            let digits := (cs.take 4).takeWhile fun c => (Text.hexValue? c).isSome
            match cs.drop digits.length with
            | [] => piecesFollow fuel (count + 1) compressed []
            | '.' :: _ =>
                !digits.isEmpty && count ≤ 6 && isPlainAddress cs &&
                  (compressed || count == 6)
            | ':' :: rest => !rest.isEmpty && piecesFollow fuel (count + 1) compressed rest
            | _ => false

/-- Whether a text is an address of eight pieces. -/
def isPieceAddress (cs : List Char) : Bool :=
  match cs with
  | ':' :: ':' :: rest => piecesFollow (cs.length + 2) 1 true rest
  | ':' :: _ => false
  | _ :: _ :: _ => piecesFollow (cs.length + 2) 0 false cs
  | _ => false

/-- Whether a text in brackets is an address. -/
def isBracketed (cs : List Char) : Bool :=
  match cs with
  | '[' :: rest => rest.getLast? == some ']' && isPieceAddress rest.dropLast
  | _ => false

/-! ## Domain names -/

/-- Whether an ASCII character is refused in a domain name. -/
def isRefusedAscii (c : Char) : Bool :=
  c.toNat ≤ 32 || c.toNat == 127 || "#/:<>?@[\\]^|%".toList.contains c

/-- What replaces a character of a domain name; nothing if the character is refused. -/
def mapDomainChar (c : Char) : Option (List Char) :=
  let code := c.toNat
  if code < 128 then if isRefusedAscii c then none else some [c.toLower]
  else if refusedRanges.holds code then none
  else if ignoredRanges.holds code then some []
  else
    match asciiRuns.find? fun run => run.1 ≤ code && code ≤ run.2.1 with
    | some (first, _, ascii) => some [Char.ofNat (ascii + (code - first))]
    | none =>
        match asciiForms.lookup code with
        | some form => some form.toList
        | none => some (Text.lower [c])

/-- Whether a character may stand in a label that was given in ASCII form. -/
def isKept (c : Char) : Bool :=
  let code := c.toNat
  if code < 128 then !isRefusedAscii c && !c.isUpper
  else !refusedRanges.holds code && !ignoredRanges.holds code && !replacedRanges.holds code

/-- The label that a part of a domain name stands for: one in ASCII form is decoded. -/
def labelOf? (part : List Char) : Option (List Char) :=
  match part with
  | 'x' :: 'n' :: '-' :: '-' :: form =>
      if part.all (fun c => c.toNat < 128) then
        (Punycode.decode form).filter fun label =>
          label.any (fun c => 128 ≤ c.toNat) && label.all isKept && isComposed none 0 label
      else none
  | part => some part

/-- Whether a label may stand in a domain name. -/
def isLabel (label : List Char) : Bool :=
  !(label.head?.any fun c => markRanges.holds c.toNat) && areJoinersInPlace [] label

/-- A domain name with its characters replaced, if all of them are allowed. -/
def mapDomain? (cs : List Char) : Option (List Char) := (cs.mapM mapDomainChar).map List.flatten

/-- Undo percent escapes. -/
def percentDecode : List Nat → List Nat
  | 37 :: a :: b :: rest =>
      match Text.hexValue? (Char.ofNat a), Text.hexValue? (Char.ofNat b) with
      | some x, some y => (16 * x + y) :: percentDecode rest
      | _, _ => 37 :: percentDecode (a :: b :: rest)
  | octet :: rest => octet :: percentDecode rest
  | [] => []

/-- Whether a text is a domain name or a dotted address. -/
def isDomain (cs : List Char) : Bool :=
  match Text.Utf8.decode (percentDecode (Text.Utf8.encode (String.ofList cs))) with
  | .error _ => false
  | .ok decoded =>
      match mapDomain? decoded with
      | none => false
      | some domain =>
          match (Text.splitAt '.' domain).mapM labelOf? with
          | none => false
          | some labels =>
              !domain.isEmpty && labels.all isLabel &&
                (!needDirection labels || labels.all isDirected) &&
                (!endsInNumber domain || isDottedAddress domain)

/-- Whether a text is a host of a known scheme. -/
def isHost (cs : List Char) : Bool :=
  if cs.head? == some '[' then isBracketed cs else isDomain cs

/-- Whether a text is a host of an unknown scheme; it may be empty. -/
def isOpaqueHost (cs : List Char) : Bool :=
  if cs.head? == some '[' then isBracketed cs
  else
    cs.all fun c =>
      c.toNat != 0 && c.toNat != 9 && c.toNat != 10 && c.toNat != 13 &&
        !" #/:<>?@[\\]^|".toList.contains c

end EnvConcord.Url
