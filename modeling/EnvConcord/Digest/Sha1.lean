/-!
# The digest SHA-1

The message is padded to blocks of sixty-four octets; each block is mixed into
five words of thirty-two bits.
-/

namespace EnvConcord.Digest.Sha1

/-- The five words of the running state. -/
structure State where
  a : UInt32
  b : UInt32
  c : UInt32
  d : UInt32
  e : UInt32
  deriving DecidableEq, Repr

/-- The state before the first block. -/
def initial : State := ⟨0x67452301, 0xEFCDAB89, 0x98BADCFE, 0x10325476, 0xC3D2E1F0⟩

/-- Rotate a word to the left. -/
def rotateLeft (word : UInt32) (count : UInt32) : UInt32 :=
  (word <<< count) ||| (word >>> (32 - count))

/-- The octets of a number, most significant first. -/
def bigEndian (width value : Nat) : List UInt8 :=
  (List.range width).map fun i => UInt8.ofNat (value / Nat.pow 256 (width - 1 - i))

/-- The message followed by one set bit, zeros, and its length in bits. -/
def padded (message : List UInt8) : List UInt8 :=
  let size := message.length
  message ++ 0x80 :: List.replicate ((119 - size % 64) % 64) 0 ++ bigEndian 8 (8 * size)

/-- Four octets as a word, most significant first. -/
def word : List UInt8 → UInt32
  | octets => octets.foldl (fun total octet => total * 256 + octet.toUInt32) 0

/-- Cut octets into words. -/
def words : List UInt8 → List UInt32
  | a :: b :: c :: d :: rest => word [a, b, c, d] :: words rest
  | _ => []

/-- Extend the sixteen words of a block to eighty. `recent` holds the words so
far, the last one first. -/
def schedule : Nat → List UInt32 → List UInt32
  | 0, recent => recent.reverse
  | count + 1, recent =>
      let next := (recent.getD 2 0) ^^^ (recent.getD 7 0) ^^^ (recent.getD 13 0) ^^^
        (recent.getD 15 0)
      schedule count (rotateLeft next 1 :: recent)

/-- The mixing function and the constant of a round. -/
def mixing (round : Nat) (b c d : UInt32) : UInt32 × UInt32 :=
  if round < 20 then ((b &&& c) ||| ((~~~b) &&& d), 0x5A827999)
  else if round < 40 then (b ^^^ c ^^^ d, 0x6ED9EBA1)
  else if round < 60 then ((b &&& c) ||| (b &&& d) ||| (c &&& d), 0x8F1BBCDC)
  else (b ^^^ c ^^^ d, 0xCA62C1D6)

/-- One round on one word of the schedule. -/
def step (s : State) (round : Nat) (w : UInt32) : State :=
  let (mixed, constant) := mixing round s.b s.c s.d
  ⟨rotateLeft s.a 5 + mixed + s.e + constant + w, s.a, rotateLeft s.b 30, s.c, s.d⟩

/-- Mix one block of sixteen words into the state. -/
def addBlock (s : State) (block : List UInt32) : State :=
  let t := (schedule 64 block.reverse).zipIdx.foldl (fun t pair => step t pair.2 pair.1) s
  ⟨s.a + t.a, s.b + t.b, s.c + t.c, s.d + t.d, s.e + t.e⟩

/-- Mix the words in, sixteen at a time, `count` blocks of them. -/
def addBlocks (s : State) : Nat → List UInt32 → State
  | 0, _ => s
  | count + 1, rest => addBlocks (addBlock s (rest.take 16)) count (rest.drop 16)

/-- The digest of octets as hexadecimal digits. -/
def hex (message : List UInt8) : List Char :=
  let octets := padded message
  let s := addBlocks initial (octets.length / 64) (words octets)
  [s.a, s.b, s.c, s.d, s.e].flatMap fun part =>
    let written := Nat.toDigits 16 part.toNat
    List.replicate (8 - written.length) '0' ++ written

/-- The digest of the UTF-8 form of a text. -/
def ofText (s : String) : String := String.ofList (hex s.toUTF8.toList)

end EnvConcord.Digest.Sha1
