import EnvConcord.Text.LowerCase

/-!
# Letters that differ in case only

Two characters are the same letter if their small letters are, or if these have
one capital letter in common.
-/

namespace EnvConcord.Text

/-- For some small letters, the other small letters of the same capital letter. -/
def sharedCapitals : List (Nat × List Nat) :=
  [(0x69, [0x131]), (0x73, [0x17f]), (0xb5, [0x3bc]), (0x131, [0x69]), (0x17f, [0x73]),
    (0x345, [0x3b9, 0x1fbe]), (0x390, [0x1fd3]), (0x3b0, [0x1fe3]), (0x3b2, [0x3d0]),
    (0x3b5, [0x3f5]), (0x3b8, [0x3d1]), (0x3b9, [0x345, 0x1fbe]), (0x3ba, [0x3f0]),
    (0x3bc, [0xb5]), (0x3c0, [0x3d6]), (0x3c1, [0x3f1]), (0x3c2, [0x3c3]), (0x3c3, [0x3c2]),
    (0x3c6, [0x3d5]), (0x3d0, [0x3b2]), (0x3d1, [0x3b8]), (0x3d5, [0x3c6]), (0x3d6, [0x3c0]),
    (0x3f0, [0x3ba]), (0x3f1, [0x3c1]), (0x3f5, [0x3b5]), (0x432, [0x1c80]), (0x434, [0x1c81]),
    (0x43e, [0x1c82]), (0x441, [0x1c83]), (0x442, [0x1c84, 0x1c85]), (0x44a, [0x1c86]),
    (0x463, [0x1c87]), (0x1c80, [0x432]), (0x1c81, [0x434]), (0x1c82, [0x43e]),
    (0x1c83, [0x441]), (0x1c84, [0x442, 0x1c85]), (0x1c85, [0x442, 0x1c84]), (0x1c86, [0x44a]),
    (0x1c87, [0x463]), (0x1c88, [0xa64b]), (0x1e61, [0x1e9b]), (0x1e9b, [0x1e61]),
    (0x1fbe, [0x345, 0x3b9]), (0x1fd3, [0x390]), (0x1fe3, [0x3b0]), (0xa64b, [0x1c88]),
    (0xfb05, [0xfb06]), (0xfb06, [0xfb05])]

/-- The small letter of a code point; the dotted capital I counts as a plain one. -/
def lowerCode (code : Nat) : Nat :=
  if code == 0x130 then 0x69
  else if code.isValidChar then (lowerChar (Char.ofNat code)).toNat
  else code

/-- The small letter of an ASCII code point. -/
def lowerAscii (code : Nat) : Nat := if 0x41 ≤ code && code ≤ 0x5A then code + 0x20 else code

/-- A small letter together with the others of the same capital letter. -/
def sameLetters (lower : Nat) : List Nat := lower :: (sharedCapitals.lookup lower).getD []

end EnvConcord.Text
