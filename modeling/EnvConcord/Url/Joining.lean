import EnvConcord.Url.Combining
import EnvConcord.Url.Direction

/-!
# Joiners in labels

Two characters without a shape of their own say whether letters are joined.  A label may hold
them only where they change what is shown: behind the sign that takes a vowel away and, to keep
letters apart, between letters that would be joined.
-/

namespace EnvConcord.Url

open EnvConcord.Text

/-- The class of the signs that take the vowel of a letter away. -/
def vowelKiller : Nat := 9

/-- Letters that are joined to what follows. -/
def joinedAfterRanges : RangeTable :=
  #[(0x620, 0x620), (0x626, 0x626), (0x628, 0x628), (0x62a, 0x62e), (0x633, 0x63f),
    (0x641, 0x647), (0x649, 0x64a), (0x66e, 0x66f), (0x679, 0x687), (0x69a, 0x6bf),
    (0x6c1, 0x6c2), (0x6cc, 0x6cc), (0x6ce, 0x6ce), (0x6d0, 0x6d1), (0x6fa, 0x6fc),
    (0x6ff, 0x6ff), (0x712, 0x714), (0x71a, 0x71d), (0x71f, 0x727), (0x729, 0x729),
    (0x72b, 0x72b), (0x72d, 0x72e), (0x74e, 0x758), (0x75c, 0x76a), (0x76d, 0x770),
    (0x772, 0x772), (0x775, 0x777), (0x77a, 0x77f), (0x7ca, 0x7ea), (0x841, 0x845),
    (0x848, 0x848), (0x84a, 0x853), (0x855, 0x855), (0x860, 0x860), (0x862, 0x865),
    (0x868, 0x868), (0x886, 0x886), (0x889, 0x88d), (0x8a0, 0x8a9), (0x8af, 0x8b0),
    (0x8b3, 0x8b8), (0x8ba, 0x8c8), (0x1807, 0x1807), (0x1820, 0x1878), (0x1887, 0x18a8),
    (0x18aa, 0x18aa), (0xa840, 0xa872), (0xfb52, 0xfb81), (0xfb8e, 0xfba3), (0xfba6, 0xfbad),
    (0xfbd3, 0xfbd6), (0xfbe4, 0xfbe9), (0xfbf6, 0xfc36), (0xfc38, 0xfc5a), (0xfc5d, 0xfc5d),
    (0xfc66, 0xfc69), (0xfc6c, 0xfc6f), (0xfc72, 0xfc75), (0xfc78, 0xfc7f), (0xfc81, 0xfc87),
    (0xfc89, 0xfc89), (0xfc8c, 0xfc90), (0xfc93, 0xfcf1), (0xfcf5, 0xfd0c), (0xfd11, 0xfd28),
    (0xfd2d, 0xfd3b), (0xfd50, 0xfdc7), (0xfdf2, 0xfdf2), (0xfdf5, 0xfdfc), (0xfe89, 0xfe8c),
    (0xfe8f, 0xfe92), (0xfe95, 0xfea8), (0xfeb1, 0xfeec), (0xfeef, 0xfef4), (0x10ac0, 0x10ac4),
    (0x10acd, 0x10acd), (0x10ad3, 0x10adc), (0x10ade, 0x10ae0), (0x10aeb, 0x10aee),
    (0x10b80, 0x10b80), (0x10b82, 0x10b82), (0x10b86, 0x10b88), (0x10b8a, 0x10b8b),
    (0x10b8d, 0x10b8d), (0x10b90, 0x10b90), (0x10bad, 0x10bae), (0x10d00, 0x10d21),
    (0x10d23, 0x10d23), (0x10f30, 0x10f32), (0x10f34, 0x10f44), (0x10f51, 0x10f53),
    (0x10f70, 0x10f73), (0x10f76, 0x10f81), (0x10fb0, 0x10fb0), (0x10fb2, 0x10fb3),
    (0x10fb8, 0x10fb8), (0x10fbb, 0x10fbc), (0x10fbe, 0x10fbf), (0x10fc1, 0x10fc1),
    (0x10fc4, 0x10fc4), (0x10fca, 0x10fcb), (0x1e900, 0x1e943), (0x1ee01, 0x1ee02),
    (0x1ee07, 0x1ee12), (0x1ee14, 0x1ee17), (0x1ee19, 0x1ee7e), (0x1ee81, 0x1ee82),
    (0x1ee84, 0x1ee84), (0x1ee87, 0x1ee92), (0x1ee94, 0x1ee97), (0x1ee99, 0x1eea2),
    (0x1eea7, 0x1eeb2), (0x1eeb4, 0x1eeb7), (0x1eeb9, 0x1eebb)]

/-- Letters that are joined to what is in front of them. -/
def joinedBeforeRanges : RangeTable :=
  #[(0x620, 0x620), (0x622, 0x63f), (0x641, 0x64a), (0x66e, 0x66f), (0x671, 0x673),
    (0x675, 0x6d3), (0x6d5, 0x6d5), (0x6ee, 0x6ef), (0x6fa, 0x6fc), (0x6ff, 0x6ff),
    (0x710, 0x710), (0x712, 0x72f), (0x74d, 0x77f), (0x7ca, 0x7ea), (0x840, 0x858),
    (0x860, 0x860), (0x862, 0x865), (0x867, 0x882), (0x886, 0x886), (0x889, 0x88e),
    (0x8a0, 0x8ac), (0x8ae, 0x8c8), (0x1807, 0x1807), (0x1820, 0x1878), (0x1887, 0x18a8),
    (0x18aa, 0x18aa), (0xa840, 0xa871), (0xfb50, 0xfbb1), (0xfbd3, 0xfcf1), (0xfcf5, 0xfd3d),
    (0xfd50, 0xfdc7), (0xfdf0, 0xfdfc), (0xfe81, 0xfefc), (0x10ac0, 0x10ac5), (0x10ac7, 0x10ac7),
    (0x10ac9, 0x10aca), (0x10ace, 0x10ad6), (0x10ad8, 0x10ae1), (0x10ae4, 0x10ae4),
    (0x10aeb, 0x10aef), (0x10b80, 0x10b91), (0x10ba9, 0x10bae), (0x10d01, 0x10d23),
    (0x10f30, 0x10f44), (0x10f51, 0x10f54), (0x10f70, 0x10f81), (0x10fb0, 0x10fb0),
    (0x10fb2, 0x10fb6), (0x10fb8, 0x10fbf), (0x10fc1, 0x10fc4), (0x10fc9, 0x10fca),
    (0x1e900, 0x1e943), (0x1ee00, 0x1eebb)]

/-- Signs that do not keep letters from being joined, marks apart. -/
def passedRanges : RangeTable :=
  #[(0xcbf, 0xcbf), (0xcc6, 0xcc6), (0x11a07, 0x11a08), (0x1e94b, 0x1e94b)]

/-- The character that keeps letters apart. -/
def nonJoiner : Char := '\u200c'

/-- The character that joins letters. -/
def joiner : Char := '\u200d'

/-- Whether letters are joined across a character. -/
def isPassed (c : Char) : Bool := Direction.of c == .mark || passedRanges.holds c.toNat

/-- Whether a joiner is in place, `before` being what stands in front of it, the nearest character
first. -/
def isJoinerInPlace (c : Char) (before after : List Char) : Bool :=
  (before.head?.any fun sign => combiningClass sign == vowelKiller) ||
    (c == nonJoiner &&
      ((before.dropWhile isPassed).head?.any fun letter => joinedAfterRanges.holds letter.toNat) &&
      ((after.dropWhile isPassed).head?.any fun letter => joinedBeforeRanges.holds letter.toNat))

/-- Whether all joiners of a label are in place. -/
def areJoinersInPlace (before : List Char) : List Char → Bool
  | [] => true
  | c :: rest =>
      ((c != nonJoiner && c != joiner) || isJoinerInPlace c before rest) &&
        areJoinersInPlace (c :: before) rest

end EnvConcord.Url
