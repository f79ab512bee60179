import EnvConcord.Url.DomainTable

/-!
# Directions of labels

A domain name that holds letters written from right to left must not be shown as another one.
In such a name every label runs in one direction: it begins with a letter of this direction, and
digits and marks may follow at its end.
-/

namespace EnvConcord.Url

open EnvConcord.Text

/-- How a character takes part in the direction of a text. -/
inductive Direction
  | left
  | right
  | arabicNumber
  | number
  /-- A mark goes with the character in front of it. -/
  | mark
  | neutral
  /-- Left, but between neutral ones. -/
  | enclosed
  deriving DecidableEq, Repr

/-- Letters that are written from right to left. -/
def rightRanges : RangeTable :=
  #[(0x5be, 0x5be), (0x5c0, 0x5c0), (0x5c3, 0x5c3), (0x5c6, 0x5c6), (0x5d0, 0x5f4),
    (0x608, 0x608), (0x60b, 0x60b), (0x60d, 0x60d), (0x61b, 0x64a), (0x66d, 0x66f),
    (0x671, 0x6d5), (0x6e5, 0x6e6), (0x6ee, 0x6ef), (0x6fa, 0x710), (0x712, 0x72f),
    (0x74d, 0x7a5), (0x7b1, 0x7ea), (0x7f4, 0x7f5), (0x7fa, 0x7fa), (0x7fe, 0x815),
    (0x81a, 0x81a), (0x824, 0x824), (0x828, 0x828), (0x830, 0x858), (0x85e, 0x88e),
    (0x8a0, 0x8c9), (0x2135, 0x2138), (0xfb1d, 0xfb1d), (0xfb1f, 0xfb28), (0xfb2a, 0xfd3d),
    (0xfd50, 0xfdc7), (0xfdf0, 0xfdfc), (0xfe71, 0xfefc), (0x10800, 0x1091b), (0x10920, 0x10a00),
    (0x10a10, 0x10a35), (0x10a40, 0x10ae4), (0x10aeb, 0x10b35), (0x10b40, 0x10d23),
    (0x10e80, 0x10ea9), (0x10ead, 0x10eb1), (0x10f00, 0x10f45), (0x10f51, 0x10f81),
    (0x10f86, 0x10ff6), (0x1e800, 0x1e8cf), (0x1e900, 0x1e943), (0x1e94b, 0x1eebb)]

/-- Arabic digits. -/
def arabicNumberRanges : RangeTable :=
  #[(0x660, 0x669), (0x66b, 0x66c), (0x10d30, 0x10e7e)]

/-- Digits of other scripts. -/
def numberRanges : RangeTable :=
  #[(0x30, 0x39), (0xb2, 0xb3), (0xb9, 0xb9), (0xbc, 0xbe), (0x6f0, 0x6f9), (0x2070, 0x2070),
    (0x2074, 0x2079), (0x2080, 0x2089), (0x2150, 0x215e), (0x2189, 0x2189), (0x2460, 0x2473),
    (0x24ea, 0x24ea), (0x3251, 0x325f), (0x32b1, 0x32bf), (0xff10, 0xff19), (0x102e1, 0x102fb),
    (0x1d7ce, 0x1d7ff), (0x1fbf0, 0x1fbf9)]

/-- Marks that are shown at a place of their own. -/
def spacingRanges : RangeTable :=
  #[(0x903, 0x903), (0x93b, 0x93b), (0x93e, 0x940), (0x949, 0x94c), (0x94e, 0x94f),
    (0x982, 0x983), (0x9be, 0x9c0), (0x9c7, 0x9cc), (0x9d7, 0x9d7), (0xa03, 0xa03),
    (0xa3e, 0xa40), (0xa83, 0xa83), (0xabe, 0xac0), (0xac9, 0xacc), (0xb02, 0xb03),
    (0xb3e, 0xb3e), (0xb40, 0xb40), (0xb47, 0xb4c), (0xb57, 0xb57), (0xbbe, 0xbbf),
    (0xbc1, 0xbcc), (0xbd7, 0xbd7), (0xc01, 0xc03), (0xc41, 0xc44), (0xc82, 0xc83),
    (0xcbe, 0xccb), (0xcd5, 0xcd6), (0xcf3, 0xcf3), (0xd02, 0xd03), (0xd3e, 0xd40),
    (0xd46, 0xd4c), (0xd57, 0xd57), (0xd82, 0xd83), (0xdcf, 0xdd1), (0xdd8, 0xdf3),
    (0xe33, 0xe33), (0xeb3, 0xeb3), (0xf3e, 0xf3f), (0xf7f, 0xf7f), (0x102b, 0x102c),
    (0x1031, 0x1031), (0x1038, 0x1038), (0x103b, 0x103c), (0x1056, 0x1057), (0x1062, 0x106d),
    (0x1083, 0x1084), (0x1087, 0x108c), (0x108f, 0x109c), (0x1715, 0x1715), (0x1734, 0x1734),
    (0x17b6, 0x17b6), (0x17be, 0x17c5), (0x17c7, 0x17c8), (0x1923, 0x1926), (0x1929, 0x1931),
    (0x1933, 0x1938), (0x1a19, 0x1a1a), (0x1a55, 0x1a55), (0x1a57, 0x1a57), (0x1a61, 0x1a61),
    (0x1a63, 0x1a64), (0x1a6d, 0x1a72), (0x1b04, 0x1b04), (0x1b35, 0x1b35), (0x1b3b, 0x1b3b),
    (0x1b3d, 0x1b41), (0x1b43, 0x1b44), (0x1b82, 0x1ba1), (0x1ba6, 0x1ba7), (0x1baa, 0x1baa),
    (0x1be7, 0x1be7), (0x1bea, 0x1bec), (0x1bee, 0x1bee), (0x1bf2, 0x1c2b), (0x1c34, 0x1c35),
    (0x1ce1, 0x1ce1), (0x1cf7, 0x1cf7), (0x302e, 0x302f), (0xa823, 0xa824), (0xa827, 0xa827),
    (0xa880, 0xa8c3), (0xa952, 0xa953), (0xa983, 0xa983), (0xa9b4, 0xa9b5), (0xa9ba, 0xa9bb),
    (0xa9be, 0xa9c0), (0xaa2f, 0xaa30), (0xaa33, 0xaa34), (0xaa4d, 0xaa7b), (0xaa7d, 0xaa7d),
    (0xaaeb, 0xaaeb), (0xaaee, 0xaaf5), (0xabe3, 0xabe4), (0xabe6, 0xabe7), (0xabe9, 0xabec),
    (0x11000, 0x11000), (0x11002, 0x11002), (0x11082, 0x110b2), (0x110b7, 0x110b8),
    (0x1112c, 0x1112c), (0x11145, 0x11146), (0x11182, 0x111b5), (0x111bf, 0x111c0),
    (0x111ce, 0x111ce), (0x1122c, 0x1122e), (0x11232, 0x11233), (0x11235, 0x11235),
    (0x112e0, 0x112e2), (0x11302, 0x11303), (0x1133e, 0x1133f), (0x11341, 0x11363),
    (0x11435, 0x11437), (0x11440, 0x11441), (0x11445, 0x11445), (0x114b0, 0x114b2),
    (0x114b9, 0x114b9), (0x114bb, 0x114be), (0x114c1, 0x114c1), (0x115af, 0x115b1),
    (0x115b8, 0x115bb), (0x115be, 0x115be), (0x11630, 0x11632), (0x1163b, 0x1163c),
    (0x1163e, 0x1163e), (0x116ac, 0x116ac), (0x116ae, 0x116af), (0x116b6, 0x116b6),
    (0x11720, 0x11721), (0x11726, 0x11726), (0x1182c, 0x1182e), (0x11838, 0x11838),
    (0x11930, 0x11938), (0x1193d, 0x1193d), (0x11940, 0x11942), (0x119d1, 0x119d3),
    (0x119dc, 0x119df), (0x119e4, 0x119e4), (0x11a07, 0x11a08), (0x11a39, 0x11a39),
    (0x11a57, 0x11a58), (0x11a97, 0x11a97), (0x11c2f, 0x11c2f), (0x11c3e, 0x11c3f),
    (0x11ca9, 0x11ca9), (0x11cb1, 0x11cb1), (0x11cb4, 0x11cb4), (0x11d8a, 0x11d8e),
    (0x11d93, 0x11d94), (0x11d96, 0x11d96), (0x11ef5, 0x11ef6), (0x11f03, 0x11f35),
    (0x11f3e, 0x11f3f), (0x11f41, 0x11f41), (0x16f51, 0x16f87), (0x16ff0, 0x16ff1),
    (0x1d165, 0x1d166), (0x1d16d, 0x1d172)]

/-- Characters without a direction. -/
def neutralRanges : RangeTable :=
  #[(0x21, 0x2d), (0x3b, 0x3d), (0x5f, 0x60), (0x7b, 0xa9), (0xab, 0xb1), (0xb6, 0xb7),
    (0xbb, 0xbb), (0xbf, 0xbf), (0xd7, 0xd7), (0xf7, 0xf7), (0x2b9, 0x2ba), (0x2c2, 0x2cf),
    (0x2d2, 0x2df), (0x2e5, 0x2ed), (0x2ef, 0x2ff), (0x374, 0x375), (0x37e, 0x37e),
    (0x387, 0x387), (0x3f6, 0x3f6), (0x58a, 0x58f), (0x606, 0x607), (0x609, 0x60a),
    (0x60c, 0x60c), (0x60e, 0x60f), (0x66a, 0x66a), (0x6de, 0x6de), (0x6e9, 0x6e9),
    (0x7f6, 0x7f9), (0x9f2, 0x9f3), (0x9fb, 0x9fb), (0xaf1, 0xaf1), (0xbf3, 0xbfa),
    (0xc78, 0xc7e), (0xe3f, 0xe3f), (0xf3a, 0xf3d), (0x1390, 0x1399), (0x1400, 0x1400),
    (0x169b, 0x169c), (0x17db, 0x17db), (0x17f0, 0x180a), (0x1940, 0x1945), (0x19de, 0x19ff),
    (0x1fef, 0x1fef), (0x200c, 0x205e), (0x207a, 0x207e), (0x208a, 0x208e), (0x20a0, 0x20a7),
    (0x20a9, 0x20c0), (0x2104, 0x2104), (0x2108, 0x2108), (0x2114, 0x2114), (0x2117, 0x2118),
    (0x211e, 0x211f), (0x2123, 0x2123), (0x2125, 0x2125), (0x2127, 0x2127), (0x2129, 0x2129),
    (0x212e, 0x212e), (0x213a, 0x213a), (0x2140, 0x2144), (0x214a, 0x214d), (0x215f, 0x215f),
    (0x218a, 0x2335), (0x237b, 0x2394), (0x2396, 0x244a), (0x24eb, 0x26ab), (0x26ad, 0x27ff),
    (0x2900, 0x2bff), (0x2ce5, 0x2cea), (0x2cf9, 0x2cff), (0x2e00, 0x2e9e), (0x2ea0, 0x2ef2),
    (0x3001, 0x3001), (0x3003, 0x3004), (0x3008, 0x3020), (0x3030, 0x3030), (0x3036, 0x3037),
    (0x303d, 0x303f), (0x30a0, 0x30a0), (0x30fb, 0x30fb), (0x31c0, 0x31e3), (0x4dc0, 0x4dff),
    (0xa490, 0xa4c6), (0xa60d, 0xa60f), (0xa673, 0xa673), (0xa67e, 0xa67f), (0xa700, 0xa721),
    (0xa788, 0xa788), (0xa828, 0xa82b), (0xa838, 0xa839), (0xa874, 0xa877), (0xab6a, 0xab6b),
    (0xfb29, 0xfb29), (0xfd3e, 0xfd4f), (0xfdcf, 0xfdcf), (0xfdfd, 0xfe18), (0xfe31, 0xfe69),
    (0xff01, 0xff0d), (0xff1b, 0xff1d), (0xff3f, 0xff40), (0xff5b, 0xff60), (0xff62, 0xff65),
    (0xffe0, 0xffee), (0x10101, 0x10101), (0x10140, 0x1018c), (0x10190, 0x101a0),
    (0x1091f, 0x1091f), (0x10b39, 0x10b3f), (0x11052, 0x11065), (0x11660, 0x1166c),
    (0x11fd5, 0x11ff1), (0x16fe2, 0x16fe2), (0x1d1e9, 0x1d241), (0x1d245, 0x1d245),
    (0x1d300, 0x1d356), (0x1d6c1, 0x1d6c1), (0x1d6db, 0x1d6db), (0x1d6fb, 0x1d6fb),
    (0x1d715, 0x1d715), (0x1d735, 0x1d735), (0x1d74f, 0x1d74f), (0x1d76f, 0x1d76f),
    (0x1d789, 0x1d789), (0x1d7a9, 0x1d7a9), (0x1d7c3, 0x1d7c3), (0x1e2ff, 0x1e2ff),
    (0x1eef0, 0x1f0f5), (0x1f10b, 0x1f10f), (0x1f12f, 0x1f12f), (0x1f16d, 0x1f16f),
    (0x1f1ad, 0x1f1ad), (0x1f260, 0x1fbca)]

/-- Characters that are shown as letters in brackets. -/
def enclosedRanges : RangeTable :=
  #[(0x13f, 0x140), (0x249c, 0x24b5), (0x3200, 0x3243), (0x1f110, 0x1f12a), (0x1f240, 0x1f248)]

/-- The direction of a character. -/
def Direction.of (c : Char) : Direction :=
  let code := c.toNat
  if rightRanges.holds code then .right
  else if arabicNumberRanges.holds code then .arabicNumber
  else if numberRanges.holds code then .number
  else if markRanges.holds code && !spacingRanges.holds code then .mark
  else if neutralRanges.holds code then .neutral
  else if enclosedRanges.holds code then .enclosed
  else .left

/-- Whether a label has one direction. -/
def isDirected (label : List Char) : Bool :=
  let parts := label.map Direction.of
  let last := (parts.reverse.dropWhile (· == .mark)).head?
  match parts with
  | [] => true
  | .left :: _ =>
      parts.all (fun d => d != .right && d != .arabicNumber) && last.any fun d =>
        d == .left || d == .number
  | .right :: _ =>
      parts.all (fun d => d != .left && d != .enclosed) &&
        !(parts.contains .number && parts.contains .arabicNumber) &&
        last.any fun d => d == .right || d == .number || d == .arabicNumber
  | _ => false

/-- Whether labels need a direction, because one of them is not simply from left to right. -/
def needDirection (labels : List (List Char)) : Bool :=
  labels.any fun label => label.any fun c =>
    Direction.of c == .right || Direction.of c == .arabicNumber

end EnvConcord.Url
