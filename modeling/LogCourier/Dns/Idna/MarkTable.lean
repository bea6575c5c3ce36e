/-!
# Combining marks

The combining marks with their classes, and the pairs of characters that have a
precomposed form.
-/

namespace LogCourier.Dns.Idna

/-- The combining marks, from U+0300 on. -/
def markRangesFrom300 : List (Nat × Nat) := [
  (0x300, 0x36f), (0x483, 0x489), (0x591, 0x5bd), (0x5bf, 0x5bf), (0x5c1, 0x5c2), (0x5c4, 0x5c5),
  (0x5c7, 0x5c7), (0x610, 0x61a), (0x64b, 0x65f), (0x670, 0x670), (0x6d6, 0x6dc), (0x6df, 0x6e4),
  (0x6e7, 0x6e8), (0x6ea, 0x6ed), (0x711, 0x711), (0x730, 0x74a), (0x7a6, 0x7b0), (0x7eb, 0x7f3),
  (0x7fd, 0x7fd), (0x816, 0x819), (0x81b, 0x823), (0x825, 0x827), (0x829, 0x82d), (0x859, 0x85b),
  (0x898, 0x89f), (0x8ca, 0x8e1), (0x8e3, 0x903), (0x93a, 0x93c), (0x93e, 0x94f), (0x951, 0x957),
  (0x962, 0x963), (0x981, 0x983), (0x9bc, 0x9bc), (0x9be, 0x9c4), (0x9c7, 0x9c8), (0x9cb, 0x9cd),
  (0x9d7, 0x9d7), (0x9e2, 0x9e3), (0x9fe, 0x9fe), (0xa01, 0xa03), (0xa3c, 0xa3c), (0xa3e, 0xa42),
  (0xa47, 0xa48), (0xa4b, 0xa4d), (0xa51, 0xa51), (0xa70, 0xa71), (0xa75, 0xa75), (0xa81, 0xa83),
  (0xabc, 0xabc), (0xabe, 0xac5), (0xac7, 0xac9), (0xacb, 0xacd), (0xae2, 0xae3), (0xafa, 0xaff),
  (0xb01, 0xb03), (0xb3c, 0xb3c), (0xb3e, 0xb44), (0xb47, 0xb48), (0xb4b, 0xb4d), (0xb55, 0xb57),
  (0xb62, 0xb63), (0xb82, 0xb82), (0xbbe, 0xbc2), (0xbc6, 0xbc8), (0xbca, 0xbcd), (0xbd7, 0xbd7),
  (0xc00, 0xc04), (0xc3c, 0xc3c), (0xc3e, 0xc44), (0xc46, 0xc48), (0xc4a, 0xc4d), (0xc55, 0xc56),
  (0xc62, 0xc63), (0xc81, 0xc83), (0xcbc, 0xcbc), (0xcbe, 0xcc4), (0xcc6, 0xcc8), (0xcca, 0xccd),
  (0xcd5, 0xcd6), (0xce2, 0xce3), (0xd00, 0xd03), (0xd3b, 0xd3c), (0xd3e, 0xd44), (0xd46, 0xd48),
  (0xd4a, 0xd4d), (0xd57, 0xd57), (0xd62, 0xd63), (0xd81, 0xd83), (0xdca, 0xdca), (0xdcf, 0xdd4),
  (0xdd6, 0xdd6), (0xdd8, 0xddf), (0xdf2, 0xdf3), (0xe31, 0xe31), (0xe34, 0xe3a), (0xe47, 0xe4e),
  (0xeb1, 0xeb1), (0xeb4, 0xebc), (0xec8, 0xecd), (0xf18, 0xf19)]

/-- The combining marks, from U+0F35 on. -/
def markRangesFromf35 : List (Nat × Nat) := [
  (0xf35, 0xf35), (0xf37, 0xf37), (0xf39, 0xf39), (0xf3e, 0xf3f), (0xf71, 0xf84), (0xf86, 0xf87),
  (0xf8d, 0xf97), (0xf99, 0xfbc), (0xfc6, 0xfc6), (0x102b, 0x103e), (0x1056, 0x1059),
  (0x105e, 0x1060), (0x1062, 0x1064), (0x1067, 0x106d), (0x1071, 0x1074), (0x1082, 0x108d),
  (0x108f, 0x108f), (0x109a, 0x109d), (0x135d, 0x135f), (0x1712, 0x1715), (0x1732, 0x1734),
  (0x1752, 0x1753), (0x1772, 0x1773), (0x17b4, 0x17d3), (0x17dd, 0x17dd), (0x180b, 0x180d),
  (0x180f, 0x180f), (0x1885, 0x1886), (0x18a9, 0x18a9), (0x1920, 0x192b), (0x1930, 0x193b),
  (0x1a17, 0x1a1b), (0x1a55, 0x1a5e), (0x1a60, 0x1a7c), (0x1a7f, 0x1a7f), (0x1ab0, 0x1ace),
  (0x1b00, 0x1b04), (0x1b34, 0x1b44), (0x1b6b, 0x1b73), (0x1b80, 0x1b82), (0x1ba1, 0x1bad),
  (0x1be6, 0x1bf3), (0x1c24, 0x1c37), (0x1cd0, 0x1cd2), (0x1cd4, 0x1ce8), (0x1ced, 0x1ced),
  (0x1cf4, 0x1cf4), (0x1cf7, 0x1cf9), (0x1dc0, 0x1dff), (0x20d0, 0x20f0), (0x2cef, 0x2cf1),
  (0x2d7f, 0x2d7f), (0x2de0, 0x2dff), (0x302a, 0x302f), (0x3099, 0x309a), (0xa66f, 0xa672),
  (0xa674, 0xa67d), (0xa69e, 0xa69f), (0xa6f0, 0xa6f1), (0xa802, 0xa802), (0xa806, 0xa806),
  (0xa80b, 0xa80b), (0xa823, 0xa827), (0xa82c, 0xa82c), (0xa880, 0xa881), (0xa8b4, 0xa8c5),
  (0xa8e0, 0xa8f1), (0xa8ff, 0xa8ff), (0xa926, 0xa92d), (0xa947, 0xa953), (0xa980, 0xa983),
  (0xa9b3, 0xa9c0), (0xa9e5, 0xa9e5), (0xaa29, 0xaa36), (0xaa43, 0xaa43), (0xaa4c, 0xaa4d),
  (0xaa7b, 0xaa7d), (0xaab0, 0xaab0), (0xaab2, 0xaab4), (0xaab7, 0xaab8), (0xaabe, 0xaabf),
  (0xaac1, 0xaac1), (0xaaeb, 0xaaef), (0xaaf5, 0xaaf6), (0xabe3, 0xabea), (0xabec, 0xabed),
  (0xfb1e, 0xfb1e), (0xfe00, 0xfe0f), (0xfe20, 0xfe2f), (0x101fd, 0x101fd), (0x102e0, 0x102e0),
  (0x10376, 0x1037a), (0x10a01, 0x10a03), (0x10a05, 0x10a06), (0x10a0c, 0x10a0f),
  (0x10a38, 0x10a3a), (0x10a3f, 0x10a3f), (0x10ae5, 0x10ae6), (0x10d24, 0x10d27),
  (0x10eab, 0x10eac)]

/-- The combining marks, from U+10F46 on. -/
def markRangesFrom10f46 : List (Nat × Nat) := [
  (0x10f46, 0x10f50), (0x10f82, 0x10f85), (0x11000, 0x11002), (0x11038, 0x11046),
  (0x11070, 0x11070), (0x11073, 0x11074), (0x1107f, 0x11082), (0x110b0, 0x110ba),
  (0x110c2, 0x110c2), (0x11100, 0x11102), (0x11127, 0x11134), (0x11145, 0x11146),
  (0x11173, 0x11173), (0x11180, 0x11182), (0x111b3, 0x111c0), (0x111c9, 0x111cc),
  (0x111ce, 0x111cf), (0x1122c, 0x11237), (0x1123e, 0x1123e), (0x112df, 0x112ea),
  (0x11300, 0x11303), (0x1133b, 0x1133c), (0x1133e, 0x11344), (0x11347, 0x11348),
  (0x1134b, 0x1134d), (0x11357, 0x11357), (0x11362, 0x11363), (0x11366, 0x1136c),
  (0x11370, 0x11374), (0x11435, 0x11446), (0x1145e, 0x1145e), (0x114b0, 0x114c3),
  (0x115af, 0x115b5), (0x115b8, 0x115c0), (0x115dc, 0x115dd), (0x11630, 0x11640),
  (0x116ab, 0x116b7), (0x1171d, 0x1172b), (0x1182c, 0x1183a), (0x11930, 0x11935),
  (0x11937, 0x11938), (0x1193b, 0x1193e), (0x11940, 0x11940), (0x11942, 0x11943),
  (0x119d1, 0x119d7), (0x119da, 0x119e0), (0x119e4, 0x119e4), (0x11a01, 0x11a0a),
  (0x11a33, 0x11a39), (0x11a3b, 0x11a3e), (0x11a47, 0x11a47), (0x11a51, 0x11a5b),
  (0x11a8a, 0x11a99), (0x11c2f, 0x11c36), (0x11c38, 0x11c3f), (0x11c92, 0x11ca7),
  (0x11ca9, 0x11cb6), (0x11d31, 0x11d36), (0x11d3a, 0x11d3a), (0x11d3c, 0x11d3d),
  (0x11d3f, 0x11d45), (0x11d47, 0x11d47), (0x11d8a, 0x11d8e), (0x11d90, 0x11d91),
  (0x11d93, 0x11d97), (0x11ef3, 0x11ef6), (0x16af0, 0x16af4), (0x16b30, 0x16b36),
  (0x16f4f, 0x16f4f), (0x16f51, 0x16f87), (0x16f8f, 0x16f92), (0x16fe4, 0x16fe4),
  (0x16ff0, 0x16ff1), (0x1bc9d, 0x1bc9e), (0x1cf00, 0x1cf2d), (0x1cf30, 0x1cf46),
  (0x1d165, 0x1d169), (0x1d16d, 0x1d172), (0x1d17b, 0x1d182), (0x1d185, 0x1d18b),
  (0x1d1aa, 0x1d1ad), (0x1d242, 0x1d244), (0x1da00, 0x1da36), (0x1da3b, 0x1da6c),
  (0x1da75, 0x1da75), (0x1da84, 0x1da84), (0x1da9b, 0x1da9f), (0x1daa1, 0x1daaf),
  (0x1e000, 0x1e006), (0x1e008, 0x1e018), (0x1e01b, 0x1e021), (0x1e023, 0x1e024),
  (0x1e026, 0x1e02a), (0x1e130, 0x1e136), (0x1e2ae, 0x1e2ae), (0x1e2ec, 0x1e2ef),
  (0x1e8d0, 0x1e8d6), (0x1e944, 0x1e94a), (0xe0100, 0xe01ef)]

/-- The combining marks. -/
def markRanges : List (Nat × Nat) :=
  markRangesFrom300 ++ markRangesFromf35 ++ markRangesFrom10f46

/-- The code points with a combining class other than 0, with the class, from U+0300 on. -/
def combiningClassesFrom300 : List (Nat × Nat × Nat) := [
  (0x300, 0x314, 230), (0x315, 0x315, 232), (0x316, 0x319, 220), (0x31a, 0x31a, 232),
  (0x31b, 0x31b, 216), (0x31c, 0x320, 220), (0x321, 0x322, 202), (0x323, 0x326, 220),
  (0x327, 0x328, 202), (0x329, 0x333, 220), (0x334, 0x338, 1), (0x339, 0x33c, 220),
  (0x33d, 0x344, 230), (0x345, 0x345, 240), (0x346, 0x346, 230), (0x347, 0x349, 220),
  (0x34a, 0x34c, 230), (0x34d, 0x34e, 220), (0x350, 0x352, 230), (0x353, 0x356, 220),
  (0x357, 0x357, 230), (0x358, 0x358, 232), (0x359, 0x35a, 220), (0x35b, 0x35b, 230),
  (0x35c, 0x35c, 233), (0x35d, 0x35e, 234), (0x35f, 0x35f, 233), (0x360, 0x361, 234),
  (0x362, 0x362, 233), (0x363, 0x36f, 230), (0x483, 0x487, 230), (0x591, 0x591, 220),
  (0x592, 0x595, 230), (0x596, 0x596, 220), (0x597, 0x599, 230), (0x59a, 0x59a, 222),
  (0x59b, 0x59b, 220), (0x59c, 0x5a1, 230), (0x5a2, 0x5a7, 220), (0x5a8, 0x5a9, 230),
  (0x5aa, 0x5aa, 220), (0x5ab, 0x5ac, 230), (0x5ad, 0x5ad, 222), (0x5ae, 0x5ae, 228),
  (0x5af, 0x5af, 230), (0x5b0, 0x5b0, 10), (0x5b1, 0x5b1, 11), (0x5b2, 0x5b2, 12),
  (0x5b3, 0x5b3, 13), (0x5b4, 0x5b4, 14), (0x5b5, 0x5b5, 15), (0x5b6, 0x5b6, 16),
  (0x5b7, 0x5b7, 17), (0x5b8, 0x5b8, 18), (0x5b9, 0x5ba, 19), (0x5bb, 0x5bb, 20),
  (0x5bc, 0x5bc, 21), (0x5bd, 0x5bd, 22), (0x5bf, 0x5bf, 23), (0x5c1, 0x5c1, 24),
  (0x5c2, 0x5c2, 25), (0x5c4, 0x5c4, 230), (0x5c5, 0x5c5, 220), (0x5c7, 0x5c7, 18),
  (0x610, 0x617, 230), (0x618, 0x618, 30), (0x619, 0x619, 31), (0x61a, 0x61a, 32),
  (0x64b, 0x64b, 27), (0x64c, 0x64c, 28), (0x64d, 0x64d, 29), (0x64e, 0x64e, 30),
  (0x64f, 0x64f, 31), (0x650, 0x650, 32), (0x651, 0x651, 33), (0x652, 0x652, 34),
  (0x653, 0x654, 230), (0x655, 0x656, 220), (0x657, 0x65b, 230), (0x65c, 0x65c, 220),
  (0x65d, 0x65e, 230), (0x65f, 0x65f, 220), (0x670, 0x670, 35), (0x6d6, 0x6dc, 230),
  (0x6df, 0x6e2, 230), (0x6e3, 0x6e3, 220), (0x6e4, 0x6e4, 230), (0x6e7, 0x6e8, 230),
  (0x6ea, 0x6ea, 220), (0x6eb, 0x6ec, 230), (0x6ed, 0x6ed, 220), (0x711, 0x711, 36),
  (0x730, 0x730, 230), (0x731, 0x731, 220), (0x732, 0x733, 230), (0x734, 0x734, 220),
  (0x735, 0x736, 230), (0x737, 0x739, 220), (0x73a, 0x73a, 230), (0x73b, 0x73c, 220)]

/-- The code points with a combining class other than 0, with the class, from U+073D on. -/
def combiningClassesFrom73d : List (Nat × Nat × Nat) := [
  (0x73d, 0x73d, 230), (0x73e, 0x73e, 220), (0x73f, 0x741, 230), (0x742, 0x742, 220),
  (0x743, 0x743, 230), (0x744, 0x744, 220), (0x745, 0x745, 230), (0x746, 0x746, 220),
  (0x747, 0x747, 230), (0x748, 0x748, 220), (0x749, 0x74a, 230), (0x7eb, 0x7f1, 230),
  (0x7f2, 0x7f2, 220), (0x7f3, 0x7f3, 230), (0x7fd, 0x7fd, 220), (0x816, 0x819, 230),
  (0x81b, 0x823, 230), (0x825, 0x827, 230), (0x829, 0x82d, 230), (0x859, 0x85b, 220),
  (0x898, 0x898, 230), (0x899, 0x89b, 220), (0x89c, 0x89f, 230), (0x8ca, 0x8ce, 230),
  (0x8cf, 0x8d3, 220), (0x8d4, 0x8e1, 230), (0x8e3, 0x8e3, 220), (0x8e4, 0x8e5, 230),
  (0x8e6, 0x8e6, 220), (0x8e7, 0x8e8, 230), (0x8e9, 0x8e9, 220), (0x8ea, 0x8ec, 230),
  (0x8ed, 0x8ef, 220), (0x8f0, 0x8f0, 27), (0x8f1, 0x8f1, 28), (0x8f2, 0x8f2, 29),
  (0x8f3, 0x8f5, 230), (0x8f6, 0x8f6, 220), (0x8f7, 0x8f8, 230), (0x8f9, 0x8fa, 220),
  (0x8fb, 0x8ff, 230), (0x93c, 0x93c, 7), (0x94d, 0x94d, 9), (0x951, 0x951, 230),
  (0x952, 0x952, 220), (0x953, 0x954, 230), (0x9bc, 0x9bc, 7), (0x9cd, 0x9cd, 9),
  (0x9fe, 0x9fe, 230), (0xa3c, 0xa3c, 7), (0xa4d, 0xa4d, 9), (0xabc, 0xabc, 7),
  (0xacd, 0xacd, 9), (0xb3c, 0xb3c, 7), (0xb4d, 0xb4d, 9), (0xbcd, 0xbcd, 9), (0xc3c, 0xc3c, 7),
  (0xc4d, 0xc4d, 9), (0xc55, 0xc55, 84), (0xc56, 0xc56, 91), (0xcbc, 0xcbc, 7),
  (0xccd, 0xccd, 9), (0xd3b, 0xd3c, 9), (0xd4d, 0xd4d, 9), (0xdca, 0xdca, 9),
  (0xe38, 0xe39, 103), (0xe3a, 0xe3a, 9), (0xe48, 0xe4b, 107), (0xeb8, 0xeb9, 118),
  (0xeba, 0xeba, 9), (0xec8, 0xecb, 122), (0xf18, 0xf19, 220), (0xf35, 0xf35, 220),
  (0xf37, 0xf37, 220), (0xf39, 0xf39, 216), (0xf71, 0xf71, 129), (0xf72, 0xf72, 130),
  (0xf74, 0xf74, 132), (0xf7a, 0xf7d, 130), (0xf80, 0xf80, 130), (0xf82, 0xf83, 230),
  (0xf84, 0xf84, 9), (0xf86, 0xf87, 230), (0xfc6, 0xfc6, 220), (0x1037, 0x1037, 7),
  (0x1039, 0x103a, 9), (0x108d, 0x108d, 220), (0x135d, 0x135f, 230), (0x1714, 0x1715, 9),
  (0x1734, 0x1734, 9), (0x17d2, 0x17d2, 9), (0x17dd, 0x17dd, 230), (0x18a9, 0x18a9, 228),
  (0x1939, 0x1939, 222), (0x193a, 0x193a, 230), (0x193b, 0x193b, 220), (0x1a17, 0x1a17, 230),
  (0x1a18, 0x1a18, 220), (0x1a60, 0x1a60, 9), (0x1a75, 0x1a7c, 230)]

/-- The code points with a combining class other than 0, with the class, from U+1A7F on. -/
def combiningClassesFrom1a7f : List (Nat × Nat × Nat) := [
  (0x1a7f, 0x1a7f, 220), (0x1ab0, 0x1ab4, 230), (0x1ab5, 0x1aba, 220), (0x1abb, 0x1abc, 230),
  (0x1abd, 0x1abd, 220), (0x1abf, 0x1ac0, 220), (0x1ac1, 0x1ac2, 230), (0x1ac3, 0x1ac4, 220),
  (0x1ac5, 0x1ac9, 230), (0x1aca, 0x1aca, 220), (0x1acb, 0x1ace, 230), (0x1b34, 0x1b34, 7),
  (0x1b44, 0x1b44, 9), (0x1b6b, 0x1b6b, 230), (0x1b6c, 0x1b6c, 220), (0x1b6d, 0x1b73, 230),
  (0x1baa, 0x1bab, 9), (0x1be6, 0x1be6, 7), (0x1bf2, 0x1bf3, 9), (0x1c37, 0x1c37, 7),
  (0x1cd0, 0x1cd2, 230), (0x1cd4, 0x1cd4, 1), (0x1cd5, 0x1cd9, 220), (0x1cda, 0x1cdb, 230),
  (0x1cdc, 0x1cdf, 220), (0x1ce0, 0x1ce0, 230), (0x1ce2, 0x1ce8, 1), (0x1ced, 0x1ced, 220),
  (0x1cf4, 0x1cf4, 230), (0x1cf8, 0x1cf9, 230), (0x1dc0, 0x1dc1, 230), (0x1dc2, 0x1dc2, 220),
  (0x1dc3, 0x1dc9, 230), (0x1dca, 0x1dca, 220), (0x1dcb, 0x1dcc, 230), (0x1dcd, 0x1dcd, 234),
  (0x1dce, 0x1dce, 214), (0x1dcf, 0x1dcf, 220), (0x1dd0, 0x1dd0, 202), (0x1dd1, 0x1df5, 230),
  (0x1df6, 0x1df6, 232), (0x1df7, 0x1df8, 228), (0x1df9, 0x1df9, 220), (0x1dfa, 0x1dfa, 218),
  (0x1dfb, 0x1dfb, 230), (0x1dfc, 0x1dfc, 233), (0x1dfd, 0x1dfd, 220), (0x1dfe, 0x1dfe, 230),
  (0x1dff, 0x1dff, 220), (0x20d0, 0x20d1, 230), (0x20d2, 0x20d3, 1), (0x20d4, 0x20d7, 230),
  (0x20d8, 0x20da, 1), (0x20db, 0x20dc, 230), (0x20e1, 0x20e1, 230), (0x20e5, 0x20e6, 1),
  (0x20e7, 0x20e7, 230), (0x20e8, 0x20e8, 220), (0x20e9, 0x20e9, 230), (0x20ea, 0x20eb, 1),
  (0x20ec, 0x20ef, 220), (0x20f0, 0x20f0, 230), (0x2cef, 0x2cf1, 230), (0x2d7f, 0x2d7f, 9),
  (0x2de0, 0x2dff, 230), (0x302a, 0x302a, 218), (0x302b, 0x302b, 228), (0x302c, 0x302c, 232),
  (0x302d, 0x302d, 222), (0x302e, 0x302f, 224), (0x3099, 0x309a, 8), (0xa66f, 0xa66f, 230),
  (0xa674, 0xa67d, 230), (0xa69e, 0xa69f, 230), (0xa6f0, 0xa6f1, 230), (0xa806, 0xa806, 9),
  (0xa82c, 0xa82c, 9), (0xa8c4, 0xa8c4, 9), (0xa8e0, 0xa8f1, 230), (0xa92b, 0xa92d, 220),
  (0xa953, 0xa953, 9), (0xa9b3, 0xa9b3, 7), (0xa9c0, 0xa9c0, 9), (0xaab0, 0xaab0, 230),
  (0xaab2, 0xaab3, 230), (0xaab4, 0xaab4, 220), (0xaab7, 0xaab8, 230), (0xaabe, 0xaabf, 230),
  (0xaac1, 0xaac1, 230), (0xaaf6, 0xaaf6, 9), (0xabed, 0xabed, 9), (0xfb1e, 0xfb1e, 26),
  (0xfe20, 0xfe26, 230), (0xfe27, 0xfe2d, 220), (0xfe2e, 0xfe2f, 230), (0x101fd, 0x101fd, 220),
  (0x102e0, 0x102e0, 220), (0x10376, 0x1037a, 230), (0x10a0d, 0x10a0d, 220),
  (0x10a0f, 0x10a0f, 230)]

/-- The code points with a combining class other than 0, with the class, from U+10A38 on. -/
def combiningClassesFrom10a38 : List (Nat × Nat × Nat) := [
  (0x10a38, 0x10a38, 230), (0x10a39, 0x10a39, 1), (0x10a3a, 0x10a3a, 220), (0x10a3f, 0x10a3f, 9),
  (0x10ae5, 0x10ae5, 230), (0x10ae6, 0x10ae6, 220), (0x10d24, 0x10d27, 230),
  (0x10eab, 0x10eac, 230), (0x10f46, 0x10f47, 220), (0x10f48, 0x10f4a, 230),
  (0x10f4b, 0x10f4b, 220), (0x10f4c, 0x10f4c, 230), (0x10f4d, 0x10f50, 220),
  (0x10f82, 0x10f82, 230), (0x10f83, 0x10f83, 220), (0x10f84, 0x10f84, 230),
  (0x10f85, 0x10f85, 220), (0x11046, 0x11046, 9), (0x11070, 0x11070, 9), (0x1107f, 0x1107f, 9),
  (0x110b9, 0x110b9, 9), (0x110ba, 0x110ba, 7), (0x11100, 0x11102, 230), (0x11133, 0x11134, 9),
  (0x11173, 0x11173, 7), (0x111c0, 0x111c0, 9), (0x111ca, 0x111ca, 7), (0x11235, 0x11235, 9),
  (0x11236, 0x11236, 7), (0x112e9, 0x112e9, 7), (0x112ea, 0x112ea, 9), (0x1133b, 0x1133c, 7),
  (0x1134d, 0x1134d, 9), (0x11366, 0x1136c, 230), (0x11370, 0x11374, 230), (0x11442, 0x11442, 9),
  (0x11446, 0x11446, 7), (0x1145e, 0x1145e, 230), (0x114c2, 0x114c2, 9), (0x114c3, 0x114c3, 7),
  (0x115bf, 0x115bf, 9), (0x115c0, 0x115c0, 7), (0x1163f, 0x1163f, 9), (0x116b6, 0x116b6, 9),
  (0x116b7, 0x116b7, 7), (0x1172b, 0x1172b, 9), (0x11839, 0x11839, 9), (0x1183a, 0x1183a, 7),
  (0x1193d, 0x1193e, 9), (0x11943, 0x11943, 7), (0x119e0, 0x119e0, 9), (0x11a34, 0x11a34, 9),
  (0x11a47, 0x11a47, 9), (0x11a99, 0x11a99, 9), (0x11c3f, 0x11c3f, 9), (0x11d42, 0x11d42, 7),
  (0x11d44, 0x11d45, 9), (0x11d97, 0x11d97, 9), (0x16af0, 0x16af4, 1), (0x16b30, 0x16b36, 230),
  (0x16ff0, 0x16ff1, 6), (0x1bc9e, 0x1bc9e, 1), (0x1d165, 0x1d166, 216), (0x1d167, 0x1d169, 1),
  (0x1d16d, 0x1d16d, 226), (0x1d16e, 0x1d172, 216), (0x1d17b, 0x1d182, 220),
  (0x1d185, 0x1d189, 230), (0x1d18a, 0x1d18b, 220), (0x1d1aa, 0x1d1ad, 230),
  (0x1d242, 0x1d244, 230), (0x1e000, 0x1e006, 230), (0x1e008, 0x1e018, 230),
  (0x1e01b, 0x1e021, 230), (0x1e023, 0x1e024, 230), (0x1e026, 0x1e02a, 230),
  (0x1e130, 0x1e136, 230), (0x1e2ae, 0x1e2ae, 230), (0x1e2ec, 0x1e2ef, 230),
  (0x1e8d0, 0x1e8d6, 220), (0x1e944, 0x1e949, 230), (0x1e94a, 0x1e94a, 7)]

/-- The code points with a combining class other than 0, with the class. -/
def combiningClasses : List (Nat × Nat × Nat) :=
  combiningClassesFrom300 ++ combiningClassesFrom73d ++ combiningClassesFrom1a7f
    ++ combiningClassesFrom10a38

/-- The characters that take a mark, by the mark: each mark with the characters that
form a precomposed character with it. -/
def compositions : List (Nat × List Nat) := [
  (0x300, [0x41, 0x45, 0x49, 0x4e, 0x4f, 0x55, 0x57, 0x59, 0x61, 0x65, 0x69, 0x6e, 0x6f, 0x75,
    0x77, 0x79, 0xa8, 0xc2, 0xca, 0xd4, 0xdc, 0xe2, 0xea, 0xf4, 0xfc, 0x102, 0x103, 0x112, 0x113,
    0x14c, 0x14d, 0x1a0, 0x1a1, 0x1af, 0x1b0, 0x391, 0x395, 0x397, 0x399, 0x39f, 0x3a5, 0x3a9,
    0x3b1, 0x3b5, 0x3b7, 0x3b9, 0x3bf, 0x3c5, 0x3c9, 0x3ca, 0x3cb, 0x415, 0x418, 0x435, 0x438,
    0x1f00, 0x1f01, 0x1f08, 0x1f09, 0x1f10, 0x1f11, 0x1f18, 0x1f19, 0x1f20, 0x1f21, 0x1f28,
    0x1f29, 0x1f30, 0x1f31, 0x1f38, 0x1f39, 0x1f40, 0x1f41, 0x1f48, 0x1f49, 0x1f50, 0x1f51,
    0x1f59, 0x1f60, 0x1f61, 0x1f68, 0x1f69, 0x1fbf, 0x1ffe]),
  (0x301, [0x41, 0x43, 0x45, 0x47, 0x49, 0x4b, 0x4c, 0x4d, 0x4e, 0x4f, 0x50, 0x52, 0x53, 0x55,
    0x57, 0x59, 0x5a, 0x61, 0x63, 0x65, 0x67, 0x69, 0x6b, 0x6c, 0x6d, 0x6e, 0x6f, 0x70, 0x72,
    0x73, 0x75, 0x77, 0x79, 0x7a, 0xa8, 0xc2, 0xc5, 0xc6, 0xc7, 0xca, 0xcf, 0xd4, 0xd5, 0xd8,
    0xdc, 0xe2, 0xe5, 0xe6, 0xe7, 0xea, 0xef, 0xf4, 0xf5, 0xf8, 0xfc, 0x102, 0x103, 0x112, 0x113,
    0x14c, 0x14d, 0x168, 0x169, 0x1a0, 0x1a1, 0x1af, 0x1b0, 0x391, 0x395, 0x397, 0x399, 0x39f,
    0x3a5, 0x3a9, 0x3b1, 0x3b5, 0x3b7, 0x3b9, 0x3bf, 0x3c5, 0x3c9, 0x3ca, 0x3cb, 0x3d2, 0x413,
    0x41a, 0x433, 0x43a, 0x1f00, 0x1f01, 0x1f08, 0x1f09, 0x1f10, 0x1f11, 0x1f18, 0x1f19, 0x1f20,
    0x1f21, 0x1f28, 0x1f29, 0x1f30, 0x1f31, 0x1f38, 0x1f39, 0x1f40, 0x1f41, 0x1f48, 0x1f49,
    0x1f50, 0x1f51, 0x1f59, 0x1f60, 0x1f61, 0x1f68, 0x1f69, 0x1fbf, 0x1ffe]),
  (0x302, [0x41, 0x43, 0x45, 0x47, 0x48, 0x49, 0x4a, 0x4f, 0x53, 0x55, 0x57, 0x59, 0x5a, 0x61,
    0x63, 0x65, 0x67, 0x68, 0x69, 0x6a, 0x6f, 0x73, 0x75, 0x77, 0x79, 0x7a, 0x1ea0, 0x1ea1,
    0x1eb8, 0x1eb9, 0x1ecc, 0x1ecd]),
  (0x303, [0x41, 0x45, 0x49, 0x4e, 0x4f, 0x55, 0x56, 0x59, 0x61, 0x65, 0x69, 0x6e, 0x6f, 0x75,
    0x76, 0x79, 0xc2, 0xca, 0xd4, 0xe2, 0xea, 0xf4, 0x102, 0x103, 0x1a0, 0x1a1, 0x1af, 0x1b0]),
  (0x304, [0x41, 0x45, 0x47, 0x49, 0x4f, 0x55, 0x59, 0x61, 0x65, 0x67, 0x69, 0x6f, 0x75, 0x79,
    0xc4, 0xc6, 0xd5, 0xd6, 0xdc, 0xe4, 0xe6, 0xf5, 0xf6, 0xfc, 0x1ea, 0x1eb, 0x226, 0x227,
    0x22e, 0x22f, 0x391, 0x399, 0x3a5, 0x3b1, 0x3b9, 0x3c5, 0x418, 0x423, 0x438, 0x443, 0x1e36,
    0x1e37, 0x1e5a, 0x1e5b]),
  (0x306, [0x41, 0x45, 0x47, 0x49, 0x4f, 0x55, 0x61, 0x65, 0x67, 0x69, 0x6f, 0x75, 0x228, 0x229,
    0x391, 0x399, 0x3a5, 0x3b1, 0x3b9, 0x3c5, 0x410, 0x415, 0x416, 0x418, 0x423, 0x430, 0x435,
    0x436, 0x438, 0x443, 0x1ea0, 0x1ea1]),
  (0x307, [0x41, 0x42, 0x43, 0x44, 0x45, 0x46, 0x47, 0x48, 0x49, 0x4d, 0x4e, 0x4f, 0x50, 0x52,
    0x53, 0x54, 0x57, 0x58, 0x59, 0x5a, 0x61, 0x62, 0x63, 0x64, 0x65, 0x66, 0x67, 0x68, 0x6d,
    0x6e, 0x6f, 0x70, 0x72, 0x73, 0x74, 0x77, 0x78, 0x79, 0x7a, 0x15a, 0x15b, 0x160, 0x161,
    0x17f, 0x1e62, 0x1e63]),
  (0x308, [0x41, 0x45, 0x48, 0x49, 0x4f, 0x55, 0x57, 0x58, 0x59, 0x61, 0x65, 0x68, 0x69, 0x6f,
    0x74, 0x75, 0x77, 0x78, 0x79, 0xd5, 0xf5, 0x16a, 0x16b, 0x399, 0x3a5, 0x3b9, 0x3c5, 0x3d2,
    0x406, 0x410, 0x415, 0x416, 0x417, 0x418, 0x41e, 0x423, 0x427, 0x42b, 0x42d, 0x430, 0x435,
    0x436, 0x437, 0x438, 0x43e, 0x443, 0x447, 0x44b, 0x44d, 0x456, 0x4d8, 0x4d9, 0x4e8, 0x4e9]),
  (0x309, [0x41, 0x45, 0x49, 0x4f, 0x55, 0x59, 0x61, 0x65, 0x69, 0x6f, 0x75, 0x79, 0xc2, 0xca,
    0xd4, 0xe2, 0xea, 0xf4, 0x102, 0x103, 0x1a0, 0x1a1, 0x1af, 0x1b0]),
  (0x30a, [0x41, 0x55, 0x61, 0x75, 0x77, 0x79]),
  (0x30b, [0x4f, 0x55, 0x6f, 0x75, 0x423, 0x443]),
  (0x30c, [0x41, 0x43, 0x44, 0x45, 0x47, 0x48, 0x49, 0x4b, 0x4c, 0x4e, 0x4f, 0x52, 0x53, 0x54,
    0x55, 0x5a, 0x61, 0x63, 0x64, 0x65, 0x67, 0x68, 0x69, 0x6a, 0x6b, 0x6c, 0x6e, 0x6f, 0x72,
    0x73, 0x74, 0x75, 0x7a, 0xdc, 0xfc, 0x1b7, 0x292]),
  (0x30f, [0x41, 0x45, 0x49, 0x4f, 0x52, 0x55, 0x61, 0x65, 0x69, 0x6f, 0x72, 0x75, 0x474, 0x475]),
  (0x311, [0x41, 0x45, 0x49, 0x4f, 0x52, 0x55, 0x61, 0x65, 0x69, 0x6f, 0x72, 0x75]),
  (0x313, [0x391, 0x395, 0x397, 0x399, 0x39f, 0x3a9, 0x3b1, 0x3b5, 0x3b7, 0x3b9, 0x3bf, 0x3c1,
    0x3c5, 0x3c9]),
  (0x314, [0x391, 0x395, 0x397, 0x399, 0x39f, 0x3a1, 0x3a5, 0x3a9, 0x3b1, 0x3b5, 0x3b7, 0x3b9,
    0x3bf, 0x3c1, 0x3c5, 0x3c9]),
  (0x31b, [0x4f, 0x55, 0x6f, 0x75]),
  (0x323, [0x41, 0x42, 0x44, 0x45, 0x48, 0x49, 0x4b, 0x4c, 0x4d, 0x4e, 0x4f, 0x52, 0x53, 0x54,
    0x55, 0x56, 0x57, 0x59, 0x5a, 0x61, 0x62, 0x64, 0x65, 0x68, 0x69, 0x6b, 0x6c, 0x6d, 0x6e,
    0x6f, 0x72, 0x73, 0x74, 0x75, 0x76, 0x77, 0x79, 0x7a, 0x1a0, 0x1a1, 0x1af, 0x1b0]),
  (0x324, [0x55, 0x75]),
  (0x325, [0x41, 0x61]),
  (0x326, [0x53, 0x54, 0x73, 0x74]),
  (0x327, [0x43, 0x44, 0x45, 0x47, 0x48, 0x4b, 0x4c, 0x4e, 0x52, 0x53, 0x54, 0x63, 0x64, 0x65,
    0x67, 0x68, 0x6b, 0x6c, 0x6e, 0x72, 0x73, 0x74]),
  (0x328, [0x41, 0x45, 0x49, 0x4f, 0x55, 0x61, 0x65, 0x69, 0x6f, 0x75]),
  (0x32d, [0x44, 0x45, 0x4c, 0x4e, 0x54, 0x55, 0x64, 0x65, 0x6c, 0x6e, 0x74, 0x75]),
  (0x32e, [0x48, 0x68]),
  (0x330, [0x45, 0x49, 0x55, 0x65, 0x69, 0x75]),
  (0x331, [0x42, 0x44, 0x4b, 0x4c, 0x4e, 0x52, 0x54, 0x5a, 0x62, 0x64, 0x68, 0x6b, 0x6c, 0x6e,
    0x72, 0x74, 0x7a]),
  (0x338, [0x3c, 0x3d, 0x3e, 0x2190, 0x2192, 0x2194, 0x21d0, 0x21d2, 0x21d4, 0x2203, 0x2208,
    0x220b, 0x2223, 0x2225, 0x223c, 0x2243, 0x2245, 0x2248, 0x224d, 0x2261, 0x2264, 0x2265,
    0x2272, 0x2273, 0x2276, 0x2277, 0x227a, 0x227b, 0x227c, 0x227d, 0x2282, 0x2283, 0x2286,
    0x2287, 0x2291, 0x2292, 0x22a2, 0x22a8, 0x22a9, 0x22ab, 0x22b2, 0x22b3, 0x22b4, 0x22b5]),
  (0x342, [0xa8, 0x3b1, 0x3b7, 0x3b9, 0x3c5, 0x3c9, 0x3ca, 0x3cb, 0x1f00, 0x1f01, 0x1f08, 0x1f09,
    0x1f20, 0x1f21, 0x1f28, 0x1f29, 0x1f30, 0x1f31, 0x1f38, 0x1f39, 0x1f50, 0x1f51, 0x1f59,
    0x1f60, 0x1f61, 0x1f68, 0x1f69, 0x1fbf, 0x1ffe]),
  (0x345, [0x391, 0x397, 0x3a9, 0x3ac, 0x3ae, 0x3b1, 0x3b7, 0x3c9, 0x3ce, 0x1f00, 0x1f01, 0x1f02,
    0x1f03, 0x1f04, 0x1f05, 0x1f06, 0x1f07, 0x1f08, 0x1f09, 0x1f0a, 0x1f0b, 0x1f0c, 0x1f0d,
    0x1f0e, 0x1f0f, 0x1f20, 0x1f21, 0x1f22, 0x1f23, 0x1f24, 0x1f25, 0x1f26, 0x1f27, 0x1f28,
    0x1f29, 0x1f2a, 0x1f2b, 0x1f2c, 0x1f2d, 0x1f2e, 0x1f2f, 0x1f60, 0x1f61, 0x1f62, 0x1f63,
    0x1f64, 0x1f65, 0x1f66, 0x1f67, 0x1f68, 0x1f69, 0x1f6a, 0x1f6b, 0x1f6c, 0x1f6d, 0x1f6e,
    0x1f6f, 0x1f70, 0x1f74, 0x1f7c, 0x1fb6, 0x1fc6, 0x1ff6]),
  (0x653, [0x627]),
  (0x654, [0x627, 0x648, 0x64a, 0x6c1, 0x6d2, 0x6d5]),
  (0x655, [0x627]),
  (0x93c, [0x928, 0x930, 0x933]),
  (0x9be, [0x9c7]),
  (0x9d7, [0x9c7]),
  (0xb3e, [0xb47]),
  (0xb56, [0xb47]),
  (0xb57, [0xb47]),
  (0xbbe, [0xbc6, 0xbc7]),
  (0xbd7, [0xb92, 0xbc6]),
  (0xc56, [0xc46]),
  (0xcc2, [0xcc6]),
  (0xcd5, [0xcbf, 0xcc6, 0xcca]),
  (0xcd6, [0xcc6]),
  (0xd3e, [0xd46, 0xd47]),
  (0xd57, [0xd46]),
  (0xdca, [0xdd9, 0xddc]),
  (0xdcf, [0xdd9]),
  (0xddf, [0xdd9]),
  (0x102e, [0x1025]),
  (0x1b35, [0x1b05, 0x1b07, 0x1b09, 0x1b0b, 0x1b0d, 0x1b11, 0x1b3a, 0x1b3c, 0x1b3e, 0x1b3f,
    0x1b42]),
  (0x3099, [0x3046, 0x304b, 0x304d, 0x304f, 0x3051, 0x3053, 0x3055, 0x3057, 0x3059, 0x305b,
    0x305d, 0x305f, 0x3061, 0x3064, 0x3066, 0x3068, 0x306f, 0x3072, 0x3075, 0x3078, 0x307b,
    0x309d, 0x30a6, 0x30ab, 0x30ad, 0x30af, 0x30b1, 0x30b3, 0x30b5, 0x30b7, 0x30b9, 0x30bb,
    0x30bd, 0x30bf, 0x30c1, 0x30c4, 0x30c6, 0x30c8, 0x30cf, 0x30d2, 0x30d5, 0x30d8, 0x30db,
    0x30ef, 0x30f0, 0x30f1, 0x30f2, 0x30fd]),
  (0x309a, [0x306f, 0x3072, 0x3075, 0x3078, 0x307b, 0x30cf, 0x30d2, 0x30d5, 0x30d8, 0x30db]),
  (0x110ba, [0x11099, 0x1109b, 0x110a5]),
  (0x11127, [0x11131, 0x11132]),
  (0x1133e, [0x11347]),
  (0x11357, [0x11347]),
  (0x114b0, [0x114b9]),
  (0x114ba, [0x114b9]),
  (0x114bd, [0x114b9]),
  (0x115af, [0x115b8, 0x115b9]),
  (0x11930, [0x11935])]

end LogCourier.Dns.Idna
