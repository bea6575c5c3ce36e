/-!
# Direction classes

The direction classes of the code points that may stand in a label, as far as the rule for
labels with characters written from right to left asks for them.
-/

namespace LogCourier.Dns.Idna

/-- The direction classes of characters; a character of none of the others is `l`. -/
inductive Direction
  | l
  | r
  | al
  | an
  | en
  | es
  | cs
  | et
  | on
  | bn
  | nsm
  deriving DecidableEq, Repr

/-- The code points with a direction class other than `l`, with the class, from U+0000 on. -/
def directionRangesFrom0 : List (Nat × Nat × Direction) := [
  (0x0, 0x8, .bn), (0xe, 0x1b, .bn), (0x21, 0x22, .on), (0x23, 0x25, .et), (0x26, 0x2a, .on),
  (0x2b, 0x2b, .es), (0x2c, 0x2c, .cs), (0x2d, 0x2d, .es), (0x2e, 0x2f, .cs), (0x30, 0x39, .en),
  (0x3a, 0x3a, .cs), (0x3b, 0x60, .on), (0x7b, 0x7e, .on), (0x7f, 0x7f, .bn), (0xa1, 0xa1, .on),
  (0xa2, 0xa5, .et), (0xa6, 0xae, .on), (0xb0, 0xb1, .et), (0xb6, 0xd7, .on), (0xf7, 0xf7, .on),
  (0x2b9, 0x2ba, .on), (0x2c2, 0x2cf, .on), (0x2d2, 0x2ed, .on), (0x2ef, 0x2ff, .on),
  (0x300, 0x36f, .nsm), (0x375, 0x375, .on), (0x3f6, 0x3f6, .on), (0x483, 0x489, .nsm),
  (0x58a, 0x58e, .on), (0x58f, 0x58f, .et), (0x591, 0x5bd, .nsm), (0x5be, 0x5be, .r),
  (0x5bf, 0x5bf, .nsm), (0x5c0, 0x5c0, .r), (0x5c1, 0x5c2, .nsm), (0x5c3, 0x5c3, .r),
  (0x5c4, 0x5c5, .nsm), (0x5c6, 0x5c6, .r), (0x5c7, 0x5c7, .nsm), (0x5d0, 0x5f4, .r),
  (0x606, 0x607, .on), (0x608, 0x608, .al), (0x609, 0x60a, .et), (0x60b, 0x60b, .al),
  (0x60c, 0x60c, .cs), (0x60d, 0x60d, .al), (0x60e, 0x60f, .on), (0x610, 0x61a, .nsm),
  (0x61b, 0x64a, .al), (0x64b, 0x65f, .nsm), (0x660, 0x669, .an), (0x66a, 0x66a, .et),
  (0x66b, 0x66c, .an), (0x66d, 0x66f, .al), (0x670, 0x670, .nsm), (0x671, 0x6d5, .al),
  (0x6d6, 0x6dc, .nsm), (0x6de, 0x6de, .on), (0x6df, 0x6e4, .nsm), (0x6e5, 0x6e6, .al),
  (0x6e7, 0x6e8, .nsm), (0x6e9, 0x6e9, .on), (0x6ea, 0x6ed, .nsm), (0x6ee, 0x6ef, .al),
  (0x6f0, 0x6f9, .en), (0x6fa, 0x710, .al), (0x711, 0x711, .nsm), (0x712, 0x72f, .al),
  (0x730, 0x74a, .nsm), (0x74d, 0x7a5, .al), (0x7a6, 0x7b0, .nsm), (0x7b1, 0x7b1, .al),
  (0x7c0, 0x7ea, .r), (0x7eb, 0x7f3, .nsm), (0x7f4, 0x7f5, .r), (0x7f6, 0x7f9, .on),
  (0x7fa, 0x7fa, .r), (0x7fd, 0x7fd, .nsm), (0x7fe, 0x815, .r), (0x816, 0x819, .nsm),
  (0x81a, 0x81a, .r), (0x81b, 0x823, .nsm), (0x824, 0x824, .r), (0x825, 0x827, .nsm),
  (0x828, 0x828, .r), (0x829, 0x82d, .nsm), (0x830, 0x858, .r), (0x859, 0x85b, .nsm),
  (0x85e, 0x85e, .r), (0x860, 0x88e, .al), (0x898, 0x89f, .nsm), (0x8a0, 0x8c9, .al),
  (0x8ca, 0x902, .nsm), (0x93a, 0x93a, .nsm), (0x93c, 0x93c, .nsm), (0x941, 0x948, .nsm),
  (0x94d, 0x94d, .nsm), (0x951, 0x957, .nsm), (0x962, 0x963, .nsm), (0x981, 0x981, .nsm)]

/-- The code points with a direction class other than `l`, with the class, from U+09BC on. -/
def directionRangesFrom9bc : List (Nat × Nat × Direction) := [
  (0x9bc, 0x9bc, .nsm), (0x9c1, 0x9c4, .nsm), (0x9cd, 0x9cd, .nsm), (0x9e2, 0x9e3, .nsm),
  (0x9f2, 0x9f3, .et), (0x9fb, 0x9fb, .et), (0x9fe, 0xa02, .nsm), (0xa3c, 0xa3c, .nsm),
  (0xa41, 0xa51, .nsm), (0xa70, 0xa71, .nsm), (0xa75, 0xa75, .nsm), (0xa81, 0xa82, .nsm),
  (0xabc, 0xabc, .nsm), (0xac1, 0xac8, .nsm), (0xacd, 0xacd, .nsm), (0xae2, 0xae3, .nsm),
  (0xaf1, 0xaf1, .et), (0xafa, 0xb01, .nsm), (0xb3c, 0xb3c, .nsm), (0xb3f, 0xb3f, .nsm),
  (0xb41, 0xb44, .nsm), (0xb4d, 0xb56, .nsm), (0xb62, 0xb63, .nsm), (0xb82, 0xb82, .nsm),
  (0xbc0, 0xbc0, .nsm), (0xbcd, 0xbcd, .nsm), (0xbf3, 0xbf8, .on), (0xbf9, 0xbf9, .et),
  (0xbfa, 0xbfa, .on), (0xc00, 0xc00, .nsm), (0xc04, 0xc04, .nsm), (0xc3c, 0xc3c, .nsm),
  (0xc3e, 0xc40, .nsm), (0xc46, 0xc56, .nsm), (0xc62, 0xc63, .nsm), (0xc78, 0xc7e, .on),
  (0xc81, 0xc81, .nsm), (0xcbc, 0xcbc, .nsm), (0xccc, 0xccd, .nsm), (0xce2, 0xce3, .nsm),
  (0xd00, 0xd01, .nsm), (0xd3b, 0xd3c, .nsm), (0xd41, 0xd44, .nsm), (0xd4d, 0xd4d, .nsm),
  (0xd62, 0xd63, .nsm), (0xd81, 0xd81, .nsm), (0xdca, 0xdca, .nsm), (0xdd2, 0xdd6, .nsm),
  (0xe31, 0xe31, .nsm), (0xe34, 0xe3a, .nsm), (0xe3f, 0xe3f, .et), (0xe47, 0xe4e, .nsm),
  (0xeb1, 0xeb1, .nsm), (0xeb4, 0xebc, .nsm), (0xec8, 0xecd, .nsm), (0xf18, 0xf19, .nsm),
  (0xf35, 0xf35, .nsm), (0xf37, 0xf37, .nsm), (0xf39, 0xf39, .nsm), (0xf3a, 0xf3d, .on),
  (0xf71, 0xf7e, .nsm), (0xf80, 0xf84, .nsm), (0xf86, 0xf87, .nsm), (0xf8d, 0xfbc, .nsm),
  (0xfc6, 0xfc6, .nsm), (0x102d, 0x1030, .nsm), (0x1032, 0x1037, .nsm), (0x1039, 0x103a, .nsm),
  (0x103d, 0x103e, .nsm), (0x1058, 0x1059, .nsm), (0x105e, 0x1060, .nsm), (0x1071, 0x1074, .nsm),
  (0x1082, 0x1082, .nsm), (0x1085, 0x1086, .nsm), (0x108d, 0x108d, .nsm), (0x109d, 0x109d, .nsm),
  (0x135d, 0x135f, .nsm), (0x1390, 0x1399, .on), (0x1400, 0x1400, .on), (0x169b, 0x169c, .on),
  (0x1712, 0x1714, .nsm), (0x1732, 0x1733, .nsm), (0x1752, 0x1753, .nsm), (0x1772, 0x1773, .nsm),
  (0x17b7, 0x17bd, .nsm), (0x17c6, 0x17c6, .nsm), (0x17c9, 0x17d3, .nsm), (0x17db, 0x17db, .et),
  (0x17dd, 0x17dd, .nsm), (0x17f0, 0x180a, .on), (0x1885, 0x1886, .nsm), (0x18a9, 0x18a9, .nsm),
  (0x1920, 0x1922, .nsm), (0x1927, 0x1928, .nsm), (0x1932, 0x1932, .nsm), (0x1939, 0x193b, .nsm),
  (0x1940, 0x1945, .on), (0x19de, 0x19ff, .on), (0x1a17, 0x1a18, .nsm), (0x1a1b, 0x1a1b, .nsm)]

/-- The code points with a direction class other than `l`, with the class, from U+1A56 on. -/
def directionRangesFrom1a56 : List (Nat × Nat × Direction) := [
  (0x1a56, 0x1a56, .nsm), (0x1a58, 0x1a60, .nsm), (0x1a62, 0x1a62, .nsm), (0x1a65, 0x1a6c, .nsm),
  (0x1a73, 0x1a7f, .nsm), (0x1ab0, 0x1ace, .nsm), (0x1b00, 0x1b03, .nsm), (0x1b34, 0x1b34, .nsm),
  (0x1b36, 0x1b3a, .nsm), (0x1b3c, 0x1b3c, .nsm), (0x1b42, 0x1b42, .nsm), (0x1b6b, 0x1b73, .nsm),
  (0x1b80, 0x1b81, .nsm), (0x1ba2, 0x1ba5, .nsm), (0x1ba8, 0x1ba9, .nsm), (0x1bab, 0x1bad, .nsm),
  (0x1be6, 0x1be6, .nsm), (0x1be8, 0x1be9, .nsm), (0x1bed, 0x1bed, .nsm), (0x1bef, 0x1bf1, .nsm),
  (0x1c2c, 0x1c33, .nsm), (0x1c36, 0x1c37, .nsm), (0x1cd0, 0x1cd2, .nsm), (0x1cd4, 0x1ce0, .nsm),
  (0x1ce2, 0x1ce8, .nsm), (0x1ced, 0x1ced, .nsm), (0x1cf4, 0x1cf4, .nsm), (0x1cf8, 0x1cf9, .nsm),
  (0x1dc0, 0x1dff, .nsm), (0x200c, 0x200d, .bn), (0x2010, 0x2027, .on), (0x2030, 0x2032, .et),
  (0x2035, 0x2043, .on), (0x2044, 0x2044, .cs), (0x2045, 0x205e, .on), (0x20a0, 0x20c0, .et),
  (0x20d0, 0x20f0, .nsm), (0x2104, 0x2129, .on), (0x212e, 0x212e, .et), (0x213a, 0x214d, .on),
  (0x218a, 0x2211, .on), (0x2212, 0x2212, .es), (0x2213, 0x2213, .et), (0x2214, 0x2335, .on),
  (0x237b, 0x2394, .on), (0x2396, 0x2426, .on), (0x2440, 0x26ab, .on), (0x26ad, 0x27ff, .on),
  (0x2900, 0x2b95, .on), (0x2b97, 0x2bff, .on), (0x2ce5, 0x2cea, .on), (0x2cef, 0x2cf1, .nsm),
  (0x2cf9, 0x2cff, .on), (0x2d7f, 0x2d7f, .nsm), (0x2de0, 0x2dff, .nsm), (0x2e00, 0x3004, .on),
  (0x3008, 0x3020, .on), (0x302a, 0x302d, .nsm), (0x3030, 0x3030, .on), (0x3037, 0x3037, .on),
  (0x303d, 0x303f, .on), (0x3099, 0x309a, .nsm), (0x30a0, 0x30a0, .on), (0x30fb, 0x30fb, .on),
  (0x31c0, 0x31e3, .on), (0x4dc0, 0x4dff, .on), (0xa490, 0xa4c6, .on), (0xa60d, 0xa60f, .on),
  (0xa66f, 0xa672, .nsm), (0xa673, 0xa673, .on), (0xa674, 0xa67d, .nsm), (0xa67e, 0xa67f, .on),
  (0xa69e, 0xa69f, .nsm), (0xa6f0, 0xa6f1, .nsm), (0xa700, 0xa721, .on), (0xa788, 0xa788, .on),
  (0xa802, 0xa802, .nsm), (0xa806, 0xa806, .nsm), (0xa80b, 0xa80b, .nsm), (0xa825, 0xa826, .nsm),
  (0xa828, 0xa82b, .on), (0xa82c, 0xa82c, .nsm), (0xa838, 0xa839, .et), (0xa874, 0xa877, .on),
  (0xa8c4, 0xa8c5, .nsm), (0xa8e0, 0xa8f1, .nsm), (0xa8ff, 0xa8ff, .nsm), (0xa926, 0xa92d, .nsm),
  (0xa947, 0xa951, .nsm), (0xa980, 0xa982, .nsm), (0xa9b3, 0xa9b3, .nsm), (0xa9b6, 0xa9b9, .nsm),
  (0xa9bc, 0xa9bd, .nsm), (0xa9e5, 0xa9e5, .nsm), (0xaa29, 0xaa2e, .nsm), (0xaa31, 0xaa32, .nsm),
  (0xaa35, 0xaa36, .nsm), (0xaa43, 0xaa43, .nsm), (0xaa4c, 0xaa4c, .nsm), (0xaa7c, 0xaa7c, .nsm)]

/-- The code points with a direction class other than `l`, with the class, from U+AAB0 on. -/
def directionRangesFromaab0 : List (Nat × Nat × Direction) := [
  (0xaab0, 0xaab0, .nsm), (0xaab2, 0xaab4, .nsm), (0xaab7, 0xaab8, .nsm), (0xaabe, 0xaabf, .nsm),
  (0xaac1, 0xaac1, .nsm), (0xaaec, 0xaaed, .nsm), (0xaaf6, 0xaaf6, .nsm), (0xab6a, 0xab6b, .on),
  (0xabe5, 0xabe5, .nsm), (0xabe8, 0xabe8, .nsm), (0xabed, 0xabed, .nsm), (0xfb1e, 0xfb1e, .nsm),
  (0xfbb2, 0xfbc2, .al), (0xfd3e, 0xfd4f, .on), (0xfdcf, 0xfdff, .on), (0xfe20, 0xfe2f, .nsm),
  (0xfe45, 0xfe46, .on), (0xfe73, 0xfe73, .al), (0x10101, 0x10101, .on), (0x10140, 0x1018c, .on),
  (0x10190, 0x101a0, .on), (0x101fd, 0x101fd, .nsm), (0x102e0, 0x102e0, .nsm),
  (0x102e1, 0x102fb, .en), (0x10376, 0x1037a, .nsm), (0x10800, 0x1091b, .r),
  (0x1091f, 0x1091f, .on), (0x10920, 0x1093f, .r), (0x10980, 0x10a00, .r),
  (0x10a01, 0x10a0f, .nsm), (0x10a10, 0x10a35, .r), (0x10a38, 0x10a3f, .nsm),
  (0x10a40, 0x10ae4, .r), (0x10ae5, 0x10ae6, .nsm), (0x10aeb, 0x10b35, .r),
  (0x10b39, 0x10b3f, .on), (0x10b40, 0x10cff, .r), (0x10d00, 0x10d23, .al),
  (0x10d24, 0x10d27, .nsm), (0x10d30, 0x10d39, .an), (0x10e60, 0x10e7e, .an),
  (0x10e80, 0x10ea9, .r), (0x10eab, 0x10eac, .nsm), (0x10ead, 0x10eb1, .r),
  (0x10f00, 0x10f27, .r), (0x10f30, 0x10f45, .al), (0x10f46, 0x10f50, .nsm),
  (0x10f51, 0x10f59, .al), (0x10f70, 0x10f81, .r), (0x10f82, 0x10f85, .nsm),
  (0x10f86, 0x10ff6, .r), (0x11001, 0x11001, .nsm), (0x11038, 0x11046, .nsm),
  (0x11052, 0x11065, .on), (0x11070, 0x11070, .nsm), (0x11073, 0x11074, .nsm),
  (0x1107f, 0x11081, .nsm), (0x110b3, 0x110b6, .nsm), (0x110b9, 0x110ba, .nsm),
  (0x110c2, 0x110c2, .nsm), (0x11100, 0x11102, .nsm), (0x11127, 0x1112b, .nsm),
  (0x1112d, 0x11134, .nsm), (0x11173, 0x11173, .nsm), (0x11180, 0x11181, .nsm),
  (0x111b6, 0x111be, .nsm), (0x111c9, 0x111cc, .nsm), (0x111cf, 0x111cf, .nsm),
  (0x1122f, 0x11231, .nsm), (0x11234, 0x11234, .nsm), (0x11236, 0x11237, .nsm),
  (0x1123e, 0x1123e, .nsm), (0x112df, 0x112df, .nsm), (0x112e3, 0x112ea, .nsm),
  (0x11300, 0x11301, .nsm), (0x1133b, 0x1133c, .nsm), (0x11340, 0x11340, .nsm),
  (0x11366, 0x11374, .nsm), (0x11438, 0x1143f, .nsm), (0x11442, 0x11444, .nsm),
  (0x11446, 0x11446, .nsm), (0x1145e, 0x1145e, .nsm), (0x114b3, 0x114b8, .nsm),
  (0x114ba, 0x114ba, .nsm), (0x114bf, 0x114c0, .nsm), (0x114c2, 0x114c3, .nsm),
  (0x115b2, 0x115b5, .nsm), (0x115bc, 0x115bd, .nsm), (0x115bf, 0x115c0, .nsm),
  (0x115dc, 0x115dd, .nsm), (0x11633, 0x1163a, .nsm), (0x1163d, 0x1163d, .nsm),
  (0x1163f, 0x11640, .nsm), (0x11660, 0x1166c, .on), (0x116ab, 0x116ab, .nsm),
  (0x116ad, 0x116ad, .nsm), (0x116b0, 0x116b5, .nsm), (0x116b7, 0x116b7, .nsm),
  (0x1171d, 0x1171f, .nsm), (0x11722, 0x11725, .nsm)]

/-- The code points with a direction class other than `l`, with the class, from U+11727 on. -/
def directionRangesFrom11727 : List (Nat × Nat × Direction) := [
  (0x11727, 0x1172b, .nsm), (0x1182f, 0x11837, .nsm), (0x11839, 0x1183a, .nsm),
  (0x1193b, 0x1193c, .nsm), (0x1193e, 0x1193e, .nsm), (0x11943, 0x11943, .nsm),
  (0x119d4, 0x119db, .nsm), (0x119e0, 0x119e0, .nsm), (0x11a01, 0x11a06, .nsm),
  (0x11a09, 0x11a0a, .nsm), (0x11a33, 0x11a38, .nsm), (0x11a3b, 0x11a3e, .nsm),
  (0x11a47, 0x11a47, .nsm), (0x11a51, 0x11a56, .nsm), (0x11a59, 0x11a5b, .nsm),
  (0x11a8a, 0x11a96, .nsm), (0x11a98, 0x11a99, .nsm), (0x11c30, 0x11c3d, .nsm),
  (0x11c92, 0x11ca7, .nsm), (0x11caa, 0x11cb0, .nsm), (0x11cb2, 0x11cb3, .nsm),
  (0x11cb5, 0x11cb6, .nsm), (0x11d31, 0x11d45, .nsm), (0x11d47, 0x11d47, .nsm),
  (0x11d90, 0x11d91, .nsm), (0x11d95, 0x11d95, .nsm), (0x11d97, 0x11d97, .nsm),
  (0x11ef3, 0x11ef4, .nsm), (0x11fd5, 0x11fdc, .on), (0x11fdd, 0x11fe0, .et),
  (0x11fe1, 0x11ff1, .on), (0x16af0, 0x16af4, .nsm), (0x16b30, 0x16b36, .nsm),
  (0x16f4f, 0x16f4f, .nsm), (0x16f8f, 0x16f92, .nsm), (0x16fe2, 0x16fe2, .on),
  (0x16fe4, 0x16fe4, .nsm), (0x1bc9d, 0x1bc9e, .nsm), (0x1cf00, 0x1cf46, .nsm),
  (0x1d167, 0x1d169, .nsm), (0x1d17b, 0x1d182, .nsm), (0x1d185, 0x1d18b, .nsm),
  (0x1d1aa, 0x1d1ad, .nsm), (0x1d1e9, 0x1d241, .on), (0x1d242, 0x1d244, .nsm),
  (0x1d245, 0x1d245, .on), (0x1d300, 0x1d356, .on), (0x1da00, 0x1da36, .nsm),
  (0x1da3b, 0x1da6c, .nsm), (0x1da75, 0x1da75, .nsm), (0x1da84, 0x1da84, .nsm),
  (0x1da9b, 0x1daaf, .nsm), (0x1e000, 0x1e02a, .nsm), (0x1e130, 0x1e136, .nsm),
  (0x1e2ae, 0x1e2ae, .nsm), (0x1e2ec, 0x1e2ef, .nsm), (0x1e2ff, 0x1e2ff, .et),
  (0x1e800, 0x1e8cf, .r), (0x1e8d0, 0x1e8d6, .nsm), (0x1e922, 0x1e943, .r),
  (0x1e944, 0x1e94a, .nsm), (0x1e94b, 0x1e95f, .r), (0x1ec71, 0x1ed3d, .al),
  (0x1eef0, 0x1f12f, .on), (0x1f16d, 0x1f16f, .on), (0x1f1ad, 0x1f1ad, .on),
  (0x1f260, 0x1f6d7, .on), (0x1f6dd, 0x1f773, .on), (0x1f780, 0x1f7d8, .on),
  (0x1f7e0, 0x1f8b1, .on), (0x1f900, 0x1fa53, .on), (0x1fa60, 0x1fa74, .on),
  (0x1fa78, 0x1fa86, .on), (0x1fa90, 0x1faac, .on), (0x1fab0, 0x1faba, .on),
  (0x1fac0, 0x1fac5, .on), (0x1fad0, 0x1fad9, .on), (0x1fae0, 0x1fae7, .on),
  (0x1faf0, 0x1faf6, .on), (0x1fb00, 0x1fbca, .on)]

/-- The code points with a direction class other than `l`, with the class. -/
def directionRanges : List (Nat × Nat × Direction) :=
  directionRangesFrom0 ++ directionRangesFrom9bc ++ directionRangesFrom1a56
    ++ directionRangesFromaab0 ++ directionRangesFrom11727

end LogCourier.Dns.Idna
