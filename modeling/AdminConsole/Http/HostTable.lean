/-!
# Http/HostTable — characters in the names of hosts

Runs `(first, last, step)` of the characters `first, first + step, …, last`: those that may stand
in a name, those that are marks, those that are written from right to left, and those that join
with their neighbours.
-/

namespace AdminConsole.Http

/-! ## Characters that may stand in a name -/

/-- Part 1 of `validRuns`, by rising code point. -/
def validRunsPart1 : List (Nat × Nat × Nat) := [
  (0x2d, 0x2d, 1), (0x30, 0x39, 1), (0x61, 0x7a, 1), (0xdf, 0xf6, 1), (0xf8, 0xff, 1),
  (0x101, 0x131, 2), (0x135, 0x137, 2), (0x138, 0x13e, 2), (0x142, 0x148, 2), (0x14b, 0x177, 2),
  (0x17a, 0x180, 2), (0x183, 0x185, 2), (0x188, 0x188, 1), (0x18c, 0x18d, 1), (0x192, 0x192, 1),
  (0x195, 0x195, 1), (0x199, 0x19b, 1), (0x19e, 0x19e, 1), (0x1a1, 0x1a5, 2), (0x1a8, 0x1aa, 2),
  (0x1ab, 0x1ad, 2), (0x1b0, 0x1b0, 1), (0x1b4, 0x1b6, 2), (0x1b9, 0x1c3, 2), (0x1ba, 0x1ba, 1),
  (0x1be, 0x1c2, 2), (0x1ce, 0x1dc, 2), (0x1dd, 0x1ef, 2), (0x1f0, 0x1f0, 1), (0x1f5, 0x1f5, 1),
  (0x1f9, 0x239, 2), (0x234, 0x238, 2), (0x23c, 0x23c, 1), (0x23f, 0x240, 1), (0x242, 0x242, 1),
  (0x247, 0x2af, 2), (0x250, 0x2ae, 2), (0x2b9, 0x2c1, 1), (0x2c6, 0x2d1, 1), (0x2ec, 0x2ee, 2),
  (0x300, 0x33f, 1), (0x342, 0x342, 1), (0x346, 0x36e, 2), (0x347, 0x34d, 2), (0x351, 0x373, 2),
  (0x377, 0x377, 1), (0x37b, 0x37d, 1), (0x390, 0x390, 1), (0x3ac, 0x3ce, 1), (0x3d7, 0x3ef, 2),
  (0x3f3, 0x3f3, 1), (0x3f8, 0x3f8, 1), (0x3fb, 0x3fc, 1), (0x430, 0x45f, 1), (0x461, 0x487, 2),
  (0x484, 0x486, 2), (0x48b, 0x4bf, 2), (0x4c2, 0x4ce, 2), (0x4cf, 0x52f, 2), (0x559, 0x559, 1),
  (0x560, 0x586, 1), (0x588, 0x588, 1), (0x591, 0x5bd, 1), (0x5bf, 0x5c1, 2), (0x5c2, 0x5c4, 2),
  (0x5c5, 0x5c7, 2), (0x5d0, 0x5ea, 1), (0x5ef, 0x5f2, 1), (0x610, 0x61a, 1), (0x620, 0x63f, 1),
  (0x641, 0x65f, 1), (0x66e, 0x674, 1), (0x679, 0x6d3, 1), (0x6d5, 0x6dc, 1), (0x6df, 0x6e8, 1),
  (0x6ea, 0x6ef, 1), (0x6fa, 0x6ff, 1), (0x710, 0x74a, 1), (0x74d, 0x7b1, 1), (0x7c0, 0x7f5, 1),
  (0x7fd, 0x7fd, 1), (0x800, 0x82d, 1), (0x840, 0x85b, 1), (0x860, 0x86a, 1), (0x870, 0x887, 1),
  (0x889, 0x88f, 1), (0x897, 0x957, 2), (0x898, 0x8e0, 2), (0x8e4, 0x956, 2), (0x960, 0x963, 1),
  (0x966, 0x96f, 1), (0x971, 0x983, 1), (0x985, 0x98c, 1), (0x98f, 0x990, 1), (0x993, 0x9a8, 1),
  (0x9aa, 0x9b0, 1), (0x9b2, 0x9b2, 1), (0x9b6, 0x9b9, 1), (0x9bc, 0x9c4, 1), (0x9c7, 0x9c8, 1),
  (0x9cb, 0x9ce, 1), (0x9d7, 0x9d7, 1), (0x9e0, 0x9e3, 1), (0x9e6, 0x9f1, 1), (0x9fc, 0x9fe, 2),
  (0xa01, 0xa09, 2), (0xa02, 0xa02, 1), (0xa06, 0xa0a, 2), (0xa0f, 0xa10, 1), (0xa13, 0xa28, 1),
  (0xa2a, 0xa30, 1), (0xa32, 0xa32, 1), (0xa35, 0xa35, 1), (0xa38, 0xa39, 1), (0xa3c, 0xa42, 2),
  (0xa3f, 0xa41, 2), (0xa47, 0xa48, 1), (0xa4b, 0xa4d, 1), (0xa51, 0xa51, 1), (0xa5c, 0xa5c, 1),
  (0xa66, 0xa75, 1), (0xa81, 0xaa7, 2), (0xa82, 0xa82, 1), (0xa86, 0xa8c, 2), (0xa90, 0xa90, 1),
  (0xa94, 0xab2, 2), (0xaab, 0xaaf, 2), (0xab3, 0xab9, 2), (0xab6, 0xab8, 2), (0xabc, 0xac5, 1),
  (0xac7, 0xacd, 2), (0xac8, 0xac8, 1), (0xacc, 0xacc, 1), (0xad0, 0xad0, 1), (0xae0, 0xae3, 1),
  (0xae6, 0xaef, 1), (0xaf9, 0xb0b, 2), (0xafa, 0xafe, 2), (0xb02, 0xb02, 1), (0xb06, 0xb0c, 2),
  (0xb0f, 0xb10, 1), (0xb13, 0xb28, 1), (0xb2a, 0xb30, 1), (0xb32, 0xb33, 1), (0xb35, 0xb39, 1),
  (0xb3c, 0xb44, 1), (0xb47, 0xb48, 1), (0xb4b, 0xb4d, 1), (0xb55, 0xb57, 1), (0xb5f, 0xb63, 1),
  (0xb66, 0xb6f, 1), (0xb71, 0xb71, 1), (0xb82, 0xb83, 1), (0xb85, 0xb8a, 1), (0xb8e, 0xb94, 2),
  (0xb8f, 0xb8f, 1), (0xb93, 0xb95, 2), (0xb99, 0xb9a, 1), (0xb9c, 0xb9e, 2), (0xb9f, 0xb9f, 1)]

/-- Part 2 of `validRuns`, by rising code point. -/
def validRunsPart2 : List (Nat × Nat × Nat) := [
  (0xba3, 0xba4, 1), (0xba8, 0xbaa, 1), (0xbae, 0xbb9, 1), (0xbbe, 0xbc2, 1), (0xbc6, 0xbcc, 2),
  (0xbc7, 0xbc7, 1), (0xbcb, 0xbcd, 2), (0xbd0, 0xbd0, 1), (0xbd7, 0xbd7, 1), (0xbe6, 0xbef, 1),
  (0xc00, 0xc38, 2), (0xc01, 0xc0b, 2), (0xc0f, 0xc0f, 1), (0xc13, 0xc27, 2), (0xc2b, 0xc39, 2),
  (0xc3c, 0xc44, 1), (0xc46, 0xc4c, 2), (0xc47, 0xc47, 1), (0xc4b, 0xc4d, 2), (0xc55, 0xc56, 1),
  (0xc58, 0xc5a, 1), (0xc5c, 0xc5d, 1), (0xc60, 0xc63, 1), (0xc66, 0xc6f, 1), (0xc80, 0xc83, 1),
  (0xc85, 0xc8c, 1), (0xc8e, 0xcb2, 2), (0xc8f, 0xc8f, 1), (0xc93, 0xca7, 2), (0xcab, 0xcb9, 2),
  (0xcb6, 0xcb8, 2), (0xcbc, 0xcc4, 1), (0xcc6, 0xccc, 2), (0xcc7, 0xcc7, 1), (0xccb, 0xccd, 2),
  (0xcd5, 0xcd6, 1), (0xcdc, 0xce2, 2), (0xcdd, 0xcdd, 1), (0xce1, 0xce3, 2), (0xce6, 0xcef, 1),
  (0xcf1, 0xcf3, 1), (0xd00, 0xd4e, 2), (0xd01, 0xd0b, 2), (0xd0f, 0xd0f, 1), (0xd13, 0xd43, 2),
  (0xd47, 0xd47, 1), (0xd4b, 0xd4d, 2), (0xd54, 0xd57, 1), (0xd5f, 0xd63, 1), (0xd66, 0xd6f, 1),
  (0xd7a, 0xd7f, 1), (0xd81, 0xd95, 2), (0xd82, 0xd82, 1), (0xd86, 0xd96, 2), (0xd9a, 0xdb1, 1),
  (0xdb3, 0xdbb, 1), (0xdbd, 0xdbd, 1), (0xdc0, 0xdc6, 1), (0xdca, 0xdca, 1), (0xdcf, 0xdd4, 1),
  (0xdd6, 0xdde, 2), (0xdd9, 0xddf, 2), (0xde6, 0xdef, 1), (0xdf2, 0xdf3, 1), (0xe01, 0xe32, 1),
  (0xe34, 0xe3a, 1), (0xe40, 0xe4e, 1), (0xe50, 0xe59, 1), (0xe81, 0xe82, 1), (0xe84, 0xea2, 2),
  (0xe87, 0xe89, 2), (0xe8d, 0xeb1, 2), (0xea8, 0xebc, 2), (0xeb5, 0xebd, 2), (0xec0, 0xed8, 2),
  (0xec1, 0xec3, 2), (0xec9, 0xecd, 2), (0xed1, 0xed9, 2), (0xede, 0xedf, 1), (0xf00, 0xf00, 1),
  (0xf0b, 0xf0b, 1), (0xf18, 0xf19, 1), (0xf20, 0xf29, 1), (0xf35, 0xf39, 2), (0xf3e, 0xf42, 1),
  (0xf44, 0xf47, 1), (0xf49, 0xf4c, 1), (0xf4e, 0xf51, 1), (0xf53, 0xf56, 1), (0xf58, 0xf5b, 1),
  (0xf5d, 0xf68, 1), (0xf6a, 0xf6c, 1), (0xf71, 0xf72, 1), (0xf74, 0xf74, 1), (0xf7a, 0xf96, 2),
  (0xf7b, 0xf7f, 2), (0xf83, 0xf83, 1), (0xf87, 0xf91, 2), (0xf95, 0xf9b, 2), (0xf9a, 0xfa0, 2),
  (0xf9f, 0xfa5, 2), (0xfa4, 0xfaa, 2), (0xfa9, 0xfb7, 2), (0xfae, 0xfbc, 2), (0xfbb, 0xfbb, 1),
  (0xfc6, 0xfc6, 1), (0x1000, 0x1049, 1), (0x1050, 0x109d, 1), (0x10d0, 0x10fa, 1),
  (0x10fd, 0x10ff, 1), (0x1200, 0x1248, 1), (0x124a, 0x124d, 1), (0x1250, 0x1256, 1),
  (0x1258, 0x125c, 2), (0x125b, 0x125d, 2), (0x1260, 0x1288, 1), (0x128a, 0x128d, 1),
  (0x1290, 0x12b0, 1), (0x12b2, 0x12b5, 1), (0x12b8, 0x12be, 1), (0x12c0, 0x12c4, 2),
  (0x12c3, 0x12c5, 2), (0x12c8, 0x1314, 2), (0x12c9, 0x12d5, 2), (0x12d9, 0x130f, 2),
  (0x1313, 0x1315, 2), (0x1318, 0x135a, 1), (0x135d, 0x135f, 1), (0x1380, 0x138f, 1),
  (0x13a0, 0x13f5, 1), (0x1401, 0x166c, 1), (0x166f, 0x1699, 2), (0x1670, 0x167e, 2),
  (0x1682, 0x169a, 2), (0x16a0, 0x16ea, 1), (0x16f1, 0x16f8, 1), (0x1700, 0x1715, 1),
  (0x171f, 0x1734, 1), (0x1740, 0x1753, 1), (0x1760, 0x176c, 1), (0x176e, 0x1770, 1),
  (0x1772, 0x1773, 1), (0x1780, 0x17b3, 1), (0x17b6, 0x17d3, 1), (0x17d7, 0x17d7, 1),
  (0x17dc, 0x17dd, 1), (0x17e0, 0x17e9, 1), (0x1810, 0x1819, 1), (0x1820, 0x1878, 1),
  (0x1880, 0x18aa, 1), (0x18b0, 0x18f5, 1), (0x1900, 0x191e, 1), (0x1920, 0x192b, 1),
  (0x1930, 0x193b, 1), (0x1946, 0x196d, 1), (0x1970, 0x1974, 1), (0x1980, 0x19ab, 1),
  (0x19b0, 0x19c9, 1), (0x19d0, 0x19d9, 1), (0x1a00, 0x1a1b, 1)]

/-- Part 3 of `validRuns`, by rising code point. -/
def validRunsPart3 : List (Nat × Nat × Nat) := [
  (0x1a20, 0x1a5e, 1), (0x1a60, 0x1a7c, 1), (0x1a7f, 0x1a89, 1), (0x1a90, 0x1a99, 1),
  (0x1aa7, 0x1aa7, 1), (0x1ab0, 0x1abd, 1), (0x1abf, 0x1add, 1), (0x1ae0, 0x1aeb, 1),
  (0x1b00, 0x1b4c, 1), (0x1b50, 0x1b59, 1), (0x1b6b, 0x1b73, 1), (0x1b80, 0x1bf3, 1),
  (0x1c00, 0x1c37, 1), (0x1c40, 0x1c49, 1), (0x1c4d, 0x1c7d, 1), (0x1c8a, 0x1c8a, 1),
  (0x1cd0, 0x1cfa, 2), (0x1cd1, 0x1cd1, 1), (0x1cd5, 0x1cf9, 2), (0x1d00, 0x1d2b, 1),
  (0x1d2f, 0x1d2f, 1), (0x1d3b, 0x1d3b, 1), (0x1d4e, 0x1d4e, 1), (0x1d6b, 0x1d99, 2),
  (0x1d6c, 0x1d76, 2), (0x1d7a, 0x1d9a, 2), (0x1dc0, 0x1dff, 1), (0x1e01, 0x1e99, 2),
  (0x1e96, 0x1e98, 2), (0x1e9c, 0x1e9d, 1), (0x1e9f, 0x1f07, 2), (0x1f00, 0x1f06, 2),
  (0x1f10, 0x1f15, 1), (0x1f20, 0x1f27, 1), (0x1f30, 0x1f37, 1), (0x1f40, 0x1f45, 1),
  (0x1f50, 0x1f57, 1), (0x1f60, 0x1f67, 1), (0x1f70, 0x1f7c, 2), (0x1fb0, 0x1fb1, 1),
  (0x1fb6, 0x1fb6, 1), (0x1fc6, 0x1fc6, 1), (0x1fd0, 0x1fd2, 1), (0x1fd6, 0x1fd7, 1),
  (0x1fe0, 0x1fe6, 2), (0x1fe1, 0x1fe1, 1), (0x1fe5, 0x1fe7, 2), (0x1ff6, 0x1ff6, 1),
  (0x214e, 0x214e, 1), (0x2184, 0x2184, 1), (0x2c30, 0x2c5f, 1), (0x2c61, 0x2c61, 1),
  (0x2c65, 0x2c66, 1), (0x2c68, 0x2c6c, 2), (0x2c71, 0x2c73, 2), (0x2c74, 0x2c7a, 2),
  (0x2c77, 0x2c7b, 2), (0x2c81, 0x2ce3, 2), (0x2ce4, 0x2ce4, 1), (0x2cec, 0x2cf0, 2),
  (0x2cef, 0x2cf3, 2), (0x2d00, 0x2d25, 1), (0x2d27, 0x2d27, 1), (0x2d2d, 0x2d2d, 1),
  (0x2d30, 0x2d67, 1), (0x2d7f, 0x2d96, 1), (0x2da0, 0x2dfe, 2), (0x2da1, 0x2da5, 2),
  (0x2da9, 0x2dad, 2), (0x2db1, 0x2db5, 2), (0x2db9, 0x2dbd, 2), (0x2dc1, 0x2dc5, 2),
  (0x2dc9, 0x2dcd, 2), (0x2dd1, 0x2dd5, 2), (0x2dd9, 0x2ddd, 2), (0x2de1, 0x2dff, 2),
  (0x2e2f, 0x2e2f, 1), (0x3005, 0x3007, 1), (0x302a, 0x302d, 1), (0x303c, 0x303c, 1),
  (0x3041, 0x3096, 1), (0x3099, 0x309a, 1), (0x309d, 0x309e, 1), (0x30a1, 0x30fa, 1),
  (0x30fc, 0x30fe, 1), (0x3105, 0x312f, 1), (0x31a0, 0x31bf, 1), (0x31f0, 0x31ff, 1),
  (0x3400, 0x4dbf, 1), (0x4e00, 0xa48c, 1), (0xa4d0, 0xa4fd, 1), (0xa500, 0xa60c, 1),
  (0xa610, 0xa62b, 1), (0xa641, 0xa66f, 2), (0xa66e, 0xa66e, 1), (0xa674, 0xa67d, 1),
  (0xa67f, 0xa69b, 2), (0xa69e, 0xa6e5, 1), (0xa6f0, 0xa6f1, 1), (0xa717, 0xa71f, 1),
  (0xa723, 0xa777, 2), (0xa730, 0xa730, 1), (0xa772, 0xa77c, 2), (0xa77f, 0xa787, 2),
  (0xa788, 0xa788, 1), (0xa78c, 0xa78e, 2), (0xa78f, 0xa7a9, 2), (0xa794, 0xa794, 1),
  (0xa7af, 0xa7af, 1), (0xa7b5, 0xa7c3, 2), (0xa7c8, 0xa7ca, 2), (0xa7cd, 0xa7db, 2),
  (0xa7f6, 0xa7f7, 1), (0xa7fa, 0xa827, 1), (0xa82c, 0xa82c, 1), (0xa840, 0xa873, 1),
  (0xa880, 0xa8c5, 1), (0xa8d0, 0xa8d9, 1), (0xa8e0, 0xa8f7, 1), (0xa8fb, 0xa92d, 2),
  (0xa8fe, 0xa92c, 2), (0xa930, 0xa953, 1), (0xa980, 0xa9c0, 1), (0xa9cf, 0xa9d9, 1),
  (0xa9e0, 0xaa36, 2), (0xa9e1, 0xa9fd, 2), (0xaa01, 0xaa35, 2), (0xaa40, 0xaa4d, 1),
  (0xaa50, 0xaa59, 1), (0xaa60, 0xaa76, 1), (0xaa7a, 0xaac2, 1), (0xaadb, 0xaadd, 1),
  (0xaae0, 0xaaef, 1), (0xaaf2, 0xaaf6, 1), (0xab01, 0xab06, 1), (0xab09, 0xab0e, 1),
  (0xab11, 0xab16, 1), (0xab20, 0xab5a, 2), (0xab21, 0xab25, 2), (0xab29, 0xab2d, 2),
  (0xab31, 0xab59, 2), (0xab60, 0xab68, 1), (0xabc0, 0xabea, 1), (0xabec, 0xabed, 1),
  (0xabf0, 0xabf9, 1), (0xac00, 0xd7a3, 1), (0xfa0e, 0xfa0f, 1), (0xfa11, 0xfa13, 2),
  (0xfa14, 0xfa14, 1), (0xfa1f, 0xfa23, 2), (0xfa24, 0xfa24, 1), (0xfa27, 0xfa29, 1),
  (0xfb1e, 0xfb1e, 1), (0xfe20, 0xfe2f, 1), (0xfe73, 0xfe73, 1), (0x10000, 0x1000b, 1),
  (0x1000d, 0x10026, 1), (0x10028, 0x1003a, 1), (0x1003c, 0x1003d, 1), (0x1003f, 0x1004d, 1)]

/-- Part 4 of `validRuns`, by rising code point. -/
def validRunsPart4 : List (Nat × Nat × Nat) := [
  (0x10050, 0x1005d, 1), (0x10080, 0x100fa, 1), (0x101fd, 0x101fd, 1), (0x10280, 0x1029c, 1),
  (0x102a0, 0x102d0, 1), (0x102e0, 0x102e0, 1), (0x10300, 0x1031f, 1), (0x1032d, 0x10340, 1),
  (0x10342, 0x10349, 1), (0x10350, 0x1037a, 1), (0x10380, 0x1039d, 1), (0x103a0, 0x103c3, 1),
  (0x103c8, 0x103cf, 1), (0x10428, 0x1049d, 1), (0x104a0, 0x104a9, 1), (0x104d8, 0x104fb, 1),
  (0x10500, 0x10527, 1), (0x10530, 0x10563, 1), (0x10597, 0x105bb, 2), (0x10598, 0x105a0, 2),
  (0x105a4, 0x105b0, 2), (0x105b4, 0x105b8, 2), (0x105bc, 0x105bc, 1), (0x105c0, 0x105f3, 1),
  (0x10600, 0x10736, 1), (0x10740, 0x10755, 1), (0x10760, 0x10767, 1), (0x10780, 0x10780, 1),
  (0x10800, 0x10805, 1), (0x10808, 0x10834, 2), (0x1080b, 0x10837, 2), (0x10838, 0x10838, 1),
  (0x1083c, 0x1083c, 1), (0x1083f, 0x10855, 1), (0x10860, 0x10876, 1), (0x10880, 0x1089e, 1),
  (0x108e0, 0x108f2, 1), (0x108f4, 0x108f5, 1), (0x10900, 0x10915, 1), (0x10920, 0x10939, 1),
  (0x10940, 0x10959, 1), (0x10980, 0x109b7, 1), (0x109be, 0x109bf, 1), (0x10a00, 0x10a03, 1),
  (0x10a05, 0x10a06, 1), (0x10a0c, 0x10a13, 1), (0x10a15, 0x10a35, 2), (0x10a16, 0x10a16, 1),
  (0x10a1a, 0x10a34, 2), (0x10a38, 0x10a3a, 1), (0x10a3f, 0x10a3f, 1), (0x10a60, 0x10a7c, 1),
  (0x10a80, 0x10a9c, 1), (0x10ac0, 0x10ac7, 1), (0x10ac9, 0x10ae6, 1), (0x10b00, 0x10b35, 1),
  (0x10b40, 0x10b55, 1), (0x10b60, 0x10b72, 1), (0x10b80, 0x10b91, 1), (0x10c00, 0x10c48, 1),
  (0x10cc0, 0x10cf2, 1), (0x10d00, 0x10d27, 1), (0x10d30, 0x10d39, 1), (0x10d40, 0x10d4f, 1),
  (0x10d69, 0x10d85, 2), (0x10d6a, 0x10d6c, 2), (0x10d70, 0x10d84, 2), (0x10e80, 0x10ea9, 1),
  (0x10eab, 0x10eac, 1), (0x10eb0, 0x10eb1, 1), (0x10ec2, 0x10ec7, 1), (0x10efa, 0x10f1c, 1),
  (0x10f27, 0x10f27, 1), (0x10f30, 0x10f50, 1), (0x10f70, 0x10f85, 1), (0x10fb0, 0x10fc4, 1),
  (0x10fe0, 0x10ff6, 1), (0x11000, 0x11046, 1), (0x11066, 0x11075, 1), (0x1107f, 0x110ba, 1),
  (0x110c2, 0x110c2, 1), (0x110d0, 0x110e8, 1), (0x110f0, 0x110f9, 1), (0x11100, 0x11134, 1),
  (0x11136, 0x1113f, 1), (0x11144, 0x11147, 1), (0x11150, 0x11173, 1), (0x11176, 0x11176, 1),
  (0x11180, 0x111c4, 1), (0x111c9, 0x111cc, 1), (0x111ce, 0x111da, 1), (0x111dc, 0x111dc, 1),
  (0x11200, 0x11211, 1), (0x11213, 0x11237, 1), (0x1123e, 0x11241, 1), (0x11280, 0x11286, 1),
  (0x11288, 0x1128c, 2), (0x1128b, 0x112a7, 2), (0x11290, 0x1129c, 2), (0x112a0, 0x112a8, 2),
  (0x112b0, 0x112ea, 1), (0x112f0, 0x112f9, 1), (0x11300, 0x11303, 1), (0x11305, 0x1130c, 1),
  (0x1130f, 0x11310, 1), (0x11313, 0x11328, 1), (0x1132a, 0x11330, 1), (0x11332, 0x11333, 1),
  (0x11335, 0x11343, 2), (0x11336, 0x11338, 2), (0x1133c, 0x11344, 2), (0x11347, 0x11348, 1),
  (0x1134b, 0x1134d, 1), (0x11350, 0x11350, 1), (0x11357, 0x11357, 1), (0x1135d, 0x11363, 1),
  (0x11366, 0x1136c, 1), (0x11370, 0x11374, 1), (0x11380, 0x11389, 1), (0x1138b, 0x1138b, 1),
  (0x1138e, 0x113b4, 2), (0x11391, 0x113bf, 2), (0x113b8, 0x113c2, 2), (0x113c5, 0x113c9, 2),
  (0x113c8, 0x113d2, 2), (0x113cd, 0x113d3, 2), (0x113e1, 0x113e2, 1), (0x11400, 0x1144a, 1),
  (0x11450, 0x11459, 1), (0x1145e, 0x11461, 1), (0x11480, 0x114c5, 1), (0x114c7, 0x114c7, 1),
  (0x114d0, 0x114d9, 1), (0x11580, 0x115b5, 1), (0x115b8, 0x115c0, 1), (0x115d8, 0x115dd, 1),
  (0x11600, 0x11640, 1), (0x11644, 0x11644, 1), (0x11650, 0x11659, 1), (0x11680, 0x116b8, 1),
  (0x116c0, 0x116c9, 1), (0x116d0, 0x116e3, 1), (0x11700, 0x1171a, 1), (0x1171d, 0x1172b, 1),
  (0x11730, 0x11739, 1), (0x11740, 0x11746, 1), (0x11800, 0x1183a, 1), (0x118c0, 0x118e9, 1),
  (0x118ff, 0x11906, 1), (0x11909, 0x11909, 1), (0x1190c, 0x11913, 1), (0x11915, 0x11916, 1),
  (0x11918, 0x11935, 1), (0x11937, 0x11938, 1), (0x1193b, 0x11943, 1), (0x11950, 0x11959, 1),
  (0x119a0, 0x119a7, 1), (0x119aa, 0x119d7, 1), (0x119da, 0x119e1, 1), (0x119e3, 0x119e4, 1)]

/-- Part 5 of `validRuns`, by rising code point. -/
def validRunsPart5 : List (Nat × Nat × Nat) := [
  (0x11a00, 0x11a3e, 1), (0x11a47, 0x11a47, 1), (0x11a50, 0x11a99, 1), (0x11a9d, 0x11a9d, 1),
  (0x11ab0, 0x11af8, 1), (0x11b60, 0x11b67, 1), (0x11bc0, 0x11be0, 1), (0x11bf0, 0x11bf9, 1),
  (0x11c00, 0x11c40, 2), (0x11c01, 0x11c07, 2), (0x11c0b, 0x11c35, 2), (0x11c39, 0x11c3f, 2),
  (0x11c50, 0x11c59, 1), (0x11c72, 0x11c8f, 1), (0x11c92, 0x11ca7, 1), (0x11ca9, 0x11cb6, 1),
  (0x11d00, 0x11d06, 1), (0x11d08, 0x11d09, 1), (0x11d0b, 0x11d36, 1), (0x11d3a, 0x11d3c, 2),
  (0x11d3d, 0x11d47, 2), (0x11d40, 0x11d46, 2), (0x11d50, 0x11d59, 1), (0x11d60, 0x11d65, 1),
  (0x11d67, 0x11d68, 1), (0x11d6a, 0x11d8e, 1), (0x11d90, 0x11d91, 1), (0x11d93, 0x11d98, 1),
  (0x11da0, 0x11da9, 1), (0x11db0, 0x11ddb, 1), (0x11de0, 0x11de9, 1), (0x11ee0, 0x11ef6, 1),
  (0x11f00, 0x11f3a, 2), (0x11f01, 0x11f0f, 2), (0x11f13, 0x11f39, 2), (0x11f3e, 0x11f42, 1),
  (0x11f50, 0x11f5a, 1), (0x11fb0, 0x11fb0, 1), (0x12000, 0x12399, 1), (0x12480, 0x12543, 1),
  (0x12f90, 0x12ff0, 1), (0x13000, 0x1342f, 1), (0x13440, 0x13455, 1), (0x13460, 0x143fa, 1),
  (0x14400, 0x14646, 1), (0x16100, 0x16139, 1), (0x16800, 0x16a38, 1), (0x16a40, 0x16a5e, 1),
  (0x16a60, 0x16a69, 1), (0x16a70, 0x16abe, 1), (0x16ac0, 0x16ac9, 1), (0x16ad0, 0x16aed, 1),
  (0x16af0, 0x16af4, 1), (0x16b00, 0x16b36, 1), (0x16b40, 0x16b43, 1), (0x16b50, 0x16b59, 1),
  (0x16b63, 0x16b77, 1), (0x16b7d, 0x16b8f, 1), (0x16d40, 0x16d6c, 1), (0x16d70, 0x16d79, 1),
  (0x16e60, 0x16e7f, 1), (0x16ebb, 0x16ed3, 1), (0x16f00, 0x16f4a, 1), (0x16f4f, 0x16f87, 1),
  (0x16f8f, 0x16f9f, 1), (0x16fe0, 0x16fe1, 1), (0x16fe3, 0x16fe4, 1), (0x16ff0, 0x16ff3, 1),
  (0x17000, 0x18cd5, 1), (0x18cff, 0x18d1e, 1), (0x18d80, 0x18df2, 1), (0x1aff0, 0x1aff3, 1),
  (0x1aff5, 0x1affb, 1), (0x1affd, 0x1affe, 1), (0x1b000, 0x1b122, 1), (0x1b132, 0x1b132, 1),
  (0x1b150, 0x1b152, 1), (0x1b155, 0x1b155, 1), (0x1b164, 0x1b167, 1), (0x1b170, 0x1b2fb, 1),
  (0x1bc00, 0x1bc6a, 1), (0x1bc70, 0x1bc7c, 1), (0x1bc80, 0x1bc88, 1), (0x1bc90, 0x1bc99, 1),
  (0x1bc9d, 0x1bc9e, 1), (0x1cf00, 0x1cf2d, 1), (0x1cf30, 0x1cf46, 1), (0x1da00, 0x1da36, 1),
  (0x1da3b, 0x1da6c, 1), (0x1da75, 0x1da75, 1), (0x1da84, 0x1da84, 1), (0x1da9b, 0x1daaf, 2),
  (0x1da9c, 0x1da9e, 2), (0x1daa2, 0x1daae, 2), (0x1df00, 0x1df1e, 1), (0x1df25, 0x1df2a, 1),
  (0x1e000, 0x1e018, 2), (0x1e001, 0x1e005, 2), (0x1e009, 0x1e017, 2), (0x1e01b, 0x1e021, 1),
  (0x1e023, 0x1e024, 1), (0x1e026, 0x1e02a, 1), (0x1e08f, 0x1e08f, 1), (0x1e100, 0x1e12c, 1),
  (0x1e130, 0x1e13d, 1), (0x1e140, 0x1e149, 1), (0x1e14e, 0x1e14e, 1), (0x1e290, 0x1e2ae, 1),
  (0x1e2c0, 0x1e2f9, 1), (0x1e4d0, 0x1e4f9, 1), (0x1e5d0, 0x1e5fa, 1), (0x1e6c0, 0x1e6de, 1),
  (0x1e6e0, 0x1e6f5, 1), (0x1e6fe, 0x1e6ff, 1), (0x1e7e0, 0x1e7e6, 1), (0x1e7e8, 0x1e7eb, 1),
  (0x1e7ed, 0x1e7ee, 1), (0x1e7f0, 0x1e8c4, 2), (0x1e7f1, 0x1e7fd, 2), (0x1e801, 0x1e8c3, 2),
  (0x1e8d0, 0x1e8d6, 1), (0x1e922, 0x1e94b, 1), (0x1e950, 0x1e959, 1), (0x20000, 0x2a6df, 1),
  (0x2a700, 0x2b81d, 1), (0x2b820, 0x2cead, 1), (0x2ceb0, 0x2ebe0, 1), (0x2ebf0, 0x2ee5d, 1),
  (0x30000, 0x3134a, 1), (0x31350, 0x33479, 1)]

/-- Runs of the characters that may stand anywhere in a name. -/
def validRuns : List (Nat × Nat × Nat) :=
  validRunsPart1 ++ validRunsPart2 ++ validRunsPart3 ++ validRunsPart4 ++ validRunsPart5

/-- Runs of the characters among those whose direction of writing is not known. -/
def undirectedRuns : List (Nat × Nat × Nat) := [
  (0x88f, 0x88f, 1), (0x897, 0x897, 1), (0xc5c, 0xc5c, 1), (0xcdc, 0xcdc, 1), (0xcf3, 0xcf3, 1),
  (0xece, 0xece, 1), (0x1acf, 0x1add, 1), (0x1ae0, 0x1aeb, 1), (0x1c8a, 0x1c8a, 1),
  (0xa7cd, 0xa7cf, 2), (0xa7db, 0xa7db, 1), (0x105c0, 0x105f3, 1), (0x10940, 0x10959, 1),
  (0x10d40, 0x10d4f, 1), (0x10d69, 0x10d85, 2), (0x10d6a, 0x10d6c, 2), (0x10d70, 0x10d84, 2),
  (0x10ec2, 0x10ec7, 1), (0x10efa, 0x10eff, 1), (0x1123f, 0x11241, 1), (0x11380, 0x11389, 1),
  (0x1138b, 0x1138b, 1), (0x1138e, 0x113b4, 2), (0x11391, 0x113bf, 2), (0x113b8, 0x113c2, 2),
  (0x113c5, 0x113c9, 2), (0x113c8, 0x113d2, 2), (0x113cd, 0x113d3, 2), (0x113e1, 0x113e2, 1),
  (0x116d0, 0x116e3, 1), (0x11b60, 0x11b67, 1), (0x11bc0, 0x11be0, 1), (0x11bf0, 0x11bf9, 1),
  (0x11db0, 0x11ddb, 1), (0x11de0, 0x11de9, 1), (0x11f00, 0x11f3a, 2), (0x11f01, 0x11f0f, 2),
  (0x11f13, 0x11f39, 2), (0x11f3e, 0x11f42, 1), (0x11f50, 0x11f5a, 1), (0x1342f, 0x1342f, 1),
  (0x13440, 0x13455, 1), (0x13460, 0x143fa, 1), (0x16100, 0x16139, 1), (0x16d40, 0x16d6c, 1),
  (0x16d70, 0x16d79, 1), (0x16ebb, 0x16ed3, 1), (0x16ff2, 0x16ff3, 1), (0x187f8, 0x187ff, 1),
  (0x18cff, 0x18cff, 1), (0x18d09, 0x18d1e, 1), (0x18d80, 0x18df2, 1), (0x1b132, 0x1b132, 1),
  (0x1b155, 0x1b155, 1), (0x1df25, 0x1df2a, 1), (0x1e08f, 0x1e08f, 1), (0x1e4d0, 0x1e4f9, 1),
  (0x1e5d0, 0x1e5fa, 1), (0x1e6c0, 0x1e6de, 1), (0x1e6e0, 0x1e6f5, 1), (0x1e6fe, 0x1e6ff, 1),
  (0x2b739, 0x2b73f, 1), (0x2cea2, 0x2cead, 1), (0x2ebf0, 0x2ee5d, 1), (0x31350, 0x33479, 1)]

/-! ## Marks -/

/-- Part 1 of `markRuns`, by rising code point. -/
def markRunsPart1 : List (Nat × Nat × Nat) := [
  (0x300, 0x36f, 1), (0x483, 0x489, 1), (0x591, 0x5bd, 1), (0x5bf, 0x5c1, 2), (0x5c2, 0x5c4, 2),
  (0x5c5, 0x5c7, 2), (0x610, 0x61a, 1), (0x64b, 0x65f, 1), (0x670, 0x670, 1), (0x6d6, 0x6dc, 1),
  (0x6df, 0x6e4, 1), (0x6e7, 0x6e8, 1), (0x6ea, 0x6ed, 1), (0x711, 0x711, 1), (0x730, 0x74a, 1),
  (0x7a6, 0x7b0, 1), (0x7eb, 0x7f3, 1), (0x7fd, 0x7fd, 1), (0x816, 0x819, 1), (0x81b, 0x82d, 2),
  (0x81c, 0x822, 2), (0x826, 0x826, 1), (0x82a, 0x82c, 2), (0x859, 0x85b, 1), (0x898, 0x89f, 1),
  (0x8ca, 0x8e1, 1), (0x8e3, 0x903, 1), (0x93a, 0x94e, 2), (0x93b, 0x93b, 1), (0x93f, 0x957, 2),
  (0x952, 0x956, 2), (0x962, 0x963, 1), (0x981, 0x983, 1), (0x9bc, 0x9c4, 2), (0x9bf, 0x9c3, 2),
  (0x9c7, 0x9c8, 1), (0x9cb, 0x9cd, 1), (0x9d7, 0x9d7, 1), (0x9e2, 0x9e3, 1), (0x9fe, 0x9fe, 1),
  (0xa01, 0xa03, 1), (0xa3c, 0xa42, 2), (0xa3f, 0xa41, 2), (0xa47, 0xa48, 1), (0xa4b, 0xa4d, 1),
  (0xa51, 0xa51, 1), (0xa70, 0xa71, 1), (0xa75, 0xa75, 1), (0xa81, 0xa83, 1), (0xabc, 0xac4, 2),
  (0xabf, 0xacd, 2), (0xac8, 0xac8, 1), (0xacc, 0xacc, 1), (0xae2, 0xae3, 1), (0xafa, 0xaff, 1),
  (0xb01, 0xb03, 1), (0xb3c, 0xb44, 2), (0xb3f, 0xb43, 2), (0xb47, 0xb48, 1), (0xb4b, 0xb4d, 1),
  (0xb55, 0xb57, 1), (0xb62, 0xb63, 1), (0xb82, 0xb82, 1), (0xbbe, 0xbc2, 1), (0xbc6, 0xbcc, 2),
  (0xbc7, 0xbc7, 1), (0xbcb, 0xbcd, 2), (0xbd7, 0xbd7, 1), (0xc00, 0xc04, 1), (0xc3c, 0xc4c, 2),
  (0xc3f, 0xc43, 2), (0xc47, 0xc47, 1), (0xc4b, 0xc4d, 2), (0xc55, 0xc56, 1), (0xc62, 0xc63, 1),
  (0xc81, 0xc83, 1), (0xcbc, 0xccc, 2), (0xcbf, 0xcc3, 2), (0xcc7, 0xcc7, 1), (0xccb, 0xccd, 2),
  (0xcd5, 0xcd6, 1), (0xce2, 0xce3, 1), (0xd00, 0xd03, 1), (0xd3b, 0xd3c, 1), (0xd3e, 0xd4c, 2),
  (0xd3f, 0xd43, 2), (0xd47, 0xd47, 1), (0xd4b, 0xd4d, 2), (0xd57, 0xd57, 1), (0xd62, 0xd63, 1),
  (0xd81, 0xd83, 1), (0xdca, 0xdca, 1), (0xdcf, 0xdd4, 1), (0xdd6, 0xdde, 2), (0xdd9, 0xddf, 2),
  (0xdf2, 0xdf3, 1), (0xe31, 0xe31, 1), (0xe34, 0xe3a, 1), (0xe47, 0xe4e, 1), (0xeb1, 0xeb1, 1),
  (0xeb4, 0xebc, 1), (0xec8, 0xecd, 1), (0xf18, 0xf19, 1), (0xf35, 0xf39, 2), (0xf3e, 0xf3f, 1),
  (0xf71, 0xf84, 1), (0xf86, 0xf87, 1), (0xf8d, 0xfbb, 2), (0xf8e, 0xf96, 2), (0xf9a, 0xfbc, 2),
  (0xfc6, 0xfc6, 1), (0x102b, 0x103e, 1), (0x1056, 0x1059, 1), (0x105e, 0x1064, 2),
  (0x105f, 0x105f, 1), (0x1063, 0x1063, 1), (0x1067, 0x106d, 1), (0x1071, 0x1074, 1),
  (0x1082, 0x108d, 1), (0x108f, 0x108f, 1), (0x109a, 0x109d, 1), (0x135d, 0x135f, 1),
  (0x1712, 0x1715, 1), (0x1732, 0x1734, 1), (0x1752, 0x1753, 1), (0x1772, 0x1773, 1),
  (0x17b4, 0x17d3, 1), (0x17dd, 0x17dd, 1), (0x180b, 0x180d, 1), (0x180f, 0x180f, 1),
  (0x1885, 0x1886, 1), (0x18a9, 0x18a9, 1), (0x1920, 0x192b, 1), (0x1930, 0x193b, 1),
  (0x1a17, 0x1a1b, 1), (0x1a55, 0x1a5e, 1), (0x1a60, 0x1a7c, 1), (0x1a7f, 0x1a7f, 1),
  (0x1ab0, 0x1ace, 1), (0x1b00, 0x1b04, 1), (0x1b34, 0x1b44, 1), (0x1b6b, 0x1b73, 1),
  (0x1b80, 0x1b82, 1), (0x1ba1, 0x1bad, 1), (0x1be6, 0x1bf3, 1), (0x1c24, 0x1c37, 1),
  (0x1cd0, 0x1ce8, 2), (0x1cd1, 0x1cd1, 1), (0x1cd5, 0x1ce7, 2), (0x1ced, 0x1ced, 1),
  (0x1cf4, 0x1cf4, 1), (0x1cf7, 0x1cf9, 1), (0x1dc0, 0x1dff, 1), (0x20d0, 0x20f0, 1),
  (0x2cef, 0x2cf1, 1), (0x2d7f, 0x2d7f, 1), (0x2de0, 0x2dff, 1), (0x302a, 0x302f, 1),
  (0x3099, 0x309a, 1), (0xa66f, 0xa672, 1)]

/-- Part 2 of `markRuns`, by rising code point. -/
def markRunsPart2 : List (Nat × Nat × Nat) := [
  (0xa674, 0xa67d, 1), (0xa69e, 0xa69f, 1), (0xa6f0, 0xa6f1, 1), (0xa802, 0xa802, 1),
  (0xa806, 0xa806, 1), (0xa80b, 0xa80b, 1), (0xa823, 0xa827, 1), (0xa82c, 0xa82c, 1),
  (0xa880, 0xa881, 1), (0xa8b4, 0xa8c5, 1), (0xa8e0, 0xa8f1, 1), (0xa8ff, 0xa8ff, 1),
  (0xa926, 0xa92d, 1), (0xa947, 0xa953, 1), (0xa980, 0xa983, 1), (0xa9b3, 0xa9c0, 1),
  (0xa9e5, 0xa9e5, 1), (0xaa29, 0xaa36, 1), (0xaa43, 0xaa43, 1), (0xaa4c, 0xaa4d, 1),
  (0xaa7b, 0xaa7d, 1), (0xaab0, 0xaab4, 2), (0xaab3, 0xaab3, 1), (0xaab7, 0xaab8, 1),
  (0xaabe, 0xaabf, 1), (0xaac1, 0xaac1, 1), (0xaaeb, 0xaaef, 1), (0xaaf5, 0xaaf6, 1),
  (0xabe3, 0xabea, 1), (0xabec, 0xabed, 1), (0xfb1e, 0xfb1e, 1), (0xfe00, 0xfe0f, 1),
  (0xfe20, 0xfe2f, 1), (0x101fd, 0x101fd, 1), (0x102e0, 0x102e0, 1), (0x10376, 0x1037a, 1),
  (0x10a01, 0x10a03, 1), (0x10a05, 0x10a06, 1), (0x10a0c, 0x10a0f, 1), (0x10a38, 0x10a3a, 1),
  (0x10a3f, 0x10a3f, 1), (0x10ae5, 0x10ae6, 1), (0x10d24, 0x10d27, 1), (0x10eab, 0x10eac, 1),
  (0x10f46, 0x10f50, 1), (0x10f82, 0x10f85, 1), (0x11000, 0x11002, 1), (0x11038, 0x11046, 1),
  (0x11070, 0x11070, 1), (0x11073, 0x11074, 1), (0x1107f, 0x11082, 1), (0x110b0, 0x110ba, 1),
  (0x110c2, 0x110c2, 1), (0x11100, 0x11102, 1), (0x11127, 0x11134, 1), (0x11145, 0x11146, 1),
  (0x11173, 0x11173, 1), (0x11180, 0x11182, 1), (0x111b3, 0x111c0, 1), (0x111c9, 0x111cc, 1),
  (0x111ce, 0x111cf, 1), (0x1122c, 0x11237, 1), (0x1123e, 0x1123e, 1), (0x112df, 0x112ea, 1),
  (0x11300, 0x11303, 1), (0x1133b, 0x1133c, 1), (0x1133e, 0x11344, 1), (0x11347, 0x11348, 1),
  (0x1134b, 0x1134d, 1), (0x11357, 0x11357, 1), (0x11362, 0x11363, 1), (0x11366, 0x1136c, 1),
  (0x11370, 0x11374, 1), (0x11435, 0x11446, 1), (0x1145e, 0x1145e, 1), (0x114b0, 0x114c3, 1),
  (0x115af, 0x115b5, 1), (0x115b8, 0x115c0, 1), (0x115dc, 0x115dd, 1), (0x11630, 0x11640, 1),
  (0x116ab, 0x116b7, 1), (0x1171d, 0x1172b, 1), (0x1182c, 0x1183a, 1), (0x11930, 0x11935, 1),
  (0x11937, 0x11938, 1), (0x1193b, 0x1193e, 1), (0x11940, 0x11942, 2), (0x11943, 0x11943, 1),
  (0x119d1, 0x119d7, 1), (0x119da, 0x119e0, 1), (0x119e4, 0x119e4, 1), (0x11a01, 0x11a0a, 1),
  (0x11a33, 0x11a39, 1), (0x11a3b, 0x11a3e, 1), (0x11a47, 0x11a47, 1), (0x11a51, 0x11a5b, 1),
  (0x11a8a, 0x11a99, 1), (0x11c2f, 0x11c36, 1), (0x11c38, 0x11c3f, 1), (0x11c92, 0x11ca7, 1),
  (0x11ca9, 0x11cb6, 1), (0x11d31, 0x11d36, 1), (0x11d3a, 0x11d3c, 2), (0x11d3d, 0x11d47, 2),
  (0x11d40, 0x11d44, 2), (0x11d8a, 0x11d8e, 1), (0x11d90, 0x11d91, 1), (0x11d93, 0x11d97, 1),
  (0x11ef3, 0x11ef6, 1), (0x16af0, 0x16af4, 1), (0x16b30, 0x16b36, 1), (0x16f4f, 0x16f87, 2),
  (0x16f52, 0x16f86, 2), (0x16f8f, 0x16f92, 1), (0x16fe4, 0x16fe4, 1), (0x16ff0, 0x16ff1, 1),
  (0x1bc9d, 0x1bc9e, 1), (0x1cf00, 0x1cf2d, 1), (0x1cf30, 0x1cf46, 1), (0x1d165, 0x1d169, 1),
  (0x1d16d, 0x1d172, 1), (0x1d17b, 0x1d182, 1), (0x1d185, 0x1d18b, 1), (0x1d1aa, 0x1d1ad, 1),
  (0x1d242, 0x1d244, 1), (0x1da00, 0x1da36, 1), (0x1da3b, 0x1da6c, 1), (0x1da75, 0x1da75, 1),
  (0x1da84, 0x1da84, 1), (0x1da9b, 0x1daaf, 2), (0x1da9c, 0x1da9e, 2), (0x1daa2, 0x1daae, 2),
  (0x1e000, 0x1e018, 2), (0x1e001, 0x1e005, 2), (0x1e009, 0x1e017, 2), (0x1e01b, 0x1e021, 1),
  (0x1e023, 0x1e024, 1), (0x1e026, 0x1e02a, 1), (0x1e130, 0x1e136, 1), (0x1e2ae, 0x1e2ae, 1),
  (0x1e2ec, 0x1e2ef, 1), (0x1e8d0, 0x1e8d6, 1), (0x1e944, 0x1e94a, 1), (0xe0100, 0xe01ef, 1)]

/-- Runs of the marks, which may not begin a name. -/
def markRuns : List (Nat × Nat × Nat) :=
  markRunsPart1 ++ markRunsPart2

/-- Part 1 of `spacingRuns`, by rising code point. -/
def spacingRunsPart1 : List (Nat × Nat × Nat) := [
  (0x903, 0x903, 1), (0x93b, 0x93b, 1), (0x93e, 0x940, 1), (0x949, 0x94c, 1), (0x94e, 0x94f, 1),
  (0x982, 0x983, 1), (0x9be, 0x9c0, 1), (0x9c7, 0x9c8, 1), (0x9cb, 0x9cc, 1), (0x9d7, 0x9d7, 1),
  (0xa03, 0xa03, 1), (0xa3e, 0xa40, 1), (0xa83, 0xa83, 1), (0xabe, 0xac0, 1), (0xac9, 0xacb, 2),
  (0xacc, 0xacc, 1), (0xb02, 0xb03, 1), (0xb3e, 0xb40, 2), (0xb47, 0xb48, 1), (0xb4b, 0xb4c, 1),
  (0xb57, 0xb57, 1), (0xbbe, 0xbbf, 1), (0xbc1, 0xbc2, 1), (0xbc6, 0xbcc, 2), (0xbc7, 0xbc7, 1),
  (0xbcb, 0xbcb, 1), (0xbd7, 0xbd7, 1), (0xc01, 0xc03, 1), (0xc41, 0xc44, 1), (0xc82, 0xc83, 1),
  (0xcbe, 0xcc4, 1), (0xcc6, 0xcc8, 1), (0xcca, 0xccb, 1), (0xcd5, 0xcd6, 1), (0xd02, 0xd03, 1),
  (0xd3e, 0xd40, 1), (0xd46, 0xd4c, 2), (0xd47, 0xd47, 1), (0xd4b, 0xd4b, 1), (0xd57, 0xd57, 1),
  (0xd82, 0xd83, 1), (0xdcf, 0xdd1, 1), (0xdd8, 0xddf, 1), (0xdf2, 0xdf3, 1), (0xf3e, 0xf3f, 1),
  (0xf7f, 0xf7f, 1), (0x102b, 0x102c, 1), (0x1031, 0x1031, 1), (0x1038, 0x1038, 1),
  (0x103b, 0x103c, 1), (0x1056, 0x1057, 1), (0x1062, 0x1064, 1), (0x1067, 0x106d, 1),
  (0x1083, 0x1084, 1), (0x1087, 0x108c, 1), (0x108f, 0x108f, 1), (0x109a, 0x109c, 1),
  (0x1715, 0x1715, 1), (0x1734, 0x1734, 1), (0x17b6, 0x17b6, 1), (0x17be, 0x17c5, 1),
  (0x17c7, 0x17c8, 1), (0x1923, 0x1926, 1), (0x1929, 0x192b, 1), (0x1930, 0x1931, 1),
  (0x1933, 0x1938, 1), (0x1a19, 0x1a1a, 1), (0x1a55, 0x1a57, 2), (0x1a61, 0x1a63, 2),
  (0x1a64, 0x1a64, 1), (0x1a6d, 0x1a72, 1), (0x1b04, 0x1b04, 1), (0x1b35, 0x1b35, 1),
  (0x1b3b, 0x1b43, 2), (0x1b3e, 0x1b40, 2), (0x1b44, 0x1b44, 1), (0x1b82, 0x1b82, 1),
  (0x1ba1, 0x1ba1, 1), (0x1ba6, 0x1ba7, 1), (0x1baa, 0x1baa, 1), (0x1be7, 0x1be7, 1),
  (0x1bea, 0x1bec, 1), (0x1bee, 0x1bee, 1), (0x1bf2, 0x1bf3, 1), (0x1c24, 0x1c2b, 1),
  (0x1c34, 0x1c35, 1), (0x1ce1, 0x1ce1, 1), (0x1cf7, 0x1cf7, 1), (0xa823, 0xa824, 1),
  (0xa827, 0xa827, 1), (0xa880, 0xa881, 1), (0xa8b4, 0xa8c3, 1), (0xa952, 0xa953, 1),
  (0xa983, 0xa983, 1), (0xa9b4, 0xa9b5, 1), (0xa9ba, 0xa9bb, 1), (0xa9be, 0xa9c0, 1),
  (0xaa2f, 0xaa30, 1), (0xaa33, 0xaa34, 1), (0xaa4d, 0xaa4d, 1), (0xaa7b, 0xaa7d, 2),
  (0xaaeb, 0xaaeb, 1), (0xaaee, 0xaaef, 1), (0xaaf5, 0xaaf5, 1), (0xabe3, 0xabe4, 1),
  (0xabe6, 0xabe7, 1), (0xabe9, 0xabea, 1), (0xabec, 0xabec, 1), (0x11000, 0x11002, 2),
  (0x11082, 0x11082, 1), (0x110b0, 0x110b2, 1), (0x110b7, 0x110b8, 1), (0x1112c, 0x1112c, 1),
  (0x11145, 0x11146, 1), (0x11182, 0x11182, 1), (0x111b3, 0x111b5, 1), (0x111bf, 0x111c0, 1),
  (0x111ce, 0x111ce, 1), (0x1122c, 0x1122e, 1), (0x11232, 0x11233, 1), (0x11235, 0x11235, 1),
  (0x112e0, 0x112e2, 1), (0x11302, 0x11303, 1), (0x1133e, 0x1133f, 1), (0x11341, 0x11344, 1),
  (0x11347, 0x11348, 1), (0x1134b, 0x1134d, 1), (0x11357, 0x11357, 1), (0x11362, 0x11363, 1),
  (0x11435, 0x11437, 1), (0x11440, 0x11441, 1), (0x11445, 0x11445, 1), (0x114b0, 0x114b2, 1),
  (0x114b9, 0x114bd, 2), (0x114bc, 0x114be, 2), (0x114c1, 0x114c1, 1), (0x115af, 0x115b1, 1),
  (0x115b8, 0x115bb, 1), (0x115be, 0x115be, 1), (0x11630, 0x11632, 1), (0x1163b, 0x1163c, 1),
  (0x1163e, 0x1163e, 1), (0x116ac, 0x116ae, 2), (0x116af, 0x116af, 1), (0x116b6, 0x116b6, 1),
  (0x11720, 0x11721, 1), (0x11726, 0x11726, 1), (0x1182c, 0x1182e, 1), (0x11838, 0x11838, 1),
  (0x11930, 0x11935, 1), (0x11937, 0x11938, 1), (0x1193d, 0x1193d, 1), (0x11940, 0x11942, 2),
  (0x119d1, 0x119d3, 1), (0x119dc, 0x119df, 1), (0x119e4, 0x119e4, 1), (0x11a07, 0x11a08, 1),
  (0x11a39, 0x11a39, 1), (0x11a57, 0x11a58, 1), (0x11a97, 0x11a97, 1)]

/-- Part 2 of `spacingRuns`, by rising code point. -/
def spacingRunsPart2 : List (Nat × Nat × Nat) := [
  (0x11c2f, 0x11c2f, 1), (0x11c3e, 0x11c3f, 1), (0x11ca9, 0x11ca9, 1), (0x11cb1, 0x11cb1, 1),
  (0x11cb4, 0x11cb4, 1), (0x11d8a, 0x11d8e, 1), (0x11d93, 0x11d94, 1), (0x11d96, 0x11d96, 1),
  (0x11ef5, 0x11ef6, 1), (0x16f51, 0x16f87, 1), (0x16ff0, 0x16ff1, 1)]

/-- Runs of the marks that take up space, and so have a direction. -/
def spacingRuns : List (Nat × Nat × Nat) :=
  spacingRunsPart1 ++ spacingRunsPart2

/-! ## Directions -/

/-- Runs of the letters that are written from right to left, but for the Arabic ones. -/
def rightRuns : List (Nat × Nat × Nat) := [
  (0x5d0, 0x5ea, 1), (0x5ef, 0x5f4, 1), (0x7c0, 0x7ea, 1), (0x7f4, 0x7f5, 1), (0x800, 0x815, 1),
  (0x81a, 0x81a, 1), (0x824, 0x824, 1), (0x828, 0x828, 1), (0x840, 0x858, 1),
  (0x10800, 0x10805, 1), (0x10808, 0x10834, 2), (0x1080b, 0x10837, 2), (0x10838, 0x10838, 1),
  (0x1083c, 0x1083c, 1), (0x1083f, 0x10855, 1), (0x10860, 0x10876, 1), (0x10880, 0x1089e, 1),
  (0x108e0, 0x108f2, 1), (0x108f4, 0x108f5, 1), (0x10900, 0x10915, 1), (0x10920, 0x10939, 1),
  (0x10980, 0x109b7, 1), (0x109be, 0x109bf, 1), (0x10a00, 0x10a00, 1), (0x10a10, 0x10a13, 1),
  (0x10a15, 0x10a35, 2), (0x10a16, 0x10a16, 1), (0x10a1a, 0x10a34, 2), (0x10a60, 0x10a7c, 1),
  (0x10a80, 0x10a9c, 1), (0x10ac0, 0x10ac7, 1), (0x10ac9, 0x10ae4, 1), (0x10b00, 0x10b35, 1),
  (0x10b40, 0x10b55, 1), (0x10b60, 0x10b72, 1), (0x10b80, 0x10b91, 1), (0x10c00, 0x10c48, 1),
  (0x10cc0, 0x10cf2, 1), (0x10e80, 0x10ea9, 1), (0x10eb0, 0x10eb1, 1), (0x10f00, 0x10f1c, 1),
  (0x10f27, 0x10f27, 1), (0x10f70, 0x10f81, 1), (0x10fb0, 0x10fc4, 1), (0x10fe0, 0x10ff6, 1),
  (0x1e800, 0x1e8c4, 1), (0x1e922, 0x1e943, 1), (0x1e94b, 0x1e94b, 1), (0x1e950, 0x1e959, 1)]

/-- Runs of the letters of Arabic and its kin. -/
def arabicRuns : List (Nat × Nat × Nat) := [
  (0x620, 0x63f, 1), (0x641, 0x64a, 1), (0x66e, 0x66f, 1), (0x671, 0x674, 1), (0x679, 0x6d3, 1),
  (0x6d5, 0x6d5, 1), (0x6e5, 0x6e6, 1), (0x6ee, 0x6ef, 1), (0x6fa, 0x6ff, 1), (0x710, 0x72e, 2),
  (0x713, 0x72f, 2), (0x74d, 0x7a5, 1), (0x7b1, 0x7b1, 1), (0x860, 0x86a, 1), (0x870, 0x887, 1),
  (0x889, 0x88e, 1), (0x8a0, 0x8c9, 1), (0xfe73, 0xfe73, 1), (0x10d00, 0x10d23, 1),
  (0x10f30, 0x10f45, 1)]

/-- Runs of the digits of Arabic. -/
def arabicDigitRuns : List (Nat × Nat × Nat) := [
  (0x660, 0x669, 1), (0x10d30, 0x10d39, 1)]

/-- Runs of the digits that have no direction of their own. -/
def digitRuns : List (Nat × Nat × Nat) := [
  (0x30, 0x39, 1), (0x6f0, 0x6f9, 1)]

/-- Runs of the characters without a direction: the hyphen, joiners, and signs. -/
def neutralRuns : List (Nat × Nat × Nat) := [
  (0x2d, 0x2d, 1), (0xb7, 0xb7, 1), (0x2b9, 0x2ba, 1), (0x2c6, 0x2cf, 1), (0x2ec, 0x2ec, 1),
  (0x375, 0x375, 1), (0x200c, 0x200d, 1), (0x2e2f, 0x2e2f, 1), (0x30fb, 0x30fb, 1),
  (0xa67f, 0xa67f, 1), (0xa717, 0xa71f, 1), (0xa788, 0xa788, 1)]

/-! ## Joining -/

/-- Runs of the letters that join on both sides. -/
def dualJoiningRuns : List (Nat × Nat × Nat) := [
  (0x620, 0x620, 1), (0x626, 0x62e, 2), (0x62b, 0x62d, 2), (0x633, 0x63f, 1), (0x641, 0x647, 1),
  (0x649, 0x64a, 1), (0x66e, 0x66f, 1), (0x679, 0x687, 1), (0x69a, 0x6bf, 1), (0x6c1, 0x6c2, 1),
  (0x6cc, 0x6d0, 2), (0x6d1, 0x6d1, 1), (0x6fa, 0x6fc, 1), (0x6ff, 0x6ff, 1), (0x712, 0x714, 1),
  (0x71a, 0x71d, 1), (0x71f, 0x727, 1), (0x729, 0x72d, 2), (0x72e, 0x72e, 1), (0x74e, 0x758, 1),
  (0x75c, 0x76a, 1), (0x76d, 0x770, 1), (0x772, 0x772, 1), (0x775, 0x777, 1), (0x77a, 0x77f, 1),
  (0x7ca, 0x7ea, 1), (0x841, 0x845, 1), (0x848, 0x852, 2), (0x84b, 0x855, 2), (0x860, 0x864, 2),
  (0x863, 0x865, 2), (0x868, 0x868, 1), (0x886, 0x886, 1), (0x889, 0x88d, 1), (0x8a0, 0x8a9, 1),
  (0x8af, 0x8b0, 1), (0x8b3, 0x8b8, 1), (0x8ba, 0x8c8, 1), (0x1820, 0x1878, 1),
  (0x1887, 0x18a8, 1), (0x18aa, 0x18aa, 1), (0xa840, 0xa871, 1), (0x10ac0, 0x10ac4, 1),
  (0x10ad3, 0x10ad6, 1), (0x10ad8, 0x10adc, 1), (0x10ade, 0x10ae0, 1), (0x10b80, 0x10b82, 2),
  (0x10b86, 0x10b88, 1), (0x10b8a, 0x10b8b, 1), (0x10b8d, 0x10b8d, 1), (0x10b90, 0x10b90, 1),
  (0x10d01, 0x10d21, 1), (0x10d23, 0x10d23, 1), (0x10f30, 0x10f44, 2), (0x10f31, 0x10f31, 1),
  (0x10f35, 0x10f43, 2), (0x10f70, 0x10f73, 1), (0x10f76, 0x10f81, 1), (0x10fb0, 0x10fb2, 2),
  (0x10fb3, 0x10fb3, 1), (0x10fb8, 0x10fb8, 1), (0x10fbb, 0x10fbc, 1), (0x10fbe, 0x10fbf, 1),
  (0x10fc1, 0x10fc1, 1), (0x10fc4, 0x10fc4, 1), (0x1e922, 0x1e943, 1)]

/-- Runs of the letters that join with what follows. -/
def leftJoiningRuns : List (Nat × Nat × Nat) := [
  (0xa872, 0xa872, 1), (0x10acd, 0x10acd, 1), (0x10ad7, 0x10ad7, 1), (0x10d00, 0x10d00, 1)]

/-- Runs of the letters that join with what is before. -/
def rightJoiningRuns : List (Nat × Nat × Nat) := [
  (0x622, 0x625, 1), (0x627, 0x629, 2), (0x62f, 0x632, 1), (0x648, 0x648, 1), (0x671, 0x673, 1),
  (0x688, 0x699, 1), (0x6c0, 0x6c0, 1), (0x6c3, 0x6cb, 1), (0x6cd, 0x6cf, 2), (0x6d2, 0x6d3, 1),
  (0x6d5, 0x6d5, 1), (0x6ee, 0x6ef, 1), (0x710, 0x710, 1), (0x715, 0x719, 1), (0x71e, 0x71e, 1),
  (0x728, 0x72c, 2), (0x72f, 0x72f, 1), (0x74d, 0x74d, 1), (0x759, 0x75b, 1), (0x76b, 0x76c, 1),
  (0x771, 0x773, 2), (0x774, 0x774, 1), (0x778, 0x779, 1), (0x840, 0x840, 1), (0x846, 0x847, 1),
  (0x849, 0x849, 1), (0x854, 0x858, 2), (0x857, 0x857, 1), (0x867, 0x869, 2), (0x86a, 0x86a, 1),
  (0x870, 0x882, 1), (0x88e, 0x88e, 1), (0x8aa, 0x8ac, 1), (0x8ae, 0x8ae, 1), (0x8b1, 0x8b2, 1),
  (0x8b9, 0x8b9, 1), (0x10ac5, 0x10ac9, 2), (0x10aca, 0x10aca, 1), (0x10ace, 0x10ad2, 1),
  (0x10add, 0x10add, 1), (0x10ae1, 0x10ae1, 1), (0x10ae4, 0x10ae4, 1), (0x10b81, 0x10b85, 2),
  (0x10b84, 0x10b84, 1), (0x10b89, 0x10b89, 1), (0x10b8c, 0x10b8e, 2), (0x10b8f, 0x10b91, 2),
  (0x10d22, 0x10d22, 1), (0x10f33, 0x10f33, 1), (0x10f74, 0x10f75, 1), (0x10fb4, 0x10fb6, 1),
  (0x10fb9, 0x10fba, 1), (0x10fbd, 0x10fbd, 1), (0x10fc2, 0x10fc3, 1)]

/-! ## Scripts -/

/-- Runs of the Greek script. -/
def greekRuns : List (Nat × Nat × Nat) := [
  (0x370, 0x373, 1), (0x375, 0x377, 1), (0x37a, 0x37d, 1), (0x37f, 0x37f, 1), (0x384, 0x3a0, 2),
  (0x389, 0x389, 1), (0x38f, 0x3e1, 2), (0x3a4, 0x3e0, 2), (0x3f0, 0x3ff, 1), (0x1d26, 0x1d2a, 1),
  (0x1d5d, 0x1d61, 1), (0x1d66, 0x1d6a, 1), (0x1dbf, 0x1dbf, 1), (0x1f00, 0x1f15, 1),
  (0x1f18, 0x1f1d, 1), (0x1f20, 0x1f45, 1), (0x1f48, 0x1f4d, 1), (0x1f50, 0x1f57, 1),
  (0x1f59, 0x1f7d, 2), (0x1f60, 0x1f7c, 2), (0x1f80, 0x1fb4, 1), (0x1fb6, 0x1fc4, 1),
  (0x1fc6, 0x1fd3, 1), (0x1fd6, 0x1fdb, 1), (0x1fdd, 0x1fef, 1), (0x1ff2, 0x1ffe, 2),
  (0x1ff3, 0x1ff3, 1), (0x1ff7, 0x1ffd, 2), (0x2126, 0x2126, 1), (0xab65, 0xab65, 1),
  (0x10140, 0x1018e, 1), (0x101a0, 0x101a0, 1), (0x1d200, 0x1d245, 1)]

/-- Runs of the Hebrew script. -/
def hebrewRuns : List (Nat × Nat × Nat) := [
  (0x591, 0x5c7, 1), (0x5d0, 0x5ea, 1), (0x5ef, 0x5f4, 1), (0xfb1d, 0xfb36, 1),
  (0xfb38, 0xfb3c, 1), (0xfb3e, 0xfb40, 2), (0xfb41, 0xfb43, 2), (0xfb44, 0xfb4e, 2),
  (0xfb47, 0xfb4f, 2)]

/-- Runs of the scripts that Japanese is written in. -/
def japaneseRuns : List (Nat × Nat × Nat) := [
  (0x2e80, 0x2e99, 1), (0x2e9b, 0x2ef3, 1), (0x2f00, 0x2fd5, 1), (0x3005, 0x3007, 2),
  (0x3021, 0x3029, 1), (0x3038, 0x303b, 1), (0x3041, 0x3096, 1), (0x309d, 0x30f9, 2),
  (0x309e, 0x309e, 1), (0x30a2, 0x30fa, 2), (0x30fd, 0x30ff, 1), (0x31f0, 0x31ff, 1),
  (0x32d0, 0x3356, 2), (0x32d1, 0x32fd, 2), (0x3301, 0x3357, 2), (0x3400, 0x4dbf, 1),
  (0x4e00, 0x9fff, 1), (0xf900, 0xfa6d, 1), (0xfa70, 0xfad9, 1), (0xff66, 0xff6f, 1),
  (0xff71, 0xff9d, 1), (0x16fe2, 0x16fe3, 1), (0x16ff0, 0x16ff6, 1), (0x1aff0, 0x1aff3, 1),
  (0x1aff5, 0x1affb, 1), (0x1affd, 0x1affe, 1), (0x1b000, 0x1b122, 1), (0x1b132, 0x1b132, 1),
  (0x1b150, 0x1b152, 1), (0x1b155, 0x1b155, 1), (0x1b164, 0x1b167, 1), (0x1f200, 0x1f200, 1),
  (0x20000, 0x2a6df, 1), (0x2a700, 0x2b81d, 1), (0x2b820, 0x2cead, 1), (0x2ceb0, 0x2ebe0, 1),
  (0x2ebf0, 0x2ee5d, 1), (0x2f800, 0x2fa1d, 1), (0x30000, 0x3134a, 1), (0x31350, 0x33479, 1)]

end AdminConsole.Http
