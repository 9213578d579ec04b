/-
ArgTaint.Text.Category — the general categories of Unicode 17.0.

A category has a name of two letters; the first one names the category with
the others that share it. Letters in general and decimal digits have their
tables in `Text.Letter`.

* `categoryRuns?` — the runs of the category with a name of two letters.
* `categoryRanges?` — the ranges of the category with a name.
* `assignedRanges` — the ranges of all of them together.
-/
import ArgTaint.Text.Letter

namespace ArgTaint.Text

/-! ## Tables

A run `(lo, hi, step)` stands for `lo, lo + step, …, hi`. -/

def upperRuns : List (Nat × Nat × Nat) :=
  [(0x41, 0x5a, 1), (0xc0, 0xd6, 1), (0xd8, 0xde, 1), (0x100, 0x136, 2), (0x139, 0x147, 2),
   (0x14a, 0x176, 2), (0x178, 0x179, 1), (0x17b, 0x17b, 1), (0x17d, 0x17d, 1),
   (0x181, 0x182, 1), (0x184, 0x184, 1), (0x186, 0x187, 1), (0x189, 0x18b, 1),
   (0x18e, 0x191, 1), (0x193, 0x194, 1), (0x196, 0x198, 1), (0x19c, 0x19d, 1),
   (0x19f, 0x1a0, 1), (0x1a2, 0x1a2, 1), (0x1a4, 0x1a4, 1), (0x1a6, 0x1a7, 1),
   (0x1a9, 0x1a9, 1), (0x1ac, 0x1ac, 1), (0x1ae, 0x1af, 1), (0x1b1, 0x1b3, 1),
   (0x1b5, 0x1b5, 1), (0x1b7, 0x1b8, 1), (0x1bc, 0x1bc, 1), (0x1c4, 0x1c4, 1),
   (0x1c7, 0x1c7, 1), (0x1ca, 0x1ca, 1), (0x1cd, 0x1db, 2), (0x1de, 0x1ee, 2),
   (0x1f1, 0x1f1, 1), (0x1f4, 0x1f4, 1), (0x1f6, 0x1f8, 1), (0x1fa, 0x232, 2),
   (0x23a, 0x23b, 1), (0x23d, 0x23e, 1), (0x241, 0x241, 1), (0x243, 0x246, 1),
   (0x248, 0x24e, 2), (0x370, 0x370, 1), (0x372, 0x372, 1), (0x376, 0x376, 1),
   (0x37f, 0x37f, 1), (0x386, 0x386, 1), (0x388, 0x38a, 1), (0x38c, 0x38c, 1),
   (0x38e, 0x38f, 1), (0x391, 0x3a1, 1), (0x3a3, 0x3ab, 1), (0x3cf, 0x3cf, 1),
   (0x3d2, 0x3d4, 1), (0x3d8, 0x3ee, 2), (0x3f4, 0x3f4, 1), (0x3f7, 0x3f7, 1),
   (0x3f9, 0x3fa, 1), (0x3fd, 0x42f, 1), (0x460, 0x480, 2), (0x48a, 0x4be, 2),
   (0x4c0, 0x4c1, 1), (0x4c3, 0x4cd, 2), (0x4d0, 0x52e, 2), (0x531, 0x556, 1),
   (0x10a0, 0x10c5, 1), (0x10c7, 0x10c7, 1), (0x10cd, 0x10cd, 1), (0x13a0, 0x13f5, 1),
   (0x1c89, 0x1c89, 1), (0x1c90, 0x1cba, 1), (0x1cbd, 0x1cbf, 1), (0x1e00, 0x1e94, 2),
   (0x1e9e, 0x1efe, 2), (0x1f08, 0x1f0f, 1), (0x1f18, 0x1f1d, 1), (0x1f28, 0x1f2f, 1),
   (0x1f38, 0x1f3f, 1), (0x1f48, 0x1f4d, 1), (0x1f59, 0x1f5f, 2), (0x1f68, 0x1f6f, 1),
   (0x1fb8, 0x1fbb, 1), (0x1fc8, 0x1fcb, 1), (0x1fd8, 0x1fdb, 1), (0x1fe8, 0x1fec, 1),
   (0x1ff8, 0x1ffb, 1), (0x2102, 0x2102, 1), (0x2107, 0x2107, 1), (0x210b, 0x210d, 1),
   (0x2110, 0x2112, 1), (0x2115, 0x2115, 1), (0x2119, 0x211d, 1), (0x2124, 0x2128, 2),
   (0x212a, 0x212d, 1), (0x2130, 0x2133, 1), (0x213e, 0x213f, 1), (0x2145, 0x2145, 1),
   (0x2183, 0x2183, 1), (0x2c00, 0x2c2f, 1), (0x2c60, 0x2c60, 1), (0x2c62, 0x2c64, 1),
   (0x2c67, 0x2c6b, 2), (0x2c6d, 0x2c70, 1), (0x2c72, 0x2c72, 1), (0x2c75, 0x2c75, 1),
   (0x2c7e, 0x2c80, 1), (0x2c82, 0x2ce2, 2), (0x2ceb, 0x2ceb, 1), (0x2ced, 0x2ced, 1),
   (0x2cf2, 0x2cf2, 1), (0xa640, 0xa66c, 2), (0xa680, 0xa69a, 2), (0xa722, 0xa72e, 2),
   (0xa732, 0xa76e, 2), (0xa779, 0xa779, 1), (0xa77b, 0xa77b, 1), (0xa77d, 0xa77e, 1),
   (0xa780, 0xa786, 2), (0xa78b, 0xa78b, 1), (0xa78d, 0xa78d, 1), (0xa790, 0xa790, 1),
   (0xa792, 0xa792, 1), (0xa796, 0xa7a8, 2), (0xa7aa, 0xa7ae, 1), (0xa7b0, 0xa7b4, 1),
   (0xa7b6, 0xa7c2, 2), (0xa7c4, 0xa7c7, 1), (0xa7c9, 0xa7c9, 1), (0xa7cb, 0xa7cc, 1),
   (0xa7ce, 0xa7dc, 2), (0xa7f5, 0xa7f5, 1), (0xff21, 0xff3a, 1), (0x10400, 0x10427, 1),
   (0x104b0, 0x104d3, 1), (0x10570, 0x1057a, 1), (0x1057c, 0x1058a, 1), (0x1058c, 0x10592, 1),
   (0x10594, 0x10595, 1), (0x10c80, 0x10cb2, 1), (0x10d50, 0x10d65, 1), (0x118a0, 0x118bf, 1),
   (0x16e40, 0x16e5f, 1), (0x16ea0, 0x16eb8, 1), (0x1d400, 0x1d419, 1), (0x1d434, 0x1d44d, 1),
   (0x1d468, 0x1d481, 1), (0x1d49c, 0x1d49c, 1), (0x1d49e, 0x1d49f, 1), (0x1d4a2, 0x1d4a2, 1),
   (0x1d4a5, 0x1d4a6, 1), (0x1d4a9, 0x1d4ac, 1), (0x1d4ae, 0x1d4b5, 1), (0x1d4d0, 0x1d4e9, 1),
   (0x1d504, 0x1d505, 1), (0x1d507, 0x1d50a, 1), (0x1d50d, 0x1d514, 1), (0x1d516, 0x1d51c, 1),
   (0x1d538, 0x1d539, 1), (0x1d53b, 0x1d53e, 1), (0x1d540, 0x1d544, 1), (0x1d546, 0x1d546, 1),
   (0x1d54a, 0x1d550, 1), (0x1d56c, 0x1d585, 1), (0x1d5a0, 0x1d5b9, 1), (0x1d5d4, 0x1d5ed, 1),
   (0x1d608, 0x1d621, 1), (0x1d63c, 0x1d655, 1), (0x1d670, 0x1d689, 1), (0x1d6a8, 0x1d6c0, 1),
   (0x1d6e2, 0x1d6fa, 1), (0x1d71c, 0x1d734, 1), (0x1d756, 0x1d76e, 1), (0x1d790, 0x1d7a8, 1),
   (0x1d7ca, 0x1d7ca, 1), (0x1e900, 0x1e921, 1)]

def lowerRuns : List (Nat × Nat × Nat) :=
  [(0x61, 0x7a, 1), (0xb5, 0xb5, 1), (0xdf, 0xf6, 1), (0xf8, 0xff, 1), (0x101, 0x135, 2),
   (0x137, 0x138, 1), (0x13a, 0x146, 2), (0x148, 0x149, 1), (0x14b, 0x177, 2),
   (0x17a, 0x17a, 1), (0x17c, 0x17c, 1), (0x17e, 0x180, 1), (0x183, 0x183, 1),
   (0x185, 0x185, 1), (0x188, 0x188, 1), (0x18c, 0x18d, 1), (0x192, 0x192, 1),
   (0x195, 0x195, 1), (0x199, 0x19b, 1), (0x19e, 0x19e, 1), (0x1a1, 0x1a5, 2),
   (0x1a8, 0x1a8, 1), (0x1aa, 0x1ab, 1), (0x1ad, 0x1ad, 1), (0x1b0, 0x1b0, 1),
   (0x1b4, 0x1b4, 1), (0x1b6, 0x1b6, 1), (0x1b9, 0x1ba, 1), (0x1bd, 0x1bf, 1),
   (0x1c6, 0x1c6, 1), (0x1c9, 0x1c9, 1), (0x1cc, 0x1da, 2), (0x1dc, 0x1dd, 1),
   (0x1df, 0x1ed, 2), (0x1ef, 0x1f0, 1), (0x1f3, 0x1f3, 1), (0x1f5, 0x1f5, 1),
   (0x1f9, 0x231, 2), (0x233, 0x239, 1), (0x23c, 0x23c, 1), (0x23f, 0x240, 1),
   (0x242, 0x242, 1), (0x247, 0x24d, 2), (0x24f, 0x293, 1), (0x296, 0x2af, 1),
   (0x371, 0x371, 1), (0x373, 0x373, 1), (0x377, 0x377, 1), (0x37b, 0x37d, 1),
   (0x390, 0x390, 1), (0x3ac, 0x3ce, 1), (0x3d0, 0x3d1, 1), (0x3d5, 0x3d7, 1),
   (0x3d9, 0x3ed, 2), (0x3ef, 0x3f3, 1), (0x3f5, 0x3f5, 1), (0x3f8, 0x3f8, 1),
   (0x3fb, 0x3fc, 1), (0x430, 0x45f, 1), (0x461, 0x481, 2), (0x48b, 0x4bf, 2),
   (0x4c2, 0x4cc, 2), (0x4ce, 0x4cf, 1), (0x4d1, 0x52f, 2), (0x560, 0x588, 1),
   (0x10d0, 0x10fa, 1), (0x10fd, 0x10ff, 1), (0x13f8, 0x13fd, 1), (0x1c80, 0x1c88, 1),
   (0x1c8a, 0x1c8a, 1), (0x1d00, 0x1d2b, 1), (0x1d6b, 0x1d77, 1), (0x1d79, 0x1d9a, 1),
   (0x1e01, 0x1e93, 2), (0x1e95, 0x1e9d, 1), (0x1e9f, 0x1efd, 2), (0x1eff, 0x1f07, 1),
   (0x1f10, 0x1f15, 1), (0x1f20, 0x1f27, 1), (0x1f30, 0x1f37, 1), (0x1f40, 0x1f45, 1),
   (0x1f50, 0x1f57, 1), (0x1f60, 0x1f67, 1), (0x1f70, 0x1f7d, 1), (0x1f80, 0x1f87, 1),
   (0x1f90, 0x1f97, 1), (0x1fa0, 0x1fa7, 1), (0x1fb0, 0x1fb4, 1), (0x1fb6, 0x1fb7, 1),
   (0x1fbe, 0x1fbe, 1), (0x1fc2, 0x1fc4, 1), (0x1fc6, 0x1fc7, 1), (0x1fd0, 0x1fd3, 1),
   (0x1fd6, 0x1fd7, 1), (0x1fe0, 0x1fe7, 1), (0x1ff2, 0x1ff4, 1), (0x1ff6, 0x1ff7, 1),
   (0x210a, 0x210a, 1), (0x210e, 0x210f, 1), (0x2113, 0x2113, 1), (0x212f, 0x212f, 1),
   (0x2134, 0x2134, 1), (0x2139, 0x2139, 1), (0x213c, 0x213d, 1), (0x2146, 0x2149, 1),
   (0x214e, 0x214e, 1), (0x2184, 0x2184, 1), (0x2c30, 0x2c5f, 1), (0x2c61, 0x2c61, 1),
   (0x2c65, 0x2c66, 1), (0x2c68, 0x2c6c, 2), (0x2c71, 0x2c71, 1), (0x2c73, 0x2c74, 1),
   (0x2c76, 0x2c7b, 1), (0x2c81, 0x2ce1, 2), (0x2ce3, 0x2ce4, 1), (0x2cec, 0x2cec, 1),
   (0x2cee, 0x2cee, 1), (0x2cf3, 0x2cf3, 1), (0x2d00, 0x2d25, 1), (0x2d27, 0x2d27, 1),
   (0x2d2d, 0x2d2d, 1), (0xa641, 0xa66d, 2), (0xa681, 0xa69b, 2), (0xa723, 0xa72d, 2),
   (0xa72f, 0xa731, 1), (0xa733, 0xa76f, 2), (0xa771, 0xa778, 1), (0xa77a, 0xa77a, 1),
   (0xa77c, 0xa77c, 1), (0xa77f, 0xa787, 2), (0xa78c, 0xa78c, 1), (0xa78e, 0xa78e, 1),
   (0xa791, 0xa791, 1), (0xa793, 0xa795, 1), (0xa797, 0xa7a9, 2), (0xa7af, 0xa7af, 1),
   (0xa7b5, 0xa7c3, 2), (0xa7c8, 0xa7c8, 1), (0xa7ca, 0xa7ca, 1), (0xa7cd, 0xa7db, 2),
   (0xa7f6, 0xa7f6, 1), (0xa7fa, 0xa7fa, 1), (0xab30, 0xab5a, 1), (0xab60, 0xab68, 1),
   (0xab70, 0xabbf, 1), (0xfb00, 0xfb06, 1), (0xfb13, 0xfb17, 1), (0xff41, 0xff5a, 1),
   (0x10428, 0x1044f, 1), (0x104d8, 0x104fb, 1), (0x10597, 0x105a1, 1), (0x105a3, 0x105b1, 1),
   (0x105b3, 0x105b9, 1), (0x105bb, 0x105bc, 1), (0x10cc0, 0x10cf2, 1), (0x10d70, 0x10d85, 1),
   (0x118c0, 0x118df, 1), (0x16e60, 0x16e7f, 1), (0x16ebb, 0x16ed3, 1), (0x1d41a, 0x1d433, 1),
   (0x1d44e, 0x1d454, 1), (0x1d456, 0x1d467, 1), (0x1d482, 0x1d49b, 1), (0x1d4b6, 0x1d4b9, 1),
   (0x1d4bb, 0x1d4bb, 1), (0x1d4bd, 0x1d4c3, 1), (0x1d4c5, 0x1d4cf, 1), (0x1d4ea, 0x1d503, 1),
   (0x1d51e, 0x1d537, 1), (0x1d552, 0x1d56b, 1), (0x1d586, 0x1d59f, 1), (0x1d5ba, 0x1d5d3, 1),
   (0x1d5ee, 0x1d607, 1), (0x1d622, 0x1d63b, 1), (0x1d656, 0x1d66f, 1), (0x1d68a, 0x1d6a5, 1),
   (0x1d6c2, 0x1d6da, 1), (0x1d6dc, 0x1d6e1, 1), (0x1d6fc, 0x1d714, 1), (0x1d716, 0x1d71b, 1),
   (0x1d736, 0x1d74e, 1), (0x1d750, 0x1d755, 1), (0x1d770, 0x1d788, 1), (0x1d78a, 0x1d78f, 1),
   (0x1d7aa, 0x1d7c2, 1), (0x1d7c4, 0x1d7c9, 1), (0x1d7cb, 0x1d7cb, 1), (0x1df00, 0x1df09, 1),
   (0x1df0b, 0x1df1e, 1), (0x1df25, 0x1df2a, 1), (0x1e922, 0x1e943, 1)]

def titleRuns : List (Nat × Nat × Nat) :=
  [(0x1c5, 0x1c5, 1), (0x1c8, 0x1c8, 1), (0x1cb, 0x1cb, 1), (0x1f2, 0x1f2, 1),
   (0x1f88, 0x1f8f, 1), (0x1f98, 0x1f9f, 1), (0x1fa8, 0x1faf, 1), (0x1fbc, 0x1fbc, 1),
   (0x1fcc, 0x1fcc, 1), (0x1ffc, 0x1ffc, 1)]

def modifierLetterRuns : List (Nat × Nat × Nat) :=
  [(0x2b0, 0x2c1, 1), (0x2c6, 0x2d1, 1), (0x2e0, 0x2e4, 1), (0x2ec, 0x2ec, 1),
   (0x2ee, 0x2ee, 1), (0x374, 0x374, 1), (0x37a, 0x37a, 1), (0x559, 0x559, 1),
   (0x640, 0x640, 1), (0x6e5, 0x6e6, 1), (0x7f4, 0x7f5, 1), (0x7fa, 0x7fa, 1),
   (0x81a, 0x81a, 1), (0x824, 0x824, 1), (0x828, 0x828, 1), (0x8c9, 0x8c9, 1),
   (0x971, 0x971, 1), (0xe46, 0xe46, 1), (0xec6, 0xec6, 1), (0x10fc, 0x10fc, 1),
   (0x17d7, 0x17d7, 1), (0x1843, 0x1843, 1), (0x1aa7, 0x1aa7, 1), (0x1c78, 0x1c7d, 1),
   (0x1d2c, 0x1d6a, 1), (0x1d78, 0x1d78, 1), (0x1d9b, 0x1dbf, 1), (0x2071, 0x2071, 1),
   (0x207f, 0x207f, 1), (0x2090, 0x209c, 1), (0x2c7c, 0x2c7d, 1), (0x2d6f, 0x2d6f, 1),
   (0x2e2f, 0x2e2f, 1), (0x3005, 0x3005, 1), (0x3031, 0x3035, 1), (0x303b, 0x303b, 1),
   (0x309d, 0x309e, 1), (0x30fc, 0x30fe, 1), (0xa015, 0xa015, 1), (0xa4f8, 0xa4fd, 1),
   (0xa60c, 0xa60c, 1), (0xa67f, 0xa67f, 1), (0xa69c, 0xa69d, 1), (0xa717, 0xa71f, 1),
   (0xa770, 0xa770, 1), (0xa788, 0xa788, 1), (0xa7f1, 0xa7f4, 1), (0xa7f8, 0xa7f9, 1),
   (0xa9cf, 0xa9cf, 1), (0xa9e6, 0xa9e6, 1), (0xaa70, 0xaa70, 1), (0xaadd, 0xaadd, 1),
   (0xaaf3, 0xaaf4, 1), (0xab5c, 0xab5f, 1), (0xab69, 0xab69, 1), (0xff70, 0xff70, 1),
   (0xff9e, 0xff9f, 1), (0x10780, 0x10785, 1), (0x10787, 0x107b0, 1), (0x107b2, 0x107ba, 1),
   (0x10d4e, 0x10d4e, 1), (0x10d6f, 0x10d6f, 1), (0x10ec5, 0x10ec5, 1), (0x11dd9, 0x11dd9, 1),
   (0x16b40, 0x16b43, 1), (0x16d40, 0x16d42, 1), (0x16d6b, 0x16d6c, 1), (0x16f93, 0x16f9f, 1),
   (0x16fe0, 0x16fe1, 1), (0x16fe3, 0x16fe3, 1), (0x16ff2, 0x16ff3, 1), (0x1aff0, 0x1aff3, 1),
   (0x1aff5, 0x1affb, 1), (0x1affd, 0x1affe, 1), (0x1e030, 0x1e06d, 1), (0x1e137, 0x1e13d, 1),
   (0x1e4eb, 0x1e4eb, 1), (0x1e6ff, 0x1e6ff, 1), (0x1e94b, 0x1e94b, 1)]

def otherLetterRuns : List (Nat × Nat × Nat) :=
  [(0xaa, 0xaa, 1), (0xba, 0xba, 1), (0x1bb, 0x1bb, 1), (0x1c0, 0x1c3, 1), (0x294, 0x295, 1),
   (0x5d0, 0x5ea, 1), (0x5ef, 0x5f2, 1), (0x620, 0x63f, 1), (0x641, 0x64a, 1),
   (0x66e, 0x66f, 1), (0x671, 0x6d3, 1), (0x6d5, 0x6d5, 1), (0x6ee, 0x6ef, 1),
   (0x6fa, 0x6fc, 1), (0x6ff, 0x6ff, 1), (0x710, 0x710, 1), (0x712, 0x72f, 1),
   (0x74d, 0x7a5, 1), (0x7b1, 0x7b1, 1), (0x7ca, 0x7ea, 1), (0x800, 0x815, 1),
   (0x840, 0x858, 1), (0x860, 0x86a, 1), (0x870, 0x887, 1), (0x889, 0x88f, 1),
   (0x8a0, 0x8c8, 1), (0x904, 0x939, 1), (0x93d, 0x93d, 1), (0x950, 0x950, 1),
   (0x958, 0x961, 1), (0x972, 0x980, 1), (0x985, 0x98c, 1), (0x98f, 0x990, 1),
   (0x993, 0x9a8, 1), (0x9aa, 0x9b0, 1), (0x9b2, 0x9b2, 1), (0x9b6, 0x9b9, 1),
   (0x9bd, 0x9bd, 1), (0x9ce, 0x9ce, 1), (0x9dc, 0x9dd, 1), (0x9df, 0x9e1, 1),
   (0x9f0, 0x9f1, 1), (0x9fc, 0x9fc, 1), (0xa05, 0xa0a, 1), (0xa0f, 0xa10, 1),
   (0xa13, 0xa28, 1), (0xa2a, 0xa30, 1), (0xa32, 0xa33, 1), (0xa35, 0xa36, 1),
   (0xa38, 0xa39, 1), (0xa59, 0xa5c, 1), (0xa5e, 0xa5e, 1), (0xa72, 0xa74, 1),
   (0xa85, 0xa8d, 1), (0xa8f, 0xa91, 1), (0xa93, 0xaa8, 1), (0xaaa, 0xab0, 1),
   (0xab2, 0xab3, 1), (0xab5, 0xab9, 1), (0xabd, 0xabd, 1), (0xad0, 0xad0, 1),
   (0xae0, 0xae1, 1), (0xaf9, 0xaf9, 1), (0xb05, 0xb0c, 1), (0xb0f, 0xb10, 1),
   (0xb13, 0xb28, 1), (0xb2a, 0xb30, 1), (0xb32, 0xb33, 1), (0xb35, 0xb39, 1),
   (0xb3d, 0xb3d, 1), (0xb5c, 0xb5d, 1), (0xb5f, 0xb61, 1), (0xb71, 0xb71, 1),
   (0xb83, 0xb83, 1), (0xb85, 0xb8a, 1), (0xb8e, 0xb90, 1), (0xb92, 0xb95, 1),
   (0xb99, 0xb9a, 1), (0xb9c, 0xb9c, 1), (0xb9e, 0xb9f, 1), (0xba3, 0xba4, 1),
   (0xba8, 0xbaa, 1), (0xbae, 0xbb9, 1), (0xbd0, 0xbd0, 1), (0xc05, 0xc0c, 1),
   (0xc0e, 0xc10, 1), (0xc12, 0xc28, 1), (0xc2a, 0xc39, 1), (0xc3d, 0xc3d, 1),
   (0xc58, 0xc5a, 1), (0xc5c, 0xc5d, 1), (0xc60, 0xc61, 1), (0xc80, 0xc80, 1),
   (0xc85, 0xc8c, 1), (0xc8e, 0xc90, 1), (0xc92, 0xca8, 1), (0xcaa, 0xcb3, 1),
   (0xcb5, 0xcb9, 1), (0xcbd, 0xcbd, 1), (0xcdc, 0xcde, 1), (0xce0, 0xce1, 1),
   (0xcf1, 0xcf2, 1), (0xd04, 0xd0c, 1), (0xd0e, 0xd10, 1), (0xd12, 0xd3a, 1),
   (0xd3d, 0xd3d, 1), (0xd4e, 0xd4e, 1), (0xd54, 0xd56, 1), (0xd5f, 0xd61, 1),
   (0xd7a, 0xd7f, 1), (0xd85, 0xd96, 1), (0xd9a, 0xdb1, 1), (0xdb3, 0xdbb, 1),
   (0xdbd, 0xdbd, 1), (0xdc0, 0xdc6, 1), (0xe01, 0xe30, 1), (0xe32, 0xe33, 1),
   (0xe40, 0xe45, 1), (0xe81, 0xe82, 1), (0xe84, 0xe84, 1), (0xe86, 0xe8a, 1),
   (0xe8c, 0xea3, 1), (0xea5, 0xea5, 1), (0xea7, 0xeb0, 1), (0xeb2, 0xeb3, 1),
   (0xebd, 0xebd, 1), (0xec0, 0xec4, 1), (0xedc, 0xedf, 1), (0xf00, 0xf00, 1),
   (0xf40, 0xf47, 1), (0xf49, 0xf6c, 1), (0xf88, 0xf8c, 1), (0x1000, 0x102a, 1),
   (0x103f, 0x103f, 1), (0x1050, 0x1055, 1), (0x105a, 0x105d, 1), (0x1061, 0x1061, 1),
   (0x1065, 0x1066, 1), (0x106e, 0x1070, 1), (0x1075, 0x1081, 1), (0x108e, 0x108e, 1),
   (0x1100, 0x1248, 1), (0x124a, 0x124d, 1), (0x1250, 0x1256, 1), (0x1258, 0x1258, 1),
   (0x125a, 0x125d, 1), (0x1260, 0x1288, 1), (0x128a, 0x128d, 1), (0x1290, 0x12b0, 1),
   (0x12b2, 0x12b5, 1), (0x12b8, 0x12be, 1), (0x12c0, 0x12c0, 1), (0x12c2, 0x12c5, 1),
   (0x12c8, 0x12d6, 1), (0x12d8, 0x1310, 1), (0x1312, 0x1315, 1), (0x1318, 0x135a, 1),
   (0x1380, 0x138f, 1), (0x1401, 0x166c, 1), (0x166f, 0x167f, 1), (0x1681, 0x169a, 1),
   (0x16a0, 0x16ea, 1), (0x16f1, 0x16f8, 1), (0x1700, 0x1711, 1), (0x171f, 0x1731, 1),
   (0x1740, 0x1751, 1), (0x1760, 0x176c, 1), (0x176e, 0x1770, 1), (0x1780, 0x17b3, 1),
   (0x17dc, 0x17dc, 1), (0x1820, 0x1842, 1), (0x1844, 0x1878, 1), (0x1880, 0x1884, 1),
   (0x1887, 0x18a8, 1), (0x18aa, 0x18aa, 1), (0x18b0, 0x18f5, 1), (0x1900, 0x191e, 1),
   (0x1950, 0x196d, 1), (0x1970, 0x1974, 1), (0x1980, 0x19ab, 1), (0x19b0, 0x19c9, 1),
   (0x1a00, 0x1a16, 1), (0x1a20, 0x1a54, 1), (0x1b05, 0x1b33, 1), (0x1b45, 0x1b4c, 1),
   (0x1b83, 0x1ba0, 1), (0x1bae, 0x1baf, 1), (0x1bba, 0x1be5, 1), (0x1c00, 0x1c23, 1),
   (0x1c4d, 0x1c4f, 1), (0x1c5a, 0x1c77, 1), (0x1ce9, 0x1cec, 1), (0x1cee, 0x1cf3, 1),
   (0x1cf5, 0x1cf6, 1), (0x1cfa, 0x1cfa, 1), (0x2135, 0x2138, 1), (0x2d30, 0x2d67, 1),
   (0x2d80, 0x2d96, 1), (0x2da0, 0x2da6, 1), (0x2da8, 0x2dae, 1), (0x2db0, 0x2db6, 1),
   (0x2db8, 0x2dbe, 1), (0x2dc0, 0x2dc6, 1), (0x2dc8, 0x2dce, 1), (0x2dd0, 0x2dd6, 1),
   (0x2dd8, 0x2dde, 1), (0x3006, 0x3006, 1), (0x303c, 0x303c, 1), (0x3041, 0x3096, 1),
   (0x309f, 0x309f, 1), (0x30a1, 0x30fa, 1), (0x30ff, 0x30ff, 1), (0x3105, 0x312f, 1),
   (0x3131, 0x318e, 1), (0x31a0, 0x31bf, 1), (0x31f0, 0x31ff, 1), (0x3400, 0x4dbf, 1),
   (0x4e00, 0xa014, 1), (0xa016, 0xa48c, 1), (0xa4d0, 0xa4f7, 1), (0xa500, 0xa60b, 1),
   (0xa610, 0xa61f, 1), (0xa62a, 0xa62b, 1), (0xa66e, 0xa66e, 1), (0xa6a0, 0xa6e5, 1),
   (0xa78f, 0xa78f, 1), (0xa7f7, 0xa7f7, 1), (0xa7fb, 0xa801, 1), (0xa803, 0xa805, 1),
   (0xa807, 0xa80a, 1), (0xa80c, 0xa822, 1), (0xa840, 0xa873, 1), (0xa882, 0xa8b3, 1),
   (0xa8f2, 0xa8f7, 1), (0xa8fb, 0xa8fb, 1), (0xa8fd, 0xa8fe, 1), (0xa90a, 0xa925, 1),
   (0xa930, 0xa946, 1), (0xa960, 0xa97c, 1), (0xa984, 0xa9b2, 1), (0xa9e0, 0xa9e4, 1),
   (0xa9e7, 0xa9ef, 1), (0xa9fa, 0xa9fe, 1), (0xaa00, 0xaa28, 1), (0xaa40, 0xaa42, 1),
   (0xaa44, 0xaa4b, 1), (0xaa60, 0xaa6f, 1), (0xaa71, 0xaa76, 1), (0xaa7a, 0xaa7a, 1),
   (0xaa7e, 0xaaaf, 1), (0xaab1, 0xaab1, 1), (0xaab5, 0xaab6, 1), (0xaab9, 0xaabd, 1),
   (0xaac0, 0xaac0, 1), (0xaac2, 0xaac2, 1), (0xaadb, 0xaadc, 1), (0xaae0, 0xaaea, 1),
   (0xaaf2, 0xaaf2, 1), (0xab01, 0xab06, 1), (0xab09, 0xab0e, 1), (0xab11, 0xab16, 1),
   (0xab20, 0xab26, 1), (0xab28, 0xab2e, 1), (0xabc0, 0xabe2, 1), (0xac00, 0xd7a3, 1),
   (0xd7b0, 0xd7c6, 1), (0xd7cb, 0xd7fb, 1), (0xf900, 0xfa6d, 1), (0xfa70, 0xfad9, 1),
   (0xfb1d, 0xfb1d, 1), (0xfb1f, 0xfb28, 1), (0xfb2a, 0xfb36, 1), (0xfb38, 0xfb3c, 1),
   (0xfb3e, 0xfb3e, 1), (0xfb40, 0xfb41, 1), (0xfb43, 0xfb44, 1), (0xfb46, 0xfbb1, 1),
   (0xfbd3, 0xfd3d, 1), (0xfd50, 0xfd8f, 1), (0xfd92, 0xfdc7, 1), (0xfdf0, 0xfdfb, 1),
   (0xfe70, 0xfe74, 1), (0xfe76, 0xfefc, 1), (0xff66, 0xff6f, 1), (0xff71, 0xff9d, 1),
   (0xffa0, 0xffbe, 1), (0xffc2, 0xffc7, 1), (0xffca, 0xffcf, 1), (0xffd2, 0xffd7, 1),
   (0xffda, 0xffdc, 1), (0x10000, 0x1000b, 1), (0x1000d, 0x10026, 1), (0x10028, 0x1003a, 1),
   (0x1003c, 0x1003d, 1), (0x1003f, 0x1004d, 1), (0x10050, 0x1005d, 1), (0x10080, 0x100fa, 1),
   (0x10280, 0x1029c, 1), (0x102a0, 0x102d0, 1), (0x10300, 0x1031f, 1), (0x1032d, 0x10340, 1),
   (0x10342, 0x10349, 1), (0x10350, 0x10375, 1), (0x10380, 0x1039d, 1), (0x103a0, 0x103c3, 1),
   (0x103c8, 0x103cf, 1), (0x10450, 0x1049d, 1), (0x10500, 0x10527, 1), (0x10530, 0x10563, 1),
   (0x105c0, 0x105f3, 1), (0x10600, 0x10736, 1), (0x10740, 0x10755, 1), (0x10760, 0x10767, 1),
   (0x10800, 0x10805, 1), (0x10808, 0x10808, 1), (0x1080a, 0x10835, 1), (0x10837, 0x10838, 1),
   (0x1083c, 0x1083c, 1), (0x1083f, 0x10855, 1), (0x10860, 0x10876, 1), (0x10880, 0x1089e, 1),
   (0x108e0, 0x108f2, 1), (0x108f4, 0x108f5, 1), (0x10900, 0x10915, 1), (0x10920, 0x10939, 1),
   (0x10940, 0x10959, 1), (0x10980, 0x109b7, 1), (0x109be, 0x109bf, 1), (0x10a00, 0x10a00, 1),
   (0x10a10, 0x10a13, 1), (0x10a15, 0x10a17, 1), (0x10a19, 0x10a35, 1), (0x10a60, 0x10a7c, 1),
   (0x10a80, 0x10a9c, 1), (0x10ac0, 0x10ac7, 1), (0x10ac9, 0x10ae4, 1), (0x10b00, 0x10b35, 1),
   (0x10b40, 0x10b55, 1), (0x10b60, 0x10b72, 1), (0x10b80, 0x10b91, 1), (0x10c00, 0x10c48, 1),
   (0x10d00, 0x10d23, 1), (0x10d4a, 0x10d4d, 1), (0x10d4f, 0x10d4f, 1), (0x10e80, 0x10ea9, 1),
   (0x10eb0, 0x10eb1, 1), (0x10ec2, 0x10ec4, 1), (0x10ec6, 0x10ec7, 1), (0x10f00, 0x10f1c, 1),
   (0x10f27, 0x10f27, 1), (0x10f30, 0x10f45, 1), (0x10f70, 0x10f81, 1), (0x10fb0, 0x10fc4, 1),
   (0x10fe0, 0x10ff6, 1), (0x11003, 0x11037, 1), (0x11071, 0x11072, 1), (0x11075, 0x11075, 1),
   (0x11083, 0x110af, 1), (0x110d0, 0x110e8, 1), (0x11103, 0x11126, 1), (0x11144, 0x11144, 1),
   (0x11147, 0x11147, 1), (0x11150, 0x11172, 1), (0x11176, 0x11176, 1), (0x11183, 0x111b2, 1),
   (0x111c1, 0x111c4, 1), (0x111da, 0x111da, 1), (0x111dc, 0x111dc, 1), (0x11200, 0x11211, 1),
   (0x11213, 0x1122b, 1), (0x1123f, 0x11240, 1), (0x11280, 0x11286, 1), (0x11288, 0x11288, 1),
   (0x1128a, 0x1128d, 1), (0x1128f, 0x1129d, 1), (0x1129f, 0x112a8, 1), (0x112b0, 0x112de, 1),
   (0x11305, 0x1130c, 1), (0x1130f, 0x11310, 1), (0x11313, 0x11328, 1), (0x1132a, 0x11330, 1),
   (0x11332, 0x11333, 1), (0x11335, 0x11339, 1), (0x1133d, 0x1133d, 1), (0x11350, 0x11350, 1),
   (0x1135d, 0x11361, 1), (0x11380, 0x11389, 1), (0x1138b, 0x1138b, 1), (0x1138e, 0x1138e, 1),
   (0x11390, 0x113b5, 1), (0x113b7, 0x113b7, 1), (0x113d1, 0x113d1, 1), (0x113d3, 0x113d3, 1),
   (0x11400, 0x11434, 1), (0x11447, 0x1144a, 1), (0x1145f, 0x11461, 1), (0x11480, 0x114af, 1),
   (0x114c4, 0x114c5, 1), (0x114c7, 0x114c7, 1), (0x11580, 0x115ae, 1), (0x115d8, 0x115db, 1),
   (0x11600, 0x1162f, 1), (0x11644, 0x11644, 1), (0x11680, 0x116aa, 1), (0x116b8, 0x116b8, 1),
   (0x11700, 0x1171a, 1), (0x11740, 0x11746, 1), (0x11800, 0x1182b, 1), (0x118ff, 0x11906, 1),
   (0x11909, 0x11909, 1), (0x1190c, 0x11913, 1), (0x11915, 0x11916, 1), (0x11918, 0x1192f, 1),
   (0x1193f, 0x1193f, 1), (0x11941, 0x11941, 1), (0x119a0, 0x119a7, 1), (0x119aa, 0x119d0, 1),
   (0x119e1, 0x119e1, 1), (0x119e3, 0x119e3, 1), (0x11a00, 0x11a00, 1), (0x11a0b, 0x11a32, 1),
   (0x11a3a, 0x11a3a, 1), (0x11a50, 0x11a50, 1), (0x11a5c, 0x11a89, 1), (0x11a9d, 0x11a9d, 1),
   (0x11ab0, 0x11af8, 1), (0x11bc0, 0x11be0, 1), (0x11c00, 0x11c08, 1), (0x11c0a, 0x11c2e, 1),
   (0x11c40, 0x11c40, 1), (0x11c72, 0x11c8f, 1), (0x11d00, 0x11d06, 1), (0x11d08, 0x11d09, 1),
   (0x11d0b, 0x11d30, 1), (0x11d46, 0x11d46, 1), (0x11d60, 0x11d65, 1), (0x11d67, 0x11d68, 1),
   (0x11d6a, 0x11d89, 1), (0x11d98, 0x11d98, 1), (0x11db0, 0x11dd8, 1), (0x11dda, 0x11ddb, 1),
   (0x11ee0, 0x11ef2, 1), (0x11f02, 0x11f02, 1), (0x11f04, 0x11f10, 1), (0x11f12, 0x11f33, 1),
   (0x11fb0, 0x11fb0, 1), (0x12000, 0x12399, 1), (0x12480, 0x12543, 1), (0x12f90, 0x12ff0, 1),
   (0x13000, 0x1342f, 1), (0x13441, 0x13446, 1), (0x13460, 0x143fa, 1), (0x14400, 0x14646, 1),
   (0x16100, 0x1611d, 1), (0x16800, 0x16a38, 1), (0x16a40, 0x16a5e, 1), (0x16a70, 0x16abe, 1),
   (0x16ad0, 0x16aed, 1), (0x16b00, 0x16b2f, 1), (0x16b63, 0x16b77, 1), (0x16b7d, 0x16b8f, 1),
   (0x16d43, 0x16d6a, 1), (0x16f00, 0x16f4a, 1), (0x16f50, 0x16f50, 1), (0x17000, 0x18cd5, 1),
   (0x18cff, 0x18d1e, 1), (0x18d80, 0x18df2, 1), (0x1b000, 0x1b122, 1), (0x1b132, 0x1b132, 1),
   (0x1b150, 0x1b152, 1), (0x1b155, 0x1b155, 1), (0x1b164, 0x1b167, 1), (0x1b170, 0x1b2fb, 1),
   (0x1bc00, 0x1bc6a, 1), (0x1bc70, 0x1bc7c, 1), (0x1bc80, 0x1bc88, 1), (0x1bc90, 0x1bc99, 1),
   (0x1df0a, 0x1df0a, 1), (0x1e100, 0x1e12c, 1), (0x1e14e, 0x1e14e, 1), (0x1e290, 0x1e2ad, 1),
   (0x1e2c0, 0x1e2eb, 1), (0x1e4d0, 0x1e4ea, 1), (0x1e5d0, 0x1e5ed, 1), (0x1e5f0, 0x1e5f0, 1),
   (0x1e6c0, 0x1e6de, 1), (0x1e6e0, 0x1e6e2, 1), (0x1e6e4, 0x1e6e5, 1), (0x1e6e7, 0x1e6ed, 1),
   (0x1e6f0, 0x1e6f4, 1), (0x1e6fe, 0x1e6fe, 1), (0x1e7e0, 0x1e7e6, 1), (0x1e7e8, 0x1e7eb, 1),
   (0x1e7ed, 0x1e7ee, 1), (0x1e7f0, 0x1e7fe, 1), (0x1e800, 0x1e8c4, 1), (0x1ee00, 0x1ee03, 1),
   (0x1ee05, 0x1ee1f, 1), (0x1ee21, 0x1ee22, 1), (0x1ee24, 0x1ee24, 1), (0x1ee27, 0x1ee27, 1),
   (0x1ee29, 0x1ee32, 1), (0x1ee34, 0x1ee37, 1), (0x1ee39, 0x1ee39, 1), (0x1ee3b, 0x1ee3b, 1),
   (0x1ee42, 0x1ee42, 1), (0x1ee47, 0x1ee4b, 2), (0x1ee4d, 0x1ee4f, 1), (0x1ee51, 0x1ee52, 1),
   (0x1ee54, 0x1ee54, 1), (0x1ee57, 0x1ee5f, 2), (0x1ee61, 0x1ee62, 1), (0x1ee64, 0x1ee64, 1),
   (0x1ee67, 0x1ee6a, 1), (0x1ee6c, 0x1ee72, 1), (0x1ee74, 0x1ee77, 1), (0x1ee79, 0x1ee7c, 1),
   (0x1ee7e, 0x1ee7e, 1), (0x1ee80, 0x1ee89, 1), (0x1ee8b, 0x1ee9b, 1), (0x1eea1, 0x1eea3, 1),
   (0x1eea5, 0x1eea9, 1), (0x1eeab, 0x1eebb, 1), (0x20000, 0x2a6df, 1), (0x2a700, 0x2b81d, 1),
   (0x2b820, 0x2cead, 1), (0x2ceb0, 0x2ebe0, 1), (0x2ebf0, 0x2ee5d, 1), (0x2f800, 0x2fa1d, 1),
   (0x30000, 0x3134a, 1), (0x31350, 0x33479, 1)]

def nonspacingRuns : List (Nat × Nat × Nat) :=
  [(0x300, 0x36f, 1), (0x483, 0x487, 1), (0x591, 0x5bd, 1), (0x5bf, 0x5bf, 1),
   (0x5c1, 0x5c2, 1), (0x5c4, 0x5c5, 1), (0x5c7, 0x5c7, 1), (0x610, 0x61a, 1),
   (0x64b, 0x65f, 1), (0x670, 0x670, 1), (0x6d6, 0x6dc, 1), (0x6df, 0x6e4, 1),
   (0x6e7, 0x6e8, 1), (0x6ea, 0x6ed, 1), (0x711, 0x711, 1), (0x730, 0x74a, 1),
   (0x7a6, 0x7b0, 1), (0x7eb, 0x7f3, 1), (0x7fd, 0x7fd, 1), (0x816, 0x819, 1),
   (0x81b, 0x823, 1), (0x825, 0x827, 1), (0x829, 0x82d, 1), (0x859, 0x85b, 1),
   (0x897, 0x89f, 1), (0x8ca, 0x8e1, 1), (0x8e3, 0x902, 1), (0x93a, 0x93a, 1),
   (0x93c, 0x93c, 1), (0x941, 0x948, 1), (0x94d, 0x94d, 1), (0x951, 0x957, 1),
   (0x962, 0x963, 1), (0x981, 0x981, 1), (0x9bc, 0x9bc, 1), (0x9c1, 0x9c4, 1),
   (0x9cd, 0x9cd, 1), (0x9e2, 0x9e3, 1), (0x9fe, 0x9fe, 1), (0xa01, 0xa02, 1),
   (0xa3c, 0xa3c, 1), (0xa41, 0xa42, 1), (0xa47, 0xa48, 1), (0xa4b, 0xa4d, 1),
   (0xa51, 0xa51, 1), (0xa70, 0xa71, 1), (0xa75, 0xa75, 1), (0xa81, 0xa82, 1),
   (0xabc, 0xabc, 1), (0xac1, 0xac5, 1), (0xac7, 0xac8, 1), (0xacd, 0xacd, 1),
   (0xae2, 0xae3, 1), (0xafa, 0xaff, 1), (0xb01, 0xb01, 1), (0xb3c, 0xb3c, 1),
   (0xb3f, 0xb3f, 1), (0xb41, 0xb44, 1), (0xb4d, 0xb4d, 1), (0xb55, 0xb56, 1),
   (0xb62, 0xb63, 1), (0xb82, 0xb82, 1), (0xbc0, 0xbc0, 1), (0xbcd, 0xbcd, 1),
   (0xc00, 0xc00, 1), (0xc04, 0xc04, 1), (0xc3c, 0xc3c, 1), (0xc3e, 0xc40, 1),
   (0xc46, 0xc48, 1), (0xc4a, 0xc4d, 1), (0xc55, 0xc56, 1), (0xc62, 0xc63, 1),
   (0xc81, 0xc81, 1), (0xcbc, 0xcbc, 1), (0xcbf, 0xcbf, 1), (0xcc6, 0xcc6, 1),
   (0xccc, 0xccd, 1), (0xce2, 0xce3, 1), (0xd00, 0xd01, 1), (0xd3b, 0xd3c, 1),
   (0xd41, 0xd44, 1), (0xd4d, 0xd4d, 1), (0xd62, 0xd63, 1), (0xd81, 0xd81, 1),
   (0xdca, 0xdca, 1), (0xdd2, 0xdd4, 1), (0xdd6, 0xdd6, 1), (0xe31, 0xe31, 1),
   (0xe34, 0xe3a, 1), (0xe47, 0xe4e, 1), (0xeb1, 0xeb1, 1), (0xeb4, 0xebc, 1),
   (0xec8, 0xece, 1), (0xf18, 0xf19, 1), (0xf35, 0xf39, 2), (0xf71, 0xf7e, 1),
   (0xf80, 0xf84, 1), (0xf86, 0xf87, 1), (0xf8d, 0xf97, 1), (0xf99, 0xfbc, 1),
   (0xfc6, 0xfc6, 1), (0x102d, 0x1030, 1), (0x1032, 0x1037, 1), (0x1039, 0x103a, 1),
   (0x103d, 0x103e, 1), (0x1058, 0x1059, 1), (0x105e, 0x1060, 1), (0x1071, 0x1074, 1),
   (0x1082, 0x1082, 1), (0x1085, 0x1086, 1), (0x108d, 0x108d, 1), (0x109d, 0x109d, 1),
   (0x135d, 0x135f, 1), (0x1712, 0x1714, 1), (0x1732, 0x1733, 1), (0x1752, 0x1753, 1),
   (0x1772, 0x1773, 1), (0x17b4, 0x17b5, 1), (0x17b7, 0x17bd, 1), (0x17c6, 0x17c6, 1),
   (0x17c9, 0x17d3, 1), (0x17dd, 0x17dd, 1), (0x180b, 0x180d, 1), (0x180f, 0x180f, 1),
   (0x1885, 0x1886, 1), (0x18a9, 0x18a9, 1), (0x1920, 0x1922, 1), (0x1927, 0x1928, 1),
   (0x1932, 0x1932, 1), (0x1939, 0x193b, 1), (0x1a17, 0x1a18, 1), (0x1a1b, 0x1a1b, 1),
   (0x1a56, 0x1a56, 1), (0x1a58, 0x1a5e, 1), (0x1a60, 0x1a60, 1), (0x1a62, 0x1a62, 1),
   (0x1a65, 0x1a6c, 1), (0x1a73, 0x1a7c, 1), (0x1a7f, 0x1a7f, 1), (0x1ab0, 0x1abd, 1),
   (0x1abf, 0x1add, 1), (0x1ae0, 0x1aeb, 1), (0x1b00, 0x1b03, 1), (0x1b34, 0x1b34, 1),
   (0x1b36, 0x1b3a, 1), (0x1b3c, 0x1b3c, 1), (0x1b42, 0x1b42, 1), (0x1b6b, 0x1b73, 1),
   (0x1b80, 0x1b81, 1), (0x1ba2, 0x1ba5, 1), (0x1ba8, 0x1ba9, 1), (0x1bab, 0x1bad, 1),
   (0x1be6, 0x1be6, 1), (0x1be8, 0x1be9, 1), (0x1bed, 0x1bed, 1), (0x1bef, 0x1bf1, 1),
   (0x1c2c, 0x1c33, 1), (0x1c36, 0x1c37, 1), (0x1cd0, 0x1cd2, 1), (0x1cd4, 0x1ce0, 1),
   (0x1ce2, 0x1ce8, 1), (0x1ced, 0x1ced, 1), (0x1cf4, 0x1cf4, 1), (0x1cf8, 0x1cf9, 1),
   (0x1dc0, 0x1dff, 1), (0x20d0, 0x20dc, 1), (0x20e1, 0x20e1, 1), (0x20e5, 0x20f0, 1),
   (0x2cef, 0x2cf1, 1), (0x2d7f, 0x2d7f, 1), (0x2de0, 0x2dff, 1), (0x302a, 0x302d, 1),
   (0x3099, 0x309a, 1), (0xa66f, 0xa66f, 1), (0xa674, 0xa67d, 1), (0xa69e, 0xa69f, 1),
   (0xa6f0, 0xa6f1, 1), (0xa802, 0xa802, 1), (0xa806, 0xa806, 1), (0xa80b, 0xa80b, 1),
   (0xa825, 0xa826, 1), (0xa82c, 0xa82c, 1), (0xa8c4, 0xa8c5, 1), (0xa8e0, 0xa8f1, 1),
   (0xa8ff, 0xa8ff, 1), (0xa926, 0xa92d, 1), (0xa947, 0xa951, 1), (0xa980, 0xa982, 1),
   (0xa9b3, 0xa9b3, 1), (0xa9b6, 0xa9b9, 1), (0xa9bc, 0xa9bd, 1), (0xa9e5, 0xa9e5, 1),
   (0xaa29, 0xaa2e, 1), (0xaa31, 0xaa32, 1), (0xaa35, 0xaa36, 1), (0xaa43, 0xaa43, 1),
   (0xaa4c, 0xaa4c, 1), (0xaa7c, 0xaa7c, 1), (0xaab0, 0xaab0, 1), (0xaab2, 0xaab4, 1),
   (0xaab7, 0xaab8, 1), (0xaabe, 0xaabf, 1), (0xaac1, 0xaac1, 1), (0xaaec, 0xaaed, 1),
   (0xaaf6, 0xaaf6, 1), (0xabe5, 0xabe5, 1), (0xabe8, 0xabe8, 1), (0xabed, 0xabed, 1),
   (0xfb1e, 0xfb1e, 1), (0xfe00, 0xfe0f, 1), (0xfe20, 0xfe2f, 1), (0x101fd, 0x101fd, 1),
   (0x102e0, 0x102e0, 1), (0x10376, 0x1037a, 1), (0x10a01, 0x10a03, 1), (0x10a05, 0x10a06, 1),
   (0x10a0c, 0x10a0f, 1), (0x10a38, 0x10a3a, 1), (0x10a3f, 0x10a3f, 1), (0x10ae5, 0x10ae6, 1),
   (0x10d24, 0x10d27, 1), (0x10d69, 0x10d6d, 1), (0x10eab, 0x10eac, 1), (0x10efa, 0x10eff, 1),
   (0x10f46, 0x10f50, 1), (0x10f82, 0x10f85, 1), (0x11001, 0x11001, 1), (0x11038, 0x11046, 1),
   (0x11070, 0x11070, 1), (0x11073, 0x11074, 1), (0x1107f, 0x11081, 1), (0x110b3, 0x110b6, 1),
   (0x110b9, 0x110ba, 1), (0x110c2, 0x110c2, 1), (0x11100, 0x11102, 1), (0x11127, 0x1112b, 1),
   (0x1112d, 0x11134, 1), (0x11173, 0x11173, 1), (0x11180, 0x11181, 1), (0x111b6, 0x111be, 1),
   (0x111c9, 0x111cc, 1), (0x111cf, 0x111cf, 1), (0x1122f, 0x11231, 1), (0x11234, 0x11234, 1),
   (0x11236, 0x11237, 1), (0x1123e, 0x1123e, 1), (0x11241, 0x11241, 1), (0x112df, 0x112df, 1),
   (0x112e3, 0x112ea, 1), (0x11300, 0x11301, 1), (0x1133b, 0x1133c, 1), (0x11340, 0x11340, 1),
   (0x11366, 0x1136c, 1), (0x11370, 0x11374, 1), (0x113bb, 0x113c0, 1), (0x113ce, 0x113d2, 2),
   (0x113e1, 0x113e2, 1), (0x11438, 0x1143f, 1), (0x11442, 0x11444, 1), (0x11446, 0x11446, 1),
   (0x1145e, 0x1145e, 1), (0x114b3, 0x114b8, 1), (0x114ba, 0x114ba, 1), (0x114bf, 0x114c0, 1),
   (0x114c2, 0x114c3, 1), (0x115b2, 0x115b5, 1), (0x115bc, 0x115bd, 1), (0x115bf, 0x115c0, 1),
   (0x115dc, 0x115dd, 1), (0x11633, 0x1163a, 1), (0x1163d, 0x1163d, 1), (0x1163f, 0x11640, 1),
   (0x116ab, 0x116ab, 1), (0x116ad, 0x116ad, 1), (0x116b0, 0x116b5, 1), (0x116b7, 0x116b7, 1),
   (0x1171d, 0x1171d, 1), (0x1171f, 0x1171f, 1), (0x11722, 0x11725, 1), (0x11727, 0x1172b, 1),
   (0x1182f, 0x11837, 1), (0x11839, 0x1183a, 1), (0x1193b, 0x1193c, 1), (0x1193e, 0x1193e, 1),
   (0x11943, 0x11943, 1), (0x119d4, 0x119d7, 1), (0x119da, 0x119db, 1), (0x119e0, 0x119e0, 1),
   (0x11a01, 0x11a0a, 1), (0x11a33, 0x11a38, 1), (0x11a3b, 0x11a3e, 1), (0x11a47, 0x11a47, 1),
   (0x11a51, 0x11a56, 1), (0x11a59, 0x11a5b, 1), (0x11a8a, 0x11a96, 1), (0x11a98, 0x11a99, 1),
   (0x11b60, 0x11b60, 1), (0x11b62, 0x11b64, 1), (0x11b66, 0x11b66, 1), (0x11c30, 0x11c36, 1),
   (0x11c38, 0x11c3d, 1), (0x11c3f, 0x11c3f, 1), (0x11c92, 0x11ca7, 1), (0x11caa, 0x11cb0, 1),
   (0x11cb2, 0x11cb3, 1), (0x11cb5, 0x11cb6, 1), (0x11d31, 0x11d36, 1), (0x11d3a, 0x11d3a, 1),
   (0x11d3c, 0x11d3d, 1), (0x11d3f, 0x11d45, 1), (0x11d47, 0x11d47, 1), (0x11d90, 0x11d91, 1),
   (0x11d95, 0x11d95, 1), (0x11d97, 0x11d97, 1), (0x11ef3, 0x11ef4, 1), (0x11f00, 0x11f01, 1),
   (0x11f36, 0x11f3a, 1), (0x11f40, 0x11f40, 1), (0x11f42, 0x11f42, 1), (0x11f5a, 0x11f5a, 1),
   (0x13440, 0x13440, 1), (0x13447, 0x13455, 1), (0x1611e, 0x16129, 1), (0x1612d, 0x1612f, 1),
   (0x16af0, 0x16af4, 1), (0x16b30, 0x16b36, 1), (0x16f4f, 0x16f4f, 1), (0x16f8f, 0x16f92, 1),
   (0x16fe4, 0x16fe4, 1), (0x1bc9d, 0x1bc9e, 1), (0x1cf00, 0x1cf2d, 1), (0x1cf30, 0x1cf46, 1),
   (0x1d167, 0x1d169, 1), (0x1d17b, 0x1d182, 1), (0x1d185, 0x1d18b, 1), (0x1d1aa, 0x1d1ad, 1),
   (0x1d242, 0x1d244, 1), (0x1da00, 0x1da36, 1), (0x1da3b, 0x1da6c, 1), (0x1da75, 0x1da75, 1),
   (0x1da84, 0x1da84, 1), (0x1da9b, 0x1da9f, 1), (0x1daa1, 0x1daaf, 1), (0x1e000, 0x1e006, 1),
   (0x1e008, 0x1e018, 1), (0x1e01b, 0x1e021, 1), (0x1e023, 0x1e024, 1), (0x1e026, 0x1e02a, 1),
   (0x1e08f, 0x1e08f, 1), (0x1e130, 0x1e136, 1), (0x1e2ae, 0x1e2ae, 1), (0x1e2ec, 0x1e2ef, 1),
   (0x1e4ec, 0x1e4ef, 1), (0x1e5ee, 0x1e5ef, 1), (0x1e6e3, 0x1e6e3, 1), (0x1e6e6, 0x1e6e6, 1),
   (0x1e6ee, 0x1e6ef, 1), (0x1e6f5, 0x1e6f5, 1), (0x1e8d0, 0x1e8d6, 1), (0x1e944, 0x1e94a, 1),
   (0xe0100, 0xe01ef, 1)]

def spacingRuns : List (Nat × Nat × Nat) :=
  [(0x903, 0x903, 1), (0x93b, 0x93b, 1), (0x93e, 0x940, 1), (0x949, 0x94c, 1),
   (0x94e, 0x94f, 1), (0x982, 0x983, 1), (0x9be, 0x9c0, 1), (0x9c7, 0x9c8, 1),
   (0x9cb, 0x9cc, 1), (0x9d7, 0x9d7, 1), (0xa03, 0xa03, 1), (0xa3e, 0xa40, 1),
   (0xa83, 0xa83, 1), (0xabe, 0xac0, 1), (0xac9, 0xac9, 1), (0xacb, 0xacc, 1),
   (0xb02, 0xb03, 1), (0xb3e, 0xb3e, 1), (0xb40, 0xb40, 1), (0xb47, 0xb48, 1),
   (0xb4b, 0xb4c, 1), (0xb57, 0xb57, 1), (0xbbe, 0xbbf, 1), (0xbc1, 0xbc2, 1),
   (0xbc6, 0xbc8, 1), (0xbca, 0xbcc, 1), (0xbd7, 0xbd7, 1), (0xc01, 0xc03, 1),
   (0xc41, 0xc44, 1), (0xc82, 0xc83, 1), (0xcbe, 0xcbe, 1), (0xcc0, 0xcc4, 1),
   (0xcc7, 0xcc8, 1), (0xcca, 0xccb, 1), (0xcd5, 0xcd6, 1), (0xcf3, 0xcf3, 1),
   (0xd02, 0xd03, 1), (0xd3e, 0xd40, 1), (0xd46, 0xd48, 1), (0xd4a, 0xd4c, 1),
   (0xd57, 0xd57, 1), (0xd82, 0xd83, 1), (0xdcf, 0xdd1, 1), (0xdd8, 0xddf, 1),
   (0xdf2, 0xdf3, 1), (0xf3e, 0xf3f, 1), (0xf7f, 0xf7f, 1), (0x102b, 0x102c, 1),
   (0x1031, 0x1031, 1), (0x1038, 0x1038, 1), (0x103b, 0x103c, 1), (0x1056, 0x1057, 1),
   (0x1062, 0x1064, 1), (0x1067, 0x106d, 1), (0x1083, 0x1084, 1), (0x1087, 0x108c, 1),
   (0x108f, 0x108f, 1), (0x109a, 0x109c, 1), (0x1715, 0x1715, 1), (0x1734, 0x1734, 1),
   (0x17b6, 0x17b6, 1), (0x17be, 0x17c5, 1), (0x17c7, 0x17c8, 1), (0x1923, 0x1926, 1),
   (0x1929, 0x192b, 1), (0x1930, 0x1931, 1), (0x1933, 0x1938, 1), (0x1a19, 0x1a1a, 1),
   (0x1a55, 0x1a55, 1), (0x1a57, 0x1a57, 1), (0x1a61, 0x1a61, 1), (0x1a63, 0x1a64, 1),
   (0x1a6d, 0x1a72, 1), (0x1b04, 0x1b04, 1), (0x1b35, 0x1b35, 1), (0x1b3b, 0x1b3b, 1),
   (0x1b3d, 0x1b41, 1), (0x1b43, 0x1b44, 1), (0x1b82, 0x1b82, 1), (0x1ba1, 0x1ba1, 1),
   (0x1ba6, 0x1ba7, 1), (0x1baa, 0x1baa, 1), (0x1be7, 0x1be7, 1), (0x1bea, 0x1bec, 1),
   (0x1bee, 0x1bee, 1), (0x1bf2, 0x1bf3, 1), (0x1c24, 0x1c2b, 1), (0x1c34, 0x1c35, 1),
   (0x1ce1, 0x1ce1, 1), (0x1cf7, 0x1cf7, 1), (0x302e, 0x302f, 1), (0xa823, 0xa824, 1),
   (0xa827, 0xa827, 1), (0xa880, 0xa881, 1), (0xa8b4, 0xa8c3, 1), (0xa952, 0xa953, 1),
   (0xa983, 0xa983, 1), (0xa9b4, 0xa9b5, 1), (0xa9ba, 0xa9bb, 1), (0xa9be, 0xa9c0, 1),
   (0xaa2f, 0xaa30, 1), (0xaa33, 0xaa34, 1), (0xaa4d, 0xaa4d, 1), (0xaa7b, 0xaa7b, 1),
   (0xaa7d, 0xaa7d, 1), (0xaaeb, 0xaaeb, 1), (0xaaee, 0xaaef, 1), (0xaaf5, 0xaaf5, 1),
   (0xabe3, 0xabe4, 1), (0xabe6, 0xabe7, 1), (0xabe9, 0xabea, 1), (0xabec, 0xabec, 1),
   (0x11000, 0x11000, 1), (0x11002, 0x11002, 1), (0x11082, 0x11082, 1), (0x110b0, 0x110b2, 1),
   (0x110b7, 0x110b8, 1), (0x1112c, 0x1112c, 1), (0x11145, 0x11146, 1), (0x11182, 0x11182, 1),
   (0x111b3, 0x111b5, 1), (0x111bf, 0x111c0, 1), (0x111ce, 0x111ce, 1), (0x1122c, 0x1122e, 1),
   (0x11232, 0x11233, 1), (0x11235, 0x11235, 1), (0x112e0, 0x112e2, 1), (0x11302, 0x11303, 1),
   (0x1133e, 0x1133f, 1), (0x11341, 0x11344, 1), (0x11347, 0x11348, 1), (0x1134b, 0x1134d, 1),
   (0x11357, 0x11357, 1), (0x11362, 0x11363, 1), (0x113b8, 0x113ba, 1), (0x113c2, 0x113c2, 1),
   (0x113c5, 0x113c5, 1), (0x113c7, 0x113ca, 1), (0x113cc, 0x113cd, 1), (0x113cf, 0x113cf, 1),
   (0x11435, 0x11437, 1), (0x11440, 0x11441, 1), (0x11445, 0x11445, 1), (0x114b0, 0x114b2, 1),
   (0x114b9, 0x114b9, 1), (0x114bb, 0x114be, 1), (0x114c1, 0x114c1, 1), (0x115af, 0x115b1, 1),
   (0x115b8, 0x115bb, 1), (0x115be, 0x115be, 1), (0x11630, 0x11632, 1), (0x1163b, 0x1163c, 1),
   (0x1163e, 0x1163e, 1), (0x116ac, 0x116ac, 1), (0x116ae, 0x116af, 1), (0x116b6, 0x116b6, 1),
   (0x1171e, 0x1171e, 1), (0x11720, 0x11721, 1), (0x11726, 0x11726, 1), (0x1182c, 0x1182e, 1),
   (0x11838, 0x11838, 1), (0x11930, 0x11935, 1), (0x11937, 0x11938, 1), (0x1193d, 0x1193d, 1),
   (0x11940, 0x11940, 1), (0x11942, 0x11942, 1), (0x119d1, 0x119d3, 1), (0x119dc, 0x119df, 1),
   (0x119e4, 0x119e4, 1), (0x11a39, 0x11a39, 1), (0x11a57, 0x11a58, 1), (0x11a97, 0x11a97, 1),
   (0x11b61, 0x11b61, 1), (0x11b65, 0x11b65, 1), (0x11b67, 0x11b67, 1), (0x11c2f, 0x11c2f, 1),
   (0x11c3e, 0x11c3e, 1), (0x11ca9, 0x11ca9, 1), (0x11cb1, 0x11cb1, 1), (0x11cb4, 0x11cb4, 1),
   (0x11d8a, 0x11d8e, 1), (0x11d93, 0x11d94, 1), (0x11d96, 0x11d96, 1), (0x11ef5, 0x11ef6, 1),
   (0x11f03, 0x11f03, 1), (0x11f34, 0x11f35, 1), (0x11f3e, 0x11f3f, 1), (0x11f41, 0x11f41, 1),
   (0x1612a, 0x1612c, 1), (0x16f51, 0x16f87, 1), (0x16ff0, 0x16ff1, 1), (0x1d165, 0x1d166, 1),
   (0x1d16d, 0x1d172, 1)]

def enclosingRuns : List (Nat × Nat × Nat) :=
  [(0x488, 0x489, 1), (0x1abe, 0x1abe, 1), (0x20dd, 0x20e0, 1), (0x20e2, 0x20e4, 1),
   (0xa670, 0xa672, 1)]

def letterNumberRuns : List (Nat × Nat × Nat) :=
  [(0x16ee, 0x16f0, 1), (0x2160, 0x2182, 1), (0x2185, 0x2188, 1), (0x3007, 0x3007, 1),
   (0x3021, 0x3029, 1), (0x3038, 0x303a, 1), (0xa6e6, 0xa6ef, 1), (0x10140, 0x10174, 1),
   (0x10341, 0x10341, 1), (0x1034a, 0x1034a, 1), (0x103d1, 0x103d5, 1), (0x12400, 0x1246e, 1),
   (0x16ff4, 0x16ff6, 1)]

def otherNumberRuns : List (Nat × Nat × Nat) :=
  [(0xb2, 0xb3, 1), (0xb9, 0xb9, 1), (0xbc, 0xbe, 1), (0x9f4, 0x9f9, 1), (0xb72, 0xb77, 1),
   (0xbf0, 0xbf2, 1), (0xc78, 0xc7e, 1), (0xd58, 0xd5e, 1), (0xd70, 0xd78, 1),
   (0xf2a, 0xf33, 1), (0x1369, 0x137c, 1), (0x17f0, 0x17f9, 1), (0x19da, 0x19da, 1),
   (0x2070, 0x2070, 1), (0x2074, 0x2079, 1), (0x2080, 0x2089, 1), (0x2150, 0x215f, 1),
   (0x2189, 0x2189, 1), (0x2460, 0x249b, 1), (0x24ea, 0x24ff, 1), (0x2776, 0x2793, 1),
   (0x2cfd, 0x2cfd, 1), (0x3192, 0x3195, 1), (0x3220, 0x3229, 1), (0x3248, 0x324f, 1),
   (0x3251, 0x325f, 1), (0x3280, 0x3289, 1), (0x32b1, 0x32bf, 1), (0xa830, 0xa835, 1),
   (0x10107, 0x10133, 1), (0x10175, 0x10178, 1), (0x1018a, 0x1018b, 1), (0x102e1, 0x102fb, 1),
   (0x10320, 0x10323, 1), (0x10858, 0x1085f, 1), (0x10879, 0x1087f, 1), (0x108a7, 0x108af, 1),
   (0x108fb, 0x108ff, 1), (0x10916, 0x1091b, 1), (0x109bc, 0x109bd, 1), (0x109c0, 0x109cf, 1),
   (0x109d2, 0x109ff, 1), (0x10a40, 0x10a48, 1), (0x10a7d, 0x10a7e, 1), (0x10a9d, 0x10a9f, 1),
   (0x10aeb, 0x10aef, 1), (0x10b58, 0x10b5f, 1), (0x10b78, 0x10b7f, 1), (0x10ba9, 0x10baf, 1),
   (0x10cfa, 0x10cff, 1), (0x10e60, 0x10e7e, 1), (0x10f1d, 0x10f26, 1), (0x10f51, 0x10f54, 1),
   (0x10fc5, 0x10fcb, 1), (0x11052, 0x11065, 1), (0x111e1, 0x111f4, 1), (0x1173a, 0x1173b, 1),
   (0x118ea, 0x118f2, 1), (0x11c5a, 0x11c6c, 1), (0x11fc0, 0x11fd4, 1), (0x16b5b, 0x16b61, 1),
   (0x16e80, 0x16e96, 1), (0x1d2c0, 0x1d2d3, 1), (0x1d2e0, 0x1d2f3, 1), (0x1d360, 0x1d378, 1),
   (0x1e8c7, 0x1e8cf, 1), (0x1ec71, 0x1ecab, 1), (0x1ecad, 0x1ecaf, 1), (0x1ecb1, 0x1ecb4, 1),
   (0x1ed01, 0x1ed2d, 1), (0x1ed2f, 0x1ed3d, 1), (0x1f100, 0x1f10c, 1)]

def connectorRuns : List (Nat × Nat × Nat) :=
  [(0x5f, 0x5f, 1), (0x203f, 0x2040, 1), (0x2054, 0x2054, 1), (0xfe33, 0xfe34, 1),
   (0xfe4d, 0xfe4f, 1), (0xff3f, 0xff3f, 1)]

def dashRuns : List (Nat × Nat × Nat) :=
  [(0x2d, 0x2d, 1), (0x58a, 0x58a, 1), (0x5be, 0x5be, 1), (0x1400, 0x1400, 1),
   (0x1806, 0x1806, 1), (0x2010, 0x2015, 1), (0x2e17, 0x2e17, 1), (0x2e1a, 0x2e1a, 1),
   (0x2e3a, 0x2e3b, 1), (0x2e40, 0x2e40, 1), (0x2e5d, 0x2e5d, 1), (0x301c, 0x301c, 1),
   (0x3030, 0x3030, 1), (0x30a0, 0x30a0, 1), (0xfe31, 0xfe32, 1), (0xfe58, 0xfe58, 1),
   (0xfe63, 0xfe63, 1), (0xff0d, 0xff0d, 1), (0x10d6e, 0x10d6e, 1), (0x10ead, 0x10ead, 1)]

def openingRuns : List (Nat × Nat × Nat) :=
  [(0x28, 0x28, 1), (0x5b, 0x5b, 1), (0x7b, 0x7b, 1), (0xf3a, 0xf3a, 1), (0xf3c, 0xf3c, 1),
   (0x169b, 0x169b, 1), (0x201a, 0x201a, 1), (0x201e, 0x201e, 1), (0x2045, 0x2045, 1),
   (0x207d, 0x207d, 1), (0x208d, 0x208d, 1), (0x2308, 0x2308, 1), (0x230a, 0x230a, 1),
   (0x2329, 0x2329, 1), (0x2768, 0x2774, 2), (0x27c5, 0x27c5, 1), (0x27e6, 0x27ee, 2),
   (0x2983, 0x2997, 2), (0x29d8, 0x29d8, 1), (0x29da, 0x29da, 1), (0x29fc, 0x29fc, 1),
   (0x2e22, 0x2e28, 2), (0x2e42, 0x2e42, 1), (0x2e55, 0x2e5b, 2), (0x3008, 0x3010, 2),
   (0x3014, 0x301a, 2), (0x301d, 0x301d, 1), (0xfd3f, 0xfd3f, 1), (0xfe17, 0xfe17, 1),
   (0xfe35, 0xfe43, 2), (0xfe47, 0xfe47, 1), (0xfe59, 0xfe5d, 2), (0xff08, 0xff08, 1),
   (0xff3b, 0xff3b, 1), (0xff5b, 0xff5b, 1), (0xff5f, 0xff5f, 1), (0xff62, 0xff62, 1)]

def closingRuns : List (Nat × Nat × Nat) :=
  [(0x29, 0x29, 1), (0x5d, 0x5d, 1), (0x7d, 0x7d, 1), (0xf3b, 0xf3b, 1), (0xf3d, 0xf3d, 1),
   (0x169c, 0x169c, 1), (0x2046, 0x2046, 1), (0x207e, 0x207e, 1), (0x208e, 0x208e, 1),
   (0x2309, 0x2309, 1), (0x230b, 0x230b, 1), (0x232a, 0x232a, 1), (0x2769, 0x2775, 2),
   (0x27c6, 0x27c6, 1), (0x27e7, 0x27ef, 2), (0x2984, 0x2998, 2), (0x29d9, 0x29d9, 1),
   (0x29db, 0x29db, 1), (0x29fd, 0x29fd, 1), (0x2e23, 0x2e29, 2), (0x2e56, 0x2e5c, 2),
   (0x3009, 0x3011, 2), (0x3015, 0x301b, 2), (0x301e, 0x301f, 1), (0xfd3e, 0xfd3e, 1),
   (0xfe18, 0xfe18, 1), (0xfe36, 0xfe44, 2), (0xfe48, 0xfe48, 1), (0xfe5a, 0xfe5e, 2),
   (0xff09, 0xff09, 1), (0xff3d, 0xff3d, 1), (0xff5d, 0xff5d, 1), (0xff60, 0xff60, 1),
   (0xff63, 0xff63, 1)]

def initialQuoteRuns : List (Nat × Nat × Nat) :=
  [(0xab, 0xab, 1), (0x2018, 0x2018, 1), (0x201b, 0x201c, 1), (0x201f, 0x201f, 1),
   (0x2039, 0x2039, 1), (0x2e02, 0x2e02, 1), (0x2e04, 0x2e04, 1), (0x2e09, 0x2e09, 1),
   (0x2e0c, 0x2e0c, 1), (0x2e1c, 0x2e1c, 1), (0x2e20, 0x2e20, 1)]

def finalQuoteRuns : List (Nat × Nat × Nat) :=
  [(0xbb, 0xbb, 1), (0x2019, 0x2019, 1), (0x201d, 0x201d, 1), (0x203a, 0x203a, 1),
   (0x2e03, 0x2e03, 1), (0x2e05, 0x2e05, 1), (0x2e0a, 0x2e0a, 1), (0x2e0d, 0x2e0d, 1),
   (0x2e1d, 0x2e1d, 1), (0x2e21, 0x2e21, 1)]

def otherPunctuationRuns : List (Nat × Nat × Nat) :=
  [(0x21, 0x23, 1), (0x25, 0x27, 1), (0x2a, 0x2a, 1), (0x2c, 0x2c, 1), (0x2e, 0x2f, 1),
   (0x3a, 0x3b, 1), (0x3f, 0x40, 1), (0x5c, 0x5c, 1), (0xa1, 0xa1, 1), (0xa7, 0xa7, 1),
   (0xb6, 0xb7, 1), (0xbf, 0xbf, 1), (0x37e, 0x37e, 1), (0x387, 0x387, 1), (0x55a, 0x55f, 1),
   (0x589, 0x589, 1), (0x5c0, 0x5c0, 1), (0x5c3, 0x5c3, 1), (0x5c6, 0x5c6, 1),
   (0x5f3, 0x5f4, 1), (0x609, 0x60a, 1), (0x60c, 0x60d, 1), (0x61b, 0x61b, 1),
   (0x61d, 0x61f, 1), (0x66a, 0x66d, 1), (0x6d4, 0x6d4, 1), (0x700, 0x70d, 1),
   (0x7f7, 0x7f9, 1), (0x830, 0x83e, 1), (0x85e, 0x85e, 1), (0x964, 0x965, 1),
   (0x970, 0x970, 1), (0x9fd, 0x9fd, 1), (0xa76, 0xa76, 1), (0xaf0, 0xaf0, 1),
   (0xc77, 0xc77, 1), (0xc84, 0xc84, 1), (0xdf4, 0xdf4, 1), (0xe4f, 0xe4f, 1),
   (0xe5a, 0xe5b, 1), (0xf04, 0xf12, 1), (0xf14, 0xf14, 1), (0xf85, 0xf85, 1),
   (0xfd0, 0xfd4, 1), (0xfd9, 0xfda, 1), (0x104a, 0x104f, 1), (0x10fb, 0x10fb, 1),
   (0x1360, 0x1368, 1), (0x166e, 0x166e, 1), (0x16eb, 0x16ed, 1), (0x1735, 0x1736, 1),
   (0x17d4, 0x17d6, 1), (0x17d8, 0x17da, 1), (0x1800, 0x1805, 1), (0x1807, 0x180a, 1),
   (0x1944, 0x1945, 1), (0x1a1e, 0x1a1f, 1), (0x1aa0, 0x1aa6, 1), (0x1aa8, 0x1aad, 1),
   (0x1b4e, 0x1b4f, 1), (0x1b5a, 0x1b60, 1), (0x1b7d, 0x1b7f, 1), (0x1bfc, 0x1bff, 1),
   (0x1c3b, 0x1c3f, 1), (0x1c7e, 0x1c7f, 1), (0x1cc0, 0x1cc7, 1), (0x1cd3, 0x1cd3, 1),
   (0x2016, 0x2017, 1), (0x2020, 0x2027, 1), (0x2030, 0x2038, 1), (0x203b, 0x203e, 1),
   (0x2041, 0x2043, 1), (0x2047, 0x2051, 1), (0x2053, 0x2053, 1), (0x2055, 0x205e, 1),
   (0x2cf9, 0x2cfc, 1), (0x2cfe, 0x2cff, 1), (0x2d70, 0x2d70, 1), (0x2e00, 0x2e01, 1),
   (0x2e06, 0x2e08, 1), (0x2e0b, 0x2e0b, 1), (0x2e0e, 0x2e16, 1), (0x2e18, 0x2e19, 1),
   (0x2e1b, 0x2e1b, 1), (0x2e1e, 0x2e1f, 1), (0x2e2a, 0x2e2e, 1), (0x2e30, 0x2e39, 1),
   (0x2e3c, 0x2e3f, 1), (0x2e41, 0x2e41, 1), (0x2e43, 0x2e4f, 1), (0x2e52, 0x2e54, 1),
   (0x3001, 0x3003, 1), (0x303d, 0x303d, 1), (0x30fb, 0x30fb, 1), (0xa4fe, 0xa4ff, 1),
   (0xa60d, 0xa60f, 1), (0xa673, 0xa673, 1), (0xa67e, 0xa67e, 1), (0xa6f2, 0xa6f7, 1),
   (0xa874, 0xa877, 1), (0xa8ce, 0xa8cf, 1), (0xa8f8, 0xa8fa, 1), (0xa8fc, 0xa8fc, 1),
   (0xa92e, 0xa92f, 1), (0xa95f, 0xa95f, 1), (0xa9c1, 0xa9cd, 1), (0xa9de, 0xa9df, 1),
   (0xaa5c, 0xaa5f, 1), (0xaade, 0xaadf, 1), (0xaaf0, 0xaaf1, 1), (0xabeb, 0xabeb, 1),
   (0xfe10, 0xfe16, 1), (0xfe19, 0xfe19, 1), (0xfe30, 0xfe30, 1), (0xfe45, 0xfe46, 1),
   (0xfe49, 0xfe4c, 1), (0xfe50, 0xfe52, 1), (0xfe54, 0xfe57, 1), (0xfe5f, 0xfe61, 1),
   (0xfe68, 0xfe68, 1), (0xfe6a, 0xfe6b, 1), (0xff01, 0xff03, 1), (0xff05, 0xff07, 1),
   (0xff0a, 0xff0a, 1), (0xff0c, 0xff0c, 1), (0xff0e, 0xff0f, 1), (0xff1a, 0xff1b, 1),
   (0xff1f, 0xff20, 1), (0xff3c, 0xff3c, 1), (0xff61, 0xff61, 1), (0xff64, 0xff65, 1),
   (0x10100, 0x10102, 1), (0x1039f, 0x1039f, 1), (0x103d0, 0x103d0, 1), (0x1056f, 0x1056f, 1),
   (0x10857, 0x10857, 1), (0x1091f, 0x1091f, 1), (0x1093f, 0x1093f, 1), (0x10a50, 0x10a58, 1),
   (0x10a7f, 0x10a7f, 1), (0x10af0, 0x10af6, 1), (0x10b39, 0x10b3f, 1), (0x10b99, 0x10b9c, 1),
   (0x10ed0, 0x10ed0, 1), (0x10f55, 0x10f59, 1), (0x10f86, 0x10f89, 1), (0x11047, 0x1104d, 1),
   (0x110bb, 0x110bc, 1), (0x110be, 0x110c1, 1), (0x11140, 0x11143, 1), (0x11174, 0x11175, 1),
   (0x111c5, 0x111c8, 1), (0x111cd, 0x111cd, 1), (0x111db, 0x111db, 1), (0x111dd, 0x111df, 1),
   (0x11238, 0x1123d, 1), (0x112a9, 0x112a9, 1), (0x113d4, 0x113d5, 1), (0x113d7, 0x113d8, 1),
   (0x1144b, 0x1144f, 1), (0x1145a, 0x1145b, 1), (0x1145d, 0x1145d, 1), (0x114c6, 0x114c6, 1),
   (0x115c1, 0x115d7, 1), (0x11641, 0x11643, 1), (0x11660, 0x1166c, 1), (0x116b9, 0x116b9, 1),
   (0x1173c, 0x1173e, 1), (0x1183b, 0x1183b, 1), (0x11944, 0x11946, 1), (0x119e2, 0x119e2, 1),
   (0x11a3f, 0x11a46, 1), (0x11a9a, 0x11a9c, 1), (0x11a9e, 0x11aa2, 1), (0x11b00, 0x11b09, 1),
   (0x11be1, 0x11be1, 1), (0x11c41, 0x11c45, 1), (0x11c70, 0x11c71, 1), (0x11ef7, 0x11ef8, 1),
   (0x11f43, 0x11f4f, 1), (0x11fff, 0x11fff, 1), (0x12470, 0x12474, 1), (0x12ff1, 0x12ff2, 1),
   (0x16a6e, 0x16a6f, 1), (0x16af5, 0x16af5, 1), (0x16b37, 0x16b3b, 1), (0x16b44, 0x16b44, 1),
   (0x16d6d, 0x16d6f, 1), (0x16e97, 0x16e9a, 1), (0x16fe2, 0x16fe2, 1), (0x1bc9f, 0x1bc9f, 1),
   (0x1da87, 0x1da8b, 1), (0x1e5ff, 0x1e5ff, 1), (0x1e95e, 0x1e95f, 1)]

def mathRuns : List (Nat × Nat × Nat) :=
  [(0x2b, 0x2b, 1), (0x3c, 0x3e, 1), (0x7c, 0x7c, 1), (0x7e, 0x7e, 1), (0xac, 0xac, 1),
   (0xb1, 0xb1, 1), (0xd7, 0xd7, 1), (0xf7, 0xf7, 1), (0x3f6, 0x3f6, 1), (0x606, 0x608, 1),
   (0x2044, 0x2044, 1), (0x2052, 0x2052, 1), (0x207a, 0x207c, 1), (0x208a, 0x208c, 1),
   (0x2118, 0x2118, 1), (0x2140, 0x2144, 1), (0x214b, 0x214b, 1), (0x2190, 0x2194, 1),
   (0x219a, 0x219b, 1), (0x21a0, 0x21a0, 1), (0x21a3, 0x21a3, 1), (0x21a6, 0x21a6, 1),
   (0x21ae, 0x21ae, 1), (0x21ce, 0x21cf, 1), (0x21d2, 0x21d2, 1), (0x21d4, 0x21d4, 1),
   (0x21f4, 0x22ff, 1), (0x2320, 0x2321, 1), (0x237c, 0x237c, 1), (0x239b, 0x23b3, 1),
   (0x23dc, 0x23e1, 1), (0x25b7, 0x25b7, 1), (0x25c1, 0x25c1, 1), (0x25f8, 0x25ff, 1),
   (0x266f, 0x266f, 1), (0x27c0, 0x27c4, 1), (0x27c7, 0x27e5, 1), (0x27f0, 0x27ff, 1),
   (0x2900, 0x2982, 1), (0x2999, 0x29d7, 1), (0x29dc, 0x29fb, 1), (0x29fe, 0x2aff, 1),
   (0x2b30, 0x2b44, 1), (0x2b47, 0x2b4c, 1), (0xfb29, 0xfb29, 1), (0xfe62, 0xfe62, 1),
   (0xfe64, 0xfe66, 1), (0xff0b, 0xff0b, 1), (0xff1c, 0xff1e, 1), (0xff5c, 0xff5c, 1),
   (0xff5e, 0xff5e, 1), (0xffe2, 0xffe2, 1), (0xffe9, 0xffec, 1), (0x10d8e, 0x10d8f, 1),
   (0x1cef0, 0x1cef0, 1), (0x1d6c1, 0x1d6c1, 1), (0x1d6db, 0x1d6db, 1), (0x1d6fb, 0x1d6fb, 1),
   (0x1d715, 0x1d715, 1), (0x1d735, 0x1d735, 1), (0x1d74f, 0x1d74f, 1), (0x1d76f, 0x1d76f, 1),
   (0x1d789, 0x1d789, 1), (0x1d7a9, 0x1d7a9, 1), (0x1d7c3, 0x1d7c3, 1), (0x1eef0, 0x1eef1, 1),
   (0x1f8d0, 0x1f8d8, 1)]

def currencyRuns : List (Nat × Nat × Nat) :=
  [(0x24, 0x24, 1), (0xa2, 0xa5, 1), (0x58f, 0x58f, 1), (0x60b, 0x60b, 1), (0x7fe, 0x7ff, 1),
   (0x9f2, 0x9f3, 1), (0x9fb, 0x9fb, 1), (0xaf1, 0xaf1, 1), (0xbf9, 0xbf9, 1),
   (0xe3f, 0xe3f, 1), (0x17db, 0x17db, 1), (0x20a0, 0x20c1, 1), (0xa838, 0xa838, 1),
   (0xfdfc, 0xfdfc, 1), (0xfe69, 0xfe69, 1), (0xff04, 0xff04, 1), (0xffe0, 0xffe1, 1),
   (0xffe5, 0xffe6, 1), (0x11fdd, 0x11fe0, 1), (0x1e2ff, 0x1e2ff, 1), (0x1ecb0, 0x1ecb0, 1)]

def modifierSymbolRuns : List (Nat × Nat × Nat) :=
  [(0x5e, 0x5e, 1), (0x60, 0x60, 1), (0xa8, 0xa8, 1), (0xaf, 0xaf, 1), (0xb4, 0xb4, 1),
   (0xb8, 0xb8, 1), (0x2c2, 0x2c5, 1), (0x2d2, 0x2df, 1), (0x2e5, 0x2eb, 1), (0x2ed, 0x2ed, 1),
   (0x2ef, 0x2ff, 1), (0x375, 0x375, 1), (0x384, 0x385, 1), (0x888, 0x888, 1),
   (0x1fbd, 0x1fbd, 1), (0x1fbf, 0x1fc1, 1), (0x1fcd, 0x1fcf, 1), (0x1fdd, 0x1fdf, 1),
   (0x1fed, 0x1fef, 1), (0x1ffd, 0x1ffe, 1), (0x309b, 0x309c, 1), (0xa700, 0xa716, 1),
   (0xa720, 0xa721, 1), (0xa789, 0xa78a, 1), (0xab5b, 0xab5b, 1), (0xab6a, 0xab6b, 1),
   (0xfbb2, 0xfbc2, 1), (0xff3e, 0xff3e, 1), (0xff40, 0xff40, 1), (0xffe3, 0xffe3, 1),
   (0x1f3fb, 0x1f3ff, 1)]

def otherSymbolRuns : List (Nat × Nat × Nat) :=
  [(0xa6, 0xa6, 1), (0xa9, 0xa9, 1), (0xae, 0xae, 1), (0xb0, 0xb0, 1), (0x482, 0x482, 1),
   (0x58d, 0x58e, 1), (0x60e, 0x60f, 1), (0x6de, 0x6de, 1), (0x6e9, 0x6e9, 1),
   (0x6fd, 0x6fe, 1), (0x7f6, 0x7f6, 1), (0x9fa, 0x9fa, 1), (0xb70, 0xb70, 1),
   (0xbf3, 0xbf8, 1), (0xbfa, 0xbfa, 1), (0xc7f, 0xc7f, 1), (0xd4f, 0xd4f, 1),
   (0xd79, 0xd79, 1), (0xf01, 0xf03, 1), (0xf13, 0xf13, 1), (0xf15, 0xf17, 1),
   (0xf1a, 0xf1f, 1), (0xf34, 0xf38, 2), (0xfbe, 0xfc5, 1), (0xfc7, 0xfcc, 1),
   (0xfce, 0xfcf, 1), (0xfd5, 0xfd8, 1), (0x109e, 0x109f, 1), (0x1390, 0x1399, 1),
   (0x166d, 0x166d, 1), (0x1940, 0x1940, 1), (0x19de, 0x19ff, 1), (0x1b61, 0x1b6a, 1),
   (0x1b74, 0x1b7c, 1), (0x2100, 0x2101, 1), (0x2103, 0x2106, 1), (0x2108, 0x2109, 1),
   (0x2114, 0x2114, 1), (0x2116, 0x2117, 1), (0x211e, 0x2123, 1), (0x2125, 0x2129, 2),
   (0x212e, 0x212e, 1), (0x213a, 0x213b, 1), (0x214a, 0x214a, 1), (0x214c, 0x214d, 1),
   (0x214f, 0x214f, 1), (0x218a, 0x218b, 1), (0x2195, 0x2199, 1), (0x219c, 0x219f, 1),
   (0x21a1, 0x21a2, 1), (0x21a4, 0x21a5, 1), (0x21a7, 0x21ad, 1), (0x21af, 0x21cd, 1),
   (0x21d0, 0x21d1, 1), (0x21d3, 0x21d3, 1), (0x21d5, 0x21f3, 1), (0x2300, 0x2307, 1),
   (0x230c, 0x231f, 1), (0x2322, 0x2328, 1), (0x232b, 0x237b, 1), (0x237d, 0x239a, 1),
   (0x23b4, 0x23db, 1), (0x23e2, 0x2429, 1), (0x2440, 0x244a, 1), (0x249c, 0x24e9, 1),
   (0x2500, 0x25b6, 1), (0x25b8, 0x25c0, 1), (0x25c2, 0x25f7, 1), (0x2600, 0x266e, 1),
   (0x2670, 0x2767, 1), (0x2794, 0x27bf, 1), (0x2800, 0x28ff, 1), (0x2b00, 0x2b2f, 1),
   (0x2b45, 0x2b46, 1), (0x2b4d, 0x2b73, 1), (0x2b76, 0x2bff, 1), (0x2ce5, 0x2cea, 1),
   (0x2e50, 0x2e51, 1), (0x2e80, 0x2e99, 1), (0x2e9b, 0x2ef3, 1), (0x2f00, 0x2fd5, 1),
   (0x2ff0, 0x2fff, 1), (0x3004, 0x3004, 1), (0x3012, 0x3013, 1), (0x3020, 0x3020, 1),
   (0x3036, 0x3037, 1), (0x303e, 0x303f, 1), (0x3190, 0x3191, 1), (0x3196, 0x319f, 1),
   (0x31c0, 0x31e5, 1), (0x31ef, 0x31ef, 1), (0x3200, 0x321e, 1), (0x322a, 0x3247, 1),
   (0x3250, 0x3250, 1), (0x3260, 0x327f, 1), (0x328a, 0x32b0, 1), (0x32c0, 0x33ff, 1),
   (0x4dc0, 0x4dff, 1), (0xa490, 0xa4c6, 1), (0xa828, 0xa82b, 1), (0xa836, 0xa837, 1),
   (0xa839, 0xa839, 1), (0xaa77, 0xaa79, 1), (0xfbc3, 0xfbd2, 1), (0xfd40, 0xfd4f, 1),
   (0xfd90, 0xfd91, 1), (0xfdc8, 0xfdcf, 1), (0xfdfd, 0xfdff, 1), (0xffe4, 0xffe4, 1),
   (0xffe8, 0xffe8, 1), (0xffed, 0xffee, 1), (0xfffc, 0xfffd, 1), (0x10137, 0x1013f, 1),
   (0x10179, 0x10189, 1), (0x1018c, 0x1018e, 1), (0x10190, 0x1019c, 1), (0x101a0, 0x101a0, 1),
   (0x101d0, 0x101fc, 1), (0x10877, 0x10878, 1), (0x10ac8, 0x10ac8, 1), (0x10ed1, 0x10ed8, 1),
   (0x1173f, 0x1173f, 1), (0x11fd5, 0x11fdc, 1), (0x11fe1, 0x11ff1, 1), (0x16b3c, 0x16b3f, 1),
   (0x16b45, 0x16b45, 1), (0x1bc9c, 0x1bc9c, 1), (0x1cc00, 0x1ccef, 1), (0x1ccfa, 0x1ccfc, 1),
   (0x1cd00, 0x1ceb3, 1), (0x1ceba, 0x1ced0, 1), (0x1cee0, 0x1ceef, 1), (0x1cf50, 0x1cfc3, 1),
   (0x1d000, 0x1d0f5, 1), (0x1d100, 0x1d126, 1), (0x1d129, 0x1d164, 1), (0x1d16a, 0x1d16c, 1),
   (0x1d183, 0x1d184, 1), (0x1d18c, 0x1d1a9, 1), (0x1d1ae, 0x1d1ea, 1), (0x1d200, 0x1d241, 1),
   (0x1d245, 0x1d245, 1), (0x1d300, 0x1d356, 1), (0x1d800, 0x1d9ff, 1), (0x1da37, 0x1da3a, 1),
   (0x1da6d, 0x1da74, 1), (0x1da76, 0x1da83, 1), (0x1da85, 0x1da86, 1), (0x1e14f, 0x1e14f, 1),
   (0x1ecac, 0x1ecac, 1), (0x1ed2e, 0x1ed2e, 1), (0x1f000, 0x1f02b, 1), (0x1f030, 0x1f093, 1),
   (0x1f0a0, 0x1f0ae, 1), (0x1f0b1, 0x1f0bf, 1), (0x1f0c1, 0x1f0cf, 1), (0x1f0d1, 0x1f0f5, 1),
   (0x1f10d, 0x1f1ad, 1), (0x1f1e6, 0x1f202, 1), (0x1f210, 0x1f23b, 1), (0x1f240, 0x1f248, 1),
   (0x1f250, 0x1f251, 1), (0x1f260, 0x1f265, 1), (0x1f300, 0x1f3fa, 1), (0x1f400, 0x1f6d8, 1),
   (0x1f6dc, 0x1f6ec, 1), (0x1f6f0, 0x1f6fc, 1), (0x1f700, 0x1f7d9, 1), (0x1f7e0, 0x1f7eb, 1),
   (0x1f7f0, 0x1f7f0, 1), (0x1f800, 0x1f80b, 1), (0x1f810, 0x1f847, 1), (0x1f850, 0x1f859, 1),
   (0x1f860, 0x1f887, 1), (0x1f890, 0x1f8ad, 1), (0x1f8b0, 0x1f8bb, 1), (0x1f8c0, 0x1f8c1, 1),
   (0x1f900, 0x1fa57, 1), (0x1fa60, 0x1fa6d, 1), (0x1fa70, 0x1fa7c, 1), (0x1fa80, 0x1fa8a, 1),
   (0x1fa8e, 0x1fac6, 1), (0x1fac8, 0x1fac8, 1), (0x1facd, 0x1fadc, 1), (0x1fadf, 0x1faea, 1),
   (0x1faef, 0x1faf8, 1), (0x1fb00, 0x1fb92, 1), (0x1fb94, 0x1fbef, 1), (0x1fbfa, 0x1fbfa, 1)]

def spaceRuns : List (Nat × Nat × Nat) :=
  [(0x20, 0x20, 1), (0xa0, 0xa0, 1), (0x1680, 0x1680, 1), (0x2000, 0x200a, 1),
   (0x202f, 0x202f, 1), (0x205f, 0x205f, 1), (0x3000, 0x3000, 1)]

def lineSeparatorRuns : List (Nat × Nat × Nat) :=
  [(0x2028, 0x2028, 1)]

def paragraphSeparatorRuns : List (Nat × Nat × Nat) :=
  [(0x2029, 0x2029, 1)]

def controlRuns : List (Nat × Nat × Nat) :=
  [(0x0, 0x1f, 1), (0x7f, 0x9f, 1)]

def formatRuns : List (Nat × Nat × Nat) :=
  [(0xad, 0xad, 1), (0x600, 0x605, 1), (0x61c, 0x61c, 1), (0x6dd, 0x6dd, 1), (0x70f, 0x70f, 1),
   (0x890, 0x891, 1), (0x8e2, 0x8e2, 1), (0x180e, 0x180e, 1), (0x200b, 0x200f, 1),
   (0x202a, 0x202e, 1), (0x2060, 0x2064, 1), (0x2066, 0x206f, 1), (0xfeff, 0xfeff, 1),
   (0xfff9, 0xfffb, 1), (0x110bd, 0x110bd, 1), (0x110cd, 0x110cd, 1), (0x13430, 0x1343f, 1),
   (0x1bca0, 0x1bca3, 1), (0x1d173, 0x1d17a, 1), (0xe0001, 0xe0001, 1), (0xe0020, 0xe007f, 1)]

def surrogateRuns : List (Nat × Nat × Nat) :=
  [(0xd800, 0xdfff, 1)]

def privateRuns : List (Nat × Nat × Nat) :=
  [(0xe000, 0xf8ff, 1), (0xf0000, 0xffffd, 1), (0x100000, 0x10fffd, 1)]

/-! ## Names -/

/-- The runs of the category with a name of two letters. -/
def categoryRuns? (name : String) : Option (List (Nat × Nat × Nat)) :=
  match name with
  | "Lu" => some upperRuns
  | "Ll" => some lowerRuns
  | "Lt" => some titleRuns
  | "Lm" => some modifierLetterRuns
  | "Lo" => some otherLetterRuns
  | "Mn" => some nonspacingRuns
  | "Mc" => some spacingRuns
  | "Me" => some enclosingRuns
  | "Nl" => some letterNumberRuns
  | "No" => some otherNumberRuns
  | "Pc" => some connectorRuns
  | "Pd" => some dashRuns
  | "Ps" => some openingRuns
  | "Pe" => some closingRuns
  | "Pi" => some initialQuoteRuns
  | "Pf" => some finalQuoteRuns
  | "Po" => some otherPunctuationRuns
  | "Sm" => some mathRuns
  | "Sc" => some currencyRuns
  | "Sk" => some modifierSymbolRuns
  | "So" => some otherSymbolRuns
  | "Zs" => some spaceRuns
  | "Zl" => some lineSeparatorRuns
  | "Zp" => some paragraphSeparatorRuns
  | "Cc" => some controlRuns
  | "Cf" => some formatRuns
  | "Cs" => some surrogateRuns
  | "Co" => some privateRuns
  | _ => none

def runRanges : Nat × Nat × Nat → List (Nat × Nat)
  | (lo, hi, step) =>
    if step ≤ 1 then [(lo, hi)]
    else (List.range ((hi - lo) / step + 1)).map fun i => (lo + i * step, lo + i * step)

def unionRanges (names : List String) : List (Nat × Nat) :=
  (names.filterMap categoryRuns?).flatMap fun runs => runs.flatMap runRanges

def decimalDigitRanges : List (Nat × Nat) := (0x30, 0x39) :: decimalRanges

def allLetterRanges : List (Nat × Nat) := (0x41, 0x5a) :: (0x61, 0x7a) :: letterRanges

/-- The ranges of the characters that are seen, or that separate such
characters: letters, marks, numbers, punctuation, symbols and separators. -/
def textRanges : List (Nat × Nat) :=
  allLetterRanges ++ decimalDigitRanges ++
    unionRanges ["Mn", "Mc", "Me", "Nl", "No", "Pc", "Pd", "Ps", "Pe", "Pi", "Pf", "Po", "Sm",
      "Sc", "Sk", "So", "Zs", "Zl", "Zp"]

/-- The ranges of the code points that have a meaning. -/
def assignedRanges : List (Nat × Nat) := textRanges ++ unionRanges ["Cc", "Cf", "Cs", "Co"]

def categoryRanges? (name : String) : Option (List (Nat × Nat)) :=
  match name with
  | "L" => some allLetterRanges
  | "M" => some (unionRanges ["Mn", "Mc", "Me"])
  | "N" => some (decimalDigitRanges ++ unionRanges ["Nl", "No"])
  | "Nd" => some decimalDigitRanges
  | "P" => some (unionRanges ["Pc", "Pd", "Ps", "Pe", "Pi", "Pf", "Po"])
  | "S" => some (unionRanges ["Sm", "Sc", "Sk", "So"])
  | "Z" => some (unionRanges ["Zs", "Zl", "Zp"])
  | name => (categoryRuns? name).map fun runs => runs.flatMap runRanges

end ArgTaint.Text
