import OrgStacks.CharSet

/-!
# Characters that differ only in case

`classes` lists the classes of two or more characters that simple case folding identifies.
-/

set_option autoImplicit false

namespace OrgStacks.Unicode.CaseFold

/-- Arithmetic runs of classes of two: the first small code point, the distance to the partner, the
step from one class to the next, and how many classes. -/
def pairRuns : List (Nat × Nat × Nat × Nat) := [
  (0x41, 32, 1, 10), (0x4c, 32, 1, 7), (0x54, 32, 1, 7), (0xc0, 32, 1, 5), (0xc6, 32, 1, 17),
  (0xd8, 32, 1, 7), (0xdf, 7615, 1, 1), (0xff, 121, 1, 1), (0x100, 1, 2, 24), (0x132, 1, 2, 3),
  (0x139, 1, 2, 8), (0x14a, 1, 2, 23), (0x179, 1, 2, 3), (0x180, 195, 1, 1), (0x181, 210, 1, 1),
  (0x182, 1, 2, 2), (0x186, 206, 1, 1), (0x187, 1, 1, 1), (0x189, 205, 1, 2), (0x18b, 1, 1, 1),
  (0x18e, 79, 1, 1), (0x18f, 202, 1, 1), (0x190, 203, 1, 1), (0x191, 1, 1, 1),
  (0x193, 205, 1, 1), (0x194, 207, 1, 1), (0x195, 97, 1, 1), (0x196, 211, 1, 1),
  (0x197, 209, 1, 1), (0x198, 1, 1, 1), (0x19a, 163, 1, 1), (0x19c, 211, 1, 1),
  (0x19d, 213, 1, 1), (0x19e, 130, 1, 1), (0x19f, 214, 1, 1), (0x1a0, 1, 2, 3),
  (0x1a6, 218, 1, 1), (0x1a7, 1, 1, 1), (0x1a9, 218, 1, 1), (0x1ac, 1, 1, 1), (0x1ae, 218, 1, 1),
  (0x1af, 1, 1, 1), (0x1b1, 217, 1, 2), (0x1b3, 1, 2, 2), (0x1b7, 219, 1, 1), (0x1b8, 1, 1, 1),
  (0x1bc, 1, 1, 1), (0x1bf, 56, 1, 1), (0x1cd, 1, 2, 8), (0x1de, 1, 2, 9), (0x1f4, 1, 1, 1),
  (0x1f8, 1, 2, 20), (0x222, 1, 2, 9), (0x23a, 10795, 1, 1), (0x23b, 1, 1, 1),
  (0x23e, 10792, 1, 1), (0x23f, 10815, 1, 2), (0x241, 1, 1, 1), (0x244, 69, 1, 1),
  (0x245, 71, 1, 1), (0x246, 1, 2, 5), (0x250, 10783, 1, 1), (0x251, 10780, 1, 1),
  (0x252, 10782, 1, 1), (0x25c, 42319, 1, 1), (0x261, 42315, 1, 1), (0x265, 42280, 1, 1),
  (0x266, 42308, 1, 1), (0x26a, 42308, 1, 1), (0x26b, 10743, 1, 1), (0x26c, 42305, 1, 1),
  (0x271, 10749, 1, 1), (0x27d, 10727, 1, 1), (0x282, 42307, 1, 1), (0x287, 42282, 1, 1),
  (0x29d, 42261, 1, 1), (0x29e, 42258, 1, 1), (0x370, 1, 2, 2), (0x376, 1, 1, 1),
  (0x37b, 130, 1, 3), (0x37f, 116, 1, 1), (0x386, 38, 1, 1), (0x388, 37, 1, 3),
  (0x38c, 64, 1, 1), (0x38e, 63, 1, 2), (0x391, 32, 2, 2), (0x394, 32, 2, 2), (0x397, 32, 1, 1),
  (0x39b, 32, 2, 2), (0x39e, 32, 1, 2), (0x3a4, 32, 1, 2), (0x3a7, 32, 1, 2), (0x3aa, 32, 1, 2),
  (0x3cf, 8, 1, 1), (0x3d8, 1, 2, 12), (0x3f2, 7, 1, 1), (0x3f7, 1, 1, 1), (0x3fa, 1, 1, 1),
  (0x400, 80, 1, 16), (0x410, 32, 1, 2), (0x413, 32, 2, 2), (0x416, 32, 1, 8), (0x41f, 32, 1, 2),
  (0x423, 32, 1, 7), (0x42b, 32, 1, 5), (0x460, 1, 1, 1), (0x464, 1, 2, 15), (0x48a, 1, 2, 27),
  (0x4c0, 15, 1, 1), (0x4c1, 1, 2, 7), (0x4d0, 1, 2, 48), (0x531, 48, 1, 38),
  (0x10a0, 7264, 1, 38), (0x10c7, 7264, 1, 1), (0x10cd, 7264, 1, 1), (0x10d0, 3008, 1, 43),
  (0x10fd, 3008, 1, 3), (0x13a0, 38864, 1, 80), (0x13f0, 8, 1, 6), (0x1d79, 35332, 1, 1),
  (0x1d7d, 3814, 1, 1), (0x1d8e, 35384, 1, 1), (0x1e00, 1, 2, 48), (0x1e62, 1, 2, 26),
  (0x1ea0, 1, 2, 48), (0x1f00, 8, 1, 8), (0x1f10, 8, 1, 6), (0x1f20, 8, 1, 8), (0x1f30, 8, 1, 8),
  (0x1f40, 8, 1, 6), (0x1f51, 8, 2, 4), (0x1f60, 8, 1, 8), (0x1f70, 74, 1, 2),
  (0x1f72, 86, 1, 4), (0x1f76, 100, 1, 2), (0x1f78, 128, 1, 2), (0x1f7a, 112, 1, 2),
  (0x1f7c, 126, 1, 2), (0x1f80, 8, 1, 8), (0x1f90, 8, 1, 8), (0x1fa0, 8, 1, 8),
  (0x1fb0, 8, 1, 2), (0x1fb3, 9, 1, 1), (0x1fc3, 9, 1, 1), (0x1fd0, 8, 1, 2), (0x1fe0, 8, 1, 2),
  (0x1fe5, 7, 1, 1), (0x1ff3, 9, 1, 1), (0x2132, 28, 1, 1), (0x2160, 16, 1, 16),
  (0x2183, 1, 1, 1), (0x24b6, 26, 1, 26), (0x2c00, 48, 1, 48), (0x2c60, 1, 1, 1),
  (0x2c67, 1, 2, 3), (0x2c72, 1, 1, 1), (0x2c75, 1, 1, 1), (0x2c80, 1, 2, 50), (0x2ceb, 1, 2, 2),
  (0x2cf2, 1, 1, 1), (0xa640, 1, 2, 5), (0xa64c, 1, 2, 17), (0xa680, 1, 2, 14),
  (0xa722, 1, 2, 7), (0xa732, 1, 2, 31), (0xa779, 1, 2, 2), (0xa77e, 1, 2, 5), (0xa78b, 1, 1, 1),
  (0xa790, 1, 2, 2), (0xa794, 48, 1, 1), (0xa796, 1, 2, 10), (0xa7b3, 928, 1, 1),
  (0xa7b4, 1, 2, 8), (0xa7c7, 1, 2, 2), (0xa7d0, 1, 1, 1), (0xa7d6, 1, 2, 2), (0xa7f5, 1, 1, 1),
  (0xff21, 32, 1, 26), (0x10400, 40, 1, 40), (0x104b0, 40, 1, 36), (0x10570, 39, 1, 11),
  (0x1057c, 39, 1, 15), (0x1058c, 39, 1, 7), (0x10594, 39, 1, 2), (0x10c80, 64, 1, 51),
  (0x118a0, 32, 1, 32), (0x16e40, 32, 1, 32), (0x1e900, 34, 1, 34)]

def larger : List (List Nat) := [
  [0x4b, 0x6b, 0x212a], [0x53, 0x73, 0x17f], [0xb5, 0x39c, 0x3bc], [0xc5, 0xe5, 0x212b],
  [0x1c4, 0x1c5, 0x1c6], [0x1c7, 0x1c8, 0x1c9], [0x1ca, 0x1cb, 0x1cc], [0x1f1, 0x1f2, 0x1f3],
  [0x345, 0x399, 0x3b9, 0x1fbe], [0x392, 0x3b2, 0x3d0], [0x395, 0x3b5, 0x3f5],
  [0x398, 0x3b8, 0x3d1, 0x3f4], [0x39a, 0x3ba, 0x3f0], [0x3a0, 0x3c0, 0x3d6],
  [0x3a1, 0x3c1, 0x3f1], [0x3a3, 0x3c2, 0x3c3], [0x3a6, 0x3c6, 0x3d5], [0x3a9, 0x3c9, 0x2126],
  [0x412, 0x432, 0x1c80], [0x414, 0x434, 0x1c81], [0x41e, 0x43e, 0x1c82], [0x421, 0x441, 0x1c83],
  [0x422, 0x442, 0x1c84, 0x1c85], [0x42a, 0x44a, 0x1c86], [0x462, 0x463, 0x1c87],
  [0x1c88, 0xa64a, 0xa64b], [0x1e60, 0x1e61, 0x1e9b]]

def classes : List (List Nat) :=
  larger ++ pairRuns.flatMap fun (first, distance, step, count) =>
    (List.range count).map fun i => [first + i * step, first + i * step + distance]

/-- The set with every character added that some member differs from only in case. -/
def close (s : CharSet) : CharSet :=
  .ofRanges (s.ranges ++ (classes.filter fun g => g.any s.contains).flatMap fun g =>
    g.map fun c => (c, c))

def closeAscii (s : CharSet) : CharSet :=
  .ofRanges (s.ranges ++ (List.range 26).flatMap fun i =>
    if s.contains (0x41 + i) || s.contains (0x61 + i) then
      [(0x41 + i, 0x41 + i), (0x61 + i, 0x61 + i)]
    else [])

end OrgStacks.Unicode.CaseFold
