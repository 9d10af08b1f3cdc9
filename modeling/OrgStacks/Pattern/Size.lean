import OrgStacks.Pattern.Regex

/-!
# The size of a matching machine

A pattern is refused when the machine that matches it would take more than ten mebibytes. The
measure counts states of 32 bytes over the bytes of UTF-8: repetition is unrolled, and a set of
characters takes a state for every distinct beginning of the byte sequences that encode it.
-/

set_option autoImplicit false

namespace OrgStacks.Pattern

def stateBytes : Nat := 32

def sizeLimit : Nat := 10 * 1024 * 1024

abbrev ByteRanges := List (Nat × Nat)

def utf8Bytes (n : Nat) : List Nat :=
  if n < 0x80 then [n]
  else if n < 0x800 then [0xC0 + n / 64, 0x80 + n % 64]
  else if n < 0x10000 then [0xE0 + n / 4096, 0x80 + n / 64 % 64, 0x80 + n % 64]
  else [0xF0 + n / 262144, 0x80 + n / 4096 % 64, 0x80 + n / 64 % 64, 0x80 + n % 64]

/-- Code points of one encoded length whose trailing bytes range freely below the first byte in
which the ends differ: blocks of 64, 4096 and 262144 code points are cut off at either side. -/
def splitBlocks (lo hi : Nat) : List Nat → List (Nat × Nat)
  | [] => [(lo, hi)]
  | block :: blocks =>
    if lo / block = hi / block then splitBlocks lo hi blocks
    else
      let lowRest := lo % block
      let highRest := (hi + 1) % block
      let middleLo := if lowRest = 0 then lo else (lo / block + 1) * block
      let middleHi := if highRest = 0 then hi else hi / block * block - 1
      (if lowRest = 0 then [] else splitBlocks lo (middleLo - 1) blocks) ++
        (if middleLo ≤ middleHi then [(middleLo, middleHi)] else []) ++
        (if highRest = 0 then [] else splitBlocks (middleHi + 1) hi blocks)

def byteSequences (r : Nat × Nat) : List ByteRanges :=
  let lengths := [(0, 0x7F), (0x80, 0x7FF), (0x800, 0xD7FF), (0xE000, 0xFFFF), (0x10000, 0x10FFFF)]
  lengths.flatMap fun l =>
    let lo := max r.1 l.1
    let hi := min r.2 l.2
    if lo ≤ hi then
      (splitBlocks lo hi [262144, 4096, 64]).map fun (a, b) => (utf8Bytes a).zip (utf8Bytes b)
    else []

def beginnings : ByteRanges → List ByteRanges
  | [] => []
  | r :: rest => [r] :: (beginnings rest).map (r :: ·)

/-- How many beginnings differ from those of the sequence before; the sequences are in order. -/
def newBeginnings : ByteRanges → List ByteRanges → Nat
  | _, [] => 0
  | previous, s :: rest =>
    ((beginnings s).filter fun b => !(beginnings previous).contains b).length + newBeginnings s rest

def charsMachineSize (set : CharSet) : Nat :=
  match set.ranges with
  | [] => stateBytes
  | [(a, b)] =>
    if a = b then stateBytes * (utf8Bytes a).length else size set
  | _ => size set
where
  size (set : CharSet) : Nat :=
    if set.isAscii then 2 * stateBytes + 8 * set.ranges.length
    else
      let sequences := set.ranges.flatMap byteSequences
      2 * stateBytes + 4 * sequences.length + stateBytes * newBeginnings [] sequences

def Regex.onlyEmpty : Regex → Bool
  | .empty | .assert _ => true
  | .chars _ => false
  | .seq r s => r.onlyEmpty && s.onlyEmpty
  | .alt r s => r.onlyEmpty && s.onlyEmpty
  | .repeated r _ most => r.onlyEmpty || most == some 0
  | .capture r => r.onlyEmpty

/-- The bytes of the machine for an expression. -/
def Regex.machineSize : Regex → Nat
  | .empty | .assert _ => stateBytes
  | .chars set => charsMachineSize set
  | .seq r s => r.machineSize + s.machineSize
  | .alt r s => r.machineSize + s.machineSize + 2 * stateBytes + 8
  | .repeated r least most =>
    let one := r.machineSize
    let fork := stateBytes + 8
    let least := if r.onlyEmpty then min least 1 else least
    let most := if r.onlyEmpty then most.map (min 1) else most
    match most with
    | none => max least 1 * one + fork
    | some most =>
      if most = 0 then stateBytes
      else if least = most then least * one
      else least * one + stateBytes + (most - least) * (one + fork)
  | .capture r => r.machineSize + 2 * stateBytes

/-- The bytes of the whole machine, which also has a start, the ends of what is found and success. -/
def Regex.programSize (r : Regex) : Nat := r.machineSize + 4 * stateBytes

end OrgStacks.Pattern
