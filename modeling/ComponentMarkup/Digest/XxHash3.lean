/-
  ComponentMarkup.Digest.XxHash3
  ────────────────────────────────
  **The 64-bit XXH3 digest.**

  `digest` maps a byte string to a 64-bit word by the XXH3 algorithm with seed zero and the
  standard secret.  The algorithm has a formula of its own for each range of lengths: empty, up
  to 3, 8, 16, 128 and 240 bytes, and for longer strings eight lanes that consume 64 bytes at a
  time.  It is meant for tables, not for security.
-/

namespace ComponentMarkup.Digest

/-! ## §1. Constants. -/

/-- The standard secret that is mixed into every input. -/
def secret : Array UInt8 :=
  #[0xb8, 0xfe, 0x6c, 0x39, 0x23, 0xa4, 0x4b, 0xbe, 0x7c, 0x01, 0x81, 0x2c, 0xf7, 0x21, 0xad, 0x1c,
    0xde, 0xd4, 0x6d, 0xe9, 0x83, 0x90, 0x97, 0xdb, 0x72, 0x40, 0xa4, 0xa4, 0xb7, 0xb3, 0x67, 0x1f,
    0xcb, 0x79, 0xe6, 0x4e, 0xcc, 0xc0, 0xe5, 0x78, 0x82, 0x5a, 0xd0, 0x7d, 0xcc, 0xff, 0x72, 0x21,
    0xb8, 0x08, 0x46, 0x74, 0xf7, 0x43, 0x24, 0x8e, 0xe0, 0x35, 0x90, 0xe6, 0x81, 0x3a, 0x26, 0x4c,
    0x3c, 0x28, 0x52, 0xbb, 0x91, 0xc3, 0x00, 0xcb, 0x88, 0xd0, 0x65, 0x8b, 0x1b, 0x53, 0x2e, 0xa3,
    0x71, 0x64, 0x48, 0x97, 0xa2, 0x0d, 0xf9, 0x4e, 0x38, 0x19, 0xef, 0x46, 0xa9, 0xde, 0xac, 0xd8,
    0xa8, 0xfa, 0x76, 0x3f, 0xe3, 0x9c, 0x34, 0x3f, 0xf9, 0xdc, 0xbb, 0xc7, 0xc7, 0x0b, 0x4f, 0x1d,
    0x8a, 0x51, 0xe0, 0x4b, 0xcd, 0xb4, 0x59, 0x31, 0xc8, 0x9f, 0x7e, 0xc9, 0xd9, 0x78, 0x73, 0x64,
    0xea, 0xc5, 0xac, 0x83, 0x34, 0xd3, 0xeb, 0xc3, 0xc5, 0x81, 0xa0, 0xff, 0xfa, 0x13, 0x63, 0xeb,
    0x17, 0x0d, 0xdd, 0x51, 0xb7, 0xf0, 0xda, 0x49, 0xd3, 0x16, 0x55, 0x26, 0x29, 0xd4, 0x68, 0x9e,
    0x2b, 0x16, 0xbe, 0x58, 0x7d, 0x47, 0xa1, 0xfc, 0x8f, 0xf8, 0xb8, 0xd1, 0x7a, 0xd0, 0x31, 0xce,
    0x45, 0xcb, 0x3a, 0x8f, 0x95, 0x16, 0x04, 0x28, 0xaf, 0xd7, 0xfb, 0xca, 0xbb, 0x4b, 0x40, 0x7e]

def prime32_1 : UInt64 := 0x9E3779B1
def prime32_2 : UInt64 := 0x85EBCA77
def prime32_3 : UInt64 := 0xC2B2AE3D
def prime64_1 : UInt64 := 0x9E3779B185EBCA87
def prime64_2 : UInt64 := 0xC2B2AE3D27D4EB4F
def prime64_3 : UInt64 := 0x165667B19E3779F9
def prime64_4 : UInt64 := 0x85EBCA77C2B2AE63
def prime64_5 : UInt64 := 0x27D4EB2F165667C5

/-! ## §2. Words of a byte string, and how they are mixed. -/

/-- The number that `count` bytes from a position spell, least significant byte first; bytes past
the end count as zero. -/
def readWord (bytes : Array UInt8) (position : Nat) : Nat → UInt64
  | 0 => 0
  | count + 1 =>
    (bytes.getD position 0).toUInt64 ||| (readWord bytes (position + 1) count <<< 8)

/-- Four bytes as a number. -/
def word32 (bytes : Array UInt8) (position : Nat) : UInt64 := readWord bytes position 4

/-- Eight bytes as a number. -/
def word64 (bytes : Array UInt8) (position : Nat) : UInt64 := readWord bytes position 8

/-- The bits turned to the left. -/
def rotateLeft (w : UInt64) (count : UInt64) : UInt64 := (w <<< count) ||| (w >>> (64 - count))

/-- The eight bytes of a word in reverse order. -/
def swapBytes (w : UInt64) : UInt64 :=
  (List.range 8).foldl
    (fun swapped i => (swapped <<< 8) ||| ((w >>> (8 * i).toUInt64) &&& 0xFF)) 0

/-- The two halves of the 128-bit product, combined. -/
def foldProduct (x y : UInt64) : UInt64 :=
  let product := x.toNat * y.toNat
  product.toUInt64 ^^^ (product / UInt64.size).toUInt64

/-- Spreads every input bit over the word. -/
def avalanche (h : UInt64) : UInt64 :=
  let h := (h ^^^ (h >>> 37)) * 0x165667919E3779F9
  h ^^^ (h >>> 32)

/-- The stronger spreading that the shortest inputs get. -/
def avalancheShort (h : UInt64) : UInt64 :=
  let h := (h ^^^ (h >>> 33)) * prime64_2
  let h := (h ^^^ (h >>> 29)) * prime64_3
  h ^^^ (h >>> 32)

/-- Mixes sixteen bytes of the input with sixteen of the secret. -/
def mix16 (bytes : Array UInt8) (position offset : Nat) : UInt64 :=
  foldProduct (word64 bytes position ^^^ word64 secret offset)
    (word64 bytes (position + 8) ^^^ word64 secret (offset + 8))

/-! ## §3. Inputs of up to 240 bytes. -/

/-- Inputs of one to three bytes. -/
def digestUpTo3 (bytes : Array UInt8) : UInt64 :=
  let size := bytes.size
  let combined := (readWord bytes 0 1 <<< 16) ||| (readWord bytes (size / 2) 1 <<< 24)
    ||| readWord bytes (size - 1) 1 ||| (size.toUInt64 <<< 8)
  avalancheShort (combined ^^^ (word32 secret 0 ^^^ word32 secret 4))

/-- Inputs of four to eight bytes. -/
def digestUpTo8 (bytes : Array UInt8) : UInt64 :=
  let size := bytes.size
  let input := word32 bytes (size - 4) + (word32 bytes 0 <<< 32)
  let keyed := input ^^^ (word64 secret 8 ^^^ word64 secret 16)
  let h := (keyed ^^^ rotateLeft keyed 49 ^^^ rotateLeft keyed 24) * 0x9FB21C651E98DF25
  let h := (h ^^^ ((h >>> 35) + size.toUInt64)) * 0x9FB21C651E98DF25
  h ^^^ (h >>> 28)

/-- Inputs of nine to sixteen bytes. -/
def digestUpTo16 (bytes : Array UInt8) : UInt64 :=
  let size := bytes.size
  let low := word64 bytes 0 ^^^ (word64 secret 24 ^^^ word64 secret 32)
  let high := word64 bytes (size - 8) ^^^ (word64 secret 40 ^^^ word64 secret 48)
  avalanche (size.toUInt64 + swapBytes low + high + foldProduct low high)

/-- Inputs of 17 to 128 bytes: pairs of sixteen bytes from both ends. -/
def digestUpTo128 (bytes : Array UInt8) : UInt64 :=
  let size := bytes.size
  avalanche <|
    (List.range ((size + 31) / 32)).foldl
      (fun sum i => sum + mix16 bytes (16 * i) (32 * i)
        + mix16 bytes (size - 16 * (i + 1)) (32 * i + 16))
      (size.toUInt64 * prime64_1)

/-- Inputs of 129 to 240 bytes: eight rounds, spread, then the remaining rounds. -/
def digestUpTo240 (bytes : Array UInt8) : UInt64 :=
  let size := bytes.size
  let start := (List.range 8).foldl
    (fun sum i => sum + mix16 bytes (16 * i) (16 * i)) (size.toUInt64 * prime64_1)
  let sum := (List.range (size / 16 - 8)).foldl
    (fun sum i => sum + mix16 bytes (16 * (i + 8)) (16 * i + 3)) (avalanche start)
  avalanche (sum + mix16 bytes (size - 16) 119)

/-! ## §4. Longer inputs. -/

/-- The eight lanes at the start. -/
def initialLanes : List UInt64 :=
  [prime32_3, prime64_1, prime64_2, prime64_3, prime64_4, prime32_2, prime64_5, prime32_1]

/-- Consumes 64 bytes of the input with 64 bytes of the secret: each lane takes the product of the
halves of its own keyed word, and the plain word of its neighbour. -/
def accumulate (bytes : Array UInt8) (position offset : Nat) (lanes : List UInt64) : List UInt64 :=
  lanes.mapIdx fun i (lane : UInt64) =>
    let neighbour := if i % 2 = 0 then i + 1 else i - 1
    let keyed := word64 bytes (position + 8 * i) ^^^ word64 secret (offset + 8 * i)
    lane + word64 bytes (position + 8 * neighbour) + (keyed &&& (0xFFFFFFFF : UInt64)) * (keyed >>> 32)

/-- Stirs the lanes after a block of 1024 bytes. -/
def scramble (lanes : List UInt64) : List UInt64 :=
  lanes.mapIdx fun i (lane : UInt64) =>
    (lane ^^^ (lane >>> 47) ^^^ word64 secret (128 + 8 * i)) * prime32_1

/-- Consumes a number of 64-byte stripes from a position. -/
def accumulateStripes (bytes : Array UInt8) (position count : Nat) (lanes : List UInt64) :
    List UInt64 :=
  (List.range count).foldl
    (fun lanes i => accumulate bytes (position + 64 * i) (8 * i) lanes) lanes

/-- Combines the eight lanes into one word. -/
def mergeLanes (lanes : List UInt64) (start : UInt64) : UInt64 :=
  let lane (i : Nat) := lanes.getD i 0
  avalanche <| (List.range 4).foldl
    (fun sum i => sum + foldProduct (lane (2 * i) ^^^ word64 secret (11 + 16 * i))
      (lane (2 * i + 1) ^^^ word64 secret (19 + 16 * i))) start

/-- Inputs of more than 240 bytes: full blocks, the full stripes of the last block, and the last 64
bytes once more. -/
def digestLong (bytes : Array UInt8) : UInt64 :=
  let size := bytes.size
  let blocks := (size - 1) / 1024
  let lanes := (List.range blocks).foldl
    (fun lanes n => scramble (accumulateStripes bytes (1024 * n) 16 lanes)) initialLanes
  let lanes := accumulateStripes bytes (1024 * blocks) ((size - 1 - 1024 * blocks) / 64) lanes
  mergeLanes (accumulate bytes (size - 64) 121 lanes) (size.toUInt64 * prime64_1)

/-- The digest of a byte string. -/
def digest (input : List UInt8) : UInt64 :=
  let bytes := input.toArray
  if bytes.size = 0 then avalancheShort (word64 secret 56 ^^^ word64 secret 64)
  else if bytes.size ≤ 3 then digestUpTo3 bytes
  else if bytes.size ≤ 8 then digestUpTo8 bytes
  else if bytes.size ≤ 16 then digestUpTo16 bytes
  else if bytes.size ≤ 128 then digestUpTo128 bytes
  else if bytes.size ≤ 240 then digestUpTo240 bytes
  else digestLong bytes

end ComponentMarkup.Digest
