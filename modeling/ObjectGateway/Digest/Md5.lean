import ObjectGateway.Text.Hex
/-!
# MD5

The 128-bit message digest of RFC 1321, fed one byte at a time. It names the
directories a payload is filed under and is recorded as its checksum.
-/
namespace ObjectGateway.Md5

/-- The four chaining words. -/
structure Chain where
  a : UInt32 := 0x67452301
  b : UInt32 := 0xefcdab89
  c : UInt32 := 0x98badcfe
  d : UInt32 := 0x10325476
deriving DecidableEq

/-- The integer parts of `2^32 * |sin i|` for `i` from 1 to 64. -/
def sines : Array UInt32 :=
  #[
    0xd76aa478, 0xe8c7b756, 0x242070db, 0xc1bdceee, 0xf57c0faf, 0x4787c62a,
    0xa8304613, 0xfd469501, 0x698098d8, 0x8b44f7af, 0xffff5bb1, 0x895cd7be,
    0x6b901122, 0xfd987193, 0xa679438e, 0x49b40821, 0xf61e2562, 0xc040b340,
    0x265e5a51, 0xe9b6c7aa, 0xd62f105d, 0x02441453, 0xd8a1e681, 0xe7d3fbc8,
    0x21e1cde6, 0xc33707d6, 0xf4d50d87, 0x455a14ed, 0xa9e3e905, 0xfcefa3f8,
    0x676f02d9, 0x8d2a4c8a, 0xfffa3942, 0x8771f681, 0x6d9d6122, 0xfde5380c,
    0xa4beea44, 0x4bdecfa9, 0xf6bb4b60, 0xbebfbc70, 0x289b7ec6, 0xeaa127fa,
    0xd4ef3085, 0x04881d05, 0xd9d4d039, 0xe6db99e5, 0x1fa27cf8, 0xc4ac5665,
    0xf4292244, 0x432aff97, 0xab9423a7, 0xfc93a039, 0x655b59c3, 0x8f0ccc92,
    0xffeff47d, 0x85845dd1, 0x6fa87e4f, 0xfe2ce6e0, 0xa3014314, 0x4e0811a1,
    0xf7537e82, 0xbd3af235, 0x2ad7d2bb, 0xeb86d391
  ]

/-- The left rotation of each step: four amounts a round, each round used four
times over. -/
def rotation (step : Nat) : UInt32 :=
  let amounts : Array UInt32 :=
    #[7, 12, 17, 22, 5, 9, 14, 20, 4, 11, 16, 23, 6, 10, 15, 21]
  amounts.getD (4 * (step / 16) + step % 4) 0

def rotateLeft (x n : UInt32) : UInt32 :=
  (x <<< n) ||| (x >>> (32 - n))

/-- The mixing function of a step and the index of the word it takes in. -/
def mix (step : Nat) (s : Chain) : UInt32 × Nat :=
  if step < 16 then ((s.b &&& s.c) ||| ((~~~s.b) &&& s.d), step)
  else if step < 32 then ((s.d &&& s.b) ||| ((~~~s.d) &&& s.c), (5 * step + 1) % 16)
  else if step < 48 then (s.b ^^^ s.c ^^^ s.d, (3 * step + 5) % 16)
  else (s.c ^^^ (s.b ||| (~~~s.d)), (7 * step) % 16)

/-- The little-endian word of four bytes at word index `i` of a block. -/
def word (block : Array UInt8) (i : Nat) : UInt32 :=
  let byte (j : Nat) : UInt32 := (block.getD (4 * i + j) 0).toUInt32
  byte 0 ||| (byte 1 <<< 8) ||| (byte 2 <<< 16) ||| (byte 3 <<< 24)

/-- Fold a block of 64 bytes into the chain. -/
def compress (s : Chain) (block : Array UInt8) : Chain :=
  let turn (s : Chain) (step : Nat) : Chain :=
    let (f, i) := mix step s
    let sum := f + s.a + sines.getD step 0 + word block i
    ⟨s.d, s.b + rotateLeft sum (rotation step), s.b, s.c⟩
  let t := (List.range 64).foldl turn s
  ⟨s.a + t.a, s.b + t.b, s.c + t.c, s.d + t.d⟩

/-- A digest under way: the chain so far, the bytes of the block being filled
and the number of bytes fed. -/
structure Progress where
  chain : Chain := {}
  block : Array UInt8 := #[]
  count : Nat := 0

def Progress.push (p : Progress) (byte : UInt8) : Progress :=
  let block := p.block.push byte
  if block.size = 64 then ⟨compress p.chain block, #[], p.count + 1⟩
  else ⟨p.chain, block, p.count + 1⟩

def Progress.feed (p : Progress) (bytes : List UInt8) : Progress :=
  bytes.foldl Progress.push p

/-- The lowest `width` bytes of `n`, least significant first. -/
def littleEndian : (width : Nat) → (n : Nat) → List UInt8
  | 0, _ => []
  | width + 1, n => UInt8.ofNat n :: littleEndian width (n / 256)

/-- Close the message with a one bit, zeros and its length in bits, and read
the digest off the chain. -/
def Progress.finish (p : Progress) : List UInt8 :=
  let zeros := (119 - p.count % 64) % 64
  let tail := 0x80 :: List.replicate zeros 0 ++ littleEndian 8 (8 * p.count)
  let s := (p.feed tail).chain
  littleEndian 4 s.a.toNat ++ littleEndian 4 s.b.toNat ++
    littleEndian 4 s.c.toNat ++ littleEndian 4 s.d.toNat

/-- The sixteen bytes of the digest of a message. -/
def digest (message : List UInt8) : List UInt8 :=
  (({} : Progress).feed message).finish

/-- The digest as 32 hexadecimal digits. -/
def hex (message : List UInt8) : String :=
  String.ofList (Hex.ofBytes (digest message))

end ObjectGateway.Md5
