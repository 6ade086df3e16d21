/-! # Sharders and the MD5 digest

A sharder maps a salted key to a sample. The same salt and key give the same sample wherever and
whenever it is drawn, which keeps every entity where it is. -/

namespace FeatureFlags.Md5

def rotations : Array UInt32 :=
  #[7, 12, 17, 22, 5, 9, 14, 20, 4, 11, 16, 23, 6, 10, 15, 21]

/-- The whole part of `2 ^ 32 * |sin (i + 1)|` for each of the 64 steps. -/
def sines : Array UInt32 := #[
  0xd76aa478, 0xe8c7b756, 0x242070db, 0xc1bdceee, 0xf57c0faf, 0x4787c62a, 0xa8304613, 0xfd469501,
  0x698098d8, 0x8b44f7af, 0xffff5bb1, 0x895cd7be, 0x6b901122, 0xfd987193, 0xa679438e, 0x49b40821,
  0xf61e2562, 0xc040b340, 0x265e5a51, 0xe9b6c7aa, 0xd62f105d, 0x02441453, 0xd8a1e681, 0xe7d3fbc8,
  0x21e1cde6, 0xc33707d6, 0xf4d50d87, 0x455a14ed, 0xa9e3e905, 0xfcefa3f8, 0x676f02d9, 0x8d2a4c8a,
  0xfffa3942, 0x8771f681, 0x6d9d6122, 0xfde5380c, 0xa4beea44, 0x4bdecfa9, 0xf6bb4b60, 0xbebfbc70,
  0x289b7ec6, 0xeaa127fa, 0xd4ef3085, 0x04881d05, 0xd9d4d039, 0xe6db99e5, 0x1fa27cf8, 0xc4ac5665,
  0xf4292244, 0x432aff97, 0xab9423a7, 0xfc93a039, 0x655b59c3, 0x8f0ccc92, 0xffeff47d, 0x85845dd1,
  0x6fa87e4f, 0xfe2ce6e0, 0xa3014314, 0x4e0811a1, 0xf7537e82, 0xbd3af235, 0x2ad7d2bb, 0xeb86d391]

structure State where
  a : UInt32
  b : UInt32
  c : UInt32
  d : UInt32
  deriving DecidableEq, Repr

def initial : State := ⟨0x67452301, 0xefcdab89, 0x98badcfe, 0x10325476⟩

def mix (i : Nat) (s : State) : UInt32 × Nat :=
  match i / 16 with
  | 0 => ((s.b &&& s.c) ||| (~~~s.b &&& s.d), i)
  | 1 => ((s.d &&& s.b) ||| (~~~s.d &&& s.c), (5 * i + 1) % 16)
  | 2 => (s.b ^^^ s.c ^^^ s.d, (3 * i + 5) % 16)
  | _ => (s.c ^^^ (s.b ||| ~~~s.d), 7 * i % 16)

def rotateLeft (x amount : UInt32) : UInt32 :=
  (x <<< amount) ||| (x >>> (32 - amount))

def step (block : Array UInt32) (s : State) (i : Nat) : State :=
  let (mixed, word) := mix i s
  let sum := s.a + mixed + sines.getD i 0 + block.getD word 0
  ⟨s.d, s.b + rotateLeft sum (rotations.getD (i / 16 * 4 + i % 4) 0), s.b, s.c⟩

def compress (s : State) (block : Array UInt32) : State :=
  let t := (List.range 64).foldl (step block) s
  ⟨s.a + t.a, s.b + t.b, s.c + t.c, s.d + t.d⟩

def littleEndian : Nat → Nat → List UInt8
  | 0, _ => []
  | count + 1, n => UInt8.ofNat n :: littleEndian count (n / 256)

/-- A message followed by a one bit, zeros and its length in bits, so that the length becomes a
multiple of 64 bytes. -/
def pad (message : List UInt8) : List UInt8 :=
  let zeros := (119 - message.length % 64) % 64
  message ++ 0x80 :: (List.replicate zeros 0 ++ littleEndian 8 (8 * message.length))

def words : List UInt8 → List UInt32
  | a :: b :: c :: d :: rest =>
    (a.toUInt32 ||| (b.toUInt32 <<< 8) ||| (c.toUInt32 <<< 16) ||| (d.toUInt32 <<< 24)) ::
      words rest
  | _ => []

def compressAll (s : State) : Nat → List UInt32 → State
  | 0, _ => s
  | blocks + 1, message =>
    compressAll (compress s (message.take 16).toArray) blocks (message.drop 16)

def digest (message : List UInt8) : List UInt8 :=
  let padded := words (pad message)
  let s := compressAll initial (padded.length / 16) padded
  [s.a, s.b, s.c, s.d].flatMap fun word => littleEndian 4 word.toNat

end FeatureFlags.Md5

namespace FeatureFlags

/-- Draws a sample below `total` for a key under a salt. What a draw does besides is up to `m`. -/
abbrev Sharder (m : Type → Type) := (salt key : ByteArray) → (total : Nat) → m Nat

namespace Sharder

def bigEndian (bytes : List UInt8) : Nat :=
  bytes.foldl (fun n byte => n * 256 + byte.toNat) 0

def input (salt key : ByteArray) : ByteArray := salt ++ key

/-- The first 32 bits of the digest of salt and key, modulo the number of shards. -/
def shard (salt key : ByteArray) (total : Nat) : Nat :=
  bigEndian ((Md5.digest (input salt key).toList).take 4) % total

def shard? (salt key : ByteArray) (total : Nat) : Option Nat :=
  if total = 0 then none else some (shard salt key total)

def md5 {m : Type → Type} [Monad m] : Sharder m := fun salt key total => return shard salt key total

end Sharder

end FeatureFlags
