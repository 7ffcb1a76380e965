/-!
The MD5 digest, as far as its first word. A message is padded to whole blocks
of sixteen little-endian words, and every block stirs the four words of the
state in sixty-four rounds.
-/

namespace FeatureFlags.Hash.Md5

/-- The four words that the blocks stir. -/
structure State where
  a : UInt32
  b : UInt32
  c : UInt32
  d : UInt32
deriving DecidableEq

def start : State := ⟨0x67452301, 0xefcdab89, 0x98badcfe, 0x10325476⟩

/-- The whole part of `2 ^ 32 * |sin (i + 1)|` for the rounds `i`. -/
def sines : Array UInt32 := #[
  0xd76aa478, 0xe8c7b756, 0x242070db, 0xc1bdceee,
  0xf57c0faf, 0x4787c62a, 0xa8304613, 0xfd469501,
  0x698098d8, 0x8b44f7af, 0xffff5bb1, 0x895cd7be,
  0x6b901122, 0xfd987193, 0xa679438e, 0x49b40821,
  0xf61e2562, 0xc040b340, 0x265e5a51, 0xe9b6c7aa,
  0xd62f105d, 0x02441453, 0xd8a1e681, 0xe7d3fbc8,
  0x21e1cde6, 0xc33707d6, 0xf4d50d87, 0x455a14ed,
  0xa9e3e905, 0xfcefa3f8, 0x676f02d9, 0x8d2a4c8a,
  0xfffa3942, 0x8771f681, 0x6d9d6122, 0xfde5380c,
  0xa4beea44, 0x4bdecfa9, 0xf6bb4b60, 0xbebfbc70,
  0x289b7ec6, 0xeaa127fa, 0xd4ef3085, 0x04881d05,
  0xd9d4d039, 0xe6db99e5, 0x1fa27cf8, 0xc4ac5665,
  0xf4292244, 0x432aff97, 0xab9423a7, 0xfc93a039,
  0x655b59c3, 0x8f0ccc92, 0xffeff47d, 0x85845dd1,
  0x6fa87e4f, 0xfe2ce6e0, 0xa3014314, 0x4e0811a1,
  0xf7537e82, 0xbd3af235, 0x2ad7d2bb, 0xeb86d391]

/-- The rotations of a round; each four repeat within sixteen rounds. -/
def rotations : Array UInt32 :=
  #[7, 12, 17, 22, 5, 9, 14, 20, 4, 11, 16, 23, 6, 10, 15, 21]

def rotateLeft (word : UInt32) (count : UInt32) : UInt32 :=
  (word <<< count) ||| (word >>> (32 - count))

/-- The bitwise function of a round and the word of the block that it takes. -/
def mix (s : State) (round : Nat) : UInt32 × Nat :=
  if round < 16 then ((s.b &&& s.c) ||| (~~~s.b &&& s.d), round)
  else if round < 32 then ((s.d &&& s.b) ||| (~~~s.d &&& s.c), (5 * round + 1) % 16)
  else if round < 48 then (s.b ^^^ s.c ^^^ s.d, (3 * round + 5) % 16)
  else (s.c ^^^ (s.b ||| ~~~s.d), (7 * round) % 16)

def round (block : Array UInt32) (s : State) (i : Nat) : State :=
  let (bits, word) := mix s i
  let sum := s.a + bits + sines.getD i 0 + block.getD word 0
  ⟨s.d, s.b + rotateLeft sum (rotations.getD (i / 16 * 4 + i % 4) 0), s.b, s.c⟩

def compress (s : State) (block : Array UInt32) : State :=
  let stirred := (List.range 64).foldl (round block) s
  ⟨s.a + stirred.a, s.b + stirred.b, s.c + stirred.c, s.d + stirred.d⟩

/-- The message, a bit set behind it, zeros up to eight bytes before the end of
a block, and the length in bits. -/
def pad (message : List UInt8) : List UInt8 :=
  let size := message.length
  let zeros : List UInt8 := List.replicate ((119 - size % 64) % 64) 0
  let length : List UInt8 := (List.range 8).map fun i => ((8 * size) >>> (8 * i)).toUInt8
  message ++ 0x80 :: zeros ++ length

/-- The little-endian words of a text; bytes that fill no word are dropped. -/
def words : List UInt8 → List UInt32
  | b₀ :: b₁ :: b₂ :: b₃ :: rest =>
      (b₀.toUInt32 ||| b₁.toUInt32 <<< 8 ||| b₂.toUInt32 <<< 16 ||| b₃.toUInt32 <<< 24) ::
        words rest
  | _ => []

/-- Compresses `count` blocks. -/
def run (s : State) : Nat → List UInt32 → State
  | 0, _ => s
  | count + 1, text => run (compress s (text.take 16).toArray) count (text.drop 16)

/-- The state after a whole message, whose words are the digest. -/
def digest (message : List UInt8) : State :=
  let text := words (pad message)
  run start (text.length / 16) text

/-- The word with its bytes in the opposite order. -/
def swapBytes (word : UInt32) : UInt32 :=
  let low : UInt32 := 0xff
  (word &&& low) <<< 24 ||| (word >>> 8 &&& low) <<< 16 |||
    (word >>> 16 &&& low) <<< 8 ||| word >>> 24

/-- The first four bytes of the digest as a big-endian number. -/
def leadingWord (message : List UInt8) : UInt32 :=
  swapBytes (digest message).a

end FeatureFlags.Hash.Md5
