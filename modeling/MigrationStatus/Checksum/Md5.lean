import MigrationStatus.Checksum
/-!
The MD5 digest (RFC 1321).

A message is filled up to whole blocks of sixty-four bytes: one byte `0x80`, as few zeros as it
takes, and the number of its bits as eight bytes. Every block then passes through sixty-four steps
on four words, and the words that come out are added to those that went in.
-/

namespace MigrationStatus.Checksum

/-- The four words that the digest is made of. -/
structure Words where
  a : UInt32
  b : UInt32
  c : UInt32
  d : UInt32
  deriving DecidableEq, Repr

def Words.start : Words := ⟨0x67452301, 0xefcdab89, 0x98badcfe, 0x10325476⟩

def Words.add (left right : Words) : Words :=
  ⟨left.a + right.a, left.b + right.b, left.c + right.c, left.d + right.d⟩

/-- The constant added in each step: the integer part of 2³² · |sin (step + 1)|. -/
def constants : Vector UInt32 64 := #v[
  0xd76aa478, 0xe8c7b756, 0x242070db, 0xc1bdceee, 0xf57c0faf, 0x4787c62a, 0xa8304613, 0xfd469501,
  0x698098d8, 0x8b44f7af, 0xffff5bb1, 0x895cd7be, 0x6b901122, 0xfd987193, 0xa679438e, 0x49b40821,
  0xf61e2562, 0xc040b340, 0x265e5a51, 0xe9b6c7aa, 0xd62f105d, 0x02441453, 0xd8a1e681, 0xe7d3fbc8,
  0x21e1cde6, 0xc33707d6, 0xf4d50d87, 0x455a14ed, 0xa9e3e905, 0xfcefa3f8, 0x676f02d9, 0x8d2a4c8a,
  0xfffa3942, 0x8771f681, 0x6d9d6122, 0xfde5380c, 0xa4beea44, 0x4bdecfa9, 0xf6bb4b60, 0xbebfbc70,
  0x289b7ec6, 0xeaa127fa, 0xd4ef3085, 0x04881d05, 0xd9d4d039, 0xe6db99e5, 0x1fa27cf8, 0xc4ac5665,
  0xf4292244, 0x432aff97, 0xab9423a7, 0xfc93a039, 0x655b59c3, 0x8f0ccc92, 0xffeff47d, 0x85845dd1,
  0x6fa87e4f, 0xfe2ce6e0, 0xa3014314, 0x4e0811a1, 0xf7537e82, 0xbd3af235, 0x2ad7d2bb, 0xeb86d391]

/-- How far each step rotates: four amounts in turn, other ones in each of the four rounds. -/
def rotations : Vector UInt32 16 :=
  #v[7, 12, 17, 22, 5, 9, 14, 20, 4, 11, 16, 23, 6, 10, 15, 21]

def rotateLeft (word amount : UInt32) : UInt32 := word <<< amount ||| word >>> (32 - amount)

/-- The mixing function of a round, and which of the sixteen words of the block its step takes. -/
def mixed (words : Words) (step : Nat) : UInt32 × Nat :=
  if step < 16 then (words.b &&& words.c ||| ~~~words.b &&& words.d, step)
  else if step < 32 then (words.d &&& words.b ||| ~~~words.d &&& words.c, (5 * step + 1) % 16)
  else if step < 48 then (words.b ^^^ words.c ^^^ words.d, (3 * step + 5) % 16)
  else (words.c ^^^ (words.b ||| ~~~words.d), 7 * step % 16)

/-- The byte at a position, as a word. -/
def byteAt (bytes : ByteArray) (position : Nat) : UInt32 :=
  if h : position < bytes.size then (bytes[position]).toUInt32 else 0

/-- The word whose four bytes begin at a position, lowest byte first. -/
def wordAt (bytes : ByteArray) (position : Nat) : UInt32 :=
  byteAt bytes position ||| byteAt bytes (position + 1) <<< 8 |||
    byteAt bytes (position + 2) <<< 16 ||| byteAt bytes (position + 3) <<< 24

/-- One of the sixty-four steps. -/
def stepped (bytes : ByteArray) (start : Nat) (words : Words) (step : Nat) (h : step < 64) :
    Words :=
  let (mix, index) := mixed words step
  let sum := words.a + mix + constants[step] + wordAt bytes (start + 4 * index)
  { a := words.d
    b := words.b + rotateLeft sum (rotations[step / 16 * 4 + step % 4])
    c := words.b
    d := words.c }

/-- The words after the block that begins at a position. -/
def compressed (bytes : ByteArray) (start : Nat) (words : Words) : Words :=
  words.add (Nat.fold 64 (fun step h words => stepped bytes start words step h) words)

/-- The number as eight bytes, lowest byte first. -/
def lengthBytes (n : UInt64) : List UInt8 :=
  [n, n >>> 8, n >>> 16, n >>> 24, n >>> 32, n >>> 40, n >>> 48, n >>> 56].map UInt64.toUInt8

/-- The number of zeros between the byte `0x80` and the length. -/
def paddingZeros (size : Nat) : Nat := (119 - size % 64) % 64

/-- The message filled up to whole blocks. -/
def padded (message : ByteArray) : ByteArray :=
  let ending := 0x80 :: (List.replicate (paddingZeros message.size) 0 ++
    lengthBytes (8 * UInt64.ofNat message.size))
  ending.foldl ByteArray.push message

/-- The words after all blocks of a message. -/
def digested (message : ByteArray) : Words :=
  let bytes := padded message
  Nat.fold (bytes.size / 64) (fun block _ words => compressed bytes (64 * block) words) .start

/-- The bytes of a word, lowest byte first. -/
def wordBytes (word : UInt32) : Vector UInt8 4 :=
  #v[word, word >>> 8, word >>> 16, word >>> 24].map UInt32.toUInt8

def md5 : Digest := fun message =>
  let words := digested message
  wordBytes words.a ++ wordBytes words.b ++ wordBytes words.c ++ wordBytes words.d

theorem paddingZeros_lt (size : Nat) : paddingZeros size < 64 := Nat.mod_lt _ (by decide)

/-- The byte `0x80`, the zeros and the eight bytes of the length complete a block. -/
theorem size_add_paddingZeros (size : Nat) : (size + 1 + paddingZeros size + 8) % 64 = 0 := by
  unfold paddingZeros
  omega

end MigrationStatus.Checksum
