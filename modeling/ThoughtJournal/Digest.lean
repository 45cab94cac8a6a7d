import ThoughtJournal.Text.Utf8

/-! # SHA-256

The digest that identifies the content of a thought. A message is padded to whole blocks of 64
bytes; each block is expanded to 64 words and mixed into a chaining value of eight words; the last
chaining value, written with two lower-case hexadecimal digits for each byte, is the checksum.
-/

namespace ThoughtJournal.Digest

/-- The word rotated to the right by `count` bits, for `0 < count < 32`. -/
def rotateRight (word : UInt32) (count : UInt32) : UInt32 :=
  (word >>> count) ||| (word <<< (32 - count))

/-- The additive constants of the 64 rounds. -/
def roundConstants : List UInt32 := [
  0x428a2f98, 0x71374491, 0xb5c0fbcf, 0xe9b5dba5, 0x3956c25b, 0x59f111f1, 0x923f82a4, 0xab1c5ed5,
  0xd807aa98, 0x12835b01, 0x243185be, 0x550c7dc3, 0x72be5d74, 0x80deb1fe, 0x9bdc06a7, 0xc19bf174,
  0xe49b69c1, 0xefbe4786, 0x0fc19dc6, 0x240ca1cc, 0x2de92c6f, 0x4a7484aa, 0x5cb0a9dc, 0x76f988da,
  0x983e5152, 0xa831c66d, 0xb00327c8, 0xbf597fc7, 0xc6e00bf3, 0xd5a79147, 0x06ca6351, 0x14292967,
  0x27b70a85, 0x2e1b2138, 0x4d2c6dfc, 0x53380d13, 0x650a7354, 0x766a0abb, 0x81c2c92e, 0x92722c85,
  0xa2bfe8a1, 0xa81a664b, 0xc24b8b70, 0xc76c51a3, 0xd192e819, 0xd6990624, 0xf40e3585, 0x106aa070,
  0x19a4c116, 0x1e376c08, 0x2748774c, 0x34b0bcb5, 0x391c0cb3, 0x4ed8aa4a, 0x5b9cca4f, 0x682e6ff3,
  0x748f82ee, 0x78a5636f, 0x84c87814, 0x8cc70208, 0x90befffa, 0xa4506ceb, 0xbef9a3f7, 0xc67178f2]

/-- The eight words that are carried from block to block. -/
structure Chain where
  a : UInt32
  b : UInt32
  c : UInt32
  d : UInt32
  e : UInt32
  f : UInt32
  g : UInt32
  h : UInt32
deriving DecidableEq, Repr

def Chain.start : Chain :=
  ⟨0x6a09e667, 0xbb67ae85, 0x3c6ef372, 0xa54ff53a, 0x510e527f, 0x9b05688c, 0x1f83d9ab, 0x5be0cd19⟩

/-- The words of two chaining values added in pairs. -/
def Chain.add (left right : Chain) : Chain :=
  ⟨left.a + right.a, left.b + right.b, left.c + right.c, left.d + right.d,
    left.e + right.e, left.f + right.f, left.g + right.g, left.h + right.h⟩

def Chain.words (chain : Chain) : List UInt32 :=
  [chain.a, chain.b, chain.c, chain.d, chain.e, chain.f, chain.g, chain.h]

/-- One round, with a round constant and a word of the schedule. -/
def Chain.round (chain : Chain) (input : UInt32 × UInt32) : Chain :=
  let high := rotateRight chain.e 6 ^^^ rotateRight chain.e 11 ^^^ rotateRight chain.e 25
  let choice := (chain.e &&& chain.f) ^^^ ((chain.e ^^^ 0xffffffff) &&& chain.g)
  let first := chain.h + high + choice + input.1 + input.2
  let low := rotateRight chain.a 2 ^^^ rotateRight chain.a 13 ^^^ rotateRight chain.a 22
  let majority := (chain.a &&& chain.b) ^^^ (chain.a &&& chain.c) ^^^ (chain.b &&& chain.c)
  ⟨first + (low + majority), chain.a, chain.b, chain.c, chain.d + first, chain.e, chain.f, chain.g⟩

/-- The word of the schedule that follows the given ones, which are listed from the last one on. -/
def nextWord (reversed : List UInt32) : UInt32 :=
  let back (distance : Nat) : UInt32 := (reversed[distance - 1]?).getD 0
  let near := rotateRight (back 2) 17 ^^^ rotateRight (back 2) 19 ^^^ (back 2 >>> 10)
  let far := rotateRight (back 15) 7 ^^^ rotateRight (back 15) 18 ^^^ (back 15 >>> 3)
  near + back 7 + far + back 16

/-- A schedule, listed from its last word on, with `count` more words. -/
def extend : Nat → List UInt32 → List UInt32
  | 0, reversed => reversed
  | count + 1, reversed => extend count (nextWord reversed :: reversed)

/-- Four bytes as a word, the most significant byte first; fewer than four bytes are left out. -/
def wordsOf : Bytes → List UInt32
  | a :: b :: c :: d :: rest =>
      ((a.toUInt32 <<< 24) ||| (b.toUInt32 <<< 16) ||| (c.toUInt32 <<< 8) ||| d.toUInt32)
        :: wordsOf rest
  | _ => []

/-- The 64 words that a block of 64 bytes is expanded to. -/
def schedule (block : Bytes) : List UInt32 := (extend 48 (wordsOf block).reverse).reverse

def Chain.absorb (chain : Chain) (block : Bytes) : Chain :=
  ((roundConstants.zip (schedule block)).foldl Chain.round chain).add chain

/-- The `count` lowest bytes of a number, the most significant first. -/
def bigEndian : Nat → Nat → Bytes
  | 0, _ => []
  | count + 1, value => bigEndian count (value / 256) ++ [UInt8.ofNat (value % 256)]

/-- A message with a set bit, zeros up to eight bytes before the end of a block, and its length in
bits. -/
def padded (message : Bytes) : Bytes :=
  let zeros := (119 - message.length % 64) % 64
  message ++ 0x80 :: (List.replicate zeros 0 ++ bigEndian 8 (8 * message.length))

/-- The whole blocks of 64 bytes, in order, at most `count` of them. -/
def blocks : Nat → Bytes → List Bytes
  | 0, _ => []
  | count + 1, bytes => bytes.take 64 :: blocks count (bytes.drop 64)

/-- The digest of a message as eight words. -/
def sha256 (message : Bytes) : List UInt32 :=
  let bytes := padded message
  ((blocks (bytes.length / 64) bytes).foldl Chain.absorb Chain.start).words

def hexWord (word : UInt32) : Text :=
  [28, 24, 20, 16, 12, 8, 4, 0].map fun shift => Nat.digitChar ((word.toNat >>> shift) % 16)

/-- The checksum of a text: the digest of its UTF-8 bytes in hexadecimal digits. -/
def checksum (text : Text) : Text := (sha256 (Utf8.encode text)).flatMap hexWord

/-- A word is written with eight hexadecimal digits. -/
theorem length_hexWord (word : UInt32) : (hexWord word).length = 8 := by simp [hexWord]

/-- A checksum is written with sixty-four hexadecimal digits. -/
theorem length_checksum (text : Text) : (checksum text).length = 64 := by
  simp [checksum, sha256, Chain.words, length_hexWord]

end ThoughtJournal.Digest
