/-!
# Blocks of the ChaCha stream

The ChaCha stream cipher with twelve rounds, used as a generator: block `n` of the stream of a key
is sixteen words computed from the key and the number `n` alone.

## Main definitions

* `Sample.Key` — the eight words of a key.
* `Sample.block` — a block of the stream of a key.
-/

namespace PixelMath.Sample

/-- The words of a key. -/
abbrev Key : Type := Vector UInt32 8

/-- The words of a block. -/
abbrev Block : Type := Vector UInt32 16

/-- The bits of a word moved up by `n`, those that leave at the top entering at the bottom. -/
def rotateLeft (x n : UInt32) : UInt32 :=
  (x <<< n) ||| (x >>> (32 - n))

/-- One addition to a word and one mix of the sum into another word. -/
def mix (s : Block) (a b d : Fin 16) (n : UInt32) : Block :=
  let sum := s.get a + s.get b
  (s.set a sum).set d (rotateLeft (s.get d ^^^ sum) n)

/-- A quarter round on four words. -/
def quarterRound (s : Block) (a b c d : Fin 16) : Block :=
  let s := mix s a b d 16
  let s := mix s c d b 12
  let s := mix s a b d 8
  mix s c d b 7

/-- A round on the columns of the four by four words, and one on the diagonals. -/
def doubleRound (s : Block) : Block :=
  let s := quarterRound s 0 4 8 12
  let s := quarterRound s 1 5 9 13
  let s := quarterRound s 2 6 10 14
  let s := quarterRound s 3 7 11 15
  let s := quarterRound s 0 5 10 15
  let s := quarterRound s 1 6 11 12
  let s := quarterRound s 2 7 8 13
  quarterRound s 3 4 9 14

/-- The words that every block starts with. -/
def constants : Vector UInt32 4 :=
  #v[0x61707865, 0x3320646E, 0x79622D32, 0x6B206574]

/-- The words a block starts from: four constants, the key, the number of the block in two words,
and two zeros. -/
def initial (key : Key) (number : UInt64) : Block :=
  constants ++ key ++ (#v[number.toUInt32, (number >>> 32).toUInt32, 0, 0] : Vector UInt32 4)

/-- Block `number` of the stream: twelve rounds on the initial words, added to these. -/
def block (key : Key) (number : UInt64) : Block :=
  let start := initial key number
  Vector.zipWith (· + ·) (Nat.repeat doubleRound 6 start) start

end PixelMath.Sample
