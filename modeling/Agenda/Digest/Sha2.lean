import Agenda.Text.Utf8
/-!
# The SHA-2 digests

SHA-256 and SHA-512 differ only in the width of their words, the number of rounds and some constants.
Both are given here by one definition over words of `w` bits.

* `Sha2` — the parameters of a digest; `sha256`, `sha512` — the two digests in use.
* `Sha2.pad` — the message with a single one bit, zeros and its length, filling whole blocks.
* `Sha2.digest` — the digest of a byte sequence.
* `hexText` — bytes in lower-case hexadecimal digits.
-/

namespace Agenda

/-- The eight words that a digest works on. -/
structure Sha2State (w : Nat) where
  a : BitVec w
  b : BitVec w
  c : BitVec w
  d : BitVec w
  e : BitVec w
  f : BitVec w
  g : BitVec w
  h : BitVec w

/-- The parameters of a digest over words of `w` bits. -/
structure Sha2 (w : Nat) where
  /-- Rotations of the sum over the word `a`. -/
  sumA : Nat × Nat × Nat
  /-- Rotations of the sum over the word `e`. -/
  sumE : Nat × Nat × Nat
  /-- Two rotations and a shift of the schedule's earlier word. -/
  early : Nat × Nat × Nat
  /-- Two rotations and a shift of the schedule's later word. -/
  late : Nat × Nat × Nat
  constants : List (BitVec w)
  initial : Sha2State w

namespace Sha2

variable {w : Nat}

def blockBytes (_ : Sha2 w) : Nat := 2 * w

def rotations (by3 : Nat × Nat × Nat) (x : BitVec w) : BitVec w :=
  x.rotateRight by3.1 ^^^ x.rotateRight by3.2.1 ^^^ x.rotateRight by3.2.2

/-- Two rotations and a shift of a word, added without carry. -/
def rotationsShift (by3 : Nat × Nat × Nat) (x : BitVec w) : BitVec w :=
  x.rotateRight by3.1 ^^^ x.rotateRight by3.2.1 ^^^ (x >>> by3.2.2)

/-- The number that bytes denote, most significant first. -/
def bigEndian (bytes : Bytes) : Nat :=
  bytes.foldl (fun n b => 256 * n + b.toNat) 0

def toBigEndian (count n : Nat) : Bytes :=
  (List.range count).map fun i => UInt8.ofNat (n >>> (8 * (count - 1 - i)))

def pieces (size : Nat) : (count : Nat) → Bytes → List Bytes
  | 0, _ => []
  | count + 1, bytes => bytes.take size :: pieces size count (bytes.drop size)

/-- The message followed by a one bit, zeros up to the last two words of a block, and its length in
bits in these two words. -/
def pad (s : Sha2 w) (message : Bytes) : Bytes :=
  let tail := w / 4
  let zeros := (2 * s.blockBytes - 1 - tail - message.length % s.blockBytes) % s.blockBytes
  message ++ (0x80 : UInt8) :: (List.replicate zeros 0 ++ toBigEndian tail (8 * message.length))

/-- The words of the rounds, made from a window of the sixteen latest ones. -/
def schedule (s : Sha2 w) : (count : Nat) → (window : List (BitVec w)) → List (BitVec w)
  | 0, _ => []
  | _ + 1, [] => []
  | count + 1, x :: rest =>
      let next := rotationsShift s.late (rest.getD 13 0) + rest.getD 8 0
        + rotationsShift s.early (rest.getD 0 0) + x
      x :: schedule s count (rest ++ [next])

def round (s : Sha2 w) (t : Sha2State w) (constant word : BitVec w) : Sha2State w :=
  let choice := (t.e &&& t.f) ^^^ (~~~t.e &&& t.g)
  let majority := (t.a &&& t.b) ^^^ (t.a &&& t.c) ^^^ (t.b &&& t.c)
  let mixed := t.h + rotations s.sumE t.e + choice + constant + word
  { a := mixed + (rotations s.sumA t.a + majority)
    b := t.a
    c := t.b
    d := t.c
    e := t.d + mixed
    f := t.e
    g := t.f
    h := t.g }

/-- The state after a block: the rounds over it, added to the state before it. -/
def compress (s : Sha2 w) (t : Sha2State w) (block : Bytes) : Sha2State w :=
  let words := (pieces (w / 8) 16 block).map fun piece => BitVec.ofNat w (bigEndian piece)
  let pairs := s.constants.zip (schedule s s.constants.length words)
  let u := pairs.foldl (fun u pair => round s u pair.1 pair.2) t
  ⟨t.a + u.a, t.b + u.b, t.c + u.c, t.d + u.d, t.e + u.e, t.f + u.f, t.g + u.g, t.h + u.h⟩

def digest (s : Sha2 w) (message : Bytes) : Bytes :=
  let padded := s.pad message
  let t := (pieces s.blockBytes (padded.length / s.blockBytes) padded).foldl (compress s) s.initial
  [t.a, t.b, t.c, t.d, t.e, t.f, t.g, t.h].flatMap fun x => toBigEndian (w / 8) x.toNat

end Sha2

/-- The constants of SHA-256: the first 32 fraction bits of the cube roots of the first 64 primes. -/
def sha256Constants : List (BitVec 32) :=
  [0x428a2f98, 0x71374491, 0xb5c0fbcf, 0xe9b5dba5, 0x3956c25b, 0x59f111f1, 0x923f82a4,
   0xab1c5ed5, 0xd807aa98, 0x12835b01, 0x243185be, 0x550c7dc3, 0x72be5d74, 0x80deb1fe,
   0x9bdc06a7, 0xc19bf174, 0xe49b69c1, 0xefbe4786, 0x0fc19dc6, 0x240ca1cc, 0x2de92c6f,
   0x4a7484aa, 0x5cb0a9dc, 0x76f988da, 0x983e5152, 0xa831c66d, 0xb00327c8, 0xbf597fc7,
   0xc6e00bf3, 0xd5a79147, 0x06ca6351, 0x14292967, 0x27b70a85, 0x2e1b2138, 0x4d2c6dfc,
   0x53380d13, 0x650a7354, 0x766a0abb, 0x81c2c92e, 0x92722c85, 0xa2bfe8a1, 0xa81a664b,
   0xc24b8b70, 0xc76c51a3, 0xd192e819, 0xd6990624, 0xf40e3585, 0x106aa070, 0x19a4c116,
   0x1e376c08, 0x2748774c, 0x34b0bcb5, 0x391c0cb3, 0x4ed8aa4a, 0x5b9cca4f, 0x682e6ff3,
   0x748f82ee, 0x78a5636f, 0x84c87814, 0x8cc70208, 0x90befffa, 0xa4506ceb, 0xbef9a3f7,
   0xc67178f2]

/-- The constants of SHA-512: the first 64 fraction bits of the cube roots of the first 80 primes. -/
def sha512Constants : List (BitVec 64) :=
  [0x428a2f98d728ae22, 0x7137449123ef65cd, 0xb5c0fbcfec4d3b2f, 0xe9b5dba58189dbbc,
   0x3956c25bf348b538, 0x59f111f1b605d019, 0x923f82a4af194f9b, 0xab1c5ed5da6d8118,
   0xd807aa98a3030242, 0x12835b0145706fbe, 0x243185be4ee4b28c, 0x550c7dc3d5ffb4e2,
   0x72be5d74f27b896f, 0x80deb1fe3b1696b1, 0x9bdc06a725c71235, 0xc19bf174cf692694,
   0xe49b69c19ef14ad2, 0xefbe4786384f25e3, 0x0fc19dc68b8cd5b5, 0x240ca1cc77ac9c65,
   0x2de92c6f592b0275, 0x4a7484aa6ea6e483, 0x5cb0a9dcbd41fbd4, 0x76f988da831153b5,
   0x983e5152ee66dfab, 0xa831c66d2db43210, 0xb00327c898fb213f, 0xbf597fc7beef0ee4,
   0xc6e00bf33da88fc2, 0xd5a79147930aa725, 0x06ca6351e003826f, 0x142929670a0e6e70,
   0x27b70a8546d22ffc, 0x2e1b21385c26c926, 0x4d2c6dfc5ac42aed, 0x53380d139d95b3df,
   0x650a73548baf63de, 0x766a0abb3c77b2a8, 0x81c2c92e47edaee6, 0x92722c851482353b,
   0xa2bfe8a14cf10364, 0xa81a664bbc423001, 0xc24b8b70d0f89791, 0xc76c51a30654be30,
   0xd192e819d6ef5218, 0xd69906245565a910, 0xf40e35855771202a, 0x106aa07032bbd1b8,
   0x19a4c116b8d2d0c8, 0x1e376c085141ab53, 0x2748774cdf8eeb99, 0x34b0bcb5e19b48a8,
   0x391c0cb3c5c95a63, 0x4ed8aa4ae3418acb, 0x5b9cca4f7763e373, 0x682e6ff3d6b2b8a3,
   0x748f82ee5defb2fc, 0x78a5636f43172f60, 0x84c87814a1f0ab72, 0x8cc702081a6439ec,
   0x90befffa23631e28, 0xa4506cebde82bde9, 0xbef9a3f7b2c67915, 0xc67178f2e372532b,
   0xca273eceea26619c, 0xd186b8c721c0c207, 0xeada7dd6cde0eb1e, 0xf57d4f7fee6ed178,
   0x06f067aa72176fba, 0x0a637dc5a2c898a6, 0x113f9804bef90dae, 0x1b710b35131c471b,
   0x28db77f523047d84, 0x32caab7b40c72493, 0x3c9ebe0a15c9bebc, 0x431d67c49c100d4c,
   0x4cc5d4becb3e42b6, 0x597f299cfc657e2a, 0x5fcb6fab3ad6faec, 0x6c44198c4a475817]

def sha256 : Sha2 32 where
  sumA := (2, 13, 22)
  sumE := (6, 11, 25)
  early := (7, 18, 3)
  late := (17, 19, 10)
  constants := sha256Constants
  initial := ⟨0x6a09e667, 0xbb67ae85, 0x3c6ef372, 0xa54ff53a,
    0x510e527f, 0x9b05688c, 0x1f83d9ab, 0x5be0cd19⟩

def sha512 : Sha2 64 where
  sumA := (28, 34, 39)
  sumE := (14, 18, 41)
  early := (1, 8, 7)
  late := (19, 61, 6)
  constants := sha512Constants
  initial := ⟨0x6a09e667f3bcc908, 0xbb67ae8584caa73b, 0x3c6ef372fe94f82b, 0xa54ff53a5f1d36f1,
    0x510e527fade682d1, 0x9b05688c2b3e6c1f, 0x1f83d9abfb41bd6b, 0x5be0cd19137e2179⟩

def hexText (bytes : Bytes) : String :=
  String.ofList (bytes.flatMap fun b =>
    [Nat.digitChar (b.toNat / 16), Nat.digitChar (b.toNat % 16)])

end Agenda
