import CertApproval.Bytes

/-!
The second family of secure hash algorithms: 224, 256, 384 and 512 bits. The
constants are the leading bits of the fractional parts of roots of the first primes,
and are computed as such.
-/

namespace CertApproval.Crypto

/-- The hash functions that signatures use. -/
inductive Digest where
  | sha224
  | sha256
  | sha384
  | sha512
  deriving DecidableEq, Repr

namespace Digest

def size : Digest → Nat
  | sha224 => 28
  | sha256 => 32
  | sha384 => 48
  | sha512 => 64

/-- Whether no smaller number from two on divides `n`. -/
def isPrime (n : Nat) : Bool :=
  2 ≤ n && (List.range n).all fun d => d < 2 || n % d ≠ 0

def firstPrimes : List Nat := (List.range 410).filter isPrime

/-- The largest number whose power does not exceed `value`, found bit by bit from
`2 ^ bits` down. -/
def rootFrom (degree value : Nat) : (bits : Nat) → (root : Nat) → Nat
  | 0, root => root
  | bits + 1, root =>
    let candidate := root + Nat.pow 2 bits
    rootFrom degree value bits (if Nat.pow candidate degree ≤ value then candidate else root)

/-- The first 64 bits of the fractional part of a root of a number below 512. -/
def rootFraction (degree n : Nat) : Nat :=
  rootFrom degree (n * Nat.pow 2 (64 * degree)) 73 0 % Nat.pow 2 64

/-- The round constants on words of 64 bits. -/
def roundConstants64 : List Nat := firstPrimes.map (rootFraction 3)

/-- The round constants on words of 32 bits: the upper halves of the first 64. -/
def roundConstants32 : List Nat := (roundConstants64.take 64).map (· / Nat.pow 2 32)

/-- Fractions of square roots of the first eight primes. -/
def squareRoots : List Nat := (firstPrimes.take 8).map (rootFraction 2)

/-- Fractions of square roots of the ninth to the sixteenth prime. -/
def laterSquareRoots : List Nat := ((firstPrimes.drop 8).take 8).map (rootFraction 2)

/-- The amounts by which one of the mixing functions rotates a word. The last amount
shifts instead of rotating where `shiftsLast` is set. -/
structure Mixing where
  first : Nat
  second : Nat
  last : Nat
  shiftsLast : Bool

/-- The functions on words that the two word sizes use. -/
structure Family where
  wordBits : Nat
  roundConstants : List Nat
  bigZero : Mixing
  bigOne : Mixing
  smallZero : Mixing
  smallOne : Mixing

/-- The family on words of 32 bits. -/
def family32 : Family where
  wordBits := 32
  roundConstants := roundConstants32
  bigZero := ⟨2, 13, 22, false⟩
  bigOne := ⟨6, 11, 25, false⟩
  smallZero := ⟨7, 18, 3, true⟩
  smallOne := ⟨17, 19, 10, true⟩

/-- The family on words of 64 bits. -/
def family64 : Family where
  wordBits := 64
  roundConstants := roundConstants64
  bigZero := ⟨28, 34, 39, false⟩
  bigOne := ⟨14, 18, 41, false⟩
  smallZero := ⟨1, 8, 7, true⟩
  smallOne := ⟨19, 61, 6, true⟩

namespace Family

def rotate (family : Family) (word amount : Nat) : Nat :=
  word / Nat.pow 2 amount + word % Nat.pow 2 amount * Nat.pow 2 (family.wordBits - amount)

/-- A mixing function applied to a word. -/
def mix (family : Family) (mixing : Mixing) (word : Nat) : Nat :=
  family.rotate word mixing.first ^^^ family.rotate word mixing.second ^^^
    (if mixing.shiftsLast then word / Nat.pow 2 mixing.last else family.rotate word mixing.last)

/-- A sum cut to the word size. -/
def cut (family : Family) (sum : Nat) : Nat := sum % Nat.pow 2 family.wordBits

/-- Extends the schedule, held in reverse, by further words. -/
def schedule (family : Family) : (count : Nat) → (reversed : List Nat) → List Nat
  | 0, reversed => reversed
  | count + 1, reversed =>
    let word := family.cut (family.mix family.smallOne (reversed.getD 1 0) + reversed.getD 6 0 +
      family.mix family.smallZero (reversed.getD 14 0) + reversed.getD 15 0)
    schedule family count (word :: reversed)

structure Working where
  a : Nat
  b : Nat
  c : Nat
  d : Nat
  e : Nat
  f : Nat
  g : Nat
  h : Nat

def round (family : Family) (s : Working) (input : Nat × Nat) : Working :=
  let choice := (s.e &&& s.f) ^^^ ((Nat.pow 2 family.wordBits - 1 - s.e) &&& s.g)
  let majority := (s.a &&& s.b) ^^^ (s.a &&& s.c) ^^^ (s.b &&& s.c)
  let first := s.h + family.mix family.bigOne s.e + choice + input.1 + input.2
  let second := family.mix family.bigZero s.a + majority
  ⟨family.cut (first + second), s.a, s.b, s.c, family.cut (s.d + first), s.e, s.f, s.g⟩

/-- The state after one block of sixteen words. -/
def compress (family : Family) (state block : List Nat) : List Nat :=
  let words := (family.schedule (family.roundConstants.length - 16) block.reverse).reverse
  let start : Working := ⟨state.getD 0 0, state.getD 1 0, state.getD 2 0, state.getD 3 0,
    state.getD 4 0, state.getD 5 0, state.getD 6 0, state.getD 7 0⟩
  let s := (family.roundConstants.zip words).foldl family.round start
  List.zipWith (fun before after => family.cut (before + after)) state
    [s.a, s.b, s.c, s.d, s.e, s.f, s.g, s.h]

def blockSize (family : Family) : Nat := family.wordBits * 2

/-- A message with the mark of its end, zeros, and its length in bits. -/
def pad (family : Family) (message : Bytes) : Bytes :=
  let lengthSize := family.wordBits / 4
  let used := (message.length + 1 + lengthSize) % family.blockSize
  message ++ [0x80] ++ List.replicate ((family.blockSize - used) % family.blockSize) 0 ++
    Bytes.ofNat lengthSize (message.length * 8)

/-- Cuts a list into pieces of a given size. -/
def pieces (size : Nat) : (fuel : Nat) → Bytes → List Bytes
  | 0, _ => []
  | fuel + 1, bytes =>
    if bytes.isEmpty then [] else bytes.take size :: pieces size fuel (bytes.drop size)

def words (family : Family) (block : Bytes) : List Nat :=
  (pieces (family.wordBits / 8) block.length block).map Bytes.toNat

/-- The final state on a message. -/
def run (family : Family) (initial : List Nat) (message : Bytes) : List Nat :=
  let padded := family.pad message
  (pieces family.blockSize padded.length padded).foldl
    (fun state block => family.compress state (family.words block)) initial

end Family

def family : Digest → Family
  | sha224 | sha256 => family32
  | sha384 | sha512 => family64

/-- The words that a hash function starts from. -/
def initial : Digest → List Nat
  | sha224 => laterSquareRoots.map (· % Nat.pow 2 32)
  | sha256 => squareRoots.map (· / Nat.pow 2 32)
  | sha384 => laterSquareRoots
  | sha512 => squareRoots

def hash (digest : Digest) (message : Bytes) : Bytes :=
  let family := digest.family
  ((family.run digest.initial message).flatMap (Bytes.ofNat (family.wordBits / 8))).take digest.size

end Digest

end CertApproval.Crypto
