import SourceAudit.Number.Hexadecimal

/-!
  The SHA-256 digest. A message is padded to blocks of 64 bytes; each block
  changes a state of eight words, and the words of the last state are the
  digest. All arithmetic is on words of 32 bits.
-/
namespace SourceAudit
namespace Sha256

/-- The constants of the rounds: parts of the cube roots of the first 64 primes. -/
def roundConstants : List UInt32 := [
  0x428a2f98, 0x71374491, 0xb5c0fbcf, 0xe9b5dba5, 0x3956c25b, 0x59f111f1, 0x923f82a4, 0xab1c5ed5,
  0xd807aa98, 0x12835b01, 0x243185be, 0x550c7dc3, 0x72be5d74, 0x80deb1fe, 0x9bdc06a7, 0xc19bf174,
  0xe49b69c1, 0xefbe4786, 0x0fc19dc6, 0x240ca1cc, 0x2de92c6f, 0x4a7484aa, 0x5cb0a9dc, 0x76f988da,
  0x983e5152, 0xa831c66d, 0xb00327c8, 0xbf597fc7, 0xc6e00bf3, 0xd5a79147, 0x06ca6351, 0x14292967,
  0x27b70a85, 0x2e1b2138, 0x4d2c6dfc, 0x53380d13, 0x650a7354, 0x766a0abb, 0x81c2c92e, 0x92722c85,
  0xa2bfe8a1, 0xa81a664b, 0xc24b8b70, 0xc76c51a3, 0xd192e819, 0xd6990624, 0xf40e3585, 0x106aa070,
  0x19a4c116, 0x1e376c08, 0x2748774c, 0x34b0bcb5, 0x391c0cb3, 0x4ed8aa4a, 0x5b9cca4f, 0x682e6ff3,
  0x748f82ee, 0x78a5636f, 0x84c87814, 0x8cc70208, 0x90befffa, 0xa4506ceb, 0xbef9a3f7, 0xc67178f2]

/-- The state between two blocks. -/
structure State where
  a : UInt32
  b : UInt32
  c : UInt32
  d : UInt32
  e : UInt32
  f : UInt32
  g : UInt32
  h : UInt32
  deriving DecidableEq

/-- The state before the first block: parts of the square roots of the first eight primes. -/
def State.first : State :=
  ⟨0x6a09e667, 0xbb67ae85, 0x3c6ef372, 0xa54ff53a, 0x510e527f, 0x9b05688c, 0x1f83d9ab, 0x5be0cd19⟩

/-- The words of a state. -/
def State.words (s : State) : List UInt32 := [s.a, s.b, s.c, s.d, s.e, s.f, s.g, s.h]

/-- Two states added word by word. -/
def State.add (s t : State) : State :=
  ⟨s.a + t.a, s.b + t.b, s.c + t.c, s.d + t.d, s.e + t.e, s.f + t.f, s.g + t.g, s.h + t.h⟩

/-- A word turned to the right. -/
def turn (w : UInt32) (n : UInt32) : UInt32 := (w >>> n) ||| (w <<< (32 - n))

/-- One round with a constant and a word of the schedule. -/
def round (s : State) (k w : UInt32) : State :=
  let mixE := turn s.e 6 ^^^ turn s.e 11 ^^^ turn s.e 25
  let choice := (s.e &&& s.f) ^^^ (~~~s.e &&& s.g)
  let t := s.h + mixE + choice + k + w
  let mixA := turn s.a 2 ^^^ turn s.a 13 ^^^ turn s.a 22
  let majority := (s.a &&& s.b) ^^^ (s.a &&& s.c) ^^^ (s.b &&& s.c)
  ⟨t + mixA + majority, s.a, s.b, s.c, s.d + t, s.e, s.f, s.g⟩

/-- The next word of a schedule from the last sixteen, the oldest first. -/
def nextWord (last : List UInt32) : UInt32 :=
  let w := fun i => last.getD i 0
  let small := turn (w 1) 7 ^^^ turn (w 1) 18 ^^^ (w 1 >>> 3)
  let large := turn (w 14) 17 ^^^ turn (w 14) 19 ^^^ (w 14 >>> 10)
  w 0 + small + w 9 + large

/-- The rounds of a block; the words are the next sixteen of the schedule. -/
def rounds : List UInt32 → List UInt32 → State → State
  | [], _, s => s
  | k :: ks, window, s => rounds ks (window.drop 1 ++ [nextWord window]) (round s k (window.headD 0))

/-- A word of four bytes, the first one counting most. -/
def wordOf (bytes : List UInt8) : UInt32 := bytes.foldl (fun n b => n <<< 8 ||| b.toUInt32) 0

/-- Some things in groups of a size, the last one shorter if they run out. -/
def groupsOf {α : Type} (size : Nat) : (count : Nat) → List α → List (List α)
  | 0, _ => []
  | count + 1, xs => xs.take size :: groupsOf size count (xs.drop size)

/-- The state after one more block. -/
def absorb (s : State) (block : List UInt8) : State :=
  s.add (rounds roundConstants ((groupsOf 4 16 block).map wordOf) s)

/-- The eight bytes of a length in bits, the first one counting most. -/
def lengthBytes (bits : Nat) : List UInt8 :=
  (List.range 8).map fun i => UInt8.ofNat (bits / Nat.pow 256 (7 - i))

/-- A message padded to whole blocks: a set bit, zeros, and the length in bits. -/
def pad (message : List UInt8) : List UInt8 :=
  let n := message.length
  message ++ 0x80 :: List.replicate ((119 - n % 64) % 64) 0 ++ lengthBytes (8 * n)

/-- The digest of a message as the words of the last state. -/
def digest (message : List UInt8) : List UInt32 :=
  let padded := pad message
  ((groupsOf 64 (padded.length / 64) padded).foldl absorb State.first).words

/-- The digest of the UTF-8 form of a text, in hexadecimal digits. -/
def hex (s : String) : String :=
  String.ofList ((digest s.toUTF8.toList).flatMap fun w => Number.hexDigits 8 w.toNat)

end Sha256
end SourceAudit
